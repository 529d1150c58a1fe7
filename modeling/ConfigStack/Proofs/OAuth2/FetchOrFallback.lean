import ConfigStack.Proofs.OAuth2.Assembled
import ConfigStack.Proofs.OAuth2.DiscoveredEndpoints
import ConfigStack.Proofs.OAuth2.Procedure

/-!
# Fetch or fall back

What a set-up does depends on four things: whether there is an issuer, how it reads, whether it has
a discovery URL, and what the client answers there. `FetchOrFallback` says for each case how the
procedure ends, which request it makes, and what it leaves in the environment and in the log. Only
two things can happen to environment and log together (`all_or_nothing`): the layers of some
metadata and two records are added, or nothing is. The requests come first and are never undone.
-/
namespace ConfigStack.OAuth2

open Oidc (Client DiscoveryError Document DomainClassifier Metadata Trail)

/-! ### The outcome -/

/-- Why there is no document at a URL where the defaults serve as well. -/
inductive NoDocument (client : Client) (url : Url) : DiscoveryError → Prop
  | unreachable {reason : String} : client url = .error (.unreachable reason) →
      NoDocument client url (.unreachable reason)
  | malformed {reason : String} : client url = .error (.malformed reason) →
      NoDocument client url (.malformed reason)
  | refused {json : Json} {e : DiscoveryError} : client url = .ok json →
      Document.ofJson json = .error e → NoDocument client url e

/-- The failures of a client that end the set-up. -/
inductive Fatal : DiscoveryError → Prop
  | status (code : UInt16) : Fatal (.status code)
  | client (reason : String) : Fatal (.client reason)
  | invalidIssuer (reason : String) : Fatal (.invalidIssuer reason)

theorem recoverable_of_refused {json : Json} {e : DiscoveryError}
    (refused : Document.ofJson json = .error e) : e.isRecoverable = true := by
  unfold Document.ofJson at refused
  split at refused
  next members =>
    cases read : Document.readMembers (.object members) with
    | ok document =>
      rw [read] at refused
      cases refused
    | error cause =>
      rw [read] at refused
      cases refused
      rfl
  next =>
    cases refused
    rfl

theorem NoDocument.recoverable {client : Client} {url : Url} {e : DiscoveryError}
    (without : NoDocument client url e) :
    Oidc.fetchDocument client url = .error e ∧ e.isRecoverable = true := by
  rw [fetchDocument_eq]
  cases without with
  | unreachable answer => exact ⟨by rw [answer]; rfl, rfl⟩
  | malformed answer => exact ⟨by rw [answer]; rfl, rfl⟩
  | refused answer refused => exact ⟨by rw [answer]; exact refused, recoverable_of_refused refused⟩

theorem Fatal.not_recoverable {e : DiscoveryError} (fatal : Fatal e) : e.isRecoverable = false := by
  cases fatal <;> rfl

def Workspace.warnings (w : Workspace) : List LogRecord :=
  w.log.records.filter fun record => record.level = .warn

/-- The procedure succeeded, with the layers of the metadata behind all that was there. -/
def Installed (m : Metadata) (before after : Workspace) (result : Except ConfigError Unit) : Prop :=
  result = .ok () ∧
    after.env =
      { before.env with sources := before.env.sources ++ (derivedLayers m).map .layer }

/-- How the procedure with the client answers to what it finds. -/
structure FetchOrFallback (client : Client) (before after : Workspace)
    (result : Except ConfigError Unit) : Prop where
  /-- There is at most one request. -/
  requests : ∃ urls : List Url, urls.length ≤ 1 ∧ after.requests = before.requests ++ urls
  /-- Without an issuer there is no request, and the fallback is installed. -/
  absent : before.env.contains Vendor.issuer = some false →
    after.requests = before.requests ∧ after.warnings = before.warnings ∧
      Installed (.fallback Vendor.issuerWithPath) before after result
  /-- An issuer that is there and does not read as text ends the procedure without a request. -/
  unreadable : ∀ e, before.env.contains Vendor.issuer = some true →
    before.env.getResolved (.scalar .text) Vendor.issuer = throw e →
    after.requests = before.requests ∧ result = .error e
  /-- So does one without a discovery URL. -/
  unlocated : ∀ (issuer : String) e,
    before.env.getResolved (.scalar .text) Vendor.issuer = pure issuer →
    Oidc.discoveryUrl issuer = .error e →
    after.requests = before.requests ∧ result = .error e.toConfigError
  /-- In every other case the discovery URL is requested. -/
  requested : ∀ (issuer : String) url,
    before.env.getResolved (.scalar .text) Vendor.issuer = pure issuer →
    Oidc.discoveryUrl issuer = .ok url → after.requests = before.requests ++ [url]
  /-- With no document there, the same is installed as without an issuer, with one warning. -/
  fallsBack : ∀ (issuer : String) url e,
    before.env.getResolved (.scalar .text) Vendor.issuer = pure issuer →
    Oidc.discoveryUrl issuer = .ok url → NoDocument client url e →
    Installed (.fallback Vendor.issuerWithPath) before after result ∧
      after.warnings = before.warnings ++ [Oidc.failureRecord url e]
  /-- The other failures of the client end the procedure. -/
  aborts : ∀ (issuer : String) url e,
    before.env.getResolved (.scalar .text) Vendor.issuer = pure issuer →
    Oidc.discoveryUrl issuer = .ok url → client url = .error e → Fatal e →
    result = .error e.toConfigError
  /-- A document is what the layers are made for. -/
  discovers : ∀ (issuer : String) url json document,
    before.env.getResolved (.scalar .text) Vendor.issuer = pure issuer →
    Oidc.discoveryUrl issuer = .ok url → client url = .ok json →
    Document.ofJson json = .ok document →
    after.warnings = before.warnings ∧
      ∃ classifier, configuredClassifier before.env = some classifier ∧
        Installed (.discovered document (classifier.classify issuer document) Vendor.issuerWithPath)
          before after result
  /-- A failure leaves environment and log as they were. -/
  failed : ∀ e, result = .error e → after.env = before.env ∧ after.log = before.log
  /-- A success adds layers and two records, of the discovery and of the layers. -/
  succeeded : result = .ok () → ∃ m record, Installed m before after result ∧
    after.log.records = before.log.records ++ [record, installRecord m]

/-! ### Reaching it -/

section Outcome

variable {client : Client} {before after : Workspace} {result : Except ConfigError Unit}

/-- Whatever comes of the procedure, but for the requests it is all or nothing. -/
theorem all_or_nothing (reached : (procedure client).on before = some (result, after)) :
    ∃ urls : List Url, urls.length ≤ 1 ∧
      ((∃ e, result = .error e ∧ after = { before with requests := before.requests ++ urls }) ∨
        ∃ m record, result = .ok () ∧ after =
          { env := install (derivedLayers m) before.env
            log := ⟨before.log.records ++ [record, installRecord m]⟩
            requests := before.requests ++ urls }) := by
  -- The readings can fail and change nothing, so what matters is the trail of the fetch.
  rcases readIssuer : before.env.getOptional (.scalar .text) Vendor.issuer with _ | e | issuer
  · rw [on_procedure, setUp, readSetup, readIssuer] at reached
    cases reached
  · rw [on_procedure_of_unreadable readIssuer] at reached
    cases reached
    exact ⟨[], Nat.zero_le 1, .inl ⟨e, rfl, by rw [List.append_nil]⟩⟩
  · cases readClassifier : configuredClassifier before.env with
    | none =>
      rw [on_procedure, setUp, readSetup, readIssuer, readClassifier] at reached
      cases reached
    | some classifier =>
      rw [on_procedure_of_read readIssuer readClassifier] at reached
      have trail := trail_fetch client classifier Vendor.issuerWithPath issuer
      generalize Oidc.fetch client classifier Vendor.issuerWithPath issuer = fetched
        at reached trail
      obtain ⟨outcome, records, requests, events⟩ := fetched
      obtain ⟨⟨e, rfl, rfl⟩ | ⟨m, record, rfl, rfl⟩, few⟩ := trail
      · rw [concluding_error] at reached
        cases reached
        exact ⟨requests, few, .inl ⟨_, rfl, by simp only [Workspace.reporting, List.append_nil]⟩⟩
      · rw [concluding_ok] at reached
        cases reached
        exact ⟨requests, few, .inr ⟨m, record, rfl, rfl⟩⟩

section Fetched

variable {classifier : DomainClassifier} {issuer : Option String} {trail : Trail}
  (reached : (procedure client).on before = some (result, after))
  (readIssuer : before.env.getOptional (.scalar .text) Vendor.issuer = pure issuer)
  (readClassifier : configuredClassifier before.env = some classifier)

include reached readIssuer readClassifier

theorem reached_of_metadata {m : Metadata}
    (fetched : Oidc.fetch client classifier Vendor.issuerWithPath issuer = ⟨.ok m, trail⟩) :
    Installed m before after result ∧
      after.log.records = before.log.records ++ (trail.records ++ [installRecord m]) := by
  rw [on_procedure_of_read readIssuer readClassifier, fetched, concluding_ok] at reached
  cases reached
  exact ⟨⟨rfl, install_eq _ _⟩, rfl⟩

theorem reached_of_failure {e : DiscoveryError}
    (fetched : Oidc.fetch client classifier Vendor.issuerWithPath issuer = ⟨.error e, trail⟩) :
    result = .error e.toConfigError := by
  rw [on_procedure_of_read readIssuer readClassifier, fetched, concluding_error] at reached
  cases reached
  rfl

theorem reached_requests {urls : List Url}
    (requested :
      (Oidc.fetch client classifier Vendor.issuerWithPath issuer).trail.requests = urls) :
    after.requests = before.requests ++ urls := by
  rw [on_procedure_of_read readIssuer readClassifier] at reached
  subst requested
  generalize Oidc.fetch client classifier Vendor.issuerWithPath issuer = fetched at reached ⊢
  obtain ⟨outcome, trail⟩ := fetched
  cases outcome with
  | error e =>
    rw [concluding_error] at reached
    cases reached
    rfl
  | ok m =>
    rw [concluding_ok] at reached
    cases reached
    rfl

end Fetched

end Outcome

theorem warnings_of_installed {before after : Workspace} {record : LogRecord} {m : Metadata}
    (added : after.log.records = before.log.records ++ ([record] ++ [installRecord m])) :
    after.warnings = before.warnings ++ [record].filter fun record => record.level = .warn := by
  rw [Workspace.warnings, added, List.filter_append, List.filter_append]
  -- The record of the layers is no warning.
  exact congrArg _ (List.append_nil _)

theorem readIssuer_of_resolved {env : Environment} {issuer : String}
    (gives : env.getResolved (.scalar .text) Vendor.issuer = pure issuer) :
    env.getOptional (.scalar .text) Vendor.issuer =
      (pure (some issuer) : Reading (Option String)) :=
  Environment.getOptional_of_read gives

theorem outcome_of_reached {client : Client} {before after : Workspace}
    {result : Except ConfigError Unit} {classifier : DomainClassifier}
    (reached : (procedure client).on before = some (result, after))
    (readClassifier : configuredClassifier before.env = some classifier) :
    FetchOrFallback client before after result where
  requests := by
    obtain ⟨urls, few, ⟨e, -, rfl⟩ | ⟨m, record, -, rfl⟩⟩ := all_or_nothing reached
    · exact ⟨urls, few, rfl⟩
    · exact ⟨urls, few, rfl⟩
  absent := by
    intro missing
    have absent := Environment.property_of_not_contains missing
    have readIssuer := Environment.getOptional_of_absent absent (.scalar .text)
    obtain ⟨installed, added⟩ := reached_of_metadata reached readIssuer readClassifier rfl
    have requests := reached_requests reached readIssuer readClassifier rfl
    exact ⟨requests.trans (List.append_nil _),
      (warnings_of_installed added).trans (List.append_nil _), installed⟩
  unreadable := by
    intro e there fails
    obtain ⟨v, held⟩ := Environment.property_of_contains there
    -- Only a missing key reads as none, and the issuer is there.
    rw [on_procedure_of_unreadable (Environment.getOptional_of_refused held fails)] at reached
    cases reached
    exact ⟨rfl, rfl⟩
  unlocated := by
    intro issuer e gives unlocated
    have readIssuer := readIssuer_of_resolved gives
    have requests := reached_requests reached readIssuer readClassifier
      (congrArg (·.trail.requests) (fetch_of_unlocated unlocated))
    have failure := reached_of_failure reached readIssuer readClassifier
      (fetch_of_unlocated unlocated)
    exact ⟨requests.trans (List.append_nil _), failure⟩
  requested := by
    intro issuer url gives located
    exact reached_requests reached (readIssuer_of_resolved gives) readClassifier
      (requests_fetch located client classifier Vendor.issuerWithPath)
  fallsBack := by
    intro issuer url e gives located without
    have readIssuer := readIssuer_of_resolved gives
    obtain ⟨fails, recoverable⟩ := without.recoverable
    obtain ⟨installed, added⟩ := reached_of_metadata reached readIssuer readClassifier
      (fetch_of_recoverable located fails recoverable)
    exact ⟨installed, warnings_of_installed added⟩
  aborts := by
    intro issuer url e gives located answer fatal
    have fails : Oidc.fetchDocument client url = .error e := by
      rw [Oidc.fetchDocument, answer]
    exact reached_of_failure reached (readIssuer_of_resolved gives) readClassifier
      (fetch_of_fatal located fails fatal.not_recoverable)
  discovers := by
    intro issuer url json document gives located answer accepted
    have readIssuer := readIssuer_of_resolved gives
    have fetched : Oidc.fetchDocument client url = .ok document := by
      rw [Oidc.fetchDocument, answer]
      exact accepted
    obtain ⟨installed, added⟩ := reached_of_metadata reached readIssuer readClassifier
      (fetch_of_document located fetched)
    exact ⟨(warnings_of_installed added).trans (List.append_nil _), classifier, readClassifier,
      installed⟩
  -- The last two hold of every outcome, whatever the issuer and the client are.
  failed := by
    rintro e rfl
    obtain ⟨urls, -, ⟨e, -, rfl⟩ | ⟨m, record, success, -⟩⟩ := all_or_nothing reached
    · exact ⟨rfl, rfl⟩
    · cases success
  succeeded := by
    rintro rfl
    obtain ⟨urls, -, ⟨e, failure, -⟩ | ⟨m, record, -, rfl⟩⟩ := all_or_nothing reached
    · cases failure
    · exact ⟨m, record, ⟨rfl, install_eq _ _⟩, rfl⟩

section Ending

variable {before : Workspace} (ends : before.env.LookupsEnd)

include ends

theorem configuredClassifier_ends :
    ∃ classifier, configuredClassifier before.env = some classifier := by
  obtain ⟨domains, held⟩ := ends Vendor.alternateDomains
  rw [configuredClassifier, held]
  exact ⟨_, rfl⟩

theorem procedure_ends (client : Client) :
    ∃ result after, (procedure client).on before = some (result, after) := by
  obtain ⟨classifier, readClassifier⟩ := configuredClassifier_ends ends
  obtain ⟨text, resolves⟩ :=
    Environment.readResolved_ends (convert (.scalar .text)) ends Vendor.issuer
  rcases readIssuer : before.env.getOptional (.scalar .text) Vendor.issuer with _ | e | issuer
  · rw [← Environment.getResolved_eq] at resolves
    rw [Environment.getOptional, resolves] at readIssuer
    cases readIssuer
  · exact ⟨_, _, on_procedure_of_unreadable readIssuer⟩
  · exact ⟨_, _, on_procedure_of_read readIssuer readClassifier⟩

end Ending

/-- **Fetch or fall back.** Where every lookup ends, so does the procedure of the set-up, with
whatever client. It does what the set-up as a whole does, and its outcome is the one for what the
issuer is and what the client answers. -/
theorem fetch_or_fallback (client : Client) (before : Workspace)
    (ends : before.env.LookupsEnd) :
    ∃ result after, (procedure client).on before = some (result, after) ∧
      (setUp (.given client) before.env).map before.concluding = some (result, after) ∧
      FetchOrFallback client before after result := by
  obtain ⟨classifier, readClassifier⟩ := configuredClassifier_ends ends
  obtain ⟨result, after, reached⟩ := procedure_ends ends client
  have whole := (on_procedure client before).symm.trans reached
  exact ⟨result, after, reached, whole, outcome_of_reached reached readClassifier⟩

/-- A server that is reached and answers with a status aborts, after one request. -/
theorem fetch_or_fallback_of_status :
    issuerOnly.LookupsEnd ∧
      ∃ e after, (procedure fun _ => .error (.status 500)).on ⟨issuerOnly, {}, []⟩ =
          some (.error e, after) ∧
        after.env = issuerOnly ∧ after.log = {} ∧ after.requests.length = 1 := by
  have ends := static_issuerOnly.fixed.lookupsEnd
  obtain ⟨result, after, reached, -, outcome⟩ :=
    fetch_or_fallback (fun _ => .error (.status 500)) ⟨issuerOnly, {}, []⟩ ends
  obtain ⟨url, located⟩ := exists_discoveryUrl
  have failure := outcome.aborts plainIssuer url _ getResolved_issuerOnly located rfl (.status 500)
  obtain ⟨env, log⟩ := outcome.failed _ failure
  refine ⟨ends, _, after, failure ▸ reached, env, log, ?_⟩
  rw [outcome.requested plainIssuer url getResolved_issuerOnly located]
  rfl

end ConfigStack.OAuth2
