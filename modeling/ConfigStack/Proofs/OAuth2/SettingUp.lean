import ConfigStack.OAuth2.Setup
import ConfigStack.Proofs.Configured

/-!
# What a set-up comes to

A set-up with a given client reads the issuer and the classifier, fetches metadata for them, and
installs the layers of what is fetched. A fetch has one of five courses, and there is one equation
for each but the first: no issuer, an issuer without a discovery URL, a document, a failure that is
recoverable and one that is not. So a set-up that succeeds for an issuer whose document the client
has leaves the environment with the layers of that document's metadata.
-/
namespace ConfigStack.OAuth2

open Oidc (Client DiscoveryError Document DomainClassifier Metadata Trail)

/-! ### What is fetched -/

theorem fetchDocument_eq (client : Client) (url : Url) :
    Oidc.fetchDocument client url = (client url).bind Document.ofJson := by
  rw [Oidc.fetchDocument]
  cases client url <;> rfl

section Fetching

variable {client : Client} {classifier : DomainClassifier} {baseKey issuer : String} {url : Url}

theorem fetch_of_document (located : Oidc.discoveryUrl issuer = .ok url) {document : Document}
    (fetched : Oidc.fetchDocument client url = .ok document) :
    Oidc.fetch client classifier baseKey (some issuer) =
      ⟨.ok (.discovered document (classifier.classify issuer document) baseKey),
        { records := [Oidc.loadedRecord url (classifier.classify issuer document)],
          requests := [url], events := [Oidc.requestEvent url] }⟩ := by
  simp only [Oidc.fetch, located, fetched]

theorem fetch_of_recoverable (located : Oidc.discoveryUrl issuer = .ok url) {e : DiscoveryError}
    (fetched : Oidc.fetchDocument client url = .error e) (recoverable : e.isRecoverable = true) :
    Oidc.fetch client classifier baseKey (some issuer) =
      ⟨.ok (.fallback baseKey),
        { records := [Oidc.failureRecord url e],
          requests := [url], events := [Oidc.requestEvent url] }⟩ := by
  simp only [Oidc.fetch, located, fetched, recoverable, if_true]

theorem fetch_of_fatal (located : Oidc.discoveryUrl issuer = .ok url) {e : DiscoveryError}
    (fetched : Oidc.fetchDocument client url = .error e) (fatal : e.isRecoverable = false) :
    Oidc.fetch client classifier baseKey (some issuer) =
      ⟨.error e, { requests := [url], events := [Oidc.requestEvent url] }⟩ := by
  simp only [Oidc.fetch, located, fetched, fatal, Bool.false_eq_true, if_false]

theorem fetch_of_unlocated {e : DiscoveryError} (unlocated : Oidc.discoveryUrl issuer = .error e) :
    Oidc.fetch client classifier baseKey (some issuer) = ⟨.error e, {}⟩ := by
  simp only [Oidc.fetch, unlocated]

/-- A fetch for an issuer with a discovery URL requests this URL, whatever comes of it. -/
theorem requests_fetch (located : Oidc.discoveryUrl issuer = .ok url) (client : Client)
    (classifier : DomainClassifier) (baseKey : String) :
    (Oidc.fetch client classifier baseKey (some issuer)).trail.requests = [url] := by
  simp only [Oidc.fetch, located]
  cases Oidc.fetchDocument client url with
  | ok document => rfl
  | error e =>
    dsimp only
    split <;> rfl

/-- A fetch that fails reports nothing, one that succeeds makes one record, and neither makes more
than one request. -/
theorem trail_fetch (client : Client) (classifier : DomainClassifier) (baseKey : String)
    (issuer : Option String) :
    ((∃ e, (Oidc.fetch client classifier baseKey issuer).result = .error e ∧
        (Oidc.fetch client classifier baseKey issuer).trail.records = []) ∨
      ∃ m record, (Oidc.fetch client classifier baseKey issuer).result = .ok m ∧
        (Oidc.fetch client classifier baseKey issuer).trail.records = [record]) ∧
      (Oidc.fetch client classifier baseKey issuer).trail.requests.length ≤ 1 := by
  cases issuer with
  | none => exact ⟨.inr ⟨_, _, rfl, rfl⟩, Nat.zero_le 1⟩
  | some issuer =>
    cases located : Oidc.discoveryUrl issuer with
    | error e =>
      rw [fetch_of_unlocated located]
      exact ⟨.inl ⟨_, rfl, rfl⟩, Nat.zero_le 1⟩
    | ok url =>
      cases fetched : Oidc.fetchDocument client url with
      | ok document =>
        rw [fetch_of_document located fetched]
        exact ⟨.inr ⟨_, _, rfl, rfl⟩, Nat.le_refl 1⟩
      | error e =>
        cases kind : e.isRecoverable with
        | true =>
          rw [fetch_of_recoverable located fetched kind]
          exact ⟨.inr ⟨_, _, rfl, rfl⟩, Nat.le_refl 1⟩
        | false =>
          rw [fetch_of_fatal located fetched kind]
          exact ⟨.inl ⟨_, rfl, rfl⟩, Nat.le_refl 1⟩

end Fetching

/-! ### What a set-up does with it -/

/-- What comes of a set-up when the metadata has been fetched. -/
def concluded (env : Environment) (fetched : Oidc.Fetched) :
    Except ConfigError Environment × Trail :=
  match fetched.result with
  | .error e => (.error e.toConfigError, fetched.trail)
  | .ok m =>
    (.ok (install (derivedLayers m) env),
      { fetched.trail with records := fetched.trail.records ++ [installRecord m] })

/-- A set-up whose issuer and classifier are read comes to what is fetched for them. -/
theorem setUp_given {env : Environment} {issuer : Option String}
    {classifier : DomainClassifier}
    (readIssuer : env.getOptional (.scalar .text) Vendor.issuer = pure issuer)
    (readClassifier : configuredClassifier env = some classifier) (client : Client) :
    setUp (.given client) env =
      some (concluded env (Oidc.fetch client classifier Vendor.issuerWithPath issuer)) := by
  have read : (readSetup (.given client) env).run = some (.ok (issuer, classifier, client)) := by
    simp only [readSetup, readIssuer, readClassifier, Transport.client]
    rfl
  rw [setUp, read]
  dsimp only
  generalize Oidc.fetch client classifier Vendor.issuerWithPath issuer = fetched
  rw [concluded]
  cases fetched.result with
  | error e => rfl
  | ok m => rfl

theorem setUp_of_unreadable {env : Environment} {e : ConfigError}
    (fails : env.getOptional (.scalar .text) Vendor.issuer = throw e) (client : Client) :
    setUp (.given client) env = some (.error e, {}) := by
  rw [setUp, readSetup, fails]
  rfl

/-- What a set-up that succeeds has read before. -/
theorem readSetup_of_success {client : Client} {env after : Environment} {trail : Trail}
    (success : setUp (.given client) env = some (.ok after, trail)) :
    ∃ issuer classifier, env.getOptional (.scalar .text) Vendor.issuer = pure issuer ∧
      configuredClassifier env = some classifier := by
  unfold setUp at success
  split at success
  next => cases success
  next => simp at success
  next issuer classifier client' read =>
    have read : readSetup (.given client) env = pure (issuer, classifier, client') := read
    obtain ⟨issuer', readIssuer, rest⟩ := Reading.bind_eq_pure.mp read
    obtain ⟨classifier', readClassifier, -⟩ := Reading.bind_eq_pure.mp rest
    refine ⟨issuer', classifier', readIssuer, ?_⟩
    cases found : configuredClassifier env with
    | none =>
      rw [found] at readClassifier
      cases readClassifier
    | some c =>
      rw [found] at readClassifier
      rw [Reading.pure_inj.mp readClassifier]

/-- An issuer that is there is not read as missing. -/
theorem getOptional_ne_none {env : Environment} {v : Value}
    (held : env.property Vendor.issuer = some (some v)) :
    env.getOptional (.scalar .text) Vendor.issuer ≠ pure none := by
  intro missing
  rcases read : env.getResolved (.scalar .text) Vendor.issuer with _ | e | text
  · rw [Environment.getOptional, read] at missing
    cases missing
  · rw [Environment.getOptional_of_refused held read] at missing
    cases missing
  · rw [Environment.getOptional_of_read read] at missing
    cases missing

theorem requests_concluded (env : Environment) (fetched : Oidc.Fetched) :
    (concluded env fetched).2.requests = fetched.trail.requests := by
  unfold concluded
  split <;> rfl

/-- With an issuer there and a client that answers with a document, a set-up that succeeds installs
the layers of the document's metadata. -/
theorem after_of_success {client : Client} {env after : Environment} {trail : Trail}
    {json : Json} {document : Document}
    (success : setUp (.given client) env = some (.ok after, trail))
    (issuer : env.contains Vendor.issuer = some true)
    (answers : ∀ url ∈ trail.requests, client url = .ok json)
    (accepted : Document.ofJson json = .ok document) :
    ∃ style, after =
      install (derivedLayers (.discovered document style Vendor.issuerWithPath)) env := by
  obtain ⟨found, classifier, readIssuer, readClassifier⟩ := readSetup_of_success success
  rw [setUp_given readIssuer readClassifier client, Option.some.injEq] at success
  obtain ⟨v, held⟩ := Environment.property_of_contains issuer
  cases found with
  | none => exact absurd readIssuer (getOptional_ne_none held)
  | some text =>
    cases located : Oidc.discoveryUrl text with
    | error e =>
      rw [fetch_of_unlocated located] at success
      cases success
    | ok url =>
      -- Whatever came of the request, it was made; so the client has answered it.
      have requested : trail.requests = [url] := by
        rw [← requests_fetch located client classifier Vendor.issuerWithPath,
          ← requests_concluded env, success]
      have body := answers url (by rw [requested]; exact List.mem_singleton_self url)
      have fetched : Oidc.fetchDocument client url = .ok document := by
        rw [Oidc.fetchDocument, body]
        exact accepted
      rw [fetch_of_document located fetched] at success
      cases success
      exact ⟨_, rfl⟩

end ConfigStack.OAuth2
