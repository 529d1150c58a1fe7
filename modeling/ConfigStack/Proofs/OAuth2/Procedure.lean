import ConfigStack.Proofs.OAuth2.SettingUp

/-!
# The set-up as a procedure

`setUp` gives a new environment or a reason, and a trail besides. A program does not work like
that: it changes an environment and a log that it was handed, one step after the other, and what it
changed before it fails stays changed. `procedure` is the set-up in this form, and `on_procedure`
that it comes to the same. The requests that were made are kept with the environment and the log,
so that they can be counted.
-/
namespace ConfigStack.OAuth2

open Oidc (Client DiscoveryError Document DomainClassifier Metadata Trail)

/-- What a processor works on, and the requests that were made so far. -/
structure Workspace where
  env : Environment
  log : DeferredLog
  requests : List Url

/-- Work on a workspace. -/
abbrev Work := ExceptT ConfigError (StateT Workspace Option)

namespace Work

variable {α β : Type}

def read (reading : Environment → Reading α) : Work α :=
  ExceptT.mk fun w => (reading w.env).run.map fun result => (result, w)

def write (record : LogRecord) : Work Unit :=
  modify fun w => { w with log := w.log.write record }

def request (client : Client) (url : Url) : Work (Except DiscoveryError Json) := do
  -- A request was made whatever comes of it.
  modify fun w => { w with requests := w.requests ++ [url] }
  return client url

def addLayer (l : Layer) : Work Unit :=
  modify fun w => { w with env := w.env.addLast (.layer l) }

/-- The result of some work and the workspace after it. -/
def on (work : Work α) (w : Workspace) : Option (Except ConfigError α × Workspace) :=
  work.run.run w

theorem on_bind (first : Work α) (next : α → Work β) (w : Workspace) :
    (first >>= next).on w = (first.on w).bind fun
      | (.ok a, w) => (next a).on w
      | (.error e, w) => some (.error e, w) := by
  rw [on, ExceptT.run_bind, StateT.run_bind]
  congr 1
  funext ⟨result, w⟩
  cases result <;> rfl

@[simp] theorem on_map (f : α → β) (work : Work α) (w : Workspace) :
    (f <$> work).on w = (work.on w).map fun (result, w) => (result.map f, w) := by
  rw [← bind_pure_comp, on_bind]
  cases work.on w with
  | none => rfl
  | some reached =>
    obtain ⟨result, w⟩ := reached
    cases result <;> rfl

@[simp] theorem on_pure (a : α) (w : Workspace) : (pure a : Work α).on w = some (.ok a, w) := rfl

@[simp] theorem on_throw (e : ConfigError) (w : Workspace) :
    (throw e : Work α).on w = some (.error e, w) := rfl

@[simp] theorem on_read (reading : Environment → Reading α) (w : Workspace) :
    (read reading).on w = (reading w.env).run.map fun result => (result, w) := rfl

@[simp] theorem on_write (record : LogRecord) (w : Workspace) :
    (write record).on w = some (.ok (), { w with log := w.log.write record }) := rfl

@[simp] theorem on_request (client : Client) (url : Url) (w : Workspace) :
    (request client url).on w =
      some (.ok (client url), { w with requests := w.requests ++ [url] }) := rfl

end Work

def discover (client : Client) (classifier : DomainClassifier) (baseKey : String) :
    Option String → Work Metadata
  | none => do
    Work.write Oidc.noIssuerRecord
    return .fallback baseKey
  | some issuer =>
    match Oidc.discoveryUrl issuer with
    | .error e => throw e.toConfigError
    | .ok url => do
      match (← Work.request client url).bind Document.ofJson with
      | .ok document => do
        let style := classifier.classify issuer document
        Work.write (Oidc.loadedRecord url style)
        return .discovered document style baseKey
      | .error e =>
        if e.isRecoverable then do
          Work.write (Oidc.failureRecord url e)
          return .fallback baseKey
        else throw e.toConfigError

/-- The set-up, step by step. -/
def procedure (client : Client) : Work Unit := do
  let issuer ← Work.read fun env => env.getOptional (.scalar .text) Vendor.issuer
  let classifier ← Work.read fun env => ExceptT.lift (configuredClassifier env)
  let m ← discover client classifier Vendor.issuerWithPath issuer
  Work.write (installRecord m)
  forM (derivedLayers m) Work.addLayer

/-- The workspace with what a trail reports. -/
def Workspace.reporting (w : Workspace) (trail : Trail) : Workspace :=
  { w with log := ⟨w.log.records ++ trail.records⟩, requests := w.requests ++ trail.requests }

/-- What a set-up as a whole makes of the workspace. -/
def Workspace.concluding (w : Workspace) :
    Except ConfigError Environment × Trail → Except ConfigError Unit × Workspace
  | (.error e, trail) => (.error e, w.reporting trail)
  | (.ok env, trail) => (.ok (), { w.reporting trail with env })

theorem concluding_ok (w : Workspace) (m : Metadata) (trail : Trail) :
    w.concluding (concluded w.env ⟨.ok m, trail⟩) =
      (.ok (),
        { env := install (derivedLayers m) w.env
          log := ⟨w.log.records ++ (trail.records ++ [installRecord m])⟩
          requests := w.requests ++ trail.requests }) := rfl

theorem concluding_error (w : Workspace) (e : DiscoveryError) (trail : Trail) :
    w.concluding (concluded w.env ⟨.error e, trail⟩) =
      (.error e.toConfigError, w.reporting trail) := rfl

theorem on_discover (client : Client) (classifier : DomainClassifier) (baseKey : String)
    (issuer : Option String) (w : Workspace) :
    (discover client classifier baseKey issuer).on w =
      let fetched := Oidc.fetch client classifier baseKey issuer
      match fetched.result with
      | .ok m => some (.ok m, w.reporting fetched.trail)
      | .error e => some (.error e.toConfigError, w.reporting fetched.trail) := by
  cases issuer with
  | none =>
    simp [discover, Oidc.fetch, Workspace.reporting, DeferredLog.write, Except.map]
  | some issuer =>
    rw [discover, Oidc.fetch]
    cases Oidc.discoveryUrl issuer with
    | error e => simp [Workspace.reporting]
    | ok url =>
      -- The request is made, so it is in the workspace whatever the client answers.
      simp only [Work.on_bind, Work.on_request, fetchDocument_eq, Option.bind_some]
      cases (client url).bind Document.ofJson with
      | ok document => simp [Workspace.reporting, DeferredLog.write, Except.map]
      | error e =>
        cases recoverable : e.isRecoverable <;>
          simp [recoverable, Workspace.reporting, DeferredLog.write, Except.map]

theorem on_addLayers (layers : List Layer) (w : Workspace) :
    Work.on (forM layers Work.addLayer) w =
      some (.ok (), { w with env := install layers w.env }) := by
  induction layers generalizing w with
  | nil => rfl
  | cons l rest ih =>
    rw [List.forM_cons, Work.on_bind]
    exact ih _

/-- Step by step or as a whole, the set-up does the same. -/
theorem on_procedure (client : Client) (w : Workspace) :
    (procedure client).on w = (setUp (.given client) w.env).map w.concluding := by
  rw [procedure, Work.on_bind, Work.on_read]
  rcases readIssuer : w.env.getOptional (.scalar .text) Vendor.issuer with _ | e | issuer
  -- A read that never ends ends neither, and one that fails leaves nothing behind.
  · rw [setUp, readSetup, readIssuer]
    rfl
  · rw [setUp_of_unreadable readIssuer]
    simp only [Option.map_some, Workspace.concluding, Workspace.reporting, List.append_nil]
    rfl
  · dsimp only [ExceptT.run, Option.map_some, Option.bind_some]
    rw [Work.on_bind, Work.on_read]
    cases readClassifier : configuredClassifier w.env with
    | none =>
      rw [setUp, readSetup, readIssuer, readClassifier]
      rfl
    | some classifier =>
      rw [setUp_given readIssuer readClassifier]
      change Work.on (discover client classifier Vendor.issuerWithPath issuer >>= _) w = _
      rw [Work.on_bind, on_discover]
      obtain ⟨outcome, trail⟩ := Oidc.fetch client classifier Vendor.issuerWithPath issuer
      cases outcome with
      | error e => rfl
      | ok m =>
        rw [Option.map_some, concluding_ok]
        simp [Work.on_bind, on_addLayers, Workspace.reporting, DeferredLog.write]

theorem on_procedure_of_unreadable {client : Client} {w : Workspace} {e : ConfigError}
    (fails : w.env.getOptional (.scalar .text) Vendor.issuer = throw e) :
    (procedure client).on w = some (.error e, w) := by
  rw [on_procedure, setUp_of_unreadable fails]
  simp only [Option.map_some, Workspace.concluding, Workspace.reporting, List.append_nil]

theorem on_procedure_of_read {client : Client} {w : Workspace} {issuer : Option String}
    {classifier : DomainClassifier}
    (readIssuer : w.env.getOptional (.scalar .text) Vendor.issuer = pure issuer)
    (readClassifier : configuredClassifier w.env = some classifier) :
    (procedure client).on w =
      some (w.concluding
        (concluded w.env (Oidc.fetch client classifier Vendor.issuerWithPath issuer))) := by
  rw [on_procedure, setUp_given readIssuer readClassifier]
  rfl

end ConfigStack.OAuth2
