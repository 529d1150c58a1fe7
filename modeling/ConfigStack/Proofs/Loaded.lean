import ConfigStack.Loading
import ConfigStack.Proofs.Configured

/-!
# Precedence in a loaded environment

Five places give a loaded environment its values. The process variables and the two dotenv files
make up one list of variables, and there nothing is overwritten. The two files of settings stand
behind it, and there the first that has a key wins. A key is looked for among all variables, by
both of its names, before any file of settings.
-/
namespace ConfigStack

/-- The variables after some assignments: what was set stays, and else the first one counts. -/
theorem Dotenv.get?_assign (vars : Table String) (items : List (String × String))
    (name : String) :
    (assign vars items).get? name = (vars.get? name).or (items.lookup name) := by
  induction items generalizing vars with
  | nil => rw [List.lookup_nil, Option.or_none]; rfl
  | cons item rest ih =>
    obtain ⟨assigned, text⟩ := item
    have here : (vars.insertIfNew assigned text).get? name =
        (vars.get? name).or (if name = assigned then some text else none) := by
      rw [Table.insertIfNew, Table.contains]
      -- The one assignment shows only under its own name, and only if there was no text.
      by_cases same : name = assigned
      · subst same
        cases kept : vars.get? name <;> simp [kept, Table.get?_insert]
      · cases vars.get? assigned <;> simp [same, Table.get?_insert]
    have tail := ih (vars.insertIfNew assigned text)
    rw [assign, List.foldl_cons, ← assign, tail, here, Option.or_assoc, Table.lookup_cons]
    split <;> rfl

namespace Directory

variable {d : Directory} {name : String} {entry : Entry} {cause : LoadError}

/-! ### Variables -/

/-- The assignments of a dotenv file. One that is not there or cannot be read has none. -/
def assigned (d : Directory) (name : String) (vars : Table String) : List (String × String) :=
  match d.entries.get? name with
  | some (.file bytes) => Dotenv.assignments vars bytes
  | _ => []

theorem addVariables_eq (d : Directory) (name : String) (vars : Table String) :
    d.addVariables name vars = Dotenv.assign vars (d.assigned name vars) := by
  rw [addVariables, assigned]
  cases d.entries.get? name with
  | none => rfl
  | some entry => cases entry <;> rfl

/-- The text of a variable under a profile, given the variables of the process: theirs before that
of the common dotenv file, and that before the one of the profile. -/
def variableText (d : Directory) (active : String) (vars : Table String) (name : String) :
    Option String :=
  let first := d.assigned ".env" vars
  let second := d.assigned (".env." ++ active) (Dotenv.assign vars first)
  (vars.get? name).or ((first.lookup name).or (second.lookup name))

theorem get?_addVariables (d : Directory) (active : String) (vars : Table String)
    (name : String) :
    (d.addVariables (".env." ++ active) (d.addVariables ".env" vars)).get? name =
      d.variableText active vars name := by
  rw [addVariables_eq d ".env", addVariables_eq, Dotenv.get?_assign, Dotenv.get?_assign,
    Option.or_assoc]
  rfl

/-! ### Settings -/

/-- Why an entry cannot serve as a file of settings: it cannot be read as text, or the text is no
document. -/
inductive Faulty : Entry → LoadError → Prop where
  | directory : Faulty .directory .directory
  | refused (reason : String) : Faulty (.refused reason) (.refused reason)
  | notUtf8 {bytes : List UInt8} : Text.decodeUtf8 bytes = none → Faulty (.file bytes) .notUtf8
  | malformed {bytes : List UInt8} {cs : List Char} : Text.decodeUtf8 bytes = some cs →
      Yaml.datum? (String.ofList cs) = none → Faulty (.file bytes) .malformed

/-- There is something in the place of a file of settings that cannot serve as one. -/
def Broken (d : Directory) (name : String) (cause : LoadError) : Prop :=
  ∃ entry, d.entries.get? name = some entry ∧ Faulty entry cause

/-- A file of settings that is not there is usable, too. -/
def Usable (d : Directory) (name : String) : Prop :=
  ∀ cause, ¬d.Broken name cause

/-- The value of a key among the flattened entries of a file's document. -/
def setting? (d : Directory) (name key : String) : Option Value :=
  match d.entries.get? name with
  | some (.file bytes) => do
    let cs ← Text.decodeUtf8 bytes
    let document ← Yaml.datum? (String.ofList cs)
    document.settings.get? key
  | _ => none

theorem readEntry_eq_error_iff : readEntry entry = .error cause ↔ Faulty entry cause := by
  constructor
  · intro failed
    cases entry with
    | directory => cases failed; exact .directory
    | refused reason => cases failed; exact .refused reason
    | file bytes =>
      rw [readEntry] at failed
      split at failed
      next undecoded => cases failed; exact .notUtf8 undecoded
      next cs decoded =>
        rw [Yaml.readSettings] at failed
        split at failed
        · cases failed
        next unparsed => cases failed; exact .malformed decoded unparsed
  · intro faulty
    cases faulty with
    | directory => rfl
    | refused reason => rfl
    | notUtf8 undecoded => rw [readEntry, undecoded]
    | malformed decoded unparsed => simp only [readEntry, decoded, Yaml.readSettings, unparsed]

/-- What can be read is a text, and the text a document. -/
theorem document_of_readEntry {settings : Settings} (read : readEntry entry = .ok settings) :
    ∃ bytes cs document, entry = .file bytes ∧ Text.decodeUtf8 bytes = some cs ∧
      Yaml.datum? (String.ofList cs) = some document ∧ document.settings = settings := by
  cases entry with
  | directory => cases read
  | refused reason => cases read
  | file bytes =>
    rw [readEntry] at read
    split at read
    · cases read
    next cs decoded =>
      rw [Yaml.readSettings] at read
      split at read
      next document parsed =>
        exact ⟨bytes, cs, document, rfl, decoded, parsed, Except.ok.inj read⟩
      · cases read

theorem layer?_eq_error_iff {e : ConfigError} :
    d.layer? name = .error e ↔
      ∃ cause, d.Broken name cause ∧ e = .load (.inFile (d.path name) cause) := by
  constructor
  · intro failed
    rw [layer?] at failed
    split at failed
    · cases failed
    next entry there =>
      split at failed
      · cases failed
      next cause fault =>
        cases failed
        exact ⟨cause, ⟨entry, there, readEntry_eq_error_iff.mp fault⟩, rfl⟩
  · rintro ⟨cause, ⟨entry, there, faulty⟩, rfl⟩
    simp only [layer?, there, readEntry_eq_error_iff.mpr faulty]

theorem usable_iff : d.Usable name ↔ ∃ found, d.layer? name = .ok found := by
  constructor
  · intro usable
    cases read : d.layer? name with
    | ok found => exact ⟨found, rfl⟩
    | error e =>
      obtain ⟨cause, broken, -⟩ := layer?_eq_error_iff.mp read
      exact absurd broken (usable cause)
  · rintro ⟨found, read⟩ cause broken
    have failed := layer?_eq_error_iff.mpr ⟨cause, broken, rfl⟩
    rw [read] at failed
    cases failed

instance (d : Directory) (name : String) : Decidable (d.Usable name) :=
  decidable_of_iff ((d.layer? name).isOk = true) <| by
    rw [usable_iff]
    cases d.layer? name <;> simp [Except.isOk, Except.toBool]

/-- The layer of a file has the entries of its document; without a file there is neither. -/
theorem get?_of_layer? {found : Option StaticLayer} (read : d.layer? name = .ok found)
    (key : String) : (found.bind fun l => l.settings.get? key) = d.setting? name key := by
  rw [layer?] at read
  split at read
  next missing =>
    cases read
    simp only [setting?, missing, Option.bind_none]
  next entry there =>
    split at read
    next settings taken =>
      obtain ⟨bytes, cs, document, rfl, decoded, parsed, rfl⟩ := document_of_readEntry taken
      cases read
      simp only [setting?, there, decoded, parsed, Option.bind_eq_bind, Option.bind_some]
    · cases read

end Directory

namespace Environment

open Directory

variable {env : Environment}

theorem Fixed.addLayer? (fixed : env.Fixed) (found : Option StaticLayer) :
    (env.addLayer? found).Fixed := by
  cases found with
  | none => exact fixed
  | some l => exact fixed.addLast trivial

theorem configured_addLayer? (env : Environment) (found : Option StaticLayer) (key : String) :
    configured (env.addLayer? found).sources key =
      (configured env.sources key).or (found.bind fun l => l.settings.get? key) := by
  cases found with
  | none => rw [Option.bind_none, Option.or_none]; rfl
  | some l => exact configured_addLast env _ key

theorem profile_addLayer? (env : Environment) (found : Option StaticLayer) :
    (env.addLayer? found).profile = env.profile := by
  cases found <;> rfl

/-- The environment that a load puts together. -/
def stacked (active : String) (vars : Table String) (own shared : Option StaticLayer) :
    Environment :=
  (((new active).addLast (.variables vars)).addLayer? own).addLayer? shared

theorem profile_stacked (active : String) (vars : Table String)
    (own shared : Option StaticLayer) : (stacked active vars own shared).profile = active := by
  rw [stacked, profile_addLayer?, profile_addLayer?]
  rfl

theorem property_stacked (active : String) (vars : Table String) (own shared : Option StaticLayer)
    (key : String) :
    (stacked active vars own shared).property key =
      some (((lookupVariable vars key).map .string).or
        ((own.bind fun l => l.settings.get? key).or
          (shared.bind fun l => l.settings.get? key))) := by
  have alone : ((new active).addLast (.variables vars)).Fixed := by
    intro s member
    obtain rfl := List.mem_singleton.mp member
    trivial
  have fixed : (stacked active vars own shared).Fixed := (alone.addLayer? own).addLayer? shared
  rw [property_of_fixed fixed, stacked, configured_addLayer?, configured_addLayer?,
    configured_addLast, Option.or_assoc, Option.or_assoc]
  rfl

/-! ### Loading -/

/-- For every directory, every choice of variables and every profile. The active profile is the
one among the variables of the process, else the one that is asked for. Loading fails exactly
when the file of settings of the active profile or the shared one is broken, and names the former
when both are. Otherwise a key has the text of the variable with its name, else that of the one
with its variable name, else its entry in the file of the profile, else that in the shared one. -/
theorem load_precedence (d : Directory) (vars : Table String) (profile : String) :
    let active := (vars.get? profileVariable).getD profile
    let own := "application-" ++ active ++ ".yaml"
    let shared := "application.yaml"
    (∀ e, load d vars profile = .error e ↔
      (∃ cause, d.Broken own cause ∧ e = .load (.inFile (d.path own) cause)) ∨
        d.Usable own ∧
          ∃ cause, d.Broken shared cause ∧ e = .load (.inFile (d.path shared) cause)) ∧
      (d.Usable own → d.Usable shared →
        ∃ env, load d vars profile = .ok env ∧ env.profile = active ∧
          ∀ key, env.property key = some
            ((((d.variableText active vars key).or
              (d.variableText active vars (variableName key))).map .string).or
                ((d.setting? own key).or (d.setting? shared key)))) := by
  intro active own shared
  have loads : load d vars profile =
      (d.layer? own).bind fun ofProfile => (d.layer? shared).bind fun common =>
        .ok (stacked active (d.addVariables (".env." ++ active) (d.addVariables ".env" vars))
          ofProfile common) := rfl
  constructor
  · intro e
    rw [loads, ← layer?_eq_error_iff, ← layer?_eq_error_iff]
    cases first : d.layer? own with
    | error other =>
      -- The shared file is not looked at any more.
      have unusable : ¬d.Usable own := by simp [usable_iff, first]
      simp [Except.bind, unusable]
    | ok found =>
      have usable := usable_iff.mpr ⟨found, first⟩
      cases second : d.layer? shared with
      | error other => simp [Except.bind, usable]
      | ok common => simp [Except.bind]
  · intro usable usableToo
    obtain ⟨found, first⟩ := usable_iff.mp usable
    obtain ⟨common, second⟩ := usable_iff.mp usableToo
    refine ⟨_, by rw [loads, first, second]; rfl, profile_stacked _ _ _ _, fun key => ?_⟩
    rw [property_stacked, lookupVariable, get?_addVariables, get?_addVariables,
      get?_of_layer? first, get?_of_layer? second]

/-- A directory with a dotenv file and a file of settings for one profile, and a shared one. -/
def production : Directory :=
  ⟨"etc", .ofList [
    (".env.prod", .file (Text.bytesOf "OKTA_OAUTH2_ISSUER=dotenv\n".toList)),
    ("application-prod.yaml",
      .file (Text.bytesOf "okta:\n  oauth2:\n    issuer: own\n    client-id: own\n".toList)),
    ("application.yaml", .file (Text.bytesOf "okta.oauth2.client-id: shared\n".toList))]⟩

theorem load_precedence_of_production :
    production.Usable "application-prod.yaml" ∧ production.Usable "application.yaml" ∧
      ∃ env, load production (.ofList [(profileVariable, "prod")]) "dev" = .ok env ∧
        env.profile = "prod" ∧
          (env.property "okta.oauth2.issuer").map (·.bind Value.scalarText?) =
            some (some "dotenv") ∧
          (env.property "okta.oauth2.client-id").map (·.bind Value.scalarText?) =
            some (some "own") := by
  have own : production.Usable "application-prod.yaml" := by decide +kernel
  have shared : production.Usable "application.yaml" := by decide +kernel
  obtain ⟨env, loaded, active, values⟩ :=
    (load_precedence production (.ofList [(profileVariable, "prod")]) "dev").2 own shared
  refine ⟨own, shared, env, loaded, active, ?_, ?_⟩
  · rw [values]
    decide +kernel
  · rw [values]
    decide +kernel

end Environment

end ConfigStack
