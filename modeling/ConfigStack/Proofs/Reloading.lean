import ConfigStack.Proofs.Loaded

/-!
# Loading again

A load leaves the variables of the dotenv files in the process, and the next load starts from
there. What a line of a dotenv file says may then be another text, since it may refer to variables
that were not set before; but which variables the lines assign depends on the file alone. So the
same two files add nothing the second time, and the second load is the first one over again. Only
the active profile may have changed in between: it is read before the dotenv files are, and they
may set the variable that it is read from.
-/
namespace ConfigStack

namespace Dotenv

/-- Whether a value can be read does not depend on the texts that it refers to. -/
theorem isSome_readValue (known other : String → String) (mode : Mode) (cs : List Char) :
    (readValue known mode cs).isSome = (readValue other mode cs).isSome := by
  induction cs generalizing mode with
  | nil => cases mode <;> simp only [readValue, apply_ite Option.isSome, Option.isSome_some]
  | cons c rest ih =>
    cases mode with
    | escape weak =>
      simp only [readValue]
      cases unescaped c with
      | none => rfl
      | some meant => simpa [Option.isSome_bind] using ih (.plain weak)
    | _ => simp only [readValue, apply_ite Option.isSome, Option.isSome_map, ih]

/-- The variable that a statement assigns to. -/
def Statement.target? : Statement → Option String
  | .nothing => none
  | .assign name _ => some name

theorem target_readLine (known other : String → String) (line : List Char) :
    (readLine known line).map Statement.target? = (readLine other line).map Statement.target? := by
  simp only [readLine]
  split
  · rfl
  · cases readTarget (Text.trim line) with
    | none => rfl
    | some target =>
      obtain ⟨name, rest⟩ := target
      simp only [Option.bind_eq_bind, Option.bind_some]
      split
      · rfl
      · have same := isSome_readValue known other (.plain false) (rest.dropWhile Text.isBlank)
        -- Both values can be read or neither; the name in front is the same.
        cases one : readValue known (.plain false) (rest.dropWhile Text.isBlank) with
        | none =>
          rw [one, Option.isSome_none, eq_comm, Option.isSome_eq_false_iff,
            Option.isNone_iff_eq_none] at same
          rw [same]
        | some value =>
          rw [one, Option.isSome_some, eq_comm, Option.isSome_iff_exists] at same
          obtain ⟨value', two⟩ := same
          rw [two]
          rfl

/-- Which variables the lines of a file assign does not depend on what is set. -/
theorem names_assignmentsOf (vars other : Table String) (lines : List (List Char)) :
    (assignmentsOf vars lines).map (·.1) = (assignmentsOf other lines).map (·.1) := by
  -- What is set differs from line to line, since each line may refer to those before.
  induction lines generalizing vars other with
  | nil => rfl
  | cons line rest ih =>
    have same := target_readLine (textOf vars) (textOf other) line
    cases one : readLine (textOf vars) line with
    | none =>
      rw [one, Option.map_none, eq_comm, Option.map_eq_none_iff] at same
      simp only [assignmentsOf, one, same]
    | some statement =>
      rw [one, Option.map_some, eq_comm, Option.map_eq_some_iff] at same
      obtain ⟨statement', two, alike⟩ := same
      cases statement with
      | nothing =>
        cases statement' with
        | nothing => simpa only [assignmentsOf, one, two] using ih vars other
        | assign name' value' => cases alike
      | assign name value =>
        cases statement' with
        | nothing => cases alike
        | assign name' value' =>
          obtain rfl : name' = name := Option.some.inj alike
          simp only [assignmentsOf, one, two, List.map_cons]
          rw [ih]

/-- Assignments to variables that are all set change nothing. -/
theorem assign_of_set {vars : Table String} {items : List (String × String)}
    (set : ∀ name ∈ items.map (·.1), vars.contains name = true) : assign vars items = vars := by
  induction items with
  | nil => rfl
  | cons item rest ih =>
    have here : vars.insertIfNew item.1 item.2 = vars := if_pos (set item.1 List.mem_cons_self)
    rw [assign, List.foldl_cons, here]
    exact ih fun name member => set name (List.mem_cons_of_mem _ member)

theorem contains_assign (vars : Table String) (items : List (String × String)) {name : String}
    (set : vars.contains name = true ∨ name ∈ items.map (·.1)) :
    (assign vars items).contains name = true := by
  rw [Table.contains, get?_assign, Option.isSome_or, Bool.or_eq_true]
  rcases set with before | assigned
  · exact .inl before
  · obtain ⟨item, member, rfl⟩ := List.mem_map.mp assigned
    exact .inr (List.lookup_isSome_iff.mpr ⟨item, member, beq_self_eq_true _⟩)

end Dotenv

namespace Directory

variable (d : Directory)

/-- The variables that a dotenv file assigns are the same whatever is set before. -/
theorem names_assigned (name : String) (vars other : Table String) :
    (d.assigned name vars).map (·.1) = (d.assigned name other).map (·.1) := by
  simp only [assigned]
  split
  · exact Dotenv.names_assignmentsOf vars other _
  · rfl

/-- A file whose variables are all set adds nothing. -/
theorem addVariables_of_set {name : String} {vars : Table String} (other : Table String)
    (set : ∀ assigned ∈ (d.assigned name other).map (·.1), vars.contains assigned = true) :
    d.addVariables name vars = vars := by
  rw [addVariables_eq]
  apply Dotenv.assign_of_set
  rwa [d.names_assigned name vars other]

theorem contains_addVariables {name key : String} {vars : Table String}
    (set : vars.contains key = true ∨ key ∈ (d.assigned name vars).map (·.1)) :
    (d.addVariables name vars).contains key = true := by
  rw [addVariables_eq]
  exact Dotenv.contains_assign vars _ set

end Directory

namespace Environment

variable (d : Directory) (vars : Table String) (profile : String)

/-- The profile that a load takes. -/
def activeProfile (vars : Table String) (profile : String) : String :=
  (vars.get? profileVariable).getD profile

theorem load_eq :
    load d vars profile =
      (d.layer? ("application-" ++ activeProfile vars profile ++ ".yaml")).bind fun own =>
        (d.layer? "application.yaml").bind fun shared =>
          .ok (stacked (activeProfile vars profile) (variablesAfter d vars profile) own shared) :=
  rfl

theorem exists_stacked {env : Environment} (loaded : load d vars profile = .ok env) :
    ∃ own shared, env =
      stacked (activeProfile vars profile) (variablesAfter d vars profile) own shared := by
  rw [load_eq] at loaded
  cases first : d.layer? ("application-" ++ activeProfile vars profile ++ ".yaml") with
  | error e =>
    rw [first] at loaded
    cases loaded
  | ok own =>
    rw [first] at loaded
    cases second : d.layer? "application.yaml" with
    | error e =>
      rw [second] at loaded
      cases loaded
    | ok shared =>
      rw [second] at loaded
      exact ⟨own, shared, (Except.ok.inj loaded).symm⟩

/-- The variables that an environment captured are those that its load left in the process. -/
theorem head_sources_of_load {env : Environment} (loaded : load d vars profile = .ok env) :
    env.sources.head? = some (.variables (variablesAfter d vars profile)) := by
  obtain ⟨own, shared, rfl⟩ := exists_stacked d vars profile loaded
  cases own <;> cases shared <;> rfl

theorem profile_of_load {env : Environment} (loaded : load d vars profile = .ok env) :
    env.profile = activeProfile vars profile := by
  obtain ⟨own, shared, rfl⟩ := exists_stacked d vars profile loaded
  exact profile_stacked ..

/-- The files of a profile add nothing to the variables that a load of it left. -/
theorem addVariables_variablesAfter :
    d.addVariables (".env." ++ activeProfile vars profile)
      (d.addVariables ".env" (variablesAfter d vars profile)) = variablesAfter d vars profile := by
  have common : d.addVariables ".env" (variablesAfter d vars profile) =
      variablesAfter d vars profile := by
    apply d.addVariables_of_set vars
    intro name assigned
    exact d.contains_addVariables (.inl (d.contains_addVariables (.inr assigned)))
  rw [common]
  apply d.addVariables_of_set (d.addVariables ".env" vars)
  intro name assigned
  exact d.contains_addVariables (.inr assigned)

/-- If the active profile has not changed, loading again is loading once. -/
theorem load_again
    (kept : activeProfile (variablesAfter d vars profile) profile = activeProfile vars profile) :
    variablesAfter d (variablesAfter d vars profile) profile = variablesAfter d vars profile ∧
      load d (variablesAfter d vars profile) profile = load d vars profile := by
  have settled : variablesAfter d (variablesAfter d vars profile) profile =
      variablesAfter d vars profile := by
    have again := addVariables_variablesAfter d vars profile
    rw [← kept] at again
    exact again
  refine ⟨settled, ?_⟩
  rw [load_eq, load_eq, kept, settled]

/-- What a load leaves of a variable: what was set, else the first assignment of the dotenv
files. -/
theorem get?_variablesAfter (name : String) :
    (variablesAfter d vars profile).get? name =
      d.variableText (activeProfile vars profile) vars name :=
  d.get?_addVariables (activeProfile vars profile) vars name

theorem get?_variablesAfter_of_set {name text : String} (set : vars.get? name = some text) :
    (variablesAfter d vars profile).get? name = some text := by
  rw [get?_variablesAfter, Directory.variableText, set]
  rfl

/-- The next load takes the same profile exactly if the variable that the profile is read from, in
case it is set by then, holds that profile. -/
theorem activeProfile_variablesAfter :
    activeProfile (variablesAfter d vars profile) profile = activeProfile vars profile ↔
      ∀ text, (variablesAfter d vars profile).get? profileVariable = some text →
        text = activeProfile vars profile := by
  cases left : (variablesAfter d vars profile).get? profileVariable with
  | some text => simp [activeProfile, left]
  | none =>
    -- Nothing that was set is taken away, so it was not set before either.
    have unset : vars.get? profileVariable = none := by
      cases before : vars.get? profileVariable with
      | none => rfl
      | some text =>
        rw [get?_variablesAfter_of_set d vars profile before] at left
        cases left
    simp [activeProfile, left, unset]

/-- Where the variable was set before a load, it holds the active profile behind it. -/
theorem profile_kept_of_set (set : ∃ text, vars.get? profileVariable = some text) :
    ∀ text, (variablesAfter d vars profile).get? profileVariable = some text →
      text = activeProfile vars profile := by
  obtain ⟨given, set⟩ := set
  intro text left
  rw [get?_variablesAfter_of_set d vars profile set, Option.some.injEq] at left
  rw [activeProfile, set, left]
  rfl

/-- **Loading again.** For every directory, all variables and every profile under which a load
succeeds, the environment has captured the variables that the load leaves in the process, and
loading again from there gives the same environment if and only if the variable of the profile is
unset by then or holds the profile of the environment. It does if it was set before the first load.
If it does not, because a dotenv file has set it to another profile, then loading again fails or
gives an environment of that other profile. From there on it is settled: that environment agrees
with the variable it captured, and loading a third time gives it once more. -/
theorem load_again_iff_profile_kept (d : Directory) (vars : Table String) (profile : String)
    {env : Environment} (loaded : load d vars profile = .ok env) :
    let after := variablesAfter d vars profile
    (env.sources.head? = some (.variables after) ∧
        ∀ name, after.get? name = d.variableText env.profile vars name) ∧
      (load d after profile = .ok env ↔
        ∀ text, after.get? profileVariable = some text → text = env.profile) ∧
      ((∃ text, vars.get? profileVariable = some text) → load d after profile = .ok env) ∧
      ∀ again, load d after profile = .ok again →
        (again.profile = env.profile → again = env) ∧
          again.sources.head? = some (.variables (variablesAfter d after profile)) ∧
          (∀ text, (variablesAfter d after profile).get? profileVariable = some text →
            text = again.profile) ∧
          load d (variablesAfter d after profile) profile = .ok again := by
  intro after
  have active := profile_of_load d vars profile loaded
  have same : activeProfile after profile = env.profile → load d after profile = .ok env := by
    intro kept
    rw [(load_again d vars profile (kept.trans active)).2, loaded]
  have keeps : (∀ text, after.get? profileVariable = some text → text = env.profile) ↔
      activeProfile after profile = env.profile := by
    rw [active]
    exact (activeProfile_variablesAfter d vars profile).symm
  refine ⟨⟨head_sources_of_load d vars profile loaded, ?_⟩, ?_, ?_, ?_⟩
  · rw [active]
    exact get?_variablesAfter d vars profile
  · rw [keeps]
    exact ⟨fun again => (profile_of_load d after profile again).symm, same⟩
  · intro set
    apply same
    rw [← keeps, active]
    exact profile_kept_of_set d vars profile set
  · intro again reloaded
    have next := profile_of_load d after profile reloaded
    -- The second load starts with the variable set, or with the profile that the first one had.
    have settled : ∀ text, (variablesAfter d after profile).get? profileVariable = some text →
        text = again.profile := by
      cases left : after.get? profileVariable with
      | some text =>
        rw [next]
        exact profile_kept_of_set d after profile ⟨text, left⟩
      | none =>
        have kept : activeProfile after profile = env.profile := keeps.mp (by simp [left])
        rw [(load_again d vars profile (kept.trans active)).1, left]
        nofun
    refine ⟨fun kept => ?_, head_sources_of_load d after profile reloaded, settled, ?_⟩
    · rw [same (next.symm.trans kept)] at reloaded
      exact (Except.ok.inj reloaded).symm
    · rw [next] at settled
      rw [(load_again d after profile
        ((activeProfile_variablesAfter d after profile).mpr settled)).2, reloaded]

/-- A directory whose dotenv file sets the variable of the profile. -/
def selecting : Directory :=
  ⟨"etc", .ofList [(".env", .file (Text.bytesOf "OKTA_ENV_PROFILE=prod\n".toList))]⟩

/-- The first environment has the profile that was asked for, but holds the other one, and loading
again gives another environment. -/
theorem load_again_iff_profile_kept_of_selecting :
    ∃ env, load selecting .empty "dev" = .ok env ∧ env.profile = "dev" ∧
      env.sources.head? = some (.variables (variablesAfter selecting .empty "dev")) ∧
      (variablesAfter selecting .empty "dev").get? profileVariable = some "prod" ∧
      load selecting (variablesAfter selecting .empty "dev") "dev" ≠ .ok env := by
  have loaded : load selecting .empty "dev" =
      .ok (stacked "dev" (variablesAfter selecting .empty "dev") none none) := rfl
  have left : (variablesAfter selecting .empty "dev").get? profileVariable = some "prod" := by
    decide +kernel
  obtain ⟨⟨captured, -⟩, kept, -, -⟩ := load_again_iff_profile_kept selecting .empty "dev" loaded
  refine ⟨_, loaded, rfl, captured, left, fun again => ?_⟩
  have same : "prod" = "dev" := kept.mp again "prod" left
  revert same
  decide

end Environment

end ConfigStack
