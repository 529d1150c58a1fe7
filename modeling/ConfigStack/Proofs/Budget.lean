import ConfigStack.Proofs.Compositional
import Mathlib.Logic.Function.Basic

/-!
# The budget of a read

`answer` counts down the questions that may still be nested. One more nested question never takes
an answer back. At one number of open expansions only finitely many questions lead on to another
one there: the two about each key that a layer asks about. As long as the answers still change,
one of these is answered that was not before; so after that many steps they stay as they are,
provided that those of the next number of open expansions have come to rest already. `reach` adds
this up over all numbers of open expansions. A read that the budget does not settle is thus never
settled, and the answers within the budget satisfy the equations of the sources without any steps
in them (`reads_contains`, `reads_property`, `reads_resolved`).
-/
namespace ConfigStack

/-- What resolving a key comes to if everything it takes is asked of the oracle. -/
def resolveWith (oracle : Oracle) (key : String) : Option (Option Value) :=
  (oracle (.property key)).bind fun found =>
    match found with
    | none => some none
    | some v =>
      (Expansion.value (fun k => oracle (.property k)) v).run.map Except.toOption

/-- The answers of the sources if `here` answers the questions nested at the same number of open
expansions and `deeper` those inside one more. -/
def nested (sources : List Source) (opened : Nat) (here deeper : Oracle) : Oracle
  | .contains key => anyDefines here key sources
  | .property key => firstValue here key sources
  | .resolved key => if nestingLimit ≤ opened then some none else resolveWith deeper key

theorem answer_succ (sources : List Source) (steps opened : Nat) :
    answer sources (steps + 1) opened =
      nested sources opened (answer sources steps opened) (answer sources steps (opened + 1)) := by
  funext q
  cases q with
  | contains key => rfl
  | property key => rfl
  | resolved key =>
    simp only [answer, nested, resolveWith]
    congr 1
    cases answer sources steps (opened + 1) (.property key) with
    | none => rfl
    | some found => cases found <;> rfl

namespace Compositional

variable {R : (α : Type) → Option α → Option α → Prop} (comp : Compositional R)

include comp

theorem resolveWith {low high : Oracle}
    (related : ∀ key, R _ (low (.property key)) (high (.property key))) (key : String) :
    R _ (resolveWith low key) (resolveWith high key) := by
  apply comp.bind (related key)
  intro found
  cases found with
  | none => exact comp.pure none
  | some v => exact comp.map _ (comp.value related v)

theorem nested {low high deepLow deepHigh : Oracle} {sources : List Source} {opened : Nat}
    (here : ∀ q, R _ (low q) (high q))
    (deeper : ∀ key, R _ (deepLow (.property key)) (deepHigh (.property key))) (q : Query) :
    R _ (nested sources opened low deepLow q) (nested sources opened high deepHigh q) := by
  cases q with
  | contains key =>
    exact comp.anyDefines fun s _ => comp.inquiry (fun q _ => here q) (Inquiry.asksOnly_any _)
  | property key =>
    exact comp.firstValue fun s _ => comp.inquiry (fun q _ => here q) (Inquiry.asksOnly_any _)
  | resolved key =>
    simp only [ConfigStack.nested]
    split
    · exact comp.pure none
    · exact comp.resolveWith deeper key

end Compositional

/-- One more nested question takes no answer back. -/
theorem answer_extends (sources : List Source) (steps opened : Nat) (q : Query) :
    Extends _ (answer sources steps opened q) (answer sources (steps + 1) opened q) := by
  -- On the steps, for every number of open expansions: resolving asks inside one more of them.
  induction steps generalizing opened q with
  | zero =>
    intro a found
    simp [answer] at found
  | succ steps ih =>
    rw [answer_succ, answer_succ]
    exact extends_compositional.nested (ih opened) (fun key => ih (opened + 1) (.property key)) q

/-- Oracles of which each extends the one before extend all that came before. -/
theorem extends_of_le {T : Nat → Oracle} (grows : ∀ n q, Extends _ (T n q) (T (n + 1) q))
    {few many : Nat} (more : few ≤ many) (q : Query) : Extends _ (T few q) (T many q) := by
  induction more with
  | refl => exact fun _ same => same
  | step _ ih => exact fun a found => grows _ q a (ih a found)

/-! ### Questions that lead on to another -/

/-- The questions at one number of open expansions that may lead on to another one there. -/
def askingQueries (sources : List Source) : List Query :=
  (sources.flatMap Source.askingOn).flatMap fun key => [.contains key, .property key]

theorem length_askingQueries (sources : List Source) :
    (askingQueries sources).length = 2 * (sources.map Source.askingKeys).foldr (· + ·) 0 := by
  have pairs : ∀ keys : List String,
      (keys.flatMap fun key => [Query.contains key, Query.property key]).length =
        2 * keys.length := by
    intro keys
    induction keys with
    | nil => rfl
    | cons key rest ih =>
      simp only [List.flatMap_cons, List.length_append, List.length_cons, List.length_nil, ih]
      omega
  rw [askingQueries, pairs, List.length_flatMap, List.sum_eq_foldr]
  simp only [Source.length_askingOn]

theorem mem_askingQueries {sources : List Source} {q : Query} :
    q ∈ askingQueries sources ↔
      ∃ key, (q = .contains key ∨ q = .property key) ∧ ∃ s ∈ sources, key ∈ s.askingOn := by
  simp only [askingQueries, List.mem_flatMap, List.mem_cons, List.not_mem_nil, or_false]
  exact exists_congr fun key => and_comm

/-- No source asks about the key of a question that leads on to none. -/
theorem not_asking_of_quiet {sources : List Source} {q : Query} (quiet : q ∉ askingQueries sources)
    {key : String} (same : q = .contains key ∨ q = .property key) :
    ∀ s ∈ sources, key ∉ s.askingOn :=
  fun s member asking => quiet (mem_askingQueries.mpr ⟨key, same, s, member, asking⟩)

theorem nested_of_not_asking {sources : List Source} {opened : Nat} {q : Query}
    (quiet : q ∉ askingQueries sources) (low high deeper : Oracle) :
    nested sources opened low deeper q = nested sources opened high deeper q := by
  -- No source asks about the key, so no source looks at the oracle.
  cases q with
  | contains key =>
    apply eq_compositional.anyDefines
    intro s member
    rw [Source.contains_of_not_asking (not_asking_of_quiet quiet (.inl rfl) s member)]
    rfl
  | property key =>
    apply eq_compositional.firstValue
    intro s member
    rw [Source.get_of_not_asking (not_asking_of_quiet quiet (.inr rfl) s member)]
    rfl
  | resolved key => rfl

/-! ### Coming to rest -/

private theorem countP_lt {α : Type} {p q : α → Bool} {xs : List α}
    (below : ∀ x ∈ xs, p x = true → q x = true) {x : α} (member : x ∈ xs) (before : p x = false)
    (after : q x = true) : xs.countP p < xs.countP q := by
  induction xs with
  | nil => simp at member
  | cons y rest ih =>
    have tail := List.countP_mono_left fun x inside => below x (List.mem_cons_of_mem y inside)
    rcases List.mem_cons.mp member with rfl | inside
    · rw [List.countP_cons_of_neg (by simp [before]), List.countP_cons_of_pos after]
      omega
    · have strict := ih (fun x inside => below x (List.mem_cons_of_mem y inside)) inside
      have head := below y List.mem_cons_self
      simp only [List.countP_cons]
      cases hp : p y with
      | false => cases q y <;> simp <;> omega
      | true => simp only [head hp, if_true]; omega

section Rest

variable {T : Nat → Oracle} (rests : ∀ n, T n = T (n + 1) → T (n + 1) = T (n + 2))

include rests in
/-- Where a step changes nothing and that goes on, no later step changes anything. -/
theorem constant_from {n : Nat} (same : T n = T (n + 1)) {m : Nat} (later : n ≤ m) : T m = T n := by
  -- Carried along with the claim: the next step does not change anything either.
  have pairs : T m = T n ∧ T m = T (m + 1) := by
    induction later with
    | refl => exact ⟨rfl, same⟩
    | step _ ih => exact ⟨ih.2.symm.trans ih.1, rests _ ih.2⟩
  exact pairs.1

variable {asked : List Query} (grows : ∀ n q, Extends _ (T n q) (T (n + 1) q))
  (quiet : ∀ n q, q ∉ asked → T n q = T 0 q)

include grows quiet

/-- A step that changes something answers one more of the questions in the list. -/
theorem answered_lt {n : Nat} (changes : T n ≠ T (n + 1)) :
    (asked.countP fun q => (T n q).isSome) < asked.countP fun q => (T (n + 1) q).isSome := by
  obtain ⟨q, differs⟩ := Function.ne_iff.mp changes
  have inside : q ∈ asked := by
    by_contra outside
    exact differs ((quiet n q outside).trans (quiet (n + 1) q outside).symm)
  -- An answer that is there already would have stayed, so this is a new one.
  have before : T n q = none := by
    cases found : T n q with
    | none => rfl
    | some a => exact absurd (found.trans (grows n q a found).symm) differs
  have after : (T (n + 1) q).isSome = true := by
    rw [Option.isSome_iff_ne_none]
    exact fun none => differs (before.trans none.symm)
  have kept : ∀ q ∈ asked, (T n q).isSome = true → (T (n + 1) q).isSome = true := by
    intro q _ found
    obtain ⟨a, eq⟩ := Option.isSome_iff_exists.mp found
    rw [grows n q a eq]
    rfl
  exact countP_lt kept inside (by rw [before]; rfl) after

include rests

/-- A sequence of oracles that only grows, outside a list of questions does not change, and rests
once it does not change, is at rest after as many steps as the list is long. -/
theorem at_rest {n : Nat} (enough : asked.length ≤ n) : T n = T asked.length := by
  -- Until it rests, as many questions are answered as there were steps.
  have progress : ∀ n, (∀ m, n ≤ m → T m = T n) ∨ n ≤ asked.countP fun q => (T n q).isSome := by
    intro n
    induction n with
    | zero => exact .inr (Nat.zero_le _)
    | succ n ih =>
      by_cases same : T n = T (n + 1)
      · exact .inl fun m later => constant_from rests (rests n same) later
      · rcases ih with still | counted
        · exact absurd (still (n + 1) (Nat.le_succ n)).symm same
        · have strict := answered_lt grows quiet same
          right
          omega
  rcases progress asked.length with still | counted
  · exact still n enough
  -- With all questions of the list answered there is nothing left to change.
  · have all : ∀ q ∈ asked, (T asked.length q).isSome = true :=
      List.countP_eq_length.mp (Nat.le_antisymm List.countP_le_length counted)
    funext q
    by_cases inside : q ∈ asked
    · obtain ⟨a, eq⟩ := Option.isSome_iff_exists.mp (all q inside)
      rw [eq]
      exact extends_of_le grows enough q a eq
    · rw [quiet n q inside, quiet asked.length q inside]

end Rest

/-- At one number of open expansions the answers are at rest a list of asking questions after
those of the next one are. -/
theorem answer_at_rest {sources : List Source} {opened start : Nat}
    (deeper : nestingLimit ≤ opened ∨
      ∀ n, start ≤ n → answer sources n (opened + 1) = answer sources start (opened + 1))
    {n : Nat} (enough : start + 1 + (askingQueries sources).length ≤ n) :
    answer sources n opened =
      answer sources (start + 1 + (askingQueries sources).length) opened := by
  -- From the moment on at which the answers inside one more expansion are at rest, each step is
  -- the same function of the one before.
  let T : Nat → Oracle := fun m => answer sources (start + 1 + m) opened
  have step : ∀ m, T (m + 1) = nested sources opened (T m) (answer sources start (opened + 1)) := by
    intro m
    funext q
    have unfolded := congrFun (answer_succ sources (start + 1 + m) opened) q
    rw [show T (m + 1) = answer sources (start + 1 + m + 1) opened from rfl, unfolded]
    cases q with
    | contains key => rfl
    | property key => rfl
    | resolved key =>
      rcases deeper with limit | still
      · simp only [nested, if_pos limit]
      · simp only [nested, still (start + 1 + m) (by omega)]
  have first : T 0 = nested sources opened (answer sources start opened)
      (answer sources start (opened + 1)) := answer_succ sources start opened
  have rests : ∀ m, T m = T (m + 1) → T (m + 1) = T (m + 2) := by
    intro m same
    rw [step m, step (m + 1), ← same]
  have grows : ∀ m q, Extends _ (T m q) (T (m + 1) q) :=
    fun m q => answer_extends sources (start + 1 + m) opened q
  have quiet : ∀ m q, q ∉ askingQueries sources → T m q = T 0 q := by
    intro m q quiet
    cases m with
    | zero => rfl
    | succ m =>
      rw [step, first]
      exact nested_of_not_asking quiet _ _ _
  obtain ⟨extra, rfl⟩ := Nat.exists_eq_add_of_le (Nat.le_trans (Nat.le_add_right _ _) enough)
  exact at_rest rests grows quiet (by omega)

/-- How many nested questions can make a difference with `opened` expansions open. -/
def reach (sources : List Source) (opened : Nat) : Nat :=
  (nestingLimit - opened + 1) * ((askingQueries sources).length + 1)

theorem answer_reach (sources : List Source) (opened : Nat) {n : Nat}
    (enough : reach sources opened ≤ n) :
    answer sources n opened = answer sources (reach sources opened) opened := by
  -- Downwards from the limit, where nothing is resolved any more.
  induction left : nestingLimit - opened generalizing opened n with
  | zero =>
    have innermost : reach sources opened = 0 + 1 + (askingQueries sources).length := by
      rw [reach, left]
      omega
    rw [innermost] at enough ⊢
    exact answer_at_rest (.inl (by omega)) enough
  | succ left' ih =>
    -- The answers inside one more expansion rest first; then these take their own list of steps.
    have smaller : nestingLimit - (opened + 1) = left' := by omega
    have added : reach sources opened =
        reach sources (opened + 1) + 1 + (askingQueries sources).length := by
      rw [reach, reach, left, smaller, Nat.succ_mul]
      omega
    rw [added] at enough ⊢
    exact answer_at_rest (.inr fun n later => ih (opened + 1) later smaller) enough

namespace Environment

variable (env : Environment)

/-- The answers of the environment with `opened` expansions open around the question. -/
def reads (opened : Nat) : Oracle :=
  answer env.sources env.budget opened

theorem reach_le_budget (opened : Nat) : reach env.sources opened ≤ env.budget := by
  have whole : reach env.sources opened ≤ reach env.sources 0 :=
    Nat.mul_le_mul_right _ (by omega)
  have total : reach env.sources 0 + 1 = env.budget := by
    rw [reach, budget, length_askingQueries, Nat.sub_zero]
  omega

/-- **The budget is enough.** A question that is answered after any number of nested questions has
that answer within the budget. -/
theorem reads_eq_some_iff (opened : Nat) (q : Query) (a : q.Answer) :
    env.reads opened q = some a ↔ ∃ steps, answer env.sources steps opened q = some a := by
  constructor
  · exact fun found => ⟨env.budget, found⟩
  · rintro ⟨steps, found⟩
    have later := extends_of_le (fun n q => answer_extends env.sources n opened q)
      (Nat.le_max_left steps env.budget) q a found
    have atLimit := answer_reach env.sources opened
      (Nat.le_trans (env.reach_le_budget opened) (Nat.le_max_right steps env.budget))
    have atBudget := answer_reach env.sources opened (env.reach_le_budget opened)
    rw [reads, atBudget, ← atLimit]
    exact later

/-- The answers within the budget are what the sources make of these same answers. -/
theorem reads_eq (opened : Nat) :
    env.reads opened = nested env.sources opened (env.reads opened) (env.reads (opened + 1)) := by
  have more := answer_reach env.sources opened
    (Nat.le_succ_of_le (env.reach_le_budget opened))
  have atBudget := answer_reach env.sources opened (env.reach_le_budget opened)
  calc env.reads opened = answer env.sources (env.budget + 1) opened := by
        rw [reads, atBudget, ← more]
    _ = nested env.sources opened (env.reads opened) (env.reads (opened + 1)) :=
        answer_succ env.sources env.budget opened

theorem reads_contains (opened : Nat) (key : String) :
    env.reads opened (.contains key) = anyDefines (env.reads opened) key env.sources :=
  congrFun (env.reads_eq opened) (.contains key)

theorem reads_property (opened : Nat) (key : String) :
    env.reads opened (.property key) = firstValue (env.reads opened) key env.sources :=
  congrFun (env.reads_eq opened) (.property key)

theorem reads_resolved (opened : Nat) (key : String) :
    env.reads opened (.resolved key) =
      if nestingLimit ≤ opened then some none else resolveWith (env.reads (opened + 1)) key :=
  congrFun (env.reads_eq opened) (.resolved key)

end Environment

end ConfigStack
