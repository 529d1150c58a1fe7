import ConfigStack.Proofs.Presence
import ConfigStack.Proofs.Work
import Mathlib.Data.Finite.Defs
import Mathlib.Data.Set.Finite.List
import Mathlib.Logic.Relation
import Mathlib.Order.WellFounded

/-!
# Answers without a limit

`Evaluates` answers every question by the work behind it, however many expansions are open, and says
how many were open at once. There is at most one such answer; and there is one to every question
exactly if no question leads back to itself. For only the questions that a source has to ask about
lead on to others at the same number of open expansions, and there are finitely many of those.
-/
namespace ConfigStack

variable {α β : Type} {sources : List Source}

/-- The inquiry comes to the result if each of its questions is answered by its own work, and
`nesting` is the greatest number of expansions that are open at once on the way. -/
inductive Evaluates (sources : List Source) : {α : Type} → Inquiry α → α → (nesting : Nat) → Prop
  | done {α : Type} (a : α) : Evaluates sources (.done a) a 0
  | ask {α : Type} {q : Query} {next : q.Answer → Inquiry α} {answer : q.Answer} {a : α}
      {inside after : Nat} :
      Evaluates sources (q.work sources) answer inside → Evaluates sources (next answer) a after →
        Evaluates sources (.ask q next) a (max (inside + q.opens) after)

/-- The greatest number of expansions open at once and the result are determined. -/
theorem Evaluates.unique {i : Inquiry α} {a b : α} {n m : Nat} (first : Evaluates sources i a n)
    (second : Evaluates sources i b m) : a = b ∧ n = m := by
  induction first generalizing m with
  | done a =>
    cases second
    exact ⟨rfl, rfl⟩
  | ask _ _ ihWork ihNext =>
    cases second with
    | ask work next =>
      obtain ⟨rfl, rfl⟩ := ihWork work
      obtain ⟨rfl, rfl⟩ := ihNext next
      exact ⟨rfl, rfl⟩

/-- Within the limit the environment answers as if there were none. -/
theorem Evaluates.run_reads {env : Environment} {i : Inquiry α} {a : α} {n opened : Nat}
    (evaluates : Evaluates env.sources i a n) (fits : opened + n ≤ nestingLimit) :
    i.run (env.reads opened) = some a := by
  induction evaluates generalizing opened with
  | done a => rfl
  | @ask _ q _ _ _ inside after _ _ ihWork ihNext =>
    -- The work of the question stands as many expansions further in as the question opens.
    have room : opened + q.opens + inside ≤ nestingLimit := by omega
    rw [Inquiry.run_ask, env.reads_eq_work (by omega), ihWork room, Option.bind_some]
    exact ihNext (by omega)

/-! ### Presence and value -/

/-- The same answers, as far as they take fewer than `steps` nested questions. -/
def unlimited (sources : List Source) : (steps : Nat) → Oracle
  | 0, _ => none
  | steps + 1, q => (q.work sources).run (unlimited sources steps)

theorem unlimited_extends (sources : List Source) (steps : Nat) (q : Query) :
    Extends _ (unlimited sources steps q) (unlimited sources (steps + 1) q) := by
  induction steps generalizing q with
  | zero => exact nofun
  | succ steps ih =>
    exact extends_compositional.inquiry (fun q _ => ih q) (Inquiry.asksOnly_any _)

theorem coherent_unlimited (sources : List Source) (steps : Nat) :
    (unlimited sources steps).Coherent := by
  induction steps with
  | zero => exact fun key => rfl
  | succ steps ih =>
    intro key
    rw [unlimited, unlimited, Query.run_work_contains, Query.run_work_property]
    exact anyDefines_eq ih key sources

theorem Evaluates.run_unlimited {i : Inquiry α} {a : α} {n : Nat}
    (evaluates : Evaluates sources i a n) :
    ∃ least, ∀ steps, least ≤ steps → i.run (unlimited sources steps) = some a := by
  induction evaluates with
  | done a => exact ⟨0, fun _ _ => rfl⟩
  | ask _ _ ihWork ihNext =>
    obtain ⟨first, work⟩ := ihWork
    obtain ⟨second, next⟩ := ihNext
    -- Steps that are enough are so when there are more of them, hence enough for both parts.
    refine ⟨max (first + 1) second, fun steps enough => ?_⟩
    have answered := extends_of_le (unlimited_extends sources)
      (show first + 1 ≤ steps by omega) _ _ (work first (Nat.le_refl first))
    rw [Inquiry.run_ask, answered]
    exact next steps (by omega)

/-- Without a limit, too, a key is contained exactly if it has a value. -/
theorem Evaluates.present {key : String} {found : Option Value} {present : Bool} {n m : Nat}
    (value : Evaluates sources (Inquiry.property key) found n)
    (presence : Evaluates sources (Inquiry.contains key) present m) : present = found.isSome := by
  obtain ⟨first, valueRuns⟩ := value.run_unlimited
  obtain ⟨second, presenceRuns⟩ := presence.run_unlimited
  have same := coherent_unlimited sources (max first second) key
  rw [← Inquiry.run_contains (unlimited _ _), ← Inquiry.run_property (unlimited _ _),
    valueRuns _ (Nat.le_max_left ..), presenceRuns _ (Nat.le_max_right ..), Option.map_some,
    Option.some.injEq] at same
  exact same

/-! ### Which questions lead to which -/

/-- The question is asked on the way to the result of the inquiry. -/
inductive Asked (sources : List Source) : {α : Type} → Inquiry α → Query → Prop
  | here {α : Type} {q : Query} {next : q.Answer → Inquiry α} : Asked sources (.ask q next) q
  | later {α : Type} {q other : Query} {next : q.Answer → Inquiry α} {answer : q.Answer} {n : Nat} :
      Evaluates sources (q.work sources) answer n → Asked sources (next answer) other →
        Asked sources (.ask q next) other

/-- Answering the one question takes asking the other. -/
def Leads (sources : List Source) (q other : Query) : Prop :=
  Asked sources (q.work sources) other

/-- No question is asked again on the way to its own answer. -/
def Acyclic (sources : List Source) : Prop :=
  ∀ q, ¬Relation.TransGen (Leads sources) q q

def Answered (sources : List Source) (q : Query) : Prop :=
  ∃ a n, Evaluates sources (q.work sources) a n

/-- An inquiry comes to a result if all that it asks is answered. -/
theorem evaluates_of_asked {i : Inquiry α}
    (answered : ∀ q, Asked sources i q → Answered sources q) :
    ∃ a n, Evaluates sources i a n := by
  induction i with
  | done a => exact ⟨a, 0, .done a⟩
  | ask q next ih =>
    obtain ⟨b, inside, work⟩ := answered q .here
    obtain ⟨a, after, rest⟩ := ih b fun other asked => answered other (.later work asked)
    exact ⟨a, _, .ask work rest⟩

/-- What is answered leads to no infinite chain of questions. -/
theorem Evaluates.accessible {i : Inquiry α} {a : α} {n : Nat}
    (evaluates : Evaluates sources i a n) {q : Query} (asked : Asked sources i q) :
    Acc (flip (Leads sources)) q := by
  induction evaluates generalizing q with
  | done a => cases asked
  | ask work _ ihWork ihNext =>
    cases asked with
    | here => exact Acc.intro _ fun other leads => ihWork leads
    | later same asked =>
      -- What is asked later depends on the answer, and there is no other answer than this one.
      obtain ⟨rfl, -⟩ := work.unique same
      exact ihNext asked

theorem not_cycle_of_accessible {q : Query} (accessible : Acc (flip (Leads sources)) q) :
    ¬Relation.TransGen (Leads sources) q q := by
  induction accessible with
  | intro q _ ih =>
    -- A cycle through a question is one through the next question on it.
    intro cycle
    obtain ⟨next, leads, back⟩ := Relation.TransGen.head'_iff.mp cycle
    exact ih next leads (Relation.TransGen.tail' back leads)

/-! ### Expansions ask for values only -/

/-- A question for the value of a key. -/
def Query.ForValue (q : Query) : Prop :=
  ∃ key, q = .property key

namespace Asking

theorem asksOnly_bind {allowed : Query → Prop} {x : Asking α} {f : α → Asking β}
    (first : x.run.AsksOnly allowed) (second : ∀ a, (f a).run.AsksOnly allowed) :
    (x >>= f).run.AsksOnly allowed := by
  rw [ExceptT.run_bind]
  refine Inquiry.asksOnly_bind first fun result => ?_
  cases result with
  | error e => trivial
  | ok a => exact second a

theorem asksOnly_expand {allowed : Query → Prop} {lookup : String → Asking String}
    (within : ∀ key, (lookup key).run.AsksOnly allowed) (raw : String) :
    (Template.expand lookup raw).run.AsksOnly allowed := by
  have segments : ∀ after segments,
      (Template.expandSegments lookup after segments).run.AsksOnly allowed := by
    intro after segments
    induction segments with
    | nil => trivial
    | cons s rest ih =>
      exact asksOnly_bind (within s.key) fun text => asksOnly_bind ih fun more => trivial
  refine asksOnly_bind (segments _ _) fun filled => ?_
  split <;> trivial

theorem asksOnly_text (levels : Nat) (raw : String) :
    (Inquiry.text levels raw).run.AsksOnly Query.ForValue := by
  induction levels generalizing raw with
  | zero =>
    rw [Inquiry.text]
    split <;> trivial
  | succ levels ih =>
    rw [Inquiry.text]
    split
    · apply asksOnly_expand
      intro key
      have lifted : (ExceptT.lift (Inquiry.property key) : Asking (Option Value)).run.AsksOnly
          Query.ForValue := ⟨⟨key, rfl⟩, fun _ => trivial⟩
      refine asksOnly_bind lifted fun found => ?_
      cases found with
      | none => trivial
      | some v => exact asksOnly_bind trivial ih
    · trivial

theorem asksOnly_value (v : Value) : (Inquiry.value v).run.AsksOnly Query.ForValue := by
  induction v using Inquiry.value.induct
    (motive_2 := fun items => (Inquiry.values items).run.AsksOnly Query.ForValue) with
  | case1 s => exact asksOnly_bind (asksOnly_text nestingLimit s) fun _ => trivial
  | case2 items ih => exact asksOnly_bind ih fun _ => trivial
  | case3 v notString notList =>
    rw [Inquiry.value.eq_3 _ notString notList]
    trivial
  | case4 => trivial
  | case5 item rest first others =>
    exact asksOnly_bind first fun _ => asksOnly_bind others fun _ => trivial

end Asking

theorem Asked.of_asksOnly {allowed : Query → Prop} {i : Inquiry α} {q : Query}
    (asked : Asked sources i q) (within : i.AsksOnly allowed) : allowed q := by
  induction asked with
  | here => exact within.1
  | later _ _ ih => exact ih (within.2 _)

/-- Resolving a key leads to questions for values only. -/
theorem forValue_of_resolved {key : String} {q : Query} (leads : Leads sources (.resolved key) q) :
    q.ForValue := by
  apply Asked.of_asksOnly leads
  refine Inquiry.asksOnly_bind ⟨⟨key, rfl⟩, fun _ => trivial⟩ fun found => ?_
  cases found with
  | none => trivial
  | some v => exact Inquiry.asksOnly_bind (Asking.asksOnly_value v) fun _ => trivial

/-! ### Finitely many questions lead on -/

theorem anyDefines_of_silent {key : String} {sources : List Source}
    (silent : ∀ s ∈ sources, key ∉ s.askingOn) :
    ∃ found, Inquiry.anyDefines key sources = .done found := by
  induction sources with
  | nil => exact ⟨false, rfl⟩
  | cons source rest ih =>
    have tail := ih fun s member => silent s (List.mem_cons_of_mem source member)
    rw [Inquiry.anyDefines, Source.contains_of_not_asking (silent source List.mem_cons_self)]
    cases (source.ownValue key).isSome with
    | true => exact ⟨true, rfl⟩
    | false => exact tail

theorem firstValue_of_silent {key : String} {sources : List Source}
    (silent : ∀ s ∈ sources, key ∉ s.askingOn) :
    ∃ found, Inquiry.firstValue key sources = .done found := by
  induction sources with
  | nil => exact ⟨none, rfl⟩
  | cons source rest ih =>
    have tail := ih fun s member => silent s (List.mem_cons_of_mem source member)
    rw [Inquiry.firstValue, Source.get_of_not_asking (silent source List.mem_cons_self)]
    cases source.ownValue key with
    | some v => exact ⟨some v, rfl⟩
    | none => exact tail

/-- A question about a key that no source has to ask about is answered at once. -/
theorem work_of_not_asking {q : Query} (plain : q.opens = 0) (quiet : q ∉ askingQueries sources) :
    ∃ a, q.work sources = .done a := by
  cases q with
  | contains key => exact anyDefines_of_silent (not_asking_of_quiet quiet (.inl rfl))
  | property key => exact firstValue_of_silent (not_asking_of_quiet quiet (.inr rfl))
  | resolved key => cases plain

theorem answered_of_not_asking {q : Query} (plain : q.opens = 0)
    (quiet : q ∉ askingQueries sources) : Answered sources q := by
  obtain ⟨a, work⟩ := work_of_not_asking plain quiet
  refine ⟨a, 0, ?_⟩
  rw [work]
  exact .done a

/-- A question is answered if all questions are that it leads to and that lead on at the same number
of open expansions. -/
theorem answered_of_reachable {q : Query}
    (answered : ∀ asking ∈ askingQueries sources,
      Relation.ReflTransGen (Leads sources) q asking → Answered sources asking) :
    Answered sources q := by
  by_cases asking : q ∈ askingQueries sources
  · exact answered q asking .refl
  cases q with
  | contains key => exact answered_of_not_asking rfl asking
  | property key => exact answered_of_not_asking rfl asking
  | resolved key =>
    -- One step further on only values are asked for.
    refine evaluates_of_asked fun next leads => ?_
    obtain ⟨other, rfl⟩ := forValue_of_resolved leads
    by_cases asking : Query.property other ∈ askingQueries sources
    · exact answered _ asking (.single leads)
    · exact answered_of_not_asking rfl asking

/-- Without a limit every question has an answer if and only if none leads back to itself. -/
theorem answered_iff_acyclic : (∀ q, Answered sources q) ↔ Acyclic sources := by
  constructor
  · intro answered q
    obtain ⟨a, n, evaluates⟩ := answered q
    exact not_cycle_of_accessible (Acc.intro q fun other leads => evaluates.accessible leads)
  · intro acyclic
    -- Among the finitely many questions that lead on, to lead to is a well-founded relation.
    let Leading := {q // q ∈ askingQueries sources}
    let Below : Leading → Leading → Prop := fun b a => Relation.TransGen (Leads sources) a.1 b.1
    have finite : Finite Leading := (List.finite_toSet (askingQueries sources)).to_subtype
    have irreflexive : Std.Irrefl Below := ⟨fun a cycle => acyclic a.1 cycle⟩
    have transitive : IsTrans Leading Below := ⟨fun a b c first second => second.trans first⟩
    have founded : WellFounded Below := Finite.wellFounded_of_trans_of_irrefl Below
    have asking : ∀ a : Leading, Answered sources a.1 := by
      intro a
      induction a using founded.induction with
      | _ a ih =>
        refine evaluates_of_asked fun next leads => ?_
        exact answered_of_reachable fun b member path => ih ⟨b, member⟩ (.head' leads path)
    exact fun q => answered_of_reachable fun b member _ => asking ⟨b, member⟩

end ConfigStack
