import ConfigStack.Bootstrap
import Mathlib.Data.List.Chain

/-!
# The sequence of a bootstrap

A bootstrap is a recursion on the processors that are still to run, over the environment and the
log that the others have left. Seen from outside it is a list of turns: each processor is handed
what its predecessor left, all but the last succeed, and the last decides the outcome. `Course`
says this without the recursion, and `runAll_eq_some_iff` that it comes to the same. The order is
stable because the processors of one order are a sublist of the registration that sorting keeps.
-/
namespace ConfigStack.Bootstrap

open Oidc (Trail)

/-! ### The order -/

/-- Processors with their places in the registration, by ascending order and then by place. -/
structure StablyOrdered (processors : List Processor) (queue : List (Processor × Nat)) : Prop where
  all : queue.Perm processors.zipIdx
  ascending : queue.Pairwise fun a b =>
    a.1.order < b.1.order ∨ a.1.order = b.1.order ∧ a.2 < b.2

theorem pairwise_place (processors : List Processor) :
    processors.zipIdx.Pairwise fun a b => a.2 < b.2 := by
  rw [← List.pairwise_map (f := Prod.snd), List.zipIdx_map_snd]
  exact List.pairwise_lt_range'

theorem order_trans (a b c : Processor × Nat) (first : decide (a.1.order ≤ b.1.order) = true)
    (second : decide (b.1.order ≤ c.1.order) = true) : decide (a.1.order ≤ c.1.order) = true := by
  simp only [decide_eq_true_eq] at first second ⊢
  exact Int32.le_trans first second

theorem order_total (a b : Processor × Nat) :
    (decide (a.1.order ≤ b.1.order) || decide (b.1.order ≤ a.1.order)) = true := by
  simpa using Int32.le_total a.1.order b.1.order

/-- The processors of one order run as they were registered. -/
theorem filter_inOrder (processors : List Processor) (order : Int32) :
    (inOrder processors).filter (fun entry => entry.1.order = order) =
      processors.zipIdx.filter fun entry => entry.1.order = order := by
  have kept : (processors.zipIdx.filter fun entry => entry.1.order = order).Sublist
      (inOrder processors) := by
    refine List.sublist_mergeSort order_trans order_total ?_ List.filter_sublist
    rw [List.pairwise_filter]
    apply List.pairwise_of_forall
    intro a b first second
    simp only [decide_eq_true_eq] at first second ⊢
    rw [first, second]
    exact Int32.le_refl order
  have within := kept.filter fun entry => entry.1.order = order
  rw [List.filter_filter] at within
  simp only [Bool.and_self] at within
  -- One is a sublist of the other, and sorting loses none.
  have lengths := ((List.mergeSort_perm processors.zipIdx
    fun a b => decide (a.1.order ≤ b.1.order)).filter fun entry => entry.1.order = order).length_eq
  exact (within.eq_of_length lengths.symm).symm

theorem stablyOrdered_inOrder (processors : List Processor) :
    StablyOrdered processors (inOrder processors) where
  all := List.mergeSort_perm _ _
  ascending := by
    have sorted := List.pairwise_mergeSort order_trans order_total processors.zipIdx
    rw [List.pairwise_iff_forall_sublist] at sorted ⊢
    intro a b pair
    have below : a.1.order ≤ b.1.order := of_decide_eq_true (sorted pair)
    by_cases tie : a.1.order = b.1.order
    · -- Both are among the processors of their order, which stand as in the registration.
      have both := pair.filter fun entry => entry.1.order = b.1.order
      rw [filter_inOrder] at both
      simp only [List.filter_cons, tie, decide_true, if_true, List.filter_nil] at both
      have registered := both.trans List.filter_sublist
      exact .inr ⟨tie, List.pairwise_iff_forall_sublist.mp (pairwise_place processors) registered⟩
    · exact .inl (Int32.lt_of_le_of_ne below tie)

/-- There is only one such order. -/
theorem StablyOrdered.eq_inOrder {processors : List Processor} {queue : List (Processor × Nat)}
    (ordered : StablyOrdered processors queue) : queue = inOrder processors := by
  have sorted := stablyOrdered_inOrder processors
  apply List.Perm.eq_of_pairwise _ ordered.ascending sorted.ascending
    (ordered.all.trans sorted.all.symm)
  intro a b _ _ first second
  simp only [Int32.lt_iff_toInt_lt, ← Int32.toInt_inj] at first second
  omega

/-! ### The course -/

/-- A processor at work: where it was registered, what it was handed, what it came to and what it
reported. -/
structure Turn where
  processor : Processor
  place : Nat
  env : Environment
  seen : List LogRecord
  result : Except ConfigError Environment
  trail : Trail

namespace Turn

def entry (t : Turn) : Processor × Nat := (t.processor, t.place)

def execution (t : Turn) : Execution := ⟨t.place, t.trail⟩

end Turn

/-- What was written in some turns, in their order. -/
def written (turns : List Turn) : List LogRecord :=
  turns.flatMap (·.trail.records)

/-- The turns in which a queue is worked off from an environment and a log on, and the outcome. -/
structure Course (env : Environment) (seen : List LogRecord) (queue : List (Processor × Nat))
    (turns : List Turn) (outcome : Except ConfigError Environment) : Prop where
  /-- Those at the front of the queue have a turn, each once. -/
  inFront : turns.map Turn.entry <+: queue
  /-- In its turn a processor does what it does with what it was handed. -/
  works : ∀ t ∈ turns, t.processor.process t.env t.seen = some (t.result, t.trail)
  /-- The first is handed the environment and the log. -/
  first : ∀ t ∈ turns.head?, t.env = env ∧ t.seen = seen
  /-- Every other one has a predecessor that succeeded, and is handed the environment that it left
  and the log with what it wrote. -/
  next : turns.IsChain fun a b => a.result = .ok b.env ∧ b.seen = a.seen ++ a.trail.records
  /-- The outcome is what the last came to, and the environment itself if there was none. -/
  last : outcome = (turns.getLast?.map Turn.result).getD (.ok env)
  /-- Nobody is left out unless one failed. -/
  whole : ∀ after, outcome = .ok after → turns.map Turn.entry = queue

section Course

variable {env : Environment} {seen : List LogRecord} {p : Processor} {place : Nat}
  {rest : List (Processor × Nat)} {turns : List Turn} {outcome : Except ConfigError Environment}

theorem course_nil_iff : Course env seen [] turns outcome ↔ turns = [] ∧ outcome = .ok env := by
  constructor
  · intro course
    have empty : turns = [] := by simpa using course.inFront
    subst empty
    exact ⟨rfl, course.last⟩
  · rintro ⟨rfl, rfl⟩
    exact {
      inFront := List.prefix_rfl
      works := by simp
      first := by simp
      next := List.isChain_nil
      last := rfl
      whole := fun _ _ => rfl }

/-- A failure ends the course. -/
theorem Course.of_error {e : ConfigError} {trail : Trail}
    (fails : p.process env seen = some (.error e, trail)) :
    Course env seen ((p, place) :: rest) [⟨p, place, env, seen, .error e, trail⟩] (.error e) where
  inFront := by simp [Turn.entry]
  works := by simpa using fails
  first := by simp
  next := List.isChain_singleton _
  last := rfl
  whole := fun _ same => nomatch same

/-- After a success the course goes on with what it left. -/
theorem Course.of_ok {after : Environment} {trail : Trail}
    (succeeds : p.process env seen = some (.ok after, trail))
    (course : Course after (seen ++ trail.records) rest turns outcome) :
    Course env seen ((p, place) :: rest) (⟨p, place, env, seen, .ok after, trail⟩ :: turns)
      outcome where
  inFront := List.cons_prefix_cons.mpr ⟨rfl, course.inFront⟩
  works := List.forall_mem_cons.mpr ⟨succeeds, course.works⟩
  first := by simp
  next := by
    refine List.isChain_cons.mpr ⟨fun t first => ?_, course.next⟩
    obtain ⟨here, log⟩ := course.first t first
    exact ⟨congrArg _ here.symm, log⟩
  last := by
    rw [course.last]
    cases turns with
    | nil => rfl
    | cons t later => rw [List.getLast?_cons_cons]; rfl
  whole := fun end_ same => congrArg _ (course.whole end_ same)

/-- The first turn of a course is the last, or leads into the rest. -/
theorem course_cons_iff :
    Course env seen ((p, place) :: rest) turns outcome ↔
      (∃ e trail, p.process env seen = some (.error e, trail) ∧
        turns = [⟨p, place, env, seen, .error e, trail⟩] ∧ outcome = .error e) ∨
      ∃ after trail later, p.process env seen = some (.ok after, trail) ∧
        turns = ⟨p, place, env, seen, .ok after, trail⟩ :: later ∧
        Course after (seen ++ trail.records) rest later outcome := by
  constructor
  · intro course
    cases turns with
    | nil => exact absurd (course.whole env course.last) (by simp)
    | cons t later =>
      obtain ⟨own, behind⟩ := List.cons_prefix_cons.mp course.inFront
      obtain ⟨here, log⟩ := course.first t rfl
      have works := course.works t List.mem_cons_self
      obtain ⟨hand, chain⟩ := List.isChain_cons.mp course.next
      obtain ⟨processor, at_, e', s', result, trail⟩ := t
      obtain ⟨rfl, rfl⟩ := Prod.mk.inj own
      obtain rfl : e' = env := here
      obtain rfl : s' = seen := log
      cases result with
      | error e =>
        -- A successor would have been handed an environment.
        have alone : later = [] := by
          rw [← List.head?_eq_none_iff, Option.eq_none_iff_forall_not_mem]
          intro t member
          cases (hand t member).1
        subst alone
        exact .inl ⟨e, trail, works, rfl, course.last⟩
      | ok after =>
        refine .inr ⟨after, trail, later, works, rfl, ?_⟩
        exact {
          inFront := behind
          works := fun t member => course.works t (List.mem_cons_of_mem _ member)
          first := fun t member =>
            ⟨(Except.ok.inj (hand t member).1).symm, (hand t member).2⟩
          next := chain
          last := by
            rw [course.last]
            cases later with
            | nil => rfl
            | cons t more => rw [List.getLast?_cons_cons]; rfl
          whole := fun end_ same => (List.cons.inj (course.whole end_ same)).2 }
  · rintro (⟨e, trail, fails, rfl, rfl⟩ | ⟨after, trail, later, succeeds, rfl, course⟩)
    · exact .of_error fails
    · exact .of_ok succeeds course

end Course

/-! ### The run -/

section Step

variable {p : Processor} {env : Environment} {log : DeferredLog} {trail : Trail}

theorem runAll_of_error {e : ConfigError}
    (fails : p.process env log.records = some (.error e, trail)) (place : Nat)
    (rest : List (Processor × Nat)) :
    runAll env log ((p, place) :: rest) =
      some ⟨[⟨place, trail⟩], log.writeAll trail.records, .error e⟩ := by
  simp only [runAll, fails]

theorem runAll_of_ok {after : Environment}
    (succeeds : p.process env log.records = some (.ok after, trail)) (place : Nat)
    (rest : List (Processor × Nat)) :
    runAll env log ((p, place) :: rest) =
      (runAll after (log.writeAll trail.records) rest).map fun r =>
        { r with executions := ⟨place, trail⟩ :: r.executions } := by
  simp only [runAll, succeeds]
  cases runAll after (log.writeAll trail.records) rest <;> rfl

end Step

/-- What is reported of some turns, over a log that had something before. -/
def reportOf (log : DeferredLog) (turns : List Turn) (outcome : Except ConfigError Environment) :
    Report :=
  ⟨turns.map Turn.execution, log.writeAll (written turns), outcome⟩

theorem written_cons (t : Turn) (later : List Turn) :
    written (t :: later) = t.trail.records ++ written later :=
  List.flatMap_cons

/-- Every course is what working off its queue comes to. -/
theorem runAll_of_course {queue : List (Processor × Nat)} {env : Environment} {log : DeferredLog}
    {turns : List Turn} {outcome : Except ConfigError Environment}
    (course : Course env log.records queue turns outcome) :
    runAll env log queue = some (reportOf log turns outcome) := by
  induction queue generalizing env log turns with
  | nil =>
    obtain ⟨rfl, rfl⟩ := course_nil_iff.mp course
    rfl
  | cons entry rest ih =>
    obtain ⟨p, place⟩ := entry
    rcases course_cons_iff.mp course with
      ⟨e, trail, fails, rfl, rfl⟩ | ⟨after, trail, later, succeeds, rfl, onward⟩
    · have alone : written [⟨p, place, env, log.records, .error e, trail⟩] = trail.records :=
        List.append_nil _
      rw [runAll_of_error fails, reportOf, alone]
      rfl
    · rw [← DeferredLog.records_writeAll] at onward
      rw [runAll_of_ok succeeds, ih onward, reportOf, reportOf, written_cons,
        DeferredLog.writeAll_append]
      rfl

/-- Working off a queue is a course. -/
theorem course_of_runAll {queue : List (Processor × Nat)} {env : Environment} {log : DeferredLog}
    {r : Report} (ran : runAll env log queue = some r) :
    ∃ turns, Course env log.records queue turns r.outcome := by
  -- On the queue, for every environment and log that may have been left.
  induction queue generalizing env log r with
  | nil =>
    obtain rfl := Option.some.inj ran
    exact ⟨[], course_nil_iff.mpr ⟨rfl, rfl⟩⟩
  | cons entry rest ih =>
    obtain ⟨p, place⟩ := entry
    rcases process : p.process env log.records with _ | ⟨e | after, trail⟩
    · rw [runAll, process] at ran
      cases ran
    · rw [runAll_of_error process] at ran
      obtain rfl := Option.some.inj ran
      exact ⟨_, .of_error process⟩
    · rw [runAll_of_ok process] at ran
      obtain ⟨later, behind, rfl⟩ := Option.map_eq_some_iff.mp ran
      obtain ⟨turns, onward⟩ := ih behind
      rw [DeferredLog.records_writeAll] at onward
      exact ⟨_, .of_ok process onward⟩

/-- Where every processor comes to an end, so does working off a queue of them. -/
theorem runAll_ends {queue : List (Processor × Nat)}
    (ends : ∀ entry ∈ queue, ∀ env seen, ∃ result, entry.1.process env seen = some result)
    (env : Environment) (log : DeferredLog) : ∃ r, runAll env log queue = some r := by
  induction queue generalizing env log with
  | nil => exact ⟨_, rfl⟩
  | cons entry rest ih =>
    obtain ⟨⟨result, trail⟩, process⟩ := ends entry List.mem_cons_self env log.records
    have behind := ih fun other member => ends other (List.mem_cons_of_mem entry member)
    cases result with
    | error e => exact ⟨_, runAll_of_error process _ _⟩
    | ok after =>
      obtain ⟨r, ran⟩ := behind after (log.writeAll trail.records)
      exact ⟨_, by rw [runAll_of_ok process, ran, Option.map_some]⟩

/-- A report of the processors worked off in stable order, from the environment and an empty log
on. -/
def Sequenced (env : Environment) (processors : List Processor) (r : Report) : Prop :=
  ∃ queue turns, StablyOrdered processors queue ∧ Course env [] queue turns r.outcome ∧
    r.executions = turns.map Turn.execution ∧ r.log.records = written turns

theorem run_eq_some_iff (env : Environment) (processors : List Processor) (r : Report) :
    run env processors = some r ↔ Sequenced env processors r := by
  have onlyThese : ∀ turns, ({} : DeferredLog).writeAll (written turns) = ⟨written turns⟩ :=
    fun turns => congrArg DeferredLog.mk (DeferredLog.records_writeAll {} (written turns))
  constructor
  · intro ran
    obtain ⟨turns, course⟩ := course_of_runAll ran
    -- The report is the one of its own course.
    have same := Option.some.inj ((runAll_of_course course).symm.trans ran)
    rw [reportOf, onlyThese] at same
    exact ⟨_, turns, stablyOrdered_inOrder processors, course,
      (congrArg Report.executions same).symm, (congrArg (·.log.records) same).symm⟩
  · rintro ⟨queue, turns, ordered, course, executions, records⟩
    obtain rfl := ordered.eq_inOrder
    obtain ⟨done, ⟨kept⟩, outcome⟩ := r
    obtain rfl : done = _ := executions
    obtain rfl : kept = _ := records
    rw [run, runAll_of_course course, reportOf, onlyThese]

/-- No processor runs twice. -/
theorem Sequenced.nodup_places {env : Environment} {processors : List Processor} {r : Report}
    (sequenced : Sequenced env processors r) : (r.executions.map Execution.place).Nodup := by
  obtain ⟨queue, turns, ordered, course, executions, -⟩ := sequenced
  have places : r.executions.map Execution.place = (turns.map Turn.entry).map Prod.snd := by
    rw [executions, List.map_map, List.map_map]
    rfl
  have registered : (queue.map Prod.snd).Nodup := by
    rw [(ordered.all.map Prod.snd).nodup_iff, List.zipIdx_map_snd]
    exact List.nodup_range'
  rw [places]
  exact registered.sublist (course.inFront.map Prod.snd).sublist

/-- What the executions report in their order is what the log has. -/
theorem Sequenced.records_log {env : Environment} {processors : List Processor} {r : Report}
    (sequenced : Sequenced env processors r) :
    r.log.records = r.executions.flatMap (·.trail.records) := by
  obtain ⟨queue, turns, -, -, executions, records⟩ := sequenced
  rw [records, executions, List.flatMap_map]
  rfl

/-- **The sequence of a bootstrap.** Where every processor comes to an end, so does the bootstrap.
It gives the one report of the processors worked off in stable order: those up to the first that
fails have run, each once and each with what its predecessor left, and the outcome is the failure
or what the last one left. Whatever the outcome, a sink is handed what they reported, each record
once. -/
theorem run_sequenced (env : Environment) (processors : List Processor)
    (ends : ∀ p ∈ processors, ∀ env seen, ∃ result, p.process env seen = some result) :
    ∃ r, run env processors = some r ∧ Sequenced env processors r ∧
      (∀ other, Sequenced env processors other → other = r) ∧
      (r.executions.map Execution.place).Nodup ∧
      ∀ {σ : Type} (accept : σ → LogRecord → σ) (sink : σ),
        r.replay accept sink = (r.executions.flatMap (·.trail.records)).foldl accept sink := by
  have queued : ∀ entry ∈ inOrder processors, ∀ env seen,
      ∃ result, entry.1.process env seen = some result := by
    intro entry member
    rw [inOrder, List.mem_mergeSort] at member
    exact ends entry.1 (List.fst_mem_of_mem_zipIdx member)
  obtain ⟨r, ran⟩ := runAll_ends queued env {}
  have sequenced := (run_eq_some_iff env processors r).mp ran
  refine ⟨r, ran, sequenced, ?_, sequenced.nodup_places, ?_⟩
  · intro other sequencedToo
    have ranToo := (run_eq_some_iff env processors other).mpr sequencedToo
    exact Option.some.inj (ranToo.symm.trans ran)
  · intro σ accept sink
    rw [← sequenced.records_log]
    rfl

/-- A processor that reports its name and then fails, or leaves an empty layer. -/
def stamping (name : String) (order : Int32) (fails : Bool := false) : Processor where
  name
  order
  process env _ :=
    let trail : Trail := { records := [⟨.info, name, "ran"⟩] }
    if fails then some (.error (.bootstrap name "failed"), trail)
    else some (.ok (env.addLast (.layer (.static ⟨name, .empty⟩))), trail)

/-- Two processors of one order, of which the second fails, one before them and one behind. -/
def stampings : List Processor :=
  [stamping "first" 0, stamping "early" (-1), stamping "second" 0 true, stamping "late" 5]

theorem run_sequenced_of_stampings :
    (∀ p ∈ stampings, ∀ env seen, ∃ result, p.process env seen = some result) ∧
      ∃ r, run (.new "test") stampings = some r ∧
        r.executions.map Execution.place = [1, 0, 2] ∧
        r.outcome = .error (.bootstrap "second" "failed") ∧
        r.replay (fun origins record => origins ++ [record.origin]) [] =
          ["early", "first", "second"] := by
  have ends : ∀ p ∈ stampings, ∀ env seen, ∃ result, p.process env seen = some result := by
    simp [stampings, stamping]
  obtain ⟨r, ran, -, unique, -, replays⟩ := run_sequenced (.new "test") stampings ends
  have ordered : StablyOrdered stampings
      [(stamping "early" (-1), 1), (stamping "first" 0, 0), (stamping "second" 0 true, 2),
        (stamping "late" 5, 3)] := by
    constructor
    · exact List.Perm.swap _ _ _
    · simp [stamping]
  have course : Course (.new "test") [] [(stamping "early" (-1), 1), (stamping "first" 0, 0),
      (stamping "second" 0 true, 2), (stamping "late" 5, 3)] _ _ :=
    Course.of_ok rfl <| Course.of_ok rfl <| Course.of_error rfl
  have same := unique ⟨_, _, _⟩ ⟨_, _, ordered, course, rfl, rfl⟩
  refine ⟨ends, r, ran, ?_, ?_, ?_⟩
  · rw [← same]
    rfl
  · rw [← same]
  · rw [replays, ← same]
    rfl

end ConfigStack.Bootstrap
