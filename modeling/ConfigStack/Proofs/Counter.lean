import ConfigStack.Proofs.Evaluation
import ConfigStack.Proofs.Seams

/-!
# The counter of open expansions

The open expansions are counted in a place that every read shares: resolving a key looks at the
counter, sets it one higher while it works, and puts back what it found. `counted` answers
questions in that way. It gives the answers that the environment gives at the number the counter
starts with, and leaves the counter as it was.

At the limit a key resolves to nothing, which looks like a key that is not there. It shows in no
answer that stays within the limit: such an answer is the one that `Evaluates` gives without any
counter. The bound is exact, as a tower of keys shows of which each resolves the one below.
-/
namespace ConfigStack

variable {α : Type} {sources : List Source}

/-- Runs an inquiry whose questions are answered with a counter at hand. -/
def Inquiry.runCounting (oracle : (q : Query) → StateT Nat Option q.Answer) :
    Inquiry α → StateT Nat Option α
  | .done a => pure a
  | .ask q next => do (next (← oracle q)).runCounting oracle

/-- Answers a question by its work, with the number of open expansions in the counter. -/
def counted (sources : List Source) : (steps : Nat) → (q : Query) → StateT Nat Option q.Answer
  | 0, _ => StateT.lift none
  | steps + 1, .contains key =>
    (Query.work sources (.contains key)).runCounting (counted sources steps)
  | steps + 1, .property key =>
    (Query.work sources (.property key)).runCounting (counted sources steps)
  | steps + 1, .resolved key => do
    let opened ← get
    if nestingLimit ≤ opened then return none
    set (opened + 1)
    let result ← (Query.work sources (.resolved key)).runCounting (counted sources steps)
    set opened
    return result

/-- An inquiry whose questions leave the counter as it was does so too. -/
theorem Inquiry.runCounting_eq {oracle : (q : Query) → StateT Nat Option q.Answer}
    {plain : Oracle} {opened : Nat}
    (same : ∀ q, (oracle q).run opened = (plain q).map fun a => (a, opened)) (i : Inquiry α) :
    (i.runCounting oracle).run opened = (i.run plain).map fun a => (a, opened) := by
  induction i with
  | done a => rfl
  | ask q next ih =>
    rw [runCounting, StateT.run_bind, same q, run_ask]
    cases plain q with
    | none => rfl
    | some answer => exact ih answer

/-- **The counter is kept.** With a counter at any number the answers are those at that number of
open expansions, and the counter is back at it afterwards. -/
theorem counted_eq (sources : List Source) (steps opened : Nat) (q : Query) :
    (counted sources steps q).run opened =
      (answer sources steps opened q).map fun a => (a, opened) := by
  induction steps generalizing opened q with
  | zero => rfl
  | succ steps ih =>
    rw [answer_succ]
    cases q with
    | contains key =>
      rw [counted, Inquiry.runCounting_eq (ih opened), Query.run_work_contains, nested]
    | property key =>
      rw [counted, Inquiry.runCounting_eq (ih opened), Query.run_work_property, nested]
    | resolved key =>
      rw [counted, nested, StateT.run_bind, StateT.run_get, pure_bind]
      split
      · rfl
      · -- The work runs with the counter one higher and leaves it there; then it is put back.
        have inside := Inquiry.runCounting_eq (ih (opened + 1)) (Query.work sources (.resolved key))
        rw [Query.run_work_resolved] at inside
        rw [StateT.run_bind, StateT.run_set, pure_bind, StateT.run_bind, inside]
        cases resolveWith (answer sources steps (opened + 1)) key <;> rfl

namespace Environment

/-- The answer of the environment as it is read, with the counter at hand. -/
def countedRead (env : Environment) (q : Query) : StateT Nat Option q.Answer :=
  counted env.sources env.budget q

theorem countedRead_eq (env : Environment) (opened : Nat) (q : Query) :
    (env.countedRead q).run opened = (env.reads opened q).map fun a => (a, opened) :=
  counted_eq env.sources env.budget opened q

end Environment

/-! ### A tower of keys -/

/-- A storey of a tower: a value under the first name, and under each further name what the name
before resolves to. -/
def storey (name : Nat → String) (v : Value) : Nat → Layer
  | 0 => .static ⟨"ground", .ofList [(name 0, v)]⟩
  | i + 1 => .computed ⟨"storey", name (i + 1), .resolved (name i)⟩

/-- The storeys up to a height, in any order. -/
structure Tower (name : Nat → String) (v : Value) (height : Nat) where
  layers : List Layer
  perm : layers.Perm ((List.range (height + 1)).map (storey name v))
  /-- No two storeys share a name. -/
  distinct : Function.Injective name
  /-- There is nothing to expand in the value. -/
  plain : ∀ s ∈ v.strings, Template.hasOpening s = false

/-- A value whose strings are plain expands to itself, and nothing is asked for it. -/
theorem Inquiry.value_of_plain {v : Value}
    (plain : ∀ s ∈ v.strings, Template.hasOpening s = false) : Inquiry.value v = pure v := by
  induction v using Inquiry.value.induct
    (motive_2 := fun items => (∀ s ∈ Value.stringsOfItems items, Template.hasOpening s = false) →
      Inquiry.values items = pure items) with
  | case1 s =>
    have own : s ∈ (Value.string s).strings := by
      rw [Value.strings]
      exact List.mem_singleton_self s
    rw [value, text_of_plain (plain s own)]
    rfl
  | case2 items ih =>
    rw [Value.strings] at plain
    rw [value, ih plain]
    rfl
  | case3 v notString notList => rw [value.eq_3 _ notString notList]
  | case4 => rfl
  | case5 item rest first others plain =>
    rw [Value.stringsOfItems, List.forall_mem_append] at plain
    rw [values, first plain.1, others plain.2]
    rfl

/-- A single question takes what is behind it, inside the expansion that it opens. -/
theorem Evaluates.single {q : Query} {a : q.Answer} {n : Nat}
    (work : Evaluates sources (q.work sources) a n) :
    Evaluates sources (.ask q .done) a (n + q.opens) := by
  simpa using Evaluates.ask work (.done a)

/-- A key whose value has nothing to expand resolves to it. -/
theorem Evaluates.work_resolved {key : String} {v : Value} {n : Nat}
    (plain : ∀ s ∈ v.strings, Template.hasOpening s = false)
    (held : Evaluates sources ((Query.property key).work sources) (some v) n) :
    Evaluates sources ((Query.resolved key).work sources) (some v) n := by
  have behind : Evaluates sources (do return (← (Inquiry.value v).run).toOption) (some v) 0 := by
    rw [Inquiry.value_of_plain plain]
    exact .done (some v)
  have work : Evaluates sources ((Query.resolved key).work sources) (some v) (max n 0) :=
    .ask held behind
  rwa [Nat.max_zero] at work

namespace Tower

variable {name : Nat → String} {v : Value} {height i : Nat} (tower : Tower name v height)

def stack : List Source :=
  tower.layers.map .layer

theorem mem_definedKeys_storey {key : String} :
    key ∈ (storey name v i).definedKeys ↔ key = name i := by
  cases i with
  | zero => simp [storey, Layer.definedKeys, Table.mem_sortedKeys_ofList]
  | succ i => exact List.mem_singleton

/-- Only its own storey defines a name. -/
theorem filter_layers (low : i ≤ height) :
    tower.layers.filter (fun l => name i ∈ l.definedKeys) = [storey name v i] := by
  have own : ((List.range (height + 1)).map (storey name v)).filter
      (fun l => name i ∈ l.definedKeys) = [storey name v i] := by
    have same : ∀ j ∈ List.range (height + 1),
        decide (name i ∈ (storey name v j).definedKeys) = decide (j = i) := by
      intro j _
      rw [decide_eq_decide, mem_definedKeys_storey, tower.distinct.eq_iff, eq_comm]
    have once : (List.range (height + 1)).count i = 1 :=
      List.count_eq_one_of_mem List.nodup_range (List.mem_range.mpr (Nat.lt_succ_of_le low))
    rw [List.filter_map, Function.comp_def, List.filter_congr same, List.filter_eq, once]
    rfl
  have perm := tower.perm.filter fun l => name i ∈ l.definedKeys
  rw [own] at perm
  exact List.perm_singleton.mp perm

theorem work_property (low : i ≤ height) :
    (Query.property (name i)).work tower.stack =
      Inquiry.firstValue (name i) [.layer (storey name v i)] := by
  rw [Query.work, stack, Inquiry.firstValue_layers, tower.filter_layers low]
  rfl

theorem work_property_zero : (Query.property (name 0)).work tower.stack = .done (some v) := by
  have held : (Table.ofList [(name 0, v)]).get? (name 0) = some v := by
    simp [Table.get?_ofList]
  rw [tower.work_property (Nat.zero_le height), Inquiry.firstValue, Source.get, storey, Layer.get,
    held]
  rfl

theorem work_property_succ (low : i + 1 ≤ height) :
    (Query.property (name (i + 1))).work tower.stack = .resolved (name i) := by
  rw [tower.work_property low, Inquiry.firstValue, Source.get, storey, Layer.get, if_pos rfl]
  show Inquiry.ask _ _ = Inquiry.ask _ _
  congr 1
  funext found
  cases found <;> rfl

theorem work_contains_succ (low : i + 1 ≤ height) :
    (Query.contains (name (i + 1))).work tower.stack =
      .ask (.resolved (name i)) fun found => .done found.isSome := by
  rw [Query.work, stack, Inquiry.anyDefines_layers, tower.filter_layers low, List.map_singleton,
    Inquiry.anyDefines, Source.contains, storey, Layer.contains, if_pos rfl]
  show Inquiry.ask _ _ = Inquiry.ask _ _
  congr 1
  funext found
  cases found <;> rfl

/-- Every name has the value, and as many expansions are open at once as there are storeys below. -/
theorem evaluates_work (low : i ≤ height) :
    Evaluates tower.stack ((Query.property (name i)).work tower.stack) (some v) i := by
  induction i with
  | zero =>
    rw [work_property_zero]
    exact .done (some v)
  | succ i ih =>
    rw [tower.work_property_succ low]
    exact ((ih (by omega)).work_resolved tower.plain).single

/-- Beyond the limit a name that is not the first has no value. -/
theorem reads_beyond {profile : String} {opened : Nat} (low : i + 1 ≤ height)
    (beyond : nestingLimit < opened + (i + 1)) :
    Environment.reads ⟨profile, tower.stack⟩ opened (.property (name (i + 1))) = some none := by
  rw [Environment.reads_property, ← Query.run_work_property, tower.work_property_succ low,
    Inquiry.run_resolved]
  -- One storey down the counter is one higher, so the sum of the two stays beyond the limit until
  -- the counter itself is at it. What is absent there is absent all the way up again.
  induction i generalizing opened with
  | zero => rw [Environment.reads_resolved, if_pos (by omega)]
  | succ i ih =>
    apply Environment.reads_resolved_of_absent
    rw [Environment.reads_property, ← Query.run_work_property,
      tower.work_property_succ (by omega), Inquiry.run_resolved]
    exact ih (by omega) (by omega)

/-- No question about a tower leads back to itself. -/
theorem acyclic : Acyclic tower.stack := by
  apply answered_iff_acyclic.mp
  intro q
  apply answered_of_reachable
  intro asking member _
  -- Only the names of the computed storeys are asked about, and these have their values.
  obtain ⟨key, same, s, stacked, asks⟩ := mem_askingQueries.mp member
  obtain ⟨l, layered, rfl⟩ := List.mem_map.mp stacked
  obtain ⟨i, below, rfl⟩ := List.mem_map.mp (tower.perm.mem_iff.mp layered)
  have low : i ≤ height := Nat.le_of_lt_succ (List.mem_range.mp below)
  cases i with
  | zero => cases asks
  | succ i =>
    obtain rfl : key = name (i + 1) := List.mem_singleton.mp asks
    rcases same with rfl | rfl
    · have resolves := (tower.evaluates_work (by omega : i ≤ height)).work_resolved tower.plain
      rw [Answered, tower.work_contains_succ low]
      exact ⟨true, _, .ask resolves (.done true)⟩
    · exact ⟨some v, i + 1, tower.evaluates_work low⟩

end Tower

/-- **The counter is invisible below the limit.** If no question leads back to itself, every key has
an answer that is found without any counter. Whatever that answer is, and however many expansions
are open at once on the way to the value of the key: with the counter at any number that leaves room
for as many, value and presence are read as without it, and the counter is back at that number. The
bound is exact: in a tower the uppermost name has as many expansions open at once as the tower has
storeys above the first, and is there for a read with the counter at nought if and only if these are
not more than the limit. -/
theorem counter_invisible_below_limit :
    (∀ env : Environment,
      (Acyclic env.sources → ∀ key,
        (∃ found nest, Evaluates env.sources (Inquiry.property key) found nest) ∧
          ∃ present nest, Evaluates env.sources (Inquiry.contains key) present nest) ∧
      ∀ key found present nest inside, Evaluates env.sources (Inquiry.property key) found nest →
        Evaluates env.sources (Inquiry.contains key) present inside →
          ∀ opened, opened + nest ≤ nestingLimit →
            (env.countedRead (.property key)).run opened = some (found, opened) ∧
              (env.countedRead (.contains key)).run opened = some (present, opened)) ∧
      ∀ (name : Nat → String) (v : Value) (height : Nat) (tower : Tower name v height)
        (profile : String), let env : Environment := ⟨profile, tower.stack⟩
        Acyclic env.sources ∧
          Evaluates env.sources (Inquiry.property (name height)) (some v) height ∧
            env.contains (name height) = some (decide (height ≤ nestingLimit)) ∧
              env.property (name height) =
                some (if height ≤ nestingLimit then some v else none) := by
  refine ⟨fun env => ⟨fun acyclic key => ?_, ?_⟩, ?_⟩
  · have answered := answered_iff_acyclic.mpr acyclic
    obtain ⟨found, nest, value⟩ := answered (.property key)
    obtain ⟨present, inside, presence⟩ := answered (.contains key)
    exact ⟨⟨found, _, value.single⟩, present, _, presence.single⟩
  · intro key found present nest inside value presence opened fits
    have property : env.reads opened (.property key) = some found := by
      have run := value.run_reads fits
      rwa [Inquiry.run_property] at run
    have contains : env.reads opened (.contains key) = some present := by
      rw [env.reads_coherent opened key, property, value.present presence]
      rfl
    rw [env.countedRead_eq, env.countedRead_eq, property, contains]
    exact ⟨rfl, rfl⟩
  · intro name v height tower profile env
    -- The counter starts at nought, so the height alone is to be compared with the limit.
    have nests : Evaluates env.sources (Inquiry.property (name height)) (some v) height :=
      (tower.evaluates_work (Nat.le_refl height)).single
    have property :
        env.property (name height) = some (if height ≤ nestingLimit then some v else none) := by
      split
      · rename_i fits
        have run := nests.run_reads (Nat.le_trans (Nat.le_of_eq (Nat.zero_add height)) fits)
        rwa [Inquiry.run_property] at run
      · rename_i exceeds
        cases height with
        | zero => exact absurd (Nat.zero_le nestingLimit) exceeds
        | succ i => exact tower.reads_beyond (Nat.le_refl (i + 1)) (by omega)
    refine ⟨tower.acyclic, nests, ?_, property⟩
    rw [env.contains_eq, property]
    split <;> simp [*]

/-- The tower over a text whose names are rows of the same letter. -/
def rows (height : Nat) :
    Tower (fun i => String.ofList (List.replicate (i + 1) 'x')) (.string "ground") height where
  layers := (List.range (height + 1)).map (storey _ _)
  perm := .refl _
  distinct := by
    intro i j same
    simpa using congrArg List.length (String.ofList_injective same)
  plain := by decide

/-- A tower of 27 storeys above the first is read with five expansions open around the read, and one
of 32 with none; in one of 33 the uppermost name is not there. -/
theorem counter_invisible_below_limit_of_rows :
    let env (height : Nat) : Environment := ⟨"default", (rows height).stack⟩
    let name (i : Nat) := String.ofList (List.replicate (i + 1) 'x')
    let ground : Value := .string "ground"
    Acyclic (env 27).sources ∧
      Evaluates (env 27).sources (Inquiry.property (name 27)) (some ground) 27 ∧
        (∃ inside, Evaluates (env 27).sources (Inquiry.contains (name 27)) true inside) ∧
          ((env 27).countedRead (.property (name 27))).run 5 = some (some ground, 5) ∧
            ((env 27).countedRead (.contains (name 27))).run 5 = some (true, 5) ∧
              (env 32).property (name 32) = some (some ground) ∧
                (env 33).property (name 33) = some none ∧
                  (env 33).contains (name 33) = some false := by
  intro env name ground
  obtain ⟨acyclic, evaluates, -⟩ := counter_invisible_below_limit.2 _ _ _ (rows 27) "default"
  obtain ⟨-, -, -, within⟩ := counter_invisible_below_limit.2 _ _ _ (rows 32) "default"
  obtain ⟨-, -, gone, beyond⟩ := counter_invisible_below_limit.2 _ _ _ (rows 33) "default"
  obtain ⟨exist, reads⟩ := counter_invisible_below_limit.1 (env 27)
  obtain ⟨-, present, inside, presence⟩ := exist acyclic (name 27)
  obtain rfl : present = true := evaluates.present presence
  have read := reads (name 27) _ _ _ _ evaluates presence 5 (by decide)
  exact ⟨acyclic, evaluates, ⟨inside, presence⟩, read.1, read.2, within, beyond, gone⟩

end ConfigStack
