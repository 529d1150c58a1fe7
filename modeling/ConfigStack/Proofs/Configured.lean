import ConfigStack.Proofs.Budget
import ConfigStack.Proofs.Presence
import ConfigStack.Proofs.Resolved

/-!
# What is configured

Static layers and process variables look at nothing else, so what they say of a key is the same
for every oracle. `configured` is the value that the first of them gives. It is the answer of the
whole environment for every key that no other layer asks about, at any number of open expansions.
-/
namespace ConfigStack

/-- A source that looks at nothing but its own settings. -/
def Source.Fixed : Source → Prop
  | .layer (.static _) => True
  | .variables _ => True
  | .layer _ => False

def Environment.Static (env : Environment) : Prop :=
  ∀ s ∈ env.sources, ∃ l, s = .layer (.static l)

/-- The value that is configured for a key: that of the first source that has one by itself. -/
def configured (sources : List Source) (key : String) : Option Value :=
  sources.findSome? fun s => s.ownValue key

theorem Source.not_asking_of_fixed {s : Source} (fixed : s.Fixed) (key : String) :
    key ∉ s.askingOn := by
  cases s with
  | «variables» vars => simp [askingOn]
  | layer l => cases l <;> simp_all [Fixed, askingOn]

theorem configured_cons (source : Source) (rest : List Source) (key : String) :
    configured (source :: rest) key = (source.ownValue key).or (configured rest key) := by
  rw [configured, List.findSome?_cons]
  cases source.ownValue key <;> rfl

/-- A key that no source has to ask about has the value that is configured. -/
theorem firstValue_of_not_asking (oracle : Oracle) {key : String} {sources : List Source}
    (quiet : ∀ s ∈ sources, key ∉ s.askingOn) :
    firstValue oracle key sources = some (configured sources key) := by
  induction sources with
  | nil => rfl
  | cons source rest ih =>
    have tail := ih fun s member => quiet s (List.mem_cons_of_mem source member)
    rw [firstValue_cons, Source.get_of_not_asking (quiet source List.mem_cons_self),
      Inquiry.run_done, Option.bind_some, configured_cons]
    cases source.ownValue key with
    | none => exact tail
    | some v => rfl

/-- Where the sources that ask about a key all come to the same, the key is defined if it is
configured, or if one of them asks and they come to a yes. -/
theorem anyDefines_of_asking {oracle : Oracle} {key : String} {sources : List Source}
    {defines : Bool}
    (alike : ∀ s ∈ sources, key ∈ s.askingOn → (s.contains key).run oracle = some defines) :
    anyDefines oracle key sources =
      some ((configured sources key).isSome ||
        sources.any (fun s => key ∈ s.askingOn) && defines) := by
  induction sources with
  | nil => rfl
  | cons source rest ih =>
    have tail := ih fun s member => alike s (List.mem_cons_of_mem source member)
    rw [anyDefines_cons, tail, configured_cons, List.any_cons]
    by_cases asking : key ∈ source.askingOn
    · rw [alike source List.mem_cons_self asking, Source.ownValue_of_asking asking]
      cases defines <;> simp [asking]
    · rw [Source.contains_of_not_asking asking, Inquiry.run_done]
      cases source.ownValue key <;> simp [asking]

/-- A key that nobody configures has the value that all sources come to that ask about it. -/
theorem firstValue_of_asking {oracle : Oracle} {key : String} {sources : List Source} {v : Value}
    (unset : configured sources key = none)
    (alike : ∀ s ∈ sources, key ∈ s.askingOn → (s.get key).run oracle = some (some v))
    (asked : ∃ s ∈ sources, key ∈ s.askingOn) :
    firstValue oracle key sources = some (some v) := by
  induction sources with
  | nil =>
    obtain ⟨s, member, -⟩ := asked
    cases member
  | cons source rest ih =>
    rw [configured_cons, Option.or_eq_none_iff] at unset
    by_cases asking : key ∈ source.askingOn
    · rw [firstValue_cons, alike source List.mem_cons_self asking]
      rfl
    · have later : ∃ s ∈ rest, key ∈ s.askingOn := by
        obtain ⟨s, member, asks⟩ := asked
        rcases List.mem_cons.mp member with rfl | behind
        · exact absurd asks asking
        · exact ⟨s, behind, asks⟩
      have tail := ih unset.2 (fun s member => alike s (List.mem_cons_of_mem source member)) later
      rw [firstValue_cons, Source.get_of_not_asking asking, unset.1]
      exact tail

namespace Environment

variable {env : Environment}

def Fixed (env : Environment) : Prop :=
  ∀ s ∈ env.sources, s.Fixed

theorem Static.fixed (static : env.Static) : env.Fixed := by
  intro s member
  obtain ⟨l, rfl⟩ := static s member
  trivial

theorem foldl_addLast (env : Environment) (added : List Source) :
    added.foldl addLast env = { env with sources := env.sources ++ added } := by
  induction added generalizing env with
  | nil => rw [List.foldl_nil, List.append_nil]
  | cons s rest ih => rw [List.foldl_cons, ih, addLast, List.append_assoc, List.singleton_append]

theorem reads_coherent (env : Environment) (opened : Nat) : (env.reads opened).Coherent :=
  coherent_answer env.sources env.budget opened

theorem contains_eq (env : Environment) (key : String) :
    env.contains key = (env.property key).map Option.isSome :=
  env.reads_coherent 0 key

theorem property_of_contains {key : String} (present : env.contains key = some true) :
    ∃ v, env.property key = some (some v) := by
  rw [contains_eq, Option.map_eq_some_iff] at present
  obtain ⟨found, same, some⟩ := present
  obtain ⟨v, rfl⟩ := Option.isSome_iff_exists.mp some
  exact ⟨v, same⟩

theorem property_of_not_contains {key : String} (absent : env.contains key = some false) :
    env.property key = some none := by
  rw [contains_eq, Option.map_eq_some_iff] at absent
  obtain ⟨found, same, none⟩ := absent
  rw [same, Option.some.injEq]
  simpa using none

theorem reads_property_of_not_asking {key : String}
    (quiet : ∀ s ∈ env.sources, key ∉ s.askingOn) (opened : Nat) :
    env.reads opened (.property key) = some (configured env.sources key) := by
  rw [reads_property, firstValue_of_not_asking _ quiet]

theorem reads_contains_of_not_asking {key : String}
    (quiet : ∀ s ∈ env.sources, key ∉ s.askingOn) (opened : Nat) :
    env.reads opened (.contains key) = some (configured env.sources key).isSome := by
  rw [reads_coherent env opened key, reads_property_of_not_asking quiet]
  rfl

theorem property_of_fixed (fixed : env.Fixed) (key : String) :
    env.property key = some (configured env.sources key) :=
  reads_property_of_not_asking (fun s member => Source.not_asking_of_fixed (fixed s member) key) 0

theorem Fixed.lookupsEnd (fixed : env.Fixed) : env.LookupsEnd :=
  fun key => ⟨_, property_of_fixed fixed key⟩

theorem contains_of_fixed (fixed : env.Fixed) (key : String) :
    env.contains key = some (configured env.sources key).isSome :=
  reads_contains_of_not_asking (fun s member => Source.not_asking_of_fixed (fixed s member) key) 0

theorem configured_of_not_contains (fixed : env.Fixed) {key : String}
    (absent : env.contains key = some false) : configured env.sources key = none := by
  rwa [contains_of_fixed fixed, Option.some.injEq, Option.isSome_eq_false_iff,
    Option.isNone_iff_eq_none] at absent

theorem Fixed.addLast {s : Source} (fixed : env.Fixed) (own : s.Fixed) :
    (env.addLast s).Fixed := by
  intro other member
  rcases List.mem_append.mp member with earlier | last
  · exact fixed other earlier
  · obtain rfl := List.mem_singleton.mp last
    exact own

theorem configured_addLast (env : Environment) (s : Source) (key : String) :
    configured (env.addLast s).sources key = (configured env.sources key).or (s.ownValue key) := by
  rw [configured, addLast, List.findSome?_append, List.findSome?_singleton]
  rfl

end Environment

/-- The environment of one static layer with the given settings. -/
def Environment.ofSettings (entries : List (String × Value)) : Environment :=
  ⟨"default", [.layer (.static ⟨"application.yaml", .ofList entries⟩)]⟩

theorem Environment.static_ofSettings (entries : List (String × Value)) :
    (ofSettings entries).Static := by
  intro s member
  obtain rfl := List.mem_singleton.mp member
  exact ⟨_, rfl⟩

theorem configured_ofSettings (entries : List (String × Value)) (key : String) :
    configured (Environment.ofSettings entries).sources key = entries.reverse.lookup key := by
  rw [← Table.get?_ofList, configured, Environment.ofSettings, List.findSome?_cons,
    Source.ownValue]
  cases (Table.ofList entries).get? key <;> rfl

theorem configured_ofSettings_singleton (own key : String) (v : Value) :
    configured (Environment.ofSettings [(own, v)]).sources key =
      if key = own then some v else none := by
  rw [configured_ofSettings, List.reverse_singleton, Table.lookup_cons, List.lookup_nil]

/-! ### Resolving -/

namespace Environment

variable {env : Environment} {opened : Nat} {key : String}

/-- A key without a value resolves to nothing, at the limit of open expansions as well. -/
theorem reads_resolved_of_absent
    (absent : env.reads (opened + 1) (.property key) = some none) :
    env.reads opened (.resolved key) = some none := by
  rw [reads_resolved]
  split
  · rfl
  · rw [resolveWith, absent]
    rfl

/-- A key with a value resolves to what the value expands to one expansion further in, if it has an
expansion. -/
theorem reads_resolved_of_held (within : opened < nestingLimit) {v : Value}
    (held : env.reads (opened + 1) (.property key) = some (some v)) :
    env.reads opened (.resolved key) =
      (Expansion.value (fun k => env.reads (opened + 1) (.property k)) v).run.map
        Except.toOption := by
  rw [reads_resolved, if_neg (Nat.not_le.mpr within), resolveWith, held, Option.bind_some]

/-- A key resolves to what its value one expansion further in expands to there, while an expansion
may be opened. -/
theorem reads_resolved_eq_some_iff {w : Value} :
    env.reads opened (.resolved key) = some (some w) ↔
      opened < nestingLimit ∧ ∃ v, env.reads (opened + 1) (.property key) = some (some v) ∧
        Expansion.value (fun k => env.reads (opened + 1) (.property k)) v = pure w := by
  constructor
  · intro resolved
    have within : opened < nestingLimit := by
      by_contra beyond
      rw [reads_resolved, if_pos (Nat.not_lt.mp beyond)] at resolved
      cases resolved
    rcases held : env.reads (opened + 1) (.property key) with _ | _ | v
    · rw [reads_resolved, if_neg (Nat.not_le.mpr within), resolveWith, held] at resolved
      cases resolved
    · rw [reads_resolved_of_absent held] at resolved
      cases resolved
    · rw [reads_resolved_of_held within held, Option.map_eq_some_iff] at resolved
      obtain ⟨result, ran, same⟩ := resolved
      cases result with
      | error e => cases same
      | ok expanded =>
        obtain rfl : expanded = w := Option.some.inj same
        exact ⟨within, v, rfl, ran⟩
  · rintro ⟨within, v, held, expands⟩
    rw [reads_resolved_of_held within held, expands]
    rfl

/-- A plain string resolves to itself while an expansion may be opened. -/
theorem reads_resolved_of_plain (within : opened < nestingLimit) {s : String}
    (held : env.reads (opened + 1) (.property key) = some (some (.string s)))
    (plain : Template.hasOpening s = false) :
    env.reads opened (.resolved key) = some (some (.string s)) := by
  rw [reads_resolved_of_held within held, Expansion.run_value_string,
    Expansion.text_of_plain plain]
  rfl

end Environment

/-! ### Conditional layers among answered prerequisites -/

theorem Inquiry.run_allContained {oracle : Oracle} {has : String → Bool} {keys : List String}
    (answered : ∀ key ∈ keys, oracle (.contains key) = some (has key)) :
    (allContained keys).run oracle = some (keys.all has) := by
  induction keys with
  | nil => rfl
  | cons key rest ih =>
    have tail := ih fun k member => answered k (List.mem_cons_of_mem key member)
    rw [allContained, run_ask, answered key List.mem_cons_self, Option.bind_some, List.all_cons]
    cases has key with
    | true => exact tail
    | false => rfl

theorem Inquiry.run_anyContained {oracle : Oracle} {has : String → Bool} {keys : List String}
    (answered : ∀ key ∈ keys, oracle (.contains key) = some (has key)) :
    (anyContained keys).run oracle = some (keys.any has) := by
  induction keys with
  | nil => rfl
  | cons key rest ih =>
    have tail := ih fun k member => answered k (List.mem_cons_of_mem key member)
    rw [anyContained, run_ask, answered key List.mem_cons_self, Option.bind_some, List.any_cons]
    cases has key with
    | true => rfl
    | false => exact tail

/-- A conditional layer whose prerequisites are all answered gives its settings or nothing. -/
theorem ConditionalLayer.run_get_of_answered {l : ConditionalLayer} {oracle : Oracle}
    {has bars : String → Bool} (key : String)
    (required : ∀ k ∈ l.required, oracle (.contains k) = some (has k))
    (forbidden : ∀ k ∈ l.forbidden, oracle (.contains k) = some (bars k)) :
    ((Layer.conditional l).get key).run oracle =
      some (if l.required.all has && !l.forbidden.any bars then l.settings.get? key else none) := by
  rw [ConditionalLayer.run_get, shows]
  -- A key that is not the layer's own is refused before anything is asked; it has no setting.
  split
  · rw [Inquiry.run_monadBind, Inquiry.run_allContained required, Option.bind_some]
    cases l.required.all has with
    | false => rfl
    | true =>
      -- What is forbidden is looked for only when all that is required is there.
      rw [if_pos rfl, Inquiry.run_monadBind, Inquiry.run_anyContained forbidden]
      rfl
  next unknown =>
    rw [Table.contains, Bool.not_eq_true, Option.isSome_eq_false_iff, Option.isNone_iff_eq_none]
      at unknown
    rw [unknown, ite_self]
    rfl

theorem Inquiry.asksOnly_allContained {allowed : Query → Prop} {keys : List String}
    (within : ∀ key ∈ keys, allowed (.contains key)) : (allContained keys).AsksOnly allowed := by
  induction keys with
  | nil => trivial
  | cons key rest ih =>
    have tail := ih fun k member => within k (List.mem_cons_of_mem key member)
    refine ⟨within key List.mem_cons_self, fun present => ?_⟩
    cases present with
    | true => exact tail
    | false => trivial

theorem Inquiry.asksOnly_anyContained {allowed : Query → Prop} {keys : List String}
    (within : ∀ key ∈ keys, allowed (.contains key)) : (anyContained keys).AsksOnly allowed := by
  induction keys with
  | nil => trivial
  | cons key rest ih =>
    have tail := ih fun k member => within k (List.mem_cons_of_mem key member)
    refine ⟨within key List.mem_cons_self, fun present => ?_⟩
    cases present with
    | true => trivial
    | false => exact tail

/-- A conditional layer asks for nothing but its prerequisites. -/
theorem ConditionalLayer.asksOnly_get {allowed : Query → Prop} {l : ConditionalLayer}
    (required : ∀ k ∈ l.required, allowed (.contains k))
    (forbidden : ∀ k ∈ l.forbidden, allowed (.contains k)) (key : String) :
    ((Layer.conditional l).get key).AsksOnly allowed := by
  have shown : (l.shows key).AsksOnly allowed := by
    unfold shows
    split
    · refine Inquiry.asksOnly_bind (Inquiry.asksOnly_allContained required) fun all => ?_
      cases all with
      | true =>
        exact Inquiry.asksOnly_bind (Inquiry.asksOnly_anyContained forbidden) fun _ => trivial
      | false => trivial
    · trivial
  refine Inquiry.asksOnly_bind shown fun visible => ?_
  cases visible <;> trivial

end ConfigStack
