import ConfigStack.Proofs.Scanning

/-!
# The grammar of templates

A text is literal pieces with references between them, and a rest: no literal piece has an opening,
no reference a closing brace, and the rest has either no opening, or one and no brace behind it.
Every text has one such reading. An expansion asks for the references of the reading from left to
right, and for nothing else; it ends at the first that fails, or else fails at the opening that is
left, or else has the answers in the places of the references (`expand_by_grammar`).
-/
namespace ConfigStack.Template

/-! ### One reading -/

/-- The template is a reading of the text. -/
structure Reads (t : Template) (cs : List Char) : Prop where
  joined : t.toChars = cs
  literals : ∀ s ∈ t.segments, Plain s.literal
  references : ∀ s ∈ t.segments, '}' ∉ s.reference
  closed : t.closed = true → Plain t.rest
  unclosed : t.closed = false →
    ∃ literal opened, t.rest = literal ++ '$' :: '{' :: opened ∧ Plain literal ∧ '}' ∉ opened

theorem cutClosing_eq_none_iff (cs : List Char) : cutClosing cs = none ↔ '}' ∉ cs := by
  induction cs with
  | nil => simp [cutClosing]
  | cons c cs ih =>
    rw [cutClosing, List.mem_cons, not_or, ← ih]
    by_cases brace : c = '}'
    · simp [brace]
    · rw [if_neg brace]
      cases cutClosing cs <;> simp [Ne.symm brace]

theorem ofChars_unclosed {literal opened : List Char} (plain : Plain literal)
    (unbraced : '}' ∉ opened) :
    ofChars (literal ++ '$' :: '{' :: opened) =
      ⟨[], literal ++ '$' :: '{' :: opened, false⟩ := by
  have opens := cutOpening_append plain opened
  have closes := (cutClosing_eq_none_iff opened).mpr unbraced
  rw [ofChars]
  split
  next none => simp [opens] at none
  next found =>
    rw [opens, Option.some.injEq, Prod.mk.injEq] at found
    obtain ⟨rfl, rfl⟩ := found
    split
    next => rfl
    next some => simp [closes] at some

/-- One more segment in front. -/
theorem Reads.cons {t : Template} {cs literal written : List Char} (reads : t.Reads cs)
    (plain : Plain literal) (unbraced : '}' ∉ written) :
    Reads { t with segments := ⟨literal, written⟩ :: t.segments }
      (literal ++ '$' :: '{' :: (written ++ '}' :: cs)) where
  joined := by
    rw [← reads.joined]
    simp [toChars]
  literals := List.forall_mem_cons.mpr ⟨plain, reads.literals⟩
  references := List.forall_mem_cons.mpr ⟨unbraced, reads.references⟩
  closed := reads.closed
  unclosed := reads.unclosed

theorem reads_ofChars (cs : List Char) : (ofChars cs).Reads cs := by
  fun_induction ofChars cs with
  | case1 cs opens =>
    exact ⟨rfl, List.forall_mem_nil _, List.forall_mem_nil _,
      fun _ => (cutOpening_eq_none_iff cs).mp opens, fun unclosed => Bool.noConfusion unclosed⟩
  | case2 cs literal opened opens closes =>
    exact ⟨rfl, List.forall_mem_nil _, List.forall_mem_nil _,
      fun closed => Bool.noConfusion closed, fun _ => ⟨literal, opened, eq_of_cutOpening opens,
        plain_of_cutOpening opens, (cutClosing_eq_none_iff opened).mp closes⟩⟩
  | case3 cs literal opened opens written rest closes t ih =>
    rw [eq_of_cutOpening opens, eq_of_cutClosing closes]
    exact ih.cons (plain_of_cutOpening opens) (unbraced_of_cutClosing closes)

theorem Reads.eq_ofChars {t : Template} {cs : List Char} (reads : t.Reads cs) : t = ofChars cs := by
  obtain ⟨segments, rest, closed⟩ := t
  induction segments generalizing cs with
  | nil =>
    obtain rfl : rest = cs := reads.joined
    cases closed with
    | true => rw [ofChars_plain (reads.closed rfl)]
    | false =>
      obtain ⟨literal, opened, same, plain, unbraced⟩ := reads.unclosed rfl
      obtain rfl : rest = _ := same
      rw [ofChars_unclosed plain unbraced]
  | cons s segments ih =>
    obtain ⟨plain, literals⟩ := List.forall_mem_cons.mp reads.literals
    obtain ⟨unbraced, references⟩ := List.forall_mem_cons.mp reads.references
    have behind := ih ⟨rfl, literals, references, reads.closed, reads.unclosed⟩
    -- The text starts with the first segment, and what is behind it has the rest as its reading.
    have spelled : cs = s.literal ++ '$' :: '{' :: (s.reference ++ '}' ::
        toChars ⟨segments, rest, closed⟩) := by
      rw [← reads.joined]
      simp [toChars]
    rw [spelled, ofChars_segment plain unbraced, ← behind]

/-- Every text has one reading. -/
theorem reads_iff {t : Template} {cs : List Char} : t.Reads cs ↔ t = ofChars cs :=
  ⟨Reads.eq_ofChars, fun same => same ▸ reads_ofChars cs⟩

/-- A text has an opening where its reading has a reference or is not closed. -/
theorem hasOpening_iff (text : String) :
    hasOpening text = true ↔ (ofText text).segments ≠ [] ∨ (ofText text).closed = false := by
  rw [← Bool.not_eq_false, ← plain_iff, ← not_iff_not, not_not]
  constructor
  · intro plain
    rw [ofText, ofChars_plain plain]
    simp
  · intro neither
    simp only [not_or, not_not, Bool.not_eq_false] at neither
    exact plain_of_segments_nil neither.2 neither.1

/-! ### Lookups in order -/

/-- A lookup that may fail and may depend on what was looked up before. -/
abbrev Lookup (σ : Type) := String → ExceptT ConfigError (StateM σ) String

namespace Lookup

variable {σ : Type}

/-- What the lookup comes to for a key in a state, and the state after it. -/
def answer (lookup : Lookup σ) (key : String) (s : σ) : Except ConfigError String × σ :=
  (lookup key).run.run s

/-- The lookup with a list of the keys it was asked for. -/
def noting (lookup : Lookup σ) : Lookup (List String × σ) := fun key =>
  ExceptT.mk fun (asked, s) => ((lookup.answer key s).1, asked ++ [key], (lookup.answer key s).2)

/-- The lookups of keys one after the other, all of which succeed: their texts and the state after
them. -/
inductive Succeeds (lookup : Lookup σ) : σ → List String → List String → σ → Prop where
  | nil (s : σ) : Succeeds lookup s [] [] s
  | cons {key text : String} {keys texts : List String} {s next last : σ}
      (first : lookup.answer key s = (.ok text, next))
      (others : Succeeds lookup next keys texts last) :
      Succeeds lookup s (key :: keys) (text :: texts) last

end Lookup

/-- The keys of the references, in order. -/
def keys (t : Template) : List String :=
  t.segments.map Segment.key

/-- The literal pieces with a text behind each, and the rest. -/
def filledWith (t : Template) (texts : List String) : List Char :=
  (List.zipWith (fun s text => s.literal ++ text.toList) t.segments texts).flatten ++ t.rest

/-- How the expansion of a text with the reading `t` ends: its result, the keys that were looked up,
and the state after it. -/
inductive Ends {σ : Type} (lookup : Lookup σ) (t : Template) (text : String) (s : σ) :
    Except ConfigError String → List String → σ → Prop where
  /-- All references have texts, and the text is closed. -/
  | filled {texts : List String} {last : σ} (all : lookup.Succeeds s t.keys texts last)
      (closed : t.closed = true) :
      Ends lookup t text s (.ok (String.ofList (t.filledWith texts))) t.keys last
  /-- All references have texts, and an opening is left. -/
  | unclosed {texts : List String} {last : σ} (all : lookup.Succeeds s t.keys texts last)
      (unclosed : t.closed = false) :
      Ends lookup t text s (.error (.placeholder (.unclosed text))) t.keys last
  /-- A reference fails, and the ones before it do not. -/
  | failed {before after texts : List String} {key : String} {e : ConfigError} {next last : σ}
      (cut : t.keys = before ++ key :: after) (all : lookup.Succeeds s before texts next)
      (fails : lookup.answer key next = (.error e, last)) :
      Ends lookup t text s (.error e) (before ++ [key]) last

section Expand

variable {σ : Type} (lookup : Lookup σ)

theorem Lookup.noting_answer (key : String) (asked : List String) (s : σ) :
    lookup.noting.answer key (asked, s) =
      ((lookup.answer key s).1, asked ++ [key], (lookup.answer key s).2) := rfl

theorem run_expandSegments_of_error {lookup : Lookup σ} {segment : Segment} {s next : σ}
    {e : ConfigError} (fails : lookup.answer segment.key s = (.error e, next)) (after : List Char)
    (rest : List Segment) :
    (expandSegments lookup after (segment :: rest)).run.run s = (.error e, next) := by
  rw [Lookup.answer] at fails
  rw [expandSegments, ExceptT.run_bind, StateT.run_bind, fails]
  rfl

theorem run_expandSegments_of_ok {lookup : Lookup σ} {segment : Segment} {s next : σ}
    {text : String} (finds : lookup.answer segment.key s = (.ok text, next)) (after : List Char)
    (rest : List Segment) :
    (expandSegments lookup after (segment :: rest)).run.run s =
      let ended := (expandSegments lookup after rest).run.run next
      (ended.1.map (segment.literal ++ text.toList ++ ·), ended.2) := by
  rw [Lookup.answer] at finds
  rw [expandSegments, ExceptT.run_bind, StateT.run_bind, finds]
  change StateT.run (ExceptT.run (expandSegments lookup after rest >>= fun more =>
    pure (segment.literal ++ text.toList ++ more))) next = _
  rw [ExceptT.run_bind, StateT.run_bind]
  obtain ⟨result, ended⟩ := (expandSegments lookup after rest).run.run next
  cases result <;> rfl

/-- After the segments, a text that is closed is put together, and one that is not fails. -/
theorem run_expand (text : String) (s : σ) :
    (expand lookup text).run.run s =
      let ended := (expandSegments lookup (ofText text).rest (ofText text).segments).run.run s
      (ended.1.bind fun filled =>
        if (ofText text).closed then .ok (String.ofList filled)
        else .error (.placeholder (.unclosed text)), ended.2) := by
  rw [expand, ExceptT.run_bind, StateT.run_bind]
  obtain ⟨result, ended⟩ :=
    (expandSegments lookup (ofText text).rest (ofText text).segments).run.run s
  cases result with
  | error e => rfl
  | ok filled => cases (ofText text).closed <;> rfl

/-- Taking notes changes nothing else. -/
theorem run_expandSegments_noting (after : List Char) (segments : List Segment)
    (asked : List String) (s : σ) :
    let ended := (expandSegments lookup.noting after segments).run.run (asked, s)
    (expandSegments lookup after segments).run.run s = (ended.1, ended.2.2) := by
  induction segments generalizing asked s with
  | nil => rfl
  | cons segment segments ih =>
    have noted := lookup.noting_answer segment.key asked s
    rcases answered : lookup.answer segment.key s with ⟨e | text, next⟩
    · rw [answered] at noted
      rw [run_expandSegments_of_error answered, run_expandSegments_of_error noted]
    · rw [answered] at noted
      rw [run_expandSegments_of_ok answered, run_expandSegments_of_ok noted,
        ih (asked ++ [segment.key]) next]

/-- The segments are filled in, or the first failure comes through. -/
theorem run_expandSegments (after : List Char) (closed : Bool) (segments : List Segment)
    (asked : List String) (s : σ) :
    (∃ texts last, lookup.Succeeds s (keys ⟨segments, after, closed⟩) texts last ∧
      (expandSegments lookup.noting after segments).run.run (asked, s) =
        (.ok (filledWith ⟨segments, after, closed⟩ texts),
          asked ++ keys ⟨segments, after, closed⟩, last)) ∨
    ∃ before key rest texts e next last,
      keys ⟨segments, after, closed⟩ = before ++ key :: rest ∧
      lookup.Succeeds s before texts next ∧ lookup.answer key next = (.error e, last) ∧
      (expandSegments lookup.noting after segments).run.run (asked, s) =
        (.error e, asked ++ (before ++ [key]), last) := by
  -- Along the segments, with the keys that were asked for before them.
  induction segments generalizing asked s with
  | nil => exact .inl ⟨[], s, .nil s, by rw [keys, List.map_nil, List.append_nil]; rfl⟩
  | cons segment segments ih =>
    have listed : keys ⟨segment :: segments, after, closed⟩ =
        segment.key :: keys ⟨segments, after, closed⟩ := rfl
    rw [listed]
    have noted := lookup.noting_answer segment.key asked s
    rcases answered : lookup.answer segment.key s with ⟨e | text, next⟩
    · rw [answered] at noted
      exact .inr ⟨[], segment.key, keys ⟨segments, after, closed⟩, [], e, s, next, rfl, .nil s,
        answered, run_expandSegments_of_error noted after segments⟩
    · rw [answered] at noted
      have run := run_expandSegments_of_ok noted after segments
      rcases ih (asked ++ [segment.key]) next with ⟨texts, last, all, behind⟩ |
        ⟨before, key, rest, texts, e, reached, last, cut, all, fails, behind⟩
      · refine .inl ⟨text :: texts, last, .cons answered all, ?_⟩
        rw [run, behind]
        simp [filledWith, Except.map]
      · refine .inr ⟨segment.key :: before, key, rest, text :: texts, e, reached, last,
          by rw [cut, List.cons_append], .cons answered all, fails, ?_⟩
        rw [run, behind]
        simp [Except.map]

theorem ends_expand (text : String) (s : σ) :
    let run := (expand lookup.noting text).run.run ([], s)
    (expand lookup text).run.run s = (run.1, run.2.2) ∧
      Ends lookup (ofText text) text s run.1 run.2.1 run.2.2 := by
  refine ⟨by rw [run_expand, run_expand, run_expandSegments_noting lookup _ _ []], ?_⟩
  rw [run_expand]
  obtain ⟨segments, rest, closed⟩ := ofText text
  rcases run_expandSegments lookup rest closed segments [] s with ⟨texts, last, all, ran⟩ |
    ⟨before, key, after, texts, e, next, last, cut, all, fails, ran⟩
  · rw [ran]
    cases closed with
    | true => exact .filled all rfl
    | false => exact .unclosed all rfl
  · rw [ran]
    exact .failed cut all fails

end Expand

/-! ### References looked up as themselves -/

theorem expandSegments_reference (after : List Char) (closed : Bool) {segments : List Segment}
    (trimmed : ∀ s ∈ segments, Text.trim s.reference = s.reference) :
    expandSegments (fun key => Except.ok (reference key)) after segments =
      (.ok (toChars ⟨segments, after, closed⟩) : Except ConfigError (List Char)) := by
  induction segments with
  | nil => rfl
  | cons s segments ih =>
    obtain ⟨first, others⟩ := List.forall_mem_cons.mp trimmed
    have spelled : (reference s.key).toList = '$' :: '{' :: (s.reference ++ ['}']) := by
      simp [reference, Segment.key, first, String.toList_append]
    rw [expandSegments, ih others]
    change
      Except.ok (s.literal ++ (reference s.key).toList ++ toChars ⟨segments, after, closed⟩) = _
    rw [spelled]
    simp [toChars]

/-- A closed text whose references have no blanks around them expands to itself where each reference
is looked up as itself. -/
theorem expand_reference_self {text : String} (closed : (ofText text).closed = true)
    (trimmed : ∀ s ∈ (ofText text).segments, Text.trim s.reference = s.reference) :
    expand (fun key => Except.ok (reference key)) text =
      (.ok text : Except ConfigError String) := by
  rw [expand, expandSegments_reference (ofText text).rest (ofText text).closed trimmed]
  have whole : (ofText text).toChars = text.toList := toChars_ofChars text.toList
  change (if (ofText text).closed = true then Except.ok (String.ofList (ofText text).toChars)
    else _) = _
  rw [if_pos closed, whole, String.ofList_toList]

/-- The scan of a text and its expansion come to the same. -/
theorem scan_eq_expand {m : Type → Type} [Monad m] [LawfulMonad m]
    (lookup : String → ExceptT ConfigError m String) (text : String) :
    scan lookup text [] text.toList =
      (fun result => some result.toList) <$> expand lookup text := by
  rw [scan_eq, expand, map_bind]
  refine bind_congr fun filled => ?_
  rw [ofText]
  split
  next => rw [map_pure, String.toList_ofList, List.nil_append]
  next =>
    apply ExceptT.ext
    simp

/-- **Expansion by the grammar.** A text has one reading, and an opening where the reading has a
reference or is not closed. With any lookup and from any state, an expansion looks up the keys of
the reading in order until one fails, and ends as `Ends` says. A closed text without blanks around
its references is what comes of it when each reference is looked up as itself. And the pass over the
text by offsets has all its slices and comes to the same. -/
theorem expand_by_grammar (text : String) :
    (∀ t : Template, t.Reads text.toList ↔ t = ofText text) ∧
    (hasOpening text = true ↔ (ofText text).segments ≠ [] ∨ (ofText text).closed = false) ∧
    (∀ {σ : Type} (lookup : Lookup σ) (s : σ),
      let run := (expand lookup.noting text).run.run ([], s)
      (expand lookup text).run.run s = (run.1, run.2.2) ∧
        Ends lookup (ofText text) text s run.1 run.2.1 run.2.2) ∧
    ((ofText text).closed = true →
      (∀ s ∈ (ofText text).segments, Text.trim s.reference = s.reference) →
      expand (fun key => Except.ok (reference key)) text = (.ok text : Except ConfigError String)) ∧
    ∀ {σ : Type} (lookup : Lookup σ),
      scan lookup text [] text.toList = (fun result => some result.toList) <$> expand lookup text :=
  ⟨fun _ => reads_iff, hasOpening_iff text, fun lookup => ends_expand lookup text,
    expand_reference_self, fun lookup => scan_eq_expand lookup text⟩

/-- A template with a brace that opens no reference. -/
def redirectTemplate : String :=
  "\x7bbaseUrl\x7d" ++ reference "okta.oauth2.redirect-uri" ++ ""

theorem expand_by_grammar_of_redirect :
    (ofText redirectTemplate).closed = true ∧
      (∀ s ∈ (ofText redirectTemplate).segments, Text.trim s.reference = s.reference) ∧
      expand (fun key => Except.ok (reference key)) redirectTemplate =
        (.ok redirectTemplate : Except ConfigError String) := by
  have taken : ofText redirectTemplate =
      ⟨[⟨"\x7bbaseUrl\x7d".toList, "okta.oauth2.redirect-uri".toList⟩], "".toList, true⟩ :=
    ofText_reference (by decide) (by decide) (by decide)
  have closed : (ofText redirectTemplate).closed = true := by rw [taken]
  have trimmed : ∀ s ∈ (ofText redirectTemplate).segments,
      Text.trim s.reference = s.reference := by
    rw [taken]
    decide
  obtain ⟨-, -, -, self, -⟩ := expand_by_grammar redirectTemplate
  exact ⟨closed, trimmed, self closed trimmed⟩

end ConfigStack.Template
