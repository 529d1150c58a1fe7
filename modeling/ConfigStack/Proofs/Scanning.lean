import ConfigStack.Proofs.Template

/-!
# Scanning a text by offsets

A template can be expanded in one pass over its text: find the next opening, find the brace behind
it, copy what stands before, look up what stands between, and go on with what follows. Places are
then numbers of bytes, and every part is a slice from one place to another. A slice is there only if
both places lie between characters of the text and come in this order; the scan gives nothing if
one is not. It always gives what the template of the text gives (`scan_eq`), so each of its slices
is there.
-/
namespace ConfigStack

namespace Text

/-- How many bytes a text takes in UTF-8. -/
def size : List Char → Nat
  | [] => 0
  | c :: cs => c.utf8Size + size cs

@[simp]
theorem size_nil : size [] = 0 := rfl

@[simp]
theorem size_cons (c : Char) (cs : List Char) : size (c :: cs) = c.utf8Size + size cs := rfl

@[simp]
theorem size_append (left right : List Char) : size (left ++ right) = size left + size right := by
  induction left with
  | nil => rw [List.nil_append, size_nil, Nat.zero_add]
  | cons c left ih => rw [List.cons_append, size_cons, size_cons, ih, Nat.add_assoc]

/-- The text in two parts, the first of so many bytes, if it can be cut there. -/
def splitBytes? : Nat → List Char → Option (List Char × List Char)
  | 0, cs => some ([], cs)
  | _ + 1, [] => none
  | n + 1, c :: cs =>
    if c.utf8Size ≤ n + 1 then
      (splitBytes? (n + 1 - c.utf8Size) cs).map fun parts => (c :: parts.1, parts.2)
    else none

theorem splitBytes?_append (left right : List Char) :
    splitBytes? (size left) (left ++ right) = some (left, right) := by
  induction left with
  | nil => cases right <;> rfl
  | cons c left ih =>
    have positive := c.utf8Size_pos
    obtain ⟨n, total⟩ : ∃ n, size (c :: left) = n + 1 :=
      ⟨size (c :: left) - 1, by rw [size_cons]; omega⟩
    -- The first character fits, and what is left of the bytes is the size of the others.
    have rest : n + 1 - c.utf8Size = size left := by rw [← total, size_cons]; omega
    have fits : c.utf8Size ≤ n + 1 := by rw [← total, size_cons]; omega
    rw [total, List.cons_append, splitBytes?, if_pos fits, rest, ih]
    rfl

/-- A text can be cut exactly where a character of it begins or the last one ends. -/
theorem splitBytes?_eq_some_iff {n : Nat} {cs left right : List Char} :
    splitBytes? n cs = some (left, right) ↔ cs = left ++ right ∧ size left = n := by
  constructor
  · intro cut
    fun_induction splitBytes? n cs generalizing left right with
    | case1 cs =>
      obtain ⟨rfl, rfl⟩ := Prod.mk.inj (Option.some.inj cut)
      exact ⟨rfl, rfl⟩
    | case2 => cases cut
    | case3 n c cs fits ih =>
      obtain ⟨⟨more, rest⟩, below, same⟩ := Option.map_eq_some_iff.mp cut
      obtain ⟨rfl, rfl⟩ := Prod.mk.inj same
      obtain ⟨rfl, total⟩ := ih below
      exact ⟨rfl, by rw [size_cons, total]; omega⟩
    | case4 => cases cut
  · rintro ⟨rfl, rfl⟩
    exact splitBytes?_append left right

/-- The part of the text between two places. -/
def slice? (cs : List Char) (start stop : Nat) : Option (List Char) :=
  (splitBytes? stop cs).bind fun front => (splitBytes? start front.1).map (·.2)

/-- The place of the first occurrence of a word. -/
def findBytes? (word : List Char) : List Char → Option Nat
  | [] => if word.isEmpty then some 0 else none
  | c :: cs =>
    if word.isPrefixOf (c :: cs) then some 0 else (findBytes? word cs).map (c.utf8Size + ·)

theorem slice?_eq_some_iff {cs part : List Char} {start stop : Nat} :
    slice? cs start stop = some part ↔
      ∃ before after, cs = before ++ part ++ after ∧ size before = start ∧
        size (before ++ part) = stop := by
  rw [slice?, Option.bind_eq_some_iff]
  constructor
  · rintro ⟨⟨front, after⟩, whole, inside⟩
    obtain ⟨⟨before, part'⟩, cut, rfl⟩ := Option.map_eq_some_iff.mp inside
    obtain ⟨rfl, first⟩ := splitBytes?_eq_some_iff.mp cut
    obtain ⟨rfl, second⟩ := splitBytes?_eq_some_iff.mp whole
    exact ⟨before, after, rfl, first, second⟩
  · rintro ⟨before, after, rfl, rfl, rfl⟩
    exact ⟨(before ++ part, after), splitBytes?_append _ _,
      by rw [splitBytes?_append]; rfl⟩

theorem slice?_between (before part after : List Char) :
    slice? (before ++ part ++ after) (size before) (size before + size part) = some part :=
  slice?_eq_some_iff.mpr ⟨before, after, rfl, rfl, size_append before part⟩

/-- What follows a place that is not the first is shorter than the text. -/
theorem length_lt_of_slice? {cs part : List Char} {start stop : Nat}
    (cut : slice? cs (start + 1) stop = some part) : part.length < cs.length := by
  obtain ⟨before, after, rfl, first, -⟩ := slice?_eq_some_iff.mp cut
  have nonempty : before ≠ [] := by
    rintro rfl
    cases first
  have positive := List.length_pos_iff.mpr nonempty
  simp only [List.length_append]
  omega

end Text

namespace Template

theorem findBytes?_opening (cs : List Char) :
    Text.findBytes? ['$', '{'] cs = (cutOpening cs).map fun cut => Text.size cut.1 := by
  induction cs with
  | nil => rfl
  | cons c cs ih =>
    unfold cutOpening
    split
    next after => rfl
    next other =>
      rw [Text.findBytes?, not_opening other, if_neg Bool.false_ne_true, ih]
      cases cutOpening cs <;> simp

theorem findBytes?_closing (cs : List Char) :
    Text.findBytes? ['}'] cs = (cutClosing cs).map fun cut => Text.size cut.1 := by
  induction cs with
  | nil => rfl
  | cons c cs ih =>
    rw [cutClosing, Text.findBytes?, ih]
    by_cases brace : c = '}'
    · simp [brace]
    · have elsewhere : ['}'].isPrefixOf (c :: cs) = false := by
        simp [List.isPrefixOf, Ne.symm brace]
      rw [elsewhere, if_neg Bool.false_ne_true, if_neg brace]
      cases cutClosing cs <;> simp

variable {m : Type → Type} [Monad m] [MonadExceptOf ConfigError m]

/-- The text with its references replaced, by one pass over what is left of it, behind what was made
of it so far. Nothing, if a slice is not there. -/
def scan (lookup : String → m String) (whole : String) (result rest : List Char) :
    m (Option (List Char)) :=
  match Text.findBytes? ['$', '{'] rest with
  | none => pure (some (result ++ rest))
  | some start =>
    match Text.slice? rest start (Text.size rest) with
    | none => pure none
    | some opened =>
      match Text.findBytes? ['}'] opened with
      | none => throw (.placeholder (.unclosed whole))
      | some stop =>
        match Text.slice? rest 0 start, Text.slice? rest (start + 2) (start + stop),
          _after : Text.slice? rest (start + stop + 1) (Text.size rest) with
        | some literal, some reference, some after => do
          let text ← lookup (String.ofList (Text.trim reference))
          scan lookup whole (result ++ literal ++ text.toList) after
        | _, _, _ => pure none
termination_by rest.length
decreasing_by exact Text.length_lt_of_slice? _after

theorem scan_of_plain {cs : List Char} (opens : cutOpening cs = none) (lookup : String → m String)
    (whole : String) (result : List Char) :
    scan lookup whole result cs = pure (some (result ++ cs)) := by
  rw [scan, findBytes?_opening, opens]
  rfl

/-- What is left from an opening on is a slice, and a brace is looked for behind the two characters
of the opening. -/
theorem slice?_opening {cs literal opened : List Char}
    (opens : cutOpening cs = some (literal, opened)) :
    Text.slice? cs (Text.size literal) (Text.size cs) = some ('$' :: '{' :: opened) ∧
      Text.findBytes? ['}'] ('$' :: '{' :: opened) =
        (cutClosing opened).map fun cut => 2 + Text.size cut.1 := by
  constructor
  · have slice := Text.slice?_between literal ('$' :: '{' :: opened) []
    rw [List.append_nil, ← eq_of_cutOpening opens, ← Text.size_append,
      ← eq_of_cutOpening opens] at slice
    exact slice
  · rw [findBytes?_closing, cutClosing, cutClosing]
    cases cutClosing opened with
    | none => rfl
    | some cut =>
      have dollar : '$'.utf8Size = 1 := by decide
      have brace : '{'.utf8Size = 1 := by decide
      simp [dollar, brace]
      omega

theorem scan_of_unclosed {cs literal opened : List Char}
    (opens : cutOpening cs = some (literal, opened)) (closes : cutClosing opened = none)
    (lookup : String → m String) (whole : String) (result : List Char) :
    scan lookup whole result cs = throw (.placeholder (.unclosed whole)) := by
  have ⟨slice, brace⟩ := slice?_opening opens
  rw [closes] at brace
  rw [scan, findBytes?_opening, opens]
  simp only [Option.map_some, slice, brace, Option.map_none]

/-- The three slices around a closed reference. -/
theorem slices_of_cuts {cs literal opened written rest : List Char}
    (opens : cutOpening cs = some (literal, opened))
    (closes : cutClosing opened = some (written, rest)) :
    Text.slice? cs 0 (Text.size literal) = some literal ∧
      Text.slice? cs (Text.size literal + 2) (Text.size literal + (2 + Text.size written)) =
        some written ∧
      Text.slice? cs (Text.size literal + (2 + Text.size written) + 1) (Text.size cs) =
        some rest := by
  have spelled : cs = literal ++ ['$', '{'] ++ written ++ '}' :: rest := by
    rw [eq_of_cutOpening opens, eq_of_cutClosing closes]
    simp
  have opening : Text.size ['$', '{'] = 2 := by decide
  have closing : '}'.utf8Size = 1 := by decide
  -- Each slice is given by what stands before it and what stands behind it.
  simp only [Text.slice?_eq_some_iff]
  refine ⟨⟨[], ['$', '{'] ++ written ++ '}' :: rest, ?_, rfl, rfl⟩,
    ⟨literal ++ ['$', '{'], '}' :: rest, spelled, ?_, ?_⟩,
    ⟨literal ++ ['$', '{'] ++ written ++ ['}'], [], ?_, ?_, ?_⟩⟩
  · simp [spelled]
  · simp only [Text.size_append, opening]
  · simp only [Text.size_append, opening]
    omega
  · simp [spelled]
  · simp only [Text.size_append, Text.size_cons, Text.size_nil, opening, closing]
    omega
  · rw [spelled]
    simp

theorem scan_of_cuts {cs literal opened written rest : List Char}
    (opens : cutOpening cs = some (literal, opened))
    (closes : cutClosing opened = some (written, rest)) (lookup : String → m String)
    (whole : String) (result : List Char) :
    scan lookup whole result cs = (do
      let text ← lookup (Segment.key ⟨literal, written⟩)
      scan lookup whole (result ++ literal ++ text.toList) rest) := by
  have ⟨slice, brace⟩ := slice?_opening opens
  rw [closes] at brace
  rw [scan, findBytes?_opening, opens]
  obtain ⟨before, inside, behind⟩ := slices_of_cuts opens closes
  simp only [Option.map_some, slice, brace]
  split
  next before' inside' behind' =>
    obtain rfl := Option.some.inj (before.symm.trans before')
    obtain rfl := Option.some.inj (inside.symm.trans inside')
    obtain rfl := Option.some.inj (behind.symm.trans behind')
    rfl
  next missing => exact absurd behind (missing _ _ _ before inside)

/-- **No slice of the scan is missing.** The scan of a text gives what its template gives: the
replacements in their places if it is closed, and else the failure, after the same lookups. -/
theorem scan_eq [LawfulMonad m] (lookup : String → m String) (whole : String)
    (result cs : List Char) :
    scan lookup whole result cs = (do
      let filled ← expandSegments lookup (ofChars cs).rest (ofChars cs).segments
      if (ofChars cs).closed then pure (some (result ++ filled))
      else throw (.placeholder (.unclosed whole))) := by
  -- Along the cuts that take the text apart.
  fun_induction ofChars cs generalizing result with
  | case1 cs opens => simp [scan_of_plain opens, expandSegments]
  | case2 cs literal opened opens closes => simp [scan_of_unclosed opens closes, expandSegments]
  | case3 cs literal opened opens written rest closes t ih =>
    rw [scan_of_cuts opens closes]
    simp only [ih, expandSegments, bind_assoc, pure_bind, List.append_assoc]
    rfl

end Template

end ConfigStack
