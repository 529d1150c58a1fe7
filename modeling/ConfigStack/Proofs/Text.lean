import ConfigStack.Text.Blank
import Mathlib.Data.List.DropRight

/-!
# Parts of a text

Trimming, cutting off final characters and taking a text apart at a separator leave parts that
stand in the text as they are; so whatever occurs in such a part occurs in the text. Two texts put
together have what each of them has, and what comes about over the seam. Pieces put together with
separators are the same pieces when the text is taken apart again.
-/
namespace ConfigStack.Text

theorem occursIn_iff_infix (needle cs : List Char) :
    occursIn needle cs = true ↔ needle <:+: cs := by
  induction cs with
  | nil => rw [occursIn, List.isEmpty_iff, List.infix_nil]
  | cons c rest ih =>
    rw [occursIn, Bool.or_eq_true, List.isPrefixOf_iff_prefix, ih, List.infix_cons_iff]

/-- A part of a text without the needle is without it. -/
theorem occursIn_eq_false_of_infix {needle part whole : List Char} (inside : part <:+: whole)
    (absent : occursIn needle whole = false) : occursIn needle part = false := by
  rw [← Bool.not_eq_true, occursIn_iff_infix] at absent ⊢
  exact fun found => absent (found.trans inside)

/-- Two characters stand together in two texts joined where they do in one of them, or over the
seam. -/
theorem occursIn_append_iff {a b : Char} (left right : List Char) :
    occursIn [a, b] (left ++ right) = true ↔
      occursIn [a, b] left = true ∨ occursIn [a, b] right = true ∨
        left.getLast? = some a ∧ right.head? = some b := by
  rw [ occursIn_iff_infix, occursIn_iff_infix, occursIn_iff_infix, List.infix_append_iff_ne_nil]
  refine or_congr_right (or_congr_right ?_)
  constructor
  · rintro ⟨first, second, some₁, some₂, cut, ends, starts⟩
    -- The two characters are cut between them, as neither part is empty.
    have halves : first = [a] ∧ second = [b] := by
      rcases first with _ | ⟨x, _ | ⟨y, more⟩⟩
      · exact absurd rfl some₁
      · simp only [List.cons_append, List.nil_append, List.cons.injEq] at cut
        exact ⟨by rw [cut.1], cut.2.symm⟩
      · simp only [List.cons_append, List.cons.injEq, List.nil_eq, List.append_eq_nil_iff] at cut
        exact absurd cut.2.2.2 some₂
    rw [halves.1] at ends
    rw [halves.2] at starts
    obtain ⟨before, rfl⟩ := ends
    obtain ⟨after, rfl⟩ := starts
    exact ⟨List.getLast?_concat, rfl⟩
  · rintro ⟨ends, starts⟩
    obtain ⟨before, rfl⟩ := List.getLast?_eq_some_iff.mp ends
    obtain ⟨after, rfl⟩ := List.head?_eq_some_iff.mp starts
    exact ⟨[a], [b], List.cons_ne_nil _ _, List.cons_ne_nil _ _, rfl, List.suffix_append _ _,
      List.prefix_append _ _⟩

/-- Two characters that occur in neither of two texts occur in both together only over the seam. -/
theorem occursIn_append {a b : Char} {left right : List Char}
    (absentLeft : occursIn [a, b] left = false) (absentRight : occursIn [a, b] right = false)
    (seam : right.head? ≠ some b) : occursIn [a, b] (left ++ right) = false := by
  rw [← Bool.not_eq_true, occursIn_append_iff, absentLeft, absentRight]
  rintro (inLeft | inRight | ⟨-, starts⟩)
  · cases inLeft
  · cases inRight
  · exact seam starts

theorem dropEndWhile_isPrefix (drop : Char → Bool) (cs : List Char) :
    dropEndWhile drop cs <+: cs := by
  rw [dropEndWhile, ← List.reverse_suffix, List.reverse_reverse]
  exact List.dropWhile_suffix drop

theorem trim_infix (cs : List Char) : trim cs <:+: cs :=
  (dropEndWhile_isPrefix isBlank _).isInfix.trans (List.dropWhile_suffix isBlank).isInfix

/-- The first piece starts the text, and the others stand in it. -/
theorem pieces_eq_cons (separator : Char) (cs : List Char) :
    ∃ first others, pieces separator cs = first :: others ∧ first <+: cs ∧
      ∀ piece ∈ others, piece <:+: cs := by
  induction cs with
  | nil => exact ⟨[], [], rfl, List.prefix_rfl, by simp⟩
  | cons c rest ih =>
    obtain ⟨first, others, cut, starts, inside⟩ := ih
    simp only [pieces, cut]
    -- A separator begins a new first piece; another character joins the one there is.
    split
    · refine ⟨[], first :: others, rfl, List.nil_prefix, fun piece member => ?_⟩
      rcases List.mem_cons.mp member with rfl | later
      · exact List.infix_cons starts.isInfix
      · exact List.infix_cons (inside piece later)
    · refine ⟨c :: first, others, rfl, ?_, fun piece member => ?_⟩
      · exact (List.cons_prefix_cons).mpr ⟨rfl, starts⟩
      · exact List.infix_cons (inside piece member)

theorem infix_of_mem_pieces {separator : Char} {cs piece : List Char}
    (member : piece ∈ pieces separator cs) : piece <:+: cs := by
  obtain ⟨first, others, cut, starts, inside⟩ := pieces_eq_cons separator cs
  rw [cut] at member
  rcases List.mem_cons.mp member with rfl | later
  · exact starts.isInfix
  · exact inside piece later

/-- Numbers are written in digits. -/
theorem not_mem_natural {c : Char} (other : c.isDigit = false) (n : Nat) :
    c ∉ (toString n).toList := by
  intro member
  rw [Nat.toString_eq_repr, Nat.toList_repr] at member
  rw [Nat.isDigit_of_mem_toDigits (by decide) (by decide) member] at other
  cases other

/-! ### Pieces between separators -/

section Pieces

variable {separator : Char}

theorem pieces_of_clear {cs : List Char} (clear : separator ∉ cs) : pieces separator cs = [cs] := by
  induction cs with
  | nil => rfl
  | cons c rest ih =>
    simp only [List.mem_cons, not_or] at clear
    rw [pieces, if_neg (Ne.symm clear.1), ih clear.2]

/-- Taking a text apart is the cut of its characters at each separator. -/
theorem pieces_eq_splitOn (separator : Char) (cs : List Char) :
    pieces separator cs = cs.splitOn separator := by
  induction cs with
  | nil => rw [pieces, List.splitOn_nil]
  | cons c rest ih =>
    obtain ⟨first, others, cut, -, -⟩ := pieces_eq_cons separator rest
    rw [cut] at ih
    rw [pieces, cut, List.splitOn_cons_eq_if_modifyHead, ← ih]
    simp only [beq_iff_eq, List.modifyHead_cons]

/-- A separator in a text parts the pieces before it from those behind it. -/
theorem pieces_append_separator (front rest : List Char) :
    pieces separator (front ++ separator :: rest) =
      pieces separator front ++ pieces separator rest := by
  simp only [pieces_eq_splitOn, List.splitOn_append_cons_self]

theorem not_mem_of_mem_pieces {cs piece : List Char} (member : piece ∈ pieces separator cs) :
    separator ∉ piece := by
  induction cs generalizing piece with
  | nil =>
    rw [List.mem_singleton.mp member]
    exact List.not_mem_nil
  | cons c rest ih =>
    obtain ⟨first, others, cut, -, -⟩ := pieces_eq_cons separator rest
    rw [cut] at ih
    rw [pieces, cut] at member
    split at member
    next =>
      rcases List.mem_cons.mp member with rfl | later
      · exact List.not_mem_nil
      · exact ih later
    next other =>
      rcases List.mem_cons.mp member with rfl | later
      · rw [List.mem_cons, not_or]
        exact ⟨Ne.symm other, ih List.mem_cons_self⟩
      · exact ih (List.mem_cons_of_mem first later)

theorem intercalate_pieces (separator : Char) (cs : List Char) :
    [separator].intercalate (pieces separator cs) = cs := by
  rw [pieces_eq_splitOn, List.intercalate_splitOn]

theorem pieces_injective (separator : Char) : Function.Injective (pieces separator) := by
  intro cs ds same
  rw [← intercalate_pieces separator cs, same, intercalate_pieces]

theorem pieces_append {piece : List Char} (clear : separator ∉ piece) (rest : List Char) :
    pieces separator (piece ++ separator :: rest) = piece :: pieces separator rest := by
  rw [pieces_append_separator, pieces_of_clear clear, List.singleton_append]

theorem pieces_intercalate {parts : List (List Char)} (nonempty : parts ≠ [])
    (clear : ∀ part ∈ parts, separator ∉ part) :
    pieces separator ([separator].intercalate parts) = parts := by
  induction parts with
  | nil => exact absurd rfl nonempty
  | cons part rest ih =>
    have here := clear part List.mem_cons_self
    cases rest with
    | nil => rw [List.intercalate_singleton, pieces_of_clear here]
    | cons next others =>
      rw [List.intercalate_cons_cons, List.append_assoc, List.singleton_append, pieces_append here,
        ih (List.cons_ne_nil _ _) fun p member => clear p (List.mem_cons_of_mem _ member)]

/-- The last pieces of a text are those of a part that is all of it, or stands at its end behind a
separator. -/
theorem pieces_suffix_iff {part cs : List Char} :
    pieces separator part <:+ pieces separator cs ↔ cs = part ∨ separator :: part <:+ cs := by
  constructor
  · rintro ⟨front, joined⟩
    cases front with
    | nil => exact .inl (pieces_injective separator joined.symm)
    | cons first others =>
      -- The pieces in front are a text of their own, with the separator behind it.
      have clear : ∀ piece ∈ first :: others, separator ∉ piece := fun piece member =>
        not_mem_of_mem_pieces (joined ▸ List.mem_append_left _ member)
      refine .inr ⟨[separator].intercalate (first :: others), pieces_injective separator ?_⟩
      rw [pieces_append_separator, pieces_intercalate (List.cons_ne_nil _ _) clear, joined]
  · rintro (rfl | ⟨front, rfl⟩)
    · exact List.suffix_rfl
    · rw [pieces_append_separator]
      exact List.suffix_append _ _

/-- Separators at the end come with an empty piece each. -/
theorem pieces_append_replicate (cs : List Char) (n : Nat) :
    pieces separator (cs ++ List.replicate n separator) =
      pieces separator cs ++ List.replicate n [] := by
  induction cs with
  | nil =>
    induction n with
    | zero => rfl
    | succ n ih =>
      rw [List.nil_append] at ih
      rw [List.replicate_succ, pieces_append List.not_mem_nil, ih]
      rfl
  | cons c rest ih =>
    rw [List.cons_append, pieces, pieces, ih]
    split
    · rfl
    · obtain ⟨first, others, cut, -, -⟩ := pieces_eq_cons separator rest
      rw [cut]
      rfl

/-- A word without the separator starts a text where it starts the first piece. -/
theorem isPrefix_iff_first {word : List Char} (clear : separator ∉ word) {cs first : List Char}
    {others : List (List Char)} (cut : pieces separator cs = first :: others) :
    word <+: cs ↔ word <+: first := by
  induction cs generalizing word first others with
  | nil =>
    obtain ⟨rfl, -⟩ := List.cons.inj cut
    rfl
  | cons c rest ih =>
    cases word with
    | nil => simp
    | cons w more =>
      simp only [List.mem_cons, not_or] at clear
      rw [pieces] at cut
      split at cut
      next ends =>
        -- The first piece is empty, and the text goes on with the separator.
        obtain ⟨rfl, -⟩ := List.cons.inj cut
        rw [List.cons_prefix_cons, List.prefix_nil]
        exact ⟨fun starts => absurd (ends.symm.trans starts.1.symm) clear.1,
          fun empty => absurd empty (List.cons_ne_nil w more)⟩
      next =>
        obtain ⟨head, tail, below, -, -⟩ := pieces_eq_cons separator rest
        rw [below] at cut
        obtain ⟨rfl, -⟩ := List.cons.inj cut
        rw [List.cons_prefix_cons, List.cons_prefix_cons, ih clear.2 below]

/-- A word stands behind a separator where it starts a piece that is not the first. -/
theorem occursIn_separated_iff {word : List Char} (clear : separator ∉ word) (cs : List Char) :
    occursIn (separator :: word) cs = true ↔
      ∃ piece ∈ (pieces separator cs).tail, word <+: piece := by
  induction cs with
  | nil => simp [occursIn, pieces]
  | cons c rest ih =>
    obtain ⟨first, others, cut, -, -⟩ := pieces_eq_cons separator rest
    rw [cut, List.tail_cons] at ih
    rw [occursIn, Bool.or_eq_true, ih, List.isPrefixOf_iff_prefix, List.cons_prefix_cons, pieces]
    split
    next here =>
      rw [List.tail_cons, cut, isPrefix_iff_first clear cut]
      simp [here]
    next other =>
      rw [cut, List.tail_cons]
      simp [Ne.symm other]

end Pieces

/-! ### What is left when the ends are cut off -/

theorem dropEndWhile_eq_rdropWhile (drop : Char → Bool) (cs : List Char) :
    dropEndWhile drop cs = cs.rdropWhile drop := rfl

theorem dropEndWhile_append_of_dropped {drop : Char → Bool} {tail : List Char}
    (dropped : ∀ c ∈ tail, drop c = true) (cs : List Char) :
    dropEndWhile drop (cs ++ tail) = dropEndWhile drop cs := by
  have reversed : ∀ c ∈ tail.reverse, drop c = true := fun c member =>
    dropped c (List.mem_reverse.mp member)
  rw [dropEndWhile, List.reverse_append, List.dropWhile_append_of_pos reversed, dropEndWhile]

/-- What is cut off is what follows the last character that is kept. -/
theorem dropEndWhile_append {drop : Char → Bool} {cs tail : List Char} {last : Char}
    (ends : cs.getLast? = some last) (kept : drop last = false)
    (dropped : ∀ c ∈ tail, drop c = true) : dropEndWhile drop (cs ++ tail) = cs := by
  obtain ⟨before, rfl⟩ := List.getLast?_eq_some_iff.mp ends
  rw [dropEndWhile_append_of_dropped dropped, dropEndWhile, List.reverse_concat,
    List.dropWhile_cons_of_neg (by simp [kept]), List.reverse_cons, List.reverse_reverse]

/-- A text with no blank at either end. -/
def Trimmed (cs : List Char) : Prop :=
  (∀ c, cs.head? = some c → isBlank c = false) ∧ ∀ c, cs.getLast? = some c → isBlank c = false

theorem Trimmed.trim_eq {cs : List Char} (trimmed : Trimmed cs) : trim cs = cs := by
  have front : cs.dropWhile isBlank = cs := by
    cases cs with
    | nil => rfl
    | cons c rest => exact List.dropWhile_cons_of_neg (by simp [trimmed.1 c rfl])
  rw [trim, front, dropEndWhile_eq_rdropWhile, List.rdropWhile_eq_self_iff]
  intro some
  simpa using trimmed.2 _ (List.getLast?_eq_some_getLast some)

/-- Characters before a trimmed text that are no blanks leave it trimmed. -/
theorem Trimmed.append {cs front : List Char} (trimmed : Trimmed cs)
    (kept : ∀ c ∈ front, isBlank c = false) : Trimmed (front ++ cs) := by
  constructor
  · intro c starts
    rw [List.head?_append, Option.or_eq_some_iff] at starts
    rcases starts with first | ⟨-, first⟩
    · exact kept c (List.mem_of_mem_head? first)
    · exact trimmed.1 c first
  · intro c ends
    rw [List.getLast?_append, Option.or_eq_some_iff] at ends
    rcases ends with last | ⟨-, last⟩
    · exact trimmed.2 c last
    · exact kept c (List.mem_of_getLast? last)

theorem trimmed_trim (cs : List Char) : Trimmed (trim cs) := by
  constructor
  · intro c starts
    -- What is left begins as the text does without the blanks before it.
    obtain ⟨rest, same⟩ := List.head?_eq_some_iff.mp starts
    have within := dropEndWhile_isPrefix isBlank (cs.dropWhile isBlank)
    rw [← trim, same] at within
    obtain ⟨after, joined⟩ := within
    have first := List.head?_dropWhile_not isBlank cs
    rw [← joined] at first
    simpa using first
  · intro c ends
    rw [trim, dropEndWhile, List.getLast?_reverse] at ends
    have last := List.head?_dropWhile_not isBlank (cs.dropWhile isBlank).reverse
    rw [ends] at last
    simpa using last

theorem trim_trim (cs : List Char) : trim (trim cs) = trim cs :=
  (trimmed_trim cs).trim_eq

/-- What is trimmed off a text are blanks before and behind what is left. -/
theorem exists_blanks_around (cs : List Char) :
    ∃ before after, (∀ c ∈ before, isBlank c = true) ∧ (∀ c ∈ after, isBlank c = true) ∧
      before ++ trim cs ++ after = cs := by
  refine ⟨cs.takeWhile isBlank, (cs.dropWhile isBlank).rtakeWhile isBlank,
    fun c => List.mem_takeWhile_imp, fun c => List.mem_rtakeWhile_imp, ?_⟩
  rw [trim, dropEndWhile_eq_rdropWhile, List.append_assoc, List.rdropWhile_append_rtakeWhile,
    List.takeWhile_append_dropWhile]

/-- Blanks around a text are no part of what is left of it. -/
theorem trim_between_blanks {before after : List Char} (blank : ∀ c ∈ before, isBlank c = true)
    (blankToo : ∀ c ∈ after, isBlank c = true) (cs : List Char) :
    trim (before ++ cs ++ after) = trim cs := by
  rw [trim, List.append_assoc, List.dropWhile_append_of_pos blank, List.dropWhile_append, trim]
  split
  next empty =>
    rw [List.isEmpty_iff.mp empty, List.dropWhile_eq_nil_iff.mpr blankToo]
  next => rw [dropEndWhile_append_of_dropped blankToo]

/-! ### Large and small letters -/

theorem isAlpha_iff (c : Char) :
    c.isAlpha = true ↔ 65 ≤ c.toNat ∧ c.toNat ≤ 90 ∨ 97 ≤ c.toNat ∧ c.toNat ≤ 122 := by
  delta Char.isAlpha Char.isUpper Char.isLower
  simp [UInt32.le_iff_toNat_le]

section Letterless

variable {drop : Char → Bool} (letterless : ∀ c, c.isAlpha = true → drop c = false)

include letterless

/-- A class of characters without letters does not tell large letters from small ones. -/
theorem apply_toLower (c : Char) : drop c.toLower = drop c := by
  delta Char.toLower
  split
  next large =>
    simp only [Char.reduceVal, ge_iff_le, UInt32.le_iff_toNat_le, UInt32.reduceToNat,
      Char.toNat_val] at large
    have before : c.isAlpha = true := (isAlpha_iff c).mpr (.inl large)
    rw [letterless c before, letterless]
    simp only [isAlpha_iff, Char.toNat_mk, UInt32.toNat_add, Char.toNat_val, UInt32.reduceSub,
      Char.reduceVal, UInt32.reduceToNat, Nat.reducePow]
    omega
  next => rfl

theorem dropWhile_map_toLower (cs : List Char) :
    (cs.map Char.toLower).dropWhile drop = (cs.dropWhile drop).map Char.toLower := by
  rw [List.dropWhile_map, funext (f := drop ∘ Char.toLower) (apply_toLower letterless)]

theorem dropEndWhile_map_toLower (cs : List Char) :
    dropEndWhile drop (cs.map Char.toLower) = (dropEndWhile drop cs).map Char.toLower := by
  rw [dropEndWhile, ← List.map_reverse, dropWhile_map_toLower letterless, ← List.map_reverse,
    dropEndWhile]

end Letterless

theorem isBlank_eq_false_of_isAlpha (c : Char) (alpha : c.isAlpha = true) : isBlank c = false := by
  have code := (isAlpha_iff c).mp alpha
  simp only [isBlank, Bool.or_eq_false_iff, Bool.and_eq_false_imp, decide_eq_true_eq,
    decide_eq_false_iff_not, beq_eq_false_iff_ne]
  omega

theorem trim_map_toLower (cs : List Char) :
    trim (cs.map Char.toLower) = (trim cs).map Char.toLower := by
  rw [trim, dropWhile_map_toLower isBlank_eq_false_of_isAlpha,
    dropEndWhile_map_toLower isBlank_eq_false_of_isAlpha, trim]

section Kept

variable {drop : Char → Bool} {word : List Char} {a : Char}

/-- A word that begins with a character that is not cut off keeps standing in the text. -/
theorem occursIn_dropWhile (starts : word.head? = some a) (kept : drop a = false) (cs : List Char) :
    occursIn word (cs.dropWhile drop) = occursIn word cs := by
  obtain ⟨more, rfl⟩ := List.head?_eq_some_iff.mp starts
  induction cs with
  | nil => rfl
  | cons c rest ih =>
    rw [List.dropWhile_cons]
    split
    next dropped =>
      have other : a ≠ c := by
        rintro rfl
        simp [kept] at dropped
      have elsewhere : (a :: more).isPrefixOf (c :: rest) = false := by
        simp [List.isPrefixOf, other]
      rw [ih, occursIn, elsewhere, Bool.false_or]
    next => rfl

theorem occursIn_dropEndWhile (ends : word.getLast? = some a) (kept : drop a = false)
    (cs : List Char) : occursIn word (dropEndWhile drop cs) = occursIn word cs := by
  obtain ⟨before, rfl⟩ := List.getLast?_eq_some_iff.mp ends
  rw [dropEndWhile_eq_rdropWhile]
  induction cs using List.reverseRecOn with
  | nil => rfl
  | append_singleton rest c ih =>
    rw [List.rdropWhile_concat]
    split
    next dropped =>
      have other : a ≠ c := by
        rintro rfl
        simp [kept] at dropped
      have elsewhere : ¬before ++ [a] <:+ rest ++ [c] := by
        rintro ⟨front, joined⟩
        rw [← List.append_assoc] at joined
        exact other (List.singleton_inj.mp (List.append_inj' joined rfl).2)
      rw [ih, Bool.eq_iff_iff, occursIn_iff_infix, occursIn_iff_infix, List.infix_concat_iff,
        or_iff_right elsewhere]
    next => rfl

end Kept

end ConfigStack.Text
