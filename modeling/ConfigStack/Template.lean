import ConfigStack.Error
import ConfigStack.Text.Blank

/-!
# Text with placeholders

A text is literal pieces with references `${key}` between them. `Template.ofText` takes every text
apart, also one whose last reference is never closed, and `Template.toText` puts it together again.
Expanding a template asks for each reference in turn and puts the answers in their places; an
answer is never looked at for further references.
-/
namespace ConfigStack

/-- A literal piece and the reference that follows it, as written between the braces. -/
structure Segment where
  literal : List Char
  reference : List Char
  deriving DecidableEq, Repr

/-- The key a reference stands for: what is written, without blanks around it. -/
def Segment.key (s : Segment) : String :=
  String.ofList (Text.trim s.reference)

/-- A text taken apart: its references in order, each after its literal piece, and the rest. The
rest of a template that is not closed begins a reference and never ends it. -/
structure Template where
  segments : List Segment
  rest : List Char
  closed : Bool
  deriving DecidableEq, Repr

namespace Template

/-- Cuts at the first opening of a reference: what stands before it and what follows. -/
def cutOpening : List Char → Option (List Char × List Char)
  | [] => none
  | c :: cs =>
    match c, cs with
    | '$', '{' :: after => some ([], after)
    | c, cs =>
      match cutOpening cs with
      | some (before, after) => some (c :: before, after)
      | none => none

def cutClosing : List Char → Option (List Char × List Char)
  | [] => none
  | c :: cs =>
    if c = '}' then some ([], cs)
    else
      match cutClosing cs with
      | some (before, after) => some (c :: before, after)
      | none => none

/-- An opening is two characters long, and the cut loses nothing else. -/
theorem eq_of_cutOpening {cs before after : List Char} (h : cutOpening cs = some (before, after)) :
    cs = before ++ '$' :: '{' :: after := by
  induction cs generalizing before with
  | nil => simp [cutOpening] at h
  | cons c cs ih =>
    unfold cutOpening at h
    split at h
    · simp_all
    · split at h
      · next before' after' hcut =>
        simp only [Option.some.injEq, Prod.mk.injEq] at h
        obtain ⟨rfl, rfl⟩ := h
        simp [ih hcut]
      · simp at h

theorem eq_of_cutClosing {cs before after : List Char} (h : cutClosing cs = some (before, after)) :
    cs = before ++ '}' :: after := by
  induction cs generalizing before with
  | nil => simp [cutClosing] at h
  | cons c cs ih =>
    unfold cutClosing at h
    split at h
    · simp_all
    · split at h
      · next before' after' hcut =>
        simp only [Option.some.injEq, Prod.mk.injEq] at h
        obtain ⟨rfl, rfl⟩ := h
        simp [ih hcut]
      · simp at h

theorem length_lt_of_cuts {cs literal opened reference after : List Char}
    (opens : cutOpening cs = some (literal, opened))
    (closes : cutClosing opened = some (reference, after)) : after.length < cs.length := by
  rw [eq_of_cutOpening opens, eq_of_cutClosing closes]
  simp only [List.length_append, List.length_cons]
  omega

/-- Takes a text apart at its references. -/
def ofChars (cs : List Char) : Template :=
  match _opens : cutOpening cs with
  | none => ⟨[], cs, true⟩
  | some (literal, opened) =>
    match _closes : cutClosing opened with
    | none => ⟨[], cs, false⟩
    | some (reference, after) =>
      let t := ofChars after
      { t with segments := ⟨literal, reference⟩ :: t.segments }
termination_by cs.length
decreasing_by exact length_lt_of_cuts _opens _closes

def ofText (s : String) : Template :=
  ofChars s.toList

/-- The text the template was taken from. -/
def toChars (t : Template) : List Char :=
  t.segments.foldr (fun s after => s.literal ++ '$' :: '{' :: s.reference ++ '}' :: after) t.rest

/-- Whether a text has the opening of a reference anywhere. -/
def hasOpening (s : String) : Bool :=
  Text.occursIn ['$', '{'] s.toList

def reference (key : String) : String :=
  "$\x7b" ++ key ++ "\x7d"

variable {m : Type → Type} [Monad m] [MonadExceptOf ConfigError m]

/-- The segments with their references replaced, in order, and `after` behind them. -/
def expandSegments (lookup : String → m String) (after : List Char) : List Segment → m (List Char)
  | [] => pure after
  | s :: rest => do
    let text ← lookup s.key
    let more ← expandSegments lookup after rest
    pure (s.literal ++ text.toList ++ more)

/-- The text with every reference replaced by what the lookup gives for its key. The lookups come
first, in order, up to one that fails; then a reference that is never closed fails. -/
def expand (lookup : String → m String) (text : String) : m String := do
  let t := ofText text
  let filled ← expandSegments lookup t.rest t.segments
  if t.closed then pure (String.ofList filled)
  else throw (.placeholder (.unclosed text))

end Template

end ConfigStack
