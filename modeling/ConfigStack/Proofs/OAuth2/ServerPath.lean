import ConfigStack.OAuth2.Derivation
import ConfigStack.Proofs.Text

/-!
# Issuers that name a server path

An issuer is the base of its endpoints as it stands if its text contains the server path. A text
contains the path wherever something behind a slash begins with the path's one segment. So a search
for the text finds more than a search for the segment: a longer segment (`/oauth2-proxy`), and a
host, which stands behind the second slash of `://`. On all other issuers the two agree
(`issuerWithPath_by_segment_iff`).
-/
namespace ConfigStack.OAuth2

open Oidc (IssuerStyle)

/-- The one segment of the server path. -/
def serverSegment : String := "oauth2"

/-- An issuer in its parts: a scheme, an authority, the segments of a path, and slashes at the
end. -/
structure PathIssuer where
  scheme : String
  authority : String
  segments : List String
  finalSlashes : Nat
  scheme_clear : '/' ∉ scheme.toList
  parts_clear : ∀ part ∈ authority :: segments, '/' ∉ part.toList
  parts_nonempty : ∀ part ∈ authority :: segments, part ≠ ""

namespace PathIssuer

def base (i : PathIssuer) : String :=
  i.scheme ++ "://" ++ String.intercalate "/" (i.authority :: i.segments)

def text (i : PathIssuer) : String :=
  i.base ++ String.ofList (List.replicate i.finalSlashes '/')

/-- The base of the endpoints where the issuer's segments decide about it. -/
def baseBySegment (i : PathIssuer) : String :=
  if serverSegment ∈ i.segments then i.text else i.base ++ serverPath

/-- Whether the authority or a segment begins with the segment of the server path. -/
def BeginsPart (i : PathIssuer) : Prop :=
  ∃ part ∈ i.authority :: i.segments, serverSegment.toList <+: part.toList

instance (i : PathIssuer) : Decidable i.BeginsPart :=
  inferInstanceAs (Decidable (∃ part ∈ i.authority :: i.segments, _))

theorem beginsPart_of_mem {i : PathIssuer} (named : serverSegment ∈ i.segments) : i.BeginsPart :=
  ⟨serverSegment, List.mem_cons_of_mem _ named, List.prefix_rfl⟩

theorem pieces_base (i : PathIssuer) :
    Text.pieces '/' i.base.toList =
      (i.scheme.toList ++ [':']) :: [] :: (i.authority :: i.segments).map String.toList := by
  have spelled : i.base.toList = ['/'].intercalate
      ((i.scheme.toList ++ [':']) :: [] :: (i.authority :: i.segments).map String.toList) := by
    rw [List.map_cons, List.intercalate_cons_cons, List.intercalate_cons_cons, base]
    simp [String.toList_append, String.toList_intercalate]
  rw [spelled]
  refine Text.pieces_intercalate (List.cons_ne_nil _ _) fun part member => ?_
  rcases List.mem_cons.mp member with rfl | member
  · simp [i.scheme_clear]
  rcases List.mem_cons.mp member with rfl | member
  · exact List.not_mem_nil
  · obtain ⟨own, among, rfl⟩ := List.mem_map.mp member
    exact i.parts_clear own among

/-- The text contains the server path where one of its parts begins with the segment. -/
theorem occursIn_text_iff (i : PathIssuer) :
    Text.occursIn serverPath.toList i.text.toList = true ↔ i.BeginsPart := by
  have path : serverPath.toList = '/' :: serverSegment.toList := by decide
  have clear : '/' ∉ serverSegment.toList := by decide
  have notEmpty : ¬serverSegment.toList <+: [] := by decide
  -- Behind the slashes stand nothing, the parts, and nothing for each final slash.
  have pieces : (Text.pieces '/' i.text.toList).tail =
      [] :: (i.authority :: i.segments).map String.toList ++ List.replicate i.finalSlashes [] := by
    rw [text, String.toList_append, String.toList_ofList, Text.pieces_append_replicate,
      pieces_base]
    rfl
  rw [path, Text.occursIn_separated_iff clear, pieces, BeginsPart]
  constructor
  · rintro ⟨piece, member, starts⟩
    rcases List.mem_append.mp member with among | slash
    · rcases List.mem_cons.mp among with rfl | among
      · exact absurd starts notEmpty
      · obtain ⟨part, listed, rfl⟩ := List.mem_map.mp among
        exact ⟨part, listed, starts⟩
    · obtain ⟨-, rfl⟩ := List.mem_replicate.mp slash
      exact absurd starts notEmpty
  · rintro ⟨part, listed, starts⟩
    have among : part.toList ∈ (i.authority :: i.segments).map String.toList :=
      List.mem_map_of_mem listed
    exact ⟨part.toList, List.mem_append_left _ (List.mem_cons_of_mem _ among), starts⟩

theorem exists_intercalate_concat (separator : List Char) (front : List (List Char))
    (last : List Char) :
    ∃ before, separator.intercalate (front ++ [last]) = before ++ last := by
  induction front with
  | nil => exact ⟨[], by rw [List.nil_append, List.intercalate_singleton, List.nil_append]⟩
  | cons part rest ih =>
    obtain ⟨before, same⟩ := ih
    refine ⟨part ++ separator ++ before, ?_⟩
    cases rest <;>
      simp only [List.cons_append, List.nil_append, List.intercalate_cons_cons,
        List.append_assoc] at same ⊢ <;> rw [same]

theorem exists_getLast_base (i : PathIssuer) :
    ∃ last, i.base.toList.getLast? = some last ∧ last ≠ '/' := by
  obtain ⟨front, part, cut⟩ := List.eq_nil_or_concat' (i.authority :: i.segments) |>.resolve_left
    (List.cons_ne_nil _ _)
  have member : part ∈ i.authority :: i.segments := by
    rw [cut]
    simp
  obtain ⟨before, joined⟩ :=
    exists_intercalate_concat ['/'] (front.map String.toList) part.toList
  have spelled : i.base.toList = (i.scheme ++ "://").toList ++ before ++ part.toList := by
    rw [base, String.toList_append, String.toList_intercalate, cut, List.map_append,
      List.append_assoc, ← joined]
    rfl
  rcases List.eq_nil_or_concat' part.toList with empty | ⟨chars, last, same⟩
  · exact absurd (String.toList_eq_nil_iff.mp empty) (i.parts_nonempty part member)
  · refine ⟨last, by rw [spelled, same, ← List.append_assoc, List.getLast?_concat], ?_⟩
    rintro rfl
    exact i.parts_clear part member (by rw [same]; simp)

theorem withoutFinalSlashes_text (i : PathIssuer) : Text.withoutFinalSlashes i.text = i.base := by
  obtain ⟨last, ends, other⟩ := i.exists_getLast_base
  rw [Text.withoutFinalSlashes, text, String.toList_append, String.toList_ofList,
    Text.dropEndWhile_append ends (by simpa using other) (by simp), String.ofList_toList]

/-- The server path is no row of slashes. -/
theorem text_ne_base_append (i : PathIssuer) : i.text ≠ i.base ++ serverPath := by
  intro same
  rw [text, ← String.toList_inj, String.toList_append, String.toList_append,
    String.toList_ofList, List.append_cancel_left_eq] at same
  have letter : 'o' ∈ List.replicate i.finalSlashes '/' := by
    rw [same]
    decide
  exact absurd (List.eq_of_mem_replicate letter) (by decide)

end PathIssuer

theorem issuerWithPath_standard (issuer : String) :
    issuerWithPath issuer .standard =
      if Text.occursIn serverPath.toList issuer.toList = true then issuer
      else Text.withoutFinalSlashes issuer ++ serverPath := rfl

/-- What was made a base has the server path and is one. -/
theorem issuerWithPath_issuerWithPath (issuer : String) (style : IssuerStyle) :
    issuerWithPath (issuerWithPath issuer style) style = issuerWithPath issuer style := by
  cases style with
  | alternate => rfl
  | standard =>
    rw [issuerWithPath_standard issuer]
    split
    next contains => rw [issuerWithPath_standard, if_pos contains]
    next =>
      have contains : Text.occursIn serverPath.toList
          (Text.withoutFinalSlashes issuer ++ serverPath).toList = true := by
        rw [Text.occursIn_iff_infix, String.toList_append]
        exact (List.suffix_append _ _).isInfix
      rw [issuerWithPath_standard, if_pos contains]

/-- **The server path is looked for as text.** A standard issuer is the base of its endpoints as it
stands if its authority or one of its segments begins with the segment of the server path, and else
the path goes behind it without its final slashes. That is what its segments say where one of them
is the segment, and where no part begins so. The base of a base is the base itself. -/
theorem issuerWithPath_by_segment_iff (i : PathIssuer) (issuer : String) (style : IssuerStyle) :
    issuerWithPath i.text .standard = (if i.BeginsPart then i.text else i.base ++ serverPath) ∧
    (issuerWithPath i.text .standard = i.baseBySegment ↔
      (serverSegment ∈ i.segments ∨ ¬i.BeginsPart)) ∧
    issuerWithPath (issuerWithPath issuer style) style = issuerWithPath issuer style := by
  have byPart : issuerWithPath i.text .standard =
      if i.BeginsPart then i.text else i.base ++ serverPath := by
    rw [issuerWithPath_standard, i.withoutFinalSlashes_text]
    exact if_congr i.occursIn_text_iff rfl rfl
  refine ⟨byPart, ?_, issuerWithPath_issuerWithPath issuer style⟩
  rw [byPart, PathIssuer.baseBySegment]
  by_cases named : serverSegment ∈ i.segments
  · simp [named, PathIssuer.beginsPart_of_mem named]
  · by_cases begins : i.BeginsPart
    · simp [named, begins, i.text_ne_base_append]
    · simp [named, begins]

/-- An issuer without a path, on a host that begins like the server path. -/
def serverHost : PathIssuer where
  scheme := "https"
  authority := "oauth2.example.com"
  segments := []
  finalSlashes := 0
  scheme_clear := by decide
  parts_clear := by decide
  parts_nonempty := by decide

/-- The host is taken for the server path: the issuer is its own base, and by its segments the path
would go behind it. -/
theorem issuerWithPath_serverHost :
    serverHost.text = "https://oauth2.example.com" ∧
      serverHost.BeginsPart ∧ serverSegment ∉ serverHost.segments ∧
      issuerWithPath serverHost.text .standard = serverHost.text ∧
      serverHost.baseBySegment = "https://oauth2.example.com/oauth2" ∧
      issuerWithPath serverHost.text .standard ≠ serverHost.baseBySegment := by
  obtain ⟨byPart, agrees, -⟩ :=
    issuerWithPath_by_segment_iff serverHost serverHost.text .standard
  have begins : serverHost.BeginsPart := by decide
  have unnamed : serverSegment ∉ serverHost.segments := by decide
  refine ⟨by decide, begins, unnamed, ?_, by decide, ?_⟩
  · rw [byPart, if_pos begins]
  · intro same
    rcases agrees.mp same with named | other
    · exact unnamed named
    · exact other begins

end ConfigStack.OAuth2
