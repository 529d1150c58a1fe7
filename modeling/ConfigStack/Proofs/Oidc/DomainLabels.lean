import ConfigStack.Oidc.Issuer
import ConfigStack.Proofs.Text
import Mathlib.Logic.Relation

/-!
# Domains by their labels

Whether a host is under a domain is told from characters: the domain ends the host, with nothing
before it or a dot. In terms of labels, those of the domain are the last labels of the host
(`isUnder_iff`); so characters at the end that begin inside a label count for nothing. A classifier
has the domains in normal form, and what the normal form drops makes no difference to a style, nor
do the order and the number of the domains (`style_by_labels`).
-/
namespace ConfigStack.Oidc.DomainClassifier

/-! ### Labels -/

/-- The labels of a name: what stands between its dots. -/
def labels (name : String) : List (List Char) :=
  name.toList.splitOn '.'

theorem labels_suffix_iff {domain host : String} :
    labels domain <:+ labels host ↔ host = domain ∨ '.' :: domain.toList <:+ host.toList := by
  rw [labels, labels, ← Text.pieces_eq_splitOn, ← Text.pieces_eq_splitOn, Text.pieces_suffix_iff,
    String.toList_inj]

/-- A host is under a domain if and only if the labels of the domain are the last ones of the
host. -/
theorem isUnder_iff (host domain : String) :
    isUnder host domain = true ↔ labels domain <:+ labels host := by
  rw [labels_suffix_iff, isUnder, Bool.or_eq_true, Bool.and_eq_true, decide_eq_true_eq,
    decide_eq_true_eq, List.isSuffixOf_iff_suffix]
  refine or_congr_right ⟨?_, ?_⟩
  · rintro ⟨⟨front, joined⟩, dot⟩
    rw [← joined, List.length_append, Nat.add_sub_cancel, List.take_left,
      List.getLast?_eq_some_iff] at dot
    -- The dot belongs to what stands before the domain, and the domain ends the host with it too.
    obtain ⟨before, rfl⟩ := dot
    exact ⟨before, by rw [← joined, List.append_assoc, List.singleton_append]⟩
  · rintro ⟨before, joined⟩
    have cut : (before ++ ['.']) ++ domain.toList = host.toList := by
      rw [← joined, List.append_assoc, List.singleton_append]
    have front : host.toList.length - domain.toList.length = (before ++ ['.']).length := by
      rw [← cut, List.length_append, Nat.add_sub_cancel]
    refine ⟨⟨before ++ ['.'], cut⟩, ?_⟩
    rw [front, ← cut, List.take_left, List.getLast?_concat]

/-- Characters at the end of a host that begin inside a label are no last labels of it. -/
theorem not_labels_suffix {domain host : String} {front : List Char} {last : Char}
    (ends : host.toList = front ++ last :: domain.toList) (inside : last ≠ '.') :
    ¬labels domain <:+ labels host := by
  rw [labels_suffix_iff, ends]
  rintro (rfl | ⟨before, joined⟩)
  · have longer := congrArg List.length ends
    rw [List.length_append, List.length_cons] at longer
    omega
  · have same := (List.append_inj' joined rfl).2
    exact inside (List.cons.inj same).1.symm

/-! ### Normal forms -/

theorem toList_normalDomain (domain : String) :
    (normalDomain domain).toList =
      ((Text.trim domain.toList).dropWhile (· = '.')).map Char.toLower := by
  rw [normalDomain, Text.lowered, String.toList_ofList, String.toList_ofList]

/-- One way to write a domain differently. -/
inductive Respelled : String → String → Prop where
  /-- With large letters for small ones, or small ones for large ones. -/
  | letters {one other : String} (same : Text.lowered one = Text.lowered other) :
      Respelled one other
  /-- With blanks around it. -/
  | blanks {before after : String} (blank : ∀ c ∈ before.toList, Text.isBlank c = true)
      (blankToo : ∀ c ∈ after.toList, Text.isBlank c = true) (domain : String) :
      Respelled domain (before ++ domain ++ after)
  /-- With dots before it, where the blanks around it are gone. -/
  | dots (domain : String) (n : Nat) :
      Respelled (Text.trimmed domain)
        (String.ofList (List.replicate n '.') ++ Text.trimmed domain)

theorem trimmed_dots (n : Nat) (domain : String) :
    Text.Trimmed (List.replicate n '.' ++ Text.trim domain.toList) := by
  refine (Text.trimmed_trim domain.toList).append fun c member => ?_
  rw [List.eq_of_mem_replicate member]
  decide

theorem Respelled.normalDomain_eq {one other : String} (respelled : Respelled one other) :
    normalDomain one = normalDomain other := by
  rw [← String.toList_inj, toList_normalDomain, toList_normalDomain]
  cases respelled with
  | letters same =>
    -- Neither blanks nor dots are letters, so it does not matter when letters are made small.
    have dotless : ∀ c : Char, c.isAlpha = true → decide (c = '.') = false := by
      rintro c alpha
      refine decide_eq_false ?_
      rintro rfl
      exact absurd alpha (by decide)
    have lowered := congrArg String.toList same
    rw [Text.lowered, Text.lowered, String.toList_ofList, String.toList_ofList] at lowered
    rw [← Text.dropWhile_map_toLower dotless, ← Text.trim_map_toLower, lowered,
      Text.trim_map_toLower, Text.dropWhile_map_toLower dotless]
  | blanks blank blankToo =>
    rw [String.toList_append, String.toList_append, Text.trim_between_blanks blank blankToo]
  | dots domain n =>
    rw [String.toList_append, String.toList_ofList, Text.trimmed, String.toList_ofList,
      Text.trim_trim, (trimmed_dots n domain).trim_eq,
      List.dropWhile_append_of_pos fun c member => decide_eq_true (List.eq_of_mem_replicate member)]

/-- Domains that differ only in how they are written. -/
def SameDomain : String → String → Prop :=
  Relation.EqvGen Respelled

/-- What is left of a domain without blanks around it and dots before it. -/
def core (domain : String) : String :=
  String.ofList ((Text.trim domain.toList).dropWhile (· = '.'))

/-- A domain without blanks around it is what is left of it behind dots. -/
theorem exists_dots_before_core (domain : String) :
    ∃ n, Text.trimmed domain = String.ofList (List.replicate n '.') ++ core domain := by
  have dots : ∃ n, (Text.trim domain.toList).takeWhile (· = '.') = List.replicate n '.' :=
    ⟨_, List.eq_replicate_iff.mpr ⟨rfl, fun c member => by
      simpa using List.mem_takeWhile_imp member⟩⟩
  obtain ⟨n, dots⟩ := dots
  refine ⟨n, ?_⟩
  rw [core, ← String.ofList_append, ← dots, List.takeWhile_append_dropWhile, Text.trimmed]

theorem trimmed_dotted_core (domain : String) :
    Text.trimmed ("." ++ core domain) = "." ++ core domain := by
  obtain ⟨n, dots⟩ := exists_dots_before_core domain
  have trimmed : Text.Trimmed ('.' :: (core domain).toList) := by
    refine ⟨fun c starts => ?_, fun c ends => ?_⟩
    · cases starts
      decide
    · -- The last character is the dot, or the last one of the trimmed domain.
      rw [List.getLast?_cons, Option.some.injEq] at ends
      cases last : (core domain).toList.getLast? with
      | none =>
        rw [← ends, last]
        decide
      | some d =>
        rw [last, Option.getD_some] at ends
        have whole := congrArg (fun text => text.toList.getLast?) dots
        simp only [Text.trimmed, String.toList_append, String.toList_ofList, List.getLast?_append,
          last, Option.some_or] at whole
        exact ends ▸ (Text.trimmed_trim domain.toList).2 d whole
  rw [Text.trimmed, String.toList_append]
  exact (congrArg String.ofList trimmed.trim_eq).trans (by simp)

/-- Every domain is the same as what is left of it, put behind a dot. -/
theorem sameDomain_dotted_core (domain : String) : SameDomain domain ("." ++ core domain) := by
  obtain ⟨before, after, blank, blankToo, around⟩ := Text.exists_blanks_around domain.toList
  have untrimmed : Respelled (Text.trimmed domain) domain := by
    have whole : String.ofList before ++ Text.trimmed domain ++ String.ofList after = domain := by
      rw [Text.trimmed, ← String.ofList_append, ← String.ofList_append, around,
        String.ofList_toList]
    have spelled : Respelled (Text.trimmed domain)
        (String.ofList before ++ Text.trimmed domain ++ String.ofList after) :=
      .blanks (by simpa using blank) (by simpa using blankToo) _
    rwa [whole] at spelled
  obtain ⟨n, dots⟩ := exists_dots_before_core domain
  have dotted : SameDomain (Text.trimmed domain) ("." ++ core domain) := by
    -- Without a dot there is one put before it; of several dots one stays.
    cases n with
    | zero =>
      rw [List.replicate_zero, String.ofList_nil, String.empty_append] at dots
      rw [← dots]
      exact .rel _ _ (.dots domain 1)
    | succ n =>
      have more := Respelled.dots ("." ++ core domain) n
      rw [trimmed_dotted_core, ← String.append_assoc] at more
      rw [dots, List.replicate_succ', String.ofList_append]
      exact .symm _ _ (.rel _ _ more)
  exact .trans _ _ _ (.symm _ _ (.rel _ _ untrimmed)) dotted

/-- What the normal form does not keep of a domain is how it is written, and nothing else. -/
theorem sameDomain_iff (one other : String) :
    SameDomain one other ↔ normalDomain one = normalDomain other := by
  constructor
  · intro same
    induction same with
    | rel _ _ respelled => exact respelled.normalDomain_eq
    | refl _ => rfl
    | symm _ _ _ ih => exact ih.symm
    | trans _ _ _ _ _ first second => exact first.trans second
  · intro same
    have letters : Respelled ("." ++ core one) ("." ++ core other) := by
      refine .letters ?_
      have lowered := congrArg String.toList same
      rw [toList_normalDomain, toList_normalDomain] at lowered
      simp only [Text.lowered, core, String.toList_append, String.toList_ofList, List.map_append,
        lowered]
    exact .trans _ _ _ (sameDomain_dotted_core one)
      (.trans _ _ _ (.rel _ _ letters) (.symm _ _ (sameDomain_dotted_core other)))

/-! ### Styles -/

/-- A host is under one of the domains as they are configured. -/
def Covers (domains : List String) (host : String) : Prop :=
  ∃ domain ∈ domains, normalDomain domain ≠ "" ∧
    labels (normalDomain domain) <:+ labels (Text.lowered host)

theorem Covers.mono {domains more : List String} (subset : domains ⊆ more) {host : String}
    (covers : Covers domains host) : Covers more host := by
  obtain ⟨domain, member, some, suffix⟩ := covers
  exact ⟨domain, subset member, some, suffix⟩

/-- Lists of domains in which each domain of the one is in the other, but for how it is written. -/
def SameDomains (domains others : List String) : Prop :=
  (∀ domain ∈ domains, ∃ other ∈ others, SameDomain domain other) ∧
    ∀ other ∈ others, ∃ domain ∈ domains, SameDomain domain other

theorem SameDomains.symm {domains others : List String} (same : SameDomains domains others) :
    SameDomains others domains := by
  refine ⟨fun other member => ?_, fun domain member => ?_⟩
  · obtain ⟨domain, found, alike⟩ := same.2 other member
    exact ⟨domain, found, .symm _ _ alike⟩
  · obtain ⟨other, found, alike⟩ := same.1 domain member
    exact ⟨other, found, .symm _ _ alike⟩

theorem SameDomains.covers {domains others : List String} (same : SameDomains domains others)
    {host : String} (covers : Covers domains host) : Covers others host := by
  obtain ⟨domain, member, some, suffix⟩ := covers
  obtain ⟨other, found, alike⟩ := same.1 domain member
  rw [(sameDomain_iff domain other).mp alike] at some suffix
  exact ⟨other, found, some, suffix⟩

theorem SameDomains.covers_iff {domains others : List String} (same : SameDomains domains others)
    (host : String) : Covers domains host ↔ Covers others host :=
  ⟨same.covers, same.symm.covers⟩

theorem any_isUnder_iff (domains : List String) (host : String) :
    (ofDomains domains).domains.any (isUnder (Text.lowered host)) = true ↔
      Covers domains host := by
  simp only [ofDomains, List.any_eq_true, List.mem_filter, List.mem_map, decide_eq_true_eq,
    isUnder_iff]
  constructor
  · rintro ⟨_, ⟨⟨domain, member, rfl⟩, some⟩, suffix⟩
    exact ⟨domain, member, some, suffix⟩
  · rintro ⟨domain, member, some, suffix⟩
    exact ⟨_, ⟨⟨domain, member, rfl⟩, some⟩, suffix⟩

theorem hostOf_eq_some_iff {candidate lowered : String} :
    hostOf candidate = some lowered ↔ ∃ url host, Url.parse candidate = .ok url ∧
      url.hostText = some host ∧ Text.lowered host = lowered := by
  rw [hostOf]
  cases Url.parse candidate with
  | error e => simp
  | ok url => simp [Option.map_eq_some_iff]

theorem classify_eq_alternate_iff (domains : List String) (issuer : String) (document : Document) :
    (ofDomains domains).classify issuer document = .alternate ↔
      ∃ url host, Url.parse (document.issuer.getD issuer) = .ok url ∧ url.hostText = some host ∧
        Covers domains host := by
  rw [classify]
  split
  next lowered found =>
    obtain ⟨url, host, parsed, hosted, rfl⟩ := hostOf_eq_some_iff.mp found
    rw [parsed]
    simp [hosted, ← any_isUnder_iff]
  next absent =>
    refine iff_of_false nofun ?_
    rintro ⟨url, host, parsed, hosted, -⟩
    rw [hostOf_eq_some_iff.mpr ⟨url, host, parsed, hosted, rfl⟩] at absent
    cases absent

/-- There are two styles, so a style is known once it is known whether it is the alternate one. -/
theorem style_eq_of_iff {one other : IssuerStyle}
    (same : one = .alternate ↔ other = .alternate) : one = other := by
  cases one <;> cases other <;> simp_all

/-- **Styles by labels.** For all domains as they are configured, every issuer and every document.
The style is the alternate one if and only if the issuer that counts, the one the document names or
else the configured one, has a host, and the normal form of some domain is not empty and its labels
are the last labels of the host in small letters. So the style stays the same when domains are put
in another order, repeated or written differently: in other letters, with blanks around them, or
with dots before what these blanks are around. Further domains never take the alternate style away,
and a domain that ends the host inside a label changes no style. -/
theorem style_by_labels (domains : List String) (issuer : String) (document : Document) :
    ((ofDomains domains).classify issuer document = .alternate ↔
      ∃ url host, Url.parse (document.issuer.getD issuer) = .ok url ∧ url.hostText = some host ∧
        ∃ domain ∈ domains, normalDomain domain ≠ "" ∧
          labels (normalDomain domain) <:+ labels (Text.lowered host)) ∧
    (∀ others, SameDomains domains others →
      (ofDomains others).classify issuer document =
        (ofDomains domains).classify issuer document) ∧
    (∀ more, domains ⊆ more → (ofDomains domains).classify issuer document = .alternate →
      (ofDomains more).classify issuer document = .alternate) ∧
    ∀ domain url host front last, Url.parse (document.issuer.getD issuer) = .ok url →
      url.hostText = some host →
      (Text.lowered host).toList = front ++ last :: (normalDomain domain).toList → last ≠ '.' →
      (ofDomains (domain :: domains)).classify issuer document =
        (ofDomains domains).classify issuer document := by
  refine ⟨classify_eq_alternate_iff domains issuer document, ?_, ?_, ?_⟩
  · intro others same
    refine style_eq_of_iff ?_
    simp only [classify_eq_alternate_iff, same.covers_iff]
  · intro more subset alternate
    rw [classify_eq_alternate_iff] at alternate ⊢
    obtain ⟨url, host, parsed, hosted, covers⟩ := alternate
    exact ⟨url, host, parsed, hosted, covers.mono subset⟩
  · intro domain url host front last parsed hosted ends inside
    refine style_eq_of_iff ?_
    rw [classify_eq_alternate_iff, classify_eq_alternate_iff, parsed]
    simp [hosted, Covers, not_labels_suffix ends inside]

section Tenants

def tenant : String := "https://eu.login.example.com"
def lookalike : String := "https://notauth0.com"

def custom : List String := [" .Login.Example.com ", ""]
def customAgain : List String := ["", "login.example.com", "..LOGIN.example.com"]

theorem sameDomains_custom : SameDomains custom customAgain := by
  simp only [SameDomains, sameDomain_iff]
  decide +kernel

/-- A tenant of a domain that is configured in two ways, and a host that only looks like one. -/
theorem style_by_labels_of_tenant :
    (ofDomains custom).classify tenant {} = .alternate ∧
      (ofDomains customAgain).classify tenant {} = .alternate ∧
      (ofDomains ("okta.com" :: custom)).classify tenant {} = .alternate ∧
      (ofDomains ["auth0.com"]).classify lookalike {} = (ofDomains []).classify lookalike {} := by
  have found : hostOf tenant = some "eu.login.example.com" := by decide +kernel
  have foundAlike : hostOf lookalike = some "notauth0.com" := by decide +kernel
  obtain ⟨url, host, parsed, hosted, lowered⟩ := hostOf_eq_some_iff.mp found
  obtain ⟨urlAlike, hostAlike, parsedAlike, hostedAlike, loweredAlike⟩ :=
    hostOf_eq_some_iff.mp foundAlike
  obtain ⟨labelled, respelled, extended, -⟩ := style_by_labels custom tenant {}
  have alternate : (ofDomains custom).classify tenant {} = .alternate :=
    labelled.mpr ⟨url, host, parsed, hosted, " .Login.Example.com ", List.mem_cons_self,
      by decide, by rw [lowered]; decide +kernel⟩
  refine ⟨alternate, (respelled customAgain sameDomains_custom).trans alternate,
    extended _ (List.subset_cons_self _ _) alternate, ?_⟩
  exact (style_by_labels [] lookalike {}).2.2.2 "auth0.com" urlAlike hostAlike ['n', 'o'] 't'
    parsedAlike hostedAlike (by rw [loweredAlike]; decide) (by decide)

end Tenants

end ConfigStack.Oidc.DomainClassifier
