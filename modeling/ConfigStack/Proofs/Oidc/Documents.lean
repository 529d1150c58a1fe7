import ConfigStack.Oidc.Metadata
import Mathlib.Data.Set.List

/-!
# From a JSON value to metadata

A document is read from an object if what is there of the seven members is what the document would
be written as (`Document.ofJson_eq_ok_iff`). So an object is accepted if and only if each member is
missing, `null` or of its type, every refusal is recoverable, and the metadata is known member by
member (`metadata_by_members`).
-/
namespace ConfigStack.Oidc

namespace Document

/-! ### Reading one member -/

/-- The reader accepts what is written, and nothing else. -/
def Reads {α : Type} (read : Json → Except DocumentError α) (write : α → Json) : Prop :=
  ∀ j a, read j = .ok a ↔ j = write a

def writeStrings (strings : List String) : Json :=
  .array (strings.map .string)

theorem reads_string : Reads readString .string := by
  intro j s
  cases j <;> simp [readString]

theorem bind_eq_ok_iff {ε α β : Type} {first : Except ε α} {next : α → Except ε β} {result : β} :
    (first >>= next) = .ok result ↔ ∃ value, first = .ok value ∧ next value = .ok result := by
  cases first <;> simp [bind, Except.bind]

theorem mapM_readString_eq_ok_iff (items : List Json) (strings : List String) :
    items.mapM readString = .ok strings ↔ items = strings.map .string := by
  induction items generalizing strings with
  | nil => cases strings <;> simp [pure, Except.pure]
  | cons item rest ih =>
    rw [List.mapM_cons]
    simp only [bind_eq_ok_iff, reads_string item, ih]
    cases strings <;> simp [pure, Except.pure]

theorem reads_strings : Reads readStrings writeStrings := by
  intro j strings
  cases j <;> simp [readStrings, writeStrings, mapM_readString_eq_ok_iff]

section Member

variable {α : Type} {read : Json → Except DocumentError α} {write : α → Json}

/-- A member is read as what it is written as, if it is there. -/
theorem Reads.member (reads : Reads read write) (name : String) (j : Json) (found : Option α) :
    readMember read name j = .ok found ↔ j.present? name = found.map write := by
  rw [readMember]
  cases j.present? name with
  | none => cases found <;> simp
  | some value =>
    cases found with
    | none =>
      -- A member that is there is read as something, or not at all.
      cases result : read value <;> simp [result, Except.map]
    | some a =>
      rw [Option.map_some, Option.some.injEq, ← reads value a]
      cases result : read value <;> simp [result, Except.map]

end Member

theorem present?_eq_none_iff {name : String} {j : Json} :
    j.present? name = none ↔ j.member? name = none ∨ j.member? name = some .null := by
  rw [Json.present?]
  split <;> simp_all

theorem present?_eq_some_iff {name : String} {j value : Json} (notNull : value ≠ .null) :
    j.present? name = some value ↔ j.member? name = some value := by
  rw [Json.present?]
  split
  next null => simp [null, Ne.symm notNull]
  next => rfl

/-! ### Reading a document -/

/-- The members of an object that a document is written as; what it does not have is missing or
`null`. -/
structure WrittenAs (d : Document) (j : Json) : Prop where
  object : ∃ members, j = .object members
  issuer : j.present? "issuer" = d.issuer.map .string
  authorizationEndpoint :
    j.present? "authorization_endpoint" = d.authorizationEndpoint.map .string
  tokenEndpoint : j.present? "token_endpoint" = d.tokenEndpoint.map .string
  userinfoEndpoint : j.present? "userinfo_endpoint" = d.userinfoEndpoint.map .string
  jwksUri : j.present? "jwks_uri" = d.jwksUri.map .string
  introspectionEndpoint :
    j.present? "introspection_endpoint" = d.introspectionEndpoint.map .string
  authMethods :
    j.present? "token_endpoint_auth_methods_supported" = d.authMethods.map writeStrings

theorem readMembers_eq_ok_iff (j : Json) (d : Document) (object : ∃ members, j = .object members) :
    readMembers j = .ok d ↔ d.WrittenAs j := by
  simp only [readMembers, bind_eq_ok_iff, reads_string.member, reads_strings.member]
  -- The members are read in the order of their names, which is not that of the fields.
  constructor
  · rintro ⟨authorization, h₁, introspection, h₂, issuer, h₃, jwks, h₄, token, h₅, methods, h₆,
      userinfo, h₇, written⟩
    obtain rfl := Except.ok.inj written
    exact ⟨object, h₃, h₁, h₅, h₇, h₄, h₂, h₆⟩
  · intro w
    exact ⟨_, w.authorizationEndpoint, _, w.introspectionEndpoint, _, w.issuer, _, w.jwksUri, _,
      w.tokenEndpoint, _, w.authMethods, _, w.userinfoEndpoint, rfl⟩

theorem ofJson_eq_ok_iff (j : Json) (d : Document) : ofJson j = .ok d ↔ d.WrittenAs j := by
  cases j with
  | object members =>
    rw [← readMembers_eq_ok_iff _ _ ⟨members, rfl⟩, ofJson]
    cases readMembers (.object members) <;> simp [Except.mapError]
  | _ =>
    refine iff_of_false nofun fun w => ?_
    obtain ⟨members, same⟩ := w.object
    cases same

/-! ### The values that are accepted -/

/-- The members that are one string each. -/
def stringMembers : List String :=
  ["issuer", "authorization_endpoint", "token_endpoint", "userinfo_endpoint", "jwks_uri",
    "introspection_endpoint"]

/-- The member that is a list of authentication methods. -/
def methodsMember : String := "token_endpoint_auth_methods_supported"

/-- An object in which each of the seven members is missing, `null` or of its type. -/
structure Acceptable (j : Json) : Prop where
  object : ∃ members, j = .object members
  strings : ∀ name ∈ stringMembers, j.member? name = none ∨ j.member? name = some .null ∨
    ∃ s, j.member? name = some (.string s)
  methods : j.member? methodsMember = none ∨ j.member? methodsMember = some .null ∨
    ∃ items, j.member? methodsMember = some (.array items) ∧ ∀ item ∈ items, ∃ s, item = .string s

theorem exists_written_iff {α : Type} {write : α → Json} (notNull : ∀ a, write a ≠ .null)
    (name : String) (j : Json) :
    (∃ found : Option α, j.present? name = found.map write) ↔
      j.member? name = none ∨ j.member? name = some .null ∨
        ∃ a, j.member? name = some (write a) := by
  rw [← or_assoc, ← present?_eq_none_iff]
  constructor
  · rintro ⟨_ | a, written⟩
    · exact .inl written
    · exact .inr ⟨a, (present?_eq_some_iff (notNull a)).mp written⟩
  · rintro (nothing | ⟨a, written⟩)
    · exact ⟨none, nothing⟩
    · exact ⟨some a, (present?_eq_some_iff (notNull a)).mpr written⟩

theorem forall_string_iff (items : List Json) :
    (∀ item ∈ items, ∃ s, item = .string s) ↔
      ∃ strings : List String, items = strings.map .string := by
  have lists := Set.ext_iff.mp (Set.range_list_map Json.string) items
  simp only [Set.mem_range, Set.mem_ofPred_eq, eq_comm (b := items)] at lists
  simp only [lists, eq_comm]

theorem exists_methods_iff (j : Json) :
    (∃ found : Option (List String), j.present? methodsMember = found.map writeStrings) ↔
      j.member? methodsMember = none ∨ j.member? methodsMember = some .null ∨
        ∃ items, j.member? methodsMember = some (.array items) ∧
          ∀ item ∈ items, ∃ s, item = .string s := by
  rw [exists_written_iff (fun strings => by nofun)]
  refine or_congr_right (or_congr_right ?_)
  simp only [forall_string_iff]
  constructor
  · rintro ⟨strings, written⟩
    exact ⟨_, written, strings, rfl⟩
  · rintro ⟨_, written, strings, rfl⟩
    exact ⟨strings, written⟩

theorem exists_writtenAs_iff (j : Json) : (∃ d : Document, d.WrittenAs j) ↔ Acceptable j := by
  have notNull : ∀ s, Json.string s ≠ .null := fun s => nofun
  have ofString := fun name => exists_written_iff notNull name j
  constructor
  · rintro ⟨d, w⟩
    refine ⟨w.object, fun name member => (ofString name).mp ?_,
      (exists_methods_iff j).mp ⟨_, w.authMethods⟩⟩
    simp only [stringMembers, List.mem_cons, List.not_mem_nil, or_false] at member
    rcases member with rfl | rfl | rfl | rfl | rfl | rfl
    · exact ⟨_, w.issuer⟩
    · exact ⟨_, w.authorizationEndpoint⟩
    · exact ⟨_, w.tokenEndpoint⟩
    · exact ⟨_, w.userinfoEndpoint⟩
    · exact ⟨_, w.jwksUri⟩
    · exact ⟨_, w.introspectionEndpoint⟩
  · intro acceptable
    -- Each member says what the document has for it, and together they make up the document.
    have string : ∀ name ∈ stringMembers, ∃ found : Option String,
        j.present? name = found.map .string :=
      fun name member => (ofString name).mpr (acceptable.strings name member)
    simp only [stringMembers, List.forall_mem_cons] at string
    obtain ⟨⟨issuer, h₁⟩, ⟨authorization, h₂⟩, ⟨token, h₃⟩, ⟨userinfo, h₄⟩, ⟨jwks, h₅⟩,
      ⟨introspection, h₆⟩, -⟩ := string
    obtain ⟨methods, h₇⟩ := (exists_methods_iff j).mpr acceptable.methods
    exact ⟨⟨issuer, authorization, token, userinfo, jwks, introspection, methods⟩,
      acceptable.object, h₁, h₂, h₃, h₄, h₅, h₆, h₇⟩

/-- What is there of the members decides about a document, whatever other members there are. -/
theorem ofJson_congr {j other : Json} (object : ∃ members, j = .object members)
    (objectToo : ∃ members, other = .object members)
    (same : ∀ name ∈ methodsMember :: stringMembers, other.present? name = j.present? name) :
    ofJson other = ofJson j := by
  obtain ⟨members, rfl⟩ := object
  obtain ⟨others, rfl⟩ := objectToo
  simp only [methodsMember, stringMembers, List.forall_mem_cons] at same
  obtain ⟨h₁, h₂, h₃, h₄, h₅, h₆, h₇, -⟩ := same
  simp only [ofJson, readMembers, readMember, h₁, h₂, h₃, h₄, h₅, h₆, h₇]

end Document

/-! ### Metadata -/

/-- The members that are endpoints with a template, and the metadata each of them is for. -/
def endpointMembers : List (String × (Metadata → String)) :=
  [("authorization_endpoint", Metadata.authorizationUri), ("token_endpoint", Metadata.tokenUri),
    ("userinfo_endpoint", Metadata.userInfoUri), ("jwks_uri", Metadata.jwkSetUri)]

/-- The issuer accepts clients without a secret, or does not say what it accepts. -/
def AcceptsPublic (j : Json) : Prop :=
  j.member? Document.methodsMember = none ∨ j.member? Document.methodsMember = some .null ∨
    ∃ items, j.member? Document.methodsMember = some (.array items) ∧ .string "none" ∈ items

namespace Document

variable {j : Json} {d : Document}

theorem eq_some_iff_member {name : String} {found : Option String}
    (written : j.present? name = found.map .string) (s : String) :
    found = some s ↔ j.member? name = some (.string s) := by
  have notNull : Json.string s ≠ .null := nofun
  rw [← present?_eq_some_iff notNull, written]
  cases found <;> simp

/-- The endpoint a document names is taken as it is, and the template where it names none. -/
theorem getD_of_written {name : String} {found : Option String}
    (written : j.present? name = found.map .string) (template : String) :
    (∀ s, j.member? name = some (.string s) → found.getD template = s) ∧
      ((∀ s, j.member? name ≠ some (.string s)) → found.getD template = template) := by
  simp only [ne_eq, ← eq_some_iff_member written]
  cases found <;> simp

theorem WrittenAs.endpoint (w : d.WrittenAs j) (style : IssuerStyle) (baseKey : String)
    {name : String} {uri : Metadata → String} (listed : (name, uri) ∈ endpointMembers) :
    (∀ s, j.member? name = some (.string s) → uri (.discovered d style baseKey) = s) ∧
      ((∀ s, j.member? name ≠ some (.string s)) →
        uri (.discovered d style baseKey) = uri (.fallback baseKey)) := by
  simp only [endpointMembers, List.mem_cons, Prod.mk.injEq, List.not_mem_nil, or_false] at listed
  rcases listed with ⟨rfl, rfl⟩ | ⟨rfl, rfl⟩ | ⟨rfl, rfl⟩ | ⟨rfl, rfl⟩
  · exact getD_of_written w.authorizationEndpoint _
  · exact getD_of_written w.tokenEndpoint _
  · exact getD_of_written w.userinfoEndpoint _
  · exact getD_of_written w.jwksUri _

theorem WrittenAs.acceptsPublic_iff (w : d.WrittenAs j) :
    AcceptsPublic j ↔ ∀ methods, d.authMethods = some methods → "none" ∈ methods := by
  have written : j.present? methodsMember = d.authMethods.map writeStrings := w.authMethods
  rw [AcceptsPublic, ← or_assoc, ← present?_eq_none_iff, written]
  cases found : d.authMethods with
  | none => simp
  | some methods =>
    have notNull : writeStrings methods ≠ .null := nofun
    rw [found, Option.map_some, present?_eq_some_iff notNull] at written
    simp [written, writeStrings]

theorem WrittenAs.authMethod (w : d.WrittenAs j) (style : IssuerStyle) (baseKey : String) :
    (AcceptsPublic j → (Metadata.discovered d style baseKey).authMethod = "none") ∧
      (¬AcceptsPublic j →
        (Metadata.discovered d style baseKey).authMethod = "client_secret_basic") := by
  rw [w.acceptsPublic_iff, Metadata.discovered]
  dsimp only
  unfold authMethodFor
  cases d.authMethods with
  | none => simp [publicClientMethod]
  | some methods =>
    simp only [Option.some.injEq, forall_eq', List.contains_iff_mem, publicClientMethod,
      secretMethod]
    exact ⟨fun mem => if_pos mem, fun mem => if_neg mem⟩

end Document

/-- Every refusal of a document is recoverable: the defaults serve then. -/
theorem refusal_recoverable {j : Json} {e : DiscoveryError}
    (refused : Document.ofJson j = .error e) :
    (∃ reason, e = .malformed reason) ∧ e.isRecoverable = true := by
  have malformed : ∃ reason, e = .malformed reason := by
    cases j with
    | object members =>
      rw [Document.ofJson] at refused
      cases result : Document.readMembers (.object members) with
      | ok d =>
        rw [result] at refused
        cases refused
      | error why =>
        rw [result] at refused
        cases refused
        exact ⟨_, rfl⟩
    | _ =>
      cases refused
      exact ⟨_, rfl⟩
  obtain ⟨reason, rfl⟩ := malformed
  exact ⟨⟨reason, rfl⟩, rfl⟩

/-- **Metadata by members.** For every JSON value, style and base key. A document is read from the
value if and only if it is an object in which each of the seven members is missing, `null` or of its
type, whatever other members there are; and every refusal is recoverable. The metadata of the
document has each endpoint as the object names it, and where it names none the endpoint that the
fallback has; an introspection endpoint where the object names one; and the method of clients
without a secret if the object says that it is accepted or does not say what is, else the method of
clients with a secret. Two objects with the same seven members come to the same metadata. -/
theorem metadata_by_members (j : Json) (style : IssuerStyle) (baseKey : String) :
    ((∃ d, Document.ofJson j = .ok d) ↔ Document.Acceptable j) ∧
    (∀ e, Document.ofJson j = .error e →
      (∃ reason, e = .malformed reason) ∧ e.isRecoverable = true) ∧
    (∀ d, Document.ofJson j = .ok d →
      (∀ name uri, (name, uri) ∈ endpointMembers →
        (∀ s, j.member? name = some (.string s) → uri (.discovered d style baseKey) = s) ∧
        ((∀ s, j.member? name ≠ some (.string s)) →
          uri (.discovered d style baseKey) = uri (.fallback baseKey))) ∧
      (∀ s, (Metadata.discovered d style baseKey).introspectionUri = some s ↔
        j.member? "introspection_endpoint" = some (.string s)) ∧
      (AcceptsPublic j → (Metadata.discovered d style baseKey).authMethod = "none") ∧
      (¬AcceptsPublic j →
        (Metadata.discovered d style baseKey).authMethod = "client_secret_basic")) ∧
    ∀ other, (∃ members, j = .object members) → (∃ members, other = .object members) →
      (∀ name ∈ Document.methodsMember :: Document.stringMembers,
        other.present? name = j.present? name) →
      (Document.ofJson other).map (Metadata.discovered · style baseKey) =
        (Document.ofJson j).map (Metadata.discovered · style baseKey) := by
  refine ⟨?_, fun e => refusal_recoverable, fun d read => ?_, ?_⟩
  · simp only [Document.ofJson_eq_ok_iff, Document.exists_writtenAs_iff]
  · have w := (Document.ofJson_eq_ok_iff j d).mp read
    exact ⟨fun name uri => w.endpoint style baseKey,
      Document.eq_some_iff_member w.introspectionEndpoint, w.authMethod style baseKey⟩
  · intro other object objectToo same
    rw [Document.ofJson_congr object objectToo same]

section Terse

/-- An object that names one endpoint, and what is accepted there. -/
def terse : Json :=
  .object [("issuer", .null), ("token_endpoint", .string "https://a.b/token"),
    (Document.methodsMember, .array [.string "client_secret_post"])]

/-- The same members, and another one. -/
def terseAgain : Json :=
  .object [(Document.methodsMember, .array [.string "client_secret_post"]),
    ("claims_supported", .array [.null]), ("token_endpoint", .string "https://a.b/token")]

def numbered : Json := .object [("issuer", .number (.natural 5))]

/-- The metadata of an object with two of the members, and the refusal of one whose issuer is a
number. -/
theorem metadata_by_members_of_terse :
    (∃ d, Document.ofJson terse = .ok d ∧
      (Metadata.discovered d .standard "base").tokenUri = "https://a.b/token" ∧
      (Metadata.discovered d .standard "base").jwkSetUri = (Metadata.fallback "base").jwkSetUri ∧
      (Metadata.discovered d .standard "base").introspectionUri ≠ some "https://a.b/token" ∧
      (Metadata.discovered d .standard "base").authMethod = "client_secret_basic") ∧
    (Document.ofJson terseAgain).map (Metadata.discovered · .standard "base") =
      (Document.ofJson terse).map (Metadata.discovered · .standard "base") ∧
    ∃ e, Document.ofJson numbered = .error e ∧ e.isRecoverable = true := by
  obtain ⟨-, -, described, agreeing⟩ := metadata_by_members terse .standard "base"
  refine ⟨⟨_, rfl, ?_⟩, ?_, _, rfl, ?_⟩
  · obtain ⟨endpoints, introspection, -, secret⟩ := described _ rfl
    refine ⟨(endpoints "token_endpoint" _ (by simp [endpointMembers])).1 _ rfl,
      (endpoints "jwks_uri" _ (by simp [endpointMembers])).2 (by nofun),
      fun named => ?_, secret ?_⟩
    · cases (introspection _).mp named
    · rintro (nothing | null | ⟨items, listed, accepted⟩)
      · cases nothing
      · cases null
      · cases listed
        simp at accepted
  · exact agreeing terseAgain ⟨_, rfl⟩ ⟨_, rfl⟩ (by
      simp only [Document.methodsMember, Document.stringMembers, List.forall_mem_cons]
      exact ⟨rfl, rfl, rfl, rfl, rfl, rfl, rfl, by nofun⟩)
  · exact ((metadata_by_members numbered .standard "base").2.1 _ rfl).2

end Terse

end ConfigStack.Oidc
