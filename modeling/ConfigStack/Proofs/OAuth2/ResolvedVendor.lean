import ConfigStack.Proofs.OAuth2.DiscoveredEndpoints

/-!
# Set-ups of environments that read alike

Two environments may have different values for the vendor's keys that resolve to the same. A set-up
reads the issuer resolved, so it requests the same in both, and succeeds or fails alike with the
same metadata but for the style of the issuer. For the style it compares hosts with the domains
that are configured, and reads these as they stand: a domain behind a reference is not seen. So the
two come to the same metadata exactly where the domains as they stand give every document the same
style (`setup_of_same_reading`).
-/
namespace ConfigStack

/-! ### Values that are read alike -/

namespace Environment

/-- The key resolves to the same value in both environments, or is absent from both. Values are the
same only if their maps, too, have the same entries in the same order. -/
def SameReading (one other : Environment) (key : String) : Prop :=
  (one.contains key = some false ∧ other.contains key = some false) ∨
    ∃ v, one.getResolved .value key = pure v ∧ other.getResolved .value key = pure v

/-- Reading a key as a target is converting what it resolves to. -/
theorem getResolved_of_value {env : Environment} {key : String} {v : Value}
    (resolves : env.getResolved .value key = pure v) (target : Target) :
    env.getResolved target key = ExceptT.mk (some (convert target v key)) := by
  obtain ⟨raw, required, -⟩ := Reading.bind_eq_pure.mp resolves
  have held := require_eq_pure_iff.mp required
  rw [getResolved_value_of_held held] at resolves
  rw [getResolved_of_held held, resolves, pure_bind]

theorem SameReading.getOptional {one other : Environment} {key : String}
    (same : SameReading one other key) (target : Target) :
    one.getOptional target key = other.getOptional target key := by
  rcases same with ⟨absent, absentToo⟩ | ⟨v, resolves, resolvesToo⟩
  · rw [getOptional_of_absent (property_of_not_contains absent),
      getOptional_of_absent (property_of_not_contains absentToo)]
  · rw [Environment.getOptional, Environment.getOptional, getResolved_of_value resolves,
      getResolved_of_value resolvesToo]

end Environment

namespace Expansion

variable {property : String → Option (Option Value)}

theorem scalarText_of_value {v w : Value} (gives : value property v = pure w)
    (plain : ∀ s, v.scalarText? = some s → Template.hasOpening s = false) :
    w.scalarText? = v.scalarText? := by
  cases v with
  | string s =>
    rw [value, text_of_plain (plain s rfl), pure_bind] at gives
    rw [← Reading.pure_inj.mp gives]
  | list items =>
    rw [value, Reading.bind_eq_pure] at gives
    obtain ⟨results, -, same⟩ := gives
    rw [← Reading.pure_inj.mp same]
    rfl
  | _ => rw [← Reading.pure_inj.mp gives]

theorem scalarTexts_of_values {items results : List Value}
    (gives : values property items = pure results)
    (plain : ∀ s ∈ items.filterMap Value.scalarText?, Template.hasOpening s = false) :
    results.filterMap Value.scalarText? = items.filterMap Value.scalarText? := by
  have each := values_eq_pure_iff.mp gives
  clear gives
  induction each with
  | nil => rfl
  | @cons item _ rest _ here _ ih =>
    have own : ∀ s, item.scalarText? = some s → Template.hasOpening s = false := fun s text =>
      plain s (List.mem_filterMap.mpr ⟨item, List.mem_cons_self, text⟩)
    have others := ih fun s member => plain s <|
      (List.sublist_cons_self item rest).filterMap _ |>.subset member
    rw [List.filterMap_cons, List.filterMap_cons, scalarText_of_value here own, others]

/-- A value with plain texts offers the same texts when it is expanded. -/
theorem scalarTexts_of_value {v w : Value} (gives : value property v = pure w)
    (plain : ∀ s ∈ v.scalarTexts, Template.hasOpening s = false) :
    w.scalarTexts = v.scalarTexts := by
  cases v with
  | string s =>
    rw [value, text_of_plain (plain s (List.mem_singleton_self s)), pure_bind] at gives
    rw [← Reading.pure_inj.mp gives]
  | list items =>
    rw [value, Reading.bind_eq_pure] at gives
    obtain ⟨results, expands, same⟩ := gives
    rw [← Reading.pure_inj.mp same]
    exact scalarTexts_of_values expands plain
  | _ => rw [← Reading.pure_inj.mp gives]

end Expansion

namespace OAuth2

open Oidc (Client DomainClassifier Metadata)

/-! ### What two set-ups have in common -/

/-- The set-up makes the requests, and fails or puts the layers of the metadata in place. -/
def SetsUp (client : Client) (env : Environment) (result : Except ConfigError Metadata)
    (requests : List Url) : Prop :=
  ∃ trail, setUp (.given client) env =
    some (result.map fun m => install (derivedLayers m) env, trail) ∧ trail.requests = requests

/-- The set-ups of both environments make the same requests and come to the same failure or the
same metadata. -/
def SameOutcome (client : Client) (one other : Environment) : Prop :=
  ∃ result requests, SetsUp client one result requests ∧ SetsUp client other result requests

theorem setsUp_given {env : Environment} {issuer : Option String} {classifier : DomainClassifier}
    (readIssuer : env.getOptional (.scalar .text) Vendor.issuer = pure issuer)
    (readClassifier : configuredClassifier env = some classifier) (client : Client) :
    SetsUp client env
      ((Oidc.fetch client classifier Vendor.issuerWithPath issuer).result.mapError
        Oidc.DiscoveryError.toConfigError)
      (Oidc.fetch client classifier Vendor.issuerWithPath issuer).trail.requests := by
  refine ⟨_, setUp_given readIssuer readClassifier client |>.trans ?_, requests_concluded env _⟩
  generalize Oidc.fetch client classifier Vendor.issuerWithPath issuer = fetched
  rw [concluded]
  cases fetched.result with
  | error e => rfl
  | ok m => rfl

/-- The styles make different layers: these answer differently for one issuer. -/
theorem endpointBase_injective {s t : Oidc.IssuerStyle} (same : endpointBase s = endpointBase t) :
    s = t := by
  have held : issuerOnly.reads 1 (.property Vendor.issuer) = some (some (.string plainIssuer)) := by
    rw [Environment.reads_property_of_not_asking fun s member =>
      Source.not_asking_of_fixed (static_issuerOnly.fixed s member) _, configured_issuerOnly]
    rfl
  have resolved := Environment.reads_resolved_of_plain (by decide) held plainIssuer_plain
  have answer : ∀ style, ((endpointBase style).get Vendor.issuerWithPath).run (issuerOnly.reads 0) =
      some (some (.string (issuerWithPath plainIssuer style))) := by
    intro style
    simp only [endpointBase, Layer.get, if_pos, Inquiry.run_monadBind, Inquiry.run_resolved,
      resolved, Option.bind_some]
    rfl
  have texts : issuerWithPath plainIssuer s = issuerWithPath plainIssuer t := by
    have answers := (answer s).symm.trans (same ▸ answer t)
    exact Value.string.inj (Option.some.inj (Option.some.inj answers))
  revert texts
  cases s <;> cases t <;> decide

theorem style_of_install {env : Environment} {m n : Metadata}
    (same : install (derivedLayers m) env = install (derivedLayers n) env) : m.style = n.style := by
  have sources := congrArg Environment.sources same
  rw [sources_install, sources_install] at sources
  have layers : derivedLayers m = derivedLayers n :=
    (List.map_inj_right fun _ _ => Source.layer.inj).mp (List.append_cancel_left sources)
  exact endpointBase_injective (Option.some.inj (congrArg (·[3]?) layers))

/-- A fetch depends on the classifier in the style of its result only. -/
theorem fetch_classifier (client : Client) (one other : DomainClassifier) (baseKey : String)
    (issuer : Option String) :
    (Oidc.fetch client one baseKey issuer).trail.requests =
        (Oidc.fetch client other baseKey issuer).trail.requests ∧
      ∃ style, (Oidc.fetch client other baseKey issuer).result =
        (Oidc.fetch client one baseKey issuer).result.map fun m => { m with style } := by
  cases issuer with
  | none => exact ⟨rfl, .standard, rfl⟩
  | some issuer =>
    cases located : Oidc.discoveryUrl issuer with
    | error e =>
      rw [fetch_of_unlocated located, fetch_of_unlocated located]
      exact ⟨rfl, .standard, rfl⟩
    | ok url =>
      cases fetched : Oidc.fetchDocument client url with
      | ok document =>
        rw [fetch_of_document located fetched, fetch_of_document located fetched]
        exact ⟨rfl, other.classify issuer document, rfl⟩
      | error e =>
        cases kind : e.isRecoverable with
        | true =>
          rw [fetch_of_recoverable located fetched kind, fetch_of_recoverable located fetched kind]
          exact ⟨rfl, .standard, rfl⟩
        | false =>
          rw [fetch_of_fatal located fetched kind, fetch_of_fatal located fetched kind]
          exact ⟨rfl, .standard, rfl⟩

theorem fetch_of_same_styles {client : Client} {one other : DomainClassifier} {baseKey : String}
    {issuer : Option String}
    (styles : ∀ text url, issuer = some text → Oidc.discoveryUrl text = .ok url →
      ∀ document, one.classify text document = other.classify text document) :
    Oidc.fetch client one baseKey issuer = Oidc.fetch client other baseKey issuer := by
  cases issuer with
  | none => rfl
  | some text =>
    cases located : Oidc.discoveryUrl text with
    | error e => rw [fetch_of_unlocated located, fetch_of_unlocated located]
    | ok url =>
      cases fetched : Oidc.fetchDocument client url with
      | ok document =>
        rw [fetch_of_document located fetched, fetch_of_document located fetched,
          styles text url rfl located document]
      | error e => simp only [Oidc.fetch, located, fetched]

/-! ### Classifiers -/

theorem configuredClassifier_of_absent {env : Environment}
    (absent : env.contains Vendor.alternateDomains = some false) :
    configuredClassifier env = some .default := by
  rw [configuredClassifier, Environment.property_of_not_contains absent]
  rfl

/-- Domains without references are compared as they resolve. -/
theorem configuredClassifier_of_plain {env : Environment} {v : Value}
    (resolves : env.getResolved .value Vendor.alternateDomains = pure v)
    (plain : ∀ raw, env.property Vendor.alternateDomains = some (some raw) →
      ∀ s ∈ raw.scalarTexts, Template.hasOpening s = false) :
    configuredClassifier env = some (.ofDomains v.stringSet) := by
  obtain ⟨raw, required, -⟩ := Reading.bind_eq_pure.mp resolves
  have held := Environment.require_eq_pure_iff.mp required
  rw [Environment.getResolved_value_of_held held] at resolves
  have texts := Expansion.scalarTexts_of_value resolves (plain raw held)
  rw [configuredClassifier, held, Value.stringSet, texts]
  rfl

theorem style_of_sameOutcome {one other : Environment} {issuer : String} {url : Url}
    {classifier classifierOther : DomainClassifier}
    (readIssuer : one.getOptional (.scalar .text) Vendor.issuer = pure (some issuer))
    (readIssuerOther : other.getOptional (.scalar .text) Vendor.issuer = pure (some issuer))
    (readClassifier : configuredClassifier one = some classifier)
    (readClassifierOther : configuredClassifier other = some classifierOther)
    (located : Oidc.discoveryUrl issuer = .ok url)
    (outcome : ∀ client, SameOutcome client one other) (document : Oidc.Document) :
    classifier.classify issuer document = classifierOther.classify issuer document := by
  -- A client that answers with nothing but the issuer of the document: the style is the same as the
  -- document's, and the metadata that are put in place tell it.
  let named : Oidc.Document := { issuer := some (document.issuer.getD issuer) }
  let client : Client := fun _ => .ok (.object [("issuer", .string (document.issuer.getD issuer))])
  have fetched : Oidc.fetchDocument client url = .ok named := rfl
  obtain ⟨result, requests, ⟨trail, reached, -⟩, ⟨trailOther, reachedOther, -⟩⟩ := outcome client
  rw [setUp_given readIssuer readClassifier, fetch_of_document located fetched] at reached
  rw [setUp_given readIssuerOther readClassifierOther, fetch_of_document located fetched]
    at reachedOther
  cases result with
  | error e => cases reached
  | ok m =>
    have style := style_of_install (Except.ok.inj (Prod.mk.inj (Option.some.inj reached)).1)
    have styleOther :=
      style_of_install (Except.ok.inj (Prod.mk.inj (Option.some.inj reachedOther)).1)
    exact style.trans styleOther.symm

theorem setsUp_of_unreadable {env : Environment} {e : ConfigError}
    (fails : env.getOptional (.scalar .text) Vendor.issuer = throw e) (client : Client) :
    SetsUp client env (.error e) [] :=
  ⟨{}, setUp_of_unreadable fails client, rfl⟩

/-! ### Environments with the same issuer -/

section SameIssuer

variable {one other : Environment} {classifier classifierOther : DomainClassifier}
  (ends : one.LookupsEnd)
  (sameIssuer : one.getOptional (.scalar .text) Vendor.issuer =
    other.getOptional (.scalar .text) Vendor.issuer)
  (readClassifier : configuredClassifier one = some classifier)
  (readClassifierOther : configuredClassifier other = some classifierOther)

include ends sameIssuer readClassifier readClassifierOther

theorem sameOutcome_but_style (client : Client) :
    ∃ result style requests, SetsUp client one result requests ∧
      SetsUp client other (result.map fun m => { m with style }) requests := by
  obtain ⟨result, ended⟩ := Environment.getOptional_ends ends (.scalar .text) Vendor.issuer
  cases result with
  | error e =>
    have fails : one.getOptional (.scalar .text) Vendor.issuer = throw e := ended
    exact ⟨.error e, .standard, [], setsUp_of_unreadable fails client,
      setsUp_of_unreadable (sameIssuer ▸ fails) client⟩
  | ok issuer =>
    have reads : one.getOptional (.scalar .text) Vendor.issuer = pure issuer := ended
    obtain ⟨requests, style, restyled⟩ :=
      fetch_classifier client classifier classifierOther Vendor.issuerWithPath issuer
    have first := setsUp_given reads readClassifier client
    have second := setsUp_given (sameIssuer ▸ reads) readClassifierOther client
    rw [restyled, ← requests] at second
    refine ⟨_, style, _, first, ?_⟩
    generalize (Oidc.fetch client classifier Vendor.issuerWithPath issuer).result = fetched
      at second ⊢
    cases fetched <;> exact second

theorem sameOutcome_iff :
    (∀ client, SameOutcome client one other) ↔
      ∀ issuer url, one.getResolved (.scalar .text) Vendor.issuer = pure issuer →
        Oidc.discoveryUrl issuer = .ok url → ∀ document,
          classifier.classify issuer document = classifierOther.classify issuer document := by
  constructor
  · intro outcome issuer url resolves located
    have reads := Environment.getOptional_of_read resolves
    exact style_of_sameOutcome reads (sameIssuer ▸ reads) readClassifier readClassifierOther located
      outcome
  · intro styles client
    obtain ⟨result, ended⟩ := Environment.getOptional_ends ends (.scalar .text) Vendor.issuer
    cases result with
    | error e =>
      have fails : one.getOptional (.scalar .text) Vendor.issuer = throw e := ended
      exact ⟨.error e, [], setsUp_of_unreadable fails client,
        setsUp_of_unreadable (sameIssuer ▸ fails) client⟩
    | ok issuer =>
      have reads : one.getOptional (.scalar .text) Vendor.issuer = pure issuer := ended
      have alike : Oidc.fetch client classifier Vendor.issuerWithPath issuer =
          Oidc.fetch client classifierOther Vendor.issuerWithPath issuer := by
        apply fetch_of_same_styles
        rintro text url rfl located
        exact styles text url (Environment.getOptional_eq_some_iff.mp reads) located
      have second := setsUp_given (sameIssuer ▸ reads) readClassifierOther client
      rw [← alike] at second
      exact ⟨_, _, setsUp_given reads readClassifier client, second⟩

end SameIssuer

/-- **Set-ups of environments that read alike.** Let the vendor's keys resolve alike in two
environments. With every client the set-ups make the same requests and come to the same failure, or
to metadata that differ in the style at most. They come to the same metadata with every client
exactly if the domains of both, as they stand, give the issuer's documents the same styles; so they
do if no domain is behind a reference. -/
theorem setup_of_same_reading (one other : Environment) (fixed : one.Fixed)
    (fixedOther : other.Fixed) (same : ∀ key ∈ Vendor.all, one.SameReading other key) :
    ∃ classifier classifierOther, configuredClassifier one = some classifier ∧
      configuredClassifier other = some classifierOther ∧
      (∀ client, ∃ result style requests, SetsUp client one result requests ∧
        SetsUp client other (result.map fun m => { m with style }) requests) ∧
      ((∀ client, SameOutcome client one other) ↔
        ∀ issuer url, one.getResolved (.scalar .text) Vendor.issuer = pure issuer →
          Oidc.discoveryUrl issuer = .ok url → ∀ document,
            classifier.classify issuer document = classifierOther.classify issuer document) ∧
      ((∀ env ∈ [one, other], ∀ v, env.property Vendor.alternateDomains = some (some v) →
          ∀ s ∈ v.scalarTexts, Template.hasOpening s = false) →
        ∀ client, SameOutcome client one other) := by
  obtain ⟨classifier, readClassifier⟩ : ∃ c, configuredClassifier one = some c := by
    rw [configuredClassifier, Environment.property_of_fixed fixed]
    exact ⟨_, rfl⟩
  obtain ⟨classifierOther, readClassifierOther⟩ : ∃ c, configuredClassifier other = some c := by
    rw [configuredClassifier, Environment.property_of_fixed fixedOther]
    exact ⟨_, rfl⟩
  have sameIssuer := (same Vendor.issuer (by decide)).getOptional (.scalar .text)
  have exactly := sameOutcome_iff fixed.lookupsEnd sameIssuer readClassifier readClassifierOther
  refine ⟨classifier, classifierOther, readClassifier, readClassifierOther,
    sameOutcome_but_style fixed.lookupsEnd sameIssuer readClassifier readClassifierOther, exactly,
    fun plain => exactly.mpr fun issuer url _ _ document => ?_⟩
  have equal : classifier = classifierOther := by
    apply Option.some.inj
    rw [← readClassifier, ← readClassifierOther]
    rcases same Vendor.alternateDomains (by decide) with ⟨absent, absentToo⟩ | ⟨v, reads, readsToo⟩
    · rw [configuredClassifier_of_absent absent, configuredClassifier_of_absent absentToo]
    · rw [configuredClassifier_of_plain reads (plain one (by simp)),
        configuredClassifier_of_plain readsToo (plain other (by simp))]
  rw [equal]

/-- The same domain, once as it is and once behind a reference. -/
def literalDomains : Environment :=
  .ofSettings
    [(Vendor.issuer, .string plainIssuer), ("domain", .string "a.b"),
      (Vendor.alternateDomains, .string "a.b")]

def referredDomains : Environment :=
  .ofSettings
    [(Vendor.issuer, .string plainIssuer), ("domain", .string "a.b"),
      (Vendor.alternateDomains, .string ("" ++ Template.reference "domain" ++ ""))]

theorem property_literalDomains (key : String) :
    literalDomains.property key = some (configured literalDomains.sources key) :=
  Environment.property_of_fixed (Environment.static_ofSettings _).fixed key

theorem property_referredDomains (key : String) :
    referredDomains.property key = some (configured referredDomains.sources key) :=
  Environment.property_of_fixed (Environment.static_ofSettings _).fixed key

theorem sameReading_domains : ∀ key ∈ Vendor.all,
    literalDomains.SameReading referredDomains key := by
  have literal := property_literalDomains
  have referred := property_referredDomains
  have absent : ∀ key, configured literalDomains.sources key = none →
      configured referredDomains.sources key = none →
        literalDomains.SameReading referredDomains key := by
    intro key none noneToo
    refine .inl ⟨?_, ?_⟩
    · rw [Environment.contains_eq, literal, none]
      rfl
    · rw [Environment.contains_eq, referred, noneToo]
      rfl
  intro key vendor
  simp only [Vendor.all, List.mem_cons, List.not_mem_nil, or_false] at vendor
  rcases vendor with rfl | rfl | rfl | rfl | rfl | rfl | rfl | rfl
  -- Neither environment has any of the keys but the issuer and the domains.
  any_goals exact absent _ rfl rfl
  · refine .inr ⟨.string plainIssuer, ?_, ?_⟩
    · exact (Environment.getResolved_value_of_string (literal Vendor.issuer)).mpr
        ⟨_, Expansion.text_of_plain plainIssuer_plain _, rfl⟩
    · exact (Environment.getResolved_value_of_string (referred Vendor.issuer)).mpr
        ⟨_, Expansion.text_of_plain plainIssuer_plain _, rfl⟩
  · refine .inr ⟨.string "a.b", ?_, ?_⟩
    · exact (Environment.getResolved_value_of_string (literal Vendor.alternateDomains)).mpr
        ⟨_, Expansion.text_of_plain (by decide) _, rfl⟩
    · exact (Environment.getResolved_value_of_string (referred Vendor.alternateDomains)).mpr
        ⟨_, Expansion.text_reference_of_plain (by decide) (by decide) (by decide)
          (referred "domain") (by decide) 31, rfl⟩

/-- Replacing a domain by a reference that resolves to it changes the outcome. -/
theorem setup_of_same_reading_of_domains :
    literalDomains.Fixed ∧ referredDomains.Fixed ∧
      (∀ key ∈ Vendor.all, literalDomains.SameReading referredDomains key) ∧
      ¬∀ client, SameOutcome client literalDomains referredDomains := by
  have fixed : literalDomains.Fixed := (Environment.static_ofSettings _).fixed
  have fixedOther : referredDomains.Fixed := (Environment.static_ofSettings _).fixed
  refine ⟨fixed, fixedOther, sameReading_domains, fun outcome => ?_⟩
  obtain ⟨classifier, classifierOther, read, readOther, -, exactly, -⟩ :=
    setup_of_same_reading literalDomains referredDomains fixed fixedOther sameReading_domains
  rw [configuredClassifier, property_literalDomains] at read
  rw [configuredClassifier, property_referredDomains] at readOther
  obtain rfl := Option.some.inj read
  obtain rfl := Option.some.inj readOther
  have issuer : literalDomains.getResolved (.scalar .text) Vendor.issuer = pure plainIssuer :=
    (Environment.getResolved_text_of_string (property_literalDomains Vendor.issuer)).trans
      (Expansion.text_of_plain plainIssuer_plain _)
  obtain ⟨url, located⟩ := exists_discoveryUrl
  have styles := exactly.mp outcome plainIssuer url issuer located {}
  revert styles
  decide +kernel

end OAuth2

end ConfigStack
