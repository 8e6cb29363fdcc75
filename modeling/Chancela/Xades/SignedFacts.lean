import Chancela.Foundation.Outcome
import Chancela.Xades.Context
import Chancela.Xades.Validate

/-! # What a valid report says is signed

Both readers resolve an Id to the same element, since no document with a repeated Id is
validated. The signature and the properties of a valid report are therefore those of the
signed elements; the signing time is the first one of the whole document.
-/

namespace Chancela.Xades

open Outcome

/-! ## One element for one Id -/

theorem nodup_of_firstRepeated {ids seen : List (List Char)}
    (fresh : firstRepeated seen ids = none) : ids.Nodup ∧ ∀ id ∈ ids, id ∉ seen := by
  induction ids generalizing seen with
  | nil => exact ⟨List.nodup_nil, fun _ member => nomatch member⟩
  | cons id rest ih =>
      rw [firstRepeated] at fresh
      split at fresh
      · cases fresh
      · next unseen =>
          obtain ⟨distinct, apart⟩ := ih fresh
          refine ⟨List.nodup_cons.mpr ⟨fun again => apart id again List.mem_cons_self, distinct⟩,
            ?_⟩
          intro other member
          rcases List.mem_cons.mp member with rfl | later
          · exact unseen
          · exact fun listed => apart other later (List.mem_cons_of_mem _ listed)

theorem place_unique {α β : Type} {values : α → List β} {items : List α}
    (distinct : (items.flatMap values).Nodup) {first second : Nat} {item other : α} {value : β}
    (found : items[first]? = some item) (foundOther : items[second]? = some other)
    (carried : value ∈ values item) (carriedOther : value ∈ values other) : first = second := by
  rw [List.nodup_flatMap] at distinct
  have apart := List.pairwise_iff_getElem.mp distinct.2
  obtain ⟨bound, rfl⟩ := List.getElem?_eq_some_iff.mp found
  obtain ⟨boundOther, rfl⟩ := List.getElem?_eq_some_iff.mp foundOther
  rcases Nat.lt_trichotomy first second with before | same | after
  · exact absurd carriedOther (apart first second bound boundOther before carried)
  · exact same
  · exact absurd carried (apart second first boundOther bound after carriedOther)

theorem filter_eq_singleton {α : Type} {wanted : α → Bool} {items : List α} {place : Nat}
    {item : α} (found : items[place]? = some item) (holds : wanted item = true)
    (alone : ∀ (other : Nat) (value : α), items[other]? = some value → wanted value = true →
      other = place) : items.filter wanted = [item] := by
  obtain ⟨bound, rfl⟩ := List.getElem?_eq_some_iff.mp found
  have nowhere : ∀ values : List α, (∀ value ∈ values, ∃ other ≠ place,
      items[other]? = some value) → values.filter wanted = [] := by
    intro values elsewhere
    rw [List.filter_eq_nil_iff]
    intro value member picked
    obtain ⟨other, apart, listed⟩ := elsewhere value member
    exact apart (alone other value listed picked)
  have before : (items.take place).filter wanted = [] := by
    refine nowhere _ fun value member => ?_
    obtain ⟨other, bound', rfl⟩ := List.mem_take_iff_getElem.mp member
    exact ⟨other, by omega, List.getElem?_eq_getElem (by omega)⟩
  have after : (items.drop (place + 1)).filter wanted = [] := by
    refine nowhere _ fun value member => ?_
    obtain ⟨other, bound', rfl⟩ := List.mem_drop_iff_getElem.mp member
    exact ⟨place + 1 + other, by omega, List.getElem?_eq_getElem (by omega)⟩
  calc items.filter wanted
      = (items.take place ++ items[place] :: items.drop (place + 1)).filter wanted := by
        rw [List.getElem_cons_drop, List.take_append_drop]
    _ = [items[place]] := by
        rw [List.filter_append, List.filter_cons_of_pos holds, before, after, List.nil_append]

/-- A document as both readers see it, no Id of which stands twice. -/
structure Doc where
  nodes : List RoxNode
  dom : Dom
  counterparts : List.Forall₂ Counterpart (roxElements 0 nodes) dom.elements
  distinct : (dom.elements.flatMap fun located => located.data.ids).Nodup

namespace Doc

variable (doc : Doc)

def elements : List RoxElement := roxElements 0 doc.nodes

/-- An element, the same element for the canonicalizer, and an Id that it alone carries. -/
structure Resolves (id : List Char) (element : RoxElement) (located : Located) : Prop where
  member : element ∈ doc.elements
  placed : doc.dom.elements[element.index]? = some located
  carried : element.attributeValue "Id" = some id
  alone : ∀ other ∈ doc.elements, other.attributeValue "Id" = some id → other = element
  found : doc.dom.findById id = .ok (some located)

variable {doc}

theorem mem_ids_of_attributeValue {element : RoxElement} {located : Located}
    (same : Counterpart element located) {id : List Char}
    (carried : element.attributeValue "Id" = some id) : id ∈ located.data.ids := by
  rw [same.values "Id", Option.map_eq_some_iff] at carried
  obtain ⟨attr, found, rfl⟩ := carried
  have named := List.find?_some found
  refine List.mem_map_of_mem (List.mem_filter.mpr ⟨List.mem_of_find?_eq_some found, ?_⟩)
  exact named

/-- **An element is the only one with its Id, for both readers.** -/
theorem exists_resolves {element : RoxElement} (member : element ∈ doc.elements)
    {id : List Char} (carried : element.attributeValue "Id" = some id) :
    ∃ located, doc.Resolves id element located := by
  have counterpart : ∀ other ∈ doc.elements, ∃ located,
      doc.dom.elements[other.index]? = some located ∧ Counterpart other located := by
    intro other listed
    have place := getElem?_index listed
    obtain ⟨bound, value⟩ := List.getElem?_eq_some_iff.mp place
    have bound' : other.index < doc.dom.elements.length :=
      doc.counterparts.length_eq ▸ bound
    refine ⟨doc.dom.elements[other.index], List.getElem?_eq_getElem bound', ?_⟩
    have related := doc.counterparts.get bound bound'
    simp only [List.get_eq_getElem, value] at related
    exact related
  obtain ⟨located, placed, same⟩ := counterpart element member
  have holds := mem_ids_of_attributeValue same carried
  refine ⟨located, member, placed, carried, fun other listed otherCarried => ?_, ?_⟩
  · obtain ⟨otherLocated, otherPlaced, otherSame⟩ := counterpart other listed
    have place := place_unique doc.distinct placed otherPlaced holds
      (mem_ids_of_attributeValue otherSame otherCarried)
    have first := getElem?_index member
    have second := getElem?_index listed
    rw [place, second] at first
    exact Option.some.inj first
  · rw [findById_eq_some]
    refine filter_eq_singleton placed (decide_eq_true holds) fun place other listed otherCarried =>
      ?_
    exact place_unique doc.distinct listed placed (of_decide_eq_true otherCarried) holds

end Doc

/-! ## The references -/

section References

variable [DsigCrates] [Crates] [QuickXml]

/-- The digest a reference names is the one of what it points to, where that can be had. -/
def DigestMatches (xml : List Char) (signatureId : Option (List Char)) (reference : RoxElement) :
    Prop :=
  ∃ algorithm expected, referenceDigestAlgorithm reference = .ok algorithm ∧
    expectedDigest reference = .ok expected ∧
    (computedDigest xml signatureId reference algorithm = .ok none ∨
      computedDigest xml signatureId reference algorithm = .ok (some expected))

/-- The reference points to an element that is a `SignedProperties`, with the digest it names. -/
def CoversProperties (xml : List Char) (doc : List RoxElement) (signatureId : Option (List Char))
    (reference : RoxElement) : Prop :=
  ∃ algorithm expected id element, referenceDigestAlgorithm reference = .ok algorithm ∧
    expectedDigest reference = .ok expected ∧
    computedDigest xml signatureId reference algorithm = .ok (some expected) ∧
    (reference.attributeValue "URI").getD [] = '#' :: id ∧
    findElementById doc id = some element ∧ isSignedProperties element = true

variable {xml : List Char} {doc : List RoxElement} {signatureId : Option (List Char)}

theorem checkReference_valid {tally next : Tally} {reference : RoxElement}
    (checked : checkReference xml doc signatureId tally reference = .ok next)
    (valid : next.valid = true) :
    tally.valid = true ∧ DigestMatches xml signatureId reference ∧
      (next.propertiesSigned = true →
        tally.propertiesSigned = true ∨ CoversProperties xml doc signatureId reference) := by
  rw [checkReference] at checked
  obtain ⟨expected, named, rest⟩ := bind_eq_ok_iff.mp checked
  obtain ⟨algorithm, method, last⟩ := bind_eq_ok_iff.mp rest
  obtain ⟨computed, hashed, decided⟩ := bind_eq_ok_iff.mp last
  clear checked rest last
  cases computed with
  | none =>
      cases decided
      exact ⟨valid, ⟨algorithm, expected, method, named, .inl hashed⟩, fun signed => .inl signed⟩
  | some computed =>
      simp only at decided
      split at decided
      · cases decided
        cases valid
      · next same =>
          obtain rfl : computed = expected := of_not_not same
          cases decided
          refine ⟨valid, ⟨algorithm, computed, method, named, .inr hashed⟩, fun signed => ?_⟩
          rcases Bool.or_eq_true_iff.mp signed with before | covered
          · exact .inl before
          · refine .inr ?_
            split at covered
            · next id pointed =>
                obtain ⟨element, found, properties⟩ := (Option.any_eq_true _ _).mp covered
                exact ⟨algorithm, computed, id, element, method, named, hashed, pointed, found,
                  properties⟩
            · cases covered

theorem foldlM_checkReference {references : List RoxElement} {tally final : Tally}
    (checked : references.foldlM (checkReference xml doc signatureId) tally = .ok final)
    (valid : final.valid = true) :
    tally.valid = true ∧ (∀ reference ∈ references, DigestMatches xml signatureId reference) ∧
      (final.propertiesSigned = true → tally.propertiesSigned = true ∨
        ∃ reference ∈ references, CoversProperties xml doc signatureId reference) := by
  induction references generalizing tally with
  | nil =>
      cases checked
      exact ⟨valid, fun _ member => (nomatch member), fun signed => .inl signed⟩
  | cons reference rest ih =>
      rw [List.foldlM_cons] at checked
      obtain ⟨next, first, later⟩ := bind_eq_ok_iff.mp checked
      obtain ⟨validNext, matched, signedLater⟩ := ih later
      obtain ⟨validFirst, matchedFirst, signedFirst⟩ := checkReference_valid first validNext
      refine ⟨validFirst, List.forall_mem_cons.mpr ⟨matchedFirst, matched⟩, fun signed => ?_⟩
      rcases signedLater signed with before | ⟨found, member, covers⟩
      · rcases signedFirst before with earlier | covers
        · exact .inl earlier
        · exact .inr ⟨reference, List.mem_cons_self, covers⟩
      · exact .inr ⟨found, List.mem_cons_of_mem _ member, covers⟩

end References

/-! ## A validated document -/

theorem ok_of_orVerification {α : Type} {value : Option α} {message : String} {found : α}
    (given : orVerification value message = .ok found) : value = some found := by
  cases value with
  | none => cases given
  | some value => exact congrArg some (Except.ok.inj given)

/-- The element is a `SigningTime`. -/
def isSigningTime (element : RoxElement) : Bool := element.hasTagName xadesNs "SigningTime"

section Validated

variable [DsigCrates] [Crates] [QuickXml] [Roxmltree]

/-- A document as `validate_xades` opens it: its first signature, with what that signs. -/
structure Opened (xml : List Char) extends Doc where
  signature : RoxElement
  signedInfo : RoxElement
  read : Roxmltree.document xml = .ok nodes
  parsed : parse xml = .ok dom
  isSignature : toDoc.elements.find? (fun element => element.hasTagName dsNs "Signature") =
    some signature
  isSignedInfo : signature.childElements.find?
    (fun element => element.hasTagName dsNs "SignedInfo") = some signedInfo

namespace Opened

variable {xml : List Char}

def references (opened : Opened xml) : List RoxElement :=
  opened.signedInfo.childElements.filter fun element => element.hasTagName dsNs "Reference"

/-- The signature is one over the canonical form of the element whose references match. -/
structure SignatureVerified (opened : Opened xml) (report : XadesValidationReport) : Prop where
  overSignedInfo : ∃ id located certDer signatureMethod signatureValue,
    opened.Resolves id opened.signedInfo located ∧ report.signerCertDer = some certDer ∧
      verifySignature certDer signatureMethod signatureValue
        (Text.utf8 (String.ofList (located.canonicalizeSubtree exclusiveOptions))) = true
  referencesMatch : ∀ reference ∈ opened.references,
    DigestMatches xml (opened.signature.attributeValue "Id") reference

/-- A `SignedProperties` that is the only element with its Id, and the digest of which a
reference of the signature names. -/
structure Covered (opened : Opened xml) (properties : RoxElement) : Prop where
  signedProperties : isSignedProperties properties = true
  digest : ∃ reference ∈ opened.references, ∃ id located algorithm,
    reference.attributeValue "URI" = some ('#' :: id) ∧
      opened.Resolves id properties located ∧
      referenceDigestAlgorithm reference = .ok algorithm ∧
      expectedDigest reference = .ok (algorithm.digest (Text.utf8 (String.ofList
        (located.canonicalizeSubtree ⟨referenceC14nAlgorithm reference, [], fun _ => false⟩))))

theorem Covered.name_eq {opened : Opened xml} {properties : RoxElement}
    (covered : opened.Covered properties) :
    properties.name = ⟨xadesNs, "SignedProperties".toList⟩ := by
  have signed := covered.signedProperties
  rw [isSignedProperties, Bool.and_eq_true, Bool.and_eq_true] at signed
  exact of_decide_eq_true signed.1.1

/-- The reported time is that of the first `SigningTime` of these properties. -/
def TimeInside (opened : Opened xml) (report : XadesValidationReport) (properties : RoxElement) :
    Prop :=
  ∃ time, properties.descendants.find? isSigningTime = some time ∧
    opened.elements.find? isSigningTime = some time ∧
    report.signingTime = time.text.bind parseSigningTime

/-- No `SigningTime` stands before these properties. -/
def NoTimeBefore (opened : Opened xml) (properties : RoxElement) : Prop :=
  ∀ element ∈ opened.elements, isSigningTime element = true → properties.index ≤ element.index

variable (opened : Opened xml)

omit [DsigCrates] [Crates] in
theorem mem_signedInfo : opened.signedInfo ∈ opened.elements :=
  mem_of_mem_childElements (List.mem_of_find?_eq_some opened.isSignature)
    (List.mem_of_find?_eq_some opened.isSignedInfo)

omit [DsigCrates] [Crates] in
theorem canonicalizeElementById_eq {id : List Char} {element : RoxElement} {located : Located}
    (resolves : opened.Resolves id element located) (algorithm : C14nAlgorithm) :
    canonicalizeElementById xml id algorithm [] =
      .ok (located.canonicalizeSubtree ⟨algorithm, [], fun _ => false⟩) := by
  rw [canonicalizeElementById, opened.parsed]
  change (opened.dom.findById id >>= _) = _
  rw [resolves.found]
  rfl

/-- A reference with the digest of a `SignedProperties` covers that element. -/
theorem covered_of_coversProperties {reference : RoxElement}
    (listed : reference ∈ opened.references)
    {signatureId : Option (List Char)}
    (covers : CoversProperties xml opened.elements signatureId reference) :
    ∃ properties, opened.Covered properties := by
  obtain ⟨algorithm, expected, id, element, method, named, hashed, pointed, found, properties⟩ :=
    covers
  rw [findElementById] at found
  have carried : element.attributeValue "Id" = some id := by
    have holds := List.find?_some found
    exact of_decide_eq_true holds
  obtain ⟨located, resolves⟩ := Doc.exists_resolves (List.mem_of_find?_eq_some found) carried
  have uri : reference.attributeValue "URI" = some ('#' :: id) := by
    cases given : reference.attributeValue "URI" with
    | none =>
        rw [given] at pointed
        cases pointed
    | some value =>
        rw [given] at pointed
        exact congrArg some pointed
  refine ⟨element, properties, reference, listed, id, located, algorithm, uri, resolves, method, ?_⟩
  rw [computedDigest, pointed] at hashed
  simp only [opened.canonicalizeElementById_eq resolves] at hashed
  cases hashed
  exact named

end Opened

variable {xml : List Char}

omit [DsigCrates] [Crates] in
theorem nodes_of_parseDocument {doc : List RoxElement} (opening : parseDocument xml = .ok doc) :
    ∃ nodes, Roxmltree.document xml = .ok nodes ∧ roxElements 0 nodes = doc := by
  rw [parseDocument] at opening
  split at opening
  · next nodes read => exact ⟨nodes, read, Except.ok.inj opening⟩
  · cases opening

omit [DsigCrates] [Crates] [Roxmltree] in
theorem distinct_of_checkUniqueIds (unique : checkUniqueIds xml = .ok ()) :
    ∃ dom, parse xml = .ok dom ∧
      (dom.elements.flatMap fun located => located.data.ids).Nodup := by
  rw [checkUniqueIds] at unique
  obtain ⟨dom, parsed, passed⟩ := bind_eq_ok_iff.mp unique
  refine ⟨dom, parsed, ?_⟩
  rw [Dom.checkUniqueIds] at passed
  split at passed
  · next fresh => exact (nodup_of_firstRepeated fresh).1
  · cases passed

/-- **What an accepted document went through.** -/
theorem opened_of_validateXades {report : XadesValidationReport}
    (accepted : validateXades xml = .ok report) :
    ∃ (opened : Opened xml) (id signedInfo signatureMethod : List Char)
      (signatureValue : List UInt8) (tally : Tally),
      opened.signedInfo.attributeValue "Id" = some id ∧
      canonicalizeElementById xml id .exclusiveWithoutComments [] = .ok signedInfo ∧
      opened.references.foldlM (checkReference xml opened.elements
        (opened.signature.attributeValue "Id")) ⟨0, true, false⟩ = .ok tally ∧
      report.signatureValid = (report.signerCertDer.any fun der =>
        verifySignature der signatureMethod signatureValue
          (Text.utf8 (String.ofList signedInfo))) ∧
      report.referencesValid = tally.valid ∧
      report.signedPropertiesSigned = tally.propertiesSigned ∧
      report.signingTime = ((opened.elements.find? isSigningTime).bind RoxElement.text).bind
        parseSigningTime := by
  rw [validateXades] at accepted
  obtain ⟨doc, opening, rest⟩ := bind_eq_ok_iff.mp accepted
  obtain ⟨nodes, read, rfl⟩ := nodes_of_parseDocument opening
  obtain ⟨unique, rest⟩ := check_bind_eq_ok_iff.mp rest
  obtain ⟨dom, parsed, distinct⟩ := distinct_of_checkUniqueIds unique
  obtain ⟨signature, isSignature, rest⟩ := bind_eq_ok_iff.mp rest
  obtain ⟨signedInfo, isSignedInfo, rest⟩ := bind_eq_ok_iff.mp rest
  obtain ⟨id, carried, rest⟩ := bind_eq_ok_iff.mp rest
  obtain ⟨signatureMethod, -, rest⟩ := bind_eq_ok_iff.mp rest
  obtain ⟨signatureText, -, rest⟩ := bind_eq_ok_iff.mp rest
  obtain ⟨signatureValue, -, rest⟩ := bind_eq_ok_iff.mp rest
  obtain ⟨signerCertDer, -, rest⟩ := bind_eq_ok_iff.mp rest
  obtain ⟨canonical, hashed, rest⟩ := bind_eq_ok_iff.mp rest
  obtain ⟨tally, checked, rest⟩ := bind_eq_ok_iff.mp rest
  cases rest
  let opened : Opened xml := {
    nodes, dom, signature, signedInfo, read, parsed, distinct
    counterparts := Roxmltree.counterparts xml nodes dom read parsed
    isSignature := ok_of_orVerification isSignature
    isSignedInfo := ok_of_orVerification isSignedInfo }
  exact ⟨opened, id, canonical, signatureMethod, signatureValue, tally,
    ok_of_orVerification carried,
    hashed, checked, rfl, rfl, rfl, rfl⟩

/-- The signing time is read from the first `SigningTime` of the document. -/
theorem signingTime_eq {report : XadesValidationReport} (accepted : validateXades xml = .ok report)
    (opened : Opened xml) :
    report.signingTime = ((opened.elements.find? isSigningTime).bind RoxElement.text).bind
      parseSigningTime := by
  obtain ⟨other, -, -, -, -, -, -, -, -, -, -, -, time⟩ := opened_of_validateXades accepted
  have same : other.nodes = opened.nodes :=
    Except.ok.inj (other.read.symm.trans opened.read)
  rw [time, Doc.elements, Doc.elements, same]

namespace Opened

variable {xml : List Char} (opened : Opened xml)

theorem timeInside_iff {report : XadesValidationReport} (accepted : validateXades xml = .ok report)
    {properties : RoxElement} (covered : opened.Covered properties) :
    opened.TimeInside report properties ↔ opened.NoTimeBefore properties := by
  obtain ⟨signedProperties, reference, -, id, located, algorithm, -, resolves, -⟩ := covered
  have below : properties.descendants.any isSigningTime = true := by
    rw [isSignedProperties, Bool.and_eq_true] at signedProperties
    exact signedProperties.2
  refine Iff.trans ?_ (find?_descendants_iff resolves.member isSigningTime below)
  constructor
  · rintro ⟨time, inside, first, -⟩
    exact ⟨time, inside, first⟩
  · rintro ⟨time, inside, first⟩
    refine ⟨time, inside, first, ?_⟩
    rw [signingTime_eq accepted opened]
    rw [Doc.elements, first]
    rfl

end Opened

omit [DsigCrates] [Crates] [QuickXml] [Roxmltree] in
/-- The first `SigningTime` below an element depends on its name and its content. -/
theorem signingTime_below {first second : RoxElement} (named : first.name = second.name)
    (same : first.children = second.children) :
    (first.descendants.find? isSigningTime).bind RoxElement.text =
      (second.descendants.find? isSigningTime).bind RoxElement.text := by
  let shown (element : RoxElement) := (isSigningTime element, element.text)
  have found : ∀ elements : List RoxElement,
      (elements.find? isSigningTime).bind RoxElement.text =
        ((elements.map shown).find? Prod.fst).bind Prod.snd := by
    intro elements
    rw [List.find?_map, Option.bind_map]
    rfl
  have head : shown first = shown second := by
    simp only [shown, isSigningTime, RoxElement.hasTagName, RoxElement.text, named, same]
  have shifted := map_roxElements_shift shown (fun _ _ => rfl) second.children (first.index + 1)
    (second.index + 1)
  rw [found, found, RoxElement.descendants, RoxElement.descendants, List.map_cons, List.map_cons,
    head, same, shifted]

/-- **What a valid report says is signed, and when its time is.** The signature is over the
element whose references match, and one of these covers a `SignedProperties`. The time is that of
covered properties exactly when no `SigningTime` stands before them; between documents for
which this is so the time changes with the covered properties only. -/
theorem signedFacts_iff_noTimeBefore {xml : List Char} {report : XadesValidationReport}
    (accepted : validateXades xml = .ok report) (valid : report.isValidB = true) :
    ∃ opened : Opened xml, opened.SignatureVerified report ∧
      (∃ properties, opened.Covered properties) ∧
      ((∃ properties, opened.Covered properties ∧ opened.TimeInside report properties) ↔
        ∃ properties, opened.Covered properties ∧ opened.NoTimeBefore properties) ∧
      ∀ (xml' : List Char) (report' : XadesValidationReport), validateXades xml' = .ok report' →
        ∀ (opened' : Opened xml') (properties properties' : RoxElement),
        opened.Covered properties → opened.NoTimeBefore properties →
        opened'.Covered properties' → opened'.NoTimeBefore properties' →
        properties'.children = properties.children →
        report'.signingTime = report.signingTime := by
  obtain ⟨opened, id, signedInfo, signatureMethod, signatureValue, tally, carried, hashed, checked,
    signatureValid, referencesValid, signed, -⟩ := opened_of_validateXades accepted
  simp only [XadesValidationReport.isValidB, Bool.and_eq_true] at valid
  obtain ⟨⟨⟨validSignature, validReferences⟩, -⟩, validProperties⟩ := valid
  obtain ⟨-, matched, covering⟩ := foldlM_checkReference checked (referencesValid ▸ validReferences)
  refine ⟨opened, ⟨?_, matched⟩, ?_, ?_, ?_⟩
  · obtain ⟨located, resolves⟩ := Doc.exists_resolves opened.mem_signedInfo carried
    rw [signatureValid] at validSignature
    obtain ⟨certDer, given, verified⟩ := (Option.any_eq_true _ _).mp validSignature
    rw [opened.canonicalizeElementById_eq resolves] at hashed
    cases hashed
    exact ⟨id, located, certDer, signatureMethod, signatureValue, resolves, given, verified⟩
  · rcases covering (signed ▸ validProperties) with before | ⟨reference, listed, covers⟩
    · cases before
    · exact opened.covered_of_coversProperties listed covers
  · refine exists_congr fun properties => and_congr_right fun covered => ?_
    exact opened.timeInside_iff accepted covered
  · intro xml' report' accepted' opened' properties properties' covered unpreceded covered'
      unpreceded' same
    obtain ⟨time, inside, -, reported⟩ := (opened.timeInside_iff accepted covered).mpr unpreceded
    obtain ⟨time', inside', -, reported'⟩ :=
      (opened'.timeInside_iff accepted' covered').mpr unpreceded'
    have texts := signingTime_below (covered'.name_eq.trans covered.name_eq.symm) same
    rw [inside, inside'] at texts
    have text : time'.text = time.text := texts
    rw [reported, reported', text]

end Validated

section Witness

open scoped Reference TreeReader

/-- The bytes of words of 32 bytes, the last of them shorter. -/
def wordBytes (length : Nat) (words : List Nat) : List UInt8 :=
  (words.flatMap fun word =>
    (List.range 32).map fun place => UInt8.ofNat (word / 256 ^ (31 - place))).take length

def recordedCertificate : List UInt8 :=
  wordBytes 278 [
    0x308201123081b90214425d88ab385659f48da3fead89b1de19c6381eae300a06,
    0x082a8648ce3d040302300c310a300806035504030c0161301e170d3236313131,
    0x383037313231375a170d3336313131353037313231375a300c310a3008060355,
    0x04030c01613059301306072a8648ce3d020106082a8648ce3d03010703420004,
    0xa29b81cfc19675268a7a98ccca7fd284705267652f8418b5d2d7cbc57f23e998,
    0xc71e7877e05ad5ba395442157df711615f9a92c8a2f837784a012623a53ca55c,
    0x300a06082a8648ce3d0403020348003045022100f50892a57579115a993d836b,
    0x3ce3e35644a4b3fb64b5ebf9f2c968bd351551f202207e2f3297b705716a80da,
    0xe4a6464825b3a2330edcba0627954229f540736c419b00000000000000000000]

/-- Base64 of the SHA-256 digest of the signed properties below. -/
def recordedDigest : List Char :=
  "CYOyFyAWOHAsb2z6jV39h9oF9OFVuvQsRgGeUgIZIBY=".toList

/-- The `ds:SignedInfo` that names this digest. -/
def signedInfoText : List Char :=
  elementText "d:SignedInfo" [(['I', 'd'], ['i'])]
    (elementText "d:SignatureMethod"
        [("Algorithm".toList, signatureMethodUri .ecdsaP256Sha256)] [] ++
      elementText "d:Reference" [("URI".toList, ['#', 'p'])]
        (elementText "d:DigestMethod" [("Algorithm".toList, DigestAlgorithm.sha256.uri)] [] ++
          elementText "d:DigestValue" [] recordedDigest))

def recordedMessage : List UInt8 :=
  wordBytes 380 [
    0x3c643a5369676e6564496e666f20786d6c6e733a643d22687474703a2f2f7777,
    0x772e77332e6f72672f323030302f30392f786d6c6473696723222049643d2269,
    0x223e3c643a5369676e61747572654d6574686f6420416c676f726974686d3d22,
    0x687474703a2f2f7777772e77332e6f72672f323030312f30342f786d6c647369,
    0x672d6d6f72652365636473612d736861323536223e3c2f643a5369676e617475,
    0x72654d6574686f643e3c643a5265666572656e6365205552493d222370223e3c,
    0x643a4469676573744d6574686f6420416c676f726974686d3d22687474703a2f,
    0x2f7777772e77332e6f72672f323030312f30342f786d6c656e63237368613235,
    0x36223e3c2f643a4469676573744d6574686f643e3c643a44696765737456616c,
    0x75653e43594f79467941574f48417362327a366a56333968396f46394f465675,
    0x765173526747655567495a4942593d3c2f643a44696765737456616c75653e3c,
    0x2f643a5265666572656e63653e3c2f643a5369676e6564496e666f3e00000000]

/-- A signature of these bytes with the key of the certificate. -/
def recordedSignature : List UInt8 :=
  wordBytes 64 [
    0x231ea1f345d11a5f834002a4fa0ee0150526662d74f1bd4fb1e7d984a90b0fe2,
    0xa4b451fbe5724bfba974bee80f05d3c8eccbf247a83aed0789522dadc1a93f78]

def utcTime (text : List Char) : Option OffsetDateTime := do
  let number (first last : Nat) := fromStrRadix 10 ((text.drop first).take (last - first))
  let year ← number 0 4
  let month ← number 5 7
  let day ← number 8 10
  let hour ← number 11 13
  let minute ← number 14 16
  let second ← number 17 19
  if text.length = 20 ∧ [4, 7, 10, 13, 16, 19].map (text.getD · ' ') =
    ['-', '-', 'T', ':', ':', 'Z']
  then some ⟨year, month, day, hour, minute, second, 0, 0⟩ else none

namespace Recorded

/-- One signature is known here. -/
scoped instance (priority := high) dsigCrates : DsigCrates where
  encode := Chancela.Reference.base64Encode
  decode := Chancela.Reference.base64Decode
  sha384 _ := []
  sha512 _ := []
  fixedWidth _ _ := none
  isCertificate certDer := certDer = recordedCertificate
  verifyRsa _ _ _ := false
  verifyEcdsa width certDer signature message :=
    width = 256 ∧ certDer = recordedCertificate ∧ signature = recordedSignature ∧
      message = recordedMessage
  parseRfc3339 := utcTime
  encode_chars := Chancela.Reference.isBase64Char_base64Encode

end Recorded

open scoped Recorded

def signedPropertiesText : List Char :=
  elementText "SignedProperties" [(['I', 'd'], ['p'])]
    (elementText "SigningTime" [] "2024-01-01T00:00:00Z".toList ++
      elementText "SigningCertificateV2" [] [])

/-- The signature of these properties, with something before it. -/
def signedDocument (before : List Char) : List Char :=
  elementText "d:Signature" [("xmlns:d".toList, dsNs), (xmlns, xadesNs)]
    (before ++ signedInfoText ++
      elementText "d:SignatureValue" [] (DsigCrates.encode recordedSignature) ++
      elementText "d:X509Certificate" [] (DsigCrates.encode recordedCertificate) ++
      signedPropertiesText)

/-- A `SigningTime` that nothing signs. -/
def unsignedTime : List Char := elementText "SigningTime" [] "1999-01-01T00:00:00Z".toList

/-- What is computed of a document: the report is valid, and a `SigningTime` stands before
every `SignedProperties`. -/
def forgedTime (xml : List Char) : Option Bool := do
  let report ← (validateXades xml).toOption
  let doc ← (parseDocument xml).toOption
  let time ← doc.find? isSigningTime
  return report.isValidB && doc.all fun element =>
    !isSignedProperties element || decide (time.index < element.index)

theorem forgedTime_unsignedTime : forgedTime (signedDocument unsignedTime) = some true := by
  decide +kernel

theorem valid_of_forgedTime (forged : forgedTime xml = some true) :
    ∃ report, validateXades xml = .ok report ∧ report.isValidB = true ∧
      ∀ (opened : Opened xml) (properties : RoxElement), opened.Covered properties →
        ¬opened.TimeInside report properties := by
  obtain ⟨report, accepted, rest⟩ := Option.bind_eq_some_iff.mp forged
  obtain ⟨doc, read, rest⟩ := Option.bind_eq_some_iff.mp rest
  obtain ⟨time, first, rest⟩ := Option.bind_eq_some_iff.mp rest
  have both := Option.some.inj rest
  rw [Bool.and_eq_true, List.all_eq_true] at both
  have accepted : validateXades xml = .ok report := by
    cases outcome : validateXades xml with
    | error message =>
        rw [outcome] at accepted
        cases accepted
    | ok value =>
        rw [outcome] at accepted
        cases accepted
        rfl
  refine ⟨report, accepted, both.1, ?_⟩
  rintro opened properties ⟨signed, reference, -, id, located, algorithm, -, resolves, -⟩
    ⟨inner, below, found, -⟩
  have same : doc = opened.elements := by
    rw [parseDocument, opened.read] at read
    exact (Option.some.inj read).symm
  rw [same] at first both
  obtain rfl : inner = time := Option.some.inj (found.symm.trans first)
  have after := index_le_of_mem_descendants (List.mem_of_find?_eq_some below)
  have before := both.2 properties resolves.member
  rw [signed] at before
  have least : inner.index < properties.index := by simpa using before
  omega

/-- The time of an element that nothing signs is reported. -/
theorem not_signedFacts_unsignedTime :
    ¬∀ (xml : List Char) (report : XadesValidationReport), validateXades xml = .ok report →
      report.isValidB = true → ∃ opened : Opened xml, opened.SignatureVerified report ∧
        ∃ properties, opened.Covered properties ∧ opened.TimeInside report properties := by
  intro always
  obtain ⟨report, accepted, valid, apart⟩ := valid_of_forgedTime forgedTime_unsignedTime
  obtain ⟨opened, -, properties, covered, inside⟩ := always _ report accepted valid
  exact apart opened properties covered inside

/-- This document is validated, and a reference covers its properties. -/
theorem signedFacts_iff_noTimeBefore_unsignedTime :
    ∃ opened : Opened (signedDocument unsignedTime), ∃ properties, opened.Covered properties ∧
      ¬opened.NoTimeBefore properties := by
  obtain ⟨report, accepted, valid, apart⟩ := valid_of_forgedTime forgedTime_unsignedTime
  obtain ⟨opened, -, ⟨properties, covered⟩, same, -⟩ := signedFacts_iff_noTimeBefore accepted valid
  refine ⟨opened, properties, covered, fun unpreceded => ?_⟩
  obtain ⟨found, foundCovered, inside⟩ := same.mpr ⟨properties, covered, unpreceded⟩
  exact apart opened found foundCovered inside

end Witness

end Chancela.Xades
