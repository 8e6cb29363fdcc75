import Chancela.Core.Fixity

/-! # A seal binds the act

Where JSON text and SHA-256 separate the payloads of two acts, equal digests mean
equal contents (`Chancela.Act.sameContent_of_digest_eq`). Rows that verify against
one seal event therefore hold one content. A row edited behind the ledger's back is
found out, as long as it still counts as sealed and its preimage can be rebuilt.
-/

namespace Chancela

open ActFixityReport

section Binding

variable [Crates]

/-- JSON text and SHA-256 tell the two payloads apart. -/
structure SealedActPayload.Separated (first second : SealedActPayload) : Prop where
  texts : ∀ json json', serialize first = some json → serialize second = some json' →
    jsonToString json = jsonToString json' → json = json'
  hashes : ∀ bytes bytes', (serialize first).map jsonToVec = some bytes →
    (serialize second).map jsonToVec = some bytes' → sha256 bytes = sha256 bytes' → bytes = bytes'

/-- JSON text and SHA-256 tell the sealed payloads of two rows apart. -/
def Act.Separated (first second : Act) : Prop :=
  ∀ metadata metadata', first.sealMetadata = some metadata → second.sealMetadata = some metadata' →
    SealedActPayload.Separated ⟨.of first, metadata⟩ ⟨.of second, metadata'⟩

theorem Act.Separated.of_payload_eq {first second : Act}
    (payloads : ActPayload.of first = ActPayload.of second)
    (metadata : first.sealMetadata = second.sealMetadata) : first.Separated second := by
  intro bound bound' here there
  obtain rfl := Option.some.inj (here.symm.trans (metadata.trans there))
  rw [payloads]
  constructor
  · intro json json' serialized serialized' _
    exact Option.some.inj (serialized.symm.trans serialized')
  · intro bytes bytes' serialized serialized' _
    exact Option.some.inj (serialized.symm.trans serialized')

theorem sealedActDigest_eq_some_iff {act : Act} {hashed : Digest} :
    sealedActDigest act = some hashed ↔
      ∃ metadata json, act.sealMetadata = some metadata ∧
        serialize (⟨.of act, metadata⟩ : SealedActPayload) = some json ∧
        sha256 (jsonToVec json) = hashed := by
  simp [sealedActDigest, sealedActPreimage, Option.bind_eq_some_iff, digest]

/-- **The digest of a sealed act binds its contents and its seal metadata.** -/
theorem Act.sameContent_of_digest_eq {first second : Act} {hashed : Digest}
    (separated : first.Separated second) (here : sealedActDigest first = some hashed)
    (there : sealedActDigest second = some hashed) :
    first.SameContent second ∧ first.sealMetadata = second.sealMetadata := by
  obtain ⟨metadata, json, bound, serialized, digested⟩ := sealedActDigest_eq_some_iff.mp here
  obtain ⟨metadata', json', bound', serialized', digested'⟩ := sealedActDigest_eq_some_iff.mp there
  have apart := separated metadata metadata' bound bound'
  have bytes : jsonToVec json = jsonToVec json' := by
    apply apart.hashes _ _ (by rw [serialized]; rfl) (by rw [serialized']; rfl)
    rw [digested, digested']
  have texts := apart.texts json json' serialized serialized' (Text.utf8_injective bytes)
  rw [← texts] at serialized'
  have payloads := FaithfulJson.inj serialized serialized'
  simp only [SealedActPayload.mk.injEq] at payloads
  refine ⟨ActPayload.of_eq_iff.mp payloads.1, ?_⟩
  rw [bound, bound', payloads.2]

theorem sealedActDigest_sealedAs {act : Act} {ledger : Ledger} {payload : List UInt8}
    {metadata : SealMetadata} {ataNumber : Nat}
    (preimage : sealedActPreimage act metadata = some payload) :
    sealedActDigest (sealedAs act ledger payload metadata ataNumber) = some (digest payload) := by
  have same : sealedActPreimage (sealedAs act ledger payload metadata ataNumber) metadata =
      some payload := preimage
  simp only [sealedActDigest, sealedAs, Option.bind_eq_bind, Option.bind_some] at same ⊢
  rw [same]
  rfl

theorem verifyActFixity_sealedAs {act : Act} {ledger : Ledger} {payload : List UInt8}
    {metadata : SealMetadata} {ataNumber : Nat} {anchors : SealAnchors}
    (preimage : sealedActPreimage act metadata = some payload)
    (numbered : metadata.ataNumber = some ataNumber)
    (anchored : anchors.digestAt ledger.events.length = some (digest payload)) :
    verifyActFixity (sealedAs act ledger payload metadata ataNumber) anchors = .verified := by
  rw [verifyActFixity_eq_verified_iff]
  refine ⟨digest payload, metadata, rfl, anchored, rfl, fun number stored => ?_,
    sealedActDigest_sealedAs preimage⟩
  rw [← stored, numbered]
  rfl

def annualBook : Book := { Book.new annualMeeting.bookId with state := .open_ }

def lenientPack : RulePack := ⟨"csc-art63/v2", fun _ _ => []⟩

def manualOriginal : SealEvidence :=
  .manual ⟨"Arquivo A / Pasta 2026 / Ata teste", none, none⟩

def annualMetadata (ataNumber : Nat) : SealMetadata :=
  (manualOriginal.sealMetadata lenientPack.id quotasEntity).withAtaNumber ataNumber

def signedMeeting : Act := { annualMeeting with state := .signing }

def extraordinaryMeeting : Act :=
  { signedMeeting with
    id := ⟨0x44444444444444444444444444444444#128⟩
    title := "Ata da AG extraordinária" }

def sealMeeting (book : Book) (act : Act) (ledger : Ledger) :
    Except SealError SealOutcome × Book × Act × Ledger :=
  sealActWithEvidence book act quotasEntity lenientPack "amelia.marques" false manualOriginal
    ledger ⟨5#128⟩ ⟨2026, 3, 30, 12, 0, 0, 0, 0⟩

def meetingPayload (act : Act) (ataNumber : Nat) : List UInt8 :=
  (sealedActPreimage act (annualMetadata ataNumber)).getD []

theorem sealMeeting_eq {act : Act} {lastAtaNumber : Nat} {ledger : Ledger}
    (inBook : act.bookId = annualBook.id) (signing : act.state = .signing)
    (serializes : (sealedActPreimage act (annualMetadata (lastAtaNumber + 1))).isSome = true) :
    ∃ call, call.kind = sealEventKind ∧
      call.payload = meetingPayload act (lastAtaNumber + 1) ∧
      sealedActPreimage act (annualMetadata (lastAtaNumber + 1)) =
        some (meetingPayload act (lastAtaNumber + 1)) ∧
      sealMeeting { annualBook with lastAtaNumber := lastAtaNumber } act ledger =
        (.ok ⟨lastAtaNumber + 1, ledger.events.length,
            digest (meetingPayload act (lastAtaNumber + 1)), annualMetadata (lastAtaNumber + 1),
              []⟩,
          { annualBook with lastAtaNumber := lastAtaNumber + 1 },
          sealedAs act ledger (meetingPayload act (lastAtaNumber + 1))
            (annualMetadata (lastAtaNumber + 1)) (lastAtaNumber + 1),
          ledger.appendAt call) := by
  have preimage : sealedActPreimage act (annualMetadata (lastAtaNumber + 1)) =
      some (meetingPayload act (lastAtaNumber + 1)) := by
    obtain ⟨payload, found⟩ := Option.isSome_iff_exists.mp serializes
    rw [meetingPayload, found]
    rfl
  have blank : manualOriginal.validate = .ok () := by decide
  obtain ⟨call, kind, payload, sealing⟩ := @sealActWithEvidence_of_ready _
    { annualBook with lastAtaNumber := lastAtaNumber } act quotasEntity lenientPack manualOriginal
    (meetingPayload act (lastAtaNumber + 1)) blank inBook signing rfl rfl preimage
    "amelia.marques" false ledger ⟨5#128⟩ ⟨2026, 3, 30, 12, 0, 0, 0, 0⟩
  exact ⟨call, kind, payload, preimage, sealing⟩

def sealedMeeting : Act :=
  sealedAs signedMeeting Ledger.new (meetingPayload signedMeeting 1) (annualMetadata 1) 1

theorem sealMeeting_annual :
    ∃ call, call.kind = sealEventKind ∧ call.payload = meetingPayload signedMeeting 1 ∧
      sealedActPreimage signedMeeting (annualMetadata 1) = some (meetingPayload signedMeeting 1) ∧
      sealMeeting annualBook signedMeeting Ledger.new =
        (.ok ⟨1, 0, digest (meetingPayload signedMeeting 1), annualMetadata 1, []⟩,
          { annualBook with lastAtaNumber := 1 }, sealedMeeting, Ledger.new.appendAt call) :=
  @sealMeeting_eq _ signedMeeting 0 Ledger.new rfl rfl rfl

theorem healthy_build_singleton {row : Act} {book : Book} {anchors : SealAnchors}
    (notBroken : (verifyActFixity row anchors).isBroken = false) :
    (build [row] [book] anchors).healthy = true := by
  rw [healthy_build_iff]
  simp only [List.mem_singleton, forall_eq]
  refine ⟨notBroken, ?_⟩
  by_cases here : row.bookId = book.id
  · cases number : row.ataNumber <;> simp [Book.heldNumbers, here, number]
  · simp [Book.heldNumbers, here]

def renumberedRow (row : Act) : Act := { row with ataNumber := some 7 }

/-- An altered row that lost its digest and went back to a draft. -/
def draftedRow (row : Act) : Act :=
  { row with state := .draft, payloadDigest := none, deliberations := "Rejeitadas as contas." }

def strippedRow (row : Act) : Act :=
  { row with sealMetadata := none, deliberations := "Rejeitadas as contas." }

theorem draftedRow_unnoticed (anchors : SealAnchors) (book : Book) :
    verifyActFixity (draftedRow sealedMeeting) anchors = .unsealed ∧
      (build [draftedRow sealedMeeting] [book] anchors).sealedChecked = 0 ∧
      (build [draftedRow sealedMeeting] [book] anchors).healthy = true := by
  have unsealed : verifyActFixity (draftedRow sealedMeeting) anchors = .unsealed :=
    verifyActFixity_eq_unsealed_iff.mpr ⟨rfl, rfl⟩
  refine ⟨unsealed, ?_, healthy_build_singleton ?_⟩
  · simp [sealedChecked_build, unsealed]
  · rw [unsealed]
    rfl

theorem strippedRow_unnoticed (book : Book) :
    (build [strippedRow sealedMeeting] [book]
      (.fromLedger (sealMeeting annualBook signedMeeting Ledger.new).2.2.2)).healthy = true := by
  obtain ⟨call, kind, payload, -, sealing⟩ := sealMeeting_annual
  have anchor := (Ledger.numbered_new.appendAt call).digestAt_appended (List.prefix_refl _) kind
  rw [sealing]
  apply healthy_build_singleton
  have unknown : verifyActFixity (strippedRow sealedMeeting)
      (.fromLedger (Ledger.new.appendAt call)) =
        .unverifiable "sealed_act_has_no_seal_metadata" := by
    have row : (strippedRow sealedMeeting).payloadDigest = some (digest call.payload) :=
      congrArg (fun bytes => some (digest bytes)) payload.symm
    have anchored : (strippedRow sealedMeeting).sealEventSeq.bind
        (SealAnchors.fromLedger (Ledger.new.appendAt call)).digestAt = some (digest call.payload) :=
      anchor
    have stripped : (strippedRow sealedMeeting).sealMetadata = none := rfl
    simp [verifyActFixity, row, anchored, stripped]
  rw [unknown]
  rfl

theorem not_sameContent_sealedMeeting {row : Act}
    (altered : row.deliberations = "Rejeitadas as contas.") : ¬row.SameContent sealedMeeting := by
  intro same
  have texts : "Rejeitadas as contas." = annualMeeting.deliberations :=
    altered.symm.trans same.deliberations
  exact absurd texts (by decide)

theorem extraordinary_verified :
    let first := sealMeeting annualBook signedMeeting Ledger.new
    let second := sealMeeting first.2.1 extraordinaryMeeting first.2.2.2
    verifyActFixity second.2.2.1 (.fromLedger second.2.2.2) = .verified ∧
      second.2.2.1.id = extraordinaryMeeting.id ∧ second.2.2.1.ataNumber = some 2 := by
  obtain ⟨call, -, -, -, sealing⟩ := sealMeeting_annual
  obtain ⟨call', kind', payload', preimage', sealing'⟩ :=
    @sealMeeting_eq _ extraordinaryMeeting 1 (Ledger.new.appendAt call) rfl rfl rfl
  simp only [sealing, sealing']
  have anchor := ((Ledger.numbered_new.appendAt call).appendAt call').digestAt_appended
    (List.prefix_refl _) kind'
  rw [payload'] at anchor
  exact ⟨verifyActFixity_sealedAs preimage' rfl anchor, rfl, rfl⟩

def storedMeeting (state : ActState) : Act := { sealedMeeting with state := state }

def annualAnchors : SealAnchors := .fromPairs [(0, digest (meetingPayload signedMeeting 1))]

theorem storedMeeting_verified (state : ActState) :
    verifyActFixity (storedMeeting state) annualAnchors = .verified := by
  obtain ⟨-, -, -, preimage, -⟩ := sealMeeting_annual
  rw [verifyActFixity_eq_verified_iff]
  refine ⟨digest (meetingPayload signedMeeting 1), annualMetadata 1, rfl, rfl, rfl, ?_, ?_⟩
  · intro number stored
    rw [← stored]
    rfl
  · exact @sealedActDigest_sealedAs _ signedMeeting Ledger.new _ _ 1 preimage

/-- **Rows that verify against one seal event hold one content.** They agree on
identity, contents and seal metadata, and on the ata number the metadata binds. -/
theorem Act.sameContent_of_verified {first second : Act} {anchors : SealAnchors}
    (sameEvent : first.sealEventSeq = second.sealEventSeq)
    (verified : verifyActFixity first anchors = .verified)
    (verified' : verifyActFixity second anchors = .verified)
    (separated : first.Separated second) :
    first.SameContent second ∧ first.sealMetadata = second.sealMetadata ∧
      ∀ metadata number, first.sealMetadata = some metadata → metadata.ataNumber = some number →
        first.ataNumber = second.ataNumber := by
  obtain ⟨anchor, metadata, -, anchored, bound, numbered, content⟩ :=
    verifyActFixity_eq_verified_iff.mp verified
  obtain ⟨anchor', metadata', -, anchored', bound', numbered', content'⟩ :=
    verifyActFixity_eq_verified_iff.mp verified'
  rw [sameEvent, anchored', Option.some.injEq] at anchored
  rw [anchored] at content'
  obtain ⟨contents, metadatas⟩ := Act.sameContent_of_digest_eq separated content content'
  refine ⟨contents, metadatas, fun stored number held binds => ?_⟩
  have here : metadata = stored := Option.some.inj (bound.symm.trans held)
  have there : metadata' = stored := Option.some.inj (bound'.symm.trans (metadatas.symm.trans held))
  rw [numbered number (here ▸ binds), numbered' number (there ▸ binds)]

end Binding

open scoped Reference in
/-- The annual meeting and its archived copy verify against one seal event. -/
theorem sameContent_of_verified_archived :
    (storedMeeting .sealed).sealEventSeq = (storedMeeting .archived).sealEventSeq ∧
      verifyActFixity (storedMeeting .sealed) annualAnchors = .verified ∧
      verifyActFixity (storedMeeting .archived) annualAnchors = .verified ∧
      (storedMeeting .sealed).SameContent (storedMeeting .archived) := by
  have sameEvent : (storedMeeting .sealed).sealEventSeq = (storedMeeting .archived).sealEventSeq :=
    rfl
  have verified := storedMeeting_verified .sealed
  have verified' := storedMeeting_verified .archived
  have separated : (storedMeeting .sealed).Separated (storedMeeting .archived) :=
    .of_payload_eq rfl rfl
  exact ⟨sameEvent, verified, verified',
    (Act.sameContent_of_verified sameEvent verified verified' separated).1⟩

theorem verifyActFixity_ne_unsealed [Crates] {row : Act}
    (kept : row.payloadDigest ≠ none ∨ row.isSealed = true) (anchors : SealAnchors) :
    verifyActFixity row anchors ≠ .unsealed := by
  intro unsealed
  obtain ⟨stripped, state⟩ := verifyActFixity_eq_unsealed_iff.mp unsealed
  rcases kept with digest | isSealed
  · exact digest stripped
  · exact Bool.false_ne_true (state.symm.trans isSealed)

theorem SealEffect.content_of_verified [Crates] {book : Book} {act : Act} {ledger later : Ledger}
    {result : Except SealError SealOutcome × Book × Act × Ledger} {outcome : SealOutcome}
    (effect : SealEffect book act ledger result) (sealing : result.1 = .ok outcome)
    (grown : result.2.2.2.events <+: later.events) (numbered : later.Numbered) {row : Act}
    (own : row.sealEventSeq = some outcome.eventSeq)
    (verified : verifyActFixity row (.fromLedger later) = .verified)
    (separated : row.Separated result.2.2.1) :
    row.SameContent result.2.2.1 ∧ row.sealMetadata = result.2.2.1.sealMetadata ∧
      row.ataNumber = result.2.2.1.ataNumber := by
  obtain ⟨anchor, metadata, -, anchored, bound, bindsNumber, content⟩ :=
    verifyActFixity_eq_verified_iff.mp verified
  cases effect with
  | refused fault => cases sealing
  | completed inBook signing sealMetadata sealNumber call callKind preimage warnings =>
      cases sealing
      have frozen := numbered.digestAt_appended grown callKind
      have named : (SealAnchors.fromLedger later).digestAt ledger.events.length = some anchor := by
        rw [← anchored, own]
        rfl
      rw [frozen, Option.some.injEq] at named
      rw [← named] at content
      obtain ⟨contents, metadatas⟩ :=
        Act.sameContent_of_digest_eq separated content (sealedActDigest_sealedAs preimage)
      refine ⟨contents, metadatas, bindsNumber _ ?_⟩
      have same : metadata = sealMetadata := Option.some.inj (bound.symm.trans metadatas)
      rw [same, sealNumber]

/-- **Edited rows.** A stored row that still carries a digest or a sealed state is
never taken for unsealed and is counted. A healthy report leaves two cases. Either
the preimage of the row cannot be rebuilt, and the report is not fully verified; or
the row holds what the seal event it names digested, which is the sealed content
when that event is the act's own. -/
theorem editedRow_fixity [Crates] {book book' : Book} {act sealedAct : Act} {entity : Entity}
    {rulePack : RulePack} {actor : String} {acknowledgeWarnings : Bool} {evidence : SealEvidence}
    {ledger ledger' later : Ledger} {id : Uuid} {now : OffsetDateTime} {outcome : SealOutcome}
    (sealing : sealActWithEvidence book act entity rulePack actor acknowledgeWarnings evidence
      ledger id now = (.ok outcome, book', sealedAct, ledger'))
    (grown : ledger'.events <+: later.events) (numbered : later.Numbered) {row : Act}
    (kept : row.payloadDigest ≠ none ∨ row.isSealed = true) (front back : List Act)
    (books : List Book) :
    verifyActFixity row (.fromLedger later) ≠ .unsealed ∧
      (build (front ++ row :: back) books (.fromLedger later)).sealedChecked =
        (build (front ++ back) books (.fromLedger later)).sealedChecked + 1 ∧
      ((build (front ++ row :: back) books (.fromLedger later)).healthy = true →
        (sealedActDigest row = none ∧
          (build (front ++ row :: back) books (.fromLedger later)).fullyVerified = false) ∨
        ∃ event ∈ later.events, event.kind = sealEventKind ∧
          row.sealEventSeq = some event.seq ∧ sealedActDigest row = some event.payloadDigest ∧
          (event.seq = outcome.eventSeq → row.Separated sealedAct →
            row.SameContent sealedAct ∧ row.sealMetadata = sealedAct.sealMetadata ∧
              row.ataNumber = sealedAct.ataNumber)) := by
  have counted := verifyActFixity_ne_unsealed kept (.fromLedger later)
  refine ⟨counted, ?_, fun healthy => ?_⟩
  · simp only [sealedChecked_build, List.countP_append, List.countP_cons, counted, ne_eq,
      not_false_eq_true, decide_true, if_true]
    omega
  have stored : row ∈ front ++ row :: back := by simp
  have notBroken := (healthy_build_iff.mp healthy).1 row stored
  rcases verified_or_unverifiable notBroken counted with verified | ⟨unknown, lost⟩
  · right
    obtain ⟨anchor, metadata, -, anchored, -, -, content⟩ :=
      verifyActFixity_eq_verified_iff.mp verified
    obtain ⟨seq, named, held⟩ := Option.bind_eq_some_iff.mp anchored
    obtain ⟨event, member, kind, rfl, rfl⟩ := SealAnchors.exists_event_of_digestAt held
    refine ⟨event, member, kind, named, content, fun own separated => ?_⟩
    have effect := sealActWithEvidence_effect book act entity rulePack actor acknowledgeWarnings
      evidence ledger id now
    rw [sealing] at effect
    exact effect.content_of_verified rfl grown numbered (named.trans (congrArg some own)) verified
      separated
  · refine .inl ⟨lost, Bool.eq_false_iff.mpr fun complete => ?_⟩
    have known := (fullyVerified_build_iff.mp complete).2 row stored
    exact Bool.false_ne_true (known.symm.trans unknown)

open scoped Reference in
/-- A renumbered copy of the sealed annual meeting is counted. -/
theorem editedRow_fixity_renumbered :
    (build [renumberedRow sealedMeeting] [annualBook]
      (.fromLedger (sealMeeting annualBook signedMeeting Ledger.new).2.2.2)).sealedChecked =
        (build [] [annualBook]
          (.fromLedger (sealMeeting annualBook signedMeeting Ledger.new).2.2.2)).sealedChecked +
            1 := by
  obtain ⟨call, kind, payload, preimage, sealing⟩ := @sealMeeting_annual Reference.crates
  have kept : (renumberedRow sealedMeeting).payloadDigest ≠ none ∨
      (renumberedRow sealedMeeting).isSealed = true := .inr rfl
  have fixity := editedRow_fixity sealing (List.prefix_refl _) (Ledger.numbered_new.appendAt call)
    kept [] [] [annualBook]
  rw [sealing]
  exact fixity.2.1

open scoped Reference in
/-- Three edited copies of a sealed row in a healthy report: one is taken for
unsealed and not counted, one cannot be rebuilt, and one is the row of another
sealed act. -/
theorem editedRows_healthy :
    let first := sealMeeting annualBook signedMeeting Ledger.new
    let second := sealMeeting first.2.1 extraordinaryMeeting first.2.2.2
    (∃ outcome, first.1 = .ok outcome) ∧
      ((draftedRow first.2.2.1).ataNumber = some 1 ∧
        (draftedRow first.2.2.1).sealEventSeq = some 0 ∧
        (draftedRow first.2.2.1).sealMetadata = some (annualMetadata 1) ∧
        ¬(draftedRow first.2.2.1).SameContent first.2.2.1 ∧
        verifyActFixity (draftedRow first.2.2.1) (.fromLedger first.2.2.2) = .unsealed ∧
        (build [draftedRow first.2.2.1] [first.2.1] (.fromLedger first.2.2.2)).sealedChecked = 0 ∧
        (build [draftedRow first.2.2.1] [first.2.1] (.fromLedger first.2.2.2)).healthy = true) ∧
      ((strippedRow first.2.2.1).ataNumber = some 1 ∧
        ¬(strippedRow first.2.2.1).SameContent first.2.2.1 ∧
        (build [strippedRow first.2.2.1] [first.2.1] (.fromLedger first.2.2.2)).healthy = true) ∧
      second.2.2.1.ataNumber = some 2 ∧ ¬second.2.2.1.SameContent first.2.2.1 ∧
        (build [second.2.2.1] [second.2.1] (.fromLedger second.2.2.2)).healthy = true := by
  obtain ⟨call, kind, payload, preimage, sealing⟩ := @sealMeeting_annual Reference.crates
  have row : (sealMeeting annualBook signedMeeting Ledger.new).2.2.1 = sealedMeeting := by
    rw [sealing]
  obtain ⟨verified, identity, number⟩ := @extraordinary_verified Reference.crates
  obtain ⟨unsealed, uncounted, unnoticed⟩ := draftedRow_unnoticed
    (.fromLedger (sealMeeting annualBook signedMeeting Ledger.new).2.2.2)
    (sealMeeting annualBook signedMeeting Ledger.new).2.1
  have stripped := strippedRow_unnoticed (sealMeeting annualBook signedMeeting Ledger.new).2.1
  dsimp only
  refine ⟨⟨_, congrArg Prod.fst sealing⟩, ?_, ?_, number, ?_, ?_⟩
  · rw [row]
    exact ⟨rfl, rfl, rfl, not_sameContent_sealedMeeting rfl, unsealed, uncounted, unnoticed⟩
  · rw [row]
    exact ⟨rfl, not_sameContent_sealedMeeting rfl, stripped⟩
  · rw [row]
    intro same
    exact absurd (identity.symm.trans same.id) (by decide)
  · apply healthy_build_singleton
    rw [verified]
    rfl

end Chancela
