import Chancela.Foundation.Interleave
import Chancela.Session.Totp

/-! # Single use of second-factor codes

Any number of calls of `verify_and_consume_second_factor` and `verify_totp_for_user` for one
user, between two enrolments. A call reads the enrolment, reads the secret and verifies, and
writes the consumption under the lock without a look at what was written since; so a code is
used once as far as each consumption still finds what the call verified against
(`Chancela.Totp.singleUse`).
-/

namespace Chancela

open Interleave

namespace Totp

/-- A call that verifies a code, at an instant. -/
inductive CodeCall where
  | verifyAndConsumeSecondFactor (code : String) (unixSeconds : Int)
  | verifyTotpForUser (code : String) (unixSeconds : Int)

def CodeCall.code : CodeCall → String
  | .verifyAndConsumeSecondFactor code _ | .verifyTotpForUser code _ => code

/-- What a call found its code to be: a step, or a slot of the backup codes it read, with the
verifier in it. -/
inductive Finding where
  | totp (step : Int)
  | backup (index : Nat) (verifier : String)
deriving DecidableEq

/-- How far a call has got. -/
inductive CodeStage where
  | arrived
  | read (enrolment : TotpEnrolment)
  | verified (finding : Finding)
  | consumed (finding : Finding)
  | accepted (finding : Finding)
  | unsaved (finding : Finding)
  | rejected
  | failed
deriving DecidableEq

def CodeStage.spent : CodeStage → Option Finding
  | .consumed finding | .accepted finding | .unsaved finding => some finding
  | _ => none

def CodeStage.verifying : CodeStage → Option Finding
  | .verified finding => some finding
  | _ => none

theorem CodeStage.mem_verifying {stage : CodeStage} {finding : Finding} :
    finding ∈ stage.verifying ↔ stage = .verified finding := by
  cases stage with
  | verified found =>
      rw [verifying, Option.mem_some_iff, CodeStage.verified.injEq]
  | _ => simp only [verifying, Option.not_mem_none, reduceCtorEq]

/-- Whether the credential store can be read, and whether the users are written out. -/
structure StoreReplies where
  readable : Bool
  persisted : Bool

def consume (factor : Factor) (finding : Finding) : Factor :=
  { factor with
    enrolment := factor.enrolment.map fun enrolment =>
      match finding with
      | .totp step => { enrolment with lastAcceptedStep := some step }
      | .backup index _ =>
          if index < enrolment.backupCodeHashes.length then
            { enrolment with backupCodeHashes := enrolment.backupCodeHashes.eraseIdx index }
          else enrolment }

variable [TotpCrates]

/-- The secret is read, and the code verified against it and the enrolment read before. -/
def verifyTotp (factor : Factor) (readable : Bool) (enrolment : TotpEnrolment) (code : String)
    (unixSeconds : Int) : CodeStage :=
  if !readable then .failed
  else
    match factor.secret with
    | none => .rejected
    | some secret =>
        match verifyCodeAgainstSecret secret code unixSeconds enrolment.lastAcceptedStep with
        | .accepted step => .verified (.totp step)
        | .rejected => .rejected

/-- A backup code is looked for among the verifiers read before. -/
def verifyBackupCode (enrolment : TotpEnrolment) (code : String) : CodeStage :=
  match findMatchingBackupCode enrolment.backupCodeHashes code with
  | none => .rejected
  | some index => .verified (.backup index (enrolment.backupCodeHashes.getD index ""))

def serve (call : CodeCall) (replies : StoreReplies) (factor : Factor) :
    CodeStage → Factor × CodeStage
  | .arrived =>
      (factor, match factor.enrolment with
        | none => .rejected
        | some enrolment => if enrolment.confirmed then .read enrolment else .rejected)
  | .read enrolment =>
      (factor, match call with
        | .verifyAndConsumeSecondFactor code unixSeconds =>
            if isTotpShaped (Text.trim code) then
              verifyTotp factor replies.readable enrolment (Text.trim code) unixSeconds
            else verifyBackupCode enrolment (Text.trim code)
        | .verifyTotpForUser code unixSeconds =>
            verifyTotp factor replies.readable enrolment code unixSeconds)
  | .verified finding => (consume factor finding, .consumed finding)
  | .consumed finding =>
      (factor, if replies.persisted then .accepted finding else .unsaved finding)
  | stage => (factor, stage)

def serveCalls {ι : Type*} (calls : ι → CodeCall) (party : ι) (replies : StoreReplies)
    (factor : Factor) (stage : CodeStage) : Factor × CodeStage :=
  serve (calls party) replies factor stage

/-- What a call verified against is still what is stored: a step past the last one accepted,
or the verifier in its slot. -/
def Current (factor : Factor) : Finding → Prop
  | .totp step => ∃ enrolment, factor.enrolment = some enrolment ∧
      ∀ last ∈ enrolment.lastAcceptedStep, last < step
  | .backup index verifier => ∃ enrolment, factor.enrolment = some enrolment ∧
      enrolment.backupCodeHashes[index]? = some verifier

instance (factor : Factor) : (finding : Finding) → Decidable (Current factor finding)
  | .totp step => decidable_of_iff
      (∃ enrolment ∈ factor.enrolment, ∀ last ∈ enrolment.lastAcceptedStep, last < step) Iff.rfl
  | .backup index verifier => decidable_of_iff
      (∃ enrolment ∈ factor.enrolment, enrolment.backupCodeHashes[index]? = some verifier) Iff.rfl

def ConsumesCurrent {ι : Type*} (world : World Factor ι CodeStage) (move : ι × StoreReplies) :
    Prop :=
  ∀ finding, world.progress move.1 = .verified finding → Current world.shared finding

instance {ι : Type*} (world : World Factor ι CodeStage) (move : ι × StoreReplies) :
    Decidable (ConsumesCurrent world move) :=
  decidable_of_iff
    (∀ finding ∈ (world.progress move.1).verifying, Current world.shared finding)
    (by simp only [ConsumesCurrent, CodeStage.mem_verifying])

/-- The verifiers of distinct codes: no two are the same, and no text has two of them. -/
structure DistinctCodes (hashes : List String) : Prop where
  nodup : hashes.Nodup
  separate : ∀ candidate, ∀ first ∈ hashes, ∀ second ∈ hashes,
    TotpCrates.verifySecret candidate first = true →
      TotpCrates.verifySecret candidate second = true → first = second

/-- The verifier is one of those minted, and the code presented is its code. -/
def Answers (hashes : List String) (call : CodeCall) (verifier : String) : Prop :=
  verifier ∈ hashes ∧ TotpCrates.verifySecret (backupCandidate call.code) verifier = true

/-- What the code verified to is one of the codes minted. -/
def Matches (hashes : List String) (call : CodeCall) : Finding → Prop
  | .totp _ => True
  | .backup _ verifier => Answers hashes call verifier

def Spent (factor : Factor) : Finding → Prop
  | .totp step => ∃ enrolment last, factor.enrolment = some enrolment ∧
      enrolment.lastAcceptedStep = some last ∧ step ≤ last
  | .backup _ verifier => ∃ enrolment, factor.enrolment = some enrolment ∧
      verifier ∉ enrolment.backupCodeHashes

def Recorded (hashes : List String) (call : CodeCall) (factor : Factor) : CodeStage → Prop
  | .read enrolment => enrolment.backupCodeHashes ⊆ hashes
  | .verified finding => Matches hashes call finding
  | .consumed finding | .accepted finding | .unsaved finding =>
      Matches hashes call finding ∧ Spent factor finding
  | .arrived | .rejected | .failed => True

def SameCode : Finding → Finding → Prop
  | .totp first, .totp second => first = second
  | .backup _ first, .backup _ second => first = second
  | _, _ => False

omit [TotpCrates] in
theorem sameCode_symm {finding other : Finding} (same : SameCode finding other) :
    SameCode other finding := by
  cases finding <;> cases other <;> first | exact Eq.symm same | exact same

/-- What holds between the sections of the calls of one enrolment. -/
def spending {ι : Type*} (hashes : List String) (calls : ι → CodeCall) :
    Discipline Factor ι CodeStage where
  common factor := ∃ enrolment, factor.enrolment = some enrolment ∧ enrolment.confirmed = true ∧
    enrolment.backupCodeHashes.Sublist hashes
  mine party factor stage := Recorded hashes (calls party) factor stage
  apart first second := ∀ finding ∈ first.spent, ∀ other ∈ second.spent, ¬SameCode finding other

variable {hashes : List String} {call : CodeCall} {replies : StoreReplies} {factor later : Factor}
  {enrolment : TotpEnrolment} {stage : CodeStage} {finding : Finding}

omit [TotpCrates] in
theorem eraseIdx_eq_erase {index : Nat} {verifier : String} (distinct : hashes.Nodup)
    (slot : hashes[index]? = some verifier) : hashes.eraseIdx index = hashes.erase verifier := by
  obtain ⟨bound, rfl⟩ := List.getElem?_eq_some_iff.mp slot
  exact (List.erase_eq_eraseIdx_of_idxOf (distinct.idxOf_getElem index bound)).symm

omit [TotpCrates] in
theorem consume_of_current (current : Current factor finding)
    (stored : factor.enrolment = some enrolment) :
    (∃ step, finding = .totp step ∧ (∀ last ∈ enrolment.lastAcceptedStep, last < step) ∧
      (consume factor finding).enrolment = some { enrolment with lastAcceptedStep := some step }) ∨
    ∃ index verifier, finding = .backup index verifier ∧
      enrolment.backupCodeHashes[index]? = some verifier ∧
      (consume factor finding).enrolment = some { enrolment with
        backupCodeHashes := enrolment.backupCodeHashes.eraseIdx index } := by
  cases finding with
  | totp step =>
      obtain ⟨found, same, past⟩ := current
      obtain rfl := Option.some.inj (stored.symm.trans same)
      refine .inl ⟨step, rfl, past, ?_⟩
      rw [consume, stored]
      rfl
  | backup index verifier =>
      obtain ⟨found, same, slot⟩ := current
      obtain rfl := Option.some.inj (stored.symm.trans same)
      obtain ⟨bound, -⟩ := List.getElem?_eq_some_iff.mp slot
      refine .inr ⟨index, verifier, rfl, slot, ?_⟩
      simp only [consume, stored, Option.map_some, if_pos bound]

theorem common_consume {ι : Type*} {calls : ι → CodeCall} (current : Current factor finding)
    (kept : (spending hashes calls).common factor) :
    (spending hashes calls).common (consume factor finding) := by
  obtain ⟨enrolment, stored, confirmed, fewer⟩ := kept
  rcases consume_of_current current stored with
    ⟨step, -, -, written⟩ | ⟨index, verifier, -, -, written⟩
  · exact ⟨_, written, confirmed, fewer⟩
  · exact ⟨_, written, confirmed, (List.eraseIdx_sublist _ index).trans fewer⟩

omit [TotpCrates] in
theorem Spent.consume {other : Finding} (current : Current factor finding)
    (spent : Spent factor other) : Spent (consume factor finding) other := by
  cases other with
  | totp step =>
      obtain ⟨enrolment, last, stored, accepted, past⟩ := spent
      rcases consume_of_current current stored with
        ⟨next, -, later, written⟩ | ⟨index, verifier, -, -, written⟩
      · exact ⟨_, next, written, rfl, past.trans (later last accepted).le⟩
      · exact ⟨_, last, written, accepted, past⟩
  | backup index verifier =>
      obtain ⟨enrolment, stored, gone⟩ := spent
      rcases consume_of_current current stored with
        ⟨next, -, -, written⟩ | ⟨slot, other, -, -, written⟩
      · exact ⟨_, written, gone⟩
      · exact ⟨_, written, fun member => gone (List.mem_of_mem_eraseIdx member)⟩

omit [TotpCrates] in
theorem spent_consume (distinct : hashes.Nodup)
    (stored : factor.enrolment = some enrolment)
    (fewer : enrolment.backupCodeHashes.Sublist hashes) (current : Current factor finding) :
    Spent (consume factor finding) finding := by
  rcases consume_of_current current stored with
    ⟨step, rfl, -, written⟩ | ⟨index, verifier, rfl, slot, written⟩
  · exact ⟨_, step, written, rfl, le_refl step⟩
  · refine ⟨_, written, ?_⟩
    dsimp only
    rw [eraseIdx_eq_erase (distinct.sublist fewer) slot]
    exact (distinct.sublist fewer).not_mem_erase

omit [TotpCrates] in
theorem not_sameCode_of_spent {other : Finding} (current : Current factor finding)
    (spent : Spent factor other) : ¬SameCode finding other := by
  intro same
  cases finding with
  | totp step =>
      cases other with
      | totp next =>
          obtain ⟨enrolment, stored, past⟩ := current
          obtain ⟨found, last, kept, accepted, before⟩ := spent
          obtain rfl := Option.some.inj (stored.symm.trans kept)
          obtain rfl : step = next := same
          exact absurd (past last accepted) (not_lt.mpr before)
      | backup index verifier => exact same
  | backup index verifier =>
      cases other with
      | totp next => exact same
      | backup slot found =>
          obtain ⟨enrolment, stored, inside⟩ := current
          obtain ⟨kept, same', gone⟩ := spent
          obtain rfl := Option.some.inj (stored.symm.trans same')
          obtain rfl : verifier = found := same
          exact gone (List.mem_of_getElem? inside)

theorem recorded_verifyBackupCode (read : enrolment.backupCodeHashes ⊆ hashes) :
    Recorded hashes call factor (verifyBackupCode enrolment (Text.trim call.code)) := by
  rw [verifyBackupCode]
  cases found : findMatchingBackupCode enrolment.backupCodeHashes (Text.trim call.code) with
  | none => trivial
  | some index =>
      obtain ⟨bound, matched, -⟩ := List.findIdx?_eq_some_iff_getElem.mp found
      rw [backupCandidate, Text.trim_trim] at matched
      dsimp only [Recorded, Matches, Answers]
      rw [List.getD_eq_getElem?_getD, List.getElem?_eq_getElem bound, Option.getD_some]
      exact ⟨read (List.getElem_mem bound), matched⟩

theorem spent_verifyBackupCode {code : String} :
    (verifyBackupCode enrolment code).spent = none := by
  rw [verifyBackupCode]
  split <;> rfl

theorem spent_verifyTotp {readable : Bool} {code : String} {unixSeconds : Int} :
    (verifyTotp factor readable enrolment code unixSeconds).spent = none := by
  rw [verifyTotp]
  split
  · rfl
  · split
    · rfl
    · split <;> rfl

theorem recorded_verifyTotp {readable : Bool} {code : String} {unixSeconds : Int} :
    Recorded hashes call factor (verifyTotp factor readable enrolment code unixSeconds) := by
  rw [verifyTotp]
  split
  · trivial
  · split
    · trivial
    · split <;> trivial

theorem serve_fst (unverified : ∀ finding, stage ≠ .verified finding) :
    (serve call replies factor stage).1 = factor := by
  cases stage with
  | verified finding => exact absurd rfl (unverified finding)
  | _ => rfl

theorem spent_serve (spent : finding ∈ (serve call replies factor stage).2.spent) :
    finding ∈ stage.spent ∨ stage = .verified finding := by
  cases stage with
  | arrived =>
      rw [serve] at spent
      dsimp only at spent
      split at spent
      · cases spent
      · split at spent <;> cases spent
  | read enrolment =>
      have unspent : (serve call replies factor (.read enrolment)).2.spent = none := by
        cases call with
        | verifyAndConsumeSecondFactor code unixSeconds =>
            dsimp only [serve]
            split
            · exact spent_verifyTotp
            · exact spent_verifyBackupCode
        | verifyTotpForUser code unixSeconds => exact spent_verifyTotp
      rw [unspent] at spent
      cases spent
  | verified found =>
      obtain rfl := Option.mem_some_iff.mp spent
      exact .inr rfl
  | consumed found =>
      rw [serve] at spent
      dsimp only at spent
      split at spent <;> exact .inl spent
  | accepted found | unsaved found => exact .inl spent
  | rejected | failed => cases spent

theorem recorded_serve (distinct : hashes.Nodup) (stored : factor.enrolment = some enrolment)
    (fewer : enrolment.backupCodeHashes.Sublist hashes)
    (recorded : Recorded hashes call factor stage)
    (current : ∀ finding, stage = .verified finding → Current factor finding) :
    Recorded hashes call (serve call replies factor stage).1
      (serve call replies factor stage).2 := by
  cases stage with
  | arrived =>
      rw [serve]
      simp only [stored]
      split
      · exact fewer.subset
      · trivial
  | read found =>
      cases call with
      | verifyAndConsumeSecondFactor code unixSeconds =>
          dsimp only [serve]
          split
          · exact recorded_verifyTotp
          · exact recorded_verifyBackupCode recorded
      | verifyTotpForUser code unixSeconds => exact recorded_verifyTotp
  | verified finding =>
      exact ⟨recorded, spent_consume distinct stored fewer (current finding rfl)⟩
  | consumed finding =>
      rw [serve]
      dsimp only
      split <;> exact recorded
  | accepted finding | unsaved finding => exact recorded
  | rejected | failed => trivial

theorem Recorded.mono (recorded : Recorded hashes call factor stage)
    (stay : ∀ finding, Spent factor finding → Spent later finding) :
    Recorded hashes call later stage := by
  cases stage with
  | consumed finding | accepted finding | unsaved finding =>
      exact ⟨recorded.1, stay finding recorded.2⟩
  | _ => exact recorded

theorem Recorded.spent (recorded : Recorded hashes call factor stage)
    (member : finding ∈ stage.spent) : Matches hashes call finding ∧ Spent factor finding := by
  cases stage with
  | consumed found | accepted found | unsaved found =>
      obtain rfl := Option.mem_some_iff.mp member
      exact recorded
  | _ => cases member

variable {ι : Type*} {calls : ι → CodeCall}

theorem spending_kept (distinct : hashes.Nodup) :
    (spending hashes calls).KeptBy (serveCalls calls) ConsumesCurrent where
  symm apart finding member other spent same := 
    apart other spent finding member (sameCode_symm same)
  common world move holds current := by
    by_cases verified : ∃ finding, world.progress move.1 = .verified finding
    · obtain ⟨finding, stage⟩ := verified
      rw [serveCalls, stage]
      exact common_consume (current finding stage) holds.common
    · rw [not_exists] at verified
      rw [serveCalls, serve_fst verified]
      exact holds.common
  mine world move holds current := by
    obtain ⟨enrolment, stored, -, fewer⟩ := holds.common
    exact recorded_serve distinct stored fewer (holds.mine move.1) current
  others world move holds current other _ := by
    apply (holds.mine other).mono
    intro found spent
    by_cases verified : ∃ finding, world.progress move.1 = .verified finding
    · obtain ⟨finding, stage⟩ := verified
      rw [serveCalls, stage]
      exact spent.consume (current finding stage)
    · rw [not_exists] at verified
      rw [serveCalls, serve_fst verified]
      exact spent
  apart world move holds current other different := by
    intro finding member found spent
    rcases spent_serve member with before | stage
    · exact holds.apart move.1 other different.symm finding before found spent
    · exact not_sameCode_of_spent (current finding stage)
        ((holds.mine other).spent spent).2

def Advances (before after : Factor) : Prop :=
  ∀ enrolment last, before.enrolment = some enrolment → enrolment.lastAcceptedStep = some last →
    ∃ written later, after.enrolment = some written ∧ written.lastAcceptedStep = some later ∧
      last ≤ later

def Removes (verifier : String) (before after : Factor) : Prop :=
  ∃ enrolment, before.enrolment = some enrolment ∧ verifier ∈ enrolment.backupCodeHashes ∧
    after.enrolment = some { enrolment with
      backupCodeHashes := enrolment.backupCodeHashes.erase verifier }

omit [TotpCrates] in
theorem advances_consume (current : Current factor finding) :
    Advances factor (consume factor finding) := by
  intro enrolment last stored accepted
  rcases consume_of_current current stored with
    ⟨step, -, past, written⟩ | ⟨index, verifier, -, -, written⟩
  · exact ⟨_, step, written, rfl, (past last accepted).le⟩
  · exact ⟨_, last, written, accepted, le_refl last⟩

omit [TotpCrates] in
theorem removes_consume {index : Nat} {verifier : String} (distinct : hashes.Nodup)
    (stored : factor.enrolment = some enrolment)
    (fewer : enrolment.backupCodeHashes.Sublist hashes)
    (current : Current factor (.backup index verifier)) :
    Removes verifier factor (consume factor (.backup index verifier)) := by
  rcases consume_of_current current stored with
    ⟨step, same, -⟩ | ⟨slot, found, same, inside, written⟩
  · cases same
  · obtain ⟨rfl, rfl⟩ := Finding.backup.inj same
    refine ⟨enrolment, stored, List.mem_of_getElem? inside, ?_⟩
    rw [written, eraseIdx_eq_erase (distinct.sublist fewer) inside]

variable [DecidableEq ι]

/-- **Single use.** In a run whose consumptions find what was verified against, between two
enrolments, a step is accepted by one call at most and a backup code by one call at most, the
last step accepted never goes back, and a backup code takes out its own verifier. -/
theorem singleUse (calls : ι → CodeCall) {start : World Factor ι CodeStage}
    (distinct : DistinctCodes hashes) (stored : start.shared.enrolment = some enrolment)
    (confirmed : enrolment.confirmed = true) (minted : enrolment.backupCodeHashes = hashes)
    (arrived : ∀ party, start.progress party = .arrived) (moves : List (ι × StoreReplies))
    (current : Run.Admissible (turn (serveCalls calls)) ConsumesCurrent start moves) :
    ∀ world ∈ Run.states (turn (serveCalls calls)) start moves,
      (∀ first second step, world.progress first = .accepted (.totp step) →
        world.progress second = .accepted (.totp step) → first = second) ∧
      (∀ first second index slot verifier other,
        world.progress first = .accepted (.backup index verifier) →
        world.progress second = .accepted (.backup slot other) →
        backupCandidate (calls first).code = backupCandidate (calls second).code →
        first = second) ∧
      ∀ move, ConsumesCurrent world move →
        Advances world.shared (turn (serveCalls calls) world move).shared ∧
        ∀ index verifier, world.progress move.1 = .verified (.backup index verifier) →
          Removes verifier world.shared (turn (serveCalls calls) world move).shared := by
  have initial : (spending hashes calls).Holds start := by
    refine ⟨⟨enrolment, stored, confirmed, minted ▸ List.Sublist.refl _⟩, ?_, ?_⟩
    · intro party
      rw [arrived party]
      trivial
    · intro first second _ finding member
      rw [arrived first] at member
      cases member
  intro world reached
  have holds := (spending_kept distinct.nodup).holds initial current world reached
  refine ⟨?_, ?_, ?_⟩
  · intro first second step one other
    by_contra different
    apply holds.apart first second different (.totp step) _ (.totp step) _ rfl
    · rw [one]
      rfl
    · rw [other]
      rfl
  · intro first second index slot verifier found one other same
    have answered := holds.mine first
    have answers := holds.mine second
    rw [one] at answered
    rw [other] at answers
    by_contra different
    apply holds.apart first second different (.backup index verifier) _ (.backup slot found) _
    · apply distinct.separate _ verifier answered.1.1 found answers.1.1 answered.1.2
      rw [same]
      exact answers.1.2
    · rw [one]
      rfl
    · rw [other]
      rfl
  · intro move allowed
    obtain ⟨kept, there, -, fewer⟩ := holds.common
    constructor
    · by_cases verified : ∃ finding, world.progress move.1 = .verified finding
      · obtain ⟨finding, stage⟩ := verified
        have written : (turn (serveCalls calls) world move).shared =
            consume world.shared finding := by
          rw [turn, serveCalls, stage]
          rfl
        rw [written]
        exact advances_consume (allowed finding stage)
      · rw [not_exists] at verified
        have unchanged : (turn (serveCalls calls) world move).shared = world.shared :=
          serve_fst verified
        rw [unchanged]
        exact fun found last same accepted => ⟨found, last, same, accepted, le_refl last⟩
    · intro index verifier stage
      have written : (turn (serveCalls calls) world move).shared =
          consume world.shared (.backup index verifier) := by
        rw [turn, serveCalls, stage]
        rfl
      rw [written]
      exact removes_consume distinct.nodup there fewer (allowed _ stage)

end Totp

namespace Totp

open scoped Reference

/-- A confirmed enrolment with the secret of the reference vectors. -/
def enrolled : World Factor Bool CodeStage where
  shared := ⟨some ⟨true, none, none, []⟩, some "GEZDGNBVGY3TQOJQGEZDGNBVGY3TQOJQ"⟩
  progress _ := .arrived

def presentTwice (_ : Bool) : CodeCall := .verifyAndConsumeSecondFactor "287082" 59

def inTurn : List (Bool × StoreReplies) :=
  List.replicate 4 (true, ⟨true, true⟩) ++ List.replicate 4 (false, ⟨true, true⟩)

/-- Each section of one call followed by the same section of the other. -/
def sideBySide : List (Bool × StoreReplies) :=
  (List.replicate 4 [(true, ⟨true, true⟩), (false, ⟨true, true⟩)]).flatten

/-- A code presented twice, one call after the other. -/
theorem singleUse_inTurn :
    (inTurn.foldl (turn (serveCalls presentTwice)) enrolled).progress true =
        .accepted (.totp 1) ∧
      (inTurn.foldl (turn (serveCalls presentTwice)) enrolled).progress false ≠
        .accepted (.totp 1) := by
  have first : (inTurn.foldl (turn (serveCalls presentTwice)) enrolled).progress true =
      .accepted (.totp 1) := by decide +kernel
  have distinct : DistinctCodes [] :=
    ⟨List.nodup_nil, fun _ _ member => absurd member List.not_mem_nil⟩
  refine ⟨first, fun second => ?_⟩
  have same := (singleUse presentTwice distinct rfl rfl rfl (fun _ => rfl) inTurn
    (by decide +kernel) _ (Run.foldl_mem_states enrolled inTurn)).1 true false 1 first second
  cases same

/-- A code presented twice at once is accepted twice. -/
theorem not_singleUse : ¬∀ (hashes : List String) (start : World Factor Bool CodeStage)
    (enrolment : TotpEnrolment) (calls : Bool → CodeCall), DistinctCodes hashes →
    start.shared.enrolment = some enrolment → enrolment.confirmed = true →
    enrolment.backupCodeHashes = hashes → (∀ party, start.progress party = .arrived) →
    ∀ moves, ∀ world ∈ Run.states (turn (serveCalls calls)) start moves,
      ∀ first second step, world.progress first = .accepted (.totp step) →
        world.progress second = .accepted (.totp step) → first = second := by
  intro single
  have accepted : ∀ party, (sideBySide.foldl (turn (serveCalls presentTwice)) enrolled).progress
      party = .accepted (.totp 1) := by decide +kernel
  have same := single [] enrolled ⟨true, none, none, []⟩ presentTwice
    ⟨List.nodup_nil, fun _ _ member => absurd member List.not_mem_nil⟩ rfl rfl rfl
    (fun _ => rfl) sideBySide _ (Run.foldl_mem_states _ _) true false 1 (accepted true)
    (accepted false)
  cases same

end Totp

end Chancela
