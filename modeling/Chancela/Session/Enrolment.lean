import Chancela.Foundation.Interleave
import Chancela.Session.Base32

/-! # Enrolling a second factor

`enrol_totp`, `confirm_totp` and `disable_totp` of one user, any number of them at once. The
enrolment is kept on the user's record and the secret in the credential store; each handler
reads them, decides, and writes one after the other. A confirmed factor is kept, and bound to
the secret it was confirmed with, as far as each write still finds what its handler decided
on (`Chancela.Totp.keepsConfirmed`).
-/

namespace Chancela

open Interleave

namespace Totp

/-- A request: the bytes drawn for a secret; or the code presented, the instant, its text and
the verifiers of the backup codes minted, if they were; or a request to disable. -/
inductive EnrolRequest where
  | enrolTotp (drawn : List UInt8)
  | confirmTotp (code : String) (unixSeconds : Int) (stamp : String)
      (hashes : Option (List String))
  | disableTotp

/-- How far a request has got. -/
inductive EnrolStage where
  | arrived
  | enrolling
  | secretWritten
  | pendingWritten
  | confirming
  | torn
  | tornCleared
  | tornDropped
  | proved (secret : String) (step : Int)
  | confirmedWritten
  | disabling (required : Bool)
  | allowed
  | cleared
  | dropped
  | done
  | refused
  | failed
deriving DecidableEq

/-- What a section meets: whether the confirmation of the act passes, whether the credential
store is read and written, and whether the users are written out. -/
structure EnrolReplies where
  confirmation : Bool
  readable : Bool
  written : Bool
  persisted : Bool

/-- The second factor of a user, whether it is required, and the secret whose code was
verified at the last confirmation. -/
structure GuardedFactor where
  factor : Factor
  required : Bool
  proved : Option String
deriving DecidableEq

namespace GuardedFactor

def isConfirmed (guarded : GuardedFactor) : Bool := guarded.factor.enrolment.any fun enrolment =>
  enrolment.confirmed

def setEnrolment (guarded : GuardedFactor) (enrolment : Option TotpEnrolment) : GuardedFactor :=
  { guarded with factor := { guarded.factor with enrolment } }

def setSecret (guarded : GuardedFactor) (secret : Option String) : GuardedFactor :=
  { guarded with factor := { guarded.factor with secret } }

end GuardedFactor

/-- The end of a request whose last write is that of the users. -/
def persistTo (stage : EnrolStage) (replies : EnrolReplies) : EnrolStage :=
  if replies.persisted then stage else .failed

/-- A write of the credential store, which changes nothing if it fails. -/
def writeSecret (guarded : GuardedFactor) (secret : Option String) (stage : EnrolStage)
    (replies : EnrolReplies) : GuardedFactor × EnrolStage :=
  if replies.written then (guarded.setSecret secret, stage) else (guarded, .failed)

variable [TotpCrates]

def admitEnrolment (request : EnrolRequest) (guarded : GuardedFactor) : EnrolStage :=
  match request with
  | .enrolTotp _ => if guarded.isConfirmed then .refused else .enrolling
  | .confirmTotp _ _ _ _ =>
      match guarded.factor.enrolment with
      | none => .refused
      | some enrolment => if enrolment.confirmed then .refused else .confirming
  | .disableTotp => .disabling guarded.required

/-- The secret is read, and the code verified against it. -/
def proveCode (request : EnrolRequest) (guarded : GuardedFactor) (readable : Bool) : EnrolStage :=
  match request with
  | .confirmTotp code unixSeconds _ _ =>
      if !readable then .failed
      else
        match guarded.factor.secret with
        | none => .torn
        | some secret =>
            match verifyCodeAgainstSecret secret code unixSeconds none with
            | .accepted step => .proved secret step
            | .rejected => .refused
  | _ => .failed

/-- The confirmed enrolment is written, if the backup codes could be minted. -/
def writeConfirmed (request : EnrolRequest) (guarded : GuardedFactor) (secret : String)
    (step : Int) : GuardedFactor × EnrolStage :=
  match request with
  | .confirmTotp _ _ stamp (some hashes) =>
      ({ guarded.setEnrolment (some ⟨true, some stamp, some step, hashes⟩) with
          proved := some secret }, .confirmedWritten)
  | _ => (guarded, .failed)

def serveEnrolment (request : EnrolRequest) (replies : EnrolReplies) (guarded : GuardedFactor) :
    EnrolStage → GuardedFactor × EnrolStage
  | .arrived => (guarded, admitEnrolment request guarded)
  | .enrolling =>
      match request with
      | .enrolTotp drawn =>
          writeSecret guarded (some (base32Encode drawn)) .secretWritten replies
      | _ => (guarded, .failed)
  | .secretWritten => (guarded.setEnrolment (some .pending), .pendingWritten)
  | .pendingWritten => (guarded, persistTo .done replies)
  | .confirming => (guarded, proveCode request guarded replies.readable)
  | .torn => (guarded.setEnrolment none, .tornCleared)
  | .tornCleared => writeSecret guarded none .tornDropped replies
  | .tornDropped => (guarded, persistTo .refused replies)
  | .proved secret step => writeConfirmed request guarded secret step
  | .confirmedWritten => (guarded, persistTo .done replies)
  | .disabling required =>
      (guarded, if !replies.confirmation || required then .refused else .allowed)
  | .allowed => (guarded.setEnrolment none, .cleared)
  | .cleared => writeSecret guarded none .dropped replies
  | .dropped => (guarded, persistTo .done replies)
  | stage => (guarded, stage)

/-- What the next write of a request counts on: that the enrolment is not a confirmed one, or
that the secret is the one the code was verified against. -/
def Finds (guarded : GuardedFactor) : EnrolStage → Prop
  | .enrolling | .secretWritten | .torn | .tornCleared | .cleared => guarded.isConfirmed = false
  | .proved secret _ => guarded.factor.secret = some secret
  | _ => True

instance (guarded : GuardedFactor) : (stage : EnrolStage) → Decidable (Finds guarded stage)
  | .enrolling | .secretWritten | .torn | .tornCleared | .cleared =>
      inferInstanceAs (Decidable (guarded.isConfirmed = false))
  | .proved secret _ => inferInstanceAs (Decidable (guarded.factor.secret = some secret))
  | .arrived | .pendingWritten | .confirming | .tornDropped | .confirmedWritten | .disabling _
  | .allowed | .dropped | .done | .refused | .failed => .isTrue trivial

/-- A confirmed enrolment has the secret whose code was verified when it was confirmed. -/
def Bound (guarded : GuardedFactor) : Prop :=
  guarded.isConfirmed = true →
    ∃ secret, guarded.factor.secret = some secret ∧ guarded.proved = some secret

variable {request : EnrolRequest} {replies : EnrolReplies} {guarded : GuardedFactor}
  {stage next : EnrolStage} {secret : Option String}

omit [TotpCrates] in
theorem isConfirmed_writeSecret :
    (writeSecret guarded secret next replies).1.isConfirmed = guarded.isConfirmed := by
  rw [writeSecret]
  split <;> rfl

omit [TotpCrates] in
theorem bound_of_unconfirmed (unconfirmed : guarded.isConfirmed = false) : Bound guarded := by
  intro confirmed
  exact Bool.noConfusion (unconfirmed.symm.trans confirmed)

omit [TotpCrates] in
theorem bound_writeSecret (unconfirmed : guarded.isConfirmed = false) :
    Bound (writeSecret guarded secret next replies).1 :=
  bound_of_unconfirmed (isConfirmed_writeSecret.trans unconfirmed)

theorem bound_serveEnrolment (bound : Bound guarded) (finds : Finds guarded stage) :
    Bound (serveEnrolment request replies guarded stage).1 := by
  cases stage with
  | enrolling =>
      cases request with
      | enrolTotp drawn => exact bound_writeSecret finds
      | confirmTotp code unixSeconds stamp hashes => exact bound
      | disableTotp => exact bound
  | secretWritten => exact bound_of_unconfirmed rfl
  | torn => exact bound_of_unconfirmed rfl
  | allowed => exact bound_of_unconfirmed rfl
  | tornCleared => exact bound_writeSecret finds
  | cleared => exact bound_writeSecret finds
  | proved secret step =>
      rw [serveEnrolment]
      unfold writeConfirmed
      split
      · exact fun _ => ⟨secret, finds, rfl⟩
      · exact bound
  | _ => exact bound

theorem eq_allowed_of_serveEnrolment (finds : Finds guarded stage)
    (confirmed : guarded.isConfirmed = true)
    (lost : (serveEnrolment request replies guarded stage).1.isConfirmed = false) :
    stage = .allowed := by
  cases stage with
  | allowed => rfl
  | secretWritten => exact Bool.noConfusion (finds.symm.trans confirmed)
  | torn => exact Bool.noConfusion (finds.symm.trans confirmed)
  | enrolling => exact Bool.noConfusion (finds.symm.trans confirmed)
  | tornCleared => exact Bool.noConfusion (finds.symm.trans confirmed)
  | cleared => exact Bool.noConfusion (finds.symm.trans confirmed)
  | proved secret step =>
      rw [serveEnrolment] at lost
      unfold writeConfirmed at lost
      split at lost
      · cases lost
      · exact Bool.noConfusion (lost.symm.trans confirmed)
  | _ => exact Bool.noConfusion (lost.symm.trans confirmed)

/-- Only what was asked to disable the factor comes to be disabling it. -/
def Disables (request : EnrolRequest) : EnrolStage → Prop
  | .disabling _ | .allowed => request = .disableTotp
  | _ => True

def Reaches (request : EnrolRequest) (replies : EnrolReplies) : EnrolStage → Prop
  | .disabling _ => request = .disableTotp
  | .allowed => request = .disableTotp ∧ replies.confirmation = true
  | _ => True

omit [TotpCrates] in
theorem Reaches.disables (reaches : Reaches request replies stage) : Disables request stage := by
  cases stage with
  | disabling required => exact reaches
  | allowed => exact reaches.1
  | _ => trivial

theorem reaches_serveEnrolment (disables : Disables request stage) :
    Reaches request replies (serveEnrolment request replies guarded stage).2 := by
  cases stage with
  | arrived =>
      cases request with
      | enrolTotp drawn =>
          rw [serveEnrolment, admitEnrolment]
          split <;> trivial
      | confirmTotp code unixSeconds stamp hashes =>
          rw [serveEnrolment, admitEnrolment]
          split
          · trivial
          · split <;> trivial
      | disableTotp => rfl
  | enrolling =>
      cases request with
      | enrolTotp drawn =>
          rw [serveEnrolment, writeSecret]
          split <;> trivial
      | confirmTotp code unixSeconds stamp hashes => trivial
      | disableTotp => trivial
  | confirming =>
      cases request with
      | confirmTotp code unixSeconds stamp hashes =>
          rw [serveEnrolment, proveCode]
          split
          · trivial
          · split
            · trivial
            · split <;> trivial
      | enrolTotp drawn => trivial
      | disableTotp => trivial
  | disabling required =>
      rw [serveEnrolment]
      dsimp only
      split
      · trivial
      · rename_i passes
        rw [Bool.or_eq_true, not_or, Bool.not_eq_true', Bool.not_eq_false] at passes
        exact ⟨disables, passes.1⟩
  | pendingWritten | tornDropped | confirmedWritten | dropped =>
      rw [serveEnrolment, persistTo]
      dsimp only
      split <;> trivial
  | tornCleared | cleared =>
      rw [serveEnrolment, writeSecret]
      split <;> trivial
  | proved secret step =>
      rw [serveEnrolment]
      unfold writeConfirmed
      split <;> trivial
  | _ => trivial

variable {ι : Type*} [DecidableEq ι]

def serveEnrolments (requests : ι → EnrolRequest) (party : ι) (replies : EnrolReplies)
    (guarded : GuardedFactor) (stage : EnrolStage) : GuardedFactor × EnrolStage :=
  serveEnrolment (requests party) replies guarded stage

def FindsWhatItRead (world : World GuardedFactor ι EnrolStage) (move : ι × EnrolReplies) : Prop :=
  Finds world.shared (world.progress move.1)

instance (world : World GuardedFactor ι EnrolStage) (move : ι × EnrolReplies) :
    Decidable (FindsWhatItRead world move) :=
  inferInstanceAs (Decidable (Finds world.shared (world.progress move.1)))

def enrolling (requests : ι → EnrolRequest) : Discipline GuardedFactor ι EnrolStage where
  common := Bound
  mine party _ stage := Disables (requests party) stage
  apart _ _ := True

omit [DecidableEq ι] in
theorem enrolling_kept {requests : ι → EnrolRequest} :
    (enrolling requests).KeptBy (serveEnrolments requests) FindsWhatItRead where
  symm := id
  common _ _ holds finds := bound_serveEnrolment holds.common finds
  mine _ move holds _ := (reaches_serveEnrolment (holds.mine move.1)).disables
  others _ _ holds _ other _ := holds.mine other
  apart _ _ _ _ _ _ := trivial

/-- **A confirmed factor is kept.** In a run whose writes find what their handlers decided on,
a confirmed enrolment has the secret it was confirmed with, and stops being confirmed only by
a request to disable it whose confirmation passed. -/
theorem keepsConfirmed (requests : ι → EnrolRequest) {start : World GuardedFactor ι EnrolStage}
    (bound : Bound start.shared) (arrived : ∀ party, start.progress party = .arrived)
    (moves : List (ι × EnrolReplies))
    (finds : Run.Admissible (turn (serveEnrolments requests)) FindsWhatItRead start moves) :
    ∀ world ∈ Run.states (turn (serveEnrolments requests)) start moves,
      Bound world.shared ∧
      ∀ move, FindsWhatItRead world move →
        (world.shared.isConfirmed = true →
          (turn (serveEnrolments requests) world move).shared.isConfirmed = false →
          requests move.1 = .disableTotp ∧ world.progress move.1 = .allowed) ∧
        ((turn (serveEnrolments requests) world move).progress move.1 = .allowed →
          move.2.confirmation = true) := by
  have initial : (enrolling requests).Holds start := by
    refine ⟨bound, fun party => ?_, fun _ _ _ => trivial⟩
    rw [arrived party]
    trivial
  intro world reached
  have holds := enrolling_kept.holds initial finds world reached
  refine ⟨holds.common, fun move found => ⟨fun confirmed lost => ?_, fun allowed => ?_⟩⟩
  · have stage := eq_allowed_of_serveEnrolment found confirmed lost
    have disables := holds.mine move.1
    rw [stage] at disables
    exact ⟨disables, stage⟩
  · rw [progress_turn_self] at allowed
    have reaches : Reaches (requests move.1) move.2
        (serveEnrolments requests move.1 move.2 world.shared (world.progress move.1)).2 :=
      reaches_serveEnrolment (holds.mine move.1)
    rw [allowed] at reaches
    exact reaches.2

end Totp

namespace Totp

open scoped Reference

/-- An enrolment that waits for its confirmation, with the secret of the reference vectors. -/
def enrolPending : World GuardedFactor Bool EnrolStage where
  shared := ⟨⟨some .pending, some "GEZDGNBVGY3TQOJQGEZDGNBVGY3TQOJQ"⟩, false, none⟩
  progress _ := .arrived

def enrolAndConfirm (enrols : Bool) : EnrolRequest :=
  if enrols then .enrolTotp (List.replicate 20 0)
  else .confirmTotp "287082" 59 "1970-01-01T00:00:59Z" (some [])

def allWell : EnrolReplies := ⟨true, true, true, true⟩

/-- A confirmation alone binds the factor. -/
theorem keepsConfirmed_alone :
    ((List.replicate 4 (false, allWell)).foldl (turn (serveEnrolments enrolAndConfirm))
        enrolPending).shared.isConfirmed = true ∧
      Bound ((List.replicate 4 (false, allWell)).foldl (turn (serveEnrolments enrolAndConfirm))
        enrolPending).shared := by
  refine ⟨by decide +kernel, ?_⟩
  have bound : Bound enrolPending.shared := bound_of_unconfirmed rfl
  exact (keepsConfirmed enrolAndConfirm bound (fun _ => rfl) _ (by decide +kernel) _
    (Run.foldl_mem_states enrolPending (List.replicate 4 (false, allWell)))).1

/-- An enrolment begun before the confirmation takes the confirmed factor away after it. -/
theorem not_keepsConfirmed : ¬∀ (requests : Bool → EnrolRequest)
    (start : World GuardedFactor Bool EnrolStage), Bound start.shared →
    (∀ party, start.progress party = .arrived) →
    ∀ moves, ∀ world ∈ Run.states (turn (serveEnrolments requests)) start moves, ∀ move,
      world.shared.isConfirmed = true →
      (turn (serveEnrolments requests) world move).shared.isConfirmed = false →
      requests move.1 = .disableTotp := by
  intro kept
  have disables := kept enrolAndConfirm enrolPending (bound_of_unconfirmed rfl) (fun _ => rfl)
    [(true, allWell), (false, allWell), (false, allWell), (false, allWell), (true, allWell)] _
    (Run.foldl_mem_states _ _) (true, allWell) (by decide +kernel) (by decide +kernel)
  cases disables

end Totp

end Chancela
