import Chancela.Core.Act
import Chancela.Foundation.Checked
import Mathlib.Tactic.NormNum

/-! # Attendance

The weights and the counts that the rule packs read off the attendance of an act. Rows are
counted in `u32` and weights added up in `u128`; an index of a vector fits its `usize`.
-/

namespace Chancela

inductive WeightKind where
  | capital
  | permilage
deriving DecidableEq

namespace WeightKind

def forEntity (entity : Entity) : Option WeightKind :=
  match entity.family with
  | .commercialCompany => some capital
  | .condominium => some permilage
  | .association | .foundation | .cooperative => none

def label : WeightKind → String
  | capital => "capital"
  | permilage => "permilagem"

def voteTotalRule (lead : String) : WeightKind → String
  | capital => lead ++ "/capital-vote-total"
  | permilage => lead ++ "/permilage-vote-total"

def partialRule (lead : String) : WeightKind → String
  | capital => lead ++ "/capital-weights-partial"
  | permilage => lead ++ "/permilage-weights-partial"

end WeightKind

def AttendanceWeight.units : WeightKind → AttendanceWeight → Option Nat
  | .capital, .capital units => some units.toNat
  | .permilage, .permilage share => some share.toNat
  | _, _ => none

structure WeightedAttendanceSummary where
  kind : WeightKind
  presentRows : Nat
  presentWeight : Nat
  expectedWeightRows : Nat
  otherWeightRows : Nat
  missingWeightRows : Nat
deriving DecidableEq

namespace WeightedAttendanceSummary

def hasWeightMetadata (summary : WeightedAttendanceSummary) : Bool :=
  0 < summary.expectedWeightRows || 0 < summary.otherWeightRows

def isComplete (summary : WeightedAttendanceSummary) : Bool :=
  summary.otherWeightRows == 0 && summary.missingWeightRows == 0

def canUseWeight (summary : WeightedAttendanceSummary) : Bool :=
  summary.isComplete && 0 < summary.expectedWeightRows &&
    summary.expectedWeightRows == summary.presentRows

def record (checks : OverflowChecks) (summary : WeightedAttendanceSummary) (attendee : Attendee) :
    Option WeightedAttendanceSummary := do
  let presentRows ← Machine.add checks 32 summary.presentRows 1
  let summary := { summary with presentRows }
  match attendee.weight with
  | some weight =>
      match weight.units summary.kind with
      | some units =>
          let expectedWeightRows ← Machine.add checks 32 summary.expectedWeightRows 1
          let presentWeight ← Machine.add checks 128 summary.presentWeight units
          some { summary with expectedWeightRows, presentWeight }
      | none =>
          let otherWeightRows ← Machine.add checks 32 summary.otherWeightRows 1
          some { summary with otherWeightRows }
  | none =>
      let missingWeightRows ← Machine.add checks 32 summary.missingWeightRows 1
      some { summary with missingWeightRows }

/-- What so many rows can have counted. -/
structure Bounded (summary : WeightedAttendanceSummary) (rows : Nat) : Prop where
  presentRows : summary.presentRows ≤ rows
  presentWeight : summary.presentWeight ≤ rows * 2 ^ 64
  expectedWeightRows : summary.expectedWeightRows ≤ rows
  otherWeightRows : summary.otherWeightRows ≤ rows
  missingWeightRows : summary.missingWeightRows ≤ rows

variable {summary : WeightedAttendanceSummary} {rows : Nat}

theorem units_lt {kind : WeightKind} {weight : AttendanceWeight} {units : Nat}
    (read : weight.units kind = some units) : units < 2 ^ 64 := by
  cases kind <;> cases weight <;> cases read
  · exact UInt64.toNat_lt _
  · exact (UInt32.toNat_lt _).trans (by norm_num)

theorem Bounded.record (bounded : summary.Bounded rows) (room : rows + 1 < 2 ^ 32)
    (attendee : Attendee) :
    ∃ next : WeightedAttendanceSummary, next.Bounded (rows + 1) ∧
      ∀ checks, summary.record checks attendee = some next := by
  obtain ⟨present, weight, expected, other, missing⟩ := bounded
  have row {count : Nat} (counted : count ≤ rows) {checks : OverflowChecks} :
      Machine.add checks 32 count 1 = some (count + 1) :=
    Machine.narrow_of_lt ((Nat.add_le_add_right counted 1).trans_lt room)
  have wider : rows ≤ rows + 1 := Nat.le_succ rows
  have heavier : summary.presentWeight ≤ (rows + 1) * 2 ^ 64 :=
    weight.trans (Nat.mul_le_mul_right _ wider)
  unfold WeightedAttendanceSummary.record
  simp only [row present, Option.bind_eq_bind, Option.bind_some]
  cases attendee.weight with
  | none =>
      simp only [row missing, Option.bind_some]
      refine ⟨_, ?_, fun _ => rfl⟩
      exact ⟨Nat.succ_le_succ present, heavier, expected.trans wider, other.trans wider,
        Nat.succ_le_succ missing⟩
  | some entry =>
      cases read : entry.units summary.kind with
      | none =>
          simp only [read, row other, Option.bind_some]
          refine ⟨_, ?_, fun _ => rfl⟩
          exact ⟨Nat.succ_le_succ present, heavier, expected.trans wider, Nat.succ_le_succ other,
            missing.trans wider⟩
      | some units =>
          have small : units < 2 ^ 64 := units_lt read
          have total {checks : OverflowChecks} :
              Machine.add checks 128 summary.presentWeight units =
                some (summary.presentWeight + units) :=
            Machine.narrow_of_lt (by omega)
          simp only [read, row expected, total, Option.bind_some]
          have heavier : summary.presentWeight + units ≤ (rows + 1) * 2 ^ 64 := by
            rw [Nat.succ_mul]
            exact Nat.add_le_add weight small.le
          refine ⟨_, ?_, fun _ => rfl⟩
          exact ⟨Nat.succ_le_succ present, heavier, Nat.succ_le_succ expected, other.trans wider,
            missing.trans wider⟩

theorem Bounded.records {attendees : List Attendee} (bounded : summary.Bounded rows)
    (room : rows + attendees.length < 2 ^ 32) :
    ∃ next, ∀ checks, attendees.foldlM
      (WeightedAttendanceSummary.record checks) summary = some next := by
  induction attendees generalizing summary rows with
  | nil => exact ⟨summary, fun _ => rfl⟩
  | cons attendee rest ih =>
      rw [List.length_cons] at room
      obtain ⟨next, counted, step⟩ := bounded.record (by omega) attendee
      obtain ⟨final, run⟩ := ih counted (by omega)
      refine ⟨final, fun checks => ?_⟩
      rw [List.foldlM_cons, step checks]
      exact run checks

end WeightedAttendanceSummary

namespace Act

def presentAttendees (act : Act) : List Attendee :=
  act.attendees.filter fun attendee => attendee.presence ≠ .absent

def attendanceSummary (checks : OverflowChecks) (act : Act) (kind : WeightKind) :
    Option (Option WeightedAttendanceSummary) :=
  if act.attendees = [] then some none
  else (act.presentAttendees.foldlM (WeightedAttendanceSummary.record checks)
    ⟨kind, 0, 0, 0, 0, 0⟩).map some

/-- The number of present rows, `as u32`. -/
def presentRowCount (act : Act) : Nat := act.presentAttendees.length % 2 ^ 32

/-- `members_present.unwrap_or(0) + members_represented.unwrap_or(0)`, over the integers. -/
def memberCount (act : Act) : Nat :=
  (act.membersPresent.getD 0).toNat + (act.membersRepresented.getD 0).toNat

def attendanceCount (checks : OverflowChecks) (act : Act) : Option (Option Nat) :=
  match act.membersPresent, act.membersRepresented with
  | none, none => some (if act.attendees = [] then none else some act.presentRowCount)
  | _, _ => (Machine.narrow checks 32 act.memberCount).map some

variable {act : Act} {checks : OverflowChecks}

/-- The weights of fewer than `2 ^ 32` rows add up within their types, in every build. -/
theorem exists_attendanceSummary (few : act.attendees.length < 2 ^ 32) (kind : WeightKind) :
    ∃ summary, ∀ checks, act.attendanceSummary checks kind = some summary := by
  unfold attendanceSummary
  by_cases unlisted : act.attendees = []
  · exact ⟨none, fun _ => if_pos unlisted⟩
  · have room : 0 + act.presentAttendees.length < 2 ^ 32 := by
      rw [Nat.zero_add]
      exact (List.length_filter_le ..).trans_lt few
    have nothing : (⟨kind, 0, 0, 0, 0, 0⟩ : WeightedAttendanceSummary).Bounded 0 :=
      ⟨le_rfl, Nat.zero_le _, le_rfl, le_rfl, le_rfl⟩
    obtain ⟨summary, run⟩ := nothing.records room
    exact ⟨some summary, fun checks => by rw [if_neg unlisted, run checks, Option.map_some]⟩

/-- The attendance over the integers: the recorded counts, or else the rows of the list. -/
def attendanceNumber (act : Act) : Option Nat :=
  match act.membersPresent, act.membersRepresented with
  | none, none => if act.attendees = [] then none else some act.presentAttendees.length
  | _, _ => some act.memberCount

theorem attendanceCount_eq (few : act.attendees.length < 2 ^ 32) (fits : act.memberCount < 2 ^ 32) :
    act.attendanceCount checks = some act.attendanceNumber := by
  have rows : act.presentRowCount = act.presentAttendees.length :=
    Nat.mod_eq_of_lt ((List.length_filter_le ..).trans_lt few)
  unfold attendanceCount attendanceNumber
  rw [rows, Machine.narrow_of_lt fits]
  cases act.membersPresent <;> cases act.membersRepresented <;> rfl

end Act

def VoteResult.recordedVoteTotal (checks : OverflowChecks) : VoteResult → Option (Option Nat)
  | .recorded emFavor contra abstencoes => do
      let both ← Machine.add checks 128 emFavor.toNat contra.toNat
      return some (← Machine.add checks 128 both abstencoes.toNat)
  | .unanimous => some none

end Chancela
