import Chancela.Core.Seal
import Chancela.Rules.Attendance
import Mathlib.Tactic.NormNum

/-! # Statute overlay

The findings derived from the statutes of an entity: each recorded resolution against the
majority, the attendance against the quorum, and the convening notice against the notice
period.
-/

namespace Chancela

namespace Date

def toJulianDay (date : Date) : Int :=
  let before := date.year - 1
  date.ordinal + 365 * before + before / 4 - before / 100 + before / 400 + 1721425

end Date

namespace ComplianceIssue

def error (ruleId message : String) : ComplianceIssue := ⟨ruleId, .error, message⟩

def warning (ruleId message : String) : ComplianceIssue := ⟨ruleId, .warning, message⟩

end ComplianceIssue

namespace StatuteOverrides

def majorityAlone (statute : StatuteOverrides) : StatuteOverrides := ⟨none, statute.majority, none⟩

def quorumAlone (statute : StatuteOverrides) : StatuteOverrides := ⟨statute.quorum, none, none⟩

def noticeAlone (statute : StatuteOverrides) : StatuteOverrides :=
  ⟨none, none, statute.convocationNoticeDays⟩

end StatuteOverrides

namespace Statute

/-- What the weighted attendance says of a resolution: the findings, the unit its votes were
counted in, and whether the partial weights have been reported. -/
structure WeightNotes where
  issues : List ComplianceIssue
  unit : Option String
  reported : Bool

def weightNotes (weighted : Option WeightedAttendanceSummary) (reported : Bool)
    (index total : Nat) :
    WeightNotes :=
  match weighted with
  | none => ⟨[], none, reported⟩
  | some summary =>
      if summary.hasWeightMetadata && !summary.isComplete then
        if reported then ⟨[], none, true⟩
        else ⟨[.warning "STATUTE/majority-weight-unverified"
          ("the statutes set a majority, but the attendance list has partial or mismatched " ++
            s!"{summary.kind.label} weights; weighted majority must be confirmed manually")],
          none, true⟩
      else if summary.canUseWeight then
        if total = summary.presentWeight then ⟨[], some summary.kind.label, reported⟩
        else if summary.hasWeightMetadata then
          ⟨[.warning "STATUTE/majority-weight-unverified"
            (s!"deliberation item {index + 1} records {total} total vote units, but the " ++
              s!"present/represented {summary.kind.label} total is {summary.presentWeight}; " ++
              "weighted majority must be confirmed manually")], none, reported⟩
        else ⟨[], none, reported⟩
      else ⟨[], none, reported⟩

def majorityIssue (majority : Majority) (unit : Option String) (index : Nat) (emFavor : UInt32)
    (total : Nat) : ComplianceIssue :=
  let unitNote := (unit.map fun unit => " " ++ unit ++ " vote units").getD ""
  .warning "STATUTE/majority"
    (s!"deliberation item {index + 1} carried with {emFavor}/{total}{unitNote} in favour, below " ++
      s!"the statutory majority of {majority.numerator}/{majority.denominator} (abstentions " ++
      "included in the recorded denominator)")

/-- A resolution against the majority, in `u128`. -/
def checkMajority (checks : OverflowChecks) (majority : Majority)
    (weighted : Option WeightedAttendanceSummary) (reported : Bool) (index : Nat)
    (item : DeliberationItem) : Option (List ComplianceIssue × Bool) :=
  match item.vote with
  | some (.recorded emFavor contra abstencoes) => do
      let both ← Machine.add checks 128 emFavor.toNat contra.toNat
      let total ← Machine.add checks 128 both abstencoes.toNat
      let notes := weightNotes weighted reported index total
      if 0 < total then
        let reached ← Machine.mul checks 128 emFavor.toNat majority.denominator.toNat
        let needed ← Machine.mul checks 128 majority.numerator.toNat total
        if reached < needed then
          return (notes.issues ++ [majorityIssue majority notes.unit index emFavor total],
            notes.reported)
        else return (notes.issues, notes.reported)
      else return (notes.issues, notes.reported)
  | _ => some ([], reported)

def checkMajorities (checks : OverflowChecks) (majority : Majority)
    (weighted : Option WeightedAttendanceSummary) :
    Bool → Nat → List DeliberationItem → Option (List ComplianceIssue)
  | _, _, [] => some []
  | reported, index, item :: rest => do
      let (issues, reported) ← checkMajority checks majority weighted reported index item
      return issues ++ (← checkMajorities checks majority weighted reported (index + 1) rest)

def FallsShort (majority : Majority) (emFavor : UInt32) (total : Nat) : Prop :=
  0 < total ∧ emFavor.toNat * majority.denominator.toNat < majority.numerator.toNat * total

instance {majority : Majority} {emFavor : UInt32} {total : Nat} :
    Decidable (FallsShort majority emFavor total) :=
  inferInstanceAs (Decidable (_ ∧ _))

theorem checkMajority_recorded {checks : OverflowChecks} {majority : Majority}
    {weighted : Option WeightedAttendanceSummary} {reported : Bool} {index : Nat}
    {item : DeliberationItem} {emFavor contra abstencoes : UInt32}
    (vote : item.vote = some (.recorded emFavor contra abstencoes)) :
    let total := emFavor.toNat + contra.toNat + abstencoes.toNat
    let notes := weightNotes weighted reported index total
    checkMajority checks majority weighted reported index item =
      some (notes.issues ++ (if FallsShort majority emFavor total then
        [majorityIssue majority notes.unit index emFavor total] else []), notes.reported) := by
  intro total notes
  have favor := emFavor.toNat_lt
  have against := contra.toNat_lt
  have neither := abstencoes.toNat_lt
  have both : Machine.add checks 128 emFavor.toNat contra.toNat =
      some (emFavor.toNat + contra.toNat) := Machine.narrow_of_lt (by omega)
  have all : Machine.add checks 128 (emFavor.toNat + contra.toNat) abstencoes.toNat = some total :=
    Machine.narrow_of_lt (by omega)
  have reached : Machine.mul checks 128 emFavor.toNat majority.denominator.toNat =
      some (emFavor.toNat * majority.denominator.toNat) :=
    Machine.narrow_of_lt
      ((Nat.mul_lt_mul'' favor majority.denominator.toNat_lt).trans (by norm_num))
  have needed : Machine.mul checks 128 majority.numerator.toNat total =
      some (majority.numerator.toNat * total) :=
    Machine.narrow_of_lt ((Nat.mul_lt_mul'' majority.numerator.toNat_lt
      (by omega : total < 2 ^ 34)).trans (by norm_num))
  unfold checkMajority
  simp only [vote, both, all, Option.bind_eq_bind, Option.bind_some]
  by_cases counted : 0 < total
  · rw [if_pos counted, reached, needed]
    simp only [Option.bind_some]
    by_cases short : emFavor.toNat * majority.denominator.toNat < majority.numerator.toNat * total
    · rw [if_pos short, if_pos ⟨counted, short⟩]
      rfl
    · rw [if_neg short, if_neg (fun falls => short falls.2), List.append_nil]
      rfl
  · rw [if_neg counted, if_neg (fun falls => counted falls.1), List.append_nil]
    rfl

theorem checkMajority_unrecorded {checks : OverflowChecks} {majority : Majority}
    {weighted : Option WeightedAttendanceSummary} {reported : Bool} {index : Nat}
    {item : DeliberationItem}
    (vote : ∀ emFavor contra abstencoes, item.vote ≠ some (.recorded emFavor contra abstencoes)) :
    checkMajority checks majority weighted reported index item = some ([], reported) := by
  unfold checkMajority
  split
  · next same => exact absurd same (vote _ _ _)
  · rfl

def majorityFindings (checks : OverflowChecks) (act : Act)
    (weighted : Option WeightedAttendanceSummary) (majority : Option Majority) :
    Option (List ComplianceIssue) :=
  match majority with
  | none => some []
  | some majority =>
      if majority.denominator = 0 then
        some [.warning "STATUTE/majority-invalid"
          ("the statutes configure a majority fraction with denominator 0; the majority overlay " ++
            "cannot be checked")]
      else checkMajorities checks majority weighted false 0 act.deliberationItems

/-- The finding where the weights stand for the attendance: `return issues` follows it. -/
def quorumByWeight (quorum : Quorum) (summary : WeightedAttendanceSummary) :
    Option (List ComplianceIssue) :=
  if summary.hasWeightMetadata && !summary.isComplete then
    some [.warning "STATUTE/quorum-weight-unverified"
      ("the statutes set a quorum, but the attendance list has partial or mismatched " ++
        s!"{summary.kind.label} weights; weighted quorum must be confirmed manually")]
  else if summary.canUseWeight then
    some (if summary.presentWeight < quorum.minPresent.toNat then
      [.warning "STATUTE/quorum"
        (s!"present/represented {summary.kind.label} ({summary.presentWeight}) is below the " ++
          s!"statutory quorum of {quorum.minPresent}")]
    else [])
  else none

def quorumByCount (quorum : Quorum) : Option Nat → List ComplianceIssue
  | none => [.warning "STATUTE/quorum-unverified"
      (s!"the statutes set a quorum of {quorum.minPresent} but no present/represented counts " ++
        "were captured; confirm the quorum manually")]
  | some present =>
      if present < quorum.minPresent.toNat then
        [.warning "STATUTE/quorum"
          (s!"present + represented ({present}) is below the statutory quorum of " ++
            s!"{quorum.minPresent}")]
      else []

/-- The quorum, if one is set, and whether the function returns there. -/
def quorumFindings (checks : OverflowChecks) (act : Act)
    (weighted : Option WeightedAttendanceSummary) (quorum : Option Quorum) :
    Option (List ComplianceIssue × Bool) :=
  match quorum with
  | none => some ([], false)
  | some quorum =>
      match weighted.bind (quorumByWeight quorum) with
      | some issues => some (issues, true)
      | none => do return (quorumByCount quorum (← act.attendanceCount checks), false)

/-- `statute_convocation_notice_antecedence_days`. -/
def convocationNoticeAntecedenceDays (act : Act) : Option Int := do
  let convening ← act.convening
  match convening.antecedenceDays with
  | some days => return days.toNat
  | none =>
      let dispatchDate ← convening.dispatchDate
      let meetingDate ← act.meetingDate
      return meetingDate.toJulianDay - dispatchDate.toJulianDay

def noticeFindings (act : Act) (required : Option UInt16) : List ComplianceIssue :=
  match required with
  | none => []
  | some requiredDays =>
      match convocationNoticeAntecedenceDays act with
      | none => [.warning "STATUTE/convocation-notice-unverified"
          (s!"the statutes record a convocation notice period of {requiredDays} days, but the " ++
            "act does not have enough recorded convening metadata to verify the local " ++
            "antecedence advisory")]
      | some actualDays =>
          if actualDays < requiredDays.toNat then
            [.warning "STATUTE/convocation-notice"
              (s!"recorded convening notice antecedence ({actualDays} days) is below the " ++
                s!"statutory notice period recorded for this entity ({requiredDays} days); this " ++
                "is a local advisory over statute and convening metadata only")]
          else []

/-- The weighted attendance of an act, for the unit of its entity. -/
def weightedAttendance (checks : OverflowChecks) (act : Act) (entity : Option Entity) :
    Option (Option WeightedAttendanceSummary) :=
  match entity.bind WeightKind.forEntity with
  | none => some none
  | some kind => act.attendanceSummary checks kind

def statuteFindingsInner (checks : OverflowChecks) (act : Act) (entity : Option Entity)
    (statute : StatuteOverrides) : Option (List ComplianceIssue) := do
  let weighted ← weightedAttendance checks act entity
  let majority ← majorityFindings checks act weighted statute.majority
  let (quorum, returned) ← quorumFindings checks act weighted statute.quorum
  if returned then return majority ++ quorum
  return majority ++ quorum ++ noticeFindings act statute.convocationNoticeDays

def statuteFindings (checks : OverflowChecks) (act : Act) (statute : StatuteOverrides) :
    Option (List ComplianceIssue) :=
  statuteFindingsInner checks act none statute

def statuteFindingsForEntity (checks : OverflowChecks) (act : Act) (entity : Entity)
    (statute : StatuteOverrides) : Option (List ComplianceIssue) :=
  statuteFindingsInner checks act (some entity) statute

section Independence

variable {checks : OverflowChecks} {act : Act} {entity : Entity} {statute : StatuteOverrides}
  {weighted : Option WeightedAttendanceSummary}

theorem exists_checkMajorities (checks : OverflowChecks) (majority : Majority)
    (weighted : Option WeightedAttendanceSummary) (items : List DeliberationItem)
    (reported : Bool) (index : Nat) :
    ∃ issues, checkMajorities checks majority weighted reported index items = some issues := by
  induction items generalizing reported index with
  | nil => exact ⟨[], rfl⟩
  | cons item rest ih =>
      have first : ∃ result, checkMajority checks majority weighted reported index item =
          some result := by
        by_cases vote : ∃ emFavor contra abstencoes,
            item.vote = some (.recorded emFavor contra abstencoes)
        · obtain ⟨emFavor, contra, abstencoes, vote⟩ := vote
          exact ⟨_, checkMajority_recorded vote⟩
        · exact ⟨_, checkMajority_unrecorded fun emFavor contra abstencoes same =>
            vote ⟨emFavor, contra, abstencoes, same⟩⟩
      obtain ⟨⟨issues, reported'⟩, first⟩ := first
      obtain ⟨others, later⟩ := ih reported' (index + 1)
      refine ⟨issues ++ others, ?_⟩
      rw [checkMajorities, first]
      simp only [Option.bind_eq_bind, Option.bind_some]
      rw [later]
      rfl

theorem exists_majorityFindings (checks : OverflowChecks) (act : Act)
    (weighted : Option WeightedAttendanceSummary) (majority : Option Majority) :
    ∃ issues, majorityFindings checks act weighted majority = some issues := by
  unfold majorityFindings
  cases majority with
  | none => exact ⟨[], rfl⟩
  | some majority =>
      by_cases zero : majority.denominator = 0
      · exact ⟨_, if_pos zero⟩
      · obtain ⟨issues, found⟩ := exists_checkMajorities checks majority weighted
          act.deliberationItems false 0
        exact ⟨issues, (if_neg zero).trans found⟩

/-- The weights of the attendance stand for its counts: partial ones, or complete ones. -/
def WeightsDecide (checks : OverflowChecks) (act : Act) (entity : Option Entity) : Prop :=
  ∃ summary, weightedAttendance checks act entity = some (some summary) ∧
    ((summary.hasWeightMetadata && !summary.isComplete) || summary.canUseWeight) = true

/-- No notice period is set, or the recorded antecedence reaches it. -/
def NoticeMet (act : Act) (required : Option UInt16) : Prop :=
  ∀ days, required = some days →
    ∃ actual, convocationNoticeAntecedenceDays act = some actual ∧ (days.toNat : Int) ≤ actual

/-- What the three overlays find, each on its own, one after the other. -/
def separateFindings (checks : OverflowChecks) (act : Act) (entity : Entity)
    (statute : StatuteOverrides) : Option (List ComplianceIssue) := do
  let majority ← statuteFindingsForEntity checks act entity statute.majorityAlone
  let quorum ← statuteFindingsForEntity checks act entity statute.quorumAlone
  let notice ← statuteFindingsForEntity checks act entity statute.noticeAlone
  return majority ++ quorum ++ notice

theorem noticeFindings_eq_nil_iff {required : Option UInt16} :
    noticeFindings act required = [] ↔ NoticeMet act required := by
  unfold noticeFindings NoticeMet
  cases required with
  | none => simp
  | some days =>
      cases convocationNoticeAntecedenceDays act with
      | none => simp
      | some actual =>
          by_cases short : actual < days.toNat
          · simp [short]
          · simp [short, Int.not_lt.mp short]

theorem quorumByWeight_isSome_iff {quorum : Quorum} {summary : WeightedAttendanceSummary} :
    (quorumByWeight quorum summary).isSome ↔
      ((summary.hasWeightMetadata && !summary.isComplete) || summary.canUseWeight) = true := by
  unfold quorumByWeight
  split
  · next partly => simp [partly]
  · next whole =>
      split
      · next usable => simp [usable]
      · next unusable => simp [Bool.not_eq_true _ ▸ whole, unusable]

theorem statuteFindingsInner_eq {entity : Option Entity} {majority : List ComplianceIssue}
    (weighing : weightedAttendance checks act entity = some weighted)
    (found : majorityFindings checks act weighted statute.majority = some majority) :
    statuteFindingsInner checks act entity statute =
      (quorumFindings checks act weighted statute.quorum).map fun quorum =>
        majority ++ quorum.1 ++
          if quorum.2 then [] else noticeFindings act statute.convocationNoticeDays := by
  unfold statuteFindingsInner
  rw [weighing]
  simp only [Option.bind_eq_bind, Option.bind_some, found]
  cases quorumFindings checks act weighted statute.quorum with
  | none => rfl
  | some quorum =>
      obtain ⟨issues, returned⟩ := quorum
      cases returned with
      | false => rfl
      | true => exact congrArg some (List.append_nil _).symm

theorem separateFindings_eq {majority : List ComplianceIssue}
    (weighing : weightedAttendance checks act (some entity) = some weighted)
    (found : majorityFindings checks act weighted statute.majority = some majority) :
    separateFindings checks act entity statute =
      (quorumFindings checks act weighted statute.quorum).map fun quorum =>
        majority ++ quorum.1 ++ noticeFindings act statute.convocationNoticeDays := by
  have alone : statuteFindingsForEntity checks act entity statute.majorityAlone =
    some majority := by
    have joined : statuteFindingsForEntity checks act entity statute.majorityAlone =
        some (majority ++ [] ++ []) := statuteFindingsInner_eq weighing found
    rw [joined, List.append_nil, List.append_nil]
  have quorum : statuteFindingsForEntity checks act entity statute.quorumAlone =
      (quorumFindings checks act weighted statute.quorum).map Prod.fst := by
    have joined : statuteFindingsForEntity checks act entity statute.quorumAlone =
        (quorumFindings checks act weighted statute.quorum).map fun quorum =>
          [] ++ quorum.1 ++ if quorum.2 then [] else [] := statuteFindingsInner_eq weighing rfl
    rw [joined]
    simp only [ite_self, List.append_nil, List.nil_append]
  have notice : statuteFindingsForEntity checks act entity statute.noticeAlone =
      some (noticeFindings act statute.convocationNoticeDays) :=
    @statuteFindingsInner_eq checks act statute.noticeAlone weighted (some entity) [] weighing rfl
  unfold separateFindings
  rw [alone, quorum, notice]
  cases quorumFindings checks act weighted statute.quorum <;> rfl

theorem panics_undecided {quorum : Option Quorum} {party : Option Entity}
    (weighing : weightedAttendance checks act party = some weighted)
    (panicked : quorumFindings checks act weighted quorum = none) :
    ¬WeightsDecide checks act party := by
  rintro ⟨summary, same, decides⟩
  obtain rfl := Option.some.inj (weighing.symm.trans same)
  cases quorum with
  | none => cases panicked
  | some quorum =>
      obtain ⟨issues, found⟩ := Option.isSome_iff_exists.mp
        ((@quorumByWeight_isSome_iff quorum summary).mpr decides)
      unfold quorumFindings at panicked
      dsimp only at panicked
      rw [Option.bind_some, found] at panicked
      cases panicked

theorem returned_iff {quorum : Option Quorum} {party : Option Entity}
    {found : List ComplianceIssue × Bool}
    (weighing : weightedAttendance checks act party = some weighted)
    (issued : quorumFindings checks act weighted quorum = some found) :
    found.2 = true ↔ quorum ≠ none ∧ WeightsDecide checks act party := by
  cases quorum with
  | none =>
      cases issued
      exact iff_of_false Bool.false_ne_true fun returned => returned.1 rfl
  | some quorum =>
      unfold quorumFindings at issued
      dsimp only at issued
      cases weight : weighted.bind (quorumByWeight quorum) with
      | some issues =>
          rw [weight] at issued
          cases issued
          obtain ⟨summary, same, stands⟩ := Option.bind_eq_some_iff.mp weight
          refine iff_of_true rfl ⟨nofun, summary, weighing.trans (congrArg some same), ?_⟩
          exact quorumByWeight_isSome_iff.mp (Option.isSome_of_eq_some stands)
      | none =>
          rw [weight] at issued
          obtain ⟨count, -, counted⟩ := Option.bind_eq_some_iff.mp issued
          cases counted
          refine iff_of_false Bool.false_ne_true ?_
          rintro ⟨-, summary, same, decides⟩
          obtain rfl := Option.some.inj (weighing.symm.trans same)
          have stands := (@quorumByWeight_isSome_iff quorum summary).mpr decides
          rw [Option.bind_some] at weight
          rw [weight] at stands
          cases stands

/-- **Each overlay is independent of the others** but for a notice period that is not met where
the weights of the attendance decide the quorum: the function returns there. -/
theorem findings_eq_separate_iff (checks : OverflowChecks) (act : Act) (entity : Entity)
    (statute : StatuteOverrides) :
    statuteFindingsForEntity checks act entity statute =
    separateFindings checks act entity statute ↔
      statute.quorum = none ∨ NoticeMet act statute.convocationNoticeDays ∨
        ¬WeightsDecide checks act (some entity) := by
  cases weighing : weightedAttendance checks act (some entity) with
  | none =>
      have panics (settings : StatuteOverrides) :
          statuteFindingsForEntity checks act entity settings = none := by
        unfold statuteFindingsForEntity statuteFindingsInner
        rw [weighing]
        rfl
      refine iff_of_true ?_ (.inr (.inr ?_))
      · rw [separateFindings, panics, panics]
        rfl
      · rintro ⟨summary, decided, -⟩
        rw [weighing] at decided
        cases decided
  | some weighted =>
      obtain ⟨majority, found⟩ := exists_majorityFindings checks act weighted statute.majority
      rw [statuteFindingsForEntity, statuteFindingsInner_eq weighing found,
        separateFindings_eq weighing found, ← noticeFindings_eq_nil_iff]
      cases issued : quorumFindings checks act weighted statute.quorum with
      | none =>
          refine iff_of_true rfl ?_
          -- only the counts can panic, and they are read where the weights decide nothing
          exact .inr (.inr fun decide => panics_undecided weighing issued decide)
      | some quorum =>
          have returned := returned_iff weighing issued
          obtain ⟨issues, stopped⟩ := quorum
          rw [Option.map_some, Option.map_some, Option.some_inj, List.append_cancel_left_eq]
          cases stopped with
          | false =>
              refine iff_of_true rfl ?_
              by_cases unset : statute.quorum = none
              · exact .inl unset
              · exact .inr (.inr fun decide => Bool.false_ne_true (returned.mpr ⟨unset, decide⟩))
          | true =>
              obtain ⟨set, decide⟩ := returned.mp rfl
              rw [if_pos rfl, eq_comm]
              exact ⟨fun met => .inr (.inl met), fun independent =>
                independent.elim (fun unset => absurd unset set) fun met =>
                  met.elim id fun undecided => absurd decide undecided⟩

def weighedAct : Act :=
  { Act.newDraft ⟨1#128⟩ ⟨1#128⟩ "Ata 1" .physical with
    attendees := [⟨"Amélia Marques", .member, none, .inPerson, none, some (.capital 100)⟩] }

/-- A quorum that the weights reach silences the notice period. -/
theorem quorum_silences_notice :
    statuteFindingsForEntity .on weighedAct quotasEntity ⟨some ⟨1⟩, none, some 21⟩ = some [] ∧
      (separateFindings .on weighedAct quotasEntity ⟨some ⟨1⟩, none, some 21⟩).map
          (List.map (·.ruleId)) = some ["STATUTE/convocation-notice-unverified"] ∧
      statuteFindingsForEntity .on weighedAct quotasEntity ⟨some ⟨1⟩, none, some 21⟩ ≠
        separateFindings .on weighedAct quotasEntity ⟨some ⟨1⟩, none, some 21⟩ :=
  ⟨rfl, rfl, nofun⟩

end Independence

end Statute

end Chancela
