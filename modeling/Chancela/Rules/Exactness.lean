import Chancela.Rules.Packs

/-! # Compliance arithmetic over the integers

The sums and products of the rule packs and of the statute overlay, held to the integers. Rows
and weights add up within their types, and so do the products of a majority. The counts of an
act are added in `u32`, so that all is exact just where their sum fits
(`Chancela.Statute.exact_iff`).
-/

namespace Chancela

variable {act : Act} {entity : Entity} {statute : StatuteOverrides} {checks : OverflowChecks}

/-! ### The packs -/

theorem exists_recordedVoteTotal (checks : OverflowChecks) (vote : VoteResult) :
    ∃ total, vote.recordedVoteTotal checks = some total := by
  cases vote with
  | unanimous => exact ⟨none, rfl⟩
  | recorded emFavor contra abstencoes =>
      have favor := emFavor.toNat_lt
      have against := contra.toNat_lt
      have neither := abstencoes.toNat_lt
      have both : Machine.add checks 128 emFavor.toNat contra.toNat =
          some (emFavor.toNat + contra.toNat) := Machine.narrow_of_lt (by omega)
      have all : Machine.add checks 128 (emFavor.toNat + contra.toNat) abstencoes.toNat =
          some (emFavor.toNat + contra.toNat + abstencoes.toNat) :=
        Machine.narrow_of_lt (by omega)
      refine ⟨some (emFavor.toNat + contra.toNat + abstencoes.toNat), ?_⟩
      unfold VoteResult.recordedVoteTotal
      simp only [both, all, Option.bind_eq_bind, Option.bind_some]
      rfl

namespace Rules

theorem exists_recordedTotal (checks : OverflowChecks) (item : DeliberationItem) :
    ∃ total, recordedTotal checks item = some total := by
  unfold recordedTotal
  cases item.vote with
  | none => exact ⟨none, rfl⟩
  | some vote => exact exists_recordedVoteTotal checks vote

theorem exists_recordedTotals (checks : OverflowChecks) (items : List DeliberationItem) :
    ∃ totals, items.mapM (recordedTotal checks) = some totals := by
  induction items with
  | nil => exact ⟨[], rfl⟩
  | cons item rest ih =>
      obtain ⟨totals, later⟩ := ih
      obtain ⟨total, counted⟩ := exists_recordedTotal checks item
      exact ⟨total :: totals, by rw [List.mapM_cons, counted, later]; rfl⟩

/-- The weights of fewer than `2 ^ 32` rows are compared without a panic. -/
theorem exists_weightedVoteWarnings (few : act.attendees.length < 2 ^ 32) (checks : OverflowChecks)
    (entity : Entity) (lead : String) :
    ∃ issues, weightedVoteWarnings checks act entity lead = some issues := by
  unfold weightedVoteWarnings
  cases WeightKind.forEntity entity with
  | none => exact ⟨[], rfl⟩
  | some kind =>
      obtain ⟨summary, added⟩ := Act.exists_attendanceSummary few kind
      dsimp only
      rw [added checks]
      simp only [Option.bind_eq_bind, Option.bind_some]
      cases summary with
      | none => exact ⟨[], rfl⟩
      | some summary =>
          obtain ⟨totals, counted⟩ := exists_recordedTotals checks act.deliberationItems
          dsimp only
          rw [counted]
          simp only [Option.bind_some]
          split
          · exact ⟨_, rfl⟩
          · split
            · exact ⟨_, rfl⟩
            · split <;> exact ⟨_, rfl⟩

theorem isSome_attendanceCountMismatchWarning_iff {lead : String} :
    (attendanceCountMismatchWarning .on act lead).isSome ↔ act.memberCount < 2 ^ 32 := by
  unfold attendanceCountMismatchWarning
  by_cases fits : act.memberCount < 2 ^ 32
  · rw [Machine.narrow_of_lt fits]
    simp only [Option.bind_eq_bind, Option.bind_some]
    refine iff_of_true ?_ fits
    split
    · rfl
    · split <;> rfl
  · have panics : Machine.narrow .on 32 act.memberCount = none :=
      Option.not_isSome_iff_eq_none.mp (mt Machine.isSome_narrow_on_iff.mp fits)
    rw [panics]
    exact iff_of_false Bool.false_ne_true fits

end Rules

namespace FamilyPack

variable [PrintTables]

theorem isSome_checkAct (few : act.attendees.length < 2 ^ 32) (fits : act.memberCount < 2 ^ 32)
    (entity : Entity) (validated : Bool) (pack : FamilyPack) :
    (pack.checkAct .on act entity validated).isSome := by
  obtain ⟨csc, weighed⟩ := Rules.exists_weightedVoteWarnings few .on entity "CSC-63"
  obtain ⟨condominium, weighed'⟩ := Rules.exists_weightedVoteWarnings few .on entity "DL268"
  obtain ⟨mismatch, counted⟩ := Option.isSome_iff_exists.mp
    ((@Rules.isSome_attendanceCountMismatchWarning_iff act "DL268").mpr fits)
  cases pack with
  | cscArt63 =>
      unfold checkAct
      rw [weighed]
      rfl
  | condominio =>
      unfold checkAct
      rw [weighed', counted]
      rfl
  | associacao => rfl
  | fundacao => rfl
  | cooperativa => rfl

theorem fits_of_isSome_condominio (entity : Entity) (validated : Bool)
    (done : (condominio.checkAct .on act entity validated).isSome) : act.memberCount < 2 ^ 32 := by
  refine (@Rules.isSome_attendanceCountMismatchWarning_iff act "DL268").mp ?_
  unfold checkAct at done
  cases counted : Rules.attendanceCountMismatchWarning .on act "DL268" with
  | some mismatch => rfl
  | none =>
      rw [counted] at done
      cases weighed : Rules.weightedVoteWarnings .on act entity "DL268" with
      | none =>
          rw [weighed] at done
          cases done
      | some issues =>
          rw [weighed] at done
          cases done

end FamilyPack

namespace Statute

/-- What a resolution falls short with: the votes in favour and the total. -/
def shortfall (majority : Majority) (item : DeliberationItem) : Option (UInt32 × Nat) :=
  match item.vote with
  | some (.recorded emFavor contra abstencoes) =>
      let total := emFavor.toNat + contra.toNat + abstencoes.toNat
      if FallsShort majority emFavor total then some (emFavor, total) else none
  | _ => none

def shortfalls (majority : Majority) : Nat → List DeliberationItem → List (Nat × UInt32 × Nat)
  | _, [] => []
  | index, item :: rest =>
      ((shortfall majority item).map (Prod.mk index)).toList ++ shortfalls majority (index + 1) rest

def belowMajority (statute : StatuteOverrides) (act : Act) : List (Nat × UInt32 × Nat) :=
  match statute.majority with
  | none => []
  | some majority =>
      if majority.denominator = 0 then [] else shortfalls majority 0 act.deliberationItems

def Reports (majority : Majority) (issue : ComplianceIssue) (short : Nat × UInt32 × Nat) : Prop :=
  ∃ unit, issue = majorityIssue majority unit short.1 short.2.1 short.2.2

def underRule (rule : String) (issues : List ComplianceIssue) : List ComplianceIssue :=
  issues.filter (·.ruleId = rule)

theorem underRule_append {rule : String} {first second : List ComplianceIssue} :
    underRule rule (first ++ second) = underRule rule first ++ underRule rule second :=
  List.filter_append ..

variable {weighted : Option WeightedAttendanceSummary} {majority : Majority}

theorem weightNotes_issues (weighted : Option WeightedAttendanceSummary) (reported : Bool)
    (index total : Nat) :
    (weightNotes weighted reported index total).issues = [] ∨
      ∃ text, (weightNotes weighted reported index total).issues =
        [.warning "STATUTE/majority-weight-unverified" text] := by
  unfold weightNotes
  repeat' split
  all_goals first | exact .inl rfl | exact .inr ⟨_, rfl⟩

theorem underRule_weightNotes {reported : Bool} {index total : Nat} :
    underRule "STATUTE/majority" (weightNotes weighted reported index total).issues = [] := by
  obtain nothing | ⟨text, noted⟩ := weightNotes_issues weighted reported index total
  · rw [nothing]
    rfl
  · rw [noted]
    rfl

variable {issues : List ComplianceIssue}

theorem reports_checkMajority {item : DeliberationItem} {reported reported' : Bool} {index : Nat}
    (found : checkMajority checks majority weighted reported index item = some (issues, reported')) :
    List.Forall₂ (Reports majority) (underRule "STATUTE/majority" issues)
      ((shortfall majority item).map (Prod.mk index)).toList := by
  by_cases vote : ∃ emFavor contra abstencoes,
      item.vote = some (.recorded emFavor contra abstencoes)
  · obtain ⟨emFavor, contra, abstencoes, vote⟩ := vote
    rw [checkMajority_recorded vote] at found
    obtain ⟨rfl, -⟩ := Prod.mk.inj (Option.some.inj found)
    unfold shortfall
    rw [vote, underRule_append, underRule_weightNotes, List.nil_append]
    dsimp only
    by_cases short : FallsShort majority emFavor (emFavor.toNat + contra.toNat + abstencoes.toNat)
    · rw [if_pos short, if_pos short]
      exact .cons ⟨_, rfl⟩ .nil
    · rw [if_neg short, if_neg short]
      exact .nil
  · have unrecorded (emFavor contra abstencoes) :
        item.vote ≠ some (.recorded emFavor contra abstencoes) :=
      fun same => vote ⟨emFavor, contra, abstencoes, same⟩
    rw [checkMajority_unrecorded unrecorded] at found
    cases found
    have none : shortfall majority item = none := by
      unfold shortfall
      split
      · next same => exact absurd same (unrecorded _ _ _)
      · rfl
    rw [none]
    exact .nil

theorem reports_checkMajorities (items : List DeliberationItem) {reported : Bool} {index : Nat}
    (found : checkMajorities checks majority weighted reported index items = some issues) :
    List.Forall₂ (Reports majority) (underRule "STATUTE/majority" issues)
      (shortfalls majority index items) := by
  induction items generalizing reported index issues with
  | nil =>
      cases found
      exact .nil
  | cons item rest ih =>
      obtain ⟨⟨first, reported'⟩, checked, found⟩ := Option.bind_eq_some_iff.mp found
      obtain ⟨later, others, found⟩ := Option.bind_eq_some_iff.mp found
      cases found
      rw [underRule_append, shortfalls]
      exact List.rel_append (reports_checkMajority checked) (ih others)

theorem reports_majorityFindings
    (found : majorityFindings checks act weighted statute.majority = some issues) :
    List.Forall₂ (fun issue short => ∃ majority, statute.majority = some majority ∧
      Reports majority issue short) (underRule "STATUTE/majority" issues)
      (belowMajority statute act) := by
  unfold majorityFindings at found
  unfold belowMajority
  cases set : statute.majority with
  | none =>
      rw [set] at found
      cases found
      exact .nil
  | some majority =>
      rw [set] at found
      dsimp only at found ⊢
      by_cases zero : majority.denominator = 0
      · rw [if_pos zero] at found ⊢
        cases found
        exact .nil
      · rw [if_neg zero] at found ⊢
        exact (reports_checkMajorities _ found).imp fun _ _ reports => ⟨majority, rfl, reports⟩

theorem quorum_checkMajorities (items : List DeliberationItem) {reported : Bool} {index : Nat}
    (found : checkMajorities checks majority weighted reported index items = some issues) :
    underRule "STATUTE/quorum" issues = [] := by
  induction items generalizing reported index issues with
  | nil =>
      cases found
      rfl
  | cons item rest ih =>
      obtain ⟨⟨first, reported'⟩, checked, found⟩ := Option.bind_eq_some_iff.mp found
      obtain ⟨later, others, found⟩ := Option.bind_eq_some_iff.mp found
      cases found
      rw [underRule_append, ih others, List.append_nil]
      by_cases vote : ∃ emFavor contra abstencoes,
          item.vote = some (.recorded emFavor contra abstencoes)
      · obtain ⟨emFavor, contra, abstencoes, vote⟩ := vote
        rw [checkMajority_recorded vote] at checked
        obtain ⟨rfl, -⟩ := Prod.mk.inj (Option.some.inj checked)
        rw [underRule_append]
        obtain nothing | ⟨text, noted⟩ := weightNotes_issues weighted reported index
          (emFavor.toNat + contra.toNat + abstencoes.toNat)
        · rw [nothing]
          split <;> rfl
        · rw [noted]
          split <;> rfl
      · rw [checkMajority_unrecorded fun emFavor contra abstencoes same =>
          vote ⟨emFavor, contra, abstencoes, same⟩] at checked
        cases checked
        rfl

theorem quorum_majorityFindings {majority : Option Majority}
    (found : majorityFindings checks act weighted majority = some issues) :
    underRule "STATUTE/quorum" issues = [] := by
  unfold majorityFindings at found
  cases majority with
  | none =>
      cases found
      rfl
  | some majority =>
      dsimp only at found
      split at found
      · cases found
        rfl
      · exact quorum_checkMajorities _ found

theorem underRule_noticeFindings {required : Option UInt16} :
    underRule "STATUTE/majority" (noticeFindings act required) = [] ∧
      underRule "STATUTE/quorum" (noticeFindings act required) = [] := by
  unfold noticeFindings
  repeat' split
  all_goals exact ⟨rfl, rfl⟩

theorem underRule_quorumByCount {quorum : Quorum} {count : Option Nat} :
    underRule "STATUTE/majority" (quorumByCount quorum count) = [] ∧
      (underRule "STATUTE/quorum" (quorumByCount quorum count) ≠ [] ↔
        ∃ number, count = some number ∧ number < quorum.minPresent.toNat) := by
  unfold quorumByCount
  cases count with
  | none => exact ⟨rfl, iff_of_false (fun raised => raised rfl) nofun⟩
  | some number =>
      dsimp only
      by_cases below : number < quorum.minPresent.toNat
      · rw [if_pos below]
        exact ⟨rfl, iff_of_true nofun ⟨number, rfl, below⟩⟩
      · rw [if_neg below]
        refine ⟨rfl, iff_of_false (fun raised => raised rfl) ?_⟩
        rintro ⟨other, same, under⟩
        obtain rfl := Option.some.inj same
        exact below under

theorem majority_quorumByWeight {quorum : Quorum} {summary : WeightedAttendanceSummary}
    (found : quorumByWeight quorum summary = some issues) :
    underRule "STATUTE/majority" issues = [] := by
  unfold quorumByWeight at found
  split at found
  · cases found
    rfl
  · split at found
    · cases found
      split <;> rfl
    · cases found

theorem majority_quorumFindings {quorum : Option Quorum} {found : List ComplianceIssue × Bool}
    (issued : quorumFindings checks act weighted quorum = some found) :
    underRule "STATUTE/majority" found.1 = [] := by
  cases quorum with
  | none =>
      cases issued
      rfl
  | some quorum =>
      unfold quorumFindings at issued
      dsimp only at issued
      cases weight : weighted.bind (quorumByWeight quorum) with
      | some issues =>
          rw [weight] at issued
          cases issued
          obtain ⟨summary, -, stands⟩ := Option.bind_eq_some_iff.mp weight
          exact majority_quorumByWeight stands
      | none =>
          rw [weight] at issued
          obtain ⟨count, -, counted⟩ := Option.bind_eq_some_iff.mp issued
          cases counted
          exact underRule_quorumByCount.1

theorem quorumFindings_eq {party : Option Entity} {quorum : Quorum}
    (few : act.attendees.length < 2 ^ 32) (fits : act.memberCount < 2 ^ 32)
    (weighing : weightedAttendance checks act party = some weighted)
    (undecided : ¬WeightsDecide checks act party) :
    quorumFindings checks act weighted (some quorum) =
      some (quorumByCount quorum act.attendanceNumber, false) := by
  have weight : weighted.bind (quorumByWeight quorum) = none := by
    cases stands : weighted.bind (quorumByWeight quorum) with
    | none => rfl
    | some issues =>
        obtain ⟨summary, same, stands⟩ := Option.bind_eq_some_iff.mp stands
        refine absurd ⟨summary, weighing.trans (congrArg some same), ?_⟩ undecided
        exact quorumByWeight_isSome_iff.mp (Option.isSome_of_eq_some stands)
  unfold quorumFindings
  dsimp only
  rw [weight, Act.attendanceCount_eq few fits]
  rfl

theorem exists_statuteFindingsInner (few : act.attendees.length < 2 ^ 32)
    (fits : act.memberCount < 2 ^ 32) (checks : OverflowChecks) (party : Option Entity) :
    ∃ found, statuteFindingsInner checks act party statute = some found := by
  obtain ⟨weighted, weighing⟩ : ∃ weighted, weightedAttendance checks act party =
    some weighted := by
    unfold weightedAttendance
    cases party.bind WeightKind.forEntity with
    | none => exact ⟨none, rfl⟩
    | some kind =>
        obtain ⟨summary, added⟩ := Act.exists_attendanceSummary few kind
        exact ⟨summary, added checks⟩
  obtain ⟨majority, found⟩ := exists_majorityFindings checks act weighted statute.majority
  obtain ⟨quorum, issued⟩ : ∃ quorum,
      quorumFindings checks act weighted statute.quorum = some quorum := by
    unfold quorumFindings
    cases statute.quorum with
    | none => exact ⟨_, rfl⟩
    | some quorum =>
        dsimp only
        cases weighted.bind (quorumByWeight quorum) with
        | some issues => exact ⟨_, rfl⟩
        | none => exact ⟨_, by rw [Act.attendanceCount_eq few fits]; rfl⟩
  exact ⟨_, by rw [statuteFindingsInner_eq weighing found, issued]; rfl⟩

theorem statuteFindingsInner_parts {party : Option Entity} {found : List ComplianceIssue}
    (done : statuteFindingsInner checks act party statute = some found) :
    ∃ weighted majority quorum, weightedAttendance checks act party = some weighted ∧
      majorityFindings checks act weighted statute.majority = some majority ∧
      quorumFindings checks act weighted statute.quorum = some quorum ∧
      found = majority ++ quorum.1 ++
        if quorum.2 then [] else noticeFindings act statute.convocationNoticeDays := by
  obtain ⟨weighted, weighing, -⟩ := Option.bind_eq_some_iff.mp done
  obtain ⟨majority, held⟩ := exists_majorityFindings checks act weighted statute.majority
  rw [statuteFindingsInner_eq weighing held] at done
  obtain ⟨quorum, issued, same⟩ := Option.map_eq_some_iff.mp done
  exact ⟨weighted, majority, quorum, weighing, held, issued, same.symm⟩

section Exact

variable [PrintTables]

theorem isSome_rulePackFor (few : act.attendees.length < 2 ^ 32) (fits : act.memberCount < 2 ^ 32)
    (entity : Entity) (validated : Bool) :
    ((rulePackFor entity).checkAct .on act entity validated).isSome := by
  obtain ⟨issues, checked⟩ := Option.isSome_iff_exists.mp
    (FamilyPack.isSome_checkAct few fits entity validated (rulePackFor entity).family)
  unfold ProfilePack.checkAct
  rw [checked]
  change (Option.bind (some issues) _).isSome
  rw [Option.bind_some]
  cases (rulePackFor entity).statute with
  | none => rfl
  | some statute =>
      obtain ⟨found, done⟩ := exists_statuteFindingsInner few fits .on (some entity)
      dsimp only
      rw [statuteFindingsForEntity, done]
      rfl

/-- The compliance arithmetic of an act is that of the integers: no sum or product leaves its
type, a resolution is reported just where it falls short of the majority, and a quorum held to
the counts just where they add up to less. -/
structure Exact (act : Act) (statute : StatuteOverrides) : Prop where
  packs : ∀ entity validated (pack : FamilyPack), (pack.checkAct .on act entity validated).isSome
  profiles : ∀ entity validated, ((rulePackFor entity).checkAct .on act entity validated).isSome
  overlay : (statuteFindings .on act statute).isSome
  overlayFor : ∀ entity, (statuteFindingsForEntity .on act entity statute).isSome
  majority : ∀ checks party found, statuteFindingsInner checks act party statute = some found →
    List.Forall₂ (fun issue short => ∃ majority, statute.majority = some majority ∧
      Reports majority issue short) (underRule "STATUTE/majority" found) (belowMajority statute act)
  quorum : ∀ checks party quorum found, statute.quorum = some quorum →
    ¬WeightsDecide checks act party → statuteFindingsInner checks act party statute = some found →
      (underRule "STATUTE/quorum" found ≠ [] ↔
        ∃ number, act.attendanceNumber = some number ∧ number < quorum.minPresent.toNat)

/-- **Compliance arithmetic is exact** just where the counts of the act add up in `u32`. -/
theorem exact_iff (few : act.attendees.length < 2 ^ 32) :
    Exact act statute ↔ act.memberCount < 2 ^ 32 := by
  constructor
  · intro exact
    exact FamilyPack.fits_of_isSome_condominio quotasEntity true (exact.packs quotasEntity true _)
  · intro fits
    refine ⟨FamilyPack.isSome_checkAct few fits, isSome_rulePackFor few fits, ?_, ?_, ?_, ?_⟩
    · obtain ⟨found, done⟩ := exists_statuteFindingsInner few fits .on none
      exact Option.isSome_of_eq_some done
    · intro entity
      obtain ⟨found, done⟩ := exists_statuteFindingsInner few fits .on (some entity)
      exact Option.isSome_of_eq_some done
    · intro checks party found done
      obtain ⟨weighted, majority, quorum, -, held, issued, rfl⟩ := statuteFindingsInner_parts done
      rw [underRule_append, underRule_append, majority_quorumFindings issued, List.append_nil]
      have silent : underRule "STATUTE/majority"
          (if quorum.2 then [] else noticeFindings act statute.convocationNoticeDays) = [] := by
        split
        · rfl
        · exact underRule_noticeFindings.1
      rw [silent, List.append_nil]
      exact reports_majorityFindings held
    · intro checks party quorum found set undecided done
      obtain ⟨weighted, majority, findings, weighing, held, issued, rfl⟩ :=
        statuteFindingsInner_parts done
      rw [set, quorumFindings_eq few fits weighing undecided] at issued
      obtain rfl := Option.some.inj issued
      rw [if_neg Bool.false_ne_true, underRule_append, underRule_append,
        quorum_majorityFindings held, underRule_noticeFindings.2, List.nil_append, List.append_nil]
      exact underRule_quorumByCount.2

end Exact

/-- Tables of the letters of the examples, all of which are printed as they are. -/
@[reducible] def printTables : PrintTables := ⟨fun _ => false, fun c => 32 ≤ c.toNat⟩

/-- Counts that leave `u32` together. -/
def crowdedAct : Act :=
  { weighedAct with membersPresent := some 4294967295, membersRepresented := some 1 }

/-- A checked build panics over the counts, and another takes a crowd for nobody. -/
theorem crowd_overflows :
    statuteFindings .on crowdedAct ⟨some ⟨1⟩, none, none⟩ = none ∧
      (statuteFindings .off crowdedAct ⟨some ⟨1⟩, none, none⟩).map (List.map (·.ruleId)) =
        some ["STATUTE/quorum"] ∧
      crowdedAct.attendanceNumber = some 4294967296 ∧
      ¬@Exact printTables crowdedAct ⟨some ⟨1⟩, none, none⟩ :=
  ⟨rfl, rfl, rfl, fun exact => Bool.false_ne_true (@Exact.overlay printTables _ _ exact)⟩

/-- One partner is counted exactly. -/
theorem exact_weighedAct : weighedAct.attendees.length = 1 ∧
    (@Exact printTables weighedAct ⟨some ⟨1⟩, none, none⟩ ↔ weighedAct.memberCount < 2 ^ 32) :=
  ⟨rfl, @exact_iff weighedAct _ printTables (by decide)⟩

end Statute

end Chancela
