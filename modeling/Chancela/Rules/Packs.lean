import Chancela.Rules.Statute

/-! # Rule packs

The checks each family of entities is held to. A check whose arithmetic could leave its type
gives nothing where a checked build panics; the others are plain lists of issues. The
record of an entity leaves out whether its NIPC passed validation, so a pack takes it beside.
-/

namespace Chancela

/-- The tables behind `char::escape_debug`. -/
class PrintTables where
  isGraphemeExtended : Char → Bool
  isPrintable : Char → Bool

def escapeUnicode (c : Char) : String :=
  "\\u\x7b" ++ String.ofList (Nat.toDigits 16 c.toNat) ++ "\x7d"

/-- `char::escape_debug_ext`, as the `Debug` of a string calls it. -/
def escapeDebug [PrintTables] (c : Char) : String :=
  if c = '\x00' then "\\0"
  else if c = '\t' then "\\t"
  else if c = '\r' then "\\r"
  else if c = '\n' then "\\n"
  else if c = '"' then "\\\""
  else if c = '\\' then "\\\\"
  else if PrintTables.isGraphemeExtended c then escapeUnicode c
  else if PrintTables.isPrintable c then String.singleton c
  else escapeUnicode c

/-- The `Debug` of a string. -/
def debugStr [PrintTables] (text : String) : String :=
  "\"" ++ String.join (text.toList.map escapeDebug) ++ "\""

/-- `text.unwrap_or("").trim().is_empty()`. -/
def isBlankText (text : Option String) : Bool := Text.trim (text.getD "") == ""

def allowedChannels : EntityFamily → List MeetingChannel
  | .commercialCompany | .association | .cooperative =>
      [.physical, .hybrid, .telematic, .writtenResolution]
  | .condominium | .foundation => [.physical, .hybrid, .telematic]

def membershipQualities : EntityKind → List SignatoryCapacity
  | .sociedadePorQuotas | .sociedadeUnipessoalPorQuotas | .sociedadeEmNomeColetivo
  | .sociedadeEmComanditaSimples => [.member]
  | .sociedadeAnonima => [.shareholder]
  | .sociedadeEmComanditaPorAcoes => [.shareholder, .member]
  | .condominio => [.condoOwner]
  | .associacao => [.associate]
  | .cooperativa => [.cooperator]
  | .fundacao => []

namespace Rules

def hasSubstance (act : Act) : Bool :=
  !isBlankText (some act.deliberations) ||
    act.deliberationItems.any (fun item => !isBlankText (some item.text)) ||
    act.body.any fun body => !isBlankText (some body.source)

def universalAssemblyIssues (act : Act) (entity : Entity) (waiver : ConveningWaiver) :
    List ComplianceIssue :=
  let membership := membershipQualities entity.kind
  let members := act.attendees.filter fun attendee => membership.contains attendee.quality
  let absentMembers := members.filter fun attendee => attendee.presence = .absent
  let unclassifiedAbsent := act.attendees.any fun attendee =>
    attendee.presence = .absent && attendee.quality = .other
  (if entity.family ≠ .commercialCompany then
    [.warning "CONV/basis-family-unverified"
      ("the assembleia universal basis recorded here is grounded in CSC art. 54.º, which " ++
        "governs sociedades comerciais; Chancela does not determine whether it applies to this " ++
        "entity family — confirm the applicable regime with counsel")]
    else []) ++
  (if !waiver.allAgreedToMeet || !waiver.allAgreedToAgenda then
    [.error "CSC-54/universal-assembly-agreement"
      ("the act declares an assembleia universal but does not record that all agreed both to " ++
        "the assembly constituting itself and to the matters deliberated (CSC art. 54.º, n.os 1 " ++
        "e 2); record the agreement or choose another basis")]
    else []) ++
  (if absentMembers ≠ [] then
    let count := absentMembers.length
    let names := ", ".intercalate (absentMembers.map (·.name))
    [.error "CSC-54/universal-assembly-attendance"
      ("the act declares an assembleia universal (all members present or represented) but the " ++
        s!"lista de presenças records {count} absent: {names}; CSC art. 54.º/1 requires that " ++
        "all be present, and under art. 56.º/1 a) deliberações taken in an assembly that was " ++
        "not convened are null unless all were present or represented")]
    else if members = [] then
      [.warning "CSC-54/universal-assembly-unverified"
        ("the act declares an assembleia universal, but the lista de presenças carries no row " ++
          "in a membership capacity against which 'all present' can be checked; capture the " ++
          "attendance rows or confirm the condition manually")]
    else []) ++
  (if unclassifiedAbsent && absentMembers = [] then
    [.warning "CONV/universal-assembly-unclassified-absentee"
      ("an absent attendee is recorded under a free-text qualidade, so Chancela cannot tell " ++
        "whether they are a member; if they are, the assembleia universal basis does not hold — " ++
        "confirm before sealing")]
    else [])

def noConveningIssues (act : Act) (entity : Entity) : List ComplianceIssue :=
  match act.conveningWaiver with
  | none => []
  | some waiver =>
      (if act.convening.isSome then
        [.warning "CONV/waiver-conflict"
          ("the act records both a convocatória and a no-convocatória basis; only one of the " ++
            "two can describe how this meeting was called — remove the one that does not apply")]
        else []) ++
      match waiver.basis with
      | .other =>
          if isBlankText waiver.grounds then
            [.warning "CONV/waiver-grounds"
              ("the act records that there was no convocatória on an unspecified basis but " ++
                "states no ground; the ata will say the meeting was held without a convocatória " ++
                "and give no reason")]
          else []
      | .assembleiaUniversal => universalAssemblyIssues act entity waiver

def civilBaseline [PrintTables] (act : Act) (entity : Entity) (validated : Bool) (lead : String) :
    List ComplianceIssue :=
  let nipc := debugStr entity.nipc
  (if isBlankText (some entity.name) then
    [.error (lead ++ "/entity") "the entity has no name; the ata must identify the entity"]
    else []) ++
  (if !validated then
    [.warning (lead ++ "/nipc-unvalidated")
      (s!"the entity's identifier {nipc} was stored without NIPC validation (control-digit " ++
        "check skipped); confirm it identifies the entity")]
    else []) ++
  (if act.meetingDate.isNone then
    [.error (lead ++ "/date") "meeting date is missing (mandatory ata contents)"] else []) ++
  (if isBlankText act.place then
    [.error (lead ++ "/place") "meeting place is missing (mandatory ata contents)"] else []) ++
  (if isBlankText act.attendanceReference then
    [.error (lead ++ "/attendance") "attendance reference is missing (mandatory ata contents)"]
    else []) ++
  (if !hasSubstance act then
    [.error (lead ++ "/deliberations")
      ("no deliberations recorded (neither free-text nor structured); the ata must record the " ++
        "substance of the resolutions taken")]
    else []) ++
  noConveningIssues act entity

def missingVoteWarnings (act : Act) (lead : String) : List ComplianceIssue :=
  (act.deliberationItems.zipIdx.filter fun entry => entry.1.vote.isNone).map fun entry =>
    .warning (lead ++ "/vote-result")
      (s!"deliberation item {entry.2 + 1} records no voting result; the ata should record how " ++
        "each resolution was carried")

def channelWarning (act : Act) (entity : Entity) (lead : String) : List ComplianceIssue :=
  if (allowedChannels entity.family).contains act.channel then []
  else [.warning (lead ++ "/channel")
    s!"meeting channel {act.channel.name} is not among the channels this entity family permits"]

inductive WrittenResolutionEvidenceStatus where
  | notApplicable
  | missing
  | referencedOnly
  | boundPresent
deriving DecidableEq

/-- The status of `written_resolution_evidence_summary`. -/
def writtenResolutionEvidenceStatus (act : Act) : WrittenResolutionEvidenceStatus :=
  if act.channel ≠ .writtenResolution then .notApplicable
  else
    let checklist : List WrittenResolutionEvidenceItem := match act.writtenResolutionEvidence with
      | some evidence => evidence.checklist
      | none => []
    let boundCount := (act.signatories.filter (·.signed)).length +
      (act.attachments.filter (·.digest.isSome)).length +
      (checklist.filter (·.digest.isSome)).length
    let referencedOnlyCount : Nat := (checklist.filter fun item =>
      item.digest.isNone && item.reference.any
        (fun reference => !isBlankText (some reference))).length
    if 0 < boundCount then .boundPresent
    else if 0 < referencedOnlyCount then .referencedOnly
    else .missing

def writtenResolutionEvidenceWarning (act : Act) (lead : String) : List ComplianceIssue :=
  match writtenResolutionEvidenceStatus act with
  | .notApplicable | .boundPresent => []
  | .missing => [.warning (lead ++ "/written-resolution-evidence")
      ("written-resolution channel has no signed signatory slot, digested attachment, or " ++
        "digested checklist item; technical evidence status is missing " ++
        "(workflow_evidence_status_only)")]
  | .referencedOnly => [.warning (lead ++ "/written-resolution-evidence")
      ("written-resolution evidence is referenced, but no signed signatory slot, digested " ++
        "attachment, or digested checklist item is bound into the record; technical evidence " ++
        "status is referenced_only (workflow_evidence_status_only)")]

/-- `item.vote.and_then(recorded_vote_total)`. -/
def recordedTotal (checks : OverflowChecks) (item : DeliberationItem) : Option (Option Nat) :=
  match item.vote with
  | none => some none
  | some vote => vote.recordedVoteTotal checks

def weightedVoteWarnings (checks : OverflowChecks) (act : Act) (entity : Entity) (lead : String) :
    Option (List ComplianceIssue) :=
  match WeightKind.forEntity entity with
  | none => some []
  | some kind => do
      match ← act.attendanceSummary checks kind with
      | none => return []
      | some summary =>
          let totals ← act.deliberationItems.mapM (recordedTotal checks)
          let recordedItems := totals.zipIdx.filterMap fun entry =>
            entry.1.map fun total => (entry.2, total)
          if recordedItems = [] then return []
          if !summary.hasWeightMetadata then return []
          if !summary.isComplete then
            return [.warning (kind.partialRule lead)
              (s!"the attendance list has partial or mismatched {kind.label} weights for " ++
                "present/represented attendees; weighted vote totals cannot be verified from " ++
                "the captured rows")]
          return (recordedItems.filter fun entry => entry.2 ≠ summary.presentWeight).map
            fun entry =>
            .warning (kind.voteTotalRule lead)
              (s!"deliberation item {entry.1 + 1} records {entry.2} total vote units, but the " ++
                s!"present/represented {kind.label} total is {summary.presentWeight}; confirm " ++
                "the recorded tally uses the same weighted unit")

def attendanceCountMismatchWarning (checks : OverflowChecks) (act : Act) (lead : String) :
    Option (List ComplianceIssue) := do
  let recordedCount ← Machine.narrow checks 32 act.memberCount
  if act.membersPresent.isNone && act.membersRepresented.isNone then return []
  let rowCount := act.presentRowCount
  if act.attendees.isEmpty || recordedCount = rowCount then return []
  return [.warning (lead ++ "/attendance-count-mismatch")
    (s!"present/represented counts record {recordedCount}, but the structured attendance list " ++
      s!"has {rowCount} present/represented row(s); confirm which source controls quorum and " ++
      "vote review")]

/-- `condominium_permilage_warnings`: the total saturates. -/
def condominiumPermilageWarnings [PrintTables] (act : Act) : List ComplianceIssue :=
  let shares : List (String × UInt32) :=
    act.presentAttendees.filterMap fun attendee => match attendee.weight with
    | some (.permilage value) => some (attendee.name, value)
    | _ => none
  let presentTotal : Nat :=
    shares.foldl (fun total share => min (total + share.2.toNat) (2 ^ 32 - 1)) 0
  let owners : List (String × UInt16) := act.signatories.filterMap fun slot =>
    if slot.capacity = .condoOwner then slot.permilage.map fun value => (slot.name, value) else none
  ((shares.filter fun share => 1000 < share.2).map fun share =>
    .warning "DL268/permilage-value"
      (s!"attendance row {debugStr share.1} records permilagem {share.2}, above the 1000 total " ++
        "scale; confirm the captured fraction")) ++
  (if shares ≠ [] ∧ 1000 < presentTotal then
    [.warning "DL268/permilage-total"
      (s!"present/represented attendance permilagem totals {presentTotal}, above the 1000 total " ++
        "scale; confirm the captured fractions")]
    else []) ++
  (owners.filter fun owner => 1000 < owner.2).map fun owner =>
    .warning "DL268/permilage-value"
      (s!"condómino {debugStr owner.1} records permilagem {owner.2}, above the 1000 total " ++
        "scale; confirm the captured fraction")

end Rules

/-- The rule packs. -/
inductive FamilyPack where
  | cscArt63
  | condominio
  | associacao
  | fundacao
  | cooperativa
deriving DecidableEq

namespace FamilyPack

def id : FamilyPack → String
  | cscArt63 => "csc-art63/v2"
  | condominio => "condominio-dl268/v1"
  | associacao => "assoc-cc/v1"
  | fundacao => "fundacao-cc/v1"
  | cooperativa => "cooperativa-ccoop/v1"

open Rules

def checkAct [PrintTables] (checks : OverflowChecks) (act : Act) (entity : Entity)
    (validated : Bool) : FamilyPack → Option (List ComplianceIssue)
  | cscArt63 => do
      let weighted ← weightedVoteWarnings checks act entity "CSC-63"
      return civilBaseline act entity validated "CSC-63" ++
        (if isBlankText act.mesa.presidente then
          [.error "CSC-63/mesa-presidente"
            ("the ata identifies no presidente da mesa (chair); CSC art. 63.º requires the " ++
              "presiding board to be recorded")]
          else []) ++
        (if act.mesa.secretarios = [] then
          [.warning "CSC-63/mesa-secretarios" "the ata records no secretário(s) da mesa"]
          else []) ++
        (if act.meetingTime.isNone then
          [.warning "CSC-63/time" "meeting time is missing (CSC art. 63.º mandatory contents)"]
          else []) ++
        (if act.agenda = [] then
          [.warning "CSC-63/agenda" "no agenda (ordem de trabalhos) recorded on the ata"]
          else []) ++
        missingVoteWarnings act "CSC-63" ++ weighted ++
        writtenResolutionEvidenceWarning act "CSC-54" ++
        (if act.attachments.any (·.beginningOfProof) then
          [.warning "CSC-63/detached-document"
            ("a resolution is evidenced only by a detached private document; under CSC art. " ++
              "63.º such a document is merely a beginning of proof (reduced weight)")]
          else []) ++
        (if entity.kind = .sociedadeAnonima ∧ act.channel = .telematic ∧
            isBlankText act.telematicEvidence then
          [.error "CSC-377/telematic-evidence"
            ("telematic SA general meeting lacks the art. 377.º evidence note (authenticity, " ++
              "communication security, recording of content and participants)")]
          else []) ++
        channelWarning act entity "CSC-63"
  | condominio => do
      let weighted ← weightedVoteWarnings checks act entity "DL268"
      let mismatch ← attendanceCountMismatchWarning checks act "DL268"
      return civilBaseline act entity validated "DL268" ++
        (if act.meetingTime.isNone then
          [.warning "DL268/time"
            ("meeting time is missing; record it when available so the condominium minutes " ++
              "identify the meeting occurrence precisely")]
          else []) ++
        missingVoteWarnings act "DL268" ++ weighted ++ mismatch ++
        condominiumPermilageWarnings act ++
        (act.signatories.filter fun slot =>
          slot.capacity = .condoOwner && slot.permilage.isNone).map fun slot =>
            .warning "DL268/permilage"
              (s!"condómino {debugStr slot.name} carries no permilagem (millésimos); record it " ++
                "so the assembleia's fractions are auditable")
  | associacao =>
      some (civilBaseline act entity validated "CC" ++
        (if act.agenda = [] then
          [.warning "CC/agenda" "no agenda (ordem de trabalhos) recorded on the ata"]
          else []) ++
        writtenResolutionEvidenceWarning act "CC")
  | fundacao => some (civilBaseline act entity validated "CC")
  | cooperativa =>
      some (civilBaseline act entity validated "CCoop" ++
        (if act.deliberationItems.any (fun item => match item.vote with
            | some (.recorded ..) => true
            | _ => false) then
          [.warning "CCoop/one-member-one-vote"
            ("a recorded tally is present; confirm it counts one vote per member (Código " ++
              "Cooperativo art. 41.º), not capital")]
          else []) ++
        writtenResolutionEvidenceWarning act "CCoop")

end FamilyPack

/-- `ProfilePack`: a family pack under the statutes of an entity. -/
structure ProfilePack where
  family : FamilyPack
  statute : Option StatuteOverrides
deriving DecidableEq

namespace ProfilePack

def id (pack : ProfilePack) : String := pack.family.id

def checkAct [PrintTables] (pack : ProfilePack) (checks : OverflowChecks) (act : Act)
    (entity : Entity) (validated : Bool) : Option (List ComplianceIssue) := do
  let issues ← pack.family.checkAct checks act entity validated
  match pack.statute with
  | none => return issues
  | some statute => return issues ++ (← Statute.statuteFindingsForEntity checks act entity statute)

end ProfilePack

def rulePackFor (entity : Entity) : ProfilePack where
  family := match entity.family with
    | .commercialCompany => .cscArt63
    | .condominium => .condominio
    | .association => .associacao
    | .foundation => .fundacao
    | .cooperative => .cooperativa
  statute := entity.statute

end Chancela
