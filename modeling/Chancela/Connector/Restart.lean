import Chancela.Connector.LostUpdates
import Chancela.Connector.TargetsFile
import Chancela.Crates.PrettyJson

/-! # The registry after a restart

Every record that the requests put in passes the checks of the loader. Whether the registry
survives a restart is a matter of the length of its file alone, which no request bounds
(`Chancela.TargetSite.restart_iff`).
-/

namespace Chancela

open Outcome Interleave

section Loading

/-! ### Checked records are loaded -/

theorem isOk_of_eq_ok {ε α : Type} {outcome : Except ε α} {value : α} (ok : outcome = .ok value) :
    outcome.isOk = true := by
  rw [ok]
  rfl

variable [UrlCrate] {networkPolicy : Except String Unit}

theorem validateApiTarget_eq_ok {config : TargetConfig}
    (accepted : validateApiTarget networkPolicy config = .ok ()) :
    config.kind ≠ .local_ ∧ config.validate.isOk = true := by
  obtain ⟨deployable, accepted⟩ := check_bind_eq_ok_iff.mp accepted
  obtain ⟨valid, -⟩ := check_bind_eq_ok_iff.mp accepted
  refine ⟨rejectIf_eq_ok_iff.mp deployable, ?_⟩
  cases validated : config.validate with
  | ok _ => rfl
  | error message =>
      rw [validated] at valid
      cases valid

namespace ConnectorTargetRecord

variable {record : ConnectorTargetRecord}

theorem loadable_iff : record.loadable = true ↔ record.schemaVersion = 1 ∧
    record.config.id = record.id.display ∧ record.config.validate.isOk = true ∧
    record.config.kind ≠ .local_ ∧
    (validatePurposes record.purposes record.config).isOk = true := by
  unfold loadable
  simp only [Bool.and_eq_true, decide_eq_true_eq, and_assoc]

theorem loadable_archived (valid : record.loadable = true) (now : String) :
    (record.archived now).loadable = true := valid

end ConnectorTargetRecord

variable {record : ConnectorTargetRecord}

theorem loadable_prepareCreate {tenant : TenantId} {body : CreateTargetBody}
    {newId newRepositoryId : Uuid} {now : String}
    (prepared : prepareCreate tenant body networkPolicy newId newRepositoryId now = .ok record) :
    record.loadable = true := by
  obtain ⟨name, -, prepared⟩ := bind_eq_ok_iff.mp prepared
  obtain ⟨accepted, prepared⟩ := check_bind_eq_ok_iff.mp prepared
  obtain ⟨purposes, prepared⟩ := check_bind_eq_ok_iff.mp prepared
  obtain rfl := Except.ok.inj prepared
  obtain ⟨deployable, valid⟩ := validateApiTarget_eq_ok accepted
  exact ConnectorTargetRecord.loadable_iff.mpr
    ⟨rfl, TargetConfig.id_withId .., valid, deployable, isOk_of_eq_ok purposes⟩

theorem checkPatch_eq_ok {current : ConnectorTargetRecord} {body : PatchTargetBody}
    (checked : checkPatch current body networkPolicy = .ok ()) :
    (∀ config, body.config = some config →
      validateApiTarget networkPolicy (config.withId current.id.display) = .ok ()) ∧
    validatePurposes (body.purposes.getD current.purposes)
      ((body.config.map (·.withId current.id.display)).getD current.config) = .ok () := by
  obtain ⟨-, checked⟩ := check_bind_eq_ok_iff.mp checked
  cases given : body.config with
  | none =>
      rw [given] at checked
      constructor
      · intro config configured
        cases configured
      cases named : body.name with
      | none | some name =>
          rw [named] at checked
          exact (check_bind_eq_ok_iff.mp checked).2
  | some config =>
      rw [given] at checked
      have accepted : validateApiTarget networkPolicy (config.withId current.id.display) = .ok () ∧
          validatePurposes (body.purposes.getD current.purposes)
            (config.withId current.id.display) = .ok () := by
        cases named : body.name with
        | none | some name =>
            rw [named] at checked
            exact check_bind_eq_ok_iff.mp (check_bind_eq_ok_iff.mp checked).2
      refine ⟨fun configured same => ?_, accepted.2⟩
      rw [← Option.some.inj same]
      exact accepted.1

theorem loadable_patched {current : ConnectorTargetRecord} {body : PatchTargetBody}
    (valid : current.loadable = true) (checked : checkPatch current body networkPolicy = .ok ())
    (now : String) : (current.patched body now).loadable = true := by
  obtain ⟨version, named, configured, deployable, -⟩ :=
    ConnectorTargetRecord.loadable_iff.mp valid
  obtain ⟨accepted, purposes⟩ := checkPatch_eq_ok checked
  apply ConnectorTargetRecord.loadable_iff.mpr
  unfold ConnectorTargetRecord.patched
  dsimp only
  cases given : body.config with
  | none =>
      rw [given] at purposes
      exact ⟨version, named, configured, deployable, isOk_of_eq_ok purposes⟩
  | some config =>
      rw [given] at purposes
      obtain ⟨deployable, valid⟩ := validateApiTarget_eq_ok (accepted config given)
      exact ⟨version, TargetConfig.id_withId .., valid, deployable, isOk_of_eq_ok purposes⟩

/-! ### Runs put in what is loaded -/

def TargetStage.Loadable : TargetStage → Prop
  | .copied current => current.loadable = true
  | .ready change => change.record.loadable = true
  | .arrived | .done _ => True

def ConnectorTargetMap.Loadable (targets : ConnectorTargetMap) : Prop :=
  ∀ record ∈ targets.values, record.loadable = true

theorem ConnectorTargetMap.Loadable.insert {targets : ConnectorTargetMap} (loads : targets.Loadable)
    (valid : record.loadable = true) : ConnectorTargetMap.Loadable (targets.insert record) := by
  intro other member
  rcases Table.eq_or_mem_of_mem_values_insert member with rfl | before
  · exact valid
  · exact loads other before

theorem loadable_forPath {targets : ConnectorTargetMap} {tenant : TenantId} {target : Uuid}
    (loads : targets.Loadable) (found : targets.forPath tenant target = .ok record) :
    record.loadable = true := by
  unfold ConnectorTargetMap.forPath at found
  split at found
  · rename_i other present
    obtain rfl := Except.ok.inj found
    exact loads _ (Table.mem_values_of_get (Option.filter_eq_some_iff.mp present).1)
  · cases found

theorem TargetRequest.loadable_prepare {request : TargetRequest} {around : TargetSurroundings}
    {targets : ConnectorTargetMap} {stage next : TargetStage} (loads : targets.Loadable)
    (valid : stage.Loadable) (prepared : request.prepare around targets stage = .ok next) :
    next.Loadable := by
  cases stage with
  | arrived =>
      cases request with
      | createTarget tenant body =>
          obtain ⟨-, prepared⟩ := check_bind_eq_ok_iff.mp prepared
          obtain ⟨-, prepared⟩ := check_bind_eq_ok_iff.mp prepared
          obtain ⟨record, created, prepared⟩ := bind_eq_ok_iff.mp prepared
          obtain rfl := Except.ok.inj prepared
          exact loadable_prepareCreate created
      | patchTarget tenant target _ | archiveTarget tenant target =>
          obtain ⟨record, found, prepared⟩ := bind_eq_ok_iff.mp prepared
          obtain rfl := Except.ok.inj prepared
          exact loadable_forPath loads found
  | copied current =>
      cases request with
      | createTarget tenant body =>
          obtain rfl := Except.ok.inj prepared
          exact valid
      | patchTarget tenant target body =>
          obtain ⟨-, prepared⟩ := check_bind_eq_ok_iff.mp prepared
          obtain ⟨checked, prepared⟩ := check_bind_eq_ok_iff.mp prepared
          obtain rfl := Except.ok.inj prepared
          exact loadable_patched valid checked around.now
      | archiveTarget tenant target =>
          obtain ⟨-, prepared⟩ := check_bind_eq_ok_iff.mp prepared
          by_cases inactive : current.isActive = false
          · rw [if_pos inactive] at prepared
            obtain rfl := Except.ok.inj prepared
            exact trivial
          · rw [if_neg inactive] at prepared
            obtain rfl := Except.ok.inj prepared
            exact ConnectorTargetRecord.loadable_archived valid around.now
  | ready change | done answer =>
      obtain rfl := Except.ok.inj prepared
      exact valid

theorem TargetRequest.loadable_serve {request : TargetRequest} {around : TargetSurroundings}
    {site : TargetSite} {stage : TargetStage} (loads : site.targets.Loadable)
    (valid : stage.Loadable) : (request.serve around site stage).2.Loadable := by
  unfold serve
  split
  · exact trivial
  · split
    · rename_i prepared
      exact loadable_prepare loads valid prepared
    · exact trivial

namespace TargetSite

variable {ι : Type}

/-- All records, those of the requests included, are loaded. -/
def loading : Discipline ObservedSite ι TargetStage where
  common observed := observed.site.targets.Loadable
  mine _ _ stage := stage.Loadable
  apart _ _ := True

theorem loading_keptBy (requests : ι → TargetRequest) :
    loading.KeptBy (fun party around observed stage =>
      ObservedSite.serve (requests party) around observed stage) (fun _ _ => True) where
  symm _ := trivial
  common world move holds _ := by
    have step : ObservedSite.Section world.shared move.2 (world.progress move.1)
        (world.shared.serve (requests move.1) move.2 (world.progress move.1)).1 :=
      ObservedSite.section_serve
    have mine := holds.mine move.1
    have common := holds.common
    generalize world.progress move.1 = stage at step mine
    unfold loading at mine common ⊢
    dsimp only at mine common ⊢
    cases step with
    | quiet leaves log =>
        rw [leaves.targets]
        exact common
    | puts puts log =>
        rw [puts.targets]
        exact common.insert mine
  mine world move holds _ := TargetRequest.loadable_serve holds.common (holds.mine move.1)
  others world move holds _ other _ := holds.mine other
  apart _ _ _ _ _ _ := trivial

variable [DecidableEq ι]

def vacant : TargetSite where
  persistent := true
  targets := .empty
  file := none
  events := []

/-- **Whatever the requests put in is loaded.** -/
theorem loadable_of_reachable (requests : ι → TargetRequest)
    (moves : List (ι × TargetSurroundings)) :
    ∀ world ∈ Run.states (turns requests) (arrivals vacant) moves,
      world.shared.site.targets.Loadable := by
  have initial : loading.Holds (arrivals vacant : World ObservedSite ι TargetStage) := by
    refine ⟨?_, fun _ => trivial, fun _ _ _ => trivial⟩
    intro record member
    cases member
  intro world member
  exact ((loading_keptBy requests).holds_always initial moves world member).common

/-- **The registry survives a restart exactly when its file is short enough.** -/
theorem restart_iff [SerdeCrates] (requests : ι → TargetRequest)
    (moves : List (ι × TargetSurroundings)) :
    ∀ world ∈ Run.states (turns requests) (arrivals vacant) moves,
      (∀ target, (loadTargets (some (writeTargets world.shared.site.targets))).get target =
          world.shared.site.targets.get target) ↔
        world.shared.site.targets.values = [] ∨
          (writeTargets world.shared.site.targets).length ≤ maxTargetsFileBytes := by
  intro world member
  exact loadTargets_writeTargets_iff (loadable_of_reachable requests moves world member)

/-! ### A creation that succeeds -/

section Creation

variable {requests : ι → TargetRequest} {party : ι} {around : TargetSurroundings}
  {record : ConnectorTargetRecord} {world : World ObservedSite ι TargetStage}

theorem turns_arrived (arrived : world.progress party = .arrived)
    (prepared : (requests party).prepare around world.shared.site.targets .arrived =
      .ok (.ready (.created record))) :
    (turns requests world (party, around)).shared = world.shared ∧
      (turns requests world (party, around)).progress party = .ready (.created record) := by
  have served : world.shared.serve (requests party) around .arrived =
      (world.shared, .ready (.created record)) := by
    unfold ObservedSite.serve TargetRequest.serve
    dsimp only
    rw [prepared]
    simp only [ObservedSite.acknowledged, List.append_nil]
  unfold turns
  rw [progress_turn_self]
  unfold turn
  dsimp only
  rw [arrived, served]
  exact ⟨rfl, rfl⟩

theorem turns_ready (ready : world.progress party = .ready (.created record))
    (checked : (PreparedChange.created record).check world.shared.site.targets = .ok ())
    (persistent : world.shared.site.persistent = true) (appended : around.appended = .ok ())
    (written : around.written = .ok ()) (committed : around.committed = .ok ()) :
    (turns requests world (party, around)).shared.site.persistent = true ∧
      (turns requests world (party, around)).shared.site.targets =
        world.shared.site.targets.insert record := by
  unfold turns turn ObservedSite.serve TargetRequest.serve TargetSite.put TargetSite.persist
  simp only [ready, checked, persistent, appended, written, committed, Bool.true_eq_false,
    ↓reduceIte, PreparedChange.record, and_self]

end Creation

end TargetSite

end Loading

/-! ### A registry that is lost -/

namespace Reference

scoped instance serdeCrates : SerdeCrates where
  toVecPretty := prettyVec
  fromSlice := readPretty
  parseUuidStr := parseUuidStr
  fromSlice_toVecPretty _ readable := readPretty_prettyVec readable
  parseUuidStr_display := parseUuidStr_display

end Reference

section Examples

open scoped Reference

theorem eq_of_mem_display {uuid : Uuid} {c : Char} (member : c ∈ uuid.display.toList) :
    c = '-' ∨ ∃ n < 16, c = Text.hexDigit n := by
  have group : ∀ {start count}, c ∈ uuid.group start count → ∃ n < 16, c = Text.hexDigit n := by
    intro start count member
    obtain ⟨byte, -, member⟩ := List.mem_flatMap.mp member
    have small := byte.toNat_lt
    rcases List.mem_pair.mp member with rfl | rfl
    · exact ⟨_, by omega, rfl⟩
    · exact ⟨_, by omega, rfl⟩
  rw [Uuid.display, String.toList_ofList] at member
  simp only [List.mem_append, List.mem_cons] at member
  rcases member with member | rfl | member | rfl | member | rfl | member | rfl | member
  all_goals first
    | exact .inr (group member)
    | exact .inl rfl

theorem validateTargetId_display (uuid : Uuid) : validateTargetId uuid.display = .ok () := by
  have count : uuid.display.toList.length = 36 := by
    rw [Uuid.display, String.toList_ofList]
    simp only [List.length_append, List.length_cons]
    rw [uuid.length_group (by decide), uuid.length_group (by decide), uuid.length_group (by decide),
      uuid.length_group (by decide), uuid.length_group (by decide)]
  have digits : ∀ n < 16, (Text.hexDigit n).toNat < 128 ∧
    ((Text.hexDigit n).isAlphanum = true) := by
    decide
  have bytes : Text.byteLen uuid.display = 36 := by
    rw [← count]
    apply Text.byteLen_of_ascii
    intro c member
    rcases eq_of_mem_display member with rfl | ⟨n, small, rfl⟩
    · decide
    · exact (digits n small).1
  refine if_pos ⟨?_, ?_, ?_⟩
  · intro empty
    rw [empty] at count
    cases count
  · rw [bytes]
    decide
  · refine List.all_eq_true.mpr fun c member => ?_
    rcases eq_of_mem_display member with rfl | ⟨n, small, rfl⟩
    · rfl
    · rw [(digits n small).2]
      rfl

/-- A directory on the server, as long as a request can carry. -/
def deepRoot : String := String.ofList (List.replicate 62000 'a')

def deepMirror : SftpTarget where
  id := ""
  host := "mirror.example"
  port := 22
  username := "backup"
  passwordRef := "CHANCELA_CONNECTOR_SECRET_MIRROR"
  hostKeySha256 := "SHA256:key"
  root := deepRoot
  timeoutSeconds := 60

def numbered (n : Nat) : Uuid := ⟨BitVec.ofNat 128 n⟩

def mirrorFor (n : Nat) : TargetRequest := .createTarget (numbered n) {
  name := "Mirror"
  enabled := true
  purposes := {.backup}
  config := .sftp deepMirror }

def drawn (n : Nat) : TargetSurroundings :=
  { calmTargets with newId := numbered n, newRepositoryId := numbered n }

def createdMirror (n : Nat) : ConnectorTargetRecord where
  schemaVersion := 1
  id := numbered n
  repositoryId := numbered n
  tenantId := numbered n
  name := "Mirror"
  enabled := true
  purposes := {.backup}
  config := (TargetConfig.sftp deepMirror).withId (numbered n).display
  createdAt := calmTargets.now
  updatedAt := calmTargets.now
  archivedAt := none

/-- Each creation runs to its end before the next one begins. -/
def createMirrors (count : Nat) : List (Nat × TargetSurroundings) :=
  (List.range count).flatMap fun n => [(n, drawn n), (n, drawn n)]

/-- The first of the mirrors are there, and the others were not asked for yet. -/
structure Mirrored (count : Nat) (world : World ObservedSite Nat TargetStage) : Prop where
  persistent : world.shared.site.persistent = true
  targets : world.shared.site.targets = Table.fromIter ((List.range count).map createdMirror)
  arrived : ∀ n, count ≤ n → world.progress n = .arrived

theorem numbered_inj {first second : Nat} (small : first < 17) (small' : second < 17)
    (same : numbered first = numbered second) : first = second := by
  have numbers := congrArg (fun uuid => uuid.bits.toNat) same
  simp only [numbered, BitVec.toNat_ofNat] at numbers
  omega

theorem exists_of_mem_mirrors {count : Nat}
    (member : record ∈ (Table.fromIter ((List.range count).map createdMirror) :
      ConnectorTargetMap).values) : ∃ n < count, record = createdMirror n := by
  obtain ⟨n, below, rfl⟩ := List.mem_map.mp (Table.mem_of_get_fromIter (Table.mem_values.mp member))
  exact ⟨n, List.mem_range.mp below, rfl⟩

theorem prepare_mirrorFor (n : Nat) (targets : ConnectorTargetMap) :
    (mirrorFor n).prepare (drawn n) targets .arrived =
      .ok (.ready (.created (createdMirror n))) := by
  have target : ∀ id, SftpTarget.validate { deepMirror with id := id } = .ok () := by
    intro id
    have host : requireNonEmpty "mirror.example" "SFTP host" = .ok () := if_neg (by decide +kernel)
    have username : requireNonEmpty "backup" "SFTP username" = .ok () := if_neg (by decide +kernel)
    have password : validateReference "CHANCELA_CONNECTOR_SECRET_MIRROR" = .ok () := by
      unfold validateReference
      exact if_pos (by decide +kernel)
    have fingerprint : ¬ (Text.stripPrefix "SHA256:key" "SHA256:").isNone = true := by
      decide +kernel
    have timeout : validateTimeout 60 = .ok () := if_pos (by decide)
    exact check_bind_eq_ok_iff.mpr ⟨host, check_bind_eq_ok_iff.mpr ⟨username,
      check_bind_eq_ok_iff.mpr ⟨password, check_bind_eq_ok_iff.mpr
        ⟨rejectIf_eq_ok_iff.mpr fingerprint, timeout⟩⟩⟩⟩
  have valid : ((TargetConfig.sftp deepMirror).withId (numbered n).display).validate = .ok () := by
    refine check_bind_eq_ok_iff.mpr ⟨?_, target (numbered n).display⟩
    rw [TargetConfig.id_withId]
    exact validateTargetId_display (numbered n)
  have accepted : validateApiTarget (.ok ())
      ((TargetConfig.sftp deepMirror).withId (numbered n).display) = .ok () := by
    refine check_bind_eq_ok_iff.mpr ⟨rejectIf_eq_ok_iff.mpr ConnectorKind.noConfusion,
      check_bind_eq_ok_iff.mpr ⟨?_, rfl⟩⟩
    rw [valid]
    rfl
  have named : normalizedName "Mirror" = .ok "Mirror" := if_neg (by decide +kernel)
  have purposes : validatePurposes {.backup}
      ((TargetConfig.sftp deepMirror).withId (numbered n).display) = .ok () := by
    refine check_bind_eq_ok_iff.mpr ⟨rejectIf_eq_ok_iff.mpr (by decide), ?_⟩
    exact rejectIf_eq_ok_iff.mpr fun both => ConnectorKind.noConfusion both.2
  have created : prepareCreate (numbered n)
      { name := "Mirror", enabled := true, purposes := {.backup}, config := .sftp deepMirror }
      (.ok ()) (numbered n) (numbered n) calmTargets.now = .ok (createdMirror n) :=
    bind_eq_ok_iff.mpr ⟨"Mirror", named, check_bind_eq_ok_iff.mpr ⟨accepted,
      check_bind_eq_ok_iff.mpr ⟨purposes, rfl⟩⟩⟩
  exact check_bind_eq_ok_iff.mpr ⟨rfl, check_bind_eq_ok_iff.mpr ⟨rfl,
    bind_eq_ok_iff.mpr ⟨createdMirror n, created, rfl⟩⟩⟩

theorem check_createdMirror {count : Nat} (small : count < 17) :
    (PreparedChange.created (createdMirror count)).check
      (Table.fromIter ((List.range count).map createdMirror)) = .ok () := by
  have apart : ∀ other ∈ (Table.fromIter ((List.range count).map createdMirror) :
      ConnectorTargetMap).values, other.tenantId ≠ numbered count := by
    intro other member same
    obtain ⟨n, below, rfl⟩ := exists_of_mem_mirrors member
    have equal := numbered_inj (by omega) small same
    omega
  refine check_bind_eq_ok_iff.mpr ⟨rejectIf_eq_ok_iff.mpr ?_, rejectIf_eq_ok_iff.mpr ?_⟩
  · have none_ : ConnectorTargetMap.countActive
        (Table.fromIter ((List.range count).map createdMirror))
          (createdMirror count).tenantId = 0 := by
      refine List.length_eq_zero_iff.mpr (List.filter_eq_nil_iff.mpr fun other member active => ?_)
      rw [Bool.and_eq_true, decide_eq_true_eq] at active
      exact apart other member active.1
    rw [none_]
    decide
  · intro rival
    obtain ⟨other, member, rival⟩ := List.any_eq_true.mp rival
    unfold ConnectorTargetRecord.rivals at rival
    simp only [Bool.and_eq_true, decide_eq_true_eq] at rival
    exact apart other member rival.1.1

theorem Mirrored.next {count : Nat} {world : World ObservedSite Nat TargetStage}
    (mirrored : Mirrored count world) (small : count < 17) :
    Mirrored (count + 1) ([(count, drawn count), (count, drawn count)].foldl
      (TargetSite.turns mirrorFor) world) := by
  have checked := check_createdMirror small
  rw [← mirrored.targets] at checked
  obtain ⟨same, ready⟩ := TargetSite.turns_arrived (mirrored.arrived count le_rfl)
    (prepare_mirrorFor count world.shared.site.targets)
  rw [← same] at checked
  have lasting := mirrored.persistent
  rw [← same] at lasting
  obtain ⟨persistent, targets⟩ := @TargetSite.turns_ready _ _ _ mirrorFor count (drawn count) _ _
    ready checked lasting rfl rfl rfl
  refine ⟨persistent, ?_, fun n later => ?_⟩
  · rw [List.foldl_cons, List.foldl_cons, List.foldl_nil, targets, same, mirrored.targets,
      List.range_succ, List.map_append, Table.fromIter, Table.fromIter, List.foldl_append]
    rfl
  · have apart : n ≠ count := by omega
    rw [List.foldl_cons, List.foldl_cons, List.foldl_nil]
    unfold TargetSite.turns
    rw [progress_turn_of_ne _ _ apart, progress_turn_of_ne _ _ apart]
    exact mirrored.arrived n (by omega)

theorem mirrored_createMirrors {count : Nat} (small : count ≤ 17) :
    Mirrored count ((createMirrors count).foldl (TargetSite.turns mirrorFor)
      (TargetSite.arrivals TargetSite.vacant)) := by
  induction count with
  | zero => exact ⟨rfl, rfl, fun _ _ => rfl⟩
  | succ count ih =>
      rw [createMirrors, List.range_succ, List.flatMap_append, List.foldl_append]
      exact (ih (by omega)).next (by omega)

theorem nodup_mirrors :
    (((List.range 17).map createdMirror).map ConnectorTargetRecord.id).Nodup := by
  decide +kernel

theorem letters_sftp (target : SftpTarget) (id : String) :
    target.root.length ≤ Reference.letters (encode ((TargetConfig.sftp target).withId id)) := by
  change _ ≤ Reference.lettersOfFields _
  simp only [StructCodec.write, Reference.lettersOfFields]
  change _ ≤ _ + (_ + (_ + (_ + (_ + (_ + (_ + (target.root.length + _)))))))
  omega

theorem letters_createdMirror (n : Nat) : 62000 ≤ Reference.letters (encode (createdMirror n)) := by
  have root : ∀ count, (String.ofList (List.replicate count 'a')).length = count := by
    intro count
    rw [String.length_ofList, List.length_replicate]
  have deep : deepMirror.root.length = 62000 := root 62000
  have config : deepMirror.root.length ≤ Reference.letters (encode (createdMirror n).config) :=
    letters_sftp deepMirror (numbered n).display
  change _ ≤ Reference.lettersOfFields _
  simp only [StructCodec.write, Reference.lettersOfFields]
  omega

theorem lt_length_writeTargets : maxTargetsFileBytes <
    (writeTargets (Table.fromIter ((List.range 17).map createdMirror))).length := by
  let mirrors : ConnectorTargetMap := Table.fromIter ((List.range 17).map createdMirror)
  have count : mirrors.records.length = 17 := by
    rw [(perm_records mirrors).length_eq, Table.values_fromIter nodup_mirrors, List.length_reverse,
      List.length_map, List.length_range]
  have all : ∀ item ∈ mirrors.records.map encode, 62000 ≤ Reference.letters item := by
    intro item member
    obtain ⟨record, listed, rfl⟩ := List.mem_map.mp member
    obtain ⟨n, -, rfl⟩ := exists_of_mem_mirrors ((perm_records mirrors).mem_iff.mp listed)
    exact letters_createdMirror n
  have long := Reference.length_mul_le_lettersOfItems all
  have written := Reference.letters_le_prettyVec (encode mirrors.records)
  rw [List.length_map, count] at long
  exact Nat.lt_of_lt_of_le (Nat.lt_of_lt_of_le (Nat.le_of_ble_eq_true rfl) long) written

/-- **Seventeen targets are lost at a restart.** -/
theorem TargetSite.not_survives_restart :
    ¬∀ world ∈ Run.states (TargetSite.turns mirrorFor) (TargetSite.arrivals TargetSite.vacant)
        (createMirrors 17),
      ∀ target, (loadTargets (some (writeTargets world.shared.site.targets))).get target =
        world.shared.site.targets.get target := by
  intro survives
  have lost := survives _ (Run.foldl_mem_states _ _) (numbered 0)
  have present := Table.get_fromIter_of_mem nodup_mirrors
    (List.mem_map_of_mem (List.mem_range.mpr (by decide : 0 < 17)))
  rw [(mirrored_createMirrors le_rfl).targets, loadTargets_of_long lt_length_writeTargets,
    Table.get_empty] at lost
  cases lost.trans present

/-- One such target is kept exactly if its file is short enough. -/
theorem TargetSite.restart_iff_mirror :
    (∀ target, (loadTargets (some (writeTargets ((createMirrors 1).foldl
        (TargetSite.turns mirrorFor)
          (TargetSite.arrivals TargetSite.vacant)).shared.site.targets))).get
          target = (Table.fromIter [createdMirror 0] : ConnectorTargetMap).get target) ↔
      (writeTargets (Table.fromIter [createdMirror 0])).length ≤ maxTargetsFileBytes := by
  have survives := TargetSite.restart_iff mirrorFor (createMirrors 1) _ (Run.foldl_mem_states _ _)
  rw [(mirrored_createMirrors (by decide)).targets] at survives ⊢
  exact survives.trans (or_iff_right (List.cons_ne_nil (createdMirror 0) []))

end Examples

end Chancela
