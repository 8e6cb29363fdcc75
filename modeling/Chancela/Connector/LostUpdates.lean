import Chancela.Connector.Changes

/-! # Updates of the registry that are lost

Requests in any interleaving of their sections, beside a log of the changes that were
acknowledged. A patch or an archive puts in the copy it took before, edited: what was
acknowledged since is undone. The registry is what its log says in every run whose sections find
the fields they do not set as they copied them (`Chancela.TargetSite.sound_of_copies_current`).
-/

namespace Chancela

open Interleave

/-- The registry, and the changes that were acknowledged, with those who made them. -/
structure ObservedSite where
  site : TargetSite
  log : List TargetEdit

namespace PreparedChange

def meant : PreparedChange → TargetChange
  | created record => .created record
  | updated current body now => .updated current.id body now
  | archived current now => .archived current.id now

/-- A target is as its copy, but for the fields a change sets, its time and its archiving. -/
structure Spares (change : PreparedChange) (current found : ConnectorTargetRecord) : Prop where
  schemaVersion : current.schemaVersion = found.schemaVersion
  id : current.id = found.id
  repositoryId : current.repositoryId = found.repositoryId
  tenantId : current.tenantId = found.tenantId
  createdAt : current.createdAt = found.createdAt
  field : ∀ field, ¬ change.meant.Sets field → field.SameOn current found

/-- What a change is put on is what it was prepared for: a new target has a new id, a patched
one is active, and neither a patched nor an archived one has other fields than its copy, but for
those the change sets. -/
def FitsOn (targets : ConnectorTargetMap) : PreparedChange → Prop
  | created record => targets.get record.id = none
  | updated current body now => ∃ found, targets.get current.id = some found ∧
      found.archivedAt = none ∧ current.archivedAt = none ∧
      Spares (updated current body now) current found
  | archived current now => ∃ found, targets.get current.id = some found ∧
      Spares (archived current now) current found

theorem getD_eq_of_spared {α : Type*} {asked : Option α} {first second : α}
    (spared : ¬ asked.isSome = true → first = second) :
    asked.getD first = asked.getD second := by
  cases asked with
  | none => exact spared Bool.false_ne_true
  | some value => rfl

theorem Spares.refl (change : PreparedChange) (record : ConnectorTargetRecord) :
    change.Spares record record :=
  ⟨rfl, rfl, rfl, rfl, rfl, fun field _ => by cases field <;> rfl⟩

variable {current found : ConnectorTargetRecord} {body : PatchTargetBody} {now : String}

theorem patched_eq_of_spares (spares : Spares (updated current body now) current found)
    (active : current.archivedAt = found.archivedAt) :
    current.patched body now = found.patched body now := by
  unfold ConnectorTargetRecord.patched
  simp only [ConnectorTargetRecord.mk.injEq]
  refine ⟨spares.schemaVersion, spares.id, spares.repositoryId, spares.tenantId, ?_, ?_, ?_, ?_,
    spares.createdAt, trivial, active⟩
  · apply getD_eq_of_spared
    rw [Option.isSome_map]
    exact spares.field .name
  · exact getD_eq_of_spared (spares.field .enabled)
  · exact getD_eq_of_spared (spares.field .purposes)
  · rw [spares.id]
    apply getD_eq_of_spared
    rw [Option.isSome_map]
    exact spares.field .config

theorem archived_eq_of_spares (spares : Spares (archived current now) current found) :
    current.archived now = found.archived now := by
  have spared : ∀ field : TargetField, field ≠ .enabled → field.SameOn current found :=
    fun field other => spares.field field other
  have name := spared .name TargetField.noConfusion
  have purposes := spared .purposes TargetField.noConfusion
  have config := spared .config TargetField.noConfusion
  unfold ConnectorTargetRecord.archived
  simp only [ConnectorTargetRecord.mk.injEq]
  exact ⟨spares.schemaVersion, spares.id, spares.repositoryId, spares.tenantId, name, trivial,
    purposes, config, spares.createdAt, trivial, trivial⟩

/-- **What fits is put in as it was meant.** -/
theorem result_meant {targets : ConnectorTargetMap} {change : PreparedChange}
    (fits : change.FitsOn targets) (checked : change.check targets = .ok ()) :
    change.meant.result targets = some change.record := by
  cases change with
  | created record =>
      obtain ⟨few, free⟩ := Outcome.check_bind_eq_ok_iff.mp checked
      have few := Outcome.rejectIf_eq_ok_iff.mp few
      have free := Outcome.rejectIf_eq_ok_iff.mp free
      exact if_pos ⟨fits, Nat.lt_of_not_ge few, Bool.eq_false_of_not_eq_true free⟩
  | updated current body now =>
      obtain ⟨found, present, active, activeCopy, spares⟩ := fits
      have free := Outcome.rejectIf_eq_ok_iff.mp checked
      have same := patched_eq_of_spares spares (activeCopy.trans active.symm)
      unfold TargetChange.result meant
      dsimp only
      rw [present, Option.bind_some]
      rw [same, spares.id] at free
      have activity : found.isActive = true := by
        unfold ConnectorTargetRecord.isActive
        rw [active]
        rfl
      rw [if_pos ⟨activity, Bool.eq_false_of_not_eq_true free⟩]
      exact congrArg some same.symm
  | archived current now =>
      obtain ⟨found, present, spares⟩ := fits
      unfold TargetChange.result meant
      dsimp only
      rw [present, Option.map_some]
      exact congrArg some (archived_eq_of_spares spares).symm

theorem kind_meant (change : PreparedChange) : change.meant.kind = change.kind := by
  cases change <;> rfl

end PreparedChange

/-! ### Requests in turns -/

namespace ObservedSite

def acknowledged (actor : String) : TargetStage → TargetStage → List TargetEdit
  | .ready change, .done (.ok _) => [⟨actor, change.meant⟩]
  | _, _ => []

/-- The next section of a request, with its acknowledgement. -/
def serve [UrlCrate] (request : TargetRequest) (around : TargetSurroundings)
    (observed : ObservedSite) (stage : TargetStage) : ObservedSite × TargetStage :=
  let (site, next) := request.serve around observed.site stage
  (⟨site, observed.log ++ acknowledged around.actor stage next⟩, next)

def registry (observed : ObservedSite) : TargetRegistry :=
  ⟨observed.site.targets, observed.site.events⟩

/-- What one section does: nothing to the map, the events and the log; or it puts a change in,
with its event, and logs it. -/
inductive Section (before : ObservedSite) (around : TargetSurroundings) :
    TargetStage → ObservedSite → Prop where
  | quiet {stage : TargetStage} {after : ObservedSite}
      (leaves : before.site.Leaves around after.site) (log : after.log = before.log) :
      Section before around stage after
  | puts {change : PreparedChange} {after : ObservedSite}
      (puts : before.site.Puts around.actor change after.site)
      (log : after.log = before.log ++ [⟨around.actor, change.meant⟩]) :
      Section before around (.ready change) after

variable [UrlCrate] {request : TargetRequest} {around : TargetSurroundings}
  {observed : ObservedSite} {stage : TargetStage}

omit [UrlCrate] in
theorem Section.rest (stage : TargetStage) : Section observed around stage observed :=
  .quiet (.refl _ _) rfl

theorem serve_of_unlocked (unlocked : ∀ change, stage ≠ .ready change) :
    (observed.serve request around stage).1 = observed := by
  have apart : ∀ next, acknowledged around.actor stage next = [] := by
    intro next
    cases stage with
    | ready change => exact (unlocked change rfl).elim
    | arrived | copied _ | done _ => rfl
  have spared : (request.serve around observed.site stage).1 = observed.site := by
    unfold TargetRequest.serve
    split
    · exact (unlocked _ rfl).elim
    · split <;> rfl
  unfold serve
  dsimp only
  rw [spared, apart, List.append_nil]

/-- **What a section does.** -/
theorem section_serve :
    Section observed around stage (observed.serve request around stage).1 := by
  cases stage with
  | arrived | copied _ | done _ =>
      rw [serve_of_unlocked fun _ => TargetStage.noConfusion]
      exact .rest _
  | ready change =>
      unfold serve TargetRequest.serve
      dsimp only
      rcases @TargetSite.put_cases observed.site around change with
        ⟨⟨fault, refused⟩, leaves⟩ | ⟨accepted, puts⟩
      · rw [refused]
        exact .quiet leaves (List.append_nil _)
      · rw [accepted]
        exact .puts puts rfl

end ObservedSite

/-! ### Runs -/

namespace TargetSite

variable {ι : Type} [DecidableEq ι] [UrlCrate]

def turns (requests : ι → TargetRequest) :
    World ObservedSite ι TargetStage → ι × TargetSurroundings →
      World ObservedSite ι TargetStage :=
  turn fun party around observed stage => observed.serve (requests party) around stage

def arrivals (start : TargetSite) : World ObservedSite ι TargetStage where
  shared := ⟨start, []⟩
  progress _ := .arrived

/-- The file is that of the map, or it was not written yet and nothing changed. -/
def FileAgrees (start site : TargetSite) : Prop :=
  site.file = some site.targets.records ∨ site.file = start.file ∧ site.targets = start.targets

/-- A run loses no update: what is archived stays so, and after every section the registry is
what its acknowledged changes make of it, with the file that describes it. -/
structure LosesNone (requests : ι → TargetRequest) (start : TargetSite)
    (moves : List (ι × TargetSurroundings)) : Prop where
  archived : (Run.states (turns requests) (arrivals start) moves).Pairwise fun before after =>
    ArchivedStay before.shared.site.targets after.shared.site.targets
  sound : ∀ world ∈ Run.states (turns requests) (arrivals start) moves,
    TargetRegistry.Sound ⟨start.targets, start.events⟩ world.shared.log world.shared.registry
  file : (∀ move ∈ moves, move.2.KeepsFile) →
    ∀ world ∈ Run.states (turns requests) (arrivals start) moves,
      start.FileAgrees world.shared.site

/-- A section that is not refused puts its change in on what it was prepared for. -/
def CopiesFit (world : World ObservedSite ι TargetStage) (move : ι × TargetSurroundings) : Prop :=
  ∀ change, world.progress move.1 = .ready change →
    change.check world.shared.site.targets = .ok () → change.FitsOn world.shared.site.targets

variable {requests : ι → TargetRequest} {start : TargetSite}
  {world : World ObservedSite ι TargetStage} {move : ι × TargetSurroundings}
  {moves : List (ι × TargetSurroundings)}

theorem registry_turns (fits : CopiesFit world move) :
    ((turns requests world move).shared.log = world.shared.log ∧
      (turns requests world move).shared.registry = world.shared.registry) ∨
    ∃ edit, (turns requests world move).shared.log = world.shared.log ++ [edit] ∧
      world.shared.registry.edit edit = some (turns requests world move).shared.registry := by
  have step := @ObservedSite.section_serve _ (requests move.1) move.2 world.shared
    (world.progress move.1)
  generalize reached : world.progress move.1 = stage at step
  have served : (turns requests world move).shared =
      (world.shared.serve (requests move.1) move.2 stage).1 := by
    rw [← reached]
    rfl
  rw [served]
  cases step with
  | quiet leaves log =>
      refine .inl ⟨log, ?_⟩
      unfold ObservedSite.registry
      rw [leaves.targets, leaves.events]
  | @puts change _ puts log =>
      refine .inr ⟨_, log, ?_⟩
      have made := PreparedChange.result_meant (fits change reached puts.checked) puts.checked
      unfold TargetRegistry.edit ObservedSite.registry
      dsimp only
      rw [made, Option.map_some, puts.targets, puts.events, PreparedChange.kind_meant]

theorem fileAgrees_turns (keeps : move.2.KeepsFile) (agrees : start.FileAgrees world.shared.site) :
    start.FileAgrees (turns requests world move).shared.site := by
  have step : ObservedSite.Section world.shared move.2 (world.progress move.1)
      (turns requests world move).shared := ObservedSite.section_serve
  generalize world.progress move.1 = stage at step
  cases step with
  | quiet leaves log =>
      unfold FileAgrees
      rw [leaves.targets]
      rcases leaves.file keeps with same | rewritten
      · rw [same]
        exact agrees
      · exact .inl rewritten
  | puts puts log => exact .inl puts.file

theorem archivedStay_turns (fits : CopiesFit world move) :
    ArchivedStay world.shared.site.targets (turns requests world move).shared.site.targets := by
  rcases @registry_turns ι _ _ requests world move fits with ⟨-, same⟩ | ⟨edit, -, made⟩
  · have kept : (turns requests world move).shared.site.targets = world.shared.site.targets :=
      congrArg TargetRegistry.targets same
    rw [kept]
    exact ArchivedStay.refl _
  · exact TargetRegistry.archivedStay_of_edit made

theorem replayed_turns {first : TargetRegistry} (fits : CopiesFit world move)
    (replayed : Replay.replay TargetRegistry.edit first world.shared.log =
      some world.shared.registry) :
    Replay.replay TargetRegistry.edit first (turns requests world move).shared.log =
      some (turns requests world move).shared.registry := by
  rcases @registry_turns ι _ _ requests world move fits with ⟨log, same⟩ | ⟨edit, log, made⟩
  · rw [log, same]
    exact replayed
  · rw [log, Replay.replay_concat replayed]
    exact made

/-- **Where every copy fits, no update is lost**: an archived target stays archived, every
acknowledged change shows until another one sets the field, names are unique and targets
bounded, and the map, the events and the file are those of the acknowledged changes. -/
theorem losesNone_of_copiesFit (registered : start.targets.Registered)
    (fits : Run.Admissible (turns requests) CopiesFit (arrivals start) moves) :
    LosesNone requests start moves where
  archived :=
    @Run.pairwise_states_of_admissible _ _ _ _
      (fun before after : World ObservedSite ι TargetStage =>
        ArchivedStay before.shared.site.targets after.shared.site.targets)
      (fun _ => .refl _) ArchivedStay.trans (fun _ _ fits => archivedStay_turns fits) _ _ fits
  sound world member := by
    apply TargetRegistry.sound_of_replay registered
    exact @Run.forall_mem_states _ _ _ _
      (fun world : World ObservedSite ι TargetStage => Replay.replay TargetRegistry.edit
        ⟨start.targets, start.events⟩ world.shared.log = some world.shared.registry)
      (fun _ _ replayed fits => replayed_turns fits replayed) _ rfl _ fits world member
  file keeps world member := by
    have admissible : Run.Admissible (turns requests) _ (arrivals start) moves :=
      (Run.admissible_true _ _).and_forall_mem keeps
    exact @Run.forall_mem_states _ _ _ _
      (fun world : World ObservedSite ι TargetStage => start.FileAgrees world.shared.site)
      (fun _ _ agrees keeps => fileAgrees_turns keeps.2 agrees) _ (.inr ⟨rfl, rfl⟩) _ admissible
      world member

end TargetSite

/-! ### A patch that revives an archived target -/

section Examples

open scoped Reference

def mirror : ConnectorTargetRecord where
  schemaVersion := 1
  id := ⟨1⟩
  repositoryId := ⟨2⟩
  tenantId := ⟨3⟩
  name := "Mirror"
  enabled := true
  purposes := {.backup}
  config := .sftp {
    id := Uuid.display ⟨1⟩
    host := "mirror.example"
    port := 22
    username := "backup"
    passwordRef := "CHANCELA_CONNECTOR_SECRET_MIRROR"
    hostKeySha256 := "SHA256:key"
    root := ""
    timeoutSeconds := 60 }
  createdAt := "2026-03-01T10:00:00Z"
  updatedAt := "2026-03-01T10:00:00Z"
  archivedAt := none

def mirrored : TargetSite where
  persistent := true
  targets := Table.empty.insert mirror
  file := some [mirror]
  events := []

def calmTargets : TargetSurroundings where
  actor := "operator"
  permitted := .ok ()
  tenantKnown := true
  networkPolicy := .ok ()
  newId := ⟨4⟩
  newRepositoryId := ⟨5⟩
  now := "2026-03-02T10:00:00Z"
  appended := .ok ()
  written := .ok ()
  committed := .ok ()
  restored := true

/-- A patch that disables the target, and an archive of it. -/
def patchAndArchive (archives : Bool) : TargetRequest :=
  if archives then .archiveTarget ⟨3⟩ ⟨1⟩
  else .patchTarget ⟨3⟩ ⟨1⟩
    { name := none, enabled := some false, purposes := none, config := none }

/-- The archive runs between the copy of the patch and its section. -/
def overtaken : List (Bool × TargetSurroundings) :=
  [false, false, true, true, true, false].map (·, calmTargets)

def inOrder : List (Bool × TargetSurroundings) :=
  [false, false, false, true, true, true].map (·, calmTargets)

/-- **An archived target is active again** after a patch that copied it before. -/
theorem TargetSite.not_losesNone :
    ¬ TargetSite.LosesNone patchAndArchive mirrored overtaken := by
  intro loses
  have stays := List.pairwise_iff_getElem.mp loses.archived 5 6 (by decide) (by decide) (by decide)
  obtain ⟨later, found, archived⟩ := stays ⟨1⟩ (mirror.archived calmTargets.now) rfl rfl
  have revived : later = { mirror with enabled := false, updatedAt := calmTargets.now } :=
    Option.some.inj (found.symm.trans rfl)
  rw [revived] at archived
  cases archived

theorem registered_mirrored : mirrored.targets.Registered where
  unique := by
    intro first second firstIn secondIn _ _
    rw [List.mem_singleton.mp firstIn, List.mem_singleton.mp secondIn]
  bounded tenant := (List.length_filter_le ..).trans (by decide)

/-- A patch that is answered before the archive begins is kept. -/
theorem TargetSite.losesNone_inOrder :
    TargetSite.LosesNone patchAndArchive mirrored inOrder := by
  apply TargetSite.losesNone_of_copiesFit registered_mirrored
  let body : PatchTargetBody :=
    { name := none, enabled := some false, purposes := none, config := none }
  let patched := mirror.patched body calmTargets.now
  refine ⟨?_, ?_, ?_, ?_, ?_, ?_, trivial⟩
  all_goals intro change reached _
  · cases (show TargetStage.arrived = .ready change from reached)
  · cases (show TargetStage.copied mirror = .ready change from reached)
  · obtain rfl := TargetStage.ready.inj
      (show TargetStage.ready (.updated mirror body calmTargets.now) = .ready change from reached)
    exact ⟨mirror, rfl, rfl, rfl, .refl _ _⟩
  · cases (show TargetStage.arrived = .ready change from reached)
  · cases (show TargetStage.copied patched = .ready change from reached)
  · obtain rfl := TargetStage.ready.inj
      (show TargetStage.ready (.archived patched calmTargets.now) = .ready change from reached)
    exact ⟨patched, rfl, .refl _ _⟩

end Examples

end Chancela
