import Chancela.Groups.Invariant

/-! # Overlapping requests on groups and libraries

Nine handlers overlap wherever a lock lets them. Each of them keeps the protocol of the five locks:
what a map holds changes only under its write lock, all of it only under the ledger lock, the
identifier that a request draws is its own, and rows and maps agree while the ledger lock is not
held for writing. So the condition on the maps holds in every run
(`Chancela.groups_sound_of_states`).
-/

namespace Chancela

open Locking Outcome

variable {ι : Type}

def GroupMaps.NoNewMembers (before after : GroupMaps) : Prop :=
  ∀ id entity group, after.entities.get id = some entity → entity.groupId = some group →
    ∃ old, before.entities.get id = some old ∧ old.groupId = some group

/-- What a lock guards; who writes the groups also keeps entities from joining them. -/
def GroupLock.Same : GroupLock → Mode → GroupSite → GroupSite → Prop
  | .companyGroups, .read, before, after => after.maps.groups = before.maps.groups
  | .companyGroups, .write, before, after =>
      after.maps.groups = before.maps.groups ∧ before.maps.NoNewMembers after.maps
  | .groupTemplateLibraries, _, before, after => after.maps.libraries = before.maps.libraries
  | .groupTemplateLibraryRevisions, _, before, after =>
      after.maps.revisions = before.maps.revisions
  | .entities, _, before, after => after.maps.entities = before.maps.entities
  | .ledger, _, before, after => after = before

/-- The rows agree with the maps while nobody writes under the ledger lock. -/
def GroupLock.AtRest : GroupLock → GroupSite → Prop
  | .ledger, site => site.rows = site.maps
  | _, _ => True

/-- What is stored under an identifier that a request may draw. -/
structure GroupMaps.SameUnder (id : Uuid) (before after : GroupMaps) : Prop where
  groups : (after.groups.get id).isSome = (before.groups.get id).isSome
  libraries : (after.libraries.get id).isSome = (before.libraries.get id).isSome

def groupProtocol [Unicode] (newId : ι → Uuid) : Protocol GroupLock GroupSite ι where
  same := GroupLock.Same
  own party before after := before.maps.SameUnder (newId party) after.maps
  invariant site := site.maps.Sound
  atRest := GroupLock.AtRest
  evolves before after := before.maps.Settles after.maps
  same_read := by
    intro name before after same
    cases name with
    | companyGroups => exact same.1
    | _ => exact same
  same_refl name mode memory := by
    cases name with
    | companyGroups =>
        cases mode with
        | read => exact rfl
        | write => exact ⟨rfl, fun _ entity _ present member => ⟨entity, present, member⟩⟩
    | _ => exact rfl
  same_trans := by
    intro name mode first second third before after
    cases name with
    | companyGroups =>
        cases mode with
        | read => exact Eq.trans after before
        | write =>
            refine ⟨after.1.trans before.1, fun id entity group present member => ?_⟩
            obtain ⟨between, stored, inside⟩ := after.2 id entity group present member
            exact before.2 id between group stored inside
    | _ => exact Eq.trans after before
  atRest_same := by
    intro name before after same settled
    cases name with
    | ledger =>
        have same : after = before := same
        rwa [same]
    | _ => exact trivial
  own_refl _ _ := ⟨rfl, rfl⟩
  own_trans before after :=
    ⟨after.groups.trans before.groups, after.libraries.trans before.libraries⟩
  evolves_refl memory := .refl memory.maps
  evolves_trans before after := before.trans after

section Keeping

variable [Unicode] {newId : ι → Uuid} {party : ι} {held : GroupLock → Option Mode}
  {site later : GroupSite} {change : GroupChange}

/-- A change that a party may put into the maps under what it holds. -/
structure GroupChange.Fits [Unicode] (newId : ι → Uuid) (party : ι)
    (held : GroupLock → Option Mode) (maps : GroupMaps) (change : GroupChange) : Prop where
  sound : (maps.insertAll change).Sound
  settles : maps.Settles (maps.insertAll change)
  groups : held .companyGroups ≠ some .write → change.groups = []
  libraries : held .groupTemplateLibraries ≠ some .write → change.libraries = []
  revisions : held .groupTemplateLibraryRevisions ≠ some .write → change.revisions = []
  entities : held .entities ≠ some .write → change.entities = []
  members : held .companyGroups = none → change.entities = []
  groupIds : ∀ group ∈ change.groups, group.id = newId party ∨
    (maps.groups.get group.id).isSome = true
  libraryIds : ∀ library ∈ change.libraries, library.id = newId party ∨
    (maps.libraries.get library.id).isSome = true

theorem GroupChange.Fits.sameUnder (fits : change.Fits newId party held site.maps)
    (distinct : Function.Injective newId) {other : ι} (apart : other ≠ party) :
    site.maps.SameUnder (newId other) (site.maps.insertAll change) where
  groups := by
    rw [Bool.eq_iff_iff, GroupMaps.insertAll, Table.isSome_get_foldl_insert, or_iff_right_of_imp]
    rintro ⟨group, member, named⟩
    rcases fits.groupIds group member with mine | there
    · exact absurd (distinct (named.symm.trans mine)) apart
    · rwa [named] at there
  libraries := by
    rw [Bool.eq_iff_iff, GroupMaps.insertAll, Table.isSome_get_foldl_insert, or_iff_right_of_imp]
    rintro ⟨library, member, named⟩
    rcases fits.libraryIds library member with mine | there
    · exact absurd (distinct (named.symm.trans mine)) apart
    · rwa [named] at there

omit [Unicode] in
theorem GroupLock.same_of_maps_eq {name : GroupLock} {mode : Mode} (other : name ≠ .ledger)
    (same : later.maps = site.maps) : name.Same mode site later := by
  cases name with
  | ledger => exact absurd rfl other
  | companyGroups =>
      cases mode with
      | read => exact congrArg GroupMaps.groups same
      | write =>
          refine ⟨congrArg GroupMaps.groups same, fun _ entity _ present member => ?_⟩
          rw [same] at present
          exact ⟨entity, present, member⟩
  | groupTemplateLibraries => exact congrArg GroupMaps.libraries same
  | groupTemplateLibraryRevisions => exact congrArg GroupMaps.revisions same
  | entities => exact congrArg GroupMaps.entities same

theorem grants_of_maps_eq (ledger : held .ledger = some .write) (sound : site.maps.Sound)
    (same : later.maps = site.maps) : (groupProtocol newId).Grants party held site later where
  invariant := by
    change later.maps.Sound
    rwa [same]
  evolves := by
    change site.maps.Settles later.maps
    rw [same]
    exact .refl _
  readers name unwritten :=
    GroupLock.same_of_maps_eq (fun here => unwritten (here ▸ ledger)) same
  writer name nothing := by
    refine GroupLock.same_of_maps_eq (fun here => ?_) same
    rw [here, ledger] at nothing
    cases nothing
  atRest name unwritten _ := by
    cases name with
    | ledger => exact absurd ledger unwritten
    | _ => exact trivial
  own other _ := by
    change site.maps.SameUnder (newId other) later.maps
    rw [same]
    exact ⟨rfl, rfl⟩

theorem grants_of_fits (distinct : Function.Injective newId) (ledger : held .ledger = some .write)
    (fits : change.Fits newId party held site.maps) :
    (groupProtocol newId).Grants party held site
      { site with maps := site.maps.insertAll change } := by
  have unwritten : ∀ name, held name ≠ some .write →
      (groupProtocol newId).same name .read site
        { site with maps := site.maps.insertAll change } := by
    intro name unwritten
    cases name with
    | companyGroups =>
        exact congrArg (List.foldl Table.insert site.maps.groups) (fits.groups unwritten)
    | groupTemplateLibraries =>
        exact congrArg (List.foldl Table.insert site.maps.libraries) (fits.libraries unwritten)
    | groupTemplateLibraryRevisions =>
        exact congrArg (List.foldl Table.insert site.maps.revisions) (fits.revisions unwritten)
    | entities =>
        exact congrArg (List.foldl Table.insert site.maps.entities) (fits.entities unwritten)
    | ledger => exact absurd ledger unwritten
  refine ⟨fits.sound, fits.settles, unwritten, fun name nothing => ?_, fun name unwritten _ => ?_,
    fun other apart => fits.sameUnder distinct apart⟩
  · have kept := unwritten name (by rw [nothing]; exact (Option.some_ne_none _).symm)
    cases name with
    | companyGroups =>
        refine ⟨kept, fun id entity group present member => ?_⟩
        rw [GroupMaps.insertAll, fits.members nothing] at present
        exact ⟨entity, present, member⟩
    | _ => exact kept
  · cases name with
    | ledger => exact absurd ledger unwritten
    | _ => exact trivial

theorem keeps_of_reads {program : GroupProgram} (reads : program.Reads)
    (settled : held .ledger = some .write → site.rows = site.maps) :
    (groupProtocol newId).Keeps party held site program := by
  apply Protocol.Keeps.of_reads reads
  intro name writing
  cases name with
  | ledger => exact settled writing
  | _ => exact trivial

variable {locks : List GroupLock}

omit [Unicode] in
theorem reads_answer {result : Except GroupError GroupAnswer} :
    (GroupProgram.answer locks result).Reads := by
  have ends : (Program.done result : GroupProgram).Reads := trivial
  exact ends.release locks

omit [Unicode] in
theorem reads_groupView {group : CompanyGroup} {created : Bool} :
    (Program.release locks (groupView group created)).Reads := by
  have views : (groupView group created).Reads := fun _ _ => trivial
  exact views.release locks

omit [Unicode] in
theorem reads_libraryView {locks kept : List GroupLock} {library : GroupTemplateLibrary} :
    (Program.release locks (libraryView kept library)).Reads := by
  have views : (libraryView kept library).Reads := fun _ => reads_answer
  exact views.release locks

theorem keeps_check {β : Type} {outcome : Except GroupError β} {next : β → GroupProgram}
    (settled : ∀ fault, outcome = .error fault → held .ledger = some .write → site.rows = site.maps)
    (onward : ∀ value, outcome = .ok value →
      (groupProtocol newId).Keeps party held site (next value)) :
    (groupProtocol newId).Keeps party held site (GroupProgram.check locks outcome next) := by
  cases outcome with
  | error fault => exact keeps_of_reads reads_answer (settled fault rfl)
  | ok value => exact onward value rfl

theorem keeps_check_of_none {β : Type} {outcome : Except GroupError β} {next : β → GroupProgram}
    (free : held .ledger = none) (onward : ∀ value, outcome = .ok value →
      (groupProtocol newId).Keeps party held site (next value)) :
    (groupProtocol newId).Keeps party held site (GroupProgram.check locks outcome next) := by
  refine keeps_check (fun fault _ writing => ?_) onward
  rw [free] at writing
  cases writing

theorem Relies.of_maps_eq {after : GroupSite} (free : held .ledger = none)
    (relies : (groupProtocol newId).Relies party held site later) (same : after.maps = later.maps) :
    (groupProtocol newId).Relies party held site after where
  own := by
    change site.maps.SameUnder (newId party) after.maps
    rw [same]
    exact relies.own
  same name mode holds := by
    apply (groupProtocol newId).same_trans (relies.same name mode holds)
    apply GroupLock.same_of_maps_eq _ same
    rintro rfl
    cases free.symm.trans holds

omit [Unicode] in
@[simp] theorem GroupSite.maps_persistWriteThrough {around : GroupSurroundings} :
    (site.persistWriteThrough change around).2.maps = site.maps := by
  unfold persistWriteThrough
  split
  · rfl
  · split <;> rfl

omit [Unicode] in
theorem GroupSite.rows_persistWriteThrough {around : GroupSurroundings} :
    (site.persistWriteThrough change around).2.rows =
      match (site.persistWriteThrough change around).1 with
      | .error _ => site.rows
      | .ok () => site.rows.insertAll change := by
  unfold persistWriteThrough
  cases around.persist with
  | error fault => rfl
  | ok _ =>
      dsimp only
      unfold GroupMaps.transact
      split
      · rename_i failed
        split at failed <;> rfl
      · rename_i rows written
        split at written
        · cases written
        split at written
        · cases written
        · cases written
          rfl

variable [Crates]

omit [Unicode] in
@[simp] theorem GroupSite.maps_tryAppendEvent {call : AppendCall} :
    (site.tryAppendEvent call).2.maps = site.maps := by
  unfold tryAppendEvent
  split <;> rfl

omit [Unicode] in
@[simp] theorem GroupSite.rows_tryAppendEvent {call : AppendCall} :
    (site.tryAppendEvent call).2.rows = site.rows := by
  unfold tryAppendEvent
  split <;> rfl

/-- **Append, write, publish**: what a request writes fits whatever the others leave it. -/
theorem keeps_persistChange {around : GroupSurroundings} {call : AppendCall} {next : GroupProgram}
    (distinct : Function.Injective newId) (reads : next.Reads) (free : held .ledger = none)
    (fits : ∀ later, (groupProtocol newId).Relies party held site later → later.maps.Sound →
      change.Fits newId party held later.maps) :
    (groupProtocol newId).Keeps party held site (persistChange around locks call change next) := by
  intro found relies _ (rests : found.rows = found.maps)
  have writing : Function.update held .ledger (some Mode.write) .ledger = some .write :=
    Function.update_self ..
  have alone : ∀ {before after : GroupSite},
      (groupProtocol newId).Relies party (Function.update held .ledger (some .write)) before after →
        after = before := by
    intro before after stays
    exact stays.same .ledger .write writing
  -- the event
  intro site₁ relies₁ sound₁
  cases alone relies₁
  refine ⟨grants_of_maps_eq writing sound₁ GroupSite.maps_tryAppendEvent, ?_⟩
  refine keeps_check (fun _ _ _ => ?_) fun _ _ => ?_
  · rw [GroupSite.rows_tryAppendEvent, GroupSite.maps_tryAppendEvent, rests]
  -- the rows
  intro site₂ relies₂ sound₂
  cases alone relies₂
  refine ⟨grants_of_maps_eq writing sound₂ GroupSite.maps_persistWriteThrough, ?_⟩
  refine keeps_check (fun fault refused _ => ?_) fun _ written => ?_
  · rw [GroupSite.rows_persistWriteThrough, refused, GroupSite.maps_persistWriteThrough,
      GroupSite.rows_tryAppendEvent, GroupSite.maps_tryAppendEvent, rests]
  -- the maps
  intro site₃ relies₃ sound₃
  cases alone relies₃
  have stays : (groupProtocol newId).Relies party held site
      ((found.tryAppendEvent call).2.persistWriteThrough change around).2 :=
    Relies.of_maps_eq free relies
      (GroupSite.maps_persistWriteThrough.trans GroupSite.maps_tryAppendEvent)
  have suits := fits _ stays sound₃
  refine ⟨grants_of_fits distinct writing ⟨suits.sound, suits.settles, suits.groups,
    suits.libraries, suits.revisions, suits.entities, suits.members, suits.groupIds,
    suits.libraryIds⟩, ?_⟩
  refine keeps_of_reads reads fun _ => ?_
  dsimp only
  rw [GroupSite.rows_persistWriteThrough, written, GroupSite.maps_persistWriteThrough,
    GroupSite.rows_tryAppendEvent, GroupSite.maps_tryAppendEvent, rests]

/-! ### The handlers -/

/-- Nothing is stored under an identifier. -/
structure GroupMaps.Unused (id : Uuid) (maps : GroupMaps) : Prop where
  groups : maps.groups.get id = none
  libraries : maps.libraries.get id = none

omit [Unicode] [Crates] in
theorem GroupMaps.Unused.of_sameUnder {id : Uuid} {before after : GroupMaps}
    (unused : before.Unused id) (same : before.SameUnder id after) : after.Unused id where
  groups := by
    rw [← Option.not_isSome_iff_eq_none, same.groups, unused.groups]
    exact Bool.false_ne_true
  libraries := by
    rw [← Option.not_isSome_iff_eq_none, same.libraries, unused.libraries]
    exact Bool.false_ne_true

section Handlers

variable {around : GroupSurroundings} {tenantId : TenantId} {groupId : GroupId}
  {libraryId : TemplateLibraryId}

omit [Crates] in
theorem ensureUniqueGroupName_weaken {groups : GroupMap} {name : String} {id : GroupId}
    (free : ensureUniqueGroupName groups tenantId none name = .ok ()) :
    ensureUniqueGroupName groups tenantId (some id) name = .ok () := by
  rw [ensureUniqueGroupName_eq_ok_iff] at free ⊢
  intro group present tenant live _
  apply free group present tenant live
  intro nothing
  cases nothing

theorem keeps_createGroup {body : CreateGroupBody} (distinct : Function.Injective newId)
    (drawn : around.newId = newId party) (unused : site.maps.Unused (newId party)) :
    (groupProtocol newId).Keeps party (fun _ => none) site (createGroup around tenantId body) := by
  unfold createGroup
  refine keeps_check_of_none rfl fun built accepted => ?_
  obtain ⟨group, payload⟩ := built
  have shape : group.id = newId party ∧ group.tenantId = tenantId ∧ group.archivedAt = none := by
    simp only [bind_eq_ok_iff] at accepted
    obtain ⟨_, -, _, -, name, -, description, -, bytes, -, result⟩ := accepted
    cases result
    exact ⟨drawn, rfl, rfl⟩
  obtain ⟨named, tenant, active⟩ := shape
  intro found reliesFound _ _
  refine keeps_check_of_none rfl fun _ free => ?_
  refine keeps_persistChange distinct reads_groupView rfl
    fun later relies sound => ?_
  have same : later.maps.groups = found.maps.groups :=
    (relies.same .companyGroups .write rfl).1
  have absent : later.maps.groups.get group.id = none := by
    rw [named]
    exact ((unused.of_sameUnder reliesFound.own).of_sameUnder relies.own).groups
  rw [← same] at free
  refine ⟨sound.insert_group active ?_ fun old present => ?_,
    GroupMaps.settles_insert_group fun old present => ?_, fun unwritten => absurd rfl unwritten,
    fun _ => rfl, fun _ => rfl, fun _ => rfl, fun _ => rfl, fun written member => ?_,
    fun _ member => ?_⟩
  · rw [tenant]
    exact ensureUniqueGroupName_weaken free
  · rw [absent] at present
    cases present
  · rw [absent] at present
    cases present
  · rw [List.mem_singleton.mp member]
    exact .inl named
  · cases member

theorem keeps_patchGroup {body : PatchNamedBody} (distinct : Function.Injective newId) :
    (groupProtocol newId).Keeps party (fun _ => none) site
      (patchGroup around tenantId groupId body) := by
  unfold patchGroup
  refine keeps_check_of_none rfl fun _ _ => ?_
  intro found _ _ _
  refine keeps_check_of_none rfl fun pair accepted => ?_
  obtain ⟨current, next⟩ := pair
  simp only [bind_eq_ok_iff] at accepted
  obtain ⟨group, path, _, live, patched, built, _, free, result⟩ := accepted
  cases result
  obtain ⟨present, tenant⟩ := groupForPath_eq_ok_iff.mp path
  have shape := PatchNamedBody.group_eq_ok built
  have keyed : current.id = groupId := Table.key_of_get present
  dsimp only
  split
  · exact keeps_of_reads reads_groupView fun held => by cases held
  · refine keeps_check_of_none rfl fun payload _ => ?_
    refine keeps_persistChange distinct reads_groupView rfl
      fun later relies sound => ?_
    have same : later.maps.groups = found.maps.groups :=
      (relies.same .companyGroups .write rfl).1
    rw [← same] at present free
    have active : current.archivedAt = none :=
      Option.not_isSome_iff_eq_none.mp (rejectIf_eq_ok_iff.mp live)
    have nextId : next.id = groupId := (congrArg CompanyGroup.id shape).trans keyed
    have nextTenant : next.tenantId = tenantId :=
      (congrArg CompanyGroup.tenantId shape).trans tenant
    refine ⟨sound.insert_group ((congrArg CompanyGroup.archivedAt shape).trans active) ?_
        fun old stored => ?_, GroupMaps.settles_insert_group fun old stored => ?_,
      fun unwritten => absurd rfl unwritten, fun _ => rfl, fun _ => rfl, fun _ => rfl, fun _ => rfl,
      fun written member => ?_, fun _ member => ?_⟩
    · dsimp only
      rw [nextTenant, nextId]
      exact free
    · dsimp only at stored ⊢
      rw [nextId, present] at stored
      cases stored
      exact tenant.trans nextTenant.symm
    · dsimp only at stored
      rw [nextId, present] at stored
      cases stored
      exact active
    · rw [List.mem_singleton.mp member]
      refine .inr ?_
      dsimp only
      rw [nextId, present]
      rfl
    · cases member

theorem keeps_archiveGroup (distinct : Function.Injective newId) :
    (groupProtocol newId).Keeps party (fun _ => none) site
      (archiveGroup around tenantId groupId) := by
  unfold archiveGroup
  refine keeps_check_of_none rfl fun _ _ => ?_
  intro found₁ _ _ _
  refine keeps_check_of_none rfl fun current path => ?_
  obtain ⟨present, tenant⟩ := groupForPath_eq_ok_iff.mp path
  have keyed : current.id = groupId := Table.key_of_get present
  dsimp only
  split
  · exact keeps_of_reads reads_answer fun held => by cases held
  rename_i live
  have active : current.archivedAt = none := Option.not_isSome_iff_eq_none.mp live
  intro found₂ relies₂ _ _ found₃ relies₃ sound₃ _
  refine keeps_check_of_none rfl fun _ empty => ?_
  intro found₄ relies₄ _
  refine ⟨fun writing => (by cases writing), keeps_check_of_none rfl fun payload _ => ?_⟩
  refine keeps_persistChange distinct reads_answer rfl fun later relies₅ sound => ?_
  -- the groups are the same all along, and nobody has joined since the members were looked at
  have groups₃ : found₃.maps.groups = found₁.maps.groups :=
    (relies₃.same .companyGroups .write rfl).1.trans (relies₂.same .companyGroups .write rfl).1
  obtain ⟨groups₄, joined₄⟩ := relies₄.same .companyGroups .write rfl
  obtain ⟨groups₅, joined₅⟩ := relies₅.same .companyGroups .write rfl
  have libraries₄ : found₄.maps.libraries = found₃.maps.libraries :=
    relies₄.same .groupTemplateLibraries .write rfl
  have libraries₅ : later.maps.libraries = found₄.maps.libraries :=
    relies₅.same .groupTemplateLibraries .write rfl
  have libraries : found₃.maps.libraries = later.maps.libraries :=
    (libraries₅.trans libraries₄).symm
  have present₃ : found₃.maps.groups.get current.id = some current := by
    rw [groups₃, keyed]
    exact present
  have stored : later.maps.groups.get current.id = some current := by
    rw [groups₅, groups₄]
    exact present₃
  have nobody : ∀ entity, later.maps.entities.get entity.id = some entity →
      entity.groupId ≠ some current.id := by
    intro entity inLater member
    obtain ⟨between, inFourth, memberFourth⟩ := joined₅ _ entity _ inLater member
    obtain ⟨old, inThird, memberThird⟩ := joined₄ _ between _ inFourth memberFourth
    have keyedThird := Table.key_of_get inThird
    have sameId : old.id = entity.id := keyedThird
    rw [← sameId] at inThird
    obtain ⟨group, groupIn, -, groupTenant⟩ := sound₃.members old inThird _ memberThird
    cases Option.some.inj (present₃.symm.trans groupIn)
    apply rejectIf_eq_ok_iff.mp empty
    refine List.any_eq_true.mpr ⟨old, Table.mem_values.mpr inThird, ?_⟩
    rw [← groupTenant, tenant, memberThird, keyed]
    simp
  have written : GroupChange.mk [current.archived around.now]
      (archivedLibraries groupId found₃.maps.libraries around.now) [] [] =
        later.maps.archiving current around.now := by
    rw [GroupMaps.archiving, keyed, libraries]
  rw [written]
  refine ⟨sound.archive_group stored fun entity inLater _ => nobody entity inLater,
    GroupMaps.settles_archiving stored active, fun unwritten => absurd rfl unwritten,
    fun unwritten => absurd rfl unwritten, fun _ => rfl, fun _ => rfl, fun _ => rfl,
    fun written member => ?_, fun library member => ?_⟩
  · rw [List.mem_singleton.mp member]
    refine .inr ?_
    rw [CompanyGroup.id_archived, stored]
    rfl
  · exact .inr (GroupMaps.isSome_get_of_mem_archivedLibraries member)

theorem keeps_assignEntity {entityId : EntityId} (distinct : Function.Injective newId) :
    (groupProtocol newId).Keeps party (fun _ => none) site
      (assignEntity around tenantId groupId entityId) := by
  unfold assignEntity
  refine keeps_check_of_none rfl fun _ _ => ?_
  intro found₁ _ _ _
  refine keeps_check_of_none rfl fun group path => ?_
  obtain ⟨present, tenant⟩ := groupForPath_eq_ok_iff.mp path
  intro found₂ relies₂ _ _
  refine keeps_check_of_none rfl fun pair accepted => ?_
  obtain ⟨current, next⟩ := pair
  simp only [bind_eq_ok_iff] at accepted
  obtain ⟨entity, -, assigned, built, result⟩ := accepted
  cases result
  obtain ⟨active, fits, rfl⟩ := assignedEntity_eq_ok built
  dsimp only
  split
  · exact keeps_of_reads reads_answer fun held => by cases held
  refine keeps_check_of_none rfl fun payload _ => ?_
  refine keeps_persistChange distinct reads_answer rfl fun later relies sound => ?_
  have groups₂ : found₂.maps.groups = found₁.maps.groups := relies₂.same .companyGroups .read rfl
  have groups : later.maps.groups = found₂.maps.groups := relies.same .companyGroups .read rfl
  refine ⟨sound.insert_entity fun id member => ?_, GroupMaps.settles_insert_entity, fun _ => rfl,
    fun _ => rfl, fun _ => rfl, fun unwritten => absurd rfl unwritten,
    fun nothing => (by cases nothing),
    fun _ member => (by cases member), fun _ member => (by cases member)⟩
  refine ⟨group, ?_, active, fits⟩
  have named : group.id = id := Option.some.inj member
  have keyed : group.id = groupId := Table.key_of_get present
  rw [← named, keyed, groups, groups₂]
  exact present

theorem keeps_removeEntity {entityId : EntityId} (distinct : Function.Injective newId) :
    (groupProtocol newId).Keeps party (fun _ => none) site
      (removeEntity around tenantId groupId entityId) := by
  unfold removeEntity
  refine keeps_check_of_none rfl fun _ _ => ?_
  intro found₁ _ _ _
  refine keeps_check_of_none rfl fun group _ => ?_
  intro found₂ _ _ _
  refine keeps_check_of_none rfl fun pair accepted => ?_
  obtain ⟨next, payload⟩ := pair
  simp only [bind_eq_ok_iff] at accepted
  obtain ⟨entity, -, _, -, bytes, -, result⟩ := accepted
  cases result
  refine keeps_persistChange distinct reads_answer rfl fun later relies sound => ?_
  refine ⟨sound.insert_entity fun id member => (by cases member), GroupMaps.settles_insert_entity,
    fun _ => rfl, fun _ => rfl, fun _ => rfl, fun unwritten => absurd rfl unwritten,
    fun nothing => (by cases nothing), fun _ member => (by cases member),
    fun _ member => by cases member⟩

omit [Crates] in
theorem ensureUniqueLibraryName_weaken {libraries : LibraryMap} {name : String}
    {id : TemplateLibraryId} (free : ensureUniqueLibraryName libraries groupId none name = .ok ()) :
    ensureUniqueLibraryName libraries groupId (some id) name = .ok () := by
  rw [ensureUniqueLibraryName_eq_ok_iff] at free ⊢
  intro library present group live _
  apply free library present group live
  intro nothing
  cases nothing

theorem keeps_createTemplateLibrary {body : CreateTemplateLibraryBody}
    (distinct : Function.Injective newId) (drawn : around.newId = newId party)
    (unused : site.maps.Unused (newId party)) :
    (groupProtocol newId).Keeps party (fun _ => none) site
      (createTemplateLibrary around tenantId groupId body) := by
  unfold createTemplateLibrary
  refine keeps_check_of_none rfl fun templateIds _ => ?_
  intro found₁ relies₁ _ _
  refine keeps_check_of_none rfl fun built accepted => ?_
  obtain ⟨library, revision, payload⟩ := built
  simp only [bind_eq_ok_iff] at accepted
  obtain ⟨group, path, _, live, name, -, description, -, bytes, -, result⟩ := accepted
  cases result
  obtain ⟨present, tenant⟩ := groupForPath_eq_ok_iff.mp path
  have keyed : group.id = groupId := Table.key_of_get present
  have active : group.archivedAt = none :=
    Option.not_isSome_iff_eq_none.mp (rejectIf_eq_ok_iff.mp live)
  intro found₂ relies₂ _ _
  refine keeps_check_of_none rfl fun _ free => ?_
  intro found₃ relies₃ _ _
  refine keeps_persistChange distinct reads_answer rfl fun later relies sound => ?_
  have groups : later.maps.groups = found₁.maps.groups :=
    ((relies.same .companyGroups .read rfl).trans (relies₃.same .companyGroups .read rfl)).trans
      (relies₂.same .companyGroups .read rfl)
  have libraries : later.maps.libraries = found₂.maps.libraries :=
    (relies.same .groupTemplateLibraries .write rfl).trans
      (relies₃.same .groupTemplateLibraries .write rfl)
  have absent : later.maps.libraries.get around.newId = none := by
    rw [drawn]
    exact ((((unused.of_sameUnder relies₁.own).of_sameUnder relies₂.own).of_sameUnder
      relies₃.own).of_sameUnder relies.own).libraries
  rw [← libraries] at free
  rw [← groups, ← keyed] at present
  refine ⟨sound.insert_library absent ⟨group, present, active, rfl⟩ ?_ keyed.symm rfl tenant.symm
      rfl, GroupMaps.settles_insert_new_library absent (sound.revision_absent absent),
    fun _ => rfl, fun unwritten => absurd rfl unwritten, fun unwritten => absurd rfl unwritten,
    fun _ => rfl, fun _ => rfl, fun _ member => (by cases member), fun written member => ?_⟩
  · rw [← keyed] at free
    exact ensureUniqueLibraryName_weaken free
  · rw [List.mem_singleton.mp member]
    exact .inl drawn

omit [Crates] in
theorem fits_replace_library {library old : GroupTemplateLibrary}
    (writing : held .groupTemplateLibraries = some .write)
    (sound : later.maps.Sound) (present : later.maps.libraries.get library.id = some old)
    (live : old.archivedAt = none) (sameGroup : library.groupId = old.groupId)
    (sameTenant : library.tenantId = old.tenantId)
    (free : library.archivedAt = none → ensureUniqueLibraryName later.maps.libraries
      library.groupId (some library.id) library.name = .ok ()) :
    GroupChange.Fits newId party held later.maps { libraries := [library] } where
  sound := sound.replace_library present live sameGroup sameTenant free
  settles := by
    apply GroupMaps.settles_insert_library
    intro stored inMaps
    rwa [← Option.some.inj (present.symm.trans inMaps)]
  groups _ := rfl
  libraries unwritten := absurd writing unwritten
  revisions _ := rfl
  entities _ := rfl
  members _ := rfl
  groupIds _ member := by cases member
  libraryIds written member := by
    rw [List.mem_singleton.mp member, present]
    exact .inr rfl

theorem keeps_patchTemplateLibrary {body : PatchNamedBody} (distinct : Function.Injective newId) :
    (groupProtocol newId).Keeps party (fun _ => none) site
      (patchTemplateLibrary around tenantId groupId libraryId body) := by
  unfold patchTemplateLibrary
  refine keeps_check_of_none rfl fun _ _ => ?_
  intro found₁ _ _ _
  refine keeps_check_of_none rfl fun _ _ => ?_
  intro found₂ _ _ _
  refine keeps_check_of_none rfl fun pair accepted => ?_
  obtain ⟨current, next⟩ := pair
  simp only [bind_eq_ok_iff] at accepted
  obtain ⟨library, path, _, live, patched, built, _, free, result⟩ := accepted
  cases result
  obtain ⟨present, tenant, group⟩ := libraryForPath_eq_ok_iff.mp path
  have shape := PatchNamedBody.library_eq_ok built
  have keyed : current.id = libraryId := Table.key_of_get present
  dsimp only
  split
  · exact keeps_of_reads reads_libraryView fun held => by cases held
  refine keeps_check_of_none rfl fun payload _ => ?_
  refine keeps_persistChange distinct reads_libraryView rfl fun later relies sound => ?_
  have libraries : later.maps.libraries = found₂.maps.libraries :=
    relies.same .groupTemplateLibraries .write rfl
  rw [← libraries] at present free
  have sameId : next.id = libraryId := (congrArg GroupTemplateLibrary.id shape).trans keyed
  have sameGroup : next.groupId = current.groupId :=
    (congrArg GroupTemplateLibrary.groupId shape).trans rfl
  have sameTenant : next.tenantId = current.tenantId :=
    (congrArg GroupTemplateLibrary.tenantId shape).trans rfl
  refine fits_replace_library rfl sound (?_ : _ = some current)
    (Option.not_isSome_iff_eq_none.mp (rejectIf_eq_ok_iff.mp live)) sameGroup sameTenant
    fun _ => ?_
  · dsimp only
    rw [sameId]
    exact present
  · dsimp only
    rw [sameGroup, group, sameId]
    exact free

theorem keeps_archiveTemplateLibrary (distinct : Function.Injective newId) :
    (groupProtocol newId).Keeps party (fun _ => none) site
      (archiveTemplateLibrary around tenantId groupId libraryId) := by
  unfold archiveTemplateLibrary
  refine keeps_check_of_none rfl fun _ _ => ?_
  intro found₁ _ _ _
  refine keeps_check_of_none rfl fun _ _ => ?_
  intro found₂ _ _ _
  refine keeps_check_of_none rfl fun current path => ?_
  obtain ⟨present, tenant, group⟩ := libraryForPath_eq_ok_iff.mp path
  have keyed : current.id = libraryId := Table.key_of_get present
  dsimp only
  split
  · exact keeps_of_reads reads_answer fun held => by cases held
  rename_i live
  refine keeps_check_of_none rfl fun payload _ => ?_
  refine keeps_persistChange distinct reads_answer rfl fun later relies sound => ?_
  have libraries : later.maps.libraries = found₂.maps.libraries :=
    relies.same .groupTemplateLibraries .write rfl
  rw [← libraries, ← keyed] at present
  exact fits_replace_library rfl sound present (Option.not_isSome_iff_eq_none.mp live) rfl rfl
    fun kept => by cases kept

theorem keeps_appendTemplateLibraryRevision {templateIds : List String}
    (distinct : Function.Injective newId) :
    (groupProtocol newId).Keeps party (fun _ => none) site
      (appendTemplateLibraryRevision around tenantId groupId libraryId templateIds) := by
  unfold appendTemplateLibraryRevision
  refine keeps_check_of_none rfl fun ids _ => ?_
  intro found₁ _ _ _
  refine keeps_check_of_none rfl fun _ _ => ?_
  intro found₂ _ _ _
  refine keeps_check_of_none rfl fun _ opened => ?_
  simp only [bind_eq_ok_iff] at opened
  obtain ⟨library, path, -⟩ := opened
  obtain ⟨present, tenant, group⟩ := libraryForPath_eq_ok_iff.mp path
  have keyed : library.id = libraryId := Table.key_of_get present
  intro found₃ relies₃ _ _
  refine keeps_check_of_none rfl fun built accepted => ?_
  obtain ⟨revision, payload⟩ := built
  simp only [bind_eq_ok_iff] at accepted
  obtain ⟨following, next, bytes, -, result⟩ := accepted
  cases result
  refine keeps_persistChange distinct reads_answer rfl fun later relies sound => ?_
  have libraries : later.maps.libraries = found₂.maps.libraries :=
    (relies.same .groupTemplateLibraries .read rfl).trans
      (relies₃.same .groupTemplateLibraries .read rfl)
  have revisions : later.maps.revisions = found₃.maps.revisions :=
    relies.same .groupTemplateLibraryRevisions .write rfl
  rw [← libraries, ← keyed] at present
  unfold nextRevision at next
  rw [← revisions, ← keyed, ← group] at next
  cases last : currentRevision later.maps.revisions library.groupId library.id with
  | none =>
      rw [last] at next
      cases next
  | some previous =>
      rw [last] at next
      simp only [bind_eq_ok_iff] at next
      obtain ⟨_, unlike, _, -, written⟩ := next
      cases written
      have fresh : later.maps.revisions.get (library.groupId, library.id, previous.revision + 1) =
          none := by
        rw [← Option.not_isSome_iff_eq_none, sound.numbered_current present last]
        omega
      refine ⟨sound.insert_revision present last (rejectIf_eq_ok_iff.mp unlike) rfl rfl tenant.symm
          rfl, GroupMaps.settles_insert_revision fresh, fun _ => rfl, fun _ => rfl,
        fun unwritten => absurd rfl unwritten, fun _ => rfl, fun _ => rfl,
        fun _ member => (by cases member), fun _ member => (by cases member)⟩

/-- **Every request keeps the protocol.** -/
theorem keeps_program (request : GroupRequest) (distinct : Function.Injective newId)
    (drawn : around.newId = newId party) (unused : site.maps.Unused (newId party)) :
    (groupProtocol newId).Keeps party (fun _ => none) site (request.program around) := by
  cases request with
  | createGroup _ _ => exact keeps_createGroup distinct drawn unused
  | patchGroup _ _ _ => exact keeps_patchGroup distinct
  | archiveGroup _ _ => exact keeps_archiveGroup distinct
  | assignEntity _ _ _ => exact keeps_assignEntity distinct
  | removeEntity _ _ _ => exact keeps_removeEntity distinct
  | createTemplateLibrary _ _ _ => exact keeps_createTemplateLibrary distinct drawn unused
  | patchTemplateLibrary _ _ _ _ => exact keeps_patchTemplateLibrary distinct
  | archiveTemplateLibrary _ _ _ => exact keeps_archiveTemplateLibrary distinct
  | appendTemplateLibraryRevision _ _ _ _ => exact keeps_appendTemplateLibraryRevision distinct

end Handlers

end Keeping

/-! ### Runs -/

/-- No groups yet: no libraries either, no revisions, and no entity in a group. -/
structure GroupMaps.Bare (maps : GroupMaps) : Prop where
  groups : ∀ id, maps.groups.get id = none
  libraries : ∀ id, maps.libraries.get id = none
  revisions : ∀ key, maps.revisions.get key = none
  entities : ∀ id entity, maps.entities.get id = some entity → entity.groupId = none

section Runs

variable [Unicode]

theorem GroupMaps.Bare.sound {maps : GroupMaps} (bare : maps.Bare) : maps.Sound where
  members entity present id member := by
    rw [bare.entities _ entity present] at member
    cases member
  libraries library present := by
    rw [bare.libraries] at present
    cases present
  groupNames first _ present := by
    rw [bare.groups] at present
    cases present
  libraryNames first _ present := by
    rw [bare.libraries] at present
    cases present
  numbered library present := by
    rw [bare.libraries] at present
    cases present
  filed revision present := by
    rw [bare.revisions] at present
    cases present
  consecutive first _ present := by
    rw [bare.revisions] at present
    cases present

variable [Crates] [DecidableEq ι]

/-- A site where nobody holds a lock, and a request of each party. -/
def groupStart (site : GroupSite) (arounds : ι → GroupSurroundings) (requests : ι → GroupRequest) :
    Interleave.World (Guarded GroupLock GroupSite ι) ι GroupProgram :=
  ⟨⟨fun _ => .free, site⟩, fun party => (requests party).program (arounds party)⟩

def groupStates (site : GroupSite) (arounds : ι → GroupSurroundings) (requests : ι → GroupRequest)
    (moves : List (ι × Unit)) :
    List (Interleave.World (Guarded GroupLock GroupSite ι) ι GroupProgram) :=
  Run.states (Interleave.turn fun party (_ : Unit) => Locking.run party)
    (groupStart site arounds requests) moves

/-- **Groups and libraries stay sound** under every overlap of requests, refused, failed or
accepted; what is archived and every revision stays as it is, and the maps agree with the rows of
the durable store whenever nobody writes under the ledger lock. -/
theorem groups_sound_of_states {site : GroupSite} {arounds : ι → GroupSurroundings}
    (bare : site.maps.Bare) (agree : site.rows = site.maps)
    (distinct : Function.Injective fun party => (arounds party).newId)
    (requests : ι → GroupRequest) (moves : List (ι × Unit)) :
    ((groupStates site arounds requests moves).Pairwise fun before after =>
      before.shared.memory.maps.Settles after.shared.memory.maps) ∧
    ∀ world ∈ groupStates site arounds requests moves, world.shared.memory.maps.Sound ∧
      ((world.shared.locks .ledger).writer = none →
        world.shared.memory.rows = world.shared.memory.maps) := by
  have initial : ((groupProtocol fun party => (arounds party).newId).discipline
      (Except GroupError GroupAnswer)).Holds (groupStart site arounds requests) := by
    refine Protocol.holds_of_free bare.sound (fun name => ?_) fun party => ?_
    · cases name with
      | ledger => exact agree
      | _ => exact trivial
    · exact keeps_program (requests party) distinct rfl ⟨bare.groups _, bare.libraries _⟩
  refine ⟨Protocol.evolves_states initial moves, fun world member => ?_⟩
  have common := Protocol.holds initial moves world member
  exact ⟨common.invariant, common.atRest .ledger⟩

end Runs

section Example

open scoped Reference

/-- What a permitted request finds, with the identifier that it draws. -/
def permittedAs (newId : Uuid) : GroupSurroundings where
  actor := "ana"
  requirePermission := .ok ()
  tenantKnown := true
  now := unixEpoch
  newId := newId
  eventId := newId
  templateIdExists _ := .ok true
  payload _ := .ok []
  persist := .ok ()
  uniqueViolation := ""

def emptyGroupSite : GroupSite where
  maps := ⟨.empty, .empty, .empty, .empty⟩
  rows := ⟨.empty, .empty, .empty, .empty⟩
  ledger := .new

theorem bare_emptyGroupSite : emptyGroupSite.maps.Bare where
  groups _ := Table.get_empty
  libraries _ := Table.get_empty
  revisions _ := Table.get_empty
  entities _ entity present := by
    rw [emptyGroupSite, Table.get_empty] at present
    cases present

/-- One request creates a group, and another, meanwhile, archives it. -/
def createAndArchive : Bool → GroupRequest
  | false => .createGroup ⟨1⟩ ⟨"Grupo", none⟩
  | true => .archiveGroup ⟨1⟩ ⟨2⟩

def drawnBy : Bool → GroupSurroundings
  | false => permittedAs ⟨2⟩
  | true => permittedAs ⟨3⟩

theorem groups_sound_createAndArchive :
    ((groupStates emptyGroupSite drawnBy createAndArchive
        [(false, ()), (true, ()), (false, ()), (true, ())]).Pairwise fun before after =>
      before.shared.memory.maps.Settles after.shared.memory.maps) ∧
    ∀ world ∈ groupStates emptyGroupSite drawnBy createAndArchive
        [(false, ()), (true, ()), (false, ()), (true, ())],
      world.shared.memory.maps.Sound ∧ ((world.shared.locks .ledger).writer = none →
        world.shared.memory.rows = world.shared.memory.maps) := by
  apply groups_sound_of_states bare_emptyGroupSite rfl
  intro first second same
  cases first <;> cases second <;> first | rfl | exact absurd same (by decide)

end Example

end Chancela
