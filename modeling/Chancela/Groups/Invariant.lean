import Chancela.Groups.Handlers

/-! # What holds of groups and libraries

The joint condition on the four maps: members stand in active groups of their tenant, an archived
group has no active library, active names are unique, and the revisions of a library are numbered
from one on, each unlike the one before. Each change that a handler may write keeps it, and leaves
what is archived, and every revision, as it was.
-/

namespace Chancela

namespace GroupMaps

/-- What holds of the maps. -/
structure Sound [Unicode] (maps : GroupMaps) : Prop where
  members : ∀ entity, maps.entities.get entity.id = some entity → ∀ id, entity.groupId = some id →
    ∃ group, maps.groups.get id = some group ∧ group.archivedAt = none ∧
      group.tenantId = entity.tenantId
  libraries : ∀ library, maps.libraries.get library.id = some library →
    ∃ group, maps.groups.get library.groupId = some group ∧ group.tenantId = library.tenantId ∧
      (library.archivedAt = none → group.archivedAt = none)
  groupNames : ∀ first second, maps.groups.get first.id = some first →
    maps.groups.get second.id = some second → first.archivedAt = none → second.archivedAt = none →
      first.tenantId = second.tenantId → nameKey first.name = nameKey second.name → first = second
  libraryNames : ∀ first second, maps.libraries.get first.id = some first →
    maps.libraries.get second.id = some second → first.archivedAt = none →
      second.archivedAt = none → first.groupId = second.groupId →
        nameKey first.name = nameKey second.name → first = second
  numbered : ∀ library, maps.libraries.get library.id = some library → ∃ count, 1 ≤ count ∧
    ∀ number, (maps.revisions.get (library.groupId, library.id, number)).isSome = true ↔
      1 ≤ number ∧ number ≤ count
  filed : ∀ revision, maps.revisions.get revision.key = some revision →
    ∃ library, maps.libraries.get revision.libraryId = some library ∧
      library.groupId = revision.groupId ∧ library.tenantId = revision.tenantId
  consecutive : ∀ first second, maps.revisions.get first.key = some first →
    maps.revisions.get second.key = some second → first.groupId = second.groupId →
      first.libraryId = second.libraryId → second.revision = first.revision + 1 →
        first.templateIds ≠ second.templateIds

/-- What is archived, and every revision, is as it was. -/
structure Settles (before after : GroupMaps) : Prop where
  groups : ∀ id group, before.groups.get id = some group → group.archivedAt ≠ none →
    after.groups.get id = some group
  libraries : ∀ id library, before.libraries.get id = some library → library.archivedAt ≠ none →
    after.libraries.get id = some library
  revisions : ∀ key revision, before.revisions.get key = some revision →
    after.revisions.get key = some revision

theorem Settles.refl (maps : GroupMaps) : maps.Settles maps where
  groups _ _ present _ := present
  libraries _ _ present _ := present
  revisions _ _ present := present

theorem Settles.trans {first second third : GroupMaps} (before : first.Settles second)
    (after : second.Settles third) : first.Settles third where
  groups id group present settled :=
    after.groups id group (before.groups id group present settled) settled
  libraries id library present settled :=
    after.libraries id library (before.libraries id library present settled) settled
  revisions key revision present :=
    after.revisions key revision (before.revisions key revision present)

variable [Unicode] {maps : GroupMaps}

/-! ### Groups -/

theorem Sound.insert_group (sound : maps.Sound) {group : CompanyGroup}
    (active : group.archivedAt = none)
    (free : ensureUniqueGroupName maps.groups group.tenantId (some group.id) group.name = .ok ())
    (fits : ∀ old, maps.groups.get group.id = some old → old.tenantId = group.tenantId) :
    (maps.insertAll { groups := [group] }).Sound := by
  have other := ensureUniqueGroupName_eq_ok_iff.mp free
  have apart : ∀ named, maps.groups.get named.id = some named → named.archivedAt = none →
      named.id ≠ group.id → named.tenantId = group.tenantId →
        nameKey named.name ≠ nameKey group.name := by
    intro named present live unlike tenant
    apply other named present tenant _ fun same => unlike (Option.some.inj same)
    unfold CompanyGroup.isArchived
    rw [live]
    rfl
  have found : ∀ id old, maps.groups.get id = some old → old.archivedAt = none →
      ∃ now, (maps.groups.insert group).get id = some now ∧ now.archivedAt = none ∧
        now.tenantId = old.tenantId := by
    intro id old present live
    rw [Table.get_insert]
    by_cases here : id = group.id
    · subst here
      rw [if_pos rfl]
      exact ⟨group, rfl, active, (fits old present).symm⟩
    · rw [if_neg here]
      exact ⟨old, present, live, rfl⟩
  refine ⟨fun entity member id grouped => ?_, fun library present => ?_,
    fun first second firstIn secondIn firstLive secondLive tenant named => ?_, sound.libraryNames,
    sound.numbered, sound.filed, sound.consecutive⟩
  · obtain ⟨old, present, live, tenant⟩ := sound.members entity member id grouped
    obtain ⟨now, stored, liveNow, same⟩ := found id old present live
    exact ⟨now, stored, liveNow, same.trans tenant⟩
  · obtain ⟨old, stored, tenant, live⟩ := sound.libraries library present
    change ∃ now, (maps.groups.insert group).get library.groupId = some now ∧ _
    rw [Table.get_insert]
    by_cases here : library.groupId = group.id
    · rw [if_pos here]
      rw [here] at stored
      exact ⟨group, rfl, (fits old stored).symm.trans tenant, fun _ => active⟩
    · rw [if_neg here]
      exact ⟨old, stored, tenant, live⟩
  · rcases Table.get_insert_eq_some_iff.mp firstIn with ⟨-, firstNew⟩ | ⟨firstOther, firstOld⟩
    · rcases Table.get_insert_eq_some_iff.mp secondIn with ⟨-, secondNew⟩ | ⟨secondOther, secondOld⟩
      · exact firstNew.symm.trans secondNew
      · subst firstNew
        exact absurd named.symm (apart second secondOld secondLive secondOther tenant.symm)
    · rcases Table.get_insert_eq_some_iff.mp secondIn with ⟨-, secondNew⟩ | ⟨-, secondOld⟩
      · subst secondNew
        exact absurd named (apart first firstOld firstLive firstOther tenant)
      · exact sound.groupNames first second firstOld secondOld firstLive secondLive tenant named

omit [Unicode] in
theorem settles_insert_group {group : CompanyGroup}
    (live : ∀ old, maps.groups.get group.id = some old → old.archivedAt = none) :
    maps.Settles (maps.insertAll { groups := [group] }) where
  groups id old present settled := by
    change (maps.groups.insert group).get id = some old
    rw [Table.get_insert, if_neg]
    · exact present
    intro here
    subst here
    exact settled (live old present)
  libraries _ _ present _ := present
  revisions _ _ present := present

/-- What `archive_group` writes. -/
def archiving (maps : GroupMaps) (current : CompanyGroup) (now : OffsetDateTime) : GroupChange where
  groups := [current.archived now]
  libraries := archivedLibraries current.id maps.libraries now

variable {now : OffsetDateTime}

omit [Unicode] in
theorem get_archivedLibraries {groupId : GroupId} {libraries : LibraryMap} {id : TemplateLibraryId} :
    ((archivedLibraries groupId libraries now).foldl Table.insert libraries).get id =
      (libraries.get id).map fun library =>
        if decide (library.groupId = groupId) && !library.isArchived then library.archived now
        else library :=
  Table.get_foldl_insert_map fun _ => rfl

variable {library : GroupTemplateLibrary}

omit [Unicode] in
theorem isSome_get_of_mem_archivedLibraries {groupId : GroupId} {libraries : LibraryMap}
    (member : library ∈ archivedLibraries groupId libraries now) :
    (libraries.get library.id).isSome = true := by
  obtain ⟨old, kept, rfl⟩ := List.mem_map.mp member
  exact Option.isSome_iff_exists.mpr ⟨old, Table.mem_values.mp (List.mem_filter.mp kept).1⟩

omit [Unicode] in
theorem of_get_archivedLibraries {groupId : GroupId} {libraries : LibraryMap}
    {id : TemplateLibraryId}
    (present : ((archivedLibraries groupId libraries now).foldl Table.insert libraries).get id =
      some library) :
    ∃ old, libraries.get id = some old ∧ old.groupId = library.groupId ∧ old.id = library.id ∧
      old.tenantId = library.tenantId ∧
      (library.archivedAt = none → old = library ∧ old.groupId ≠ groupId) := by
  rw [get_archivedLibraries, Option.map_eq_some_iff] at present
  obtain ⟨old, stored, changed⟩ := present
  refine ⟨old, stored, ?_⟩
  split at changed
  · subst changed
    refine ⟨rfl, rfl, rfl, fun live => ?_⟩
    cases live
  · rename_i spared
    subst changed
    refine ⟨rfl, rfl, rfl, fun live => ⟨rfl, fun here => spared ?_⟩⟩
    rw [here, GroupTemplateLibrary.isArchived, live]
    simp

theorem Sound.archive_group (sound : maps.Sound) {current : CompanyGroup}
    (present : maps.groups.get current.id = some current)
    (empty : ∀ entity, maps.entities.get entity.id = some entity →
      entity.tenantId = current.tenantId → entity.groupId ≠ some current.id) :
    (maps.insertAll (maps.archiving current now)).Sound := by
  have lost : (current.archived now).archivedAt ≠ none := by
    intro live
    cases live
  refine ⟨fun entity member id grouped => ?_, fun library stored => ?_,
    fun first second firstIn secondIn firstLive secondLive => ?_,
    fun first second firstIn secondIn firstLive secondLive => ?_, fun library stored => ?_,
    fun revision stored => ?_, sound.consecutive⟩
  · obtain ⟨group, stored, live, tenant⟩ := sound.members entity member id grouped
    refine ⟨group, Table.get_insert_eq_some_iff.mpr (.inr ⟨fun here => ?_, stored⟩), live, tenant⟩
    have here : id = current.id := here
    subst here
    cases Option.some.inj (present.symm.trans stored)
    exact empty entity member tenant.symm grouped
  · obtain ⟨old, before, sameGroup, -, sameTenant, spared⟩ := of_get_archivedLibraries stored
    have sameId : old.id = library.id := Table.key_of_get before
    rw [← sameId] at before
    obtain ⟨group, held, tenant, live⟩ := sound.libraries old before
    change ∃ after, (maps.groups.insert (current.archived now)).get library.groupId = some after ∧ _
    rw [Table.get_insert, ← sameGroup, CompanyGroup.id_archived]
    by_cases here : old.groupId = current.id
    · rw [if_pos here]
      rw [here] at held
      cases Option.some.inj (present.symm.trans held)
      refine ⟨current.archived now, rfl, tenant.trans sameTenant, fun kept => ?_⟩
      exact absurd here (spared kept).2
    · rw [if_neg here]
      refine ⟨group, held, tenant.trans sameTenant, fun kept => live ?_⟩
      rw [(spared kept).1]
      exact kept
  · rcases Table.get_insert_eq_some_iff.mp firstIn with ⟨-, firstNew⟩ | ⟨-, firstOld⟩
    · exact absurd (firstNew ▸ firstLive) lost
    rcases Table.get_insert_eq_some_iff.mp secondIn with ⟨-, secondNew⟩ | ⟨-, secondOld⟩
    · exact absurd (secondNew ▸ secondLive) lost
    exact sound.groupNames first second firstOld secondOld firstLive secondLive
  · obtain ⟨firstWas, firstOld, -, -, -, firstKept⟩ := of_get_archivedLibraries firstIn
    obtain ⟨secondWas, secondOld, -, -, -, secondKept⟩ := of_get_archivedLibraries secondIn
    obtain ⟨rfl, -⟩ := firstKept firstLive
    obtain ⟨rfl, -⟩ := secondKept secondLive
    exact sound.libraryNames firstWas secondWas firstOld secondOld firstLive secondLive
  · obtain ⟨old, before, sameGroup, sameId, -, -⟩ := of_get_archivedLibraries stored
    rw [← sameId] at before
    obtain ⟨count, first, spans⟩ := sound.numbered old before
    rw [sameGroup, sameId] at spans
    exact ⟨count, first, spans⟩
  · obtain ⟨library, before, sameGroup, sameTenant⟩ := sound.filed revision stored
    change ∃ after, ((archivedLibraries current.id maps.libraries now).foldl Table.insert
      maps.libraries).get revision.libraryId = some after ∧ _
    rw [get_archivedLibraries, before, Option.map_some]
    refine ⟨_, rfl, ?_⟩
    split
    · exact ⟨sameGroup, sameTenant⟩
    · exact ⟨sameGroup, sameTenant⟩

omit [Unicode] in
theorem settles_archiving {current : CompanyGroup}
    (present : maps.groups.get current.id = some current) (live : current.archivedAt = none) :
    maps.Settles (maps.insertAll (maps.archiving current now)) where
  groups id old stored settled := by
    refine Table.get_insert_eq_some_iff.mpr (.inr ⟨fun here => ?_, stored⟩)
    have here : id = current.id := here
    subst here
    cases Option.some.inj (present.symm.trans stored)
    exact settled live
  libraries id old stored settled := by
    change ((archivedLibraries current.id maps.libraries now).foldl Table.insert
      maps.libraries).get id = some old
    rw [get_archivedLibraries, stored, Option.map_some, if_neg]
    intro chosen
    have archived := (Bool.and_eq_true_iff.mp chosen).2
    rw [GroupTemplateLibrary.isArchived, Option.isSome_iff_ne_none.mpr settled] at archived
    cases archived
  revisions _ _ stored := stored

/-! ### Members -/

theorem Sound.insert_entity (sound : maps.Sound) {entity : GroupedEntity}
    (grouped : ∀ id, entity.groupId = some id → ∃ group, maps.groups.get id = some group ∧
      group.archivedAt = none ∧ group.tenantId = entity.tenantId) :
    (maps.insertAll { entities := [entity] }).Sound := by
  refine ⟨fun other member id inside => ?_, sound.libraries, sound.groupNames, sound.libraryNames,
    sound.numbered, sound.filed, sound.consecutive⟩
  rcases Table.get_insert_eq_some_iff.mp member with ⟨-, rfl⟩ | ⟨-, before⟩
  · exact grouped id inside
  · exact sound.members other before id inside

omit [Unicode] in
theorem settles_insert_entity {entity : GroupedEntity} :
    maps.Settles (maps.insertAll { entities := [entity] }) where
  groups _ _ present _ := present
  libraries _ _ present _ := present
  revisions _ _ present := present

/-! ### Libraries and their revisions -/

theorem Sound.group_active (sound : maps.Sound)
    (present : maps.libraries.get library.id = some library) (live : library.archivedAt = none) :
    ∃ group, maps.groups.get library.groupId = some group ∧ group.archivedAt = none ∧
      group.tenantId = library.tenantId := by
  obtain ⟨group, stored, tenant, active⟩ := sound.libraries library present
  exact ⟨group, stored, active live, tenant⟩

theorem Sound.libraryNames_insert (sound : maps.Sound) {library first second : GroupTemplateLibrary}
    (free : library.archivedAt = none →
      ensureUniqueLibraryName maps.libraries library.groupId (some library.id) library.name =
        .ok ())
    (firstIn : (maps.libraries.insert library).get first.id = some first)
    (secondIn : (maps.libraries.insert library).get second.id = some second)
    (firstLive : first.archivedAt = none) (secondLive : second.archivedAt = none)
    (group : first.groupId = second.groupId) (named : nameKey first.name = nameKey second.name) :
    first = second := by
  have apart : library.archivedAt = none → ∀ other, maps.libraries.get other.id = some other →
      other.archivedAt = none → other.id ≠ library.id → other.groupId = library.groupId →
        nameKey other.name ≠ nameKey library.name := by
    intro live other present otherLive unlike sameGroup
    apply ensureUniqueLibraryName_eq_ok_iff.mp (free live) other present sameGroup _
      fun same => unlike (Option.some.inj same)
    unfold GroupTemplateLibrary.isArchived
    rw [otherLive]
    rfl
  rcases Table.get_insert_eq_some_iff.mp firstIn with ⟨-, rfl⟩ | ⟨firstOther, firstOld⟩
  · rcases Table.get_insert_eq_some_iff.mp secondIn with ⟨-, secondNew⟩ | ⟨secondOther, secondOld⟩
    · exact secondNew
    · exact absurd named.symm
        (apart firstLive second secondOld secondLive secondOther group.symm)
  · rcases Table.get_insert_eq_some_iff.mp secondIn with ⟨-, rfl⟩ | ⟨-, secondOld⟩
    · exact absurd named (apart secondLive first firstOld firstLive firstOther group)
    · exact sound.libraryNames first second firstOld secondOld firstLive secondLive group named

theorem Sound.replace_library (sound : maps.Sound) {old library : GroupTemplateLibrary}
    (present : maps.libraries.get library.id = some old) (live : old.archivedAt = none)
    (sameGroup : library.groupId = old.groupId) (sameTenant : library.tenantId = old.tenantId)
    (free : library.archivedAt = none →
      ensureUniqueLibraryName maps.libraries library.groupId (some library.id) library.name =
        .ok ()) : (maps.insertAll { libraries := [library] }).Sound := by
  have sameId : old.id = library.id := Table.key_of_get present
  have here : maps.libraries.get old.id = some old := by rwa [sameId]
  obtain ⟨group, stored, active, tenant⟩ := sound.group_active here live
  refine ⟨sound.members, fun other otherIn => ?_, sound.groupNames,
    fun first second firstIn secondIn firstLive secondLive =>
      sound.libraryNames_insert free firstIn secondIn firstLive secondLive,
    fun other otherIn => ?_, fun revision revisionIn => ?_, sound.consecutive⟩
  · rcases Table.get_insert_eq_some_iff.mp otherIn with ⟨-, rfl⟩ | ⟨-, before⟩
    · rw [sameGroup, sameTenant]
      exact ⟨group, stored, tenant, fun _ => active⟩
    · exact sound.libraries other before
  · rcases Table.get_insert_eq_some_iff.mp otherIn with ⟨-, rfl⟩ | ⟨-, before⟩
    · obtain ⟨count, first, spans⟩ := sound.numbered old here
      rw [sameGroup, ← sameId]
      exact ⟨count, first, spans⟩
    · exact sound.numbered other before
  · obtain ⟨owner, before, ownerGroup, ownerTenant⟩ := sound.filed revision revisionIn
    change ∃ after, (maps.libraries.insert library).get revision.libraryId = some after ∧ _
    rw [Table.get_insert]
    by_cases mine : revision.libraryId = library.id
    · rw [if_pos mine]
      rw [mine] at before
      cases Option.some.inj (present.symm.trans before)
      exact ⟨library, rfl, sameGroup.trans ownerGroup, sameTenant.trans ownerTenant⟩
    · rw [if_neg mine]
      exact ⟨owner, before, ownerGroup, ownerTenant⟩

omit [Unicode] in
theorem settles_insert_library
    (live : ∀ old, maps.libraries.get library.id = some old → old.archivedAt = none) :
    maps.Settles (maps.insertAll { libraries := [library] }) where
  groups _ _ present _ := present
  libraries id old present settled := by
    change (maps.libraries.insert library).get id = some old
    rw [Table.get_insert, if_neg]
    · exact present
    intro here
    subst here
    exact settled (live old present)
  revisions _ _ present := present

theorem Sound.revision_absent (sound : maps.Sound) {key : GroupId × TemplateLibraryId × Nat}
    (absent : maps.libraries.get key.2.1 = none) : maps.revisions.get key = none := by
  rw [Option.eq_none_iff_forall_ne_some]
  intro stored present
  have keyed := Table.key_of_get present
  obtain ⟨owner, ownerIn, -⟩ := sound.filed stored (by rwa [keyed])
  rw [show stored.libraryId = key.2.1 from congrArg (fun key => key.2.1) keyed, absent] at ownerIn
  cases ownerIn

variable {revision : GroupTemplateLibraryRevision}

theorem Sound.insert_library (sound : maps.Sound) (absent : maps.libraries.get library.id = none)
    (grouped : ∃ group, maps.groups.get library.groupId = some group ∧ group.archivedAt = none ∧
      group.tenantId = library.tenantId)
    (free : ensureUniqueLibraryName maps.libraries library.groupId (some library.id) library.name =
      .ok ()) (sameGroup : revision.groupId = library.groupId)
    (sameLibrary : revision.libraryId = library.id)
    (sameTenant : revision.tenantId = library.tenantId) (number : revision.revision = 1) :
    (maps.insertAll { libraries := [library], revisions := [revision] }).Sound := by
  have unfiled : ∀ stored, maps.revisions.get stored.key = some stored →
      stored.libraryId ≠ library.id := by
    intro stored present same
    have nothing : maps.revisions.get stored.key = none :=
      sound.revision_absent ((congrArg maps.libraries.get same).trans absent)
    rw [nothing] at present
    cases present
  obtain ⟨group, groupIn, active, tenant⟩ := grouped
  refine ⟨sound.members, fun other otherIn => ?_, sound.groupNames,
    fun first second firstIn secondIn firstLive secondLive =>
      sound.libraryNames_insert (fun _ => free) firstIn secondIn firstLive secondLive,
    fun other otherIn => ?_, fun stored storedIn => ?_,
    fun first second firstIn secondIn group library next => ?_⟩
  · rcases Table.get_insert_eq_some_iff.mp otherIn with ⟨-, rfl⟩ | ⟨-, before⟩
    · exact ⟨group, groupIn, tenant, fun _ => active⟩
    · exact sound.libraries other before
  · change ∃ count, 1 ≤ count ∧ ∀ place,
      ((maps.revisions.insert revision).get (other.groupId, other.id, place)).isSome = true ↔ _
    rcases Table.get_insert_eq_some_iff.mp otherIn with ⟨-, rfl⟩ | ⟨unlike, before⟩
    · refine ⟨1, le_rfl, fun place => ?_⟩
      rw [Table.get_insert]
      by_cases mine : (library.groupId, library.id, place) = revision.key
      · rw [if_pos mine]
        have same : place = 1 := (Prod.mk.inj (Prod.mk.inj mine).2).2.trans number
        simp [same]
      · rw [if_neg mine]
        have nothing : maps.revisions.get (library.groupId, library.id, place) = none :=
          sound.revision_absent absent
        rw [nothing]
        have apart : place ≠ 1 := by
          rintro rfl
          apply mine
          rw [GroupTemplateLibraryRevision.key, sameGroup, sameLibrary, number]
        simp only [Option.isSome_none, Bool.false_eq_true, false_iff, not_and]
        omega
    · obtain ⟨count, first, spans⟩ := sound.numbered other before
      refine ⟨count, first, fun place => ?_⟩
      rw [Table.get_insert, if_neg]
      · exact spans place
      intro mine
      exact unlike ((Prod.mk.inj (Prod.mk.inj mine).2).1.trans sameLibrary)
  · change ∃ after, (maps.libraries.insert library).get stored.libraryId = some after ∧ _
    rcases Table.get_insert_eq_some_iff.mp storedIn with ⟨-, rfl⟩ | ⟨-, before⟩
    · rw [sameLibrary, Table.get_insert_self]
      exact ⟨library, rfl, sameGroup.symm, sameTenant.symm⟩
    · obtain ⟨owner, ownerIn, owns⟩ := sound.filed stored before
      rw [Table.get_insert, if_neg (unfiled stored before)]
      exact ⟨owner, ownerIn, owns⟩
  · rcases Table.get_insert_eq_some_iff.mp firstIn with ⟨-, rfl⟩ | ⟨-, firstOld⟩
    · rcases Table.get_insert_eq_some_iff.mp secondIn with ⟨-, rfl⟩ | ⟨-, secondOld⟩
      · omega
      · exact absurd (library.symm.trans sameLibrary) (unfiled second secondOld)
    · rcases Table.get_insert_eq_some_iff.mp secondIn with ⟨-, rfl⟩ | ⟨-, secondOld⟩
      · exact absurd (library.trans sameLibrary) (unfiled first firstOld)
      · exact sound.consecutive first second firstOld secondOld group library next

omit [Unicode] in
theorem settles_insert_new_library (absent : maps.libraries.get library.id = none)
    (unwritten : maps.revisions.get revision.key = none) :
    maps.Settles (maps.insertAll { libraries := [library], revisions := [revision] }) where
  groups _ _ present _ := present
  libraries id old present settled := by
    refine Table.get_insert_eq_some_iff.mpr (.inr ⟨fun here => ?_, present⟩)
    rw [here, absent] at present
    cases present
  revisions key old present := by
    refine Table.get_insert_eq_some_iff.mpr (.inr ⟨fun here => ?_, present⟩)
    rw [here, unwritten] at present
    cases present

theorem Sound.numbered_current (sound : maps.Sound)
    (present : maps.libraries.get library.id = some library)
    {previous : GroupTemplateLibraryRevision}
    (current : currentRevision maps.revisions library.groupId library.id = some previous)
    (number : Nat) :
    (maps.revisions.get (library.groupId, library.id, number)).isSome = true ↔
      1 ≤ number ∧ number ≤ previous.revision := by
  obtain ⟨stored, sameGroup, sameLibrary, latest⟩ := currentRevision_eq_some current
  obtain ⟨count, first, spans⟩ := sound.numbered library present
  have within : previous.revision ≤ count := by
    apply (spans previous.revision).mp _ |>.2
    rw [← sameGroup, ← sameLibrary]
    exact Option.isSome_iff_exists.mpr ⟨previous, stored⟩
  have last : count ≤ previous.revision := by
    obtain ⟨revision, held⟩ := Option.isSome_iff_exists.mp ((spans count).mpr ⟨first, le_rfl⟩)
    have keyed := Table.key_of_get held
    obtain ⟨inGroup, rest⟩ := Prod.mk.inj keyed
    obtain ⟨inLibrary, counted⟩ := Prod.mk.inj rest
    rw [← counted]
    exact latest revision (keyed ▸ held) inGroup inLibrary
  rw [spans number, le_antisymm last within]

theorem Sound.insert_revision (sound : maps.Sound)
    (present : maps.libraries.get library.id = some library)
    {previous revision : GroupTemplateLibraryRevision}
    (current : currentRevision maps.revisions library.groupId library.id = some previous)
    (unlike : previous.templateIds ≠ revision.templateIds)
    (sameGroup : revision.groupId = library.groupId) (sameLibrary : revision.libraryId = library.id)
    (sameTenant : revision.tenantId = library.tenantId)
    (number : revision.revision = previous.revision + 1) : (maps.insertAll { revisions := [revision] }).Sound := by
  obtain ⟨stored, inGroup, inLibrary, latest⟩ := currentRevision_eq_some current
  have spans := sound.numbered_current present current
  refine ⟨sound.members, sound.libraries, sound.groupNames, sound.libraryNames,
    fun other otherIn => ?_, fun other otherIn => ?_,
    fun first second firstIn secondIn group owner next => ?_⟩
  · change ∃ count, 1 ≤ count ∧ ∀ place,
      ((maps.revisions.insert revision).get (other.groupId, other.id, place)).isSome = true ↔ _
    by_cases mine : other.id = library.id
    · have same : other = library :=
        Option.some.inj (otherIn.symm.trans ((congrArg maps.libraries.get mine).trans present))
      subst same
      refine ⟨previous.revision + 1, Nat.le_add_left .., fun place => ?_⟩
      rw [Table.get_insert]
      by_cases here : (other.groupId, other.id, place) = revision.key
      · rw [if_pos here]
        have same : place = previous.revision + 1 :=
          (Prod.mk.inj (Prod.mk.inj here).2).2.trans number
        simp [same]
      · rw [if_neg here, spans place]
        have apart : place ≠ previous.revision + 1 := by
          rintro rfl
          apply here
          rw [GroupTemplateLibraryRevision.key, sameGroup, sameLibrary, number]
        omega
    · obtain ⟨count, least, counted⟩ := sound.numbered other otherIn
      refine ⟨count, least, fun place => ?_⟩
      rw [Table.get_insert, if_neg]
      · exact counted place
      intro here
      exact mine ((Prod.mk.inj (Prod.mk.inj here).2).1.trans sameLibrary)
  · rcases Table.get_insert_eq_some_iff.mp otherIn with ⟨-, rfl⟩ | ⟨-, before⟩
    · exact ⟨library, sameLibrary ▸ present, sameGroup.symm, sameTenant.symm⟩
    · exact sound.filed other before
  · rcases Table.get_insert_eq_some_iff.mp firstIn with ⟨-, rfl⟩ | ⟨-, firstOld⟩
    · rcases Table.get_insert_eq_some_iff.mp secondIn with ⟨-, rfl⟩ | ⟨-, secondOld⟩
      · omega
      · -- the new revision is the last one
        have before := latest second secondOld (group.symm.trans sameGroup)
          (owner.symm.trans sameLibrary)
        omega
    · rcases Table.get_insert_eq_some_iff.mp secondIn with ⟨-, rfl⟩ | ⟨-, secondOld⟩
      · have same : first.key = previous.key := by
          unfold GroupTemplateLibraryRevision.key
          rw [inGroup, inLibrary, group, sameGroup, owner, sameLibrary,
            Nat.succ_injective (next.symm.trans number)]
        rw [same] at firstOld
        rw [Option.some.inj (firstOld.symm.trans stored)]
        exact unlike
      · exact sound.consecutive first second firstOld secondOld group owner next

omit [Unicode] in
theorem settles_insert_revision (unwritten : maps.revisions.get revision.key = none) :
    maps.Settles (maps.insertAll { revisions := [revision] }) where
  groups _ _ present _ := present
  libraries _ _ present _ := present
  revisions key old present := by
    refine Table.get_insert_eq_some_iff.mpr (.inr ⟨fun here => ?_, present⟩)
    rw [here, unwritten] at present
    cases present

end GroupMaps

end Chancela
