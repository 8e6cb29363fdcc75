import Chancela.Api.Acts
import Chancela.Crates.Unicode
import Chancela.Foundation.Outcome
import Chancela.Foundation.Table

/-! # Company groups and their template libraries

A group gathers entities of one tenant, and shares template libraries among them. A library
keeps every revision of its list of templates. Groups and libraries are archived, never deleted.
-/

namespace Chancela

open Outcome

abbrev GroupId := Uuid
abbrev TemplateLibraryId := Uuid

/-- An entity with the group it is a member of. -/
structure GroupedEntity extends Entity where
  groupId : Option GroupId
deriving DecidableEq

def GroupedEntity.inGroup (entity : GroupedEntity) (group : Option GroupId) : GroupedEntity :=
  { entity with groupId := group }

structure CompanyGroup where
  id : GroupId
  tenantId : TenantId
  name : String
  description : Option String
  createdAt : OffsetDateTime
  updatedAt : OffsetDateTime
  archivedAt : Option OffsetDateTime
deriving DecidableEq

namespace CompanyGroup

/-- `CompanyGroup::new`, with the identifier it draws. -/
def new (id : GroupId) (tenantId : TenantId) (name : String) (now : OffsetDateTime) :
    CompanyGroup :=
  ⟨id, tenantId, name, none, now, now, none⟩

def canContain (group : CompanyGroup) (entity : GroupedEntity) : Bool :=
  decide (group.tenantId = entity.tenantId)

def isArchived (group : CompanyGroup) : Bool := group.archivedAt.isSome

/-- As `archive_group` leaves it. -/
def archived (group : CompanyGroup) (now : OffsetDateTime) : CompanyGroup :=
  { group with archivedAt := some now, updatedAt := now }

@[simp] theorem id_archived (group : CompanyGroup) (now : OffsetDateTime) :
    (group.archived now).id = group.id := rfl

end CompanyGroup

structure GroupTemplateLibrary where
  id : TemplateLibraryId
  groupId : GroupId
  tenantId : TenantId
  name : String
  description : Option String
  createdAt : OffsetDateTime
  updatedAt : OffsetDateTime
  archivedAt : Option OffsetDateTime
deriving DecidableEq

namespace GroupTemplateLibrary

/-- `GroupTemplateLibrary::new`, with the identifier it draws. -/
def new (id : TemplateLibraryId) (group : CompanyGroup) (name : String) (now : OffsetDateTime) :
    GroupTemplateLibrary :=
  ⟨id, group.id, group.tenantId, name, none, now, now, none⟩

def isArchived (library : GroupTemplateLibrary) : Bool := library.archivedAt.isSome

def archived (library : GroupTemplateLibrary) (now : OffsetDateTime) : GroupTemplateLibrary :=
  { library with archivedAt := some now, updatedAt := now }

end GroupTemplateLibrary

structure GroupTemplateLibraryRevision where
  groupId : GroupId
  libraryId : TemplateLibraryId
  tenantId : TenantId
  revision : Nat
  templateIds : List String
  createdAt : OffsetDateTime
  createdBy : String
deriving DecidableEq

def GroupTemplateLibraryRevision.key (revision : GroupTemplateLibraryRevision) :
    GroupId × TemplateLibraryId × Nat :=
  (revision.groupId, revision.libraryId, revision.revision)

abbrev GroupMap := Table CompanyGroup.id
abbrev LibraryMap := Table GroupTemplateLibrary.id
abbrev RevisionMap := Table GroupTemplateLibraryRevision.key
abbrev MemberMap := Table fun entity : GroupedEntity => entity.id

/-- How a request on groups and libraries is refused. -/
inductive GroupError where
  | service (fault : ServiceError)
  | appendRejected (kind : String) (rejection : AppendError)
deriving DecidableEq

namespace GroupError

def notFound : GroupError := .service (.api .notFound)
def conflict (message : String) : GroupError := .service (.api (.conflict message))
def unprocessable (message : String) : GroupError := .service (.api (.unprocessable message))

end GroupError

/-! ### Checks -/

def maxNameChars : Nat := 200

def maxDescriptionChars : Nat := 2000

def maxLibraryTemplateIds : Nat := 512

def maxTemplateIdChars : Nat := 240

def normalizedRequired (value field : String) (max : Nat) : Except GroupError String := do
  let value := Text.trim value
  rejectIf (value = "") (.unprocessable (field ++ " must not be empty"))
  rejectIf (max < value.length)
    (.unprocessable (field ++ " exceeds " ++ toString max ++ " characters"))
  return value

def normalizedOptional (value : Option String) (field : String) :
    Except GroupError (Option String) :=
  match value with
  | none => .ok none
  | some value => do
      let value := Text.trim value
      rejectIf (maxDescriptionChars < value.length)
        (.unprocessable (field ++ " exceeds " ++ toString maxDescriptionChars ++ " characters"))
      return if value = "" then none else some value

section Names

variable [Unicode]

def nameKey (name : String) : String := String.ofList (name.toList.flatMap toLowercase)

/-- `ensure_unique_group_name`; the group itself does not count. -/
def ensureUniqueGroupName (groups : GroupMap) (tenantId : TenantId) (groupId : Option GroupId)
    (name : String) : Except GroupError Unit :=
  rejectIf
    (groups.values.any (fun group => decide (group.tenantId = tenantId) && !group.isArchived &&
      decide (some group.id ≠ groupId) && decide (nameKey group.name = nameKey name)) = true)
    (.conflict "an active group with that name already exists in this tenant")

/-- `ensure_unique_library_name`; the library itself does not count. -/
def ensureUniqueLibraryName (libraries : LibraryMap) (groupId : GroupId)
    (libraryId : Option TemplateLibraryId) (name : String) : Except GroupError Unit :=
  rejectIf
    (libraries.values.any (fun library => decide (library.groupId = groupId) &&
      !library.isArchived && decide (some library.id ≠ libraryId) &&
      decide (nameKey library.name = nameKey name)) = true)
    (.conflict "an active template library with that name already exists in this group")

end Names

def groupForPath (groups : GroupMap) (tenantId : TenantId) (groupId : GroupId) :
    Except GroupError CompanyGroup :=
  match groups.get groupId with
  | none => .error .notFound
  | some group => if group.tenantId = tenantId then .ok group else .error .notFound

def libraryForPath (libraries : LibraryMap) (tenantId : TenantId) (groupId : GroupId)
    (libraryId : TemplateLibraryId) : Except GroupError GroupTemplateLibrary :=
  match libraries.get libraryId with
  | none => .error .notFound
  | some library =>
      if library.tenantId = tenantId ∧ library.groupId = groupId then .ok library
      else .error .notFound

/-- The later of two revisions; of equals the second, as `max_by_key` has it. -/
def GroupTemplateLibraryRevision.latest (best : Option GroupTemplateLibraryRevision)
    (revision : GroupTemplateLibraryRevision) : Option GroupTemplateLibraryRevision :=
  match best with
  | none => some revision
  | some best => if best.revision ≤ revision.revision then some revision else some best

def currentRevision (revisions : RevisionMap) (groupId : GroupId)
    (libraryId : TemplateLibraryId) : Option GroupTemplateLibraryRevision :=
  (revisions.values.filter fun revision =>
    decide (revision.groupId = groupId ∧ revision.libraryId = libraryId)).foldl
      GroupTemplateLibraryRevision.latest none

/-- The loop of `normalize_template_ids_inner`, with what it has `seen`. -/
def normalizeReferences (templateIdExists : String → Except ServiceError Bool)
    (seen : List String) : List String → Except GroupError (List String)
  | [] => .ok []
  | id :: rest => do
      let id ← normalizedRequired id "template_id" maxTemplateIdChars
      rejectIf (id ∈ seen) (.unprocessable ("duplicate template reference \x60" ++ id ++ "\x60"))
      let known ← (templateIdExists id).mapError .service
      rejectIf (known = false)
        (.unprocessable ("unknown template reference \x60" ++ id ++ "\x60"))
      let ids ← normalizeReferences templateIdExists (id :: seen) rest
      return id :: ids

def normalizeTemplateIds (templateIdExists : String → Except ServiceError Bool)
    (raw : List String) : Except GroupError (List String) := do
  rejectIf (maxLibraryTemplateIds < raw.length)
    (.unprocessable ("a template library revision may reference at most " ++
      toString maxLibraryTemplateIds ++ " templates"))
  let ids ← normalizeReferences templateIdExists [] raw
  return ids.mergeSort

def assignedEntity (group : CompanyGroup) (entity : GroupedEntity) :
    Except GroupError GroupedEntity := do
  rejectIf (group.isArchived = true) (.conflict "cannot assign entities to an archived group")
  rejectIf (group.canContain entity = false)
    (.conflict "entity and group must belong to the same tenant")
  rejectIf (entity.groupId.isSome = true ∧ entity.groupId ≠ some group.id)
    (.conflict "entity already belongs to another group; remove it first")
  return entity.inGroup (some group.id)

/-! ### Bodies -/

structure CreateGroupBody where
  name : String
  description : Option String

/-- `PatchGroupBody` and `PatchTemplateLibraryBody`; a description may be given as `null`. -/
structure PatchNamedBody where
  name : Option String
  description : Option (Option String)

structure CreateTemplateLibraryBody where
  name : String
  description : Option String
  templateIds : List String

namespace PatchNamedBody

variable (body : PatchNamedBody)

def nameOver (current : String) : Except GroupError String :=
  match body.name with
  | none => .ok current
  | some name => normalizedRequired name "name" maxNameChars

def descriptionOver (current : Option String) : Except GroupError (Option String) :=
  match body.description with
  | none => .ok current
  | some description => normalizedOptional description "description"

/-- The group that `patch_group` goes on with. -/
def group (current : CompanyGroup) : Except GroupError CompanyGroup := do
  let name ← body.nameOver current.name
  let description ← body.descriptionOver current.description
  return { current with name := name, description := description }

/-- The library that `patch_template_library` goes on with. -/
def library (current : GroupTemplateLibrary) : Except GroupError GroupTemplateLibrary := do
  let name ← body.nameOver current.name
  let description ← body.descriptionOver current.description
  return { current with name := name, description := description }

end PatchNamedBody

section Checked

variable {groups : GroupMap} {libraries : LibraryMap} {revisions : RevisionMap}
  {tenantId : TenantId} {groupId : GroupId} {libraryId : TemplateLibraryId} {name : String}

theorem groupForPath_eq_ok_iff {group : CompanyGroup} :
    groupForPath groups tenantId groupId = .ok group ↔
      groups.get groupId = some group ∧ group.tenantId = tenantId := by
  unfold groupForPath
  cases groups.get groupId with
  | none => simp
  | some found =>
      dsimp only
      by_cases here : found.tenantId = tenantId
      · rw [if_pos here, Except.ok.injEq, Option.some.injEq]
        refine ⟨fun same => ⟨same, same ▸ here⟩, fun holds => holds.1⟩
      · rw [if_neg here]
        simp only [reduceCtorEq, false_iff, Option.some.injEq, not_and]
        exact fun same => same ▸ here

theorem libraryForPath_eq_ok_iff {library : GroupTemplateLibrary} :
    libraryForPath libraries tenantId groupId libraryId = .ok library ↔
      libraries.get libraryId = some library ∧ library.tenantId = tenantId ∧
        library.groupId = groupId := by
  unfold libraryForPath
  cases libraries.get libraryId with
  | none => simp
  | some found =>
      dsimp only
      by_cases here : found.tenantId = tenantId ∧ found.groupId = groupId
      · rw [if_pos here, Except.ok.injEq, Option.some.injEq]
        refine ⟨fun same => ⟨same, same ▸ here⟩, fun holds => holds.1⟩
      · rw [if_neg here]
        simp only [reduceCtorEq, false_iff, Option.some.injEq, not_and_or]
        by_cases same : found = library
        · exact .inr (same ▸ not_and_or.mp here)
        · exact .inl same

theorem ensureUniqueGroupName_eq_ok_iff [Unicode] {exempt : Option GroupId} :
    ensureUniqueGroupName groups tenantId exempt name = .ok () ↔
      ∀ group, groups.get group.id = some group → group.tenantId = tenantId →
        group.isArchived = false → some group.id ≠ exempt → nameKey group.name ≠ nameKey name := by
  unfold ensureUniqueGroupName
  rw [rejectIf_eq_ok_iff, List.any_eq_true]
  simp only [Table.mem_values, Bool.and_eq_true, decide_eq_true_eq, Bool.not_eq_true', not_exists,
    not_and, and_imp]

theorem ensureUniqueLibraryName_eq_ok_iff [Unicode] {exempt : Option TemplateLibraryId} :
    ensureUniqueLibraryName libraries groupId exempt name = .ok () ↔
      ∀ library, libraries.get library.id = some library → library.groupId = groupId →
        library.isArchived = false → some library.id ≠ exempt →
          nameKey library.name ≠ nameKey name := by
  unfold ensureUniqueLibraryName
  rw [rejectIf_eq_ok_iff, List.any_eq_true]
  simp only [Table.mem_values, Bool.and_eq_true, decide_eq_true_eq, Bool.not_eq_true', not_exists,
    not_and, and_imp]

theorem latest_foldl {revisions : List GroupTemplateLibraryRevision}
    {best : Option GroupTemplateLibraryRevision} {last : GroupTemplateLibraryRevision}
    (found : revisions.foldl GroupTemplateLibraryRevision.latest best = some last) :
    (best = some last ∨ last ∈ revisions) ∧ (∀ first ∈ best, first.revision ≤ last.revision) ∧
      ∀ revision ∈ revisions, revision.revision ≤ last.revision := by
  induction revisions generalizing best with
  | nil =>
      have same : best = some last := found
      refine ⟨.inl same, fun first first_eq => ?_, fun revision member => ?_⟩
      · rw [Option.some.inj (first_eq.symm.trans same)]
      · cases member
  | cons revision rest ih =>
      rw [List.foldl_cons] at found
      obtain ⟨origin, above, later⟩ := ih found
      have chosen : ∃ first, GroupTemplateLibraryRevision.latest best revision = some first ∧
          revision.revision ≤ first.revision ∧
          (∀ earlier ∈ best, earlier.revision ≤ first.revision) ∧
          (first = revision ∨ best = some first) := by
        unfold GroupTemplateLibraryRevision.latest
        cases best with
        | none => exact ⟨revision, rfl, le_rfl, fun earlier none => (by cases none), .inl rfl⟩
        | some best =>
            dsimp only
            by_cases order : best.revision ≤ revision.revision
            · rw [if_pos order]
              refine ⟨revision, rfl, le_rfl, fun earlier same => ?_, .inl rfl⟩
              rwa [← Option.some.inj same]
            · rw [if_neg order]
              refine ⟨best, rfl, (not_le.mp order).le, fun earlier same => ?_, .inr rfl⟩
              rw [Option.some.inj same]
      obtain ⟨first, picked, atLeast, dominates, from_⟩ := chosen
      have below : first.revision ≤ last.revision := above first picked
      refine ⟨?_, fun earlier present => (dominates earlier present).trans below, ?_⟩
      · rcases origin with same | member
        · cases Option.some.inj (picked.symm.trans same)
          rcases from_ with rfl | kept
          · exact .inr List.mem_cons_self
          · exact .inl kept
        · exact .inr (List.mem_cons_of_mem _ member)
      · intro other member
        rcases List.mem_cons.mp member with rfl | inside
        · exact atLeast.trans below
        · exact later other inside

theorem currentRevision_eq_some {last : GroupTemplateLibraryRevision}
    (current : currentRevision revisions groupId libraryId = some last) :
    revisions.get last.key = some last ∧ last.groupId = groupId ∧ last.libraryId = libraryId ∧
      ∀ revision, revisions.get revision.key = some revision → revision.groupId = groupId →
        revision.libraryId = libraryId → revision.revision ≤ last.revision := by
  obtain ⟨origin, -, later⟩ := latest_foldl current
  rcases origin with absent | member
  · cases absent
  · obtain ⟨stored, listed⟩ := List.mem_filter.mp member
    obtain ⟨sameGroup, sameLibrary⟩ := of_decide_eq_true listed
    refine ⟨Table.mem_values.mp stored, sameGroup, sameLibrary, ?_⟩
    intro revision present here there
    exact later revision (List.mem_filter.mpr
      ⟨Table.mem_values.mpr present, decide_eq_true ⟨here, there⟩⟩)

theorem assignedEntity_eq_ok {group : CompanyGroup} {entity assigned : GroupedEntity}
    (accepted : assignedEntity group entity = .ok assigned) :
    group.archivedAt = none ∧ group.tenantId = entity.tenantId ∧
      assigned = entity.inGroup (some group.id) := by
  unfold assignedEntity at accepted
  simp only [check_bind_eq_ok_iff, rejectIf_eq_ok_iff] at accepted
  obtain ⟨active, fits, -, result⟩ := accepted
  refine ⟨?_, ?_, (Except.ok.inj result).symm⟩
  · exact Option.not_isSome_iff_eq_none.mp active
  · exact of_decide_eq_true (Bool.not_eq_false _ ▸ fits)

theorem PatchNamedBody.group_eq_ok {body : PatchNamedBody} {current next : CompanyGroup}
    (accepted : body.group current = .ok next) :
    next = { current with name := next.name, description := next.description } := by
  unfold PatchNamedBody.group at accepted
  simp only [bind_eq_ok_iff] at accepted
  obtain ⟨name, -, description, -, result⟩ := accepted
  cases result
  rfl

theorem PatchNamedBody.library_eq_ok {body : PatchNamedBody} {current next : GroupTemplateLibrary}
    (accepted : body.library current = .ok next) :
    next = { current with name := next.name, description := next.description } := by
  unfold PatchNamedBody.library at accepted
  simp only [bind_eq_ok_iff] at accepted
  obtain ⟨name, -, description, -, result⟩ := accepted
  cases result
  rfl

end Checked

end Chancela
