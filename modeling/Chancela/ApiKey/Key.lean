import Chancela.Authz.Effective
import Chancela.Foundation.OrderedMap
import Mathlib.Data.Finset.Insert
import Mathlib.Data.Prod.Lex
import Mathlib.Order.Lex

/-! # API keys

A key carries a grant: a role of the catalog at a scope, or explicit verbs at one. It is
issued within its creator's authority and resolved, at each request, to what its grant and
its creator's authority of the moment have in common. The authority it resolves to is
rebuilt through a catalog made up for the purpose, which neither adds nor drops a pair
(`Chancela.mem_scopedSetFromPairs_iff`).
-/

namespace Chancela

/-- The variants of a scope in declaration order, with the identifier. -/
def Scope.ordinal : Scope → Nat ×ₗ Nat
  | .global => toLex (0, 0)
  | .tenant id => toLex (1, id.bits.toNat)
  | .entity id => toLex (2, id.bits.toNat)
  | .book id => toLex (3, id.bits.toNat)
  | .act id => toLex (4, id.bits.toNat)
  | .folder id => toLex (5, id.bits.toNat)
  | .templateLibrary id => toLex (6, id.bits.toNat)
  | .archive id => toLex (7, id.bits.toNat)
  | .integration id => toLex (8, id.bits.toNat)
  | .repository id => toLex (9, id.bits.toNat)

theorem Uuid.toNat_injective {first second : Uuid}
    (same : first.bits.toNat = second.bits.toNat) : first = second := by
  cases first
  cases second
  rw [Uuid.mk.injEq]
  exact BitVec.eq_of_toNat_eq same

theorem Scope.ordinal_injective : Function.Injective Scope.ordinal := by
  intro first second same
  cases first <;> cases second <;>
    simp only [Scope.ordinal, EmbeddingLike.apply_eq_iff_eq, Prod.mk.injEq] at same <;>
    first
    | rfl
    | exact absurd same.1 (by decide)
    | rw [Uuid.toNat_injective same.2]

/-- The derived order of scopes. -/
instance : LinearOrder Scope := LinearOrder.lift' Scope.ordinal Scope.ordinal_injective

/-- What authority a key confers. -/
inductive ApiKeyGrant where
  | role (roleId : Uuid) (scope : Scope)
  | perms (permissions : Finset Permission) (scope : Scope)
deriving DecidableEq

namespace ApiKeyGrant

def scope : ApiKeyGrant → Scope
  | .role _ scope => scope
  | .perms _ scope => scope

/-- The verbs of a grant; a role missing from the catalog confers none. -/
def permissionSet (grant : ApiKeyGrant) (roles : RoleCatalog) : Finset Permission :=
  match grant with
  | .role roleId _ => ((roles.get roleId).map Role.permissionSet).getD ∅
  | .perms permissions _ => permissions

def grantPairs (grant : ApiKeyGrant) (roles : RoleCatalog) : List (Permission × Scope) :=
  (Permission.all.filter (· ∈ grant.permissionSet roles)).map (·, grant.scope)

theorem scope_of_mem_grantPairs {grant : ApiKeyGrant} {roles : RoleCatalog}
    {permission : Permission} {scope : Scope}
    (member : (permission, scope) ∈ grant.grantPairs roles) : scope = grant.scope := by
  obtain ⟨_, -, same⟩ := List.mem_map.mp member
  exact (Prod.mk.inj same).2.symm

end ApiKeyGrant

/-- The rate-limit policy of a key. -/
structure RateLimit where
  rpm : UInt32
  burst : UInt32
deriving DecidableEq

/-- A persisted key. It holds a digest of the plaintext, never the plaintext. -/
structure ApiKey where
  id : Uuid
  name : String
  prefix_ : String
  keyHash : String
  principalGrant : ApiKeyGrant
  createdBy : Uuid
  createdAt : OffsetDateTime
  expiresAt : Option OffsetDateTime
  revoked : Bool
  rateLimit : Option RateLimit
deriving DecidableEq

/-- A key with the plaintext shown once. -/
structure NewApiKey where
  plaintext : String
  apiKey : ApiKey
deriving DecidableEq

/-- The fields of a key to be minted. -/
structure KeySpec where
  name : String
  principalGrant : ApiKeyGrant
  createdBy : Uuid
  createdAt : OffsetDateTime
  expiresAt : Option OffsetDateTime
  rateLimit : Option RateLimit

/-- What the system's generator hands out for a key: six and thirty-two bytes, and an
identifier. -/
structure KeyEntropy where
  prefixBytes : Vector UInt8 6
  secretBytes : Vector UInt8 32
  id : Uuid

inductive IssueError where
  | emptyGrant
  | grantContainsMeta
  | grantExceedsCreator
deriving DecidableEq

namespace ApiKey

/-- `hex::encode`. -/
def hexEncode (bytes : List UInt8) : String := String.ofList (bytes.flatMap Text.hexByte)

def generate [Crates] (spec : KeySpec) (drawn : KeyEntropy) : NewApiKey :=
  let prefix_ := "chk_" ++ hexEncode drawn.prefixBytes.toList
  let plaintext := prefix_ ++ "_" ++ hexEncode drawn.secretBytes.toList
  { plaintext
    apiKey :=
      { id := drawn.id
        name := spec.name
        prefix_
        keyHash := hexEncode (sha256 (Text.utf8 plaintext)).toList
        principalGrant := spec.principalGrant
        createdBy := spec.createdBy
        createdAt := spec.createdAt
        expiresAt := spec.expiresAt
        revoked := false
        rateLimit := spec.rateLimit } }

/-- `ApiKey::issue`: the checks of attenuation, then the mint. -/
def issue [Crates] (creatorEffective : ScopedPermissionSet) (roles : RoleCatalog)
    (books : BookScope) (spec : KeySpec) (drawn : KeyEntropy) : Except IssueError NewApiKey :=
  let pairs := spec.principalGrant.grantPairs roles
  if pairs.isEmpty then .error .emptyGrant
  else if pairs.any (·.1.isMeta) then .error .grantContainsMeta
  else if !pairs.all (fun pair => hasPermission creatorEffective pair.1 pair.2 books) then
    .error .grantExceedsCreator
  else .ok (generate spec drawn)

def isExpired (key : ApiKey) (now : OffsetDateTime) : Bool :=
  match key.expiresAt with
  | some expiry => expiry.unixTimestampNanos ≤ now.unixTimestampNanos
  | none => false

def isActive (key : ApiKey) (now : OffsetDateTime) : Bool := !key.revoked && !key.isExpired now

def actorLabel (key : ApiKey) : String := "apikey:" ++ key.name ++ "#" ++ key.prefix_

end ApiKey

/-- How a request authenticated. -/
inductive PrincipalKind where
  | session (user : Uuid)
  | apiKey (key creator : Uuid)
deriving DecidableEq

/-- The subject a permission check reads. -/
structure RequestPrincipal where
  actorLabel : String
  effectivePermissions : ScopedPermissionSet
  kind : PrincipalKind
deriving DecidableEq

def canCreateKey (creatorEffective : ScopedPermissionSet) (grant : ApiKeyGrant)
    (roles : RoleCatalog) (books : BookScope) : Bool :=
  let pairs := grant.grantPairs roles
  !pairs.isEmpty && pairs.all (fun pair => !pair.1.isMeta) &&
    pairs.all fun pair => hasPermission creatorEffective pair.1 pair.2 books

/-- The role made up for one scope: its identifier is the position of the scope. -/
def syntheticRole (position : Nat) (permissions : List Permission) : Role :=
  ⟨⟨BitVec.ofNat 128 position⟩, "", permissions.toFinset, false⟩

/-- `scoped_set_from_pairs`: one role and one assignment for each distinct scope. -/
def scopedSetFromPairs (pairs : List (Permission × Scope)) : ScopedPermissionSet :=
  let byScope := (OrderedMap.group (pairs.map Prod.swap)).zipIdx
  let catalog : RoleCatalog :=
    Table.fromIter (byScope.map fun entry => syntheticRole entry.2 entry.1.2)
  let assignments := byScope.map fun entry =>
    (⟨(syntheticRole entry.2 entry.1.2).id, entry.1.1⟩ : RoleAssignment)
  Chancela.effectivePermissions ⟨0⟩ assignments catalog [] unixEpoch

/-- What of the declared grant survives: no meta verb, nothing the creator lacks at the
scope of the grant. -/
def ApiKey.allowed (key : ApiKey) (creatorEffective : ScopedPermissionSet) (roles : RoleCatalog)
    (books : BookScope) : List (Permission × Scope) :=
  ((key.principalGrant.grantPairs roles).filter fun pair => !pair.1.isMeta).filter fun pair =>
    hasPermission creatorEffective pair.1 pair.2 books

def ApiKey.resolve (key : ApiKey) (creatorEffective : ScopedPermissionSet) (roles : RoleCatalog)
    (now : OffsetDateTime) (books : BookScope) : RequestPrincipal where
  actorLabel := key.actorLabel
  effectivePermissions :=
    if key.isActive now then scopedSetFromPairs (key.allowed creatorEffective roles books)
    else .new
  kind := .apiKey key.id key.createdBy

section Rebuild

variable {pairs : List (Permission × Scope)} {permission : Permission} {scope : Scope}

theorem mem_valuesOf_iff {K V : Type*} [LinearOrder K] {key : K} {value : V}
    {entries : List (K × V)} :
    value ∈ OrderedMap.valuesOf key entries ↔ (key, value) ∈ entries := by
  rw [OrderedMap.valuesOf, List.mem_map]
  constructor
  · rintro ⟨⟨_, _⟩, member, rfl⟩
    obtain ⟨listed, same⟩ := List.mem_filter.mp member
    exact of_decide_eq_true same ▸ listed
  · intro member
    exact ⟨(key, value), List.mem_filter.mpr ⟨member, decide_eq_true rfl⟩, rfl⟩

theorem exists_mem_group_iff :
    (∃ permissions, (scope, permissions) ∈ OrderedMap.group (pairs.map Prod.swap) ∧
      permission ∈ permissions) ↔ (permission, scope) ∈ pairs := by
  have swapped : (scope, permission) ∈ pairs.map Prod.swap ↔ (permission, scope) ∈ pairs := by
    rw [List.mem_map]
    constructor
    · rintro ⟨⟨_, _⟩, member, same⟩
      obtain ⟨rfl, rfl⟩ := Prod.mk.inj same
      exact member
    · intro member
      exact ⟨_, member, rfl⟩
  constructor
  · rintro ⟨permissions, grouped, member⟩
    obtain ⟨-, rfl⟩ := OrderedMap.mem_group_iff.mp grouped
    exact swapped.mp (mem_valuesOf_iff.mp member)
  · intro member
    have listed := mem_valuesOf_iff.mpr (swapped.mpr member)
    exact ⟨_, OrderedMap.mem_group_iff.mpr ⟨List.ne_nil_of_mem listed, rfl⟩, listed⟩

theorem nodup_syntheticRoles {groups : List (Scope × List Permission)}
    (few : groups.length ≤ 2 ^ 128) :
    ((groups.zipIdx.map fun entry => syntheticRole entry.2 entry.1.2).map Role.id).Nodup := by
  have positions : (groups.zipIdx.map fun entry => syntheticRole entry.2 entry.1.2).map Role.id =
      (List.range groups.length).map fun position => (⟨BitVec.ofNat 128 position⟩ : Uuid) := by
    rw [List.map_map, List.range_eq_range', ← List.zipIdx_map_snd 0 groups, List.map_map]
    rfl
  rw [positions]
  refine List.Nodup.map_on ?_ List.nodup_range
  intro first low second high same
  have within : ∀ position ∈ List.range groups.length, position < 2 ^ 128 :=
    fun position member => (List.mem_range.mp member).trans_le few
  have bits := congrArg (fun id : Uuid => id.bits.toNat) same
  simp only [BitVec.toNat_ofNat, Nat.mod_eq_of_lt (within first low),
    Nat.mod_eq_of_lt (within second high)] at bits
  exact bits

/-- **The rebuild is exact.** Over fewer than 2^128 scopes the rebuilt authority holds the
given pairs and no other. -/
theorem mem_scopedSetFromPairs_iff
    (few : (OrderedMap.group (pairs.map Prod.swap)).length ≤ 2 ^ 128) :
    (permission, scope) ∈ (scopedSetFromPairs pairs).allGrants ↔ (permission, scope) ∈ pairs := by
  rw [← @exists_mem_group_iff pairs, ScopedPermissionSet.allGrants, scopedSetFromPairs,
    effectivePermissions, List.mem_append, mem_assignedGrants]
  generalize OrderedMap.group (pairs.map Prod.swap) = groups at few
  have nothing : (permission, scope) ∉ conveyedGrants ⟨0⟩ (Table.fromIter
      (groups.zipIdx.map fun entry => syntheticRole entry.2 entry.1.2)) [] unixEpoch := by
    exact fun member => nomatch member
  rw [or_iff_left nothing]
  constructor
  · rintro ⟨assignment, listed, rfl, role, known, member⟩
    obtain ⟨entry, inside, rfl⟩ := List.mem_map.mp listed
    have own := Table.get_fromIter_of_mem (nodup_syntheticRoles few)
      (List.mem_map_of_mem inside)
    rw [known] at own
    rw [Option.some.inj own] at member
    exact ⟨entry.1.2, (List.mem_zipIdx' inside).2 ▸ List.getElem_mem _,
      List.mem_toFinset.mp member⟩
  · rintro ⟨permissions, grouped, member⟩
    obtain ⟨position, inside, same⟩ := List.mem_iff_getElem.mp grouped
    have numbered : ((scope, permissions), position) ∈ groups.zipIdx := by
      rw [List.mem_zipIdx_iff_getElem?, List.getElem?_eq_getElem inside, same]
    refine ⟨_, List.mem_map_of_mem numbered, rfl, _,
      Table.get_fromIter_of_mem (nodup_syntheticRoles few) (List.mem_map_of_mem numbered), ?_⟩
    exact List.mem_toFinset.mpr member

end Rebuild

end Chancela
