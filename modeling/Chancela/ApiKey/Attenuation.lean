import Chancela.Api.Authority
import Chancela.ApiKey.Key
import Chancela.Crates.Reference

/-! # Keys stay within their creator

A grant is compared with the creator's authority at one scope, and the key is used at every
scope below it. Where coverage composes that is enough: a key grants nothing its creator
lacks, at any target, and follows its creator down. Issuing is the mint of exactly the
grants that pass the check, and a key that has not expired resolves to its whole grant
(`Chancela.ApiKey.attenuated`).
-/

namespace Chancela.ApiKey

variable {key : ApiKey} {creator : ScopedPermissionSet} {roles : RoleCatalog} {books : BookScope}
  {now : OffsetDateTime} {permission : Permission} {scope target : Scope}

theorem mem_allowed_iff : (permission, scope) ∈ key.allowed creator roles books ↔
    (permission, scope) ∈ key.principalGrant.grantPairs roles ∧ permission.isMeta = false ∧
      hasPermission creator permission scope books = true := by
  rw [allowed, List.mem_filter, List.mem_filter, Bool.not_eq_true', and_assoc]

theorem length_group_allowed_le :
    (OrderedMap.group ((key.allowed creator roles books).map Prod.swap)).length ≤ 2 ^ 128 := by
  have named : ∀ group ∈ OrderedMap.group ((key.allowed creator roles books).map Prod.swap),
      group.1 = key.principalGrant.scope := by
    rintro ⟨scope, permissions⟩ grouped
    obtain ⟨occupied, rfl⟩ := OrderedMap.mem_group_iff.mp grouped
    obtain ⟨permission, member⟩ := List.exists_mem_of_ne_nil _ occupied
    have listed := exists_mem_group_iff.mp ⟨_, grouped, member⟩
    exact ApiKeyGrant.scope_of_mem_grantPairs (mem_allowed_iff.mp listed).1
  have sorted := OrderedMap.sorted_group ((key.allowed creator roles books).map Prod.swap)
  generalize OrderedMap.group ((key.allowed creator roles books).map Prod.swap) = groups
    at named sorted
  match groups, named, sorted with
  | [], _, _ => exact Nat.zero_le _
  | [_], _, _ => exact Nat.one_le_two_pow
  | first :: second :: _, named, sorted =>
      have increasing := (List.pairwise_cons.mp sorted).1 second List.mem_cons_self
      rw [named first List.mem_cons_self,
        named second (List.mem_cons_of_mem _ List.mem_cons_self)] at increasing
      exact absurd increasing (lt_irrefl _)

/-- **What a key grants**: what of its declared grant is not meta and its creator holds at
the scope of the grant, wherever that scope covers the target. -/
theorem hasPermission_resolve_iff :
    hasPermission (key.resolve creator roles now books).effectivePermissions permission target
        books = true ↔
      key.isActive now = true ∧ ∃ scope, (permission, scope) ∈ key.principalGrant.grantPairs roles ∧
        permission.isMeta = false ∧ hasPermission creator permission scope books = true ∧
        scopeCovers scope target books = true := by
  rw [hasPermission_eq_true_iff, resolve]
  dsimp only
  by_cases active : key.isActive now = true
  · rw [if_pos active]
    simp only [mem_scopedSetFromPairs_iff length_group_allowed_le, mem_allowed_iff, active,
      true_and, and_assoc]
  · rw [if_neg active]
    constructor
    · rintro ⟨_, member, -⟩
      cases member
    · rintro ⟨live, -⟩
      exact absurd live active

theorem resolve_within (composes : books.Composes)
    (granted : hasPermission (key.resolve creator roles now books).effectivePermissions permission
      target books = true) :
    permission.isMeta = false ∧ hasPermission creator permission target books = true := by
  obtain ⟨-, scope, -, ordinary, held, covers⟩ := hasPermission_resolve_iff.mp granted
  exact ⟨ordinary, hasPermission_of_covers composes held covers⟩

theorem resolve_monotone {lesser greater : ScopedPermissionSet}
    (below : ∀ permission target, hasPermission lesser permission target books = true →
      hasPermission greater permission target books = true)
    (granted : hasPermission (key.resolve lesser roles now books).effectivePermissions permission
      target books = true) :
    hasPermission (key.resolve greater roles now books).effectivePermissions permission target
      books = true := by
  obtain ⟨active, scope, declared, ordinary, held, covers⟩ := hasPermission_resolve_iff.mp granted
  exact hasPermission_resolve_iff.mpr
    ⟨active, scope, declared, ordinary, below permission scope held, covers⟩

theorem resolve_inactive (inactive : key.revoked = true ∨ key.isExpired now = true) :
    (key.resolve creator roles now books).effectivePermissions = .new := by
  have unusable : key.isActive now = false := by
    rw [isActive, Bool.and_eq_false_iff, Bool.not_eq_false', Bool.not_eq_false']
    exact inactive
  rw [resolve]
  dsimp only
  rw [unusable, if_neg Bool.false_ne_true]

theorem canCreateKey_eq_true_iff {grant : ApiKeyGrant} :
    canCreateKey creator grant roles books = true ↔ grant.grantPairs roles ≠ [] ∧
      ∀ pair ∈ grant.grantPairs roles, pair.1.isMeta = false ∧
        hasPermission creator pair.1 pair.2 books = true := by
  rw [canCreateKey]
  simp only [Bool.and_eq_true, Bool.not_eq_true', List.isEmpty_eq_false_iff, List.all_eq_true,
    and_assoc, forall_and]

theorem issue_eq_ok_iff [Crates] {spec : KeySpec} {drawn : KeyEntropy} {issued : NewApiKey} :
    issue creator roles books spec drawn = .ok issued ↔
      canCreateKey creator spec.principalGrant roles books = true ∧
        generate spec drawn = issued := by
  rw [canCreateKey_eq_true_iff, issue]
  split
  · rename_i empty
    rw [List.isEmpty_iff] at empty
    simp only [reduceCtorEq, empty, ne_eq, not_true_eq_false, false_and]
  · rename_i occupied
    rw [List.isEmpty_iff] at occupied
    split
    · rename_i holdsMeta
      obtain ⟨pair, listed, meta_⟩ := List.any_eq_true.mp holdsMeta
      refine iff_of_false (fun refused => nomatch refused) ?_
      rintro ⟨⟨-, allowed⟩, -⟩
      rw [(allowed pair listed).1] at meta_
      cases meta_
    · rename_i ordinary
      split
      · rename_i exceeds
        rw [Bool.not_eq_true', ← Bool.not_eq_true, List.all_eq_true] at exceeds
        refine iff_of_false (fun refused => nomatch refused) ?_
        rintro ⟨⟨-, allowed⟩, -⟩
        exact exceeds fun pair listed => (allowed pair listed).2
      · rename_i within
        rw [Bool.not_eq_true', Bool.not_eq_false, List.all_eq_true] at within
        rw [Bool.not_eq_true, List.any_eq_false] at ordinary
        rw [Except.ok.injEq]
        refine (and_iff_right ⟨occupied, fun pair listed => ⟨?_, within pair listed⟩⟩).symm
        exact Bool.not_eq_true _ ▸ ordinary pair listed

theorem resolve_issued_iff [Crates] {spec : KeySpec} {drawn : KeyEntropy} {issued : NewApiKey}
    (minted : issue creator roles books spec drawn = .ok issued)
    (unexpired : issued.apiKey.isExpired now = false) :
    hasPermission (issued.apiKey.resolve creator roles now books).effectivePermissions permission
        target books = true ↔
      ∃ scope, (permission, scope) ∈ spec.principalGrant.grantPairs roles ∧
        scopeCovers scope target books = true := by
  obtain ⟨creatable, rfl⟩ := issue_eq_ok_iff.mp minted
  obtain ⟨-, allowed⟩ := canCreateKey_eq_true_iff.mp creatable
  have active : (generate spec drawn).apiKey.isActive now = true := by
    rw [isActive, unexpired]
    rfl
  rw [hasPermission_resolve_iff]
  constructor
  · rintro ⟨-, scope, declared, -, -, covers⟩
    exact ⟨scope, declared, covers⟩
  · rintro ⟨scope, declared, covers⟩
    obtain ⟨ordinary, held⟩ := allowed _ declared
    exact ⟨active, scope, declared, ordinary, held, covers⟩

/-- What attenuation promises of one key, one catalog and one instant: the bound and the
monotony of what it resolves to, and what becomes of it when it lapses. -/
structure StaysWithin (books : BookScope) (key : ApiKey) (roles : RoleCatalog)
    (now : OffsetDateTime) : Prop where
  bounded : ∀ (creator : ScopedPermissionSet) (permission : Permission) (target : Scope),
    hasPermission (key.resolve creator roles now books).effectivePermissions permission target
      books = true →
    permission.isMeta = false ∧ hasPermission creator permission target books = true
  monotone : ∀ lesser greater : ScopedPermissionSet,
    (∀ permission target, hasPermission lesser permission target books = true →
      hasPermission greater permission target books = true) →
    ∀ permission target,
      hasPermission (key.resolve lesser roles now books).effectivePermissions permission target
        books = true →
      hasPermission (key.resolve greater roles now books).effectivePermissions permission target
        books = true
  lapsed : ∀ creator : ScopedPermissionSet, key.revoked = true ∨ key.isExpired now = true →
    (key.resolve creator roles now books).effectivePermissions = .new

/-- What issuing promises: it succeeds exactly when the grant passes the check, and where
`lives` holds of the new key it resolves to its whole grant. -/
structure IssuesWithin [Crates] (books : BookScope) (lives : ApiKey → OffsetDateTime → Prop)
    (creator : ScopedPermissionSet) (roles : RoleCatalog) (spec : KeySpec) (drawn : KeyEntropy) :
    Prop where
  creatable : canCreateKey creator spec.principalGrant roles books = true ↔
    ∃ issued, issue creator roles books spec drawn = .ok issued
  whole : ∀ issued, issue creator roles books spec drawn = .ok issued →
    ∀ now, lives issued.apiKey now → ∀ permission target,
      hasPermission (issued.apiKey.resolve creator roles now books).effectivePermissions permission
          target books = true ↔
        ∃ scope, (permission, scope) ∈ spec.principalGrant.grantPairs roles ∧
          scopeCovers scope target books = true

/-- **Keys never exceed their creator**, over the parent relations of the stores: every key
stays within its creator at every target, and a new one that has not expired grants exactly
what its declared grant covers. -/
theorem attenuated [Crates] (relations : ScopeRelations) :
    (∀ key roles now, StaysWithin relations.bookScope key roles now) ∧
      ∀ creator roles spec drawn, IssuesWithin relations.bookScope
        (fun key now => key.isExpired now = false) creator roles spec drawn := by
  refine ⟨fun key roles now => ⟨?_, ?_, ?_⟩, fun creator roles spec drawn => ⟨?_, ?_⟩⟩
  · exact fun creator permission target => resolve_within relations.composes
  · exact fun lesser greater below permission target => resolve_monotone below
  · exact fun creator => resolve_inactive
  · constructor
    · intro creatable
      exact ⟨_, issue_eq_ok_iff.mpr ⟨creatable, rfl⟩⟩
    · rintro ⟨issued, minted⟩
      exact (issue_eq_ok_iff.mp minted).1
  · exact fun issued minted now unexpired permission target => resolve_issued_iff minted unexpired

open scoped Reference

def stillborn : KeySpec where
  name := "ERP"
  principalGrant := .perms {.actRead} .global
  createdBy := ⟨1⟩
  createdAt := unixEpoch
  expiresAt := some unixEpoch
  rateLimit := none

/-- Issuing does not look at the expiry: a key may be issued that has expired already, and
resolves to nothing. -/
theorem not_issuesWithin_stillborn :
    ¬IssuesWithin ScopeRelations.unrelated.bookScope (fun _ _ => True) ⟨[(.actRead, .global)], []⟩
      Table.empty stillborn ⟨Vector.replicate 6 0, Vector.replicate 32 0, ⟨2⟩⟩ := by
  intro promised
  have minted : issue ⟨[(.actRead, .global)], []⟩ Table.empty ScopeRelations.unrelated.bookScope
      stillborn ⟨Vector.replicate 6 0, Vector.replicate 32 0, ⟨2⟩⟩ = .ok _ :=
    issue_eq_ok_iff.mpr ⟨by decide +kernel, rfl⟩
  have granted := (promised.whole _ minted unixEpoch trivial .actRead .global).mpr
    ⟨.global, by decide +kernel, rfl⟩
  have expired : (generate stillborn
      ⟨Vector.replicate 6 0, Vector.replicate 32 0, ⟨2⟩⟩).apiKey.isExpired unixEpoch = true := by
    decide
  rw [resolve_inactive (.inr expired)] at granted
  cases granted

end Chancela.ApiKey
