import Chancela.Api.Authority

/-! # The order of scopes

Coverage looks along the parent chain of a target, eight scopes at most. Where every chain ends
within seven hops it is the order of the chains with `Global` above all, and where no scope lies
above itself, nothing narrow covers what lies above it (`Chancela.scopeCovers_order`).
-/

namespace Chancela

/-- The parent relations a caller supplies to the provided `parent_scope`. -/
structure ParentRelations where
  entityOf : Uuid → Option Uuid
  tenantOf : Uuid → Option Uuid
  bookOfAct : Uuid → Option Uuid
  parentOfFolder : Uuid → Option Scope
  parentOfTemplateLibrary : Uuid → Option Scope
  parentOfArchive : Uuid → Option Scope
  parentOfIntegration : Uuid → Option Scope
  parentOfRepository : Uuid → Option Scope

def ParentRelations.bookScope (relations : ParentRelations) : BookScope where
  entityOf := relations.entityOf
  tenantOf := relations.tenantOf
  bookOfAct := relations.bookOfAct
  parentOfFolder := relations.parentOfFolder
  parentOfTemplateLibrary := relations.parentOfTemplateLibrary
  parentOfArchive := relations.parentOfArchive
  parentOfIntegration := relations.parentOfIntegration
  parentOfRepository := relations.parentOfRepository

namespace BookScope

variable {books : BookScope} {grant scope target : Scope}

/-- A scope on the parent chain of another, itself included. -/
def OnChain (books : BookScope) (grant target : Scope) : Prop :=
  ∃ distance, Walk.ancestor books.parentScope distance target = some grant

def StrictlyAbove (books : BookScope) (above low : Scope) : Prop :=
  ∃ distance, 0 < distance ∧ Walk.ancestor books.parentScope distance low = some above

def Acyclic (books : BookScope) : Prop := ∀ scope, ¬books.StrictlyAbove scope scope

def EndsWithin (books : BookScope) (hops : Nat) : Prop :=
  ∀ scope, Walk.ancestor books.parentScope (hops + 1) scope = none

/-- What covers is `Global` or on the chain, whatever the relation. -/
theorem onChain_of_covers (covers : scopeCovers grant target books = true) :
    grant = .global ∨ books.OnChain grant target := by
  rcases scopeCovers_eq_true_iff.mp covers with anywhere | ⟨distance, -, above⟩
  · exact .inl anywhere
  · exact .inr ⟨distance, above⟩

theorem OnChain.trans (upper : books.OnChain grant scope) (lower : books.OnChain scope target) :
    books.OnChain grant target := by
  obtain ⟨far, above⟩ := upper
  obtain ⟨near, below⟩ := lower
  exact ⟨near + far, Walk.ancestor_trans below above⟩

theorem EndsWithin.lt_of_ancestor {hops distance : Nat} (ends : books.EndsWithin hops)
    (above : Walk.ancestor books.parentScope distance target = some grant) :
    distance < hops + 1 := by
  rw [← not_le]
  intro long
  obtain ⟨rest, rfl⟩ := Nat.exists_eq_add_of_le long
  obtain ⟨middle, reached, -⟩ := Walk.exists_ancestor_of_add above
  rw [ends target] at reached
  cases reached

/-- **Coverage is the order of the chains** where they end within the walk. -/
theorem EndsWithin.covers_iff (ends : books.EndsWithin 7) :
    scopeCovers grant target books = true ↔ grant = .global ∨ books.OnChain grant target := by
  refine ⟨onChain_of_covers, fun covered => scopeCovers_eq_true_iff.mpr ?_⟩
  rcases covered with anywhere | ⟨distance, above⟩
  · exact .inl anywhere
  · exact .inr ⟨distance, ends.lt_of_ancestor above, above⟩

theorem ancestor_mul {distance : Nat}
    (cycle : Walk.ancestor books.parentScope distance scope = some scope) (rounds : Nat) :
    Walk.ancestor books.parentScope (rounds * distance) scope = some scope := by
  induction rounds with
  | zero => rw [Nat.zero_mul]; rfl
  | succ rounds ih =>
      rw [Nat.succ_mul]
      exact Walk.ancestor_trans ih cycle

theorem EndsWithin.acyclic {hops : Nat} (ends : books.EndsWithin hops) : books.Acyclic := by
  rintro scope ⟨distance, positive, cycle⟩
  have short := ends.lt_of_ancestor (ancestor_mul cycle (hops + 1))
  have long : hops + 1 ≤ (hops + 1) * distance := Nat.le_mul_of_pos_right _ positive
  omega

/-- Coverage composes where chains end within the walk and `Global` has no parent. -/
theorem EndsWithin.covers_trans (ends : books.EndsWithin 7)
    (top : books.parentScope .global = none) (upper : scopeCovers grant scope books = true)
    (lower : scopeCovers scope target books = true) : scopeCovers grant target books = true := by
  rcases ends.covers_iff.mp lower with rfl | below
  · rw [eq_global_of_covers top upper]
    exact scopeCovers_global target books
  rcases ends.covers_iff.mp upper with rfl | above
  · exact scopeCovers_global target books
  · exact ends.covers_iff.mpr (.inr (above.trans below))

theorem not_strictlyAbove_global (top : books.parentScope .global = none) :
    ¬books.StrictlyAbove scope .global := by
  rintro ⟨distance, positive, above⟩
  cases distance with
  | zero => exact absurd positive (Nat.lt_irrefl 0)
  | succ distance =>
      rw [Walk.ancestor, top] at above
      cases above

theorem Acyclic.covers_antisymm (acyclic : books.Acyclic)
    (top : books.parentScope .global = none) (upper : scopeCovers grant target books = true)
    (lower : scopeCovers target grant books = true) : grant = target := by
  rcases onChain_of_covers upper with rfl | ⟨far, above⟩
  · exact (eq_global_of_covers top lower).symm
  rcases onChain_of_covers lower with rfl | ⟨near, below⟩
  · exact eq_global_of_covers top upper
  cases far with
  | zero => exact (Option.some.inj above).symm
  | succ far =>
      have cycle := Walk.ancestor_trans above below
      have climbs : 0 < far + 1 + near := Nat.add_pos_left (Nat.succ_pos far) near
      exact absurd ⟨far + 1 + near, climbs, cycle⟩ (acyclic target)

theorem Acyclic.not_covers_above (acyclic : books.Acyclic)
    (top : books.parentScope .global = none) (above : books.StrictlyAbove target grant) :
    scopeCovers grant target books = false := by
  rw [← Bool.not_eq_true]
  intro covers
  rcases onChain_of_covers covers with rfl | ⟨far, reached⟩
  · exact not_strictlyAbove_global top above
  · obtain ⟨near, positive, climbs⟩ := above
    exact acyclic grant ⟨near + far, Nat.add_pos_left positive far,
      Walk.ancestor_trans climbs reached⟩

end BookScope

theorem ScopeRelations.endsWithin (relations : ScopeRelations) :
    relations.bookScope.EndsWithin 7 := by
  intro scope
  rw [Option.eq_none_iff_forall_ne_some]
  intro above reached
  have long := Walk.rank_add_le_of_ancestor (fun _ _ => depth_lt_of_parentScope) reached
  have short : depth scope ≤ 3 := by
    cases scope <;> simp only [depth] <;> omega
  omega

/-- **The order of scopes.** Coverage is reflexive and holds only along chains, whatever the
relation; it is the order of the chains, and composes, where they end within seven hops, as those
of the stores do; and without cycles scopes that cover each other are one, `Global` alone covers
`Global`, and nothing covers what lies above it. -/
theorem scopeCovers_order :
    (∀ (books : BookScope) (scope : Scope), scopeCovers scope scope books = true) ∧
    (∀ (books : BookScope) (grant target : Scope), scopeCovers grant target books = true →
      grant = .global ∨ books.OnChain grant target) ∧
    (∀ relations : ScopeRelations, relations.bookScope.EndsWithin 7) ∧
    (∀ books : BookScope, books.EndsWithin 7 → books.Acyclic ∧
      ∀ grant target, scopeCovers grant target books = true ↔
        grant = .global ∨ books.OnChain grant target) ∧
    (∀ relations : ParentRelations, relations.bookScope.EndsWithin 7 →
      ∀ grant scope target, scopeCovers grant scope relations.bookScope = true →
        scopeCovers scope target relations.bookScope = true →
          scopeCovers grant target relations.bookScope = true) ∧
    ∀ relations : ParentRelations, relations.bookScope.Acyclic →
      (∀ grant target, scopeCovers grant target relations.bookScope = true →
        scopeCovers target grant relations.bookScope = true → grant = target) ∧
      (∀ grant, scopeCovers grant .global relations.bookScope = true → grant = .global) ∧
      ∀ grant above, relations.bookScope.StrictlyAbove above grant →
        scopeCovers grant above relations.bookScope = false := by
  refine ⟨fun books scope => scopeCovers_self scope books,
    fun books grant target => BookScope.onChain_of_covers, ScopeRelations.endsWithin,
    fun books ends => ⟨ends.acyclic, fun grant target => ends.covers_iff⟩,
    fun relations ends grant scope target => ends.covers_trans rfl,
    fun relations acyclic => ⟨fun grant target => acyclic.covers_antisymm rfl,
      fun grant => BookScope.eq_global_of_covers rfl,
      fun grant above => acyclic.not_covers_above rfl⟩⟩

/-- Every entity is one tenant's, and nothing else is related. -/
def oneTenant : ParentRelations where
  entityOf _ := none
  tenantOf _ := some ⟨3⟩
  bookOfAct _ := none
  parentOfFolder _ := none
  parentOfTemplateLibrary _ := none
  parentOfArchive _ := none
  parentOfIntegration _ := none
  parentOfRepository _ := none

theorem endsWithin_oneTenant : oneTenant.bookScope.EndsWithin 7 := by
  intro scope
  cases scope <;> rfl

theorem scopeCovers_order_oneTenant :
    scopeCovers (.tenant ⟨3⟩) (.entity ⟨1⟩) oneTenant.bookScope = true ∧
      scopeCovers (.entity ⟨1⟩) (.tenant ⟨3⟩) oneTenant.bookScope = false := by
  obtain ⟨-, -, -, ends, -, acyclic⟩ := scopeCovers_order
  obtain ⟨loopless, covers⟩ := ends _ endsWithin_oneTenant
  refine ⟨(covers _ _).mpr (.inr ⟨1, rfl⟩), ?_⟩
  exact (acyclic oneTenant loopless).2.2 _ _ ⟨1, Nat.one_pos, rfl⟩

end Chancela
