import Chancela.Crates.Basic
import Chancela.Foundation.Walk

/-! # Authorization scopes

A grant is held at a scope and a check targets a scope. `Chancela.scopeCovers` walks
from the target towards its authoritative parents, eight looks at most. Coverage is
what the escalation checks stand on: they are made at the scope of a grant, while
authority is exercised at targets below it, so they need coverage to compose.
`Chancela.BookScope.composes_iff` says for which parent relations it does.
-/

namespace Chancela

/-- Where an authority applies, or what an action targets. Identifiers are transparent
over their UUID. -/
inductive Scope where
  | global
  | tenant (id : Uuid)
  | entity (id : Uuid)
  | book (id : Uuid)
  | act (id : Uuid)
  | folder (id : Uuid)
  | templateLibrary (id : Uuid)
  | archive (id : Uuid)
  | integration (id : Uuid)
  | repository (id : Uuid)
deriving DecidableEq

def Scope.isGlobal : Scope → Bool
  | .global => true
  | _ => false

/-- The scope-containment relation a caller supplies: the trait, with its provided
methods as defaults. An implementation may replace any of them. -/
structure BookScope where
  entityOf : Uuid → Option Uuid
  tenantOf : Uuid → Option Uuid := fun _ => none
  bookOfAct : Uuid → Option Uuid := fun _ => none
  parentOfFolder : Uuid → Option Scope := fun _ => none
  parentOfTemplateLibrary : Uuid → Option Scope := fun _ => none
  parentOfArchive : Uuid → Option Scope := fun _ => none
  parentOfIntegration : Uuid → Option Scope := fun _ => none
  parentOfRepository : Uuid → Option Scope := fun _ => none
  parentScope : Scope → Option Scope := fun scope =>
    match scope with
    | .global | .tenant _ => none
    | .entity id => (tenantOf id).map .tenant
    | .book id => (entityOf id).map .entity
    | .act id => (bookOfAct id).map .book
    | .folder id => parentOfFolder id
    | .templateLibrary id => parentOfTemplateLibrary id
    | .archive id => parentOfArchive id
    | .integration id => parentOfIntegration id
    | .repository id => parentOfRepository id

/-- `scope_covers`: does an authority held at `grant` cover an action on `target`? -/
def scopeCovers (grant target : Scope) (books : BookScope) : Bool :=
  if grant = .global then true else Walk.reaches books.parentScope grant 8 (some target)

theorem scopeCovers_global (target : Scope) (books : BookScope) :
    scopeCovers .global target books = true := if_pos rfl

theorem scopeCovers_eq_true_iff {grant target : Scope} {books : BookScope} :
    scopeCovers grant target books = true ↔ grant = .global ∨
      ∃ distance < 8, Walk.ancestor books.parentScope distance target = some grant := by
  rw [scopeCovers]
  by_cases anywhere : grant = .global
  · rw [if_pos anywhere]
    exact iff_of_true rfl (.inl anywhere)
  · rw [if_neg anywhere, Walk.reaches_iff]
    exact ⟨.inr, fun covered => covered.resolve_left anywhere⟩

theorem scopeCovers_self (scope : Scope) (books : BookScope) :
    scopeCovers scope scope books = true :=
  scopeCovers_eq_true_iff.mpr (.inr ⟨0, by decide, rfl⟩)

namespace BookScope

variable {books : BookScope}

/-- Coverage composes: what a scope covers, whatever covers that scope covers too. -/
def Composes (books : BookScope) : Prop :=
  ∀ ⦃grant scope target : Scope⦄, scopeCovers grant scope books = true →
    scopeCovers scope target books = true → scopeCovers grant target books = true

/-- No scope is met for the first time at the eighth hop, where the walk has stopped,
and what covers `Global` covers everything. -/
structure WithinReach (books : BookScope) : Prop where
  nearer : ∀ ⦃grant target : Scope⦄, grant ≠ .global →
    Walk.ancestor books.parentScope 8 target = some grant →
    ∃ distance < 8, Walk.ancestor books.parentScope distance target = some grant
  top : ∀ ⦃grant : Scope⦄, scopeCovers grant .global books = true →
    ∀ target, scopeCovers grant target books = true

theorem WithinReach.composes (within : books.WithinReach) : books.Composes := by
  intro grant scope target upper lower
  rcases scopeCovers_eq_true_iff.mp lower with rfl | ⟨near, -, below⟩
  · exact within.top upper target
  rcases scopeCovers_eq_true_iff.mp upper with rfl | ⟨far, -, above⟩
  · exact scopeCovers_global target books
  by_cases anywhere : grant = .global
  · exact anywhere ▸ scopeCovers_global target books
  rw [scopeCovers, if_neg anywhere]
  exact Walk.reaches_of_ancestor (fun low => within.nearer anywhere)
    (Walk.ancestor_trans below above)

theorem Composes.withinReach (composes : books.Composes) : books.WithinReach where
  nearer grant target narrow eighth := by
    obtain ⟨scope, first, rest⟩ := Walk.exists_ancestor_of_add (show
      Walk.ancestor books.parentScope (1 + 7) target = some grant from eighth)
    have upper : scopeCovers grant scope books = true :=
      scopeCovers_eq_true_iff.mpr (.inr ⟨7, by decide, rest⟩)
    have lower : scopeCovers scope target books = true :=
      scopeCovers_eq_true_iff.mpr (.inr ⟨1, by decide, first⟩)
    exact (scopeCovers_eq_true_iff.mp (composes upper lower)).resolve_left narrow
  top _ covers target := composes covers (scopeCovers_global target books)

/-- **When coverage composes**, whatever the parents are. -/
theorem composes_iff : books.Composes ↔ books.WithinReach :=
  ⟨Composes.withinReach, WithinReach.composes⟩

/-- Where `Global` has no parent, as in the provided `parent_scope`, only `Global` covers
it. -/
theorem eq_global_of_covers (top : books.parentScope .global = none) {grant : Scope}
    (covers : scopeCovers grant .global books = true) : grant = .global := by
  rcases scopeCovers_eq_true_iff.mp covers with anywhere | ⟨distance, -, above⟩
  · exact anywhere
  cases distance with
  | zero => exact (Option.some.inj above).symm
  | succ distance => simp only [Walk.ancestor, top, Option.bind_none, reduceCtorEq] at above

/-- A relation whose parents descend in a rank below eight, and that gives `Global` no
parent, is within reach. -/
theorem withinReach_of_rank (rank : Scope → Nat) (bounded : ∀ scope, rank scope < 8)
    (descends : ∀ low above, books.parentScope low = some above → rank above < rank low)
    (top : books.parentScope .global = none) : books.WithinReach where
  nearer grant target _ eighth := by
    have long := Walk.rank_add_le_of_ancestor descends eighth
    have short := bounded target
    omega
  top grant covers target := by
    rw [eq_global_of_covers top covers]
    exact scopeCovers_global target books

end BookScope

end Chancela
