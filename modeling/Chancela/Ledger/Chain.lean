import Mathlib.Data.List.Sort
import Mathlib.Data.String.Basic
import Chancela.Crates.Basic

/-! # Chain identities and membership

An event joins the global chain and, besides it, the chains its scope names
(`Chancela.memberships`). Chains are ordered by their canonical text, which
determines them (`Chancela.ChainId.canonical_injective`).
-/

namespace Chancela

/-- The identity of one hash chain. -/
inductive ChainId where
  | global
  | application
  | tenant (id : String)
  | company (id : String)
  | book (id : String)
deriving DecidableEq, Repr

namespace ChainId

/-- `Display`, the canonical form used for hashing, storage and order. -/
def canonical : ChainId → String
  | global => "global"
  | application => "application"
  | tenant id => "tenant:" ++ id
  | company id => "company:" ++ id
  | book id => "book:" ++ id

def isGlobal (chain : ChainId) : Bool := chain == global

theorem isGlobal_eq_false {chain : ChainId} (named : chain ≠ global) : chain.isGlobal = false := by
  simp [isGlobal, named]

/-- `ChainId::expected_genesis_kind`: the kind the first event of a chain must
carry, if the chain fixes one. -/
def expectedGenesisKind : ChainId → Option String
  | book _ => some "book.opened"
  | company _ => some "entity.created"
  | tenant _ | global | application => none

/-- An event of this kind may be the first of the chain. -/
def founds (chain : ChainId) (kind : String) : Bool :=
  match chain.expectedGenesisKind with
  | some expected => kind == expected
  | none => true

theorem canonical_injective : Function.Injective canonical := by
  intro first second same
  have lists := congrArg String.toList same
  clear same
  cases first <;> cases second <;>
    simp [canonical, String.toList_append] at lists <;>
    first | rfl | exact congrArg _ (String.toList_inj.mp lists)

/-- `Ord`: chains are ordered by their canonical text. -/
instance : LinearOrder ChainId where
  le first second := first.canonical ≤ second.canonical
  lt first second := first.canonical < second.canonical
  le_refl chain := le_refl chain.canonical
  le_trans _ _ _ := le_trans (α := String)
  lt_iff_le_not_ge _ _ := lt_iff_le_not_ge (α := String)
  le_antisymm _ _ below above := canonical_injective (le_antisymm (α := String) below above)
  le_total first second := le_total first.canonical second.canonical
  toDecidableLE first second := inferInstanceAs (Decidable (first.canonical ≤ second.canonical))
  toDecidableEq := inferInstance
  toDecidableLT first second := inferInstanceAs (Decidable (first.canonical < second.canonical))

end ChainId

/-- `segment_value`: the rest of the first `/`-separated segment of `scope` that
starts with `lead`. -/
def segmentValue (scope lead : String) : Option String :=
  (Text.split scope '/').findSome? (Text.stripPrefix · lead)

variable [Crates]

/-- `Ledger::memberships` before the final sort. -/
def unsortedMemberships (scope : String) : List ChainId :=
  let tenantId := (segmentValue scope "tenant:").filter (· ≠ "")
  let entityId := (segmentValue scope "entity:").filter (· ≠ "")
  let bookId := (segmentValue scope "book:").filter (· ≠ "")
  let chains := (tenantId.map ChainId.tenant).toList
  match entityId, bookId with
  | some eid, some bid => chains ++ [.company eid, .book bid]
  | some eid, none => chains ++ [.company eid]
  | none, some bid => chains ++ [.book bid]
  | none, none =>
      if tenantId.isNone ∧ parseUuid scope = true then chains ++ [.company scope]
      else if chains.isEmpty then chains ++ [.application]
      else chains

/-- `Ledger::memberships`: the non-global chains an event of this scope and kind
joins, in canonical order. The kind is part of the signature only. -/
def memberships (scope _kind : String) : List ChainId :=
  (unsortedMemberships scope).insertionSort (· ≤ ·)

theorem mem_memberships {scope kind : String} {chain : ChainId} :
    chain ∈ memberships scope kind ↔ chain ∈ unsortedMemberships scope :=
  List.mem_insertionSort _

theorem memberships_sorted (scope kind : String) :
    (memberships scope kind).Pairwise (· ≤ ·) :=
  List.pairwise_insertionSort _ _

theorem nodup_global_unsortedMemberships (scope : String) :
    (.global :: unsortedMemberships scope).Nodup := by
  unfold unsortedMemberships
  generalize (segmentValue scope "tenant:").filter (· ≠ "") = tenantId
  generalize (segmentValue scope "entity:").filter (· ≠ "") = entityId
  generalize (segmentValue scope "book:").filter (· ≠ "") = bookId
  cases tenantId <;> cases entityId <;> cases bookId <;> simp
  split <;> simp

theorem memberships_nodup (scope kind : String) : (memberships scope kind).Nodup := by
  apply ((List.perm_insertionSort _ _).nodup_iff).mpr
  exact (List.nodup_cons.mp (nodup_global_unsortedMemberships scope)).2

theorem global_not_mem_memberships (scope kind : String) :
    ChainId.global ∉ memberships scope kind := by
  rw [mem_memberships]
  exact (List.nodup_cons.mp (nodup_global_unsortedMemberships scope)).1

end Chancela
