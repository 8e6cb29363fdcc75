import Mathlib.Data.List.Chain
import Mathlib.Data.List.Nodup
import Mathlib.Order.Lattice

/-! # Neighbours in an order

The neighbours of a list in strict order are the pairs with nothing of the list between them
(`Chancela.Neighbours.mem_pairs_iff`). Some of its items, in another order, have the neighbours of
that order in the list just where nothing else of the list comes between them
(`Chancela.Neighbours.filter_pairs_perm_iff`).
-/

namespace Chancela.Neighbours

variable {α : Type*}

/-- The items of a list with their successors: its windows of two. -/
def pairs (items : List α) : List (α × α) := items.zip items.tail

@[simp] theorem pairs_nil : pairs ([] : List α) = [] := rfl

@[simp] theorem pairs_singleton (item : α) : pairs [item] = [] := rfl

@[simp] theorem pairs_cons_cons (first second : α) (rest : List α) :
    pairs (first :: second :: rest) = (first, second) :: pairs (second :: rest) := rfl

theorem mem_of_mem_pairs {items : List α} {first second : α}
    (member : (first, second) ∈ pairs items) : first ∈ items ∧ second ∈ items := by
  obtain ⟨left, right⟩ := List.of_mem_zip member
  exact ⟨left, List.mem_of_mem_tail right⟩

theorem nodup_pairs {items : List α} (distinct : items.Nodup) : (pairs items).Nodup := by
  have seconds : ((pairs items).map Prod.snd).Nodup := by
    have back : (pairs items).map Prod.snd = items.tail :=
      List.map_snd_zip (by rw [List.length_tail]; omega)
    rw [back]
    exact distinct.tail
  exact seconds.of_map

theorem pairwise_of_pairs {r : α → α → Prop} [IsTrans α r] {items : List α}
    (chained : ∀ pair ∈ pairs items, r pair.1 pair.2) : items.Pairwise r := by
  rw [← List.isChain_iff_pairwise]
  induction items with
  | nil => exact .nil
  | cons first rest ih =>
      cases rest with
      | nil => exact .singleton first
      | cons second rest =>
          rw [pairs_cons_cons, List.forall_mem_cons] at chained
          exact .cons_cons chained.1 (ih chained.2)

variable {K : Type*} [LinearOrder K] {rank : α → K} {items : List α}

def Strict (rank : α → K) (items : List α) : Prop :=
  items.Pairwise fun first second => rank first < rank second

/-- The second item is the next after the first one, of a list. -/
def Next (rank : α → K) (items : List α) (first second : α) : Prop :=
  first ∈ items ∧ second ∈ items ∧ rank first < rank second ∧
    ∀ other ∈ items, ¬(rank first < rank other ∧ rank other < rank second)

theorem Strict.nodup (strict : Strict rank items) : items.Nodup :=
  strict.imp fun below same => (same ▸ below).false

/-- **Neighbours of a list in order have nothing of it between them.** -/
theorem mem_pairs_iff (strict : Strict rank items) {first second : α} :
    (first, second) ∈ pairs items ↔ Next rank items first second := by
  induction items with
  | nil => simp [Next]
  | cons head rest ih =>
      obtain ⟨below, strictRest⟩ := List.pairwise_cons.mp strict
      cases rest with
      | nil =>
          refine iff_of_false List.not_mem_nil ?_
          rintro ⟨one, two, less, -⟩
          rw [List.mem_singleton.mp one, List.mem_singleton.mp two] at less
          exact less.false
      | cons next rest =>
          have later : ∀ other ∈ rest, rank next < rank other :=
            (List.pairwise_cons.mp strictRest).1
          rw [pairs_cons_cons, List.mem_cons, ih strictRest]
          constructor
          · rintro (same | ⟨one, two, less, clear⟩)
            · cases same
              refine ⟨List.mem_cons_self, List.mem_cons_of_mem _ List.mem_cons_self,
                below second List.mem_cons_self, ?_⟩
              rintro other member ⟨above, under⟩
              rcases List.mem_cons.mp member with rfl | member
              · exact above.false
              · rcases List.mem_cons.mp member with rfl | member
                · exact under.false
                · exact (under.trans (later other member)).false
            · refine ⟨List.mem_cons_of_mem _ one, List.mem_cons_of_mem _ two, less, ?_⟩
              rintro other member between
              rcases List.mem_cons.mp member with rfl | member
              · exact (between.1.trans (below first one)).false
              · exact clear other member between
          · rintro ⟨one, two, less, clear⟩
            rcases List.mem_cons.mp two with rfl | behind
            · rcases List.mem_cons.mp one with rfl | one
              · exact (less.false).elim
              · exact ((below first one).trans less).false.elim
            rcases List.mem_cons.mp one with rfl | one
            · left
              rcases List.mem_cons.mp behind with rfl | further
              · rfl
              · exact (clear next (List.mem_cons_of_mem _ List.mem_cons_self)
                  ⟨below next List.mem_cons_self, later second further⟩).elim
            · exact .inr ⟨one, behind, less, fun other member =>
                clear other (List.mem_cons_of_mem _ member)⟩

/-- **The items of a chain neighbour each other in a list as they do in the chain just where the
neighbours of the chain are neighbours in the list.** -/
theorem filter_pairs_perm_iff {P : Type*} [LinearOrder P] {place : α → P} {chain : List α}
    {keep : α × α → Bool} (strict : Strict rank items) (ordered : Strict place chain)
    (inside : ∀ item ∈ chain, item ∈ items)
    (kept : ∀ pair ∈ pairs items, keep pair = true ↔ pair.1 ∈ chain ∧ pair.2 ∈ chain) :
    ((pairs items).filter keep).Perm (pairs chain) ↔ ∀ pair ∈ pairs chain, pair ∈ pairs items := by
  constructor
  · intro same pair member
    exact (List.mem_filter.mp (same.mem_iff.mpr member)).1
  · intro adjacent
    -- The list has the chain in the order of the chain.
    have along : chain.Pairwise fun first second => rank first < rank second := by
      have trans : IsTrans α fun first second => rank first < rank second :=
        ⟨fun _ _ _ => lt_trans⟩
      exact pairwise_of_pairs fun pair member =>
        ((mem_pairs_iff strict).mp (adjacent pair member)).2.2.1
    refine (List.perm_ext_iff_of_nodup ((nodup_pairs strict.nodup).filter _)
      (nodup_pairs ordered.nodup)).mpr ?_
    rintro ⟨first, second⟩
    rw [List.mem_filter]
    constructor
    · rintro ⟨member, chosen⟩
      obtain ⟨one, two⟩ := (kept _ member).mp chosen
      obtain ⟨-, -, less, clear⟩ := (mem_pairs_iff strict).mp member
      exact (mem_pairs_iff along).mpr
        ⟨one, two, less, fun other here => clear other (inside other here)⟩
    · intro member
      have present := adjacent _ member
      exact ⟨present, (kept _ present).mpr (mem_of_mem_pairs member)⟩

end Chancela.Neighbours
