import Mathlib.Data.List.Nodup

/-! # Replacing one entry of a list

What a list keeps when one of its entries is replaced: everything that does not look
at what changed in the entry.
-/

namespace Chancela.Replace

variable {α β : Type*} {items : List α} {index : Nat} {item new other : α}

theorem split_at (present : items[index]? = some item) :
    items = items.take index ++ item :: items.drop (index + 1) ∧
      ∀ new, items.set index new = items.take index ++ new :: items.drop (index + 1) := by
  obtain ⟨inside, same⟩ := List.getElem?_eq_some_iff.mp present
  refine ⟨?_, fun new => ?_⟩
  · rw [← same, List.getElem_cons_drop, List.take_append_drop]
  · rw [List.set_eq_take_append_cons_drop, if_pos inside]

theorem exists_split (present : items[index]? = some item) :
    ∃ front back, items = front ++ item :: back ∧
      ∀ new, items.set index new = front ++ new :: back :=
  ⟨items.take index, items.drop (index + 1), split_at present⟩

theorem map_set_eq (view : α → β) (present : items[index]? = some item)
    (same : view new = view item) : (items.set index new).map view = items.map view := by
  obtain ⟨front, back, whole, replaced⟩ := exists_split present
  rw [replaced, whole]
  simp only [List.map_append, List.map_cons, same]

theorem nodup_map_set {view : α → β} (distinct : (items.map view).Nodup)
    (present : items[index]? = some item) (same : view new = view item) :
    ((items.set index new).map view).Nodup := by
  rw [map_set_eq view present same]
  exact distinct

theorem countP_set_eq (counted : α → Bool) (present : items[index]? = some item)
    (same : counted new = counted item) :
    (items.set index new).countP counted = items.countP counted := by
  obtain ⟨front, back, whole, replaced⟩ := exists_split present
  rw [replaced, whole]
  simp only [List.countP_append, List.countP_cons, same]

theorem eq_or_key_ne_of_mem_set (key : α → β) (distinct : (items.map key).Nodup)
    (present : items[index]? = some item) (member : other ∈ items.set index new) :
    other = new ∨ other ∈ items ∧ key other ≠ key item := by
  obtain ⟨front, back, whole, replaced⟩ := exists_split present
  have apart : key item ∉ (front ++ back).map key := by
    rw [whole, List.map_append, List.map_cons, List.nodup_middle] at distinct
    rw [List.map_append]
    exact (List.nodup_cons.mp distinct).1
  rw [replaced, List.mem_append, List.mem_cons, or_left_comm] at member
  apply member.imp_right
  intro kept
  have listed : other ∈ front ++ back := List.mem_append.mpr kept
  refine ⟨?_, fun same => apart (same ▸ List.mem_map_of_mem listed)⟩
  rw [whole]
  exact List.mem_append.mpr (kept.imp_right (List.mem_cons_of_mem _))

end Chancela.Replace
