import Mathlib.Algebra.GroupWithZero.Nat
import Mathlib.Data.List.AList

/-! # Tables of values under their own keys

A hash map whose values name the key they are stored under. The order of the entries
carries no meaning.
-/

namespace Chancela

universe u v

variable {K : Type u} {α : Type v} [DecidableEq K] {key : α → K}

/-- Values by key, each stored under the key it names. -/
structure Table (key : α → K) where
  entries : AList fun _ : K => α
  keyed : ∀ id value, entries.lookup id = some value → key value = id

namespace Table

def get (table : Table key) (id : K) : Option α := table.entries.lookup id

def values (table : Table key) : List α := table.entries.entries.map Sigma.snd

def empty : Table key where
  entries := ∅
  keyed := by
    intro id value present
    rw [AList.lookup_empty] at present
    cases present

def insert (table : Table key) (value : α) : Table key where
  entries := table.entries.insert (key value) value
  keyed := by
    intro id other present
    by_cases same : id = key value
    · rw [same, AList.lookup_insert] at present
      rw [same, Option.some.inj present]
    · rw [AList.lookup_insert_ne same] at present
      exact table.keyed id other present

/-- A table collected from values; later ones replace earlier ones. -/
def fromIter (values : List α) : Table key := values.foldl insert empty

variable {table : Table key} {id : K} {value other : α}

theorem key_of_get (present : table.get id = some value) : key value = id :=
  table.keyed id value present

@[simp] theorem get_empty : (empty : Table key).get id = none := AList.lookup_empty id

theorem get_insert : (table.insert value).get id = if id = key value then some value
    else table.get id := by
  by_cases same : id = key value
  · rw [if_pos same, get, insert, same]
    exact AList.lookup_insert table.entries
  · rw [if_neg same, get, insert]
    exact AList.lookup_insert_ne same

@[simp] theorem get_insert_self : (table.insert value).get (key value) = some value := by
  rw [get_insert, if_pos rfl]

theorem insert_insert {first second : α} (same : key second = key first) :
    (table.insert first).insert second = table.insert second := by
  unfold insert
  congr 1
  dsimp only
  rw [same]
  exact AList.insert_insert _

theorem get_insert_eq_some_iff :
    (table.insert value).get id = some other ↔
      id = key value ∧ value = other ∨ id ≠ key value ∧ table.get id = some other := by
  rw [get_insert]
  by_cases same : id = key value
  · simp only [same, ↓reduceIte, Option.some.injEq, true_and, ne_eq, not_true_eq_false, false_and,
      or_false]
  · simp only [same, ↓reduceIte, false_and, ne_eq, not_false_eq_true, true_and, false_or]

theorem mem_values : value ∈ table.values ↔ table.get (key value) = some value := by
  rw [values, List.mem_map]
  constructor
  · rintro ⟨entry, listed, rfl⟩
    have present := AList.mem_lookup_iff.mpr listed
    rw [table.keyed _ _ present]
    exact present
  · intro present
    exact ⟨⟨key value, value⟩, AList.mem_lookup_iff.mp present, rfl⟩

theorem mem_values_of_get (present : table.get id = some value) : value ∈ table.values := by
  rw [mem_values, key_of_get present]
  exact present

theorem eq_or_mem_of_mem_values_insert (member : other ∈ (table.insert value).values) :
    other = value ∨ other ∈ table.values := by
  rcases get_insert_eq_some_iff.mp (mem_values.mp member) with ⟨-, same⟩ | ⟨-, before⟩
  · exact .inl same.symm
  · exact .inr (mem_values_of_get before)

variable {values : List α}

theorem mem_or_get_of_get_foldl (present : (values.foldl insert table).get id = some value) :
    value ∈ values ∨ table.get id = some value := by
  induction values generalizing table with
  | nil => exact .inr present
  | cons first rest ih =>
      rcases ih present with later | earlier
      · exact .inl (List.mem_cons_of_mem first later)
      rcases get_insert_eq_some_iff.mp earlier with ⟨-, same⟩ | ⟨-, before⟩
      · exact .inl (same ▸ List.mem_cons_self)
      · exact .inr before

theorem mem_of_get_fromIter (present : (fromIter values : Table key).get id = some value) :
    value ∈ values := by
  rcases mem_or_get_of_get_foldl present with listed | before
  · exact listed
  · rw [get_empty] at before
    cases before

theorem values_insert_of_absent (absent : table.get (key value) = none) :
    (table.insert value).values = value :: table.values := by
  rw [values, insert, AList.entries_insert_of_notMem (AList.lookup_eq_none.mp absent)]
  rfl

theorem values_foldl_insert (distinct : (values.map key).Nodup)
    (absent : ∀ value ∈ values, table.get (key value) = none) :
    (values.foldl insert table).values = values.reverse ++ table.values := by
  induction values generalizing table with
  | nil => rfl
  | cons first rest ih =>
      rw [List.map_cons, List.nodup_cons] at distinct
      rw [List.foldl_cons, ih distinct.2, List.reverse_cons, List.append_assoc,
        values_insert_of_absent (absent first List.mem_cons_self), List.singleton_append]
      intro value member
      have other : key value ≠ key first := fun same =>
        distinct.1 (same ▸ List.mem_map_of_mem member)
      rw [get_insert, if_neg other]
      exact absent value (List.mem_cons_of_mem _ member)

theorem values_fromIter (distinct : (values.map key).Nodup) :
    (fromIter values : Table key).values = values.reverse :=
  (values_foldl_insert distinct fun _ _ => get_empty).trans (List.append_nil _)

theorem get_fromIter_of_mem (distinct : (values.map key).Nodup) (member : value ∈ values) :
    (fromIter values : Table key).get (key value) = some value := by
  rw [← mem_values, values_fromIter distinct]
  exact List.mem_reverse.mpr member

theorem nodup_map_values : (table.values.map key).Nodup := by
  have keys : table.values.map key = table.entries.entries.keys := by
    rw [values, List.map_map]
    apply List.map_congr_left
    intro entry listed
    exact table.keyed _ _ (AList.mem_lookup_iff.mpr listed)
  rw [keys]
  exact table.entries.nodupKeys

theorem get_fromIter_of_perm {collected : List α} (order : collected.Perm table.values) :
    (fromIter collected : Table key).get = table.get := by
  funext id
  have distinct : (collected.map key).Nodup := (order.map key).nodup_iff.mpr nodup_map_values
  cases present : table.get id with
  | some value =>
      rw [← key_of_get present]
      exact get_fromIter_of_mem distinct (order.mem_iff.mpr (mem_values_of_get present))
  | none =>
      cases found : (fromIter collected : Table key).get id with
      | none => rfl
      | some value =>
          have held := mem_values.mp (order.mem_iff.mp (mem_of_get_fromIter found))
          rw [key_of_get found, present] at held
          cases held

theorem get_foldl_insert (distinct : (values.map key).Nodup) :
    (values.foldl insert table).get id =
      (values.find? fun value => decide (key value = id)).or (table.get id) := by
  induction values generalizing table with
  | nil => rfl
  | cons first rest ih =>
      rw [List.map_cons, List.nodup_cons] at distinct
      rw [List.foldl_cons, ih distinct.2, List.find?_cons, get_insert]
      by_cases same : key first = id
      · have absent : (rest.find? fun value => decide (key value = id)) = none := by
          rw [List.find?_eq_none]
          intro value member found
          apply distinct.1
          rw [same, ← of_decide_eq_true found]
          exact List.mem_map_of_mem member
        rw [absent, if_pos same.symm, decide_eq_true same]
        rfl
      · rw [if_neg (Ne.symm same), decide_eq_false same]

theorem isSome_get_foldl_insert :
    ((values.foldl insert table).get id).isSome = true ↔
      (∃ value ∈ values, key value = id) ∨ (table.get id).isSome = true := by
  induction values generalizing table with
  | nil => simp
  | cons first rest ih =>
      rw [List.foldl_cons, ih, List.exists_mem_cons_iff, get_insert]
      by_cases here : id = key first
      · simp [here]
      · simp [here, Ne.symm here]

theorem get_foldl_insert_map {chosen : α → Bool} {change : α → α}
    (keyed : ∀ value, key (change value) = key value) :
    (((table.values.filter chosen).map change).foldl insert table).get id =
      (table.get id).map fun value => if chosen value then change value else value := by
  have keys : ((table.values.filter chosen).map change).map key =
      (table.values.filter chosen).map key := by
    rw [List.map_map]
    exact List.map_congr_left fun value _ => keyed value
  have distinct : (((table.values.filter chosen).map change).map key).Nodup := by
    rw [keys]
    exact (List.filter_sublist.map key).nodup nodup_map_values
  rw [get_foldl_insert distinct]
  cases found : ((table.values.filter chosen).map change).find? fun value =>
      decide (key value = id) with
  | some replaced =>
      have holds := List.find?_some found
      have here : key replaced = id := of_decide_eq_true holds
      obtain ⟨value, kept, rfl⟩ := List.mem_map.mp (List.mem_of_find?_eq_some found)
      obtain ⟨listed, picked⟩ := List.mem_filter.mp kept
      rw [← here, keyed, mem_values.mp listed, Option.map_some, if_pos picked]
      rfl
  | none =>
      cases present : table.get id with
      | none => rfl
      | some value =>
          rw [Option.map_some, if_neg]
          · rfl
          intro picked
          apply List.find?_eq_none.mp found (change value)
          · exact List.mem_map_of_mem (List.mem_filter.mpr ⟨mem_values_of_get present, picked⟩)
          · exact decide_eq_true ((keyed value).trans (key_of_get present))

theorem exists_values_insert (present : table.get (key value) = some other) :
    ∃ rest, table.values.Perm (other :: rest) ∧ (table.insert value).values = value :: rest := by
  have listed : key value ∈ table.entries.entries.keys :=
    List.mem_keys_of_mem (AList.mem_lookup_iff.mp present)
  obtain ⟨stored, before, after, absent, split, erased⟩ := List.exists_of_kerase listed
  have same : stored = other := by
    have found : table.get (key value) = some stored := by
      rw [get, AList.mem_lookup_iff.mpr]
      rw [split]
      exact List.mem_append_right _ List.mem_cons_self
    exact Option.some.inj (found.symm.trans present)
  subst same
  refine ⟨(before ++ after).map Sigma.snd, ?_, ?_⟩
  · rw [values, split, List.map_append, List.map_append, List.map_cons]
    exact List.perm_middle
  · rw [values, insert, AList.entries_insert, erased]
    rfl

theorem sum_map_values_insert (weight : α → Nat) (present : table.get (key value) = some other) :
    ((table.insert value).values.map weight).sum + weight other =
      (table.values.map weight).sum + weight value := by
  obtain ⟨rest, order, inserted⟩ := exists_values_insert present
  rw [inserted, (order.map weight).sum_nat, List.map_cons, List.map_cons, List.sum_cons,
    List.sum_cons]
  omega

end Table

end Chancela
