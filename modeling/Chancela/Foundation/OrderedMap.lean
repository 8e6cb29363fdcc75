import Mathlib.Data.List.Induction
import Mathlib.Data.List.Sort
import Mathlib.Order.Bounds.Basic

/-! # Ordered maps

A map kept as a list of entries in strictly increasing key order, updated in place
or inserted at its position (`Chancela.OrderedMap.upsert`). Over it, two ways to
collect the values seen under each key: `ranges` keeps the least and the greatest
one (`Chancela.OrderedMap.lookup_ranges_eq_some_iff`), `group` keeps them all in
order (`Chancela.OrderedMap.mem_group_iff`). A list of entries is put over a map by
`overlay`.
-/

namespace Chancela.OrderedMap

variable {K V : Type*} [LinearOrder K]

def lookup (key : K) : List (K × V) → Option V
  | [] => none
  | (other, value) :: rest => if other = key then some value else lookup key rest

def Sorted (entries : List (K × V)) : Prop :=
  entries.Pairwise fun first second => first.1 < second.1

/-- Replace the value under a key, or insert it at its position. -/
def upsert (key : K) (update : Option V → V) : List (K × V) → List (K × V)
  | [] => [(key, update none)]
  | (other, value) :: rest =>
      if other = key then (key, update (some value)) :: rest
      else if key < other then (key, update none) :: (other, value) :: rest
      else (other, value) :: upsert key update rest

attribute [local grind =] lookup upsert

variable {entries : List (K × V)} {key : K}

theorem lookup_eq_none (absent : ∀ entry ∈ entries, entry.1 ≠ key) : lookup key entries = none := by
  induction entries with
  | nil => rfl
  | cons entry rest ih =>
      rw [lookup, if_neg (absent entry List.mem_cons_self)]
      exact ih fun other member => absent other (List.mem_cons_of_mem _ member)

theorem ne_of_lookup_eq_none (absent : lookup key entries = none) :
    ∀ entry ∈ entries, entry.1 ≠ key := by
  induction entries with
  | nil => exact fun _ member => nomatch member
  | cons entry rest ih =>
      intro other member
      rw [lookup] at absent
      split at absent
      · cases absent
      · next different =>
          rcases List.mem_cons.mp member with rfl | later
          · exact different
          · exact ih absent other later

theorem mem_of_lookup {value : V} (found : lookup key entries = some value) :
    (key, value) ∈ entries := by
  induction entries with
  | nil => cases found
  | cons entry rest ih =>
      obtain ⟨other, held⟩ := entry
      rw [lookup] at found
      split at found
      · next same =>
          cases found
          rw [same]
          exact List.mem_cons_self
      · exact List.mem_cons_of_mem _ (ih found)

theorem mem_iff_lookup {value : V} (sorted : Sorted entries) :
    (key, value) ∈ entries ↔ lookup key entries = some value := by
  induction entries with
  | nil => simp [lookup]
  | cons entry rest ih =>
      obtain ⟨other, held⟩ := entry
      obtain ⟨apart, sortedRest⟩ := List.pairwise_cons.mp sorted
      by_cases same : other = key
      · subst same
        have gone : (other, value) ∉ rest := fun member =>
          lt_irrefl other (apart (other, value) member)
        simp [lookup, gone, eq_comm]
      · have different : key ≠ other := fun equal => same equal.symm
        simp [lookup, same, different, ih sortedRest]

theorem mem_keys_upsert {update : Option V → V} {entry : K × V}
    (member : entry ∈ upsert key update entries) : entry.1 = key ∨ entry ∈ entries := by
  induction entries with
  | nil => exact .inl (congrArg Prod.fst (List.mem_singleton.mp member))
  | cons head rest ih =>
      obtain ⟨other, held⟩ := head
      rw [upsert] at member
      split at member
      · rcases List.mem_cons.mp member with rfl | later
        · exact .inl rfl
        · exact .inr (List.mem_cons_of_mem _ later)
      · split at member
        · rcases List.mem_cons.mp member with rfl | later
          · exact .inl rfl
          · exact .inr later
        · rcases List.mem_cons.mp member with rfl | later
          · exact .inr List.mem_cons_self
          · exact (ih later).imp_right (List.mem_cons_of_mem _)

theorem sorted_upsert {update : Option V → V} (sorted : Sorted entries) :
    Sorted (upsert key update entries) := by
  induction entries with
  | nil => exact List.pairwise_singleton _ _
  | cons head rest ih =>
      obtain ⟨other, held⟩ := head
      obtain ⟨apart, sortedRest⟩ := List.pairwise_cons.mp sorted
      rw [upsert]
      split
      · next same =>
          subst same
          exact List.pairwise_cons.mpr ⟨apart, sortedRest⟩
      · next different =>
          split
          · next below =>
              refine List.pairwise_cons.mpr ⟨fun entry member => ?_, sorted⟩
              rcases List.mem_cons.mp member with rfl | later
              · exact below
              · exact below.trans (apart entry later)
          · next notBelow =>
              have above : other < key := lt_of_le_of_ne (not_lt.mp notBelow) different
              refine List.pairwise_cons.mpr ⟨fun entry member => ?_, ih sortedRest⟩
              rcases mem_keys_upsert member with named | later
              · rw [named]
                exact above
              · exact apart entry later

theorem lookup_upsert {key query : K} {update : Option V → V} (sorted : Sorted entries) :
    lookup query (upsert key update entries) =
      if query = key then some (update (lookup key entries)) else lookup query entries := by
  induction entries with
  | nil =>
      by_cases same : query = key
      · simp [upsert, lookup, same]
      · simp [upsert, lookup, same, Ne.symm same]
  | cons head rest ih =>
      obtain ⟨other, held⟩ := head
      obtain ⟨apart, sortedRest⟩ := List.pairwise_cons.mp sorted
      rw [upsert]
      split
      · next same =>
          subst same
          by_cases named : query = other
          · simp [lookup, named]
          · simp [lookup, named, Ne.symm named]
      · next different =>
          split
          · next below =>
              -- The key stands below the whole tail, so it was absent.
              have absent : lookup key ((other, held) :: rest) = none := by
                apply lookup_eq_none
                intro entry member
                rcases List.mem_cons.mp member with rfl | later
                · exact different
                · exact (below.trans (apart entry later)).ne'
              by_cases named : query = key
              · rw [if_pos named, absent, named, lookup, if_pos rfl]
              · rw [if_neg named, lookup, if_neg (Ne.symm named)]
          · by_cases here : other = query
            · subst here
              simp [lookup, different]
            · simp [lookup, here, different, ih sortedRest]

section Ranges

def widen (key : K) (value : Nat) : List (K × Nat × Nat) → List (K × Nat × Nat) :=
  upsert key fun
    | none => (value, value)
    | some (least, greatest) => (min least value, max greatest value)

def ranges (pairs : List (K × Nat)) : List (K × Nat × Nat) :=
  pairs.foldl (fun ranges pair => widen pair.1 pair.2 ranges) []

theorem ranges_concat (pairs : List (K × Nat)) (key : K) (value : Nat) :
    ranges (pairs ++ [(key, value)]) = widen key value (ranges pairs) := by
  simp [ranges]

theorem sorted_ranges (pairs : List (K × Nat)) : Sorted (ranges pairs) := by
  induction pairs using List.reverseRecOn with
  | nil => exact List.Pairwise.nil
  | append_singleton before pair ih =>
      rw [ranges_concat]
      exact sorted_upsert ih

def valuesAt (pairs : List (K × Nat)) (key : K) : Set Nat := {value | (key, value) ∈ pairs}

omit [LinearOrder K] in
theorem valuesAt_concat_same (pairs : List (K × Nat)) (key : K) (value : Nat) :
    valuesAt (pairs ++ [(key, value)]) key = insert value (valuesAt pairs key) := by
  ext other
  simp [valuesAt, or_comm]

omit [LinearOrder K] in
theorem valuesAt_concat_other {pairs : List (K × Nat)} {key query : K} (value : Nat)
    (different : query ≠ key) :
    valuesAt (pairs ++ [(key, value)]) query = valuesAt pairs query := by
  ext other
  simp [valuesAt, different]

/-- **Ranges are exact.** The range under a key is the least and the greatest value
paired with it; a key without a range is paired with no value. -/
theorem lookup_ranges (pairs : List (K × Nat)) (key : K) :
    match lookup key (ranges pairs) with
    | none => valuesAt pairs key = ∅
    | some (least, greatest) =>
        IsLeast (valuesAt pairs key) least ∧ IsGreatest (valuesAt pairs key) greatest := by
  induction pairs using List.reverseRecOn with
  | nil => simp [ranges, lookup, valuesAt]
  | append_singleton before pair ih =>
      obtain ⟨other, value⟩ := pair
      rw [ranges_concat, widen, lookup_upsert (sorted_ranges before)]
      by_cases named : key = other
      · subst named
        rw [if_pos rfl, valuesAt_concat_same]
        cases seen : lookup key (ranges before) with
        | none =>
            rw [seen] at ih
            simp [ih, isLeast_singleton, isGreatest_singleton]
        | some range =>
            obtain ⟨least, greatest⟩ := range
            rw [seen] at ih
            change IsLeast _ (min least value) ∧ IsGreatest _ (max greatest value)
            rw [min_comm, max_comm]
            exact ⟨ih.1.insert value, ih.2.insert value⟩
      · rw [if_neg named, valuesAt_concat_other value named]
        exact ih

theorem lookup_ranges_eq_some_iff {pairs : List (K × Nat)} {least greatest : Nat} :
    lookup key (ranges pairs) = some (least, greatest) ↔
      IsLeast (valuesAt pairs key) least ∧ IsGreatest (valuesAt pairs key) greatest := by
  have exact := lookup_ranges pairs key
  cases seen : lookup key (ranges pairs) with
  | none =>
      rw [seen] at exact
      simp [exact, IsLeast]
  | some range =>
      obtain ⟨low, high⟩ := range
      rw [seen] at exact
      constructor
      · rintro ⟨⟩
        exact exact
      · rintro ⟨low', high'⟩
        rw [exact.1.unique low', exact.2.unique high']

end Ranges

section Group

/-- Collect the values under each key, in the order they are seen. -/
def group (pairs : List (K × V)) : List (K × List V) :=
  pairs.foldl (fun groups pair => upsert pair.1 (fun held => held.getD [] ++ [pair.2]) groups) []

theorem group_concat (pairs : List (K × V)) (key : K) (value : V) :
    group (pairs ++ [(key, value)]) =
      upsert key (fun held => held.getD [] ++ [value]) (group pairs) := by
  simp [group]

theorem sorted_group (pairs : List (K × V)) : Sorted (group pairs) := by
  induction pairs using List.reverseRecOn with
  | nil => exact List.Pairwise.nil
  | append_singleton before pair ih =>
      rw [group_concat]
      exact sorted_upsert ih

def valuesOf (key : K) (pairs : List (K × V)) : List V :=
  (pairs.filter fun pair => pair.1 = key).map Prod.snd

theorem lookup_group (pairs : List (K × V)) (key : K) :
    lookup key (group pairs) =
      if valuesOf key pairs = [] then none else some (valuesOf key pairs) := by
  induction pairs using List.reverseRecOn with
  | nil => rfl
  | append_singleton before pair ih =>
      obtain ⟨other, value⟩ := pair
      rw [group_concat, lookup_upsert (sorted_group before)]
      by_cases named : key = other
      · subst named
        have grown : valuesOf key (before ++ [(key, value)]) = valuesOf key before ++ [value] := by
          simp [valuesOf]
        rw [if_pos rfl, ih, grown]
        by_cases empty : valuesOf key before = []
        · simp [empty]
        · simp [empty]
      · have kept : valuesOf key (before ++ [(other, value)]) = valuesOf key before := by
          simp [valuesOf, Ne.symm named]
        rw [if_neg named, kept, ih]

/-- **Groups are exact.** A group holds the values paired with its key, and there
is one for every key that occurs. -/
theorem mem_group_iff {pairs : List (K × V)} {values : List V} :
    (key, values) ∈ group pairs ↔ values ≠ [] ∧ values = valuesOf key pairs := by
  rw [mem_iff_lookup (sorted_group pairs), lookup_group]
  by_cases empty : valuesOf key pairs = []
  · simp [empty]
  · rw [if_neg empty, Option.some.injEq]
    constructor
    · intro same
      exact ⟨same ▸ empty, same.symm⟩
    · intro ⟨_, same⟩
      exact same.symm

theorem length_valuesOf (key : K) (pairs : List (K × V)) :
    (valuesOf key pairs).length = (pairs.map Prod.fst).count key := by
  induction pairs with
  | nil => rfl
  | cons pair rest ih =>
      by_cases named : pair.1 = key
      · simpa [valuesOf, named] using ih
      · simpa [valuesOf, named] using ih

end Group

section Overlay

/-- A map with the values of a list of entries put over it. -/
def overlay (base entries : List (K × V)) : List (K × V) :=
  entries.foldl (fun map entry => upsert entry.1 (fun _ => entry.2) map) base

theorem sorted_overlay {base : List (K × V)} (sorted : Sorted base) (entries : List (K × V)) :
    Sorted (overlay base entries) := by
  induction entries generalizing base with
  | nil => exact sorted
  | cons entry rest ih => exact ih (sorted_upsert sorted)

theorem lookup_append (key : K) (front back : List (K × V)) :
    lookup key (front ++ back) = (lookup key front).or (lookup key back) := by
  induction front with
  | nil => rfl
  | cons entry rest ih =>
      by_cases same : entry.1 = key
      · simp [lookup, same]
      · simp [lookup, same, ih]

theorem lookup_map {W : Type*} (f : V → W) (key : K) (entries : List (K × V)) :
    (lookup key entries).map f = lookup key (entries.map fun entry => (entry.1, f entry.2)) := by
  induction entries with
  | nil => rfl
  | cons entry rest ih =>
      by_cases same : entry.1 = key
      · simp [lookup, same]
      · simp [lookup, same, ih]

theorem lookup_overlay {base : List (K × V)} (sorted : Sorted base) (key : K)
    (entries : List (K × V)) :
    lookup key (overlay base entries) = (lookup key entries.reverse).or (lookup key base) := by
  induction entries generalizing base with
  | nil => rfl
  | cons entry rest ih =>
      rw [overlay, List.foldl_cons, ← overlay, ih (sorted_upsert sorted), lookup_upsert sorted,
        List.reverse_cons, lookup_append, Option.or_assoc]
      congr 1
      by_cases same : key = entry.1
      · simp [lookup, same]
      · simp [lookup, same, Ne.symm same]

theorem Sorted.lookup_reverse (sorted : Sorted entries) (key : K) :
    lookup key entries.reverse = lookup key entries := by
  induction entries with
  | nil => rfl
  | cons entry rest ih =>
      obtain ⟨apart, sortedRest⟩ := List.pairwise_cons.mp sorted
      rw [List.reverse_cons, lookup_append, ih sortedRest]
      by_cases same : entry.1 = key
      · have absent : lookup key rest = none :=
          lookup_eq_none fun other member => same ▸ (apart other member).ne'
        simp [lookup, same, absent]
      · simp [lookup, same]

theorem Sorted.eq_of_lookup {first second : List (K × V)} (sorted : Sorted first)
    (other : Sorted second) (same : ∀ key, lookup key first = lookup key second) :
    first = second := by
  have : Std.Irrefl fun a b : K × V => a.1 < b.1 := ⟨fun entry => lt_irrefl entry.1⟩
  have : Std.Antisymm fun a b : K × V => a.1 < b.1 :=
    ⟨fun a b below above => absurd (below.trans above) (lt_irrefl a.1)⟩
  apply List.Pairwise.eq_of_mem_iff sorted other
  intro entry
  obtain ⟨key, value⟩ := entry
  rw [mem_iff_lookup sorted, mem_iff_lookup other, same]

end Overlay

end Chancela.OrderedMap
