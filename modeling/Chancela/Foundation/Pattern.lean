import Mathlib.Data.List.Infix

/-! # Patterns and patches in lists

Where a pattern first occurs in a list, and what a list is after a stretch of it was
written over. A pattern whose first item stands nowhere else in it cannot run across an
occurrence of that item, so its occurrences ahead of such a mark lie wholly ahead of it.
-/

namespace Chancela.Pattern

variable {α : Type*}

section Position

variable [DecidableEq α]

/-- The position of the first occurrence of a nonempty pattern. -/
def position (needle : List α) : List α → Option Nat
  | [] => none
  | item :: rest =>
      if needle.isPrefixOf (item :: rest) then some 0 else (position needle rest).map (· + 1)

theorem position_spec {needle items : List α} {index : Nat}
    (found : position needle items = some index) :
    needle <+: items.drop index ∧ ∀ earlier < index, ¬needle <+: items.drop earlier := by
  induction items generalizing index with
  | nil => cases found
  | cons item rest ih =>
      simp only [position] at found
      split at found
      case isTrue here =>
        cases found
        refine ⟨List.isPrefixOf_iff_prefix.mp here, ?_⟩
        intro earlier before
        exact absurd before (Nat.not_lt_zero _)
      case isFalse elsewhere =>
        obtain ⟨later, located, rfl⟩ := Option.map_eq_some_iff.mp found
        obtain ⟨occurs, first⟩ := ih located
        refine ⟨occurs, ?_⟩
        intro earlier before
        cases earlier with
        | zero => exact fun occurs => elsewhere (List.isPrefixOf_iff_prefix.mpr occurs)
        | succ earlier => exact first earlier (Nat.lt_of_succ_lt_succ before)

theorem exists_position {needle items : List α} {index : Nat} (nonempty : needle ≠ [])
    (occurs : needle <+: items.drop index) :
    ∃ first ≤ index, position needle items = some first := by
  induction items generalizing index with
  | nil =>
      rw [List.drop_nil, List.prefix_nil] at occurs
      exact absurd occurs nonempty
  | cons item rest ih =>
      simp only [position]
      split
      case isTrue here => exact ⟨0, Nat.zero_le _, rfl⟩
      case isFalse elsewhere =>
        cases index with
        | zero => exact absurd (List.isPrefixOf_iff_prefix.mpr occurs) elsewhere
        | succ index =>
            obtain ⟨first, before, located⟩ := ih occurs
            exact ⟨first + 1, Nat.succ_le_succ before, by rw [located]; rfl⟩

end Position

/-! ## Occurrences around a mark -/

section Mark

variable {needle front back : List α} {mark : α} {index : Nat}

theorem end_le_of_prefix_drop (occurs : needle <+: (front ++ mark :: back).drop index)
    (ahead : index < front.length) (apart : mark ∉ needle.tail) :
    index + needle.length ≤ front.length := by
  by_contra across
  obtain ⟨rest, split⟩ := occurs
  have inside : front.length - index < needle.length := by omega
  have read : needle[front.length - index]? = some mark := by
    have widened : (needle ++ rest)[front.length - index]? = needle[front.length - index]? :=
      List.getElem?_append_left inside
    rw [← widened, split, List.getElem?_drop, Nat.add_sub_cancel' ahead.le,
      List.getElem?_append_right le_rfl, Nat.sub_self]
    rfl
  obtain ⟨offset, positive⟩ : ∃ offset, front.length - index = offset + 1 :=
    ⟨front.length - index - 1, by omega⟩
  rw [positive, ← List.getElem?_tail] at read
  exact apart (List.mem_of_getElem? read)

theorem prefix_drop_left (occurs : needle <+: (front ++ back).drop index)
    (fits : index + needle.length ≤ front.length) : needle <+: front.drop index := by
  rw [List.drop_append_of_le_length (by omega)] at occurs
  refine List.prefix_of_prefix_length_le occurs (List.prefix_append _ _) ?_
  rw [List.length_drop]
  omega

theorem infix_of_prefix_drop (occurs : needle <+: front.drop index) : needle <:+: front :=
  occurs.isInfix.trans (List.drop_suffix index front).isInfix

theorem exists_prefix_drop (inside : needle <:+: front) :
    ∃ index, needle <+: front.drop index ∧ index + needle.length ≤ front.length := by
  obtain ⟨before, after, rfl⟩ := inside
  refine ⟨before.length, ?_, ?_⟩
  · rw [List.append_assoc, List.drop_left]
    exact List.prefix_append _ _
  · simp only [List.length_append]
    omega

theorem length_le_of_notMem {item : α} {offset : Nat} (occurs : needle <+: front.drop index)
    (there : front[index + offset]? = some item) (absent : item ∉ needle) :
    needle.length ≤ offset := by
  by_contra beyond
  obtain ⟨rest, split⟩ := occurs
  have inside : offset < needle.length := Nat.lt_of_not_le beyond
  have widened : (needle ++ rest)[offset]? = needle[offset]? := List.getElem?_append_left inside
  rw [split, List.getElem?_drop, there] at widened
  exact absent (List.mem_of_getElem? widened.symm)

theorem prefix_drop_of_take_eq {finish : Nat} (occurs : needle <+: front.drop index)
    (same : front.take finish = back.take finish) (inside : index + needle.length ≤ finish) :
    needle <+: back.drop index := by
  have bounded : needle <+: (front.take finish).drop index := by
    rw [List.drop_take]
    exact List.prefix_take_iff.mpr ⟨occurs, by omega⟩
  rw [same, List.drop_take] at bounded
  exact bounded.trans (List.take_prefix _ _)

theorem infix_append_cons_iff (apart : mark ∉ needle.tail) :
    needle <:+: front ++ mark :: back ↔ needle <:+: front ∨ needle <:+: mark :: back := by
  constructor
  · intro inside
    obtain ⟨index, occurs, -⟩ := exists_prefix_drop inside
    by_cases ahead : index < front.length
    · exact .inl (infix_of_prefix_drop
        (prefix_drop_left occurs (end_le_of_prefix_drop occurs ahead apart)))
    · rw [List.drop_append, List.drop_of_length_le (Nat.le_of_not_lt ahead), List.nil_append]
        at occurs
      exact .inr (infix_of_prefix_drop occurs)
  · rintro (inside | inside)
    · exact inside.trans (List.prefix_append _ _).isInfix
    · exact inside.trans (List.suffix_append _ _).isInfix

theorem infix_append_cons_iff_of_notMem (apart : mark ∉ needle) :
    needle <:+: front ++ mark :: back ↔ needle <:+: front ∨ needle <:+: back := by
  rw [infix_append_cons_iff fun member => apart (List.mem_of_mem_tail member)]
  apply or_congr_right
  rw [List.infix_cons_iff]
  refine ⟨?_, .inr⟩
  rintro (leading | inside)
  · cases needle with
    | nil => exact List.nil_infix
    | cons item rest =>
        rw [(List.cons_prefix_cons.mp leading).1] at apart
        exact absurd List.mem_cons_self apart
  · exact inside

theorem not_infix_of_notMem {item : α} (member : item ∈ needle) (absent : item ∉ front) :
    ¬needle <:+: front := fun inside => absent (inside.subset member)

end Mark

/-- **The first occurrence of a pattern that ends a known stretch.** It is the one in the
stretch, or one wholly ahead of the stretch. -/
theorem position_append_cases [DecidableEq α] {needle front tail back : List α} (mark : α)
    (offset : Nat) (nonempty : needle ≠ []) (apart : mark ∉ needle.tail)
    (own : position needle (mark :: tail) = some offset)
    (closing : (mark :: tail).length = offset + needle.length) :
    (position needle (front ++ mark :: tail ++ back) = some (front.length + offset) ∧
        ¬needle <:+: front) ∨
      ∃ index, position needle (front ++ mark :: tail ++ back) = some index ∧
        index + needle.length ≤ front.length ∧ needle <:+: front := by
  obtain ⟨ownOccurs, ownFirst⟩ := position_spec own
  have occurs : needle <+: (front ++ mark :: tail ++ back).drop (front.length + offset) := by
    rw [List.append_assoc, List.drop_length_add_append,
      List.drop_append_of_le_length (by omega)]
    exact ownOccurs.trans (List.prefix_append _ _)
  obtain ⟨index, before, located⟩ := exists_position nonempty occurs
  obtain ⟨found, first⟩ := position_spec located
  rcases before.eq_or_lt with rfl | earlier
  · refine .inl ⟨located, ?_⟩
    intro inside
    obtain ⟨place, there, fits⟩ := exists_prefix_drop inside
    have positive := List.length_pos_iff.mpr nonempty
    refine first place (by omega) ?_
    rw [List.append_assoc, List.drop_append_of_le_length (by omega)]
    exact there.trans (List.prefix_append _ _)
  · refine .inr ⟨index, located, ?_⟩
    by_cases ahead : index < front.length
    · rw [List.append_assoc, List.cons_append] at found
      have fits := end_le_of_prefix_drop found ahead apart
      exact ⟨fits, infix_of_prefix_drop (prefix_drop_left found fits)⟩
    · obtain ⟨place, rfl⟩ := Nat.exists_eq_add_of_le (Nat.le_of_not_lt ahead)
      rw [List.append_assoc, List.drop_length_add_append] at found
      exact absurd (prefix_drop_left found (by omega)) (ownFirst place (by omega))

/-! ## The list around a first occurrence -/

section Around

variable [DecidableEq α] {needle items front back : List α} {index : Nat}

theorem position_eq_none_iff (nonempty : needle ≠ []) :
    position needle items = none ↔ ¬needle <:+: items := by
  constructor
  · intro absent inside
    obtain ⟨index, occurs, -⟩ := exists_prefix_drop inside
    obtain ⟨first, -, located⟩ := exists_position nonempty occurs
    rw [absent] at located
    cases located
  · intro outside
    cases located : position needle items with
    | none => rfl
    | some index => exact absurd (infix_of_prefix_drop (position_spec located).1) outside

theorem position_append (nonempty : needle ≠ []) (ahead : ¬needle <:+: front ++ needle.dropLast) :
    position needle (front ++ needle ++ back) = some front.length := by
  have occurs : needle <+: (front ++ needle ++ back).drop front.length := by
    rw [List.append_assoc, List.drop_left]
    exact List.prefix_append _ _
  obtain ⟨first, before, located⟩ := exists_position nonempty occurs
  obtain rfl | earlier := before.eq_or_lt
  · exact located
  · have found := (position_spec located).1
    have shape : front ++ needle ++ back =
        front ++ needle.dropLast ++ ([needle.getLast nonempty] ++ back) := by
      rw [List.append_assoc front needle.dropLast, ← List.append_assoc needle.dropLast,
        List.dropLast_append_getLast, List.append_assoc]
    have positive := List.length_pos_iff.mpr nonempty
    rw [shape] at found
    refine absurd (infix_of_prefix_drop (prefix_drop_left found ?_)) ahead
    rw [List.length_append, List.length_dropLast]
    omega

theorem exists_eq_append_of_position (nonempty : needle ≠ [])
    (located : position needle items = some index) :
    ∃ front back, items = front ++ needle ++ back ∧ front.length = index ∧
      ¬needle <:+: front ++ needle.dropLast := by
  obtain ⟨⟨back, split⟩, first⟩ := position_spec located
  have inside : index ≤ items.length := by
    by_contra beyond
    rw [List.drop_of_length_le (by omega)] at split
    exact nonempty (List.append_eq_nil_iff.mp split).1
  refine ⟨items.take index, back, ?_, List.length_take_of_le inside, ?_⟩
  · rw [List.append_assoc, split, List.take_append_drop]
  · intro occurs
    obtain ⟨place, there, fits⟩ := exists_prefix_drop occurs
    have positive := List.length_pos_iff.mpr nonempty
    rw [List.length_append, List.length_take_of_le inside, List.length_dropLast] at fits
    refine first place (by omega) ?_
    have whole : items.take index ++ needle.dropLast <+: items := by
      have lead : items.take index ++ needle.dropLast <+: items.take index ++ (needle ++ back) :=
        (List.prefix_append_right_inj _).mpr
          ((List.dropLast_prefix needle).trans (List.prefix_append _ _))
      rwa [split, List.take_append_drop] at lead
    exact there.trans (whole.drop place)

end Around

/-! ## Writing over a stretch -/

/-- `items[start..start + new.len()].copy_from_slice(new)`; the slice is out of range
otherwise. -/
def overwrite (items : List α) (start : Nat) (new : List α) : Option (List α) :=
  if start + new.length ≤ items.length then
    some (items.take start ++ new ++ items.drop (start + new.length))
  else none

section Overwrite

variable {items new written front old back : List α} {start index : Nat}

theorem overwrite_eq_some_iff : overwrite items start new = some written ↔
    start + new.length ≤ items.length ∧
      items.take start ++ new ++ items.drop (start + new.length) = written := by
  unfold overwrite
  split
  · simp only [*, Option.some.injEq, true_and]
  · simp only [*, reduceCtorEq, false_and]

theorem overwrite_append (same : old.length = new.length) :
    overwrite (front ++ old ++ back) front.length new = some (front ++ new ++ back) := by
  refine overwrite_eq_some_iff.mpr ⟨?_, ?_⟩
  · simp only [List.length_append]
    omega
  · rw [List.append_assoc front old back, List.take_left, List.drop_length_add_append, ← same,
      List.drop_left]

theorem length_overwrite (patched : overwrite items start new = some written) :
    written.length = items.length := by
  obtain ⟨fits, rfl⟩ := overwrite_eq_some_iff.mp patched
  simp only [List.length_append, List.length_take, List.length_drop]
  omega

theorem take_overwrite (patched : overwrite items start new = some written)
    (ahead : index ≤ start) : written.take index = items.take index := by
  obtain ⟨fits, rfl⟩ := overwrite_eq_some_iff.mp patched
  rw [List.append_assoc, List.take_append_of_le_length, List.take_take, min_eq_left ahead]
  rw [List.length_take]
  omega

theorem drop_overwrite (patched : overwrite items start new = some written)
    (behind : start + new.length ≤ index) : written.drop index = items.drop index := by
  obtain ⟨fits, rfl⟩ := overwrite_eq_some_iff.mp patched
  have width : (items.take start ++ new).length = start + new.length := by
    rw [List.length_append, List.length_take]
    omega
  obtain ⟨past, rfl⟩ := Nat.exists_eq_add_of_le behind
  rw [← width, List.drop_length_add_append, List.drop_drop, width]

theorem drop_overwrite_start (patched : overwrite items start new = some written) :
    written.drop start = new ++ items.drop (start + new.length) := by
  obtain ⟨fits, rfl⟩ := overwrite_eq_some_iff.mp patched
  have width : (items.take start).length = start := by
    rw [List.length_take]
    omega
  rw [List.append_assoc]
  nth_rewrite 1 [← width]
  rw [List.drop_left]

theorem getElem?_overwrite (patched : overwrite items start new = some written)
    (behind : start ≤ index) (inside : index < start + new.length) :
    written[index]? = new[index - start]? := by
  have stretch := drop_overwrite_start patched
  have shifted : written[index]? = (written.drop start)[index - start]? := by
    rw [List.getElem?_drop, Nat.add_sub_cancel' behind]
  rw [shifted, stretch, List.getElem?_append_left (by omega)]

theorem overwrite_overwrite {again : List α} (patched : overwrite items start new = some written)
    (inside : again.length ≤ new.length) :
    overwrite written start again = overwrite items start (again ++ new.drop again.length) := by
  have fits := (overwrite_eq_some_iff.mp patched).1
  have width : (again ++ new.drop again.length).length = new.length := by
    rw [List.length_append, List.length_drop]
    omega
  have twice : written.drop (start + again.length) =
      new.drop again.length ++ items.drop (start + new.length) := by
    rw [← List.drop_drop, drop_overwrite_start patched, List.drop_append_of_le_length inside]
  rw [overwrite, overwrite, length_overwrite patched, width, if_pos (by omega), if_pos fits,
    take_overwrite patched le_rfl, twice]
  simp only [List.append_assoc]

end Overwrite

/-! ## Escaping -/

def escape (special : α → Bool) (lead : α) (items : List α) : List α :=
  items.flatMap fun item => if special item then [lead, item] else [item]

theorem infix_escape_iff {special : α → Bool} {lead : α} {needle items : List α}
    (plain : ∀ item ∈ needle, special item = false) (unled : lead ∉ needle) :
    needle <:+: escape special lead items ↔ needle <:+: items := by
  -- The stretch since the last escaped item is carried along unchanged.
  suffices general : ∀ front : List α,
      needle <:+: front ++ escape special lead items ↔ needle <:+: front ++ items by
    simpa only [List.nil_append] using general []
  induction items with
  | nil => exact fun front => Iff.rfl
  | cons item rest ih =>
      intro front
      by_cases kind : special item = true
      · have absent : item ∉ needle := by
          intro member
          rw [plain item member] at kind
          cases kind
        have shape : front ++ escape special lead (item :: rest) =
            front ++ lead :: ([] ++ item :: escape special lead rest) := by
          simp only [escape, List.flatMap_cons, kind, ↓reduceIte, List.cons_append,
            List.nil_append]
        rw [shape, infix_append_cons_iff_of_notMem unled, infix_append_cons_iff_of_notMem absent,
          infix_append_cons_iff_of_notMem absent]
        have tail := ih []
        rw [List.nil_append, List.nil_append] at tail
        rw [tail, ← or_assoc]
        refine or_congr_left (or_iff_left_of_imp ?_)
        intro inside
        rw [List.eq_nil_of_infix_nil inside]
        exact List.nil_infix
      · have shape : front ++ escape special lead (item :: rest) =
            (front ++ [item]) ++ escape special lead rest := by
          simp only [escape, List.flatMap_cons, kind, Bool.false_eq_true, ↓reduceIte,
            List.append_assoc]
        rw [shape, ih (front ++ [item]), List.append_assoc, List.singleton_append]

end Chancela.Pattern
