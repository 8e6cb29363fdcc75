import Chancela.Foundation.Table
import Mathlib.Data.List.Induction

/-! # The history of a table

A table edited call by call: a call keeps some of the values and may put one in. What stands
in the table in the end was put there once, and every later call left it
(`Chancela.Table.Follows.get_foldl_eq_some_iff`).
-/

namespace Chancela.Table

variable {K α : Type*} [DecidableEq K] {key : α → K}

def size (table : Table key) : Nat := table.entries.entries.length

def retain (table : Table key) (keep : α → Bool) : Table key where
  entries :=
    { entries := table.entries.entries.filter fun entry => keep entry.2
      nodupKeys := by
        exact table.entries.nodupKeys.sublist List.filter_sublist }
  keyed := by
    intro id value present
    have member := List.mem_of_mem_filter (AList.mem_lookup_iff.mp present)
    exact table.keyed id value (AList.mem_lookup_iff.mpr member)

def erase (table : Table key) (id : K) : Table key where
  entries := table.entries.erase id
  keyed := by
    intro other value present
    by_cases same : other = id
    · subst same
      rw [AList.lookup_erase] at present
      cases present
    · rw [AList.lookup_erase_ne same] at present
      exact table.keyed other value present

variable {table : Table key} {id : K} {value : α}

theorem get_retain_eq_some_iff {keep : α → Bool} :
    (table.retain keep).get id = some value ↔ table.get id = some value ∧ keep value = true := by
  constructor
  · intro present
    have member := List.mem_filter.mp (AList.mem_lookup_iff.mp present)
    exact ⟨AList.mem_lookup_iff.mpr member.1, member.2⟩
  · intro ⟨present, kept⟩
    have member := AList.mem_lookup_iff.mp present
    exact AList.mem_lookup_iff.mpr (List.mem_filter.mpr ⟨member, kept⟩)

theorem get_erase_eq_some_iff {other : K} :
    (table.erase id).get other = some value ↔ other ≠ id ∧ table.get other = some value := by
  by_cases same : other = id
  · subst same
    simp only [get, erase, AList.lookup_erase, reduceCtorEq, ne_eq, not_true_eq_false, false_and]
  · simp only [get, erase, AList.lookup_erase_ne same, ne_eq, same, not_false_eq_true, true_and]

/-- What a call does to a table: it keeps the values of a condition, and may then put one in. -/
structure Edit (α : Type*) where
  keeps : α → Bool
  puts : Option α

def Edit.Leaves (key : α → K) (change : Edit α) (value : α) : Prop :=
  change.keeps value = true ∧ ∀ other, change.puts = some other → key other ≠ key value

/-- After the step of a call a table holds what its edit puts in, and what it leaves. -/
def Follows {β : Type*} (step : Table key → β → Table key) (change : β → Edit α) : Prop :=
  ∀ table call id value, (step table call).get id = some value ↔
    key value = id ∧ ((change call).puts = some value ∨
      table.get id = some value ∧ (change call).Leaves key value)

theorem get_retain_iff_leaves (change : Edit α) (nothing : change.puts = none) :
    (table.retain change.keeps).get id = some value ↔
      key value = id ∧ (change.puts = some value ∨
        table.get id = some value ∧ change.Leaves key value) := by
  have leaves : change.Leaves key value ↔ change.keeps value = true := by
    simp only [Edit.Leaves, nothing, reduceCtorEq, IsEmpty.forall_iff, implies_true, and_true]
  rw [get_retain_eq_some_iff, leaves, nothing]
  constructor
  · intro ⟨present, kept⟩
    exact ⟨key_of_get present, .inr ⟨present, kept⟩⟩
  · intro ⟨_, held⟩
    rcases held with put | held
    · cases put
    · exact held

theorem get_insert_retain_iff_leaves {change : Edit α} {other : α}
    (put : change.puts = some other) :
    ((table.retain change.keeps).insert other).get id = some value ↔
      key value = id ∧ (change.puts = some value ∨
        table.get id = some value ∧ change.Leaves key value) := by
  have leaves : change.Leaves key value ↔ change.keeps value = true ∧ key other ≠ key value := by
    simp only [Edit.Leaves, put, Option.some.injEq, forall_eq']
  rw [get_insert_eq_some_iff, get_retain_eq_some_iff, leaves, put, Option.some.injEq]
  constructor
  · intro held
    rcases held with ⟨named, rfl⟩ | ⟨apart, present, kept⟩
    · exact ⟨named.symm, .inl rfl⟩
    · have named := key_of_get present
      exact ⟨named, .inr ⟨present, kept, fun same => apart (named.symm.trans same.symm)⟩⟩
  · intro ⟨named, held⟩
    rcases held with rfl | ⟨present, kept, apart⟩
    · exact .inl ⟨named.symm, rfl⟩
    · exact .inr ⟨fun same => apart (same.symm.trans named.symm), present, kept⟩

variable {β : Type*} {step : Table key → β → Table key} {change : β → Edit α}

/-- **The history of what a table holds.** It was put in by one of the calls, and every later
one left it in its place. -/
theorem Follows.get_foldl_eq_some_iff (follows : Follows step change) {calls : List β} :
    (calls.foldl step empty).get id = some value ↔
      key value = id ∧ ∃ before call after, calls = before ++ call :: after ∧
        (change call).puts = some value ∧ ∀ later ∈ after, (change later).Leaves key value := by
  induction calls using List.reverseRecOn with
  | nil =>
      constructor
      · intro present
        rw [List.foldl_nil, get_empty] at present
        cases present
      · intro ⟨_, before, call, after, split, _⟩
        exact absurd split.symm (List.append_ne_nil_of_right_ne_nil _ (List.cons_ne_nil _ _))
  | append_singleton calls last ih =>
      rw [List.foldl_concat, follows, ih]
      constructor
      · intro ⟨named, held⟩
        refine ⟨named, ?_⟩
        rcases held with put | ⟨⟨_, before, call, after, rfl, put, left⟩, leaves⟩
        · exact ⟨calls, last, [], rfl, put, fun _ member => absurd member List.not_mem_nil⟩
        · refine ⟨before, call, after ++ [last], by simp, put, fun later member => ?_⟩
          rcases List.mem_append.mp member with earlier | final
          · exact left later earlier
          · rw [List.mem_singleton.mp final]
            exact leaves
      · intro ⟨named, before, call, after, split, put, left⟩
        refine ⟨named, ?_⟩
        rcases List.eq_nil_or_concat after with rfl | ⟨middle, final, rfl⟩
        · obtain ⟨_, same⟩ := List.append_inj' split rfl
          obtain rfl := List.singleton_injective same
          exact .inl put
        · have parts : calls ++ [last] = (before ++ call :: middle) ++ [final] := by
            rw [split]
            simp
          obtain ⟨rfl, same⟩ := List.append_inj' parts rfl
          obtain rfl := List.singleton_injective same
          refine .inr ⟨⟨named, before, call, middle, rfl, put, fun later member => ?_⟩, ?_⟩
          · exact left later (by simp [member])
          · exact left last (by simp)

end Chancela.Table
