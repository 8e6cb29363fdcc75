import Mathlib.Data.Set.Insert
import Mathlib.Logic.Function.Basic

/-! # Memos

A memo answers from a cache that is looked up under a key of the input, and computes
on a miss. The cache may drop entries on its own. What it still holds was computed
from an input it was asked about, so an answer is as good as the key: two inputs of
one key must have results of one *view* (`Chancela.Memo.view_ask`).
-/

namespace Chancela.Memo

variable {α κ β γ : Type*} (key : α → κ) (compute : α → β) (view : β → γ)

def ask [DecidableEq κ] (cache : κ → Option β) (input : α) : β × (κ → Option β) :=
  match cache (key input) with
  | some cached => (cached, cache)
  | none => (compute input, Function.update cache (key input) (some (compute input)))

def prime [DecidableEq κ] (cache : κ → Option β) (input : α) : κ → Option β :=
  Function.update cache (key input) (some (compute input))

def evict (cache : κ → Option β) (dropped : κ → Bool) : κ → Option β :=
  fun entry => if dropped entry then none else cache entry

/-- Every entry is the result of an input asked about, under its key. -/
def Backed (cache : κ → Option β) (asked : Set α) : Prop :=
  ∀ entry result, cache entry = some result →
    ∃ input ∈ asked, key input = entry ∧ compute input = result

def Held (cache : κ → Option β) (asked : Set α) : Prop :=
  ∀ input ∈ asked, (cache (key input)).isSome = true

/-- An input has the view of every input asked about under its key. -/
def Agrees (asked : Set α) (input : α) : Prop :=
  ∀ earlier ∈ asked, key earlier = key input → view (compute earlier) = view (compute input)

variable {key compute view} {cache : κ → Option β} {asked : Set α} {input : α}

theorem Backed.empty : Backed key compute (fun _ => none) ∅ :=
  fun _ _ entered => nomatch entered

theorem Backed.prime [DecidableEq κ] (backed : Backed key compute cache asked) (input : α) :
    Backed key compute (prime key compute cache input) (insert input asked) := by
  intro entry result entered
  by_cases same : entry = key input
  · subst same
    rw [Memo.prime, Function.update_self] at entered
    exact ⟨input, Set.mem_insert input asked, rfl, Option.some.inj entered⟩
  · rw [Memo.prime, Function.update_of_ne same] at entered
    obtain ⟨earlier, member, named, computed⟩ := backed entry result entered
    exact ⟨earlier, Set.mem_insert_of_mem input member, named, computed⟩

theorem Backed.ask [DecidableEq κ] (backed : Backed key compute cache asked) (input : α) :
    Backed key compute (ask key compute cache input).2 (insert input asked) := by
  cases found : cache (key input) with
  | none =>
      rw [Memo.ask, found]
      exact backed.prime input
  | some cached =>
      rw [Memo.ask, found]
      intro entry result entered
      obtain ⟨earlier, member, named, computed⟩ := backed entry result entered
      exact ⟨earlier, Set.mem_insert_of_mem input member, named, computed⟩

theorem Backed.evict (backed : Backed key compute cache asked) (dropped : κ → Bool) :
    Backed key compute (evict cache dropped) asked := by
  intro entry result entered
  apply backed entry result
  cases gone : dropped entry with
  | true =>
      rw [Memo.evict, gone] at entered
      cases entered
  | false =>
      rw [Memo.evict, gone] at entered
      exact entered

theorem Held.empty : Held key (fun _ => (none : Option β)) ∅ :=
  fun _ member => absurd member (Set.notMem_empty _)

theorem Held.prime [DecidableEq κ] (held : Held key cache asked) (input : α) :
    Held key (prime key compute cache input) (insert input asked) := by
  intro earlier member
  by_cases same : key earlier = key input
  · rw [Memo.prime, same, Function.update_self]
    rfl
  · rw [Memo.prime, Function.update_of_ne same]
    rcases member with rfl | before
    · exact absurd rfl same
    · exact held earlier before

theorem Held.ask [DecidableEq κ] (held : Held key cache asked) (input : α) :
    Held key (ask key compute cache input).2 (insert input asked) := by
  cases found : cache (key input) with
  | none =>
      rw [Memo.ask, found]
      exact held.prime input
  | some cached =>
      rw [Memo.ask, found]
      intro earlier member
      rcases member with rfl | before
      · change (cache (key earlier)).isSome = true
        rw [found]
        rfl
      · exact held earlier before

theorem Agrees.insert (among : ∀ earlier ∈ asked, Agrees key compute view asked earlier)
    (agrees : Agrees key compute view asked input) :
    ∀ earlier ∈ insert input asked, Agrees key compute view (insert input asked) earlier := by
  rintro later (rfl | inside) earlier (rfl | before) named
  · rfl
  · exact agrees earlier before named
  · exact (agrees later inside named.symm).symm
  · exact among later inside earlier before named

/-- **Answers of a memo.** An input that agrees with what was asked before gets an
answer of its own view. -/
theorem view_ask [DecidableEq κ] (backed : Backed key compute cache asked)
    (agrees : Agrees key compute view asked input) :
    view (ask key compute cache input).1 = view (compute input) := by
  cases found : cache (key input) with
  | none => rw [ask, found]
  | some cached =>
      obtain ⟨earlier, member, named, computed⟩ := backed _ _ found
      rw [ask, found, ← computed]
      exact agrees earlier member named

theorem agrees_of_view_ask [DecidableEq κ] (backed : Backed key compute cache asked)
    (held : Held key cache asked)
    (among : ∀ earlier ∈ asked, Agrees key compute view asked earlier)
    (answered : view (ask key compute cache input).1 = view (compute input)) :
    Agrees key compute view asked input := by
  intro earlier member named
  obtain ⟨cached, found⟩ := Option.isSome_iff_exists.mp (held earlier member)
  obtain ⟨origin, asked, under, computed⟩ := backed _ _ found
  rw [ask, ← named, found] at answered
  rw [← answered, ← computed]
  exact (among earlier member origin asked under).symm

end Chancela.Memo
