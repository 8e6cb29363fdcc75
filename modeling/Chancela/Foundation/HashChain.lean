import Mathlib.Data.List.Basic
import Mathlib.Data.List.Induction

/-! # Hash-linked runs

A verifier of a hash chain reads, of each member, its position in the chain, the
hash it links back to and its own hash. A run is *linked* when the first member
founds the chain and every later member continues the one before it
(`Chancela.HashChain.Linked`). The last member of a linked run whose hash binds
position and backward link determines the length of the run and every hash in it
(`Chancela.HashChain.Linked.hashes_eq`).
-/

namespace Chancela.HashChain

variable {D : Type*}

/-- What a verifier reads of one chain member. `founds` says whether the member
may be the first of its chain. -/
structure Member (D : Type*) where
  seq : Nat
  prev : D
  hash : D
  founds : Bool

/-- Position and hash of the last member of a chain, if it has one. -/
abbrev Tip (D : Type*) := Option (Nat × D)

def Member.tip (member : Member D) : Tip D := some (member.seq, member.hash)

/-- `member` continues a chain that stands at `tip`. -/
def Extends (genesis : D) (tip : Tip D) (member : Member D) : Prop :=
  match tip with
  | none => member.seq = 0 ∧ member.prev = genesis ∧ member.founds = true
  | some (seq, hash) => member.seq = seq + 1 ∧ member.prev = hash

/-- Every member of the list continues the chain, starting from `tip`. -/
def Linked (genesis : D) : Tip D → List (Member D) → Prop
  | _, [] => True
  | tip, member :: rest => Extends genesis tip member ∧ Linked genesis member.tip rest

def advance : Tip D → List (Member D) → Tip D
  | tip, [] => tip
  | _, member :: rest => advance member.tip rest

instance [DecidableEq D] (genesis : D) (tip : Tip D) (member : Member D) :
    Decidable (Extends genesis tip member) :=
  match tip with
  | none => inferInstanceAs (Decidable (_ ∧ _ ∧ _))
  | some _ => inferInstanceAs (Decidable (_ ∧ _))

instance decidableLinked [DecidableEq D] (genesis : D) :
    (tip : Tip D) → (members : List (Member D)) → Decidable (Linked genesis tip members)
  | _, [] => .isTrue trivial
  | _, member :: rest =>
      @instDecidableAnd _ _ inferInstance (decidableLinked genesis member.tip rest)

@[simp] theorem extends_none (genesis : D) (member : Member D) :
    Extends genesis none member ↔
      member.seq = 0 ∧ member.prev = genesis ∧ member.founds = true := Iff.rfl

@[simp] theorem extends_some (genesis : D) (seq : Nat) (hash : D) (member : Member D) :
    Extends genesis (some (seq, hash)) member ↔
      member.seq = seq + 1 ∧ member.prev = hash := Iff.rfl

@[simp] theorem linked_nil (genesis : D) (tip : Tip D) : Linked genesis tip [] := trivial

@[simp] theorem linked_cons (genesis : D) (tip : Tip D) (member : Member D)
    (rest : List (Member D)) :
    Linked genesis tip (member :: rest) ↔
      Extends genesis tip member ∧ Linked genesis member.tip rest := Iff.rfl

@[simp] theorem advance_nil (tip : Tip D) : advance tip [] = tip := rfl

@[simp] theorem advance_cons (tip : Tip D) (member : Member D) (rest : List (Member D)) :
    advance tip (member :: rest) = advance member.tip rest := rfl

theorem advance_append (tip : Tip D) (first second : List (Member D)) :
    advance tip (first ++ second) = advance (advance tip first) second := by
  induction first generalizing tip with
  | nil => rfl
  | cons member rest ih => exact ih member.tip

theorem linked_append (genesis : D) (tip : Tip D) (first second : List (Member D)) :
    Linked genesis tip (first ++ second) ↔
      Linked genesis tip first ∧ Linked genesis (advance tip first) second := by
  induction first generalizing tip with
  | nil => simp only [List.nil_append, linked_nil, true_and, advance_nil]
  | cons member rest ih =>
      simp only [List.cons_append, linked_cons, advance_cons, ih, and_assoc]

theorem advance_eq_none_iff (members : List (Member D)) :
    advance none members = none ↔ members = [] := by
  constructor
  · intro stands
    induction members using List.reverseRecOn with
    | nil => rfl
    | append_singleton rest member _ =>
        rw [advance_append] at stands
        cases stands
  · rintro rfl
    rfl

theorem advance_concat (tip : Tip D) (members : List (Member D)) (member : Member D) :
    advance tip (members ++ [member]) = member.tip := by
  rw [advance_append]
  rfl

theorem Linked.seq_eq_length {genesis : D} {first rest : List (Member D)} {member : Member D}
    (linked : Linked genesis none (first ++ member :: rest)) : member.seq = first.length := by
  induction first using List.reverseRecOn generalizing member rest with
  | nil => exact linked.1.1
  | append_singleton before previous ih =>
      rw [List.append_assoc, List.singleton_append] at linked
      have position := ih linked
      have steps := ((linked_append ..).mp linked).2.2.1
      rw [steps.1, position, List.length_append, List.length_singleton]

theorem Linked.seq_getElem {genesis : D} {members : List (Member D)}
    (linked : Linked genesis none members) {index : Nat} (inside : index < members.length) :
    members[index].seq = index := by
  have split : members.take index ++ members[index] :: members.drop (index + 1) = members := by
    rw [← List.drop_eq_getElem_cons inside, List.take_append_drop]
  rw [Linked.seq_eq_length (split ▸ linked), List.length_take_of_le (Nat.le_of_lt inside)]

theorem Linked.pairwise_seq {genesis : D} {members : List (Member D)}
    (linked : Linked genesis none members) : members.Pairwise (·.seq < ·.seq) := by
  refine List.pairwise_iff_getElem.mpr fun first second inside inside' before => ?_
  rwa [linked.seq_getElem inside, linked.seq_getElem inside']

/-- **A tip commits to the whole run.** When a shared hash forces the same
position and the same backward link, two linked runs that end in the same hash
have the same length and the same hash at every position. -/
theorem Linked.hashes_eq {genesis : D} {left right : List (Member D)}
    (binding : ∀ first ∈ left, ∀ second ∈ right, first.hash = second.hash →
      first.seq = second.seq ∧ first.prev = second.prev)
    (leftLinked : Linked genesis none left) (rightLinked : Linked genesis none right)
    (tips : left.getLast?.map Member.hash = right.getLast?.map Member.hash) :
    left.map Member.hash = right.map Member.hash := by
  induction left using List.reverseRecOn generalizing right with
  | nil =>
      cases right using List.reverseRecOn with
      | nil => rfl
      | append_singleton before last => simp at tips
  | append_singleton before last ih =>
      cases right using List.reverseRecOn with
      | nil => simp at tips
      | append_singleton before' last' =>
          have sameHash : last.hash = last'.hash := by simpa using tips
          obtain ⟨samePosition, sameLink⟩ :=
            binding last (by simp) last' (by simp) sameHash
          have lengths : before.length = before'.length := by
            rw [← Linked.seq_eq_length leftLinked, ← Linked.seq_eq_length rightLinked,
              samePosition]
          have leftParts := (linked_append ..).mp leftLinked
          have rightParts := (linked_append ..).mp rightLinked
          have earlierTips :
              before.getLast?.map Member.hash = before'.getLast?.map Member.hash := by
            cases before using List.reverseRecOn with
            | nil =>
                have empty : before' = [] := List.length_eq_zero_iff.mp lengths.symm
                rw [empty]
            | append_singleton earlier previous =>
                cases before' using List.reverseRecOn with
                | nil => simp at lengths
                | append_singleton earlier' previous' =>
                    rw [advance_concat] at leftParts rightParts
                    have leftLink : last.prev = previous.hash := leftParts.2.1.2
                    have rightLink : last'.prev = previous'.hash := rightParts.2.1.2
                    simp [← leftLink, ← rightLink, sameLink]
          have earlier := ih
            (fun first member second member' =>
              binding first (by simp [member]) second (by simp [member']))
            leftParts.1 rightParts.1 earlierTips
          rw [List.map_append, List.map_append, earlier]
          simp [sameHash]

end Chancela.HashChain
