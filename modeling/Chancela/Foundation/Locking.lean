import Chancela.Foundation.Interleave
import Mathlib.Data.Finset.Erase
import Mathlib.Data.Finset.Insert

/-! # Programs under locks

Parties that run programs over one memory, whose parts are guarded by locks: a lock is taken
for reading, with others, or for writing, alone, and a program that asks for a lock another one
holds waits. A *protocol* says what each lock guards, what belongs to a party alone, what holds
always and what holds while a lock is not held for writing, and how the memory may evolve. A
program *keeps* the protocol if it does so on its own, whatever the others do meanwhile to what
it does not hold; then the protocol holds in every run of every interleaving
(`Chancela.Locking.Protocol.holds`).
-/

namespace Chancela.Locking

inductive Mode where
  | read
  | write
deriving DecidableEq

/-- Who holds a lock. -/
structure Lock (ι : Type) where
  writer : Option ι
  readers : Finset ι

/-- A program, cut where it takes and gives up locks and where it changes the memory; it goes on
with the memory that it found when it took a lock or made a change. -/
inductive Program (Λ σ α : Type) where
  | lock (name : Λ) (mode : Mode) (next : σ → Program Λ σ α)
  | unlock (name : Λ) (next : Program Λ σ α)
  | modify (change : σ → σ) (next : σ → Program Λ σ α)
  | done (answer : α)

/-- The memory, and who holds its locks. -/
structure Guarded (Λ σ ι : Type) where
  locks : Λ → Lock ι
  memory : σ

variable {Λ σ ι α : Type} [DecidableEq Λ] [DecidableEq ι]

namespace Program

def release (names : List Λ) (rest : Program Λ σ α) : Program Λ σ α := names.foldr .unlock rest

/-- A change with an answer, on which the program goes on. -/
def perform {β : Type} (step : σ → β × σ) (next : β → Program Λ σ α) : Program Λ σ α :=
  .modify (fun memory => (step memory).2) fun memory => next (step memory).1

def Reads : Program Λ σ α → Prop
  | .lock _ _ next => ∀ memory, Reads (next memory)
  | .unlock _ next => Reads next
  | .modify _ _ => False
  | .done _ => True

omit [DecidableEq Λ] in
theorem Reads.release {rest : Program Λ σ α} (reads : rest.Reads) (names : List Λ) :
    (release names rest).Reads := by
  induction names with
  | nil => exact reads
  | cons name names ih => exact ih

end Program

namespace Lock

def free : Lock ι := ⟨none, ∅⟩

def heldBy (lock : Lock ι) (party : ι) : Option Mode :=
  if lock.writer = some party then some .write
  else if party ∈ lock.readers then some .read else none

def available (lock : Lock ι) : Mode → Bool
  | .read => lock.writer.isNone
  | .write => lock.writer.isNone && decide (lock.readers = ∅)

def take (lock : Lock ι) (party : ι) : Mode → Lock ι
  | .read => { lock with readers := insert party lock.readers }
  | .write => { lock with writer := some party }

def giveUp (lock : Lock ι) (party : ι) : Lock ι where
  writer := if lock.writer = some party then none else lock.writer
  readers := lock.readers.erase party

def Exclusive (lock : Lock ι) : Prop := lock.writer.isSome = true → lock.readers = ∅

variable {lock : Lock ι} {party other : ι} {mode : Mode}

theorem writer_of_available (free : lock.available mode = true) :
    lock.writer = none := by
  cases mode with
  | read => exact Option.isNone_iff_eq_none.mp free
  | write => exact Option.isNone_iff_eq_none.mp (Bool.and_eq_true_iff.mp free).1

theorem heldBy_take_self (free : lock.available mode = true) :
    (lock.take party mode).heldBy party = some mode := by
  have unwritten := writer_of_available free
  cases mode with
  | read => simp [heldBy, take, unwritten]
  | write => simp [heldBy, take]

theorem heldBy_take_of_ne (free : lock.available mode = true) (apart : other ≠ party) :
    (lock.take party mode).heldBy other = lock.heldBy other := by
  have unwritten := writer_of_available free
  cases mode with
  | read => simp [heldBy, take, apart]
  | write =>
      have unlike : some party ≠ some other := fun same => apart (Option.some.inj same).symm
      have nobody : (none : Option ι) ≠ some other := by
        intro same
        cases same
      unfold heldBy take
      dsimp only
      rw [unwritten, if_neg unlike, if_neg nobody]

theorem exclusive_take (free : lock.available mode = true) : (lock.take party mode).Exclusive := by
  have unwritten := writer_of_available free
  cases mode with
  | read =>
      intro written
      rw [Lock.take, unwritten] at written
      cases written
  | write => exact fun _ => of_decide_eq_true (Bool.and_eq_true_iff.mp free).2

@[simp] theorem heldBy_giveUp_self : (lock.giveUp party).heldBy party = none := by
  unfold heldBy giveUp
  by_cases mine : lock.writer = some party
  · simp [mine]
  · simp [mine]

theorem heldBy_giveUp_of_ne (apart : other ≠ party) :
    (lock.giveUp party).heldBy other = lock.heldBy other := by
  unfold heldBy giveUp
  by_cases mine : lock.writer = some party
  · simp [mine, apart, apart.symm]
  · simp [mine, apart]

theorem writer_of_giveUp (unwritten : (lock.giveUp party).writer = none) :
    lock.writer = some party ∨ lock.writer = none := by
  by_cases mine : lock.writer = some party
  · exact .inl mine
  · exact .inr ((if_neg mine).symm.trans unwritten)

theorem Exclusive.giveUp (exclusive : lock.Exclusive) : (lock.giveUp party).Exclusive := by
  intro written
  unfold Lock.giveUp at written ⊢
  by_cases mine : lock.writer = some party
  · rw [if_pos mine] at written
    cases written
  · rw [if_neg mine] at written
    rw [exclusive written]
    exact Finset.erase_eq_of_notMem (Finset.notMem_empty party)

theorem Exclusive.heldBy_eq_none (exclusive : lock.Exclusive)
    (writing : lock.heldBy party = some .write) (apart : other ≠ party) :
    lock.heldBy other = none := by
  unfold heldBy at writing ⊢
  by_cases mine : lock.writer = some party
  · have alone := exclusive (by rw [mine]; rfl)
    rw [mine, alone]
    simp [apart.symm]
  · rw [if_neg mine] at writing
    split at writing <;> cases writing

theorem heldBy_eq_write_iff : lock.heldBy party = some .write ↔ lock.writer = some party := by
  unfold heldBy
  by_cases mine : lock.writer = some party
  · simp [mine]
  · simp only [mine, ↓reduceIte, iff_false]
    split <;> simp

end Lock

def run (party : ι) (guarded : Guarded Λ σ ι) : Program Λ σ α → Guarded Λ σ ι × Program Λ σ α
  | .lock name mode next =>
      if (guarded.locks name).available mode = true then
        ({ guarded with
            locks := Function.update guarded.locks name ((guarded.locks name).take party mode) },
          next guarded.memory)
      else (guarded, .lock name mode next)
  | .unlock name next =>
      ({ guarded with
          locks := Function.update guarded.locks name ((guarded.locks name).giveUp party) }, next)
  | .modify change next =>
      ({ guarded with memory := change guarded.memory }, next guarded.memory)
  | .done answer => (guarded, .done answer)

/-- What the parties rely on and grant. -/
structure Protocol (Λ σ ι : Type) where
  /-- What a lock guards for one who holds it is the same. -/
  same : Λ → Mode → σ → σ → Prop
  /-- What belongs to a party alone is the same. -/
  own : ι → σ → σ → Prop
  /-- What holds always. -/
  invariant : σ → Prop
  /-- What holds while a lock is not held for writing. -/
  atRest : Λ → σ → Prop
  /-- How the memory may evolve. -/
  evolves : σ → σ → Prop
  same_read : ∀ {name before after}, same name .write before after → same name .read before after
  same_refl : ∀ name mode memory, same name mode memory memory
  same_trans : ∀ {name mode first second third}, same name mode first second →
    same name mode second third → same name mode first third
  atRest_same : ∀ {name before after}, same name .write before after → atRest name before →
    atRest name after
  own_refl : ∀ party memory, own party memory memory
  own_trans : ∀ {party first second third}, own party first second → own party second third →
    own party first third
  evolves_refl : ∀ memory, evolves memory memory
  evolves_trans : ∀ {first second third}, evolves first second → evolves second third →
    evolves first third

namespace Protocol

variable (protocol : Protocol Λ σ ι)

/-- What a party relies on while others run: what it holds and what is its own stay. -/
structure Relies (party : ι) (held : Λ → Option Mode) (before after : σ) : Prop where
  own : protocol.own party before after
  same : ∀ name mode, held name = some mode → protocol.same name mode before after

/-- What a party grants with a change: it spares those who read along with it, and, where it
holds nothing, also the one who writes. -/
structure Grants (party : ι) (held : Λ → Option Mode) (before after : σ) : Prop where
  invariant : protocol.invariant after
  evolves : protocol.evolves before after
  readers : ∀ name, held name ≠ some .write → protocol.same name .read before after
  writer : ∀ name, held name = none → protocol.same name .write before after
  atRest : ∀ name, held name ≠ some .write → protocol.atRest name before →
    protocol.atRest name after
  own : ∀ other, other ≠ party → protocol.own other before after

/-- A program keeps the protocol from a memory on, with the locks that it holds. -/
def Keeps (party : ι) : (Λ → Option Mode) → σ → Program Λ σ α → Prop
  | held, memory, .lock name mode next =>
      ∀ later, protocol.Relies party held memory later → protocol.invariant later →
        protocol.atRest name later →
          Keeps party (Function.update held name (some mode)) later (next later)
  | held, memory, .unlock name next =>
      ∀ later, protocol.Relies party held memory later → protocol.invariant later →
        (held name = some .write → protocol.atRest name later) ∧
          Keeps party (Function.update held name none) later next
  | held, memory, .modify change next =>
      ∀ later, protocol.Relies party held memory later → protocol.invariant later →
        protocol.Grants party held later (change later) ∧
          Keeps party held (change later) (next later)
  | _, _, .done _ => True

variable {protocol} {party : ι} {held : Λ → Option Mode} {first second third : σ}

omit [DecidableEq Λ] [DecidableEq ι] in
theorem Relies.refl (party : ι) (held : Λ → Option Mode) (memory : σ) :
    protocol.Relies party held memory memory :=
  ⟨protocol.own_refl party memory, fun name mode _ => protocol.same_refl name mode memory⟩

omit [DecidableEq Λ] [DecidableEq ι] in
theorem Relies.trans (before : protocol.Relies party held first second)
    (after : protocol.Relies party held second third) : protocol.Relies party held first third :=
  ⟨protocol.own_trans before.own after.own,
    fun name mode holds =>
      protocol.same_trans (before.same name mode holds) (after.same name mode holds)⟩

omit [DecidableEq ι] in
theorem Keeps.later {program : Program Λ σ α} (keeps : protocol.Keeps party held first program)
    (relies : protocol.Relies party held first second) :
    protocol.Keeps party held second program := by
  cases program with
  | lock name mode next => exact fun later after => keeps later (relies.trans after)
  | unlock name next => exact fun later after => keeps later (relies.trans after)
  | modify change next => exact fun later after => keeps later (relies.trans after)
  | done answer => exact trivial

omit [DecidableEq ι] in
theorem Keeps.of_reads {program : Program Λ σ α} {memory : σ} (reads : program.Reads)
    (settled : ∀ name, held name = some .write → protocol.atRest name memory) :
    protocol.Keeps party held memory program := by
  have stays : ∀ {held : Λ → Option Mode} {memory later : σ},
      (∀ name, held name = some .write → protocol.atRest name memory) →
      protocol.Relies party held memory later →
      ∀ name, held name = some .write → protocol.atRest name later := by
    intro held memory later settled relies name writing
    exact protocol.atRest_same (relies.same name .write writing) (settled name writing)
  induction program generalizing held memory with
  | lock name mode next ih =>
      intro later relies _ rests
      refine ih later (reads later) fun other writing => ?_
      by_cases here : other = name
      · subst here
        exact rests
      · rw [Function.update_of_ne here] at writing
        exact stays settled relies other writing
  | unlock name next ih =>
      intro later relies _
      refine ⟨stays settled relies name, ih reads fun other writing => ?_⟩
      by_cases here : other = name
      · subst here
        rw [Function.update_self] at writing
        cases writing
      · rw [Function.update_of_ne here] at writing
        exact stays settled relies other writing
  | modify change next => exact absurd reads id
  | done answer => exact trivial

end Protocol

def Guarded.heldBy (guarded : Guarded Λ σ ι) (party : ι) (name : Λ) : Option Mode :=
  (guarded.locks name).heldBy party

section Held

variable {guarded : Guarded Λ σ ι} {party other : ι} {name : Λ} {mode : Mode}

theorem heldBy_update_self {lock : Lock ι} :
    (fun key => (Function.update guarded.locks name lock key).heldBy party) =
      Function.update (guarded.heldBy party) name (lock.heldBy party) := by
  funext key
  by_cases here : key = name
  · subst here
    rw [Function.update_self, Function.update_self]
  · rw [Function.update_of_ne here, Function.update_of_ne here]
    rfl

theorem heldBy_update_of_eq {lock : Lock ι}
    (same : lock.heldBy other = (guarded.locks name).heldBy other) :
    (fun key => (Function.update guarded.locks name lock key).heldBy other) =
      guarded.heldBy other := by
  rw [heldBy_update_self, same]
  exact Function.update_eq_self name _

end Held

namespace Protocol

variable (protocol : Protocol Λ σ ι)

/-- What holds of the memory and its locks. -/
structure Common (guarded : Guarded Λ σ ι) : Prop where
  exclusive : ∀ name, (guarded.locks name).Exclusive
  invariant : protocol.invariant guarded.memory
  atRest : ∀ name, (guarded.locks name).writer = none → protocol.atRest name guarded.memory

/-- What a section of a party does: to the party's own locks, to those of the others, to the
memory and to the rest of the program. -/
structure Section (party : ι) (before after : Guarded Λ σ ι) (rest : Program Λ σ α) : Prop where
  common : protocol.Common after
  keeps : protocol.Keeps party (after.heldBy party) after.memory rest
  evolves : protocol.evolves before.memory after.memory
  others : ∀ other, other ≠ party → after.heldBy other = before.heldBy other ∧
    protocol.Relies other (before.heldBy other) before.memory after.memory

variable {protocol} {party : ι} {guarded : Guarded Λ σ ι}

theorem Section.of_memory_eq {after : Guarded Λ σ ι} {rest : Program Λ σ α}
    (same : after.memory = guarded.memory) (common : protocol.Common after)
    (keeps : protocol.Keeps party (after.heldBy party) guarded.memory rest)
    (others : ∀ other, other ≠ party → after.heldBy other = guarded.heldBy other) :
    protocol.Section party guarded after rest where
  common := common
  keeps := by rwa [same]
  evolves := by
    rw [same]
    exact protocol.evolves_refl _
  others other apart := by
    rw [same]
    exact ⟨others other apart, .refl ..⟩

/-- **One section of a program that keeps the protocol.** -/
theorem section_run {program : Program Λ σ α} (common : protocol.Common guarded)
    (keeps : protocol.Keeps party (guarded.heldBy party) guarded.memory program) :
    protocol.Section party guarded (run party guarded program).1 (run party guarded program).2 := by
  cases program with
  | lock name mode next =>
      unfold run
      dsimp only
      by_cases free : (guarded.locks name).available mode = true
      · rw [if_pos free]
        refine .of_memory_eq rfl ⟨fun key => ?_, common.invariant, fun key unwritten => ?_⟩ ?_ ?_
        · dsimp only
          by_cases here : key = name
          · subst here
            rw [Function.update_self]
            exact Lock.exclusive_take free
          · rw [Function.update_of_ne here]
            exact common.exclusive key
        · dsimp only at unwritten ⊢
          by_cases here : key = name
          · subst here
            exact common.atRest key (Lock.writer_of_available free)
          · rw [Function.update_of_ne here] at unwritten
            exact common.atRest key unwritten
        · unfold Guarded.heldBy
          dsimp only
          rw [heldBy_update_self, Lock.heldBy_take_self free]
          exact keeps _ (.refl ..) common.invariant
            (common.atRest name (Lock.writer_of_available free))
        · intro other apart
          exact heldBy_update_of_eq (Lock.heldBy_take_of_ne free apart)
      · rw [if_neg free]
        exact .of_memory_eq rfl common keeps fun _ _ => rfl
  | unlock name next =>
      unfold run
      obtain ⟨settled, onward⟩ := keeps _ (.refl ..) common.invariant
      refine .of_memory_eq rfl ⟨fun key => ?_, common.invariant, fun key unwritten => ?_⟩ ?_ ?_
      · dsimp only
        by_cases here : key = name
        · subst here
          rw [Function.update_self]
          exact (common.exclusive key).giveUp
        · rw [Function.update_of_ne here]
          exact common.exclusive key
      · dsimp only at unwritten ⊢
        by_cases here : key = name
        · subst here
          rw [Function.update_self] at unwritten
          rcases Lock.writer_of_giveUp unwritten with mine | free
          · exact settled (Lock.heldBy_eq_write_iff.mpr mine)
          · exact common.atRest key free
        · rw [Function.update_of_ne here] at unwritten
          exact common.atRest key unwritten
      · unfold Guarded.heldBy
        dsimp only
        rw [heldBy_update_self, Lock.heldBy_giveUp_self]
        exact onward
      · intro other apart
        exact heldBy_update_of_eq (Lock.heldBy_giveUp_of_ne apart)
  | modify change next =>
      obtain ⟨grants, onward⟩ := keeps _ (.refl ..) common.invariant
      refine ⟨⟨common.exclusive, grants.invariant, fun name unwritten => ?_⟩, onward,
        grants.evolves, fun other apart => ⟨rfl, grants.own other apart, fun name mode holds => ?_⟩⟩
      · apply grants.atRest name _ (common.atRest name unwritten)
        intro writing
        have taken := (Lock.heldBy_eq_write_iff.mp writing).symm.trans unwritten
        cases taken
      · have unshared : guarded.heldBy party name = some .write → False := by
          intro writing
          have nothing := (common.exclusive name).heldBy_eq_none writing apart
          cases nothing.symm.trans holds
        cases mode with
        | read => exact grants.readers name unshared
        | write =>
            exact grants.writer name ((common.exclusive name).heldBy_eq_none holds apart.symm)
  | done answer => exact .of_memory_eq rfl common trivial fun _ _ => rfl

/-- What holds between the sections of programs that keep the protocol. -/
def discipline (protocol : Protocol Λ σ ι) (α : Type) :
    Interleave.Discipline (Guarded Λ σ ι) ι (Program Λ σ α) where
  common := protocol.Common
  mine party guarded program := protocol.Keeps party (guarded.heldBy party) guarded.memory program
  apart _ _ := True

theorem keptBy (protocol : Protocol Λ σ ι) :
    (protocol.discipline α).KeptBy (fun party (_ : Unit) => run party) fun _ _ => True where
  symm _ := trivial
  common world move holds _ := (section_run holds.common (holds.mine move.1)).common
  mine world move holds _ := (section_run holds.common (holds.mine move.1)).keeps
  others world move holds _ other apart := by
    have done := section_run holds.common (holds.mine move.1)
    obtain ⟨sameLocks, relies⟩ := done.others other apart
    unfold discipline
    dsimp only
    rw [sameLocks]
    exact (holds.mine other).later relies
  apart _ _ _ _ _ _ := trivial

variable {start : Interleave.World (Guarded Λ σ ι) ι (Program Λ σ α)}

/-- **The protocol holds in every run of programs that keep it.** -/
theorem holds (initial : (protocol.discipline α).Holds start) (moves : List (ι × Unit)) :
    ∀ world ∈ Run.states (Interleave.turn fun party (_ : Unit) => run party) start moves,
      protocol.Common world.shared := by
  intro world member
  exact (protocol.keptBy.holds_always initial moves world member).common

theorem evolves_states (initial : (protocol.discipline α).Holds start) (moves : List (ι × Unit)) :
    (Run.states (Interleave.turn fun party (_ : Unit) => run party) start moves).Pairwise
      fun before after => protocol.evolves before.shared.memory after.shared.memory := by
  have admissible : Run.Admissible (Interleave.turn fun party (_ : Unit) => run party)
      (fun world _ => (protocol.discipline α).Holds world) start moves := by
    apply Run.Admissible.of_invariant _ (fun _ _ holds _ => holds) initial
      (Run.admissible_true start moves)
    intro world move holds _
    exact protocol.keptBy.holds_turn holds trivial
  have refl : ∀ world : Interleave.World (Guarded Λ σ ι) ι (Program Λ σ α),
      protocol.evolves world.shared.memory world.shared.memory :=
    fun world => protocol.evolves_refl world.shared.memory
  refine Run.pairwise_states_of_admissible refl (fun before after => ?_)
    (fun world move holds => ?_) admissible
  · exact protocol.evolves_trans before after
  · exact (section_run holds.common (holds.mine move.1)).evolves

theorem holds_of_free {memory : σ} {programs : ι → Program Λ σ α}
    (invariant : protocol.invariant memory) (atRest : ∀ name, protocol.atRest name memory)
    (keeps : ∀ party, protocol.Keeps party (fun _ => none) memory (programs party)) :
    (protocol.discipline α).Holds ⟨⟨fun _ => .free, memory⟩, programs⟩ where
  common := ⟨fun _ _ => rfl, invariant, fun name _ => atRest name⟩
  mine party := by
    have nothing : (⟨fun _ => .free, memory⟩ : Guarded Λ σ ι).heldBy party = fun _ => none := by
      funext name
      unfold Guarded.heldBy Lock.heldBy Lock.free
      simp
    unfold discipline
    dsimp only
    rw [nothing]
    exact keeps party
  apart _ _ _ := trivial

end Protocol

end Chancela.Locking
