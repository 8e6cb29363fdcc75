import Chancela.Foundation.Memo
import Chancela.Foundation.Run
import Chancela.Ledger.Append

/-! # The verify memo

The API keeps the verdict of `Ledger::verify` under the head hash and the length of
the ledger. Over a process lifetime the ledger grows, is rolled back, and is replaced
by event lists read from storage, and the cache drops entries whenever it likes. The
memo answers like `Ledger::verify` in every state exactly when no ledger the process
comes to hold shares head and length with one asked about before of which the
verifier thinks otherwise (`Chancela.VerifyProcess.transparent_iff`).
-/

namespace Chancela

abbrev VerifyKey := Option Digest × Nat

abbrev VerifyVerdict := Except String Nat

/-- `VerifyMemo`: the entries the `moka` cache holds at the moment. -/
structure VerifyMemo where
  inner : VerifyKey → Option VerifyVerdict

namespace VerifyMemo

def default : VerifyMemo := ⟨fun _ => none⟩

def key (ledger : Ledger) : VerifyKey := (ledger.head, ledger.events.length)

section Verdicts

variable [Crates]

/-- The verdict as it is stored, with its error rendered. -/
def computed (ledger : Ledger) : VerifyVerdict := ledger.verify.mapError LedgerError.display

def verdict (memo : VerifyMemo) (ledger : Ledger) : VerifyVerdict × VerifyMemo :=
  let answered := Memo.ask key computed memo.inner ledger
  (answered.1, ⟨answered.2⟩)

/-- `VerifyMemo::prime`, as its caller uses it: with the verdict that hydrating the
ledger returned. -/
def prime (memo : VerifyMemo) (ledger : Ledger) : VerifyMemo :=
  ⟨Memo.prime key computed memo.inner ledger⟩

/-- A stored verdict is `Ok` exactly where the verifier's is. -/
theorem computed_eq_ok_iff {ledger : Ledger} {total : Nat} :
    computed ledger = .ok total ↔ ledger.verify = .ok total := by
  rw [computed]
  cases ledger.verify with
  | ok length => simp [Except.mapError]
  | error fault => simp [Except.mapError]

end Verdicts

end VerifyMemo

/-- `AppState::rollback_ledger_events`. Taking back more events than there are is a
panic, which leaves the ledger as it is. -/
def rollbackLedgerEvents (ledger : Ledger) (count : Nat) : Ledger :=
  if count ≤ ledger.events.length then ⟨ledger.events.take (ledger.events.length - count)⟩
  else ledger

/-- What happens to the ledger and the memo of a process. -/
inductive MemoCall where
  /-- An event appended without validation. -/
  | append (call : AppendCall)
  /-- An event appended with it. -/
  | tryAppend (call : AppendCall)
  /-- Just appended events taken back. -/
  | rollback (count : Nat)
  /-- The ledger replaced by an event list read from storage. -/
  | adopt (events : List Event)
  /-- The memo asked. -/
  | verdict
  /-- The memo primed. -/
  | prime

def MemoCall.next [Crates] (ledger : Ledger) : MemoCall → Ledger
  | .append call => (ledger.append call).2
  | .tryAppend call => (ledger.tryAppend call).2
  | .rollback count => rollbackLedgerEvents ledger count
  | .adopt events => ⟨events⟩
  | .verdict | .prime => ledger

/-- A process: its ledger and its memo. -/
structure VerifyProcess where
  ledger : Ledger
  memo : VerifyMemo

namespace VerifyProcess

def start (ledger : Ledger) : VerifyProcess := ⟨ledger, .default⟩

section Steps

variable [Crates]

/-- The memo after a call, before the cache drops anything. -/
def asked (process : VerifyProcess) : MemoCall → VerifyMemo
  | .verdict => (process.memo.verdict process.ledger).2
  | .prime => process.memo.prime process.ledger
  | _ => process.memo

def step (process : VerifyProcess) (call : MemoCall × (VerifyKey → Bool)) : VerifyProcess where
  ledger := call.1.next process.ledger
  memo := ⟨Memo.evict (process.asked call.1).inner call.2⟩

/-- The memo would answer `Ok` exactly where the verifier does, and with its number. -/
def Transparent (process : VerifyProcess) : Prop :=
  ∀ total, (process.memo.verdict process.ledger).1 = .ok total ↔
    process.ledger.verify = .ok total

end Steps

end VerifyProcess

/-- The ledgers of a process: the one it holds and the ones the memo was given. -/
structure VerifyHistory where
  ledger : Ledger
  given : Set Ledger

namespace VerifyHistory

def start (ledger : Ledger) : VerifyHistory := ⟨ledger, ∅⟩

section Steps

variable [Crates]

def step (history : VerifyHistory) (call : MemoCall) : VerifyHistory where
  ledger := call.next history.ledger
  given :=
    match call with
    | .verdict | .prime => insert history.ledger history.given
    | _ => history.given

/-- The call leaves no ledger with the head and the length of one the memo was given
while the verifier accepts one of the two and not the other. -/
def KeyTells (history : VerifyHistory) (call : MemoCall) : Prop :=
  ∀ earlier ∈ history.given, VerifyMemo.key earlier = VerifyMemo.key (call.next history.ledger) →
    ∀ total, earlier.verify = .ok total ↔ (call.next history.ledger).verify = .ok total

end Steps

end VerifyHistory

section Transparency

/-- Two verdicts are `Ok` together, and with one number, exactly when they are one
answer once errors are forgotten. -/
theorem VerifyMemo.toOption_eq_iff {first second : VerifyVerdict} :
    first.toOption = second.toOption ↔ ∀ total, first = .ok total ↔ second = .ok total := by
  cases first with
  | ok length =>
      cases second with
      | ok other => simp [Except.toOption]
      | error fault => simp [Except.toOption]
  | error fault =>
      cases second with
      | ok other => simp [Except.toOption]
      | error other => simp [Except.toOption]

variable [Crates]

theorem VerifyProcess.transparent_iff_view {process : VerifyProcess} :
    process.Transparent ↔
      (Memo.ask VerifyMemo.key VerifyMemo.computed process.memo.inner process.ledger).1.toOption =
        (VerifyMemo.computed process.ledger).toOption := by
  rw [VerifyMemo.toOption_eq_iff]
  simp only [VerifyMemo.computed_eq_ok_iff]
  rfl

/-- Agreement of a ledger with those the memo was given, as the memo sees it. -/
def VerifyHistory.Settled (history : VerifyHistory) (ledger : Ledger) : Prop :=
  Memo.Agrees VerifyMemo.key VerifyMemo.computed Except.toOption history.given ledger

theorem VerifyHistory.keyTells_iff {history : VerifyHistory} {call : MemoCall} :
    history.KeyTells call ↔ history.Settled (call.next history.ledger) := by
  have same : ∀ earlier later : Ledger,
      (VerifyMemo.computed earlier).toOption = (VerifyMemo.computed later).toOption ↔
        ∀ total, earlier.verify = .ok total ↔ later.verify = .ok total := by
    intro earlier later
    rw [VerifyMemo.toOption_eq_iff]
    simp only [VerifyMemo.computed_eq_ok_iff]
  constructor
  · intro tells earlier member named
    exact (same _ _).mpr (tells earlier member named)
  · intro settled earlier member named
    exact (same _ _).mp (settled earlier member named)

/-- The process and its history side by side: they hold one ledger, every entry of
the memo was computed from a ledger it was given, and all these ledgers agree. -/
structure VerifyProcess.Tracks (process : VerifyProcess) (history : VerifyHistory) : Prop where
  ledger : process.ledger = history.ledger
  backed : Memo.Backed VerifyMemo.key VerifyMemo.computed process.memo.inner history.given
  current : history.Settled history.ledger
  among : ∀ earlier ∈ history.given, history.Settled earlier

namespace VerifyProcess

variable {process : VerifyProcess} {history : VerifyHistory}

theorem Tracks.start (ledger : Ledger) :
    Tracks (VerifyProcess.start ledger) (VerifyHistory.start ledger) where
  ledger := rfl
  backed := Memo.Backed.empty
  current := fun _ member => absurd member (Set.notMem_empty _)
  among := fun _ member => absurd member (Set.notMem_empty _)

theorem Tracks.transparent (tracks : Tracks process history) : process.Transparent := by
  rw [transparent_iff_view]
  apply Memo.view_ask tracks.backed
  rw [tracks.ledger]
  exact tracks.current

theorem Tracks.leave (tracks : Tracks process history) {ledger : Ledger}
    (settled : history.Settled ledger) (dropped : VerifyKey → Bool) :
    Tracks ⟨ledger, ⟨Memo.evict process.memo.inner dropped⟩⟩ ⟨ledger, history.given⟩ where
  ledger := rfl
  backed := tracks.backed.evict dropped
  current := settled
  among := tracks.among

theorem Tracks.enter (tracks : Tracks process history) {inner : VerifyKey → Option VerifyVerdict}
    (backed : Memo.Backed VerifyMemo.key VerifyMemo.computed inner
      (insert history.ledger history.given)) (dropped : VerifyKey → Bool) :
    Tracks ⟨process.ledger, ⟨Memo.evict inner dropped⟩⟩
      ⟨history.ledger, insert history.ledger history.given⟩ where
  ledger := tracks.ledger
  backed := backed.evict dropped
  current := Memo.Agrees.insert tracks.among tracks.current _ (Set.mem_insert _ _)
  among := Memo.Agrees.insert tracks.among tracks.current

theorem Tracks.step (tracks : Tracks process history) {call : MemoCall}
    (tells : history.KeyTells call) (dropped : VerifyKey → Bool) :
    Tracks (process.step (call, dropped)) (history.step call) := by
  have settled := VerifyHistory.keyTells_iff.mp tells
  have same := tracks.ledger
  cases call with
  | verdict =>
      apply tracks.enter
      rw [← same]
      exact tracks.backed.ask process.ledger
  | prime =>
      apply tracks.enter
      rw [← same]
      exact tracks.backed.prime process.ledger
  | append | tryAppend | rollback | adopt =>
      rw [VerifyProcess.step, same]
      exact tracks.leave settled dropped

def keepAll (call : MemoCall) : MemoCall × (VerifyKey → Bool) := (call, fun _ => false)

theorem held_step (held : Memo.Held VerifyMemo.key process.memo.inner history.given)
    (same : process.ledger = history.ledger) (call : MemoCall) :
    Memo.Held VerifyMemo.key (process.step (keepAll call)).memo.inner
      (history.step call).given := by
  cases call with
  | verdict =>
      change Memo.Held VerifyMemo.key (process.memo.verdict process.ledger).2.inner
        (insert history.ledger history.given)
      rw [← same]
      exact held.ask process.ledger
  | prime =>
      change Memo.Held VerifyMemo.key (process.memo.prime process.ledger).inner
        (insert history.ledger history.given)
      rw [← same]
      exact held.prime process.ledger
  | append | tryAppend | rollback | adopt => exact held

theorem Tracks.keyTells (tracks : Tracks process history)
    (held : Memo.Held VerifyMemo.key process.memo.inner history.given) {call : MemoCall}
    (transparent : (process.step (keepAll call)).Transparent) : history.KeyTells call := by
  rw [VerifyHistory.keyTells_iff]
  cases call with
  | verdict | prime => exact tracks.current
  | append | tryAppend | rollback | adopt =>
      rw [transparent_iff_view, VerifyProcess.step, tracks.ledger] at transparent
      exact Memo.agrees_of_view_ask tracks.backed held tracks.among transparent

/-- **Transparency of the verify memo.** Whatever the cache drops, the memo answers
like the verifier in every state of a run exactly when each call of the run leaves a
ledger that the verifier judges like every ledger of its head and length the memo was
given before. -/
theorem transparent_iff (ledger : Ledger) (calls : List MemoCall) :
    (∀ run : List (MemoCall × (VerifyKey → Bool)), run.map Prod.fst = calls →
        ∀ process ∈ Run.states step (start ledger) run, process.Transparent) ↔
      Run.Admissible VerifyHistory.step VerifyHistory.KeyTells (.start ledger) calls := by
  constructor
  · intro always
    have kept := always (calls.map keepAll) (by rw [List.map_map]; exact List.map_id calls)
    have general : ∀ (calls : List MemoCall) (process : VerifyProcess) (history : VerifyHistory),
        process.Tracks history → Memo.Held VerifyMemo.key process.memo.inner history.given →
        (∀ later ∈ Run.states step process (calls.map keepAll), later.Transparent) →
        Run.Admissible VerifyHistory.step VerifyHistory.KeyTells history calls := by
      intro calls
      induction calls with
      | nil => exact fun _ _ _ _ _ => trivial
      | cons call rest ih =>
          intro process history tracks held transparent
          have later : ∀ state ∈ Run.states step (process.step (keepAll call)) (rest.map keepAll),
              state.Transparent :=
            fun state member => transparent state (List.mem_cons_of_mem _ member)
          have tells := tracks.keyTells held (later _ (Run.start_mem_states _ _))
          exact ⟨tells, ih _ _ (tracks.step tells _) (held_step held tracks.ledger call) later⟩
    exact general calls _ _ (Tracks.start ledger) Memo.Held.empty kept
  · intro admissible run
    have general : ∀ (run : List (MemoCall × (VerifyKey → Bool))) (process : VerifyProcess)
        (history : VerifyHistory), process.Tracks history →
        Run.Admissible VerifyHistory.step VerifyHistory.KeyTells history (run.map Prod.fst) →
        ∀ later ∈ Run.states step process run, later.Transparent := by
      intro run
      induction run with
      | nil =>
          intro process history tracks _ later member
          rw [List.mem_singleton.mp member]
          exact tracks.transparent
      | cons call rest ih =>
          intro process history tracks admissible later member
          rcases List.mem_cons.mp member with rfl | inside
          · exact tracks.transparent
          · exact ih _ _ (tracks.step admissible.1 call.2) admissible.2 later inside
    intro mapped
    rw [← mapped] at admissible
    exact general run _ _ (Tracks.start ledger) admissible

theorem transparent_of_intact {ledger : Ledger} {calls : List MemoCall}
    (intact : ∀ history ∈ Run.states VerifyHistory.step (.start ledger) calls,
      history.ledger.verify = .ok history.ledger.events.length)
    {run : List (MemoCall × (VerifyKey → Bool))} (mapped : run.map Prod.fst = calls) :
    ∀ process ∈ Run.states step (start ledger) run, process.Transparent := by
  refine (transparent_iff ledger calls).mpr ?_ run mapped
  have general : ∀ (calls : List MemoCall) (history : VerifyHistory),
      (∀ earlier ∈ history.given, earlier.verify = .ok earlier.events.length) →
      (∀ later ∈ Run.states VerifyHistory.step history calls,
        later.ledger.verify = .ok later.ledger.events.length) →
      Run.Admissible VerifyHistory.step VerifyHistory.KeyTells history calls := by
    intro calls
    induction calls with
    | nil => exact fun _ _ _ => trivial
    | cons call rest ih =>
        intro history given held
        have later : ∀ state ∈ Run.states VerifyHistory.step (history.step call) rest,
            state.ledger.verify = .ok state.ledger.events.length :=
          fun state member => held state (List.mem_cons_of_mem _ member)
        have now : history.ledger.verify = .ok history.ledger.events.length :=
          held history (Run.start_mem_states _ _)
        have next : (call.next history.ledger).verify =
            .ok (call.next history.ledger).events.length :=
          later _ (Run.start_mem_states _ _)
        refine ⟨?_, ih _ ?_ later⟩
        · intro earlier member named total
          have lengths : earlier.events.length = (call.next history.ledger).events.length :=
            congrArg Prod.snd named
          rw [given earlier member, next, lengths]
        · cases call with
          | verdict | prime =>
              rintro earlier (rfl | before)
              · exact now
              · exact given earlier before
          | append | tryAppend | rollback | adopt => exact given
  exact general calls _ (fun _ member => absurd member (Set.notMem_empty _)) intact

theorem verdict_adopt {ledger adopted : Ledger}
    (same : VerifyMemo.key adopted = VerifyMemo.key ledger) :
    (VerifyMemo.verdict (step (step (start ledger) (keepAll .verdict))
      (keepAll (.adopt adopted.events))).memo adopted).1 = VerifyMemo.computed ledger := by
  have entered : (step (step (start ledger) (keepAll .verdict))
      (keepAll (.adopt adopted.events))).memo.inner (VerifyMemo.key adopted) =
        some (VerifyMemo.computed ledger) := by
    rw [same]
    exact Function.update_self ..
  rw [VerifyMemo.verdict, Memo.ask, entered]

end VerifyProcess

end Transparency

section Runs

open scoped Reference

def auditedSettings : Ledger := (Ledger.new.appendAt settingsCall).appendAt settingsCall

/-- The same log with the position of its first event altered. -/
def editedSettings : Ledger :=
  ⟨auditedSettings.events.modifyHead fun event => { event with seq := 7 }⟩

theorem auditedSettings_threaded : Threaded auditedSettings.events := by
  have founds : ∀ chain ∈ memberships settingsCall.scope settingsCall.kind,
      chain.founds settingsCall.kind = true := by
    have only : memberships settingsCall.scope settingsCall.kind = [.application] := by
      decide +kernel
    intro chain named
    rw [only, List.mem_singleton] at named
    rw [named]
    rfl
  rw [auditedSettings, Ledger.events_appendAt, Ledger.events_appendAt]
  apply Threaded.extend
  · apply Threaded.nil.extend
    exact fun chain joined _ => founds chain joined
  · exact fun chain joined _ => founds chain joined

theorem VerifyProcess.transparent_auditedSettings :
    Transparent ([keepAll .verdict, keepAll .prime].foldl step (start auditedSettings)) := by
  refine @transparent_of_intact _ auditedSettings [.verdict, .prime] ?_ _ rfl _
    (Run.foldl_mem_states _ _)
  intro history member
  have held : history.ledger = auditedSettings := by
    simp only [Run.states, List.mem_cons, List.not_mem_nil, or_false] at member
    rcases member with rfl | rfl | rfl <;> rfl
  rw [held]
  exact auditedSettings_threaded.verify_eq

/-- A log that was verified and then read back with an event in its middle altered is
still reported as intact. -/
theorem VerifyProcess.not_transparent_editedSettings :
    ¬∀ (ledger : Ledger) (run : List (MemoCall × (VerifyKey → Bool))),
      ∀ process ∈ Run.states step (start ledger) run, process.Transparent := by
  intro always
  have transparent := always auditedSettings
    [keepAll .verdict, keepAll (.adopt editedSettings.events)] _ (Run.foldl_mem_states _ _)
  have same : VerifyMemo.key editedSettings = VerifyMemo.key auditedSettings := rfl
  have stored : VerifyMemo.computed auditedSettings = .ok 2 :=
    VerifyMemo.computed_eq_ok_iff.mpr auditedSettings_threaded.verify_eq
  have answered := (transparent 2).mp ((verdict_adopt same).trans stored)
  have position : 7 = 0 := ((Ledger.verify_eq_ok_iff.mp answered).2.1.2).1.1
  cases position

end Runs

end Chancela
