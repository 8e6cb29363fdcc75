import Chancela.Foundation.Run
import Mathlib.Logic.Function.Basic

/-! # The writer of a cluster

Any number of nodes share one Postgres. The session that holds the advisory lock is the
writer; a node proves that its own session holds it before it opens a transaction, and
reconnects a session that broke when it campaigns for the lock again. The gate and the
transaction take the writer connection one after the other, so the connection may be
another one by then. Where no call opens its transaction on a session that replaced the
one its gate checked, every commit is the lock holder's
(`Chancela.WriterCluster.safe_of_unreplaced`), and the epochs of the promotions grow in
any case.
-/

namespace Chancela

/-- A writer session: its node, and how often the node had reconnected before. -/
abbrev SessionId (N : Type) := N × Nat

/-- How far a call of `persist_result_internal` has come. -/
inductive PersistPhase (N : Type) where
  | idle
  /-- `is_leader` was read as true. -/
  | sawLeader
  /-- The epoch this node claims was read. -/
  | sawEpoch (epoch : Int)
  /-- The session answered that it holds the lock; the connection is still borrowed. -/
  | holdsLock (epoch : Int) (session : SessionId N)
  /-- The leader row names this node and the epoch; the connection is given back. -/
  | ownsEpoch (session : SessionId N)
  /-- Writes are enabled: `cluster_assert_writable` succeeded. -/
  | passed (session : SessionId N)
  /-- A transaction is open on the connection as it was borrowed again. -/
  | opened (session : SessionId N)
deriving DecidableEq

/-- The session a call relies on: the one its gate found to hold the lock, and later the
one its transaction is open on. -/
def PersistPhase.session? {N : Type} : PersistPhase N → Option (SessionId N)
  | .holdsLock _ session | .ownsEpoch session | .passed session | .opened session => some session
  | .idle | .sawLeader | .sawEpoch _ => none

/-- How far the supervisor has come with `try_promote` and what follows it. -/
inductive CampaignPhase where
  | idle
  /-- `is_leader` was read as false. -/
  | campaigning
  /-- The lock is won; the connection is still borrowed. -/
  | locked
  /-- The epoch is bumped; the connection is given back. -/
  | bumped (epoch : Int)
  | writesCleared (epoch : Int)
  | epochPublished
  /-- The leader flag is published; the handoff runs. -/
  | promoted

/-- Who has borrowed the writer connection of a node. -/
inductive WriterGuard where
  | call (index : Nat)
  | campaign
deriving DecidableEq

/-- What a node keeps: `leader`, `writes_enabled` and `my_epoch`, its connection, and
the calls and the campaign in progress. -/
structure WriterNode (N : Type) where
  incarnation : Nat
  leader : Bool
  writesEnabled : Bool
  myEpoch : Int
  guard : Option WriterGuard
  campaign : CampaignPhase
  calls : Nat → PersistPhase N

/-- The nodes and Postgres, with the commits made so far, each with the lock holder at
that moment, and the epochs claimed so far. -/
structure WriterCluster (N : Type) where
  node : N → WriterNode N
  lost : SessionId N → Bool
  holder : Option (SessionId N)
  leaderRow : Option (Int × N)
  commits : List (SessionId N × Option (SessionId N))
  promotions : List Int

/-- The steps of the code and of the sessions. -/
inductive WriterStep (N : Type) where
  | readLeader (n : N) (index : Nat)
  | readEpoch (n : N) (index : Nat)
  | queryLock (n : N) (index : Nat)
  | queryRow (n : N) (index : Nat)
  | readEnabled (n : N) (index : Nat)
  | openTransaction (n : N) (index : Nat)
  | commit (n : N) (index : Nat)
  /-- A call fails: at the gate, on a broken session, or in its transaction. -/
  | abandon (n : N) (index : Nat)
  /-- A session dies, and its lock with it. -/
  | lose (session : SessionId N)
  /-- The stores of `step_down`, by a gate, the supervisor or the watchdog. -/
  | disableWrites (n : N)
  | dropLeader (n : N)
  | startCampaign (n : N)
  /-- `reconnect_writer_if_broken` puts a new session in the place of a dead one. -/
  | reconnect (n : N)
  | tryLock (n : N)
  | bumpEpoch (n : N)
  | clearWrites (n : N)
  | publishEpoch (n : N)
  | publishLeader (n : N)
  /-- `enable_writes`, after the handoff succeeded. -/
  | enableWrites (n : N)
  /-- The campaign ends: the lock is not free, a query fails, or the handoff does. -/
  | endCampaign (n : N)

namespace WriterCluster

variable {N : Type} [DecidableEq N]

def initial : WriterCluster N where
  node := fun _ => ⟨0, false, false, -1, none, .idle, fun _ => .idle⟩
  lost := fun _ => false
  holder := none
  leaderRow := none
  commits := []
  promotions := []

def session (cluster : WriterCluster N) (n : N) : SessionId N := (n, (cluster.node n).incarnation)

def setNode (cluster : WriterCluster N) (n : N) (node : WriterNode N) : WriterCluster N :=
  { cluster with node := Function.update cluster.node n node }

/-- A call moved on, and the connection borrowed or given back. -/
def setCall (cluster : WriterCluster N) (n : N) (index : Nat) (phase : PersistPhase N)
    (guard : Option WriterGuard) : WriterCluster N :=
  cluster.setNode n { cluster.node n with
    calls := Function.update (cluster.node n).calls index phase
    guard := guard }

def step (cluster : WriterCluster N) : WriterStep N → WriterCluster N
  | .readLeader n index =>
      match (cluster.node n).calls index with
      | .idle =>
          if (cluster.node n).leader then
            cluster.setCall n index .sawLeader (cluster.node n).guard
          else cluster
      | _ => cluster
  | .readEpoch n index =>
      match (cluster.node n).calls index with
      | .sawLeader =>
          cluster.setCall n index (.sawEpoch (cluster.node n).myEpoch) (cluster.node n).guard
      | _ => cluster
  | .queryLock n index =>
      match (cluster.node n).calls index with
      | .sawEpoch epoch =>
          if (cluster.node n).guard = none ∧ cluster.lost (cluster.session n) = false ∧
              cluster.holder = some (cluster.session n) then
            cluster.setCall n index (.holdsLock epoch (cluster.session n)) (some (.call index))
          else cluster
      | _ => cluster
  | .queryRow n index =>
      match (cluster.node n).calls index with
      | .holdsLock epoch session =>
          if cluster.lost session = false ∧ cluster.leaderRow = some (epoch, n) then
            cluster.setCall n index (.ownsEpoch session) none
          else cluster
      | _ => cluster
  | .readEnabled n index =>
      match (cluster.node n).calls index with
      | .ownsEpoch session =>
          if (cluster.node n).writesEnabled then
            cluster.setCall n index (.passed session) (cluster.node n).guard
          else cluster
      | _ => cluster
  | .openTransaction n index =>
      match (cluster.node n).calls index with
      | .passed _ =>
          if (cluster.node n).guard = none ∧ cluster.lost (cluster.session n) = false then
            cluster.setCall n index (.opened (cluster.session n)) (some (.call index))
          else cluster
      | _ => cluster
  | .commit n index =>
      match (cluster.node n).calls index with
      | .opened session =>
          if cluster.lost session = false then
            { cluster.setCall n index .idle none with
              commits := cluster.commits ++ [(session, cluster.holder)] }
          else cluster
      | _ => cluster
  | .abandon n index =>
      cluster.setCall n index .idle
        (if (cluster.node n).guard = some (.call index) then none else (cluster.node n).guard)
  | .lose session =>
      if session.2 ≤ (cluster.node session.1).incarnation then
        { cluster with
          lost := Function.update cluster.lost session true
          holder := if cluster.holder = some session then none else cluster.holder }
      else cluster
  | .disableWrites n => cluster.setNode n { cluster.node n with writesEnabled := false }
  | .dropLeader n => cluster.setNode n { cluster.node n with leader := false }
  | .startCampaign n =>
      match (cluster.node n).campaign with
      | .idle =>
          if (cluster.node n).leader then cluster
          else cluster.setNode n { cluster.node n with campaign := .campaigning }
      | _ => cluster
  | .reconnect n =>
      match (cluster.node n).campaign with
      | .campaigning =>
          if (cluster.node n).guard = none ∧ cluster.lost (cluster.session n) = true then
            cluster.setNode n { cluster.node n with
              incarnation := (cluster.node n).incarnation + 1 }
          else cluster
      | _ => cluster
  | .tryLock n =>
      match (cluster.node n).campaign with
      | .campaigning =>
          if (cluster.node n).guard = none ∧ cluster.lost (cluster.session n) = false ∧
              (cluster.holder = none ∨ cluster.holder = some (cluster.session n)) then
            { cluster.setNode n { cluster.node n with
                campaign := .locked
                guard := some .campaign } with
              holder := some (cluster.session n) }
          else cluster
      | _ => cluster
  | .bumpEpoch n =>
      match (cluster.node n).campaign with
      | .locked =>
          if cluster.lost (cluster.session n) = false then
            let epoch := (cluster.leaderRow.elim 0 Prod.fst) + 1
            { cluster.setNode n { cluster.node n with
                campaign := .bumped epoch
                guard := none } with
              leaderRow := some (epoch, n)
              promotions := cluster.promotions ++ [epoch] }
          else cluster
      | _ => cluster
  | .clearWrites n =>
      match (cluster.node n).campaign with
      | .bumped epoch =>
          cluster.setNode n { cluster.node n with
            writesEnabled := false
            campaign := .writesCleared epoch }
      | _ => cluster
  | .publishEpoch n =>
      match (cluster.node n).campaign with
      | .writesCleared epoch =>
          cluster.setNode n { cluster.node n with
            myEpoch := epoch
            campaign := .epochPublished }
      | _ => cluster
  | .publishLeader n =>
      match (cluster.node n).campaign with
      | .epochPublished =>
          cluster.setNode n { cluster.node n with
            leader := true
            campaign := .promoted }
      | _ => cluster
  | .enableWrites n =>
      match (cluster.node n).campaign with
      | .promoted =>
          cluster.setNode n { cluster.node n with
            writesEnabled := if (cluster.node n).leader then true
              else (cluster.node n).writesEnabled
            campaign := .idle }
      | _ => cluster
  | .endCampaign n =>
      cluster.setNode n { cluster.node n with
        campaign := .idle
        guard := if (cluster.node n).guard = some .campaign then none
          else (cluster.node n).guard }

def Keeps (cluster : WriterCluster N) (session : SessionId N) : Prop :=
  cluster.lost session = false → cluster.holder = some session

@[simp] theorem lost_setNode (cluster : WriterCluster N) (n : N) (node : WriterNode N) :
    (cluster.setNode n node).lost = cluster.lost := rfl

@[simp] theorem holder_setNode (cluster : WriterCluster N) (n : N) (node : WriterNode N) :
    (cluster.setNode n node).holder = cluster.holder := rfl

@[simp] theorem commits_setNode (cluster : WriterCluster N) (n : N) (node : WriterNode N) :
    (cluster.setNode n node).commits = cluster.commits := rfl

@[simp] theorem leaderRow_setNode (cluster : WriterCluster N) (n : N) (node : WriterNode N) :
    (cluster.setNode n node).leaderRow = cluster.leaderRow := rfl

@[simp] theorem promotions_setNode (cluster : WriterCluster N) (n : N) (node : WriterNode N) :
    (cluster.setNode n node).promotions = cluster.promotions := rfl

theorem lock_step (cluster : WriterCluster N) (call : WriterStep N) :
    (∃ session, (cluster.step call).lost = Function.update cluster.lost session true ∧
        (cluster.step call).holder =
          if cluster.holder = some session then none else cluster.holder) ∨
      (cluster.step call).lost = cluster.lost ∧
        ((cluster.step call).holder = cluster.holder ∨
          ∃ session, (cluster.holder = none ∨ cluster.holder = some session) ∧
            (cluster.step call).holder = some session) := by
  cases call with
  | lose session =>
      rw [step]
      split
      · exact .inl ⟨session, rfl, rfl⟩
      · exact .inr ⟨rfl, .inl rfl⟩
  | tryLock n =>
      rw [step]
      split
      · split
        case isTrue free => exact .inr ⟨rfl, .inr ⟨cluster.session n, free.2.2, rfl⟩⟩
        case isFalse => exact .inr ⟨rfl, .inl rfl⟩
      · exact .inr ⟨rfl, .inl rfl⟩
  | abandon | disableWrites | dropLeader | endCampaign => exact .inr ⟨rfl, .inl rfl⟩
  | readEpoch | clearWrites | publishEpoch | publishLeader | enableWrites =>
      rw [step]
      split
      · exact .inr ⟨rfl, .inl rfl⟩
      · exact .inr ⟨rfl, .inl rfl⟩
  | readLeader | queryLock | queryRow | readEnabled | openTransaction | commit | startCampaign
    | reconnect | bumpEpoch =>
      rw [step]
      split
      · split
        · exact .inr ⟨rfl, .inl rfl⟩
        · exact .inr ⟨rfl, .inl rfl⟩
      · exact .inr ⟨rfl, .inl rfl⟩

variable {cluster : WriterCluster N}

theorem Keeps.step {session : SessionId N} (keeps : cluster.Keeps session) (call : WriterStep N) :
    (cluster.step call).Keeps session := by
  intro alive
  rcases lock_step cluster call with ⟨dead, lost, holder⟩ | ⟨lost, same | ⟨other, free, taken⟩⟩
  · by_cases own : session = dead
    · rw [lost, own, Function.update_self] at alive
      cases alive
    · rw [lost, Function.update_of_ne own] at alive
      rw [holder, keeps alive, if_neg (fun equal => own (Option.some.inj equal))]
  · rw [lost] at alive
    rw [same, keeps alive]
  · rw [lost] at alive
    rcases free with none | mine
    · rw [keeps alive] at none
      cases none
    · rw [taken, ← mine, keeps alive]

theorem calls_setCall (cluster : WriterCluster N) (n other : N) (index call : Nat)
    (phase : PersistPhase N) (guard : Option WriterGuard) :
    ((cluster.setCall n index phase guard).node other).calls call =
      if other = n ∧ call = index then phase else (cluster.node other).calls call := by
  by_cases same : other = n
  · subst same
    by_cases here : call = index
    · simp [setCall, setNode, here]
    · simp [setCall, setNode, here]
  · simp [setCall, setNode, same]

theorem session_setNode {n moved : N} {node : WriterNode N} {index : Nat} {session : SessionId N}
    (relied : (((cluster.setNode moved node).node n).calls index).session? = some session)
    (calls : node.calls = (cluster.node moved).calls) :
    ((cluster.node n).calls index).session? = some session := by
  by_cases same : n = moved
  · subst same
    simp only [setNode, Function.update_self, calls] at relied
    exact relied
  · simp only [setNode, Function.update_of_ne same] at relied
    exact relied

theorem session_setCall {n moved : N} {index call : Nat} {phase : PersistPhase N}
    {guard : Option WriterGuard} {session : SessionId N}
    (relied : (((cluster.setCall moved call phase guard).node n).calls index).session? =
      some session) :
    n = moved ∧ index = call ∧ phase.session? = some session ∨
      ((cluster.node n).calls index).session? = some session := by
  rw [calls_setCall] at relied
  split at relied
  case isTrue same => exact .inl ⟨same.1, same.2, relied⟩
  case isFalse => exact .inr relied

theorem session_step {call : WriterStep N} {n : N} {index : Nat} {session : SessionId N}
    (relied : (((cluster.step call).node n).calls index).session? = some session) :
    ((cluster.node n).calls index).session? = some session ∨
      cluster.holder = some session ∨
      call = .openTransaction n index ∧ session = cluster.session n ∧
        ∃ checked, (cluster.node n).calls index = .passed checked := by
  cases call with
  | readLeader moved index' =>
      rw [step] at relied
      split at relied
      · split at relied
        · rcases session_setCall relied with ⟨-, -, entered⟩ | before
          · cases entered
          · exact .inl before
        · exact .inl relied
      · exact .inl relied
  | readEpoch moved index' =>
      rw [step] at relied
      split at relied
      · rcases session_setCall relied with ⟨-, -, entered⟩ | before
        · cases entered
        · exact .inl before
      · exact .inl relied
  | queryLock moved index' =>
      rw [step] at relied
      split at relied
      · split at relied
        case isTrue held =>
          rcases session_setCall relied with ⟨-, -, entered⟩ | before
          · obtain rfl := Option.some.inj entered
            exact .inr (.inl held.2.2)
          · exact .inl before
        case isFalse => exact .inl relied
      · exact .inl relied
  | queryRow moved index' =>
      rw [step] at relied
      split at relied
      case h_1 epoch checked phase =>
        split at relied
        · rcases session_setCall relied with ⟨rfl, rfl, entered⟩ | before
          · rw [phase]
            exact .inl entered
          · exact .inl before
        · exact .inl relied
      case h_2 => exact .inl relied
  | readEnabled moved index' =>
      rw [step] at relied
      split at relied
      case h_1 checked phase =>
        split at relied
        · rcases session_setCall relied with ⟨rfl, rfl, entered⟩ | before
          · rw [phase]
            exact .inl entered
          · exact .inl before
        · exact .inl relied
      case h_2 => exact .inl relied
  | openTransaction moved index' =>
      rw [step] at relied
      split at relied
      case h_1 checked phase =>
        split at relied
        · rcases session_setCall relied with ⟨rfl, rfl, entered⟩ | before
          · exact .inr (.inr ⟨rfl, (Option.some.inj entered).symm, checked, phase⟩)
          · exact .inl before
        · exact .inl relied
      case h_2 => exact .inl relied
  | commit moved index' =>
      rw [step] at relied
      split at relied
      · split at relied
        · rcases session_setCall relied with ⟨-, -, entered⟩ | before
          · cases entered
          · exact .inl before
        · exact .inl relied
      · exact .inl relied
  | abandon moved index' =>
      rcases session_setCall relied with ⟨-, -, entered⟩ | before
      · cases entered
      · exact .inl before
  | lose dead =>
      rw [step] at relied
      split at relied
      · exact .inl relied
      · exact .inl relied
  | disableWrites moved | dropLeader moved | endCampaign moved =>
      exact .inl (session_setNode relied rfl)
  | clearWrites moved | publishEpoch moved | publishLeader moved | enableWrites moved =>
      rw [step] at relied
      split at relied
      · exact .inl (session_setNode relied rfl)
      · exact .inl relied
  | startCampaign moved =>
      rw [step] at relied
      split at relied
      · split at relied
        · exact .inl relied
        · exact .inl (session_setNode relied rfl)
      · exact .inl relied
  | reconnect moved | tryLock moved | bumpEpoch moved =>
      rw [step] at relied
      split at relied
      · split at relied
        · exact .inl (session_setNode relied rfl)
        · exact .inl relied
      · exact .inl relied

theorem commits_step (cluster : WriterCluster N) (call : WriterStep N) :
    (cluster.step call).commits = cluster.commits ∨
      ∃ n index session, (cluster.node n).calls index = .opened session ∧
        cluster.lost session = false ∧
        (cluster.step call).commits = cluster.commits ++ [(session, cluster.holder)] := by
  cases call with
  | commit n index =>
      rw [step]
      split
      case h_1 session phase =>
        split
        case isTrue alive => exact .inr ⟨n, index, session, phase, alive, rfl⟩
        case isFalse => exact .inl rfl
      case h_2 => exact .inl rfl
  | abandon | disableWrites | dropLeader | endCampaign => exact .inl rfl
  | readEpoch | clearWrites | publishEpoch | publishLeader | enableWrites | lose =>
      rw [step]
      split
      · exact .inl rfl
      · exact .inl rfl
  | readLeader | queryLock | queryRow | readEnabled | openTransaction | startCampaign
    | reconnect | tryLock | bumpEpoch =>
      rw [step]
      split
      · split
        · exact .inl rfl
        · exact .inl rfl
      · exact .inl rfl

theorem promotions_step (cluster : WriterCluster N) (call : WriterStep N) :
    (cluster.step call).promotions = cluster.promotions ∧
        (cluster.step call).leaderRow = cluster.leaderRow ∨
      ∃ n, (cluster.step call).promotions =
          cluster.promotions ++ [cluster.leaderRow.elim 0 Prod.fst + 1] ∧
        (cluster.step call).leaderRow = some (cluster.leaderRow.elim 0 Prod.fst + 1, n) := by
  cases call with
  | bumpEpoch n =>
      rw [step]
      split
      · split
        · exact .inr ⟨n, rfl, rfl⟩
        · exact .inl ⟨rfl, rfl⟩
      · exact .inl ⟨rfl, rfl⟩
  | abandon | disableWrites | dropLeader | endCampaign => exact .inl ⟨rfl, rfl⟩
  | readEpoch | clearWrites | publishEpoch | publishLeader | enableWrites | lose =>
      rw [step]
      split
      · exact .inl ⟨rfl, rfl⟩
      · exact .inl ⟨rfl, rfl⟩
  | readLeader | queryLock | queryRow | readEnabled | openTransaction | commit | startCampaign
    | reconnect | tryLock =>
      rw [step]
      split
      · split
        · exact .inl ⟨rfl, rfl⟩
        · exact .inl ⟨rfl, rfl⟩
      · exact .inl ⟨rfl, rfl⟩

/-- The epochs claimed so far grow, up to the one in the row. -/
structure Fenced (cluster : WriterCluster N) : Prop where
  increasing : cluster.promotions.Pairwise (· < ·)
  below : ∀ epoch ∈ cluster.promotions, epoch ≤ cluster.leaderRow.elim 0 Prod.fst

theorem Fenced.step (fenced : cluster.Fenced) (call : WriterStep N) :
    (cluster.step call).Fenced := by
  rcases promotions_step cluster call with ⟨same, row⟩ | ⟨n, grown, row⟩
  · exact ⟨by rw [same]; exact fenced.increasing, by rw [same, row]; exact fenced.below⟩
  · constructor
    · rw [grown, List.pairwise_append]
      refine ⟨fenced.increasing, List.pairwise_singleton _ _, ?_⟩
      intro earlier member epoch last
      have bounded := fenced.below earlier member
      rw [List.mem_singleton.mp last]
      omega
    · rw [grown, row]
      intro epoch member
      rcases List.mem_append.mp member with earlier | last
      · have bounded := fenced.below epoch earlier
        change epoch ≤ cluster.leaderRow.elim 0 Prod.fst + 1
        omega
      · exact Int.le_of_eq (List.mem_singleton.mp last)

/-- Every session that a call relies on holds the lock while it is alive. -/
def Proved (cluster : WriterCluster N) : Prop :=
  ∀ n index session, ((cluster.node n).calls index).session? = some session →
    cluster.Keeps session

/-- The transaction is opened on the session the gate checked, or on one that has won
the lock itself. -/
def Unreplaced (cluster : WriterCluster N) : WriterStep N → Prop
  | .openTransaction n index => ∀ checked, (cluster.node n).calls index = .passed checked →
      cluster.session n = checked ∨ cluster.holder = some (cluster.session n)
  | _ => True

theorem Proved.step (proved : cluster.Proved) {call : WriterStep N}
    (unreplaced : cluster.Unreplaced call) : (cluster.step call).Proved := by
  intro n index session relied
  apply Keeps.step
  rcases session_step relied with before | holds | ⟨rfl, rfl, checked, phase⟩
  · exact proved n index session before
  · exact fun _ => holds
  · rcases unreplaced checked phase with same | holds
    · apply proved n index
      rw [phase, same]
      rfl
    · exact fun _ => holds

/-- **Safety of the cluster**: every commit was the lock holder's, and the epochs grow
in the order of the promotions. -/
structure Safe (cluster : WriterCluster N) : Prop where
  held : ∀ commit ∈ cluster.commits, commit.2 = some commit.1
  epochs : cluster.promotions.Pairwise (· < ·)

theorem epochs_increase (calls : List (WriterStep N)) :
    ∀ cluster ∈ Run.states step initial calls, cluster.Fenced := by
  apply Run.forall_mem_states_of_kept fun _ call fenced => Fenced.step fenced call
  exact ⟨List.Pairwise.nil, fun _ member => nomatch member⟩

/-- **A single writer.** In every run in which no transaction is opened on a session that
replaced the one its gate checked, unless it has won the lock itself, every state is
safe. -/
theorem safe_of_unreplaced {calls : List (WriterStep N)}
    (unreplaced : Run.Admissible step Unreplaced initial calls) :
    ∀ cluster ∈ Run.states step initial calls, cluster.Safe := by
  have committed : ∀ cluster ∈ Run.states step (initial : WriterCluster N) calls,
      cluster.Proved ∧ ∀ commit ∈ cluster.commits, commit.2 = some commit.1 := by
    refine Run.forall_mem_states ?_ ⟨?_, fun _ member => nomatch member⟩ unreplaced
    · rintro cluster call ⟨proved, held⟩ unreplaced
      refine ⟨proved.step unreplaced, ?_⟩
      rcases commits_step cluster call with same | ⟨n, index, session, phase, alive, grown⟩
      · rw [same]
        exact held
      · rw [grown]
        intro commit member
        rcases List.mem_append.mp member with earlier | last
        · exact held commit earlier
        · rw [List.mem_singleton.mp last]
          exact proved n index session (by rw [phase]; rfl) alive
    · intro n index session relied
      cases relied
  intro cluster member
  exact ⟨(committed cluster member).2, (epochs_increase calls cluster member).increasing⟩

section Runs

def promote (n : N) : List (WriterStep N) :=
  [.startCampaign n, .tryLock n, .bumpEpoch n, .clearWrites n, .publishEpoch n,
    .publishLeader n, .enableWrites n]

def passGate (n : N) (index : Nat) : List (WriterStep N) :=
  [.readLeader n index, .readEpoch n index, .queryLock n index, .queryRow n index,
    .readEnabled n index]

def commitRun : List (WriterStep Bool) :=
  promote false ++ passGate false 0 ++ [.openTransaction false 0, .commit false 0]

/-- A node passes the gate and loses its session; another node is promoted, the first one
reconnects, and the waiting call commits. -/
def reconnectRun : List (WriterStep Bool) :=
  promote false ++ passGate false 0 ++
    [.lose (false, 0), .disableWrites false, .dropLeader false] ++ promote true ++
    [.startCampaign false, .reconnect false, .endCampaign false, .openTransaction false 0,
      .commit false 0]

/-- The commit of the promoted node is the lock holder's. -/
theorem safe_of_unreplaced_commitRun :
    (commitRun.foldl step initial).commits = [((false, 0), some (false, 0))] ∧
      (commitRun.foldl step initial).promotions = [1] ∧
      (commitRun.foldl step initial).Safe := by
  refine ⟨by decide +kernel, by decide +kernel,
    safe_of_unreplaced ?_ _ (Run.foldl_mem_states _ _)⟩
  refine ⟨trivial, trivial, trivial, trivial, trivial, trivial, trivial, trivial, trivial, trivial,
    trivial, trivial, ?_, trivial, trivial⟩
  have holds : ((promote false ++ passGate false 0).foldl step initial).holder =
      some (((promote false ++ passGate false 0).foldl step initial).session false) := by
    decide +kernel
  exact fun _ _ => .inr holds

/-- The commit after the reconnection is on a session without the lock. -/
theorem not_safe_reconnectRun :
    ¬∀ calls : List (WriterStep Bool), ∀ cluster ∈ Run.states step initial calls,
      cluster.Safe := by
  intro always
  have safe := always reconnectRun _ (Run.foldl_mem_states _ _)
  have committed : (reconnectRun.foldl step initial).commits =
      [((false, 1), some (true, 0))] := by
    decide +kernel
  have held := safe.held
  rw [committed] at held
  cases held _ List.mem_cons_self

end Runs

end WriterCluster

end Chancela
