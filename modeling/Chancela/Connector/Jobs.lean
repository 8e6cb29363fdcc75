import Chancela.Connector.Restart
import Chancela.Foundation.Keyset
import Chancela.Foundation.Selection
import Mathlib.Data.Prod.Lex
import Mathlib.Order.OrderDual

/-! # The jobs of a tenant

`list_jobs` reads the newest jobs of the whole queue, keeps those of the tenant that the caller may
see, and gives a page of them with the creation time of its last job as the mark of the next page.
Following the marks comes to an end; it lists every job of the tenant just where none of them lies
beyond the newest jobs of the queue and no page ends between two jobs of one millisecond
(`Chancela.JobListing.complete_iff`).
-/

namespace Chancela

inductive JobState where
  | queued
  | running
  | retryScheduled
  | recovered
  | succeeded
  | failed
  | cancelled
deriving DecidableEq

inductive ErrorClass where
  | cancelled
  | configuration
  | authentication
  | notFound
  | conflict
  | rateLimited
  | transient
  | permanent
  | integrity
deriving DecidableEq

inductive ChecksumEvidence where
  | sourceOnly
  | sentToProvider
  | remoteConfirmed
deriving DecidableEq

structure Job where
  id : String
  purpose : JobPurpose
  destination : String
  contentType : String
  sourceSha256 : String
  bytes : Nat
  tenantId : Option String
  target : Option TargetConfig
  createdUnixMillis : Nat
deriving DecidableEq

structure JobEvent where
  state : JobState
  attempt : UInt32
  notBeforeUnixMillis : Option Nat
  errorClass : Option ErrorClass
  detail : String
deriving DecidableEq

/-- `JobReceipt`, with its `UploadReceipt`. -/
structure JobReceipt where
  completedUnixMillis : Nat
  connector : ConnectorKind
  providerObjectId : Option String
  providerRevision : Option String
  etag : Option String
  bytes : Nat
  checksumEvidence : ChecksumEvidence
deriving DecidableEq

structure JobSnapshot where
  job : Job
  latestEvent : JobEvent
  receipt : Option JobReceipt
deriving DecidableEq

structure ConnectorJobReceiptView where
  completedUnixMillis : Nat
  connector : ConnectorKind
  providerObjectId : Option String
  providerRevision : Option String
  etag : Option String
  remoteBytes : Nat
  checksumEvidence : ChecksumEvidence
deriving DecidableEq

structure ConnectorJobView where
  id : String
  tenantId : String
  targetId : Uuid
  repositoryId : Uuid
  purpose : JobPurpose
  destination : String
  contentType : String
  sourceSha256 : String
  bytes : Nat
  createdUnixMillis : Nat
  state : JobState
  attempt : UInt32
  notBeforeUnixMillis : Option Nat
  errorClass : Option ErrorClass
  detail : String
  receipt : Option ConnectorJobReceiptView
deriving DecidableEq

structure ConnectorJobListView where
  jobs : List ConnectorJobView
  nextBeforeCreatedUnixMillis : Option Nat
deriving DecidableEq

structure ListJobsQuery where
  limit : Option Nat
  beforeCreatedUnixMillis : Option Nat

abbrev JobTable := Table fun snapshot : JobSnapshot => snapshot.job.id

namespace JobListing

open Outcome

def defaultJobLimit : Nat := 50

def maxJobLimit : Nat := 100

def queueScanLimit : Nat := 500

/-- Jobs are listed newest first, and those of one millisecond by falling id. -/
def newest (snapshot : JobSnapshot) : Natᵒᵈ ×ₗ Stringᵒᵈ :=
  toLex (OrderDual.toDual snapshot.job.createdUnixMillis, OrderDual.toDual snapshot.job.id)

/-- `list_snapshots`, of a queue whose files are read. -/
def listSnapshots (queue : JobTable) (limit : Nat) : Except TargetError (List JobSnapshot) := do
  rejectIf (¬(1 ≤ limit ∧ limit ≤ 500))
    (.unprocessable "configuration: snapshot list limit must be between 1 and 500")
  return (Selection.sortBy newest queue.values).take limit

/-- The fields of `ConnectorJobView`. -/
def viewOf (snapshot : JobSnapshot) (target : ConnectorTargetRecord) : ConnectorJobView where
  id := snapshot.job.id
  tenantId := target.tenantId.display
  targetId := target.id
  repositoryId := target.repositoryId
  purpose := snapshot.job.purpose
  destination := snapshot.job.destination
  contentType := snapshot.job.contentType
  sourceSha256 := snapshot.job.sourceSha256
  bytes := snapshot.job.bytes
  createdUnixMillis := snapshot.job.createdUnixMillis
  state := snapshot.latestEvent.state
  attempt := snapshot.latestEvent.attempt
  notBeforeUnixMillis := snapshot.latestEvent.notBeforeUnixMillis
  errorClass := snapshot.latestEvent.errorClass
  detail := snapshot.latestEvent.detail
  receipt := snapshot.receipt.map fun receipt => {
    completedUnixMillis := receipt.completedUnixMillis
    connector := receipt.connector
    providerObjectId := receipt.providerObjectId
    providerRevision := receipt.providerRevision
    etag := receipt.etag
    remoteBytes := receipt.bytes
    checksumEvidence := receipt.checksumEvidence }

def jobView (snapshot : JobSnapshot) (target : ConnectorTargetRecord) :
    Except TargetError ConnectorJobView := do
  rejectIf (snapshot.job.tenantId ≠ some target.tenantId.display ∨
    snapshot.job.target.map TargetConfig.id ≠ some target.id.display) .notFound
  return viewOf snapshot target

def permissionFor : JobPurpose → Permission
  | .sync => .dataExport
  | .backup => .dataBackup

section Listing

variable [SerdeCrates] (authz : Authorizer) (targets : ConnectorTargetMap) (queue : JobTable)
  (tenant : TenantId)

def targetForSnapshot (snapshot : JobSnapshot) : Option ConnectorTargetRecord := do
  let config ← snapshot.job.target
  let id ← parseUuidStr config.id
  (targets.get id).filter fun target => target.tenantId = tenant

/-- The loop of `list_jobs`, up to one job beyond the page. -/
def collectJobs (before : Option Nat) (limit : Nat) : List JobSnapshot → List ConnectorJobView →
    Except TargetError (List ConnectorJobView)
  | [], jobs => .ok jobs
  | snapshot :: rest, jobs =>
      if before.any (· ≤ snapshot.job.createdUnixMillis) then collectJobs before limit rest jobs
      else
        match targetForSnapshot targets tenant snapshot with
        | none => collectJobs before limit rest jobs
        | some target =>
            if authz.permits (permissionFor snapshot.job.purpose)
                (.repository target.repositoryId) then
              match jobView snapshot target with
              | .error refusal => .error refusal
              | .ok view =>
                  if limit < (jobs ++ [view]).length then .ok (jobs ++ [view])
                  else collectJobs before limit rest (jobs ++ [view])
            else collectJobs before limit rest jobs

/-- `list_jobs`, for a caller whose authority is known. -/
def listJobs (query : ListJobsQuery) : Except TargetError ConnectorJobListView := do
  let limit := query.limit.getD defaultJobLimit
  rejectIf (¬(1 ≤ limit ∧ limit ≤ maxJobLimit))
    (.unprocessable s!"limit must be between 1 and {maxJobLimit}")
  let snapshots ← listSnapshots queue queueScanLimit
  let jobs ← collectJobs authz targets tenant query.beforeCreatedUnixMillis limit snapshots []
  let page := jobs.take limit
  return ⟨page, if limit < jobs.length then page.getLast?.map (·.createdUnixMillis) else none⟩

end Listing

/-- The pages up to the last one, or to a number of requests: their jobs, and whether the last
page was reached. -/
def followPages (list : Option Nat → Except TargetError ConnectorJobListView) :
    Nat → Option Nat → Except TargetError (List ConnectorJobView × Bool)
  | 0, _ => .ok ([], false)
  | requests + 1, before => do
      let page ← list before
      match page.nextBeforeCreatedUnixMillis with
      | none => return (page.jobs, true)
      | some next =>
          let rest ← followPages list requests (some next)
          return (page.jobs ++ rest.1, rest.2)

/-- A job is of no tenant, as those of the command line are, or of a target of its tenant, as
`stage_for_target` binds it. -/
def Bound (targets : ConnectorTargetMap) (job : Job) : Prop :=
  job.tenantId = none ∧ job.target = none ∨
    ∃ target ∈ targets.values, job.tenantId = some target.tenantId.display ∧
      job.target.map TargetConfig.id = some target.id.display

/-- The content of a queue: jobs that are bound to the targets there are. -/
structure JobQueue (targets : ConnectorTargetMap) where
  jobs : JobTable
  bound : ∀ snapshot ∈ jobs.values, Bound targets snapshot.job

def MaySee (authz : Authorizer) (targets : ConnectorTargetMap) (tenant : TenantId) : Prop :=
  ∀ target ∈ targets.values, target.tenantId = tenant → ∀ purpose,
    authz.permits (permissionFor purpose) (.repository target.repositoryId) = true

def jobsOf (queue : JobTable) (tenant : TenantId) : List JobSnapshot :=
  (Selection.sortBy newest queue.values).filter fun snapshot =>
    snapshot.job.tenantId = some tenant.display

/-- The views are those of all jobs of the tenant, once each, newest first. -/
def Complete (queue : JobTable) (tenant : TenantId) (views : List ConnectorJobView) : Prop :=
  (views.map (·.id)).Perm ((jobsOf queue tenant).map fun snapshot => snapshot.job.id) ∧
    views.Pairwise fun first second => second.createdUnixMillis ≤ first.createdUnixMillis

section Pages

variable [SerdeCrates] {authz : Authorizer} {targets : ConnectorTargetMap} {tenant : TenantId}
  {snapshot : JobSnapshot} {target : ConnectorTargetRecord}

theorem targetForSnapshot_iff (bound : Bound targets snapshot.job) :
    (targetForSnapshot targets tenant snapshot).isSome ↔
      snapshot.job.tenantId = some tenant.display := by
  unfold targetForSnapshot
  rcases bound with ⟨untenanted, untargeted⟩ | ⟨record, listed, tenanted, targeted⟩
  · rw [untenanted, untargeted]
    exact iff_of_false nofun nofun
  · obtain ⟨config, found, named⟩ := Option.map_eq_some_iff.mp targeted
    rw [found, tenanted]
    simp only [Option.bind_eq_bind, Option.bind_some, named, SerdeCrates.parseUuidStr_display,
      Table.mem_values.mp listed, Option.isSome_filter, Option.any_some, decide_eq_true_eq,
      Option.some.injEq, Uuid.display_injective.eq_iff]

theorem jobView_eq (bound : Bound targets snapshot.job)
    (found : targetForSnapshot targets tenant snapshot = some target) :
    jobView snapshot target = .ok (viewOf snapshot target) ∧ target ∈ targets.values ∧
      target.tenantId = tenant := by
  unfold targetForSnapshot at found
  rcases bound with ⟨-, untargeted⟩ | ⟨record, listed, tenanted, targeted⟩
  · rw [untargeted] at found
    cases found
  · obtain ⟨config, configured, named⟩ := Option.map_eq_some_iff.mp targeted
    rw [configured] at found
    simp only [Option.bind_eq_bind, Option.bind_some, named, SerdeCrates.parseUuidStr_display,
      Table.mem_values.mp listed, Option.filter_eq_some_iff, Option.some.injEq,
      decide_eq_true_eq] at found
    obtain ⟨rfl, own⟩ := found
    refine ⟨?_, listed, own⟩
    unfold jobView
    rw [tenanted, targeted]
    simp [rejectIf]

def visible (targets : ConnectorTargetMap) (tenant : TenantId) (snapshots : List JobSnapshot) :
    List ConnectorJobView :=
  snapshots.filterMap fun snapshot =>
    (targetForSnapshot targets tenant snapshot).map (viewOf snapshot)

def Later (first second : Nat) : Prop := second < first

instance : DecidableRel Later := fun first second => inferInstanceAs (Decidable (second < first))

omit [SerdeCrates] in
theorem beyond_cons (view : ConnectorJobView) (views : List ConnectorJobView)
    (before : Option Nat) :
    Keyset.beyond Later (·.createdUnixMillis) (view :: views) before =
      if before.any (· ≤ view.createdUnixMillis) then
        Keyset.beyond Later (·.createdUnixMillis) views before
      else view :: Keyset.beyond Later (·.createdUnixMillis) views before := by
  cases before with
  | none => rfl
  | some mark =>
      unfold Keyset.beyond
      dsimp only
      by_cases reached : mark ≤ view.createdUnixMillis
      · have skipped : ¬Later mark view.createdUnixMillis := Nat.not_lt.mpr reached
        rw [List.filter_cons_of_neg (by simpa using skipped)]
        simp [reached]
      · have kept : Later mark view.createdUnixMillis := Nat.not_le.mp reached
        rw [List.filter_cons_of_pos (by simpa using kept)]
        simp [reached]

theorem visible_cons (rest : List JobSnapshot) : visible targets tenant (snapshot :: rest) =
    ((targetForSnapshot targets tenant snapshot).map (viewOf snapshot)).toList ++
      visible targets tenant rest := by
  unfold visible
  rw [List.filterMap_cons]
  cases targetForSnapshot targets tenant snapshot <;> rfl

theorem collectJobs_eq (permitted : MaySee authz targets tenant) {before : Option Nat}
    {limit : Nat} {snapshots : List JobSnapshot}
    (bound : ∀ snapshot ∈ snapshots, Bound targets snapshot.job) {jobs : List ConnectorJobView}
    (room : jobs.length ≤ limit) :
    collectJobs authz targets tenant before limit snapshots jobs =
      .ok (jobs ++ (Keyset.beyond Later (·.createdUnixMillis) (visible targets tenant snapshots)
        before).take (limit + 1 - jobs.length)) := by
  induction snapshots generalizing jobs with
  | nil =>
      have none_ : Keyset.beyond Later (·.createdUnixMillis) (visible targets tenant []) before =
          [] := by
        cases before <;> rfl
      rw [none_, List.take_nil, List.append_nil]
      rfl
  | cons snapshot rest ih =>
      have later := fun snapshot member => bound snapshot (List.mem_cons_of_mem _ member)
      have here := bound snapshot List.mem_cons_self
      rw [visible_cons, collectJobs]
      cases found : targetForSnapshot targets tenant snapshot with
      | none =>
          simp only [Option.map_none, Option.toList_none, List.nil_append, ite_self]
          exact ih later room
      | some target =>
          obtain ⟨view, listed, own⟩ := jobView_eq here found
          have seen := permitted target listed own snapshot.job.purpose
          simp only [Option.map_some, Option.toList_some, List.singleton_append, seen, ↓reduceIte,
            view]
          rw [beyond_cons]
          by_cases reached : before.any (· ≤ snapshot.job.createdUnixMillis) = true
          · rw [if_pos reached, if_pos (show before.any
              (· ≤ (viewOf snapshot target).createdUnixMillis) = true from reached)]
            exact ih later room
          · rw [if_neg reached, if_neg (show ¬before.any
              (· ≤ (viewOf snapshot target).createdUnixMillis) = true from reached)]
            have one : limit + 1 - jobs.length = limit - jobs.length + 1 := by omega
            rw [one, List.take_succ_cons]
            split
            · next full =>
                rw [List.length_append, List.length_singleton] at full
                have none_ : limit - jobs.length = 0 := by omega
                rw [none_, List.take_zero]
            · next few =>
                rw [List.length_append, List.length_singleton] at few
                have left : limit + 1 - (jobs ++ [viewOf snapshot target]).length =
                    limit - jobs.length := by
                  rw [List.length_append, List.length_singleton]
                  omega
                rw [ih later (by rw [List.length_append, List.length_singleton]; omega), left,
                  List.append_assoc, List.singleton_append]

theorem listJobs_eq (permitted : MaySee authz targets tenant) (queue : JobQueue targets)
    {query : ListJobsQuery} (accepted : 1 ≤ query.limit.getD defaultJobLimit ∧
      query.limit.getD defaultJobLimit ≤ maxJobLimit) :
    let rest := Keyset.beyond Later (·.createdUnixMillis)
      (visible targets tenant ((Selection.sortBy newest queue.jobs.values).take queueScanLimit))
      query.beforeCreatedUnixMillis
    listJobs authz targets queue.jobs tenant query =
      .ok ⟨rest.take (query.limit.getD defaultJobLimit),
        (Keyset.lastOfPage (query.limit.getD defaultJobLimit) rest).map (·.createdUnixMillis)⟩ := by
  intro rest
  have bound : ∀ snapshot ∈ (Selection.sortBy newest queue.jobs.values).take queueScanLimit,
      Bound targets snapshot.job := fun snapshot member =>
    queue.bound snapshot ((Selection.sortBy_perm _ _).mem_iff.mp (List.mem_of_mem_take member))
  have scanned : listSnapshots queue.jobs queueScanLimit =
      .ok ((Selection.sortBy newest queue.jobs.values).take queueScanLimit) := rfl
  have gathered := @collectJobs_eq _ authz targets tenant permitted query.beforeCreatedUnixMillis
    (query.limit.getD defaultJobLimit) _ bound [] (Nat.zero_le _)
  rw [List.nil_append, List.length_nil, Nat.sub_zero] at gathered
  change collectJobs _ _ _ _ _ _ _ = .ok (rest.take _) at gathered
  unfold listJobs
  rw [scanned]
  simp only [accepted, rejectIf, gathered, bind, Except.bind, pure, Except.pure, and_self,
    not_true_eq_false, ↓reduceIte]
  have page : (rest.take (query.limit.getD defaultJobLimit + 1)).take
      (query.limit.getD defaultJobLimit) = rest.take (query.limit.getD defaultJobLimit) := by
    rw [List.take_take, Nat.min_eq_left (Nat.le_succ _)]
  have more : query.limit.getD defaultJobLimit <
      (rest.take (query.limit.getD defaultJobLimit + 1)).length ↔
        query.limit.getD defaultJobLimit < rest.length := by
    rw [List.length_take]
    omega
  rw [page]
  simp only [more, Keyset.lastOfPage]
  congr 2
  split <;> rfl

omit [SerdeCrates] in
theorem followPages_eq {list : Option Nat → Except TargetError ConnectorJobListView} {limit : Nat}
    {views : List ConnectorJobView}
    (page : ∀ before, list before =
      .ok ⟨(Keyset.beyond Later (·.createdUnixMillis) views before).take limit,
        (Keyset.lastOfPage limit (Keyset.beyond Later (·.createdUnixMillis) views before)).map
          (·.createdUnixMillis)⟩) (requests : Nat) (before : Option Nat) :
    followPages list requests before =
      .ok ((Keyset.visit Later (·.createdUnixMillis) limit (List.replicate requests views)
          before).items,
        (Keyset.visit Later (·.createdUnixMillis) limit (List.replicate requests views)
          before).finished) := by
  induction requests generalizing before with
  | zero => rfl
  | succ requests ih =>
      rw [List.replicate_succ, followPages, page, Keyset.visit]
      cases Keyset.lastOfPage limit
          (Keyset.beyond Later (·.createdUnixMillis) views before) with
      | none => rfl
      | some last =>
          simp only [bind, Except.bind, Option.map_some, ih]
          rfl

theorem map_visible {α : Type} {ofView : ConnectorJobView → α} {ofJob : JobSnapshot → α}
    (same : ∀ snapshot target, ofView (viewOf snapshot target) = ofJob snapshot)
    {snapshots : List JobSnapshot}
    (bound : ∀ snapshot ∈ snapshots, Bound targets snapshot.job) :
    (visible targets tenant snapshots).map ofView =
      (snapshots.filter fun snapshot => snapshot.job.tenantId = some tenant.display).map ofJob := by
  induction snapshots with
  | nil => rfl
  | cons snapshot rest ih =>
      have later := ih fun other member => bound other (List.mem_cons_of_mem _ member)
      have own := @targetForSnapshot_iff _ targets tenant snapshot (bound _ List.mem_cons_self)
      rw [visible_cons]
      cases found : targetForSnapshot targets tenant snapshot with
      | none =>
          rw [found] at own
          rw [List.filter_cons_of_neg (by simpa using own)]
          exact later
      | some target =>
          rw [found] at own
          rw [List.filter_cons_of_pos (by simpa using own), List.map_cons, ← later,
            ← same snapshot target]
          rfl

omit [SerdeCrates] in
theorem created_le_of_newest {first second : JobSnapshot} (ranked : newest first ≤ newest second) :
    second.job.createdUnixMillis ≤ first.job.createdUnixMillis := by
  unfold newest at ranked
  rcases Prod.Lex.toLex_le_toLex.mp ranked with below | ⟨same, -⟩
  · exact le_of_lt (OrderDual.toDual_lt_toDual.mp below)
  · exact le_of_eq (OrderDual.toDual_inj.mp same).symm

theorem weaklyOrdered_visible (queue : JobTable) :
    Keyset.WeaklyOrdered Later (·.createdUnixMillis)
      (visible targets tenant (Selection.sortBy newest queue.values)) := by
  unfold visible
  refine List.Pairwise.filterMap _ ?_ (Selection.ranked_sortBy newest queue.values)
  intro first second ranked view shown view' shown'
  obtain ⟨target, -, rfl⟩ := Option.map_eq_some_iff.mp shown
  obtain ⟨target', -, rfl⟩ := Option.map_eq_some_iff.mp shown'
  exact Nat.not_lt.mpr (created_le_of_newest ranked)

/-- No job of the tenant lies beyond the jobs that are scanned. -/
def InWindow (queue : JobTable) (tenant : TenantId) : Prop :=
  ∀ snapshot ∈ (Selection.sortBy newest queue.values).drop queueScanLimit,
    snapshot.job.tenantId ≠ some tenant.display

/-- No page ends between two jobs of the tenant that were created in one millisecond. -/
def CleanBoundaries (queue : JobTable) (tenant : TenantId) (limit : Nat) : Prop :=
  Keyset.CleanPages Later (fun snapshot => snapshot.job.createdUnixMillis) limit
    (jobsOf queue tenant)

theorem visible_take_eq_iff (queue : JobQueue targets) :
    visible targets tenant ((Selection.sortBy newest queue.jobs.values).take queueScanLimit) =
        visible targets tenant (Selection.sortBy newest queue.jobs.values) ↔
      InWindow queue.jobs tenant := by
  have split : visible targets tenant (Selection.sortBy newest queue.jobs.values) =
      visible targets tenant ((Selection.sortBy newest queue.jobs.values).take queueScanLimit) ++
        visible targets tenant
          ((Selection.sortBy newest queue.jobs.values).drop queueScanLimit) := by
    unfold visible
    rw [← List.filterMap_append, List.take_append_drop]
  rw [split, List.self_eq_append_right]
  unfold visible InWindow
  rw [List.filterMap_eq_nil_iff]
  refine forall₂_congr fun snapshot member => ?_
  have bound := queue.bound snapshot
    ((Selection.sortBy_perm _ _).mem_iff.mp (List.mem_of_mem_drop member))
  rw [Option.map_eq_none_iff, ← Option.not_isSome_iff_eq_none, targetForSnapshot_iff bound]

theorem complete_iff_eq (queue : JobQueue targets) {views : List ConnectorJobView}
    (within : views.Sublist
      (visible targets tenant (Selection.sortBy newest queue.jobs.values))) :
    Complete queue.jobs tenant views ↔
      views = visible targets tenant (Selection.sortBy newest queue.jobs.values) := by
  have bound : ∀ snapshot ∈ Selection.sortBy newest queue.jobs.values,
      Bound targets snapshot.job := fun snapshot member =>
    queue.bound snapshot ((Selection.sortBy_perm _ _).mem_iff.mp member)
  have ids : (visible targets tenant (Selection.sortBy newest queue.jobs.values)).map (·.id) =
      (jobsOf queue.jobs tenant).map fun snapshot => snapshot.job.id :=
    map_visible (fun _ _ => rfl) bound
  unfold Complete
  rw [← ids]
  constructor
  · rintro ⟨all, -⟩
    have long := all.length_eq
    rw [List.length_map, List.length_map] at long
    exact within.eq_of_length long
  · rintro rfl
    exact ⟨List.Perm.refl _, (weaklyOrdered_visible queue.jobs).imp fun order =>
      Nat.not_lt.mp order⟩

/-- Following the pages comes to an end with views of the tenant's jobs in their order, and with
all of them just where none lies beyond the scan and the pages end between milliseconds. -/
theorem exists_followPages (permitted : MaySee authz targets tenant)
    (queue : JobQueue targets) {limit : Option Nat} (accepted : 1 ≤ limit.getD defaultJobLimit ∧
      limit.getD defaultJobLimit ≤ maxJobLimit) {requests : Nat}
    (enough : queue.jobs.values.length < requests) :
    ∃ views, followPages (fun before => listJobs authz targets queue.jobs tenant ⟨limit, before⟩)
        requests none = .ok (views, true) ∧
      views.Sublist (visible targets tenant (Selection.sortBy newest queue.jobs.values)) ∧
      (views = visible targets tenant (Selection.sortBy newest queue.jobs.values) ↔
        InWindow queue.jobs tenant ∧
          CleanBoundaries queue.jobs tenant (limit.getD defaultJobLimit)) := by
  have pages := @followPages_eq (fun before =>
    listJobs authz targets queue.jobs tenant ⟨limit, before⟩) (limit.getD defaultJobLimit)
    (visible targets tenant ((Selection.sortBy newest queue.jobs.values).take queueScanLimit))
    (fun before => @listJobs_eq _ authz targets tenant permitted queue ⟨limit, before⟩ accepted)
    requests none
  have window : (visible targets tenant
      ((Selection.sortBy newest queue.jobs.values).take queueScanLimit)).Sublist
        (visible targets tenant (Selection.sortBy newest queue.jobs.values)) :=
    (List.take_sublist _ _).filterMap _
  have short : (visible targets tenant
      ((Selection.sortBy newest queue.jobs.values).take queueScanLimit)).length < requests := by
    have shown := List.length_filterMap_le (fun snapshot =>
      (targetForSnapshot targets tenant snapshot).map (viewOf snapshot))
      (Selection.sortBy newest queue.jobs.values)
    rw [(Selection.sortBy_perm newest queue.jobs.values).length_eq] at shown
    have fewer : (visible targets tenant
        (Selection.sortBy newest queue.jobs.values)).length ≤ queue.jobs.values.length := shown
    have less := window.length_le
    omega
  obtain ⟨finished, within, clean⟩ := @Keyset.visit_replicate_weak _ _ Later _
    (fun view : ConnectorJobView => view.createdUnixMillis) _ _ (fun place => Nat.lt_irrefl place)
      (fun one two => Nat.lt_trans two one)
    (fun one two => Nat.lt_of_le_of_lt (Nat.not_lt.mp two) one) accepted.1
    (List.Pairwise.sublist window (weaklyOrdered_visible queue.jobs)) _ none short
  rw [finished] at pages
  refine ⟨_, pages, within.trans window, ?_⟩
  have bound : ∀ snapshot ∈ Selection.sortBy newest queue.jobs.values,
      Bound targets snapshot.job := fun snapshot member =>
    queue.bound snapshot ((Selection.sortBy_perm _ _).mem_iff.mp member)
  have times : (visible targets tenant (Selection.sortBy newest queue.jobs.values)).map
        (·.createdUnixMillis) =
      (jobsOf queue.jobs tenant).map fun snapshot => snapshot.job.createdUnixMillis :=
    map_visible (fun _ _ => rfl) bound
  have boundaries : CleanBoundaries queue.jobs tenant (limit.getD defaultJobLimit) ↔
      Keyset.CleanPages Later (·.createdUnixMillis) (limit.getD defaultJobLimit)
        (visible targets tenant (Selection.sortBy newest queue.jobs.values)) := by
    unfold CleanBoundaries
    rw [← Keyset.cleanPages_map, ← times, Keyset.cleanPages_map]
  rw [boundaries, ← visible_take_eq_iff queue]
  constructor
  · intro all
    have whole := window.eq_of_length_le (all ▸ within.length_le)
    exact ⟨whole, whole ▸ clean.mp (all.trans whole.symm)⟩
  · rintro ⟨whole, unbroken⟩
    rw [← whole] at unbroken ⊢
    exact clean.mpr unbroken

/-- **The pages of a tenant's jobs**: following them comes to an end, and lists every job of the
tenant once, newest first, just where none lies beyond the jobs that are scanned and no page ends
between two jobs of one millisecond. -/
theorem complete_iff (permitted : MaySee authz targets tenant) (queue : JobQueue targets)
    {limit : Option Nat} (accepted : 1 ≤ limit.getD defaultJobLimit ∧
      limit.getD defaultJobLimit ≤ maxJobLimit) {requests : Nat}
    (enough : queue.jobs.values.length < requests) :
    ∃ views, followPages (fun before => listJobs authz targets queue.jobs tenant ⟨limit, before⟩)
        requests none = .ok (views, true) ∧
      (Complete queue.jobs tenant views ↔ InWindow queue.jobs tenant ∧
        CleanBoundaries queue.jobs tenant (limit.getD defaultJobLimit)) := by
  obtain ⟨views, pages, within, whole⟩ := exists_followPages permitted queue accepted enough
  exact ⟨views, pages, (complete_iff_eq queue within).trans whole⟩

end Pages

section Examples

open scoped Reference

def vault : ConnectorTargetRecord where
  schemaVersion := 1
  id := ⟨1⟩
  repositoryId := ⟨1⟩
  tenantId := ⟨7⟩
  name := "Vault"
  enabled := true
  purposes := {.backup}
  config := .local_ ⟨(⟨1⟩ : Uuid).display, "/srv/vault"⟩
  createdAt := "2026-03-30T10:15:00Z"
  updatedAt := "2026-03-30T10:15:00Z"
  archivedAt := none

def vaultOnly : ConnectorTargetMap := .fromIter [vault]

/-- A backup job for the vault, created in one millisecond with every other. -/
def vaultJob (letter : Char) : JobSnapshot where
  job := {
    id := String.ofList (List.replicate 64 letter)
    purpose := .backup
    destination := "backup.zip"
    contentType := "application/zip"
    sourceSha256 := String.ofList (List.replicate 64 '0')
    bytes := 1
    tenantId := some vault.tenantId.display
    target := some vault.config
    createdUnixMillis := 1700000000000 }
  latestEvent := ⟨.queued, 0, none, none, ""⟩
  receipt := none

theorem bound_vaultJob (letter : Char) : Bound vaultOnly (vaultJob letter).job :=
  .inr ⟨vault, List.mem_singleton_self _, rfl, rfl⟩

def vaultJobs : JobTable := .fromIter [vaultJob 'a', vaultJob 'b']

theorem bound_vaultJobs : ∀ snapshot ∈ vaultJobs.values, Bound vaultOnly snapshot.job := by
  intro snapshot member
  have one := Table.mem_of_get_fromIter (Table.mem_values.mp member)
  rcases List.mem_pair.mp one with rfl | rfl
  · exact bound_vaultJob 'a'
  · exact bound_vaultJob 'b'

def twoJobs : JobQueue vaultOnly := ⟨vaultJobs, bound_vaultJobs⟩

def owner : Authorizer where
  principal := ⟨9⟩
  eff := ⟨[(.dataExport, .global), (.dataBackup, .global)], []⟩
  relations := ⟨fun _ => none, fun _ => none, fun _ => none, fun _ => none, fun _ => none,
    fun _ => none, fun _ => none⟩

theorem maySee_owner (targets : ConnectorTargetMap) (tenant : TenantId) :
    MaySee owner targets tenant := by
  intro target _ _ purpose
  cases purpose <;> rfl

theorem jobsOf_twoJobs : jobsOf twoJobs.jobs ⟨7⟩ = [vaultJob 'b', vaultJob 'a'] ∧
    twoJobs.jobs.values.length = 2 := by
  decide +kernel

theorem complete_iff_twoJobs :
    ∃ views, followPages (fun before => listJobs owner vaultOnly twoJobs.jobs ⟨7⟩ ⟨none, before⟩) 3
        none = .ok (views, true) ∧
      (Complete twoJobs.jobs ⟨7⟩ views ↔ InWindow twoJobs.jobs ⟨7⟩ ∧
        CleanBoundaries twoJobs.jobs ⟨7⟩ ((none : Option Nat).getD defaultJobLimit)) :=
  complete_iff (maySee_owner vaultOnly ⟨7⟩) twoJobs (by decide)
    (Nat.lt_succ_of_le jobsOf_twoJobs.2.le)

/-- In pages of one, the second of two jobs of one millisecond is never listed. -/
theorem job_never_listed : ¬∀ (crates : SerdeCrates) (authz : Authorizer)
    (targets : ConnectorTargetMap) (tenant : TenantId) (queue : JobQueue targets)
    (limit : Option Nat), MaySee authz targets tenant →
    1 ≤ limit.getD defaultJobLimit ∧ limit.getD defaultJobLimit ≤ maxJobLimit →
    ∀ requests, queue.jobs.values.length < requests →
      ∃ views, followPages
          (fun before => @listJobs crates authz targets queue.jobs tenant ⟨limit, before⟩)
          requests none = .ok (views, true) ∧ Complete queue.jobs tenant views := by
  intro holds
  have permitted := maySee_owner vaultOnly ⟨7⟩
  have accepted : 1 ≤ (some 1).getD defaultJobLimit ∧ (some 1).getD defaultJobLimit ≤ maxJobLimit :=
    by decide
  have enough : twoJobs.jobs.values.length < 3 := Nat.lt_succ_of_le jobsOf_twoJobs.2.le
  obtain ⟨views, pages, complete⟩ :=
    holds Reference.serdeCrates owner vaultOnly ⟨7⟩ twoJobs (some 1) permitted accepted 3 enough
  obtain ⟨views', pages', within, whole⟩ := exists_followPages permitted twoJobs accepted enough
  cases pages.symm.trans pages'
  obtain ⟨-, clean⟩ := whole.mp ((complete_iff_eq twoJobs within).mp complete)
  unfold CleanBoundaries at clean
  rw [jobsOf_twoJobs.1] at clean
  exact Nat.lt_irrefl _ (clean 0 (vaultJob 'b') (vaultJob 'a') rfl rfl)

end Examples

end JobListing

end Chancela
