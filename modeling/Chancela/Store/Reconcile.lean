import Chancela.Crates.Reference
import Chancela.Foundation.Outcome
import Chancela.Foundation.SortedDiff
import Chancela.Search.Document
import Chancela.Store.Archive

/-! # The difference of two search projections

The target of a search projection is compared with the rows that stand, read one by one in the
order of their ids, and the operations that lead from the rows to the target are collected.
They are the difference of the two lists (`Chancela.reconcile_exact`).
-/

namespace Chancela

open Search SortedDiff

inductive SearchIndexOperation where
  | upsert (document : SearchDocument)
  | delete (id : String)
deriving DecidableEq

namespace SearchIndexOperation

def target : SearchIndexOperation → String
  | upsert document => document.id
  | delete id => id

def apply (rows : String → Option SearchDocument) :
    SearchIndexOperation → String → Option SearchDocument
  | upsert document => Function.update rows document.id (some document)
  | delete id => Function.update rows id none

def ofEdit : Edit SearchDocument String → SearchIndexOperation
  | .put document => upsert document
  | .drop id => delete id

end SearchIndexOperation

/-- How a reconciliation fails: on a target out of order (`InvalidData`), or with the source of
the rows. -/
inductive ReconcileFault where
  | io (message : String)
  | source (error : StoreError)
deriving DecidableEq

/-- What remains of the rows to be read, an outcome for each. -/
abbrev RowSource := List (Except StoreError SearchDocument)

/-- One call of `next_existing`: the row read, and what remains. -/
def nextExisting : RowSource → Except ReconcileFault (Option SearchDocument × RowSource)
  | [] => .ok (none, [])
  | .ok row :: rest => .ok (some row, rest)
  | .error error :: _ => .error (.source error)

theorem length_of_nextExisting {source rest : RowSource} {row : SearchDocument}
    (read : nextExisting source = .ok (some row, rest)) : rest.length < source.length := by
  cases source with
  | nil => cases read
  | cons outcome source =>
      cases outcome with
      | ok _ =>
          cases read
          exact Nat.lt_succ_self _
      | error _ => cases read

def ahead (target : List SearchDocument) (existing : Option SearchDocument)
    (source : RowSource) : Nat :=
  target.length + (existing.elim 0 fun _ => source.length + 1)

theorem ahead_of_nextExisting {target later : List SearchDocument} {source rest : RowSource}
    {row : SearchDocument} {existing : Option SearchDocument}
    (read : nextExisting source = .ok (existing, rest)) (shorter : later.length ≤ target.length) :
    ahead later existing rest < ahead target (some row) source := by
  unfold ahead
  cases existing with
  | none =>
      dsimp only [Option.elim]
      omega
  | some next =>
      have fewer := length_of_nextExisting read
      dsimp only [Option.elim]
      omega

/-- The loop of the reconciliation, from the row last read on. -/
def reconcileLoop (forceRebuild : Bool) (target : List SearchDocument)
    (existing : Option SearchDocument) (source : RowSource)
    (operations : List SearchIndexOperation) :
    Except ReconcileFault (List SearchIndexOperation) :=
  match target, existing with
  | document :: later, some previous =>
      if document.id < previous.id then
        reconcileLoop forceRebuild later (some previous) source (operations ++ [.upsert document])
      else if document.id = previous.id then
        match read : nextExisting source with
        | .ok (existing, source) =>
            reconcileLoop forceRebuild later existing source
              (if forceRebuild || document != previous then operations ++ [.upsert document]
              else operations)
        | .error fault => .error fault
      else
        match read : nextExisting source with
        | .ok (existing, source) =>
            reconcileLoop forceRebuild (document :: later) existing source
              (operations ++ [.delete previous.id])
        | .error fault => .error fault
  | document :: later, none => .ok (operations ++ (document :: later).map .upsert)
  | [], some stale =>
      match read : nextExisting source with
      | .ok (existing, source) =>
          reconcileLoop forceRebuild [] existing source (operations ++ [.delete stale.id])
      | .error fault => .error fault
  | [], none => .ok operations
termination_by ahead target existing source
decreasing_by
  · exact Nat.add_lt_add_right (Nat.lt_succ_self _) _
  · exact ahead_of_nextExisting read (Nat.le_succ _)
  · exact ahead_of_nextExisting read le_rfl
  · exact ahead_of_nextExisting read le_rfl

/-- The second of the first two neighbours that are not strictly ordered. -/
def firstUnordered : List SearchDocument → Option SearchDocument
  | first :: second :: rest =>
      if first.id ≥ second.id then some second else firstUnordered (second :: rest)
  | _ => none

/-- `reconcile_sorted_search_documents`: the operations, the number of target documents and how
many of them are truncated. -/
def reconcileSortedSearchDocuments [Crates] (targetDocuments : List SearchDocument)
    (forceRebuild : Bool) (source : RowSource) :
    Except ReconcileFault (List SearchIndexOperation × Nat × Nat) :=
  match firstUnordered targetDocuments with
  | some document =>
      .error (.io ("search projection target ids are not strictly ordered at " ++
        debugStr document.id))
  | none => do
      let (existing, source) ← nextExisting source
      let operations ← reconcileLoop forceRebuild targetDocuments existing source []
      return (operations, targetDocuments.length,
        (targetDocuments.filter SearchDocument.contentTruncated).length)

section Loop

/-- All rows of a source, or how the reading of them failed. -/
def readAll : RowSource → Except ReconcileFault (List SearchDocument)
  | [] => .ok []
  | .ok row :: rest => (row :: ·) <$> readAll rest
  | .error error :: _ => .error (.source error)

def readFrom (existing : Option SearchDocument) (source : RowSource) :
    Except ReconcileFault (List SearchDocument) :=
  match existing with
  | some row => (row :: ·) <$> readAll source
  | none => .ok []

theorem readFrom_some {source : RowSource} {row : SearchDocument} :
    readFrom (some row) source =
      (nextExisting source).bind fun next => (row :: ·) <$> readFrom next.1 next.2 := by
  cases source with
  | nil => rfl
  | cons outcome source => cases outcome <;> rfl

variable {forceRebuild : Bool} {document previous stale : SearchDocument}
  {target later : List SearchDocument} {existing : Option SearchDocument} {source : RowSource}
  {operations : List SearchIndexOperation}

theorem reconcileLoop_level (below : ¬document.id < previous.id)
    (level : document.id = previous.id) :
    reconcileLoop forceRebuild (document :: later) (some previous) source operations =
      (nextExisting source).bind fun next =>
        reconcileLoop forceRebuild later next.1 next.2
          (if forceRebuild || document != previous then operations ++ [.upsert document]
          else operations) := by
  rw [reconcileLoop, if_neg below, if_pos level]
  split
  · rename_i read
    rw [read]
    rfl
  · rename_i read
    rw [read]
    rfl

theorem reconcileLoop_above (below : ¬document.id < previous.id)
    (level : ¬document.id = previous.id) :
    reconcileLoop forceRebuild (document :: later) (some previous) source operations =
      (nextExisting source).bind fun next =>
        reconcileLoop forceRebuild (document :: later) next.1 next.2
          (operations ++ [.delete previous.id]) := by
  rw [reconcileLoop, if_neg below, if_neg level]
  split
  · rename_i read
    rw [read]
    rfl
  · rename_i read
    rw [read]
    rfl

theorem reconcileLoop_stale :
    reconcileLoop forceRebuild [] (some stale) source operations =
      (nextExisting source).bind fun next =>
        reconcileLoop forceRebuild [] next.1 next.2 (operations ++ [.delete stale.id]) := by
  rw [reconcileLoop]
  split
  · rename_i read
    rw [read]
    rfl
  · rename_i read
    rw [read]
    rfl

/-- An existing document stays under an equal one, unless all are to be written. -/
def keeps (forceRebuild : Bool) (document previous : SearchDocument) : Bool :=
  !(forceRebuild || document != previous)

/-- The operations for the difference of documents and rows. -/
def differing (forceRebuild : Bool) (target rows : List SearchDocument) :
    List SearchIndexOperation :=
  (diff SearchDocument.id (keeps forceRebuild) target rows).map .ofEdit

theorem differing_below {rows : List SearchDocument} (below : document.id < previous.id) :
    differing forceRebuild (document :: later) (previous :: rows) =
      .upsert document :: differing forceRebuild later (previous :: rows) := by
  unfold differing
  rw [diff, if_pos below]
  rfl

theorem differing_above {rows : List SearchDocument} (below : ¬document.id < previous.id)
    (level : ¬document.id = previous.id) :
    differing forceRebuild (document :: later) (previous :: rows) =
      .delete previous.id :: differing forceRebuild (document :: later) rows := by
  have above : previous.id < document.id := lt_of_le_of_ne (not_lt.mp below) (Ne.symm level)
  unfold differing
  rw [diff, if_neg below, if_pos above]
  rfl

theorem differing_level {rows : List SearchDocument} (level : document.id = previous.id) :
    differing forceRebuild (document :: later) (previous :: rows) =
      if forceRebuild || document != previous then
        .upsert document :: differing forceRebuild later rows
      else differing forceRebuild later rows := by
  unfold differing
  rw [diff, if_neg level.not_lt, if_neg level.not_gt]
  unfold keeps
  cases forceRebuild || document != previous <;> rfl

theorem differing_nil (nonempty : target ≠ []) :
    differing forceRebuild target [] = target.map .upsert := by
  unfold differing
  rw [diff, List.map_map]
  · rfl
  · exact nonempty

/-- **The loop collects the difference** of the target and the rows that remain, or fails as the
reading of them does. -/
theorem reconcileLoop_eq :
    reconcileLoop forceRebuild target existing source operations =
      (readFrom existing source).map (operations ++ differing forceRebuild target ·) := by
  induction target, existing, source, operations using reconcileLoop.induct forceRebuild with
  | case1 source operations document later previous below ih =>
      rw [reconcileLoop, if_pos below, ih, readFrom_some]
      cases nextExisting source with
      | error fault => rfl
      | ok next =>
          dsimp only [Except.bind]
          cases readFrom next.1 next.2 with
          | error fault => rfl
          | ok rows =>
              dsimp only [Functor.map, Except.map]
              rw [differing_below below, List.append_assoc, List.singleton_append]
  | case2 source operations document later previous below level existing rest read ih =>
      rw [dite_eq_ite] at ih
      rw [reconcileLoop_level below level, readFrom_some, read]
      dsimp only [Except.bind]
      rw [ih]
      cases readFrom existing rest with
      | error fault => rfl
      | ok rows =>
          dsimp only [Functor.map, Except.map]
          rw [differing_level level]
          split
          · rw [List.append_assoc, List.singleton_append]
          · rfl
  | case3 source operations document later previous below level fault read =>
      rw [reconcileLoop_level below level, readFrom_some, read]
      rfl
  | case4 source operations document later previous below level existing rest read ih =>
      rw [reconcileLoop_above below level, readFrom_some, read]
      dsimp only [Except.bind]
      rw [ih]
      cases readFrom existing rest with
      | error fault => rfl
      | ok rows =>
          dsimp only [Functor.map, Except.map]
          rw [differing_above below level, List.append_assoc, List.singleton_append]
  | case5 source operations document later previous below level fault read =>
      rw [reconcileLoop_above below level, readFrom_some, read]
      rfl
  | case6 source operations document later =>
      rw [reconcileLoop, readFrom]
      dsimp only [Except.map]
      rw [differing_nil]
      exact List.cons_ne_nil document later
  | case7 source operations stale existing rest read ih =>
      rw [reconcileLoop_stale, readFrom_some, read]
      dsimp only [Except.bind]
      rw [ih]
      cases readFrom existing rest with
      | error fault => rfl
      | ok rows =>
          dsimp only [Functor.map, Except.map]
          rw [List.append_assoc, List.singleton_append]
          unfold differing
          rw [diff, diff]
          rfl
  | case8 source operations stale fault read =>
      rw [reconcileLoop_stale, readFrom_some, read]
      rfl
  | case9 source operations =>
      rw [reconcileLoop, readFrom]
      dsimp only [Except.map]
      unfold differing
      rw [diff, List.map_nil, List.map_nil, List.append_nil]

end Loop

section Exact

/-- What the operations are, for a target and the rows that stood. -/
structure ReconcileExact (forceRebuild : Bool) (target rows : List SearchDocument)
    (operations : List SearchIndexOperation) : Prop where
  /-- Applied in order to the rows they leave the target. -/
  applied : operations.foldl SearchIndexOperation.apply (rowsOf SearchDocument.id rows) =
    rowsOf SearchDocument.id target
  /-- What is written are the target's documents that do not stand already, or all of them. -/
  upserts : ∀ document, .upsert document ∈ operations ↔
    document ∈ target ∧ (forceRebuild = true ∨ document ∉ rows)
  /-- What is deleted are the rows the target has no document for. -/
  deletes : ∀ id, .delete id ∈ operations ↔
    (∃ row ∈ rows, row.id = id) ∧ ∀ document ∈ target, document.id ≠ id
  /-- Each id occurs at most once, in ascending order. -/
  ascending : operations.Pairwise fun first second => first.target < second.target

variable {forceRebuild : Bool} {target rows : List SearchDocument} {source : RowSource}

theorem target_ofEdit (edit : Edit SearchDocument String) :
    (SearchIndexOperation.ofEdit edit).target = edit.target SearchDocument.id := by
  cases edit <;> rfl

theorem apply_ofEdit (before : String → Option SearchDocument)
    (edit : Edit SearchDocument String) :
    SearchIndexOperation.apply before (.ofEdit edit) = edit.apply SearchDocument.id before := by
  cases edit <;> rfl

theorem keeps_eq_true {document previous : SearchDocument}
    (kept : keeps forceRebuild document previous = true) : document = previous := by
  unfold keeps at kept
  cases forceRebuild with
  | true => cases kept
  | false => simpa using kept

theorem upsert_mem_ofEdit {edits : List (Edit SearchDocument String)} {document : SearchDocument} :
    .upsert document ∈ edits.map SearchIndexOperation.ofEdit ↔ .put document ∈ edits := by
  rw [List.mem_map]
  constructor
  · rintro ⟨edit, member, same⟩
    cases edit with
    | put value =>
        cases same
        exact member
    | drop id => cases same
  · exact fun member => ⟨_, member, rfl⟩

theorem delete_mem_ofEdit {edits : List (Edit SearchDocument String)} {id : String} :
    .delete id ∈ edits.map SearchIndexOperation.ofEdit ↔ .drop id ∈ edits := by
  rw [List.mem_map]
  constructor
  · rintro ⟨edit, member, same⟩
    cases edit with
    | put value => cases same
    | drop dropped =>
        cases same
        exact member
  · exact fun member => ⟨_, member, rfl⟩

theorem reconcileExact_differing (ordered : Ascending SearchDocument.id target)
    (sorted : Ascending SearchDocument.id rows) :
    ReconcileExact forceRebuild target rows (differing forceRebuild target rows) where
  applied := by
    unfold differing
    rw [List.foldl_map]
    simp only [apply_ofEdit]
    exact foldl_diff ordered sorted fun document previous => keeps_eq_true
  upserts := by
    intro document
    unfold differing
    rw [upsert_mem_ofEdit, mem_diff ordered sorted]
    refine and_congr_right fun listed => ?_
    constructor
    · intro unkept
      by_contra kept
      rw [not_or, not_not] at kept
      have stays := unkept document kept.2 rfl
      unfold keeps at stays
      rw [Bool.eq_false_iff.mpr kept.1, bne_self_eq_false] at stays
      cases stays
    · intro written row member level
      rw [← Bool.not_eq_true]
      intro kept
      rcases written with all | absent
      · rw [all] at kept
        cases kept
      · exact absent (keeps_eq_true kept ▸ member)
  deletes := by
    intro id
    unfold differing
    rw [delete_mem_ofEdit, mem_diff ordered sorted]
    rfl
  ascending := by
    unfold differing
    rw [List.pairwise_map]
    refine (pairwise_diff ordered sorted).imp ?_
    intro first second before
    rw [target_ofEdit, target_ofEdit]
    exact before

theorem firstUnordered_eq_none_iff :
    firstUnordered target = none ↔ Ascending SearchDocument.id target := by
  unfold Ascending
  rw [← List.isChain_iff_pairwise]
  induction target using firstUnordered.induct with
  | case1 first second rest out =>
      rw [firstUnordered, if_pos out, List.isChain_cons_cons]
      exact iff_of_false nofun fun chain => out.not_gt chain.1
  | case2 first second rest out ih =>
      rw [firstUnordered, if_neg out, List.isChain_cons_cons, ih]
      exact (and_iff_right (not_le.mp out)).symm
  | case3 target short =>
      rw [firstUnordered]
      · refine iff_of_true rfl ?_
        match target with
        | [] => exact .nil
        | [document] => exact .singleton document
        | first :: second :: rest => exact (short first second rest rfl).elim
      · exact short

theorem neighbours_of_firstUnordered {document : SearchDocument}
    (found : firstUnordered target = some document) :
    ∃ before first after, target = before ++ first :: document :: after ∧
      document.id ≤ first.id := by
  induction target using firstUnordered.induct with
  | case1 first second rest out =>
      rw [firstUnordered, if_pos out] at found
      cases found
      exact ⟨[], first, rest, rfl, out⟩
  | case2 first second rest out ih =>
      rw [firstUnordered, if_neg out] at found
      obtain ⟨before, last, after, split, follows⟩ := ih found
      exact ⟨first :: before, last, after, congrArg (first :: ·) split, follows⟩
  | case3 target short =>
      rw [firstUnordered] at found
      · cases found
      · exact short

theorem readAll_ok : readAll (rows.map .ok) = .ok rows := by
  induction rows with
  | nil => rfl
  | cons row rest ih =>
      rw [List.map_cons, readAll, ih]
      rfl

theorem readAll_error {error : StoreError} {rest : RowSource} :
    readAll (rows.map .ok ++ .error error :: rest) = .error (.source error) := by
  induction rows with
  | nil => rfl
  | cons row later ih =>
      rw [List.map_cons, List.cons_append, readAll, ih]
      rfl

theorem readAll_eq : readAll source =
    (nextExisting source).bind fun next => readFrom next.1 next.2 := by
  cases source with
  | nil => rfl
  | cons outcome source => cases outcome <;> rfl

variable [Crates]

theorem reconcile_eq (ordered : Ascending SearchDocument.id target) :
    reconcileSortedSearchDocuments target forceRebuild source =
      (readAll source).map fun rows => (differing forceRebuild target rows, target.length,
        (target.filter SearchDocument.contentTruncated).length) := by
  unfold reconcileSortedSearchDocuments
  rw [firstUnordered_eq_none_iff.mpr ordered, readAll_eq]
  cases nextExisting source with
  | error fault => rfl
  | ok next =>
      dsimp only [Bind.bind, Except.bind]
      rw [reconcileLoop_eq]
      cases readFrom next.1 next.2 with
      | error fault => rfl
      | ok rows => rfl

/-- **The projection's difference is exact.** A target out of order is refused before a row is
read. For a target and rows in order the operations found take the rows to the target, each id at
most once; rows that cannot be read fail the whole. -/
theorem reconcile_exact (target : List SearchDocument) (forceRebuild : Bool) :
    (¬Ascending SearchDocument.id target →
      ∃ before first document after, target = before ++ first :: document :: after ∧
        document.id ≤ first.id ∧
        ∀ source, reconcileSortedSearchDocuments target forceRebuild source =
          .error (.io ("search projection target ids are not strictly ordered at " ++
            debugStr document.id))) ∧
    (Ascending SearchDocument.id target → ∀ rows, Ascending SearchDocument.id rows →
      (∃ operations,
        reconcileSortedSearchDocuments target forceRebuild (rows.map .ok) =
          .ok (operations, target.length,
            (target.filter SearchDocument.contentTruncated).length) ∧
        ReconcileExact forceRebuild target rows operations) ∧
      ∀ error rest,
        reconcileSortedSearchDocuments target forceRebuild (rows.map .ok ++ .error error :: rest) =
          .error (.source error)) := by
  constructor
  · intro unordered
    cases found : firstUnordered target with
    | none => exact absurd (firstUnordered_eq_none_iff.mp found) unordered
    | some document =>
        obtain ⟨before, first, after, split, follows⟩ := neighbours_of_firstUnordered found
        refine ⟨before, first, document, after, split, follows, fun source => ?_⟩
        unfold reconcileSortedSearchDocuments
        rw [found]
  · intro ordered rows sorted
    constructor
    · refine ⟨differing forceRebuild target rows, ?_, reconcileExact_differing ordered sorted⟩
      rw [reconcile_eq ordered, readAll_ok]
      rfl
    · intro error rest
      rw [reconcile_eq ordered, readAll_error]
      rfl

end Exact

open scoped Reference

def lawArticle (id : String) : SearchDocument :=
  ⟨id, .lawArticle, none, none, none, none, none, none, "", "", false, none, none, none, none,
    none, "", none⟩

/-- One document is added and one deleted; a list with a repeated id is refused. -/
theorem reconcile_exact_lawArticles :
    (∃ operations,
      reconcileSortedSearchDocuments [lawArticle "a"] false [.ok (lawArticle "b")] =
        .ok (operations, 1, 0) ∧
      ReconcileExact false [lawArticle "a"] [lawArticle "b"] operations) ∧
    ∃ message, reconcileSortedSearchDocuments [lawArticle "a", lawArticle "a"] false [] =
      .error (.io message) := by
  have single : ∀ id, Ascending SearchDocument.id [lawArticle id] := fun id =>
    List.pairwise_singleton _ _
  have repeated : ¬Ascending SearchDocument.id [lawArticle "a", lawArticle "a"] := fun sorted =>
    absurd (sorted.lt List.mem_cons_self) (lt_irrefl _)
  constructor
  · exact ((reconcile_exact [lawArticle "a"] false).2 (single "a") _ (single "b")).1
  · obtain ⟨before, first, document, after, split, follows, refused⟩ :=
      (reconcile_exact _ false).1 repeated
    exact ⟨_, refused []⟩

end Chancela
