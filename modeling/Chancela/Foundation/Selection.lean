import Mathlib.Data.Finset.Sort
import Mathlib.Data.List.Induction
import Mathlib.Data.List.Sort
import Mathlib.Data.List.TakeWhile

/-! # Bounded selection

The best `limit` items of a stream, kept in a priority queue that gives up its worst
item for a better one. The queue is the sorted list of its items. What it holds at the
end is the beginning of the sorted stream (`Chancela.Selection.foldl_offer`).
-/

namespace Chancela.Selection

variable {α K : Type*} [LinearOrder K] (rank : α → K)

def sortBy (items : List α) : List α :=
  items.insertionSort fun first second => rank first ≤ rank second

def push (queue : List α) (item : α) : List α :=
  queue.orderedInsert (fun first second => rank first ≤ rank second) item

/-- An item offered to a queue that holds at most `limit`. -/
def offer (limit : Nat) (queue : List α) (item : α) : List α :=
  if queue.length < limit then push rank queue item
  else match queue.getLast? with
    | some worst => if rank item < rank worst then push rank queue.dropLast item else queue
    | none => queue

def Ranked (items : List α) : Prop :=
  items.Pairwise fun first second => rank first ≤ rank second

instance isTransRank : IsTrans α fun first second => rank first ≤ rank second :=
  ⟨fun _ _ _ => le_trans⟩

instance totalRank : Std.Total fun first second : α => rank first ≤ rank second :=
  ⟨fun first second => le_total (rank first) (rank second)⟩

theorem ranked_sortBy (items : List α) : Ranked rank (sortBy rank items) :=
  List.pairwise_insertionSort _ items

theorem sortBy_perm (items : List α) : (sortBy rank items).Perm items :=
  List.perm_insertionSort _ items

theorem sortBy_map {β : Type*} (f : β → α) (items : List β) :
    sortBy rank (items.map f) = (sortBy (fun item => rank (f item)) items).map f :=
  (List.map_insertionSort _ _ f items fun _ _ _ _ => Iff.rfl).symm

theorem sortBy_congr {rank other : α → K} {items : List α}
    (same : ∀ item ∈ items, rank item = other item) : sortBy rank items = sortBy other items := by
  have mapped := List.map_insertionSort (fun first second => rank first ≤ rank second)
    (fun first second => other first ≤ other second) id items
    fun first inside second inside' => by rw [same first inside, same second inside']; rfl
  rw [List.map_id, List.map_id] at mapped
  exact mapped

variable {rank}

theorem Ranked.sortBy_eq {items : List α} (ranked : Ranked rank items) :
    sortBy rank items = items :=
  List.Pairwise.insertionSort_eq ranked

variable {first second : List α}

theorem Ranked.eq_of_perm (ranked : Ranked rank first) (other : Ranked rank second)
    (same : first.Perm second) (apart : ∀ a ∈ first, ∀ b ∈ first, rank a = rank b → a = b) :
    first = second := by
  refine same.eq_of_pairwise ?_ ranked other
  intro a b inFirst inSecond below above
  exact apart a inFirst b (same.mem_iff.mpr inSecond) (le_antisymm below above)

theorem sortBy_eq_of_perm (same : first.Perm second)
    (apart : ∀ a ∈ first, ∀ b ∈ first, rank a = rank b → a = b) :
    sortBy rank first = sortBy rank second := by
  apply (ranked_sortBy rank first).eq_of_perm (ranked_sortBy rank second)
  · exact (sortBy_perm rank first).trans (same.trans (sortBy_perm rank second).symm)
  · intro a inFirst b inFirst'
    exact apart a ((sortBy_perm rank first).mem_iff.mp inFirst) b
      ((sortBy_perm rank first).mem_iff.mp inFirst')

theorem pairwise_lt_sortBy {items : List α} (distinct : items.Nodup)
    (apart : ∀ a ∈ items, ∀ b ∈ items, rank a = rank b → a = b) :
    (sortBy rank items).Pairwise fun first second => rank first < rank second := by
  have nodup : (sortBy rank items).Nodup := (sortBy_perm rank items).nodup_iff.mpr distinct
  refine ((ranked_sortBy rank items).and nodup).imp_of_mem fun {first second} here here' both => ?_
  refine lt_of_le_of_ne both.1 fun same => both.2 ?_
  exact apart first ((sortBy_perm rank items).mem_iff.mp here) second
    ((sortBy_perm rank items).mem_iff.mp here') same

theorem filter_sortBy (items : List α) (k : K) :
    (sortBy rank items).filter (fun item => rank item = k) =
      items.filter fun item => rank item = k := by
  induction items with
  | nil => rfl
  | cons item rest ih =>
      have inserted : sortBy rank (item :: rest) =
          (sortBy rank rest).takeWhile (fun other => ¬rank item ≤ rank other) ++
            item :: (sortBy rank rest).dropWhile fun other => ¬rank item ≤ rank other :=
        List.orderedInsert_eq_take_drop _ item _
      have whole : (sortBy rank rest).filter (fun other => rank other = k) =
          ((sortBy rank rest).takeWhile fun other => ¬rank item ≤ rank other).filter
              (fun other => rank other = k) ++
            ((sortBy rank rest).dropWhile fun other => ¬rank item ≤ rank other).filter
              fun other => rank other = k := by
        rw [← List.filter_append, List.takeWhile_append_dropWhile]
      rw [inserted, List.filter_append, List.filter_cons, List.filter_cons, ← ih, whole]
      by_cases chosen : rank item = k
      · -- What stands before the item ranks below it.
        have nothing : ((sortBy rank rest).takeWhile fun other => ¬rank item ≤ rank other).filter
            (fun other => rank other = k) = [] := by
          rw [List.filter_eq_nil_iff]
          intro other member same
          have below := List.mem_takeWhile_imp member
          simp only [decide_eq_true_eq] at below same
          rw [chosen, same] at below
          exact below le_rfl
        rw [nothing]
        simp [chosen]
      · simp [chosen]

theorem Ranked.eq_of_filter (ranked : Ranked rank first) (other : Ranked rank second)
    (same : ∀ k, first.filter (fun item => rank item = k) = second.filter fun item => rank item = k) :
    first = second := by
  have inside : ∀ {item}, item ∈ first ↔ item ∈ second := by
    intro item
    have here := congrArg (item ∈ ·) (same (rank item))
    simpa using here
  induction first generalizing second with
  | nil =>
      refine (List.eq_nil_iff_forall_not_mem.mpr fun item member => ?_).symm
      exact List.not_mem_nil (inside.mpr member)
  | cons a first ih =>
      cases second with
      | nil => exact absurd (inside.mp List.mem_cons_self) List.not_mem_nil
      | cons b second =>
          have firstRanked := List.pairwise_cons.mp ranked
          have secondRanked := List.pairwise_cons.mp other
          have level : rank a = rank b := by
            apply le_antisymm
            · rcases List.mem_cons.mp (inside.mpr List.mem_cons_self) with rfl | later
              · exact le_rfl
              · exact firstRanked.1 b later
            · rcases List.mem_cons.mp (inside.mp List.mem_cons_self) with rfl | later
              · exact le_rfl
              · exact secondRanked.1 a later
          have heads := same (rank a)
          rw [List.filter_cons_of_pos (by simp), List.filter_cons_of_pos (by simp [level])] at heads
          obtain rfl := (List.cons.inj heads).1
          have tails : ∀ k, first.filter (fun item => rank item = k) =
              second.filter fun item => rank item = k := by
            intro k
            have here := same k
            by_cases chosen : rank a = k
            · rw [List.filter_cons_of_pos (by simp [chosen]),
                List.filter_cons_of_pos (by simp [chosen])] at here
              exact (List.cons.inj here).2
            · rwa [List.filter_cons_of_neg (by simp [chosen]),
                List.filter_cons_of_neg (by simp [chosen])] at here
          refine congrArg (a :: ·) (ih firstRanked.2 secondRanked.2 tails ?_)
          intro item
          have here := congrArg (item ∈ ·) (tails (rank item))
          simpa using here

theorem sortBy_eq_of_filter {other : α → K} (same : ∀ k, first.filter (fun item => rank item = k) =
      second.filter fun item => other item = k) : sortBy rank first = sortBy other second := by
  have ranks : ∀ item ∈ second, rank item = other item := by
    intro item member
    have inside : item ∈ second.filter fun entry => other entry = other item := by
      simpa using member
    rw [← same] at inside
    simpa using (List.mem_filter.mp inside).2
  rw [← sortBy_congr ranks]
  apply (ranked_sortBy rank first).eq_of_filter (ranked_sortBy rank second)
  intro k
  rw [filter_sortBy, filter_sortBy, same]
  apply List.filter_congr
  intro item member
  rw [ranks item member]

theorem Ranked.push {queue : List α} (ranked : Ranked rank queue) (item : α) :
    Ranked rank (push rank queue item) :=
  List.Pairwise.orderedInsert item queue ranked

theorem push_perm (queue : List α) (item : α) : (push rank queue item).Perm (item :: queue) :=
  List.perm_orderedInsert _ item queue

theorem length_push (queue : List α) (item : α) :
    (push rank queue item).length = queue.length + 1 :=
  (push_perm queue item).length_eq

/-- A queue holds the best of what it was offered: the rest ranks no better, and there is
a rest only behind a full queue. -/
structure Holds (rank : α → K) (limit : Nat) (offered queue : List α) : Prop where
  ranked : Ranked rank queue
  bounded : queue.length ≤ limit
  best : ∃ rest, offered.Perm (queue ++ rest) ∧ (∀ a ∈ queue, ∀ b ∈ rest, rank a ≤ rank b) ∧
    (rest ≠ [] → queue.length = limit)

theorem Holds.nil (limit : Nat) : Holds rank limit [] [] where
  ranked := List.Pairwise.nil
  bounded := Nat.zero_le limit
  best := ⟨[], List.Perm.refl _, (fun _ member => nomatch member),
    fun nonempty => absurd rfl nonempty⟩

theorem Holds.offer {limit : Nat} {offered queue : List α} (holds : Holds rank limit offered queue)
    (item : α) : Holds rank limit (offered ++ [item]) (offer rank limit queue item) := by
  obtain ⟨rest, split, better, full⟩ := holds.best
  have grown : (offered ++ [item]).Perm (item :: (queue ++ rest)) :=
    List.perm_append_comm.trans (split.cons item)
  by_cases room : queue.length < limit
  · -- There is no rest yet, and the item joins the queue.
    have empty : rest = [] := by
      by_contra nonempty
      have equal := full nonempty
      omega
    subst empty
    rw [Selection.offer, if_pos room]
    refine ⟨holds.ranked.push item, ?_, [], ?_, (fun _ _ _ member => nomatch member),
      fun nonempty => absurd rfl nonempty⟩
    · rw [length_push]
      omega
    · rw [List.append_nil] at grown ⊢
      exact grown.trans (push_perm queue item).symm
  · have atLimit : queue.length = limit := by
      have bounded := holds.bounded
      omega
    rw [Selection.offer, if_neg room]
    cases queue using List.reverseRecOn with
    | nil =>
        exact ⟨holds.ranked, holds.bounded, item :: rest, grown,
          (fun _ member => nomatch member), fun _ => atLimit⟩
    | append_singleton front worst =>
        rw [List.getLast?_concat]
        have parts := List.pairwise_append.mp holds.ranked
        have worstOf : ∀ a ∈ front, rank a ≤ rank worst := fun a member =>
          parts.2.2 a member worst (List.mem_singleton_self worst)
        have worstRest : ∀ b ∈ rest, rank worst ≤ rank b :=
          better worst (List.mem_append_right front (List.mem_singleton_self worst))
        by_cases improves : rank item < rank worst
        · simp only [improves, ↓reduceIte, List.dropLast_concat]
          refine ⟨Ranked.push parts.1 item, ?_, worst :: rest, ?_, ?_, ?_⟩
          · rw [length_push]
            rw [List.length_append, List.length_singleton] at atLimit
            omega
          · refine grown.trans ?_
            rw [List.append_assoc, List.singleton_append]
            exact (push_perm front item).symm.append_right (worst :: rest)
          · intro a inQueue b inRest
            have below : rank a ≤ rank worst := by
              rcases List.mem_cons.mp ((push_perm front item).mem_iff.mp inQueue) with rfl | old
              · exact improves.le
              · exact worstOf a old
            rcases List.mem_cons.mp inRest with rfl | later
            · exact below
            · exact below.trans (worstRest b later)
          · intro _
            rw [length_push]
            rw [List.length_append, List.length_singleton] at atLimit
            omega
        · simp only [improves, ↓reduceIte]
          refine ⟨holds.ranked, holds.bounded, item :: rest, ?_, ?_, fun _ => atLimit⟩
          · exact grown.trans List.perm_middle.symm
          · intro a inQueue b inRest
            rcases List.mem_cons.mp inRest with rfl | later
            · have below : rank a ≤ rank worst := by
                rcases List.mem_append.mp inQueue with old | last
                · exact worstOf a old
                · rw [List.mem_singleton.mp last]
              exact below.trans (not_lt.mp improves)
            · exact better a inQueue b later

/-- **The queue is the beginning of the sorted stream.** -/
theorem foldl_offer (limit : Nat) (items : List α)
    (apart : ∀ a ∈ items, ∀ b ∈ items, rank a = rank b → a = b) :
    items.foldl (offer rank limit) [] = (sortBy rank items).take limit := by
  have holds : Holds rank limit items (items.foldl (offer rank limit) []) := by
    clear apart
    induction items using List.reverseRecOn with
    | nil => exact Holds.nil limit
    | append_singleton before item ih =>
        rw [List.foldl_append]
        exact ih.offer item
  obtain ⟨rest, split, better, full⟩ := holds.best
  have whole : Ranked rank (items.foldl (offer rank limit) [] ++ sortBy rank rest) := by
    refine List.pairwise_append.mpr ⟨holds.ranked, ranked_sortBy rank rest, ?_⟩
    intro a inQueue b inRest
    exact better a inQueue b ((sortBy_perm rank rest).mem_iff.mp inRest)
  have sorted : sortBy rank items = items.foldl (offer rank limit) [] ++ sortBy rank rest := by
    refine (ranked_sortBy rank items).eq_of_perm whole ?_ ?_
    · exact (sortBy_perm rank items).trans
        (split.trans ((sortBy_perm rank rest).symm.append_left _))
    · intro a member b member'
      exact apart a ((sortBy_perm rank items).mem_iff.mp member) b
        ((sortBy_perm rank items).mem_iff.mp member')
  rw [sorted]
  by_cases empty : rest = []
  · subst empty
    rw [show sortBy rank ([] : List α) = [] from rfl, List.append_nil,
      List.take_of_length_le holds.bounded]
  · rw [List.take_left' (full empty)]

theorem filterMap_sort {β : Type*} {small large : Finset K} {pick : K → Option β}
    (inside : small ⊆ large) (nothing : ∀ item ∈ large, item ∉ small → pick item = none) :
    large.sort.filterMap pick = small.sort.filterMap pick := by
  have kept : large.sort.filter (· ∈ small) = small.sort := by
    have nodup : (large.sort.filter (· ∈ small)).Nodup := (Finset.sort_nodup large _).filter _
    have sorted : (large.sort.filter (· ∈ small)).Pairwise (· ≤ ·) :=
      (Finset.pairwise_sort large _).filter _
    have members : (large.sort.filter (· ∈ small)).toFinset = small := by
      ext item
      simp only [List.mem_toFinset, List.mem_filter, Finset.mem_sort, decide_eq_true_eq,
        and_iff_right_iff_imp]
      exact fun member => inside member
    have same := (List.toFinset_sort _ nodup).mpr sorted
    rw [members] at same
    exact same.symm
  rw [← kept, List.filterMap_filter]
  apply List.filterMap_congr
  intro item member
  by_cases chosen : item ∈ small
  · simp [chosen]
  · simp [chosen, nothing item ((Finset.mem_sort _).mp member) chosen]

end Chancela.Selection
