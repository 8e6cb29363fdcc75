import Mathlib.Data.List.Sort
import Mathlib.Logic.Function.Basic
import Mathlib.Order.Lattice

/-! # The difference of two sorted lists

Two lists of values in ascending order of their keys are compared with a cursor in each. The
edits found take the rows of one list to those of the other, at most one for each key, and
none where the rows are the same.
-/

namespace Chancela.SortedDiff

universe u v

/-- A change of the rows of a keyed store. -/
inductive Edit (α : Type u) (K : Type v) where
  | put (value : α)
  | drop (id : K)

variable {α : Type u} {K : Type v} [LinearOrder K]

namespace Edit

def target (key : α → K) : Edit α K → K
  | put value => key value
  | drop id => id

def left : Edit α K → Option α
  | put value => some value
  | drop _ => none

def apply (key : α → K) (rows : K → Option α) (edit : Edit α K) : K → Option α :=
  Function.update rows (edit.target key) edit.left

end Edit

def rowsOf (key : α → K) (values : List α) (id : K) : Option α :=
  values.find? fun value => decide (key value = id)

def Ascending (key : α → K) (values : List α) : Prop :=
  values.Pairwise fun first second => key first < key second

/-- The edits that take the existing values to the wanted ones, where `keep` says which
existing value stays under a wanted one. -/
def diff (key : α → K) (keep : α → α → Bool) : List α → List α → List (Edit α K)
  | [], existing => existing.map fun row => .drop (key row)
  | wanted, [] => wanted.map .put
  | value :: later, row :: rest =>
      if key value < key row then .put value :: diff key keep later (row :: rest)
      else if key row < key value then .drop (key row) :: diff key keep (value :: later) rest
      else if keep value row then diff key keep later rest
      else .put value :: diff key keep later rest
termination_by wanted existing => wanted.length + existing.length

variable {key : α → K} {keep : α → α → Bool} {wanted existing : List α} {value row : α} {id : K}

theorem Ascending.tail (ascending : Ascending key (value :: wanted)) : Ascending key wanted :=
  (List.pairwise_cons.mp ascending).2

theorem Ascending.lt (ascending : Ascending key (value :: wanted)) {other : α}
    (member : other ∈ wanted) : key value < key other :=
  (List.pairwise_cons.mp ascending).1 other member

theorem mem_of_rowsOf (found : rowsOf key wanted id = some value) :
    value ∈ wanted ∧ key value = id := by
  have same := List.find?_some found
  exact ⟨List.mem_of_find?_eq_some found, of_decide_eq_true same⟩

theorem ne_of_rowsOf_eq_none (absent : rowsOf key wanted id = none) (member : value ∈ wanted) :
    key value ≠ id := by
  intro same
  exact List.find?_eq_none.mp absent value member (decide_eq_true same)

theorem rowsOf_eq_none (absent : ∀ value ∈ wanted, key value ≠ id) :
    rowsOf key wanted id = none :=
  List.find?_eq_none.mpr fun value member same => absent value member (of_decide_eq_true same)

theorem Ascending.rowsOf_of_mem (ascending : Ascending key wanted) (member : value ∈ wanted) :
    rowsOf key wanted (key value) = some value := by
  induction wanted with
  | nil => cases member
  | cons first rest ih =>
      unfold rowsOf
      rw [List.find?_cons]
      rcases List.mem_cons.mp member with rfl | later
      · rw [decide_eq_true rfl]
      · rw [decide_eq_false (ascending.lt later).ne]
        exact ih ascending.tail later

/-- What an edit of the difference is: a wanted value that no existing one stays for, or the key
of an existing value that is not wanted. -/
def Wanted (key : α → K) (keep : α → α → Bool) (wanted existing : List α) : Edit α K → Prop
  | .put value => value ∈ wanted ∧ ∀ row ∈ existing, key row = key value → keep value row = false
  | .drop id => (∃ row ∈ existing, key row = id) ∧ ∀ value ∈ wanted, key value ≠ id

/-- **The edits found are those wanted.** -/
theorem mem_diff (ascending : Ascending key wanted) (sorted : Ascending key existing)
    {edit : Edit α K} :
    edit ∈ diff key keep wanted existing ↔ Wanted key keep wanted existing edit := by
  induction wanted, existing using diff.induct key keep with
  | case1 existing =>
      rw [diff, List.mem_map]
      cases edit with
      | put value => simp [Wanted]
      | drop id => simp [Wanted]
  | case2 wanted nonempty =>
      rw [diff, List.mem_map]
      · cases edit with
        | put value => simp [Wanted]
        | drop id => simp [Wanted]
      · exact nonempty
  | case3 value later row rest below ih =>
      rw [diff, if_pos below, List.mem_cons, ih ascending.tail sorted]
      have absent : ∀ other ∈ row :: rest, key other ≠ key value := by
        intro other member
        rcases List.mem_cons.mp member with rfl | member
        · exact below.ne'
        · exact (below.trans (sorted.lt member)).ne'
      cases edit with
      | put other =>
          simp only [Wanted, Edit.put.injEq, List.mem_cons (b := value)]
          constructor
          · rintro (rfl | ⟨listed, unkept⟩)
            · exact ⟨.inl rfl, fun other member same => absurd same (absent other member)⟩
            · exact ⟨.inr listed, unkept⟩
          · rintro ⟨rfl | listed, unkept⟩
            · exact .inl rfl
            · exact .inr ⟨listed, unkept⟩
      | drop id =>
          simp only [Wanted, reduceCtorEq, false_or]
          refine and_congr_right fun ⟨other, member, same⟩ => ?_
          rw [List.forall_mem_cons]
          exact (and_iff_right (same ▸ (absent other member).symm)).symm
  | case4 value later row rest below above ih =>
      rw [diff, if_neg below, if_pos above, List.mem_cons, ih ascending sorted.tail]
      have unwanted : ∀ other ∈ value :: later, key other ≠ key row := by
        intro other member
        rcases List.mem_cons.mp member with rfl | member
        · exact above.ne'
        · exact (above.trans (ascending.lt member)).ne'
      cases edit with
      | put other =>
          simp only [Wanted, reduceCtorEq, false_or]
          refine and_congr_right fun member => ?_
          rw [List.forall_mem_cons]
          exact (and_iff_right fun same => absurd same.symm (unwanted other member)).symm
      | drop id =>
          simp only [Wanted, Edit.drop.injEq, List.exists_mem_cons_iff]
          constructor
          · rintro (rfl | ⟨old, absent⟩)
            · exact ⟨.inl rfl, unwanted⟩
            · exact ⟨.inr old, absent⟩
          · rintro ⟨rfl | old, absent⟩
            · exact .inl rfl
            · exact .inr ⟨old, absent⟩
  | case5 value later row rest below above kept ih =>
      have level : key value = key row := le_antisymm (not_lt.mp above) (not_lt.mp below)
      rw [diff, if_neg below, if_neg above, if_pos kept, ih ascending.tail sorted.tail]
      cases edit with
      | put other =>
          simp only [Wanted, List.mem_cons (b := value), List.forall_mem_cons]
          constructor
          · rintro ⟨listed, unkept⟩
            refine ⟨.inr listed, fun same => ?_, unkept⟩
            exact absurd (level.trans same) (ascending.lt listed).ne
          · rintro ⟨rfl | listed, first, unkept⟩
            · rw [first level.symm] at kept
              cases kept
            · exact ⟨listed, unkept⟩
      | drop id =>
          simp only [Wanted, List.forall_mem_cons, List.exists_mem_cons_iff]
          constructor
          · rintro ⟨⟨old, member, rfl⟩, absent⟩
            refine ⟨.inr ⟨old, member, rfl⟩, ?_, absent⟩
            exact level.trans_ne (sorted.lt member).ne
          · rintro ⟨same | old, first, absent⟩
            · exact absurd (level.trans same) first
            · exact ⟨old, absent⟩
  | case6 value later row rest below above replaced ih =>
      have level : key value = key row := le_antisymm (not_lt.mp above) (not_lt.mp below)
      rw [diff, if_neg below, if_neg above, if_neg replaced, List.mem_cons,
        ih ascending.tail sorted.tail]
      cases edit with
      | put other =>
          simp only [Wanted, Edit.put.injEq, List.mem_cons (b := value), List.forall_mem_cons]
          constructor
          · rintro (rfl | ⟨listed, unkept⟩)
            · refine ⟨.inl rfl, fun _ => Bool.eq_false_iff.mpr replaced, fun old member same => ?_⟩
              exact absurd (level.symm.trans same.symm) (sorted.lt member).ne
            · refine ⟨.inr listed, fun same => ?_, unkept⟩
              exact absurd (level.trans same) (ascending.lt listed).ne
          · rintro ⟨rfl | listed, first, unkept⟩
            · exact .inl rfl
            · exact .inr ⟨listed, unkept⟩
      | drop id =>
          simp only [Wanted, reduceCtorEq, false_or, List.forall_mem_cons,
            List.exists_mem_cons_iff]
          constructor
          · rintro ⟨⟨old, member, rfl⟩, absent⟩
            refine ⟨.inr ⟨old, member, rfl⟩, ?_, absent⟩
            exact level.trans_ne (sorted.lt member).ne
          · rintro ⟨same | old, first, absent⟩
            · exact absurd (level.trans same) first
            · exact ⟨old, absent⟩

theorem lt_target_of_mem_diff {bound : K} {edit : Edit α K} (ascending : Ascending key wanted)
    (sorted : Ascending key existing) (below : ∀ value ∈ wanted, bound < key value)
    (under : ∀ row ∈ existing, bound < key row)
    (member : edit ∈ diff key keep wanted existing) : bound < edit.target key := by
  have found := (mem_diff ascending sorted).mp member
  cases edit with
  | put value => exact below value found.1
  | drop id =>
      obtain ⟨row, listed, rfl⟩ := found.1
      exact under row listed

theorem pairwise_diff (ascending : Ascending key wanted) (sorted : Ascending key existing) :
    (diff key keep wanted existing).Pairwise fun first second =>
      first.target key < second.target key := by
  induction wanted, existing using diff.induct key keep with
  | case1 existing =>
      rw [diff, List.pairwise_map]
      exact sorted
  | case2 wanted nonempty =>
      rw [diff, List.pairwise_map]
      · exact ascending
      · exact nonempty
  | case3 value later row rest below ih =>
      rw [diff, if_pos below, List.pairwise_cons]
      refine ⟨fun edit => lt_target_of_mem_diff ascending.tail sorted (fun _ => ascending.lt) ?_,
        ih ascending.tail sorted⟩
      rw [List.forall_mem_cons]
      exact ⟨below, fun other member => below.trans (sorted.lt member)⟩
  | case4 value later row rest below above ih =>
      rw [diff, if_neg below, if_pos above, List.pairwise_cons]
      refine ⟨fun edit => lt_target_of_mem_diff ascending sorted.tail ?_ (fun _ => sorted.lt),
        ih ascending sorted.tail⟩
      rw [List.forall_mem_cons]
      exact ⟨above, fun other member => above.trans (ascending.lt member)⟩
  | case5 value later row rest below above kept ih =>
      rw [diff, if_neg below, if_neg above, if_pos kept]
      exact ih ascending.tail sorted.tail
  | case6 value later row rest below above replaced ih =>
      have level : key value = key row := le_antisymm (not_lt.mp above) (not_lt.mp below)
      rw [diff, if_neg below, if_neg above, if_neg replaced, List.pairwise_cons]
      refine ⟨fun edit => lt_target_of_mem_diff ascending.tail sorted.tail (fun _ => ascending.lt)
        (fun other member => ?_), ih ascending.tail sorted.tail⟩
      exact level.trans_lt (sorted.lt member)

theorem apply_foldl {edits : List (Edit α K)} {rows : K → Option α}
    (distinct : edits.Pairwise fun first second => first.target key < second.target key) :
    edits.foldl (Edit.apply key) rows id =
      (edits.find? fun edit => decide (edit.target key = id)).elim (rows id) Edit.left := by
  induction edits generalizing rows with
  | nil => rfl
  | cons first rest ih =>
      obtain ⟨before, distinct⟩ := List.pairwise_cons.mp distinct
      rw [List.foldl_cons, ih distinct, List.find?_cons]
      by_cases here : first.target key = id
      · have absent : (rest.find? fun edit => decide (edit.target key = id)) = none := by
          rw [List.find?_eq_none]
          intro edit member same
          exact (before edit member).ne (here.trans (of_decide_eq_true same).symm)
        rw [absent, decide_eq_true here, Edit.apply, here]
        exact Function.update_self ..
      · rw [decide_eq_false here, Edit.apply, Function.update_of_ne (Ne.symm here)]

/-- **The edits take the existing rows to those wanted.** -/
theorem foldl_diff (ascending : Ascending key wanted) (sorted : Ascending key existing)
    (same : ∀ value row, keep value row = true → value = row) :
    (diff key keep wanted existing).foldl (Edit.apply key) (rowsOf key existing) =
      rowsOf key wanted := by
  funext id
  rw [apply_foldl (pairwise_diff ascending sorted)]
  cases found : (diff key keep wanted existing).find? fun edit =>
      decide (edit.target key = id) with
  | some edit =>
      have about := List.find?_some found
      have here : edit.target key = id := of_decide_eq_true about
      have member := (mem_diff ascending sorted).mp (List.mem_of_find?_eq_some found)
      cases edit with
      | put value =>
          rw [← here]
          exact (ascending.rowsOf_of_mem member.1).symm
      | drop dropped =>
          rw [← here]
          exact (rowsOf_eq_none member.2).symm
  | none =>
      have untouched : ∀ edit ∈ diff key keep wanted existing, edit.target key ≠ id := by
        intro edit member here
        exact List.find?_eq_none.mp found edit member (decide_eq_true here)
      rw [Option.elim_none]
      cases held : rowsOf key wanted id with
      | some value =>
          obtain ⟨listed, rfl⟩ := mem_of_rowsOf held
          have kept : ∃ row ∈ existing, key row = key value ∧ keep value row = true := by
            by_contra none_
            apply untouched (.put value) ((mem_diff ascending sorted).mpr ⟨listed, ?_⟩) rfl
            intro row member level
            rw [← Bool.not_eq_true]
            exact fun kept => none_ ⟨row, member, level, kept⟩
          obtain ⟨row, member, level, kept⟩ := kept
          rw [same value row kept]
          exact sorted.rowsOf_of_mem member
      | none =>
          apply rowsOf_eq_none
          intro row member level
          have unwanted : ∀ value ∈ wanted, key value ≠ id := fun value listed =>
            ne_of_rowsOf_eq_none held listed
          exact untouched (.drop id)
            ((mem_diff ascending sorted).mpr ⟨⟨row, member, level⟩, unwanted⟩) rfl

/-! ## Rows kept in a list -/

/-- The rows after an edit, where they are kept in the order of their keys. -/
def Edit.write (key : α → K) (rows : List α) : Edit α K → List α
  | put value => rows.filter (key · < key value) ++ value :: rows.filter (key value < key ·)
  | drop id => rows.filter (key · ≠ id)

theorem Ascending.rowsOf_eq_some_iff (ascending : Ascending key wanted) :
    rowsOf key wanted id = some value ↔ value ∈ wanted ∧ key value = id := by
  refine ⟨mem_of_rowsOf, ?_⟩
  rintro ⟨member, rfl⟩
  exact ascending.rowsOf_of_mem member

theorem Ascending.eq_of_rowsOf (ascending : Ascending key wanted)
    (sorted : Ascending key existing) (same : rowsOf key wanted = rowsOf key existing) :
    wanted = existing := by
  have : Std.Irrefl fun a b : α => key a < key b := ⟨fun value => lt_irrefl (key value)⟩
  have : Std.Antisymm fun a b : α => key a < key b :=
    ⟨fun a b below above => absurd (below.trans above) (lt_irrefl (key a))⟩
  apply List.Pairwise.eq_of_mem_iff ascending sorted
  intro value
  have left : rowsOf key wanted (key value) = some value ↔ _ := ascending.rowsOf_eq_some_iff
  have right : rowsOf key existing (key value) = some value ↔ _ := sorted.rowsOf_eq_some_iff
  rw [and_iff_left rfl] at left right
  rw [← left, ← right, same]

theorem Ascending.write (sorted : Ascending key existing) (edit : Edit α K) :
    Ascending key (edit.write key existing) := by
  cases edit with
  | drop id => exact sorted.filter _
  | put value =>
      refine List.pairwise_append.mpr ⟨sorted.filter _, ?_, ?_⟩
      · refine List.pairwise_cons.mpr ⟨fun row member => ?_, sorted.filter _⟩
        exact of_decide_eq_true (List.mem_filter.mp member).2
      · intro row before other member
        have below := of_decide_eq_true (List.mem_filter.mp before).2
        rcases List.mem_cons.mp member with rfl | after
        · exact below
        · exact below.trans (of_decide_eq_true (List.mem_filter.mp after).2)

theorem Ascending.rowsOf_write (sorted : Ascending key existing) (edit : Edit α K) :
    rowsOf key (edit.write key existing) = edit.apply key (rowsOf key existing) := by
  funext id
  ext row
  rw [(sorted.write edit).rowsOf_eq_some_iff, Edit.apply, Function.update_apply]
  cases edit with
  | drop dropped =>
      rw [Edit.write, Edit.target, Edit.left, List.mem_filter, decide_eq_true_eq]
      split
      · next here => exact iff_of_false (fun both => both.1.2 (both.2.trans here)) nofun
      · next apart =>
          rw [sorted.rowsOf_eq_some_iff]
          exact ⟨fun both => ⟨both.1.1, both.2⟩, fun both => ⟨⟨both.1, both.2 ▸ apart⟩, both.2⟩⟩
  | put value =>
      rw [Edit.write, Edit.target, Edit.left, List.mem_append, List.mem_cons, List.mem_filter,
        List.mem_filter, decide_eq_true_eq, decide_eq_true_eq]
      split
      · next here =>
          constructor
          · rintro ⟨⟨-, below⟩ | rfl | ⟨-, above⟩, located⟩
            · exact (below.ne (located.trans here)).elim
            · rfl
            · exact (above.ne (located.trans here).symm).elim
          · rintro ⟨⟩
            exact ⟨.inr (.inl rfl), here.symm⟩
      · next apart =>
          rw [sorted.rowsOf_eq_some_iff]
          constructor
          · rintro ⟨⟨member, -⟩ | rfl | ⟨member, -⟩, located⟩
            · exact ⟨member, located⟩
            · exact (apart located.symm).elim
            · exact ⟨member, located⟩
          · rintro ⟨member, rfl⟩
            rcases lt_or_gt_of_ne apart with below | above
            · exact ⟨.inl ⟨member, below⟩, rfl⟩
            · exact ⟨.inr (.inr ⟨member, above⟩), rfl⟩

/-- **The edits take the list of the existing rows to the list of those wanted.** -/
theorem foldl_write_diff (ascending : Ascending key wanted) (sorted : Ascending key existing)
    (same : ∀ value row, keep value row = true → value = row) :
    (diff key keep wanted existing).foldl (Edit.write key) existing = wanted := by
  have follows : ∀ (edits : List (Edit α K)) (rows : List α), Ascending key rows →
      Ascending key (edits.foldl (Edit.write key) rows) ∧
        rowsOf key (edits.foldl (Edit.write key) rows) =
          edits.foldl (Edit.apply key) (rowsOf key rows) := by
    intro edits
    induction edits with
    | nil => exact fun rows sorted => ⟨sorted, rfl⟩
    | cons edit rest ih =>
        intro rows sorted
        obtain ⟨still, found⟩ := ih _ (sorted.write edit)
        rw [sorted.rowsOf_write edit] at found
        exact ⟨still, found⟩
  obtain ⟨still, found⟩ := follows (diff key keep wanted existing) existing sorted
  exact still.eq_of_rowsOf ascending (found.trans (foldl_diff ascending sorted same))

end Chancela.SortedDiff
