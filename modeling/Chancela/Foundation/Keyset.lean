import Mathlib.Data.List.Basic

/-! # Keyset pagination

A collection in order is read in pages, each with the rows after a mark, and the mark of the
next page is the position of the last row. The collection may change between the pages. A visit
sees its rows in order (`Chancela.Keyset.pairwise_visit`); one that comes to an end has seen every
row that was there throughout (`Chancela.Keyset.mem_visit`), and one of a collection that does not
change comes to an end with all of it (`Chancela.Keyset.visit_replicate`).
-/

namespace Chancela.Keyset

variable {ρ κ : Type*} (before : κ → κ → Prop) [DecidableRel before] (position : ρ → κ)

def Ordered (rows : List ρ) : Prop :=
  rows.Pairwise fun first second => before (position first) (position second)

def beyond (rows : List ρ) : Option κ → List ρ
  | none => rows
  | some mark => rows.filter fun row => before mark (position row)

/-- What was visited, the marks that were used for it, and whether the visit came to an end. -/
structure Visit (ρ κ : Type*) where
  items : List ρ
  marks : List κ
  finished : Bool

def lastOfPage (limit : Nat) (rows : List ρ) : Option ρ :=
  if limit < rows.length then (rows.take limit).getLast? else none

/-- A page from each snapshot of the collection, up to the last page. -/
def visit (limit : Nat) : List (List ρ) → Option κ → Visit ρ κ
  | [], _ => ⟨[], [], false⟩
  | rows :: later, mark =>
      let rest := beyond before position rows mark
      match lastOfPage limit rest with
      | none => ⟨rest.take limit, [], true⟩
      | some last =>
          let next := visit limit later (some (position last))
          ⟨rest.take limit ++ next.items, position last :: next.marks, next.finished⟩

variable {before position} {limit : Nat} {rows : List ρ}

theorem Ordered.beyond (ordered : Ordered before position rows) (mark : Option κ) :
    Ordered before position (beyond before position rows mark) := by
  cases mark with
  | none => exact ordered
  | some mark => exact List.Pairwise.filter _ ordered

theorem lastOfPage_eq_none_iff (positive : 0 < limit) :
    lastOfPage limit rows = none ↔ rows.length ≤ limit := by
  rw [lastOfPage]
  split
  · next long =>
      rw [List.getLast?_eq_none_iff, List.take_eq_nil_iff]
      refine iff_of_false ?_ (by omega)
      rintro (none_ | rfl)
      · omega
      · exact absurd long (by simp)
  · next short => exact iff_of_true rfl (by omega)

omit [DecidableRel before] in
theorem before_of_lastOfPage (ordered : Ordered before position rows) {last : ρ}
    (ended : lastOfPage limit rows = some last) :
    last ∈ rows.take limit ∧
      (∀ row ∈ rows.drop limit, before (position last) (position row)) ∧
      ∀ row ∈ rows.take limit, row = last ∨ before (position row) (position last) := by
  rw [lastOfPage] at ended
  split at ended
  · obtain ⟨front, split⟩ := List.getLast?_eq_some_iff.mp ended
    have member : last ∈ rows.take limit := by
      rw [split]
      exact List.mem_append_right _ List.mem_cons_self
    have parts : Ordered before position (rows.take limit ++ rows.drop limit) := by
      rwa [List.take_append_drop]
    obtain ⟨page, -, across⟩ := List.pairwise_append.mp parts
    refine ⟨member, fun row later => across last member row later, fun row inside => ?_⟩
    rw [split] at page inside
    rcases List.mem_append.mp inside with early | final
    · exact .inr ((List.pairwise_append.mp page).2.2 row early last List.mem_cons_self)
    · exact .inl (List.mem_singleton.mp final)
  · cases ended

theorem mem_beyond {mark : Option κ} {row : ρ} :
    row ∈ beyond before position rows mark ↔
      row ∈ rows ∧ ∀ place ∈ mark, before place (position row) := by
  cases mark <;> simp [beyond]

theorem beyond_sublist (before : κ → κ → Prop) [DecidableRel before] (position : ρ → κ)
    (rows : List ρ) (mark : Option κ) :
    (beyond before position rows mark).Sublist rows := by
  cases mark with
  | none => exact List.Sublist.refl rows
  | some mark => exact List.filter_sublist

theorem filter_beyond (keep : ρ → Bool) (rows : List ρ) (mark : Option κ) :
    (beyond before position rows mark).filter keep =
      beyond before position (rows.filter keep) mark := by
  cases mark with
  | none => rfl
  | some mark =>
      simp only [beyond, List.filter_filter, Bool.and_comm]

/-- **Rows are visited in order**, after the mark. -/
theorem pairwise_visit (trans : ∀ {first second third}, before first second →
      before second third → before first third) {snapshots : List (List ρ)}
    (ordered : ∀ rows ∈ snapshots, Ordered before position rows) (mark : Option κ) :
    Ordered before position (visit before position limit snapshots mark).items ∧
      ∀ row ∈ (visit before position limit snapshots mark).items,
        ∀ place ∈ mark, before place (position row) := by
  induction snapshots generalizing mark with
  | nil => exact ⟨List.Pairwise.nil, fun _ member => nomatch member⟩
  | cons rows later ih =>
      have here := (ordered rows List.mem_cons_self).beyond mark
      have taken : ∀ row ∈ (beyond before position rows mark).take limit,
          ∀ place ∈ mark, before place (position row) := fun row member =>
        (mem_beyond.mp (List.mem_of_mem_take member)).2
      have page : Ordered before position ((beyond before position rows mark).take limit) :=
        List.Pairwise.sublist (List.take_sublist _ _) here
      rw [visit]
      cases ended : lastOfPage limit (beyond before position rows mark) with
      | none => exact ⟨page, taken⟩
      | some last =>
          obtain ⟨inside, -, least⟩ := before_of_lastOfPage here ended
          obtain ⟨rest, after⟩ :=
            ih (fun rows member => ordered rows (List.mem_cons_of_mem _ member))
            (some (position last))
          have beyondLast :
              ∀ row ∈ (visit before position limit later (some (position last))).items,
              before (position last) (position row) := fun row member => after row member _ rfl
          refine ⟨List.pairwise_append.mpr ⟨page, rest, fun row early other late => ?_⟩, ?_⟩
          · rcases least row early with rfl | earlier
            · exact beyondLast other late
            · exact trans earlier (beyondLast other late)
          · intro row member place marked
            rcases List.mem_append.mp member with early | late
            · exact taken row early place marked
            · exact trans (taken last inside place marked) (beyondLast row late)

/-- **A row that is there throughout is visited**, if the visit comes to an end. -/
theorem mem_visit (positive : 0 < limit) {snapshots : List (List ρ)}
    (ordered : ∀ rows ∈ snapshots, Ordered before position rows) {mark : Option κ}
    (finished : (visit before position limit snapshots mark).finished = true) {row : ρ}
    (present : ∀ rows ∈ snapshots, row ∈ rows)
    (ahead : ∀ place ∈ mark, before place (position row)) :
    row ∈ (visit before position limit snapshots mark).items := by
  induction snapshots generalizing mark with
  | nil => cases finished
  | cons rows later ih =>
      have here := (ordered rows List.mem_cons_self).beyond mark
      have listed : row ∈ beyond before position rows mark :=
        mem_beyond.mpr ⟨present rows List.mem_cons_self, ahead⟩
      rw [← List.take_append_drop limit (beyond before position rows mark)] at listed
      rw [visit] at finished ⊢
      cases ended : lastOfPage limit (beyond before position rows mark) with
      | none =>
          have short := (lastOfPage_eq_none_iff positive).mp ended
          simpa [List.drop_eq_nil_of_le short] using listed
      | some last =>
          rw [ended] at finished
          obtain ⟨-, across, -⟩ := before_of_lastOfPage here ended
          rcases List.mem_append.mp listed with early | late
          · exact List.mem_append_left _ early
          · refine List.mem_append_right _ (ih (fun rows member =>
              ordered rows (List.mem_cons_of_mem _ member)) finished (fun rows member =>
              present rows (List.mem_cons_of_mem _ member)) ?_)
            rintro place same
            cases same
            exact across row late

theorem beyond_beyond
    (trans : ∀ {first second third}, before first second → before second third → before first third)
    {mark : Option κ} {last : κ} (marked : ∀ place ∈ mark, before place last) :
    beyond before position rows (some last) =
      (beyond before position rows mark).filter fun row => before last (position row) := by
  cases mark with
  | none => rfl
  | some place =>
      refine (List.filter_filter.trans (List.filter_congr fun row _ => ?_)).symm
      rw [Bool.and_eq_left_iff_imp]
      intro after
      exact decide_eq_true (trans (marked place rfl) (of_decide_eq_true after))

theorem filter_before_last_take (irrefl : ∀ place, ¬before place place)
    (trans : ∀ {first second third}, before first second → before second third → before first third)
    (ordered : Ordered before position rows) {count : Nat} {last : ρ}
    (ended : (rows.take count).getLast? = some last) :
    rows.filter (fun row => before (position last) (position row)) = rows.drop count := by
  obtain ⟨front, split⟩ := List.getLast?_eq_some_iff.mp ended
  have parts : Ordered before position (rows.take count ++ rows.drop count) := by
    rwa [List.take_append_drop]
  obtain ⟨page, -, across⟩ := List.pairwise_append.mp parts
  have member : last ∈ rows.take count := by
    rw [split]
    exact List.mem_append_right _ List.mem_cons_self
  conv_lhs => rw [← List.take_append_drop count rows]
  have nothing : (rows.take count).filter (fun row => before (position last) (position row)) =
      [] := by
    rw [List.filter_eq_nil_iff]
    intro row early after
    rw [split] at page early
    rcases List.mem_append.mp early with inFront | final
    · have earlier := (List.pairwise_append.mp page).2.2 row inFront last List.mem_cons_self
      exact irrefl _ (trans earlier (of_decide_eq_true after))
    · rw [List.mem_singleton.mp final] at after
      exact irrefl _ (of_decide_eq_true after)
  have all : (rows.drop count).filter (fun row => before (position last) (position row)) =
      rows.drop count :=
    List.filter_eq_self.mpr fun row late => decide_eq_true (across last member row late)
  rw [List.filter_append, nothing, all, List.nil_append]

theorem beyond_lastOfPage (irrefl : ∀ place, ¬before place place)
    (trans : ∀ {first second third}, before first second → before second third → before first third)
    (ordered : Ordered before position rows) {mark : Option κ} {last : ρ}
    (ended : lastOfPage limit (beyond before position rows mark) = some last) :
    beyond before position rows (some (position last)) =
      (beyond before position rows mark).drop limit := by
  rw [lastOfPage] at ended
  split at ended
  · have member := List.mem_of_mem_take (List.mem_of_getLast? ended)
    have marked : ∀ place ∈ mark, before place (position last) := (mem_beyond.mp member).2
    have left := filter_before_last_take irrefl trans (ordered.beyond mark) ended
    rw [← left]
    exact @beyond_beyond ρ κ before _ position rows (@trans) mark (position last) marked
  · cases ended

/-- **A collection that does not change is visited once and whole.** -/
theorem visit_replicate (irrefl : ∀ place, ¬before place place)
    (trans : ∀ {first second third}, before first second → before second third → before first third)
    (positive : 0 < limit) (ordered : Ordered before position rows) {requests : Nat}
    (mark : Option κ) (enough : (beyond before position rows mark).length < requests) :
    (visit before position limit (List.replicate requests rows) mark).finished = true ∧
      (visit before position limit (List.replicate requests rows) mark).items =
        beyond before position rows mark := by
  induction requests generalizing mark with
  | zero => exact absurd enough (Nat.not_lt_zero _)
  | succ requests ih =>
      rw [List.replicate_succ, visit]
      cases ended : lastOfPage limit (beyond before position rows mark) with
      | none =>
          exact ⟨rfl, List.take_of_length_le ((lastOfPage_eq_none_iff positive).mp ended)⟩
      | some last =>
          have left := beyond_lastOfPage irrefl trans ordered ended
          have fewer : (beyond before position rows (some (position last))).length < requests := by
            have long : ¬(beyond before position rows mark).length ≤ limit := by
              rw [← lastOfPage_eq_none_iff positive, ended]
              exact Option.some_ne_none last
            rw [left, List.length_drop]
            omega
          obtain ⟨finished, items⟩ := ih (some (position last)) fewer
          refine ⟨finished, ?_⟩
          change (beyond before position rows mark).take limit ++ _ = _
          rw [items, left, List.take_append_drop]

/-! ### Shared positions -/

/-- The rows stand in order, but for rows of one position. -/
def WeaklyOrdered (before : κ → κ → Prop) (position : ρ → κ) (rows : List ρ) : Prop :=
  rows.Pairwise fun first second => ¬before (position second) (position first)

def CleanPages (before : κ → κ → Prop) (position : ρ → κ) (limit : Nat) (rows : List ρ) : Prop :=
  ∀ (page : Nat) (last next : ρ), rows[limit * page + (limit - 1)]? = some last →
    rows[limit * page + limit]? = some next → before (position last) (position next)

omit [DecidableRel before] in
theorem cleanPages_map : CleanPages before id limit (rows.map position) ↔
    CleanPages before position limit rows := by
  unfold CleanPages
  simp only [List.getElem?_map, Option.map_eq_some_iff]
  constructor
  · intro clean page last next ended begun
    exact clean page _ _ ⟨last, ended, rfl⟩ ⟨next, begun, rfl⟩
  · rintro clean page _ _ ⟨last, ended, rfl⟩ ⟨next, begun, rfl⟩
    exact clean page last next ended begun

omit [DecidableRel before] in
theorem cleanPages_iff :
    CleanPages before position limit rows ↔
      (∀ last next, rows[limit - 1]? = some last → rows[limit]? = some next →
        before (position last) (position next)) ∧
      CleanPages before position limit (rows.drop limit) := by
  unfold CleanPages
  simp only [List.getElem?_drop]
  constructor
  · intro clean
    refine ⟨fun last next ended begun => clean 0 last next ?_ ?_, fun page last next ended begun =>
      clean (page + 1) last next ?_ ?_⟩
    · rw [Nat.mul_zero, Nat.zero_add]
      exact ended
    · rw [Nat.mul_zero, Nat.zero_add]
      exact begun
    · rw [Nat.mul_succ, Nat.add_comm (limit * page), Nat.add_assoc]
      exact ended
    · rw [Nat.mul_succ, Nat.add_comm (limit * page), Nat.add_assoc]
      exact begun
  · rintro ⟨first, later⟩ page last next ended begun
    cases page with
    | zero =>
        rw [Nat.mul_zero, Nat.zero_add] at ended begun
        exact first last next ended begun
    | succ page =>
        rw [Nat.mul_succ, Nat.add_comm (limit * page), Nat.add_assoc] at ended begun
        exact later page last next ended begun

theorem beyond_lastOfPage_weak (irrefl : ∀ place, ¬before place place)
    (trans : ∀ {first second third}, before first second → before second third → before first third)
    (negTrans : ∀ {first second third}, before first second → ¬before third second →
      before first third) (ordered : WeaklyOrdered before position rows) {mark : Option κ}
    {last : ρ} (ended : lastOfPage limit (beyond before position rows mark) = some last) :
    (beyond before position rows (some (position last))).Sublist
        ((beyond before position rows mark).drop limit) ∧
      (beyond before position rows (some (position last)) =
          (beyond before position rows mark).drop limit ↔
        ∀ next, (beyond before position rows mark)[limit]? = some next →
          before (position last) (position next)) := by
  rw [lastOfPage] at ended
  split at ended
  · next long =>
      have member := List.mem_of_mem_take (List.mem_of_getLast? ended)
      have marked : ∀ place ∈ mark, before place (position last) := (mem_beyond.mp member).2
      have here : WeaklyOrdered before position (beyond before position rows mark) :=
        ordered.sublist (beyond_sublist before position rows mark)
      rw [@beyond_beyond ρ κ before _ position rows (@trans) mark (position last) marked]
      generalize beyond before position rows mark = rest at *
      -- Nothing on the page comes after its last row.
      have nothing : (rest.take limit).filter (fun row => before (position last) (position row)) =
          [] := by
        obtain ⟨front, split⟩ := List.getLast?_eq_some_iff.mp ended
        rw [List.filter_eq_nil_iff]
        intro row early after
        have page : WeaklyOrdered before position (front ++ [last]) :=
          split ▸ here.sublist (List.take_sublist limit rest)
        rw [split] at early
        rcases List.mem_append.mp early with inFront | final
        · exact (List.pairwise_append.mp page).2.2 row inFront last List.mem_cons_self
            (of_decide_eq_true after)
        · rw [List.mem_singleton.mp final] at after
          exact irrefl _ (of_decide_eq_true after)
      have left : rest.filter (fun row => before (position last) (position row)) =
          (rest.drop limit).filter fun row => before (position last) (position row) := by
        conv_lhs => rw [← List.take_append_drop limit rest]
        rw [List.filter_append, nothing, List.nil_append]
      rw [left]
      refine ⟨List.filter_sublist, ?_⟩
      rw [List.filter_eq_self]
      have begun : rest.drop limit = rest[limit] :: rest.drop (limit + 1) :=
        List.drop_eq_getElem_cons long
      have tail : WeaklyOrdered before position (rest[limit] :: rest.drop (limit + 1)) :=
        begun ▸ here.sublist (List.drop_sublist limit rest)
      rw [begun]
      constructor
      · intro all next found
        rw [List.getElem?_eq_getElem long] at found
        rw [← Option.some.inj found]
        exact of_decide_eq_true (all _ List.mem_cons_self)
      · intro first row later
        have after := first _ (List.getElem?_eq_getElem long)
        rcases List.mem_cons.mp later with rfl | behind
        · exact decide_eq_true after
        · exact decide_eq_true (negTrans after ((List.pairwise_cons.mp tail).1 row behind))
  · cases ended

/-- **A collection that does not change is visited whole just where no page ends between rows of
one position**; some of it is visited, in order, in any case. -/
theorem visit_replicate_weak (irrefl : ∀ place, ¬before place place)
    (trans : ∀ {first second third}, before first second → before second third → before first third)
    (negTrans : ∀ {first second third}, before first second → ¬before third second →
      before first third) (positive : 0 < limit) (ordered : WeaklyOrdered before position rows)
    {requests : Nat} (mark : Option κ)
    (enough : (beyond before position rows mark).length < requests) :
    (visit before position limit (List.replicate requests rows) mark).finished = true ∧
      (visit before position limit (List.replicate requests rows) mark).items.Sublist
        (beyond before position rows mark) ∧
      ((visit before position limit (List.replicate requests rows) mark).items =
          beyond before position rows mark ↔
        CleanPages before position limit (beyond before position rows mark)) := by
  induction requests generalizing mark with
  | zero => exact absurd enough (Nat.not_lt_zero _)
  | succ requests ih =>
      rw [List.replicate_succ, visit]
      cases ended : lastOfPage limit (beyond before position rows mark) with
      | none =>
          have short := (lastOfPage_eq_none_iff positive).mp ended
          rw [List.take_of_length_le short]
          refine ⟨rfl, List.Sublist.refl _, iff_of_true rfl fun page last next _ begun => ?_⟩
          have beyond_ := (List.getElem?_eq_some_iff.mp begun).1
          omega
      | some last =>
          obtain ⟨within, whole⟩ := beyond_lastOfPage_weak irrefl trans negTrans ordered ended
          have long : limit < (beyond before position rows mark).length := by
            rw [← Nat.not_le, ← lastOfPage_eq_none_iff positive, ended]
            exact Option.some_ne_none last
          have fewer : (beyond before position rows (some (position last))).length < requests := by
            have fits := within.length_le
            rw [List.length_drop] at fits
            omega
          obtain ⟨finished, items, clean⟩ := ih (some (position last)) fewer
          have lastPlace : (beyond before position rows mark)[limit - 1]? = some last := by
            rw [lastOfPage, if_pos long, List.getLast?_take,
              if_neg (Nat.pos_iff_ne_zero.mp positive)] at ended
            rw [List.getElem?_eq_getElem (by omega)] at ended ⊢
            exact ended
          refine ⟨finished, ?_, ?_⟩
          · conv_rhs => rw [← List.take_append_drop limit (beyond before position rows mark)]
            exact (List.Sublist.refl _).append (items.trans within)
          · have first :
                (∀ last' next, (beyond before position rows mark)[limit - 1]? = some last' →
                (beyond before position rows mark)[limit]? = some next →
                  before (position last') (position next)) ↔
                beyond before position rows (some (position last)) =
                  (beyond before position rows mark).drop limit := by
              rw [whole, lastPlace]
              exact ⟨fun all next => all last next rfl, fun all last' next same =>
                Option.some.inj same ▸ all next⟩
            rw [cleanPages_iff, first]
            conv_lhs => rhs; rw [← List.take_append_drop limit (beyond before position rows mark)]
            rw [List.append_cancel_left_eq]
            constructor
            · intro same
              have all : beyond before position rows (some (position last)) =
                  (beyond before position rows mark).drop limit :=
                within.eq_of_length_le (same ▸ items.length_le)
              exact ⟨all, all ▸ clean.mp (same.trans all.symm)⟩
            · rintro ⟨all, later⟩
              rw [← all] at later ⊢
              exact clean.mpr later

end Chancela.Keyset
