import Chancela.Crates.UtcText
import Chancela.Search.Scan

/-! # Search dates as texts

The ranking and the date filters compare the texts of times. For instants in UTC that is the
order of the instants, but where two of them lie in one second and the fraction of one extends
that of the other, as `00.5` does `00`: there the texts compare the other way. The ranking and
the filters are chronological exactly for times that do not clash so
(`Chancela.Search.dates_chronological_iff`).
-/

namespace Chancela.Search

open Reference

def RankedCandidate.occurredAt (candidate : RankedCandidate) : Option String :=
  candidate.indexed.document.occurredAt

/-- Of two candidates of one score the later ranks first. -/
def LaterRanksFirst (first second : RankedCandidate) (firstAt secondAt : UtcInstant) : Prop :=
  (secondAt.nanos < firstAt.nanos → first.rank < second.rank) ∧
    (firstAt.nanos < secondAt.nanos → second.rank < first.rank)

def Within (low high : Option UtcInstant) (at_ : UtcInstant) : Prop :=
  (∀ bound ∈ low, bound.nanos ≤ at_.nanos) ∧ ∀ bound ∈ high, at_.nanos ≤ bound.nanos

/-- The instant clashes with the bound, if one is given. -/
def ClashesWith (at_ : UtcInstant) (bound : Option UtcInstant) : Prop :=
  ∃ instant ∈ bound, UtcInstant.Clash at_ instant

def SearchFilters.between (filters : SearchFilters) (low high : Option UtcInstant) :
    SearchFilters :=
  { filters with dateFrom := low.map UtcInstant.text, dateTo := high.map UtcInstant.text }

/-- Where the date filters keep exactly the times within the bounds: the time clashes with no
bound, or lies beyond the other bound of one it clashes with, or clashes with both and lies
beyond one of them only. -/
def BoundsAgree (low high : Option UtcInstant) (at_ : UtcInstant) : Prop :=
  ¬ClashesWith at_ low ∧ ¬ClashesWith at_ high ∨
  ClashesWith at_ low ∧ ¬ClashesWith at_ high ∧ ¬Within none high at_ ∨
  ¬ClashesWith at_ low ∧ ClashesWith at_ high ∧ ¬Within low none at_ ∨
  ClashesWith at_ low ∧ ClashesWith at_ high ∧ ¬(Within low none at_ ↔ Within none high at_)

section Order

variable {first second : RankedCandidate} {firstAt secondAt at_ : UtcInstant}
  {text text' : String} {low high : Option UtcInstant}

theorem rank_lt_of_text_lt (score : first.score = second.score)
    (occurred : first.occurredAt = some text) (occurred' : second.occurredAt = some text')
    (later : text' < text) : first.rank < second.rank := by
  unfold RankedCandidate.occurredAt at occurred occurred'
  unfold RankedCandidate.rank rankOf
  rw [score, occurred, occurred', Prod.Lex.toLex_lt_toLex]
  refine .inr ⟨rfl, ?_⟩
  rw [Prod.Lex.toLex_lt_toLex]
  exact .inl (OrderDual.toDual_lt_toDual.mpr (WithBot.coe_lt_coe.mpr later))

theorem nanos_ne_of_clash (clash : UtcInstant.Clash firstAt secondAt) :
    firstAt.nanos ≠ secondAt.nanos := by
  intro same
  have fractions := clash.2.1
  rw [UtcInstant.nanos_eq, UtcInstant.nanos_eq,
    UtcInstant.secondNumber_of_secondText clash.1] at same
  have equal : firstAt.nanosecond = secondAt.nanosecond := by omega
  exact fractions (congrArg fraction equal)

theorem clash_comm : UtcInstant.Clash firstAt secondAt ↔ UtcInstant.Clash secondAt firstAt := by
  unfold UtcInstant.Clash
  rw [Lexical.clash_comm, eq_comm]

/-- **The ranking is chronological** for two candidates of a score exactly if their times do not
clash. -/
theorem laterRanksFirst_iff (occurred : first.occurredAt = some firstAt.text)
    (occurred' : second.occurredAt = some secondAt.text) (score : first.score = second.score) :
    LaterRanksFirst first second firstAt secondAt ↔ ¬UtcInstant.Clash firstAt secondAt := by
  constructor
  · intro ordered clash
    rcases lt_or_gt_of_ne (nanos_ne_of_clash clash) with earlier | later
    · have texts := (UtcInstant.text_lt_text_iff_of_clash (clash_comm.mp clash)).mpr earlier
      exact (rank_lt_of_text_lt score occurred occurred' texts).not_gt (ordered.2 earlier)
    · have texts := (UtcInstant.text_lt_text_iff_of_clash clash).mpr later
      exact (rank_lt_of_text_lt score.symm occurred' occurred texts).not_gt (ordered.1 later)
  · intro apart
    constructor
    · intro later
      have apart' := fun clash => apart (clash_comm.mp clash)
      exact rank_lt_of_text_lt score occurred occurred'
        ((UtcInstant.text_lt_text_iff apart').mpr later)
    · intro earlier
      exact rank_lt_of_text_lt score.symm occurred' occurred
        ((UtcInstant.text_lt_text_iff apart).mpr earlier)

theorem admits_low :
    ((low.map UtcInstant.text).all fun bound =>
      (some at_.text).any fun actual => !decide (actual < bound)) = true ↔
      (Within low none at_ ↔ ¬ClashesWith at_ low) := by
  cases low with
  | none => simp [Within, ClashesWith]
  | some bound =>
      simp only [Option.map_some, Option.all_some, Option.any_some, Bool.not_eq_true',
        decide_eq_false_iff_not, Within, ClashesWith, Option.mem_some_iff, forall_eq',
        Option.not_mem_none, false_implies, implies_true, and_true, exists_eq_left']
      by_cases clash : UtcInstant.Clash at_ bound
      · have apart := nanos_ne_of_clash clash
        rw [UtcInstant.text_lt_text_iff_of_clash clash]
        simp only [clash, not_true_eq_false, iff_false]
        omega
      · rw [UtcInstant.text_lt_text_iff clash]
        simp only [clash, not_false_eq_true, iff_true]
        omega

theorem admits_high :
    ((high.map UtcInstant.text).all fun bound =>
      (some at_.text).any fun actual => !decide (bound < actual)) = true ↔
      (Within none high at_ ↔ ¬ClashesWith at_ high) := by
  cases high with
  | none => simp [Within, ClashesWith]
  | some bound =>
      simp only [Option.map_some, Option.all_some, Option.any_some, Bool.not_eq_true',
        decide_eq_false_iff_not, Within, ClashesWith, Option.mem_some_iff, forall_eq',
        Option.not_mem_none, false_implies, implies_true, true_and, exists_eq_left']
      by_cases clash : UtcInstant.Clash at_ bound
      · have apart := nanos_ne_of_clash clash
        rw [UtcInstant.text_lt_text_iff_of_clash (clash_comm.mp clash)]
        simp only [clash, not_true_eq_false, iff_false]
        omega
      · rw [UtcInstant.text_lt_text_iff fun reversed => clash (clash_comm.mp reversed)]
        simp only [clash, not_false_eq_true, iff_true]
        omega

theorem within_iff : Within low high at_ ↔ Within low none at_ ∧ Within none high at_ := by
  simp [Within]

variable [Unicode] {document : SearchDocument} {content : SearchContentRef}
  {filters : SearchFilters}

theorem matchesFilters_between (occurred : document.occurredAt = some at_.text)
    (admitted : matchesFilters document content (filters.between none none) = true) :
    matchesFilters document content (filters.between low high) = true ↔
      (Within low none at_ ↔ ¬ClashesWith at_ low) ∧
        (Within none high at_ ↔ ¬ClashesWith at_ high) := by
  rw [← admits_low, ← admits_high]
  unfold matchesFilters SearchFilters.between at *
  simp only [Option.map_none, Option.all_none, Bool.and_true] at admitted
  dsimp only
  rw [admitted, occurred, Bool.true_and, Bool.and_eq_true]

/-- **The date filters are chronological** exactly where the bounds agree with the time. -/
theorem kept_iff_within_iff (occurred : document.occurredAt = some at_.text)
    (admitted : matchesFilters document content (filters.between none none) = true) :
    (matchesFilters document content (filters.between low high) = true ↔ Within low high at_) ↔
      BoundsAgree low high at_ := by
  have both : Within low high at_ ↔ Within low none at_ ∧ Within none high at_ := within_iff
  rw [matchesFilters_between occurred admitted, both]
  unfold BoundsAgree
  by_cases lowClash : ClashesWith at_ low <;> by_cases highClash : ClashesWith at_ high <;>
    by_cases above : Within low none at_ <;> by_cases below : Within none high at_ <;>
    simp [lowClash, highClash, above, below]

end Order

/-- **Search dates are chronological** exactly where the times compared do not clash. -/
theorem dates_chronological_iff [Unicode] :
    (∀ (first second : RankedCandidate) (firstAt secondAt : UtcInstant),
      first.occurredAt = some firstAt.text → second.occurredAt = some secondAt.text →
        first.score = second.score →
          (LaterRanksFirst first second firstAt secondAt ↔
            ¬UtcInstant.Clash firstAt secondAt)) ∧
    ∀ (document : SearchDocument) (content : SearchContentRef) (filters : SearchFilters)
      (low high : Option UtcInstant) (at_ : UtcInstant),
      document.occurredAt = some at_.text →
        matchesFilters document content (filters.between none none) = true →
          ((matchesFilters document content (filters.between low high) = true ↔
            Within low high at_) ↔ BoundsAgree low high at_) :=
  ⟨fun _ _ _ _ => laterRanksFirst_iff, fun _ _ _ _ _ _ => kept_iff_within_iff⟩

section Examples

open scoped Reference

/-- The beginning of the year 2026, and instants within its first second. -/
def newYear (nanosecond : Nat) (small : nanosecond ≤ 999999999) : UtcInstant where
  year := 2026
  month := 1
  day := 1
  hour := 0
  minute := 0
  second := 0
  nanosecond := nanosecond
  offset := 0
  utc := rfl
  years := ⟨by decide, by decide⟩
  months := ⟨le_rfl, by decide⟩
  days := ⟨le_rfl, by decide⟩
  hours := by decide
  minutes := by decide
  seconds := by decide
  nanoseconds := small

def midnight : UtcInstant := newYear 0 (Nat.zero_le _)
def halfPast : UtcInstant := newYear 500000000 (by decide)
def threeQuartersPast : UtcInstant := newYear 750000000 (by decide)

def occurring (at_ : UtcInstant) : SearchDocument :=
  { titled "act:1" "ata" none with occurredAt := some at_.text }

def candidateAt (at_ : UtcInstant) : RankedCandidate := ⟨1, .new (occurring at_), .public⟩

theorem occurredAt_candidateAt (at_ : UtcInstant) :
    (candidateAt at_).occurredAt = some at_.text := rfl

theorem score_candidateAt (at_ at' : UtcInstant) :
    (candidateAt at_).score = (candidateAt at').score := rfl

/-- Half a second after midnight ranks after midnight, and lies before it for the filters. -/
theorem not_chronological_halfPast :
    ¬LaterRanksFirst (candidateAt halfPast) (candidateAt midnight) halfPast midnight ∧
      ¬(matchesFilters (occurring halfPast) (.public (occurring halfPast))
          ((byText "ata").filters.between (some midnight) none) = true ↔
        Within (some midnight) none halfPast) := by
  have clash : UtcInstant.Clash halfPast midnight := by decide +kernel
  constructor
  · intro ordered
    exact (laterRanksFirst_iff (occurredAt_candidateAt _) (occurredAt_candidateAt _)
      (score_candidateAt _ _)).mp ordered clash
  · rw [kept_iff_within_iff rfl rfl]
    unfold BoundsAgree
    simp [ClashesWith, Within, clash]

/-- Halves and three quarters of a second are in order. -/
theorem dates_chronological_halves :
    LaterRanksFirst (candidateAt halfPast) (candidateAt threeQuartersPast) halfPast
        threeQuartersPast ∧
      (matchesFilters (occurring halfPast) (.public (occurring halfPast))
          ((byText "ata").filters.between none (some threeQuartersPast)) = true ↔
        Within none (some threeQuartersPast) halfPast) := by
  have apart : ¬UtcInstant.Clash halfPast threeQuartersPast := by decide +kernel
  constructor
  · exact (dates_chronological_iff.1 _ _ _ _ (occurredAt_candidateAt _)
      (occurredAt_candidateAt _) (score_candidateAt _ _)).mpr apart
  · refine (dates_chronological_iff.2 _ _ _ _ _ _ rfl rfl).mpr (.inl ?_)
    simp [ClashesWith, apart]

end Examples

end Chancela.Search
