import Chancela.Crates.Reference
import Chancela.Foundation.Lexical
import Mathlib.Tactic.IntervalCases

/-! # RFC 3339 text of instants in UTC

The text of an instant is its date and time of day in digits of fixed width, then the fraction
of the second without trailing zeros, where there is one, then a `Z`. Texts compare as their
instants do (`Chancela.UtcInstant.text_lt_text_iff`), but for two instants of one second whose
fractions extend one another, which compare the other way (`…_of_clash`): the `Z` that closes the
shorter text lies above the digits, and above the point, of the longer one.
-/

namespace Chancela

open Lexical Reference

/-! ### The calendar -/

def daysInMonth (year : Int) (month : Nat) : Nat :=
  if month = 2 then if year % 4 = 0 ∧ (year % 100 ≠ 0 ∨ year % 400 = 0) then 29 else 28
  else if month = 4 ∨ month = 6 ∨ month = 9 ∨ month = 11 then 30
  else 31

section Calendar

variable {year year' : Int} {month month' day day' : Nat}

theorem daysFromCivil_day : daysFromCivil year month day = daysFromCivil year month 0 + day := by
  unfold daysFromCivil
  dsimp only
  omega

theorem one_le_daysInMonth : 1 ≤ daysInMonth year month := by
  unfold daysInMonth
  split
  · split <;> omega
  · split <;> omega

theorem daysFromCivil_succ (first : 1 ≤ month) (last : month ≤ 11) :
    daysFromCivil year month 0 + daysInMonth year month = daysFromCivil year (month + 1) 0 := by
  unfold daysFromCivil daysInMonth
  interval_cases month <;> simp <;> omega

theorem daysFromCivil_newYear :
    daysFromCivil year 12 0 + daysInMonth year 12 = daysFromCivil (year + 1) 1 0 := by
  unfold daysFromCivil daysInMonth
  simp
  omega

theorem daysFromCivil_lt_of_month (first : 1 ≤ month) (last : month' ≤ 12)
    (inMonth : day ≤ daysInMonth year month) (earlier : month < month') (later : 1 ≤ day') :
    daysFromCivil year month day < daysFromCivil year month' day' := by
  have reached : ∀ steps, month + 1 + steps ≤ 12 →
      daysFromCivil year (month + 1) 0 ≤ daysFromCivil year (month + 1 + steps) 0 := by
    intro steps
    induction steps with
    | zero => exact fun _ => le_rfl
    | succ steps ih =>
        intro within
        have next := @daysFromCivil_succ year (month + 1 + steps) (by omega) (by omega)
        have before := ih (by omega)
        rw [← Nat.add_assoc]
        omega
  obtain ⟨steps, rfl⟩ := Nat.exists_eq_add_of_le earlier
  have next := @daysFromCivil_succ year month first (by omega)
  have before := reached steps last
  rw [daysFromCivil_day, @daysFromCivil_day year (month.succ + steps), Nat.succ_eq_add_one]
  omega

theorem daysFromCivil_lt_of_year (first : 1 ≤ month) (last : month ≤ 12)
    (inMonth : day ≤ daysInMonth year month) (earlier : year < year') (first' : 1 ≤ month')
    (last' : month' ≤ 12) (later : 1 ≤ day') :
    daysFromCivil year month day < daysFromCivil year' month' day' := by
  have ended : daysFromCivil year month day < daysFromCivil (year + 1) 1 1 := by
    have newYear := @daysFromCivil_newYear year
    rw [@daysFromCivil_day (year + 1) 1 1]
    rcases Nat.lt_or_eq_of_le last with before | rfl
    · have december := @one_le_daysInMonth year 12
      have within := @daysFromCivil_lt_of_month year month 12 day 1 first le_rfl inMonth before
        le_rfl
      rw [@daysFromCivil_day year 12 1] at within
      omega
    · rw [daysFromCivil_day]
      omega
  have years : daysFromCivil (year + 1) 1 1 ≤ daysFromCivil year' 1 1 := by
    unfold daysFromCivil
    simp only [Nat.reduceLeDiff, ↓reduceIte]
    omega
  have begun : daysFromCivil year' 1 1 ≤ daysFromCivil year' month' day' := by
    rcases Nat.lt_or_eq_of_le first' with after | rfl
    · exact le_of_lt (daysFromCivil_lt_of_month le_rfl last' one_le_daysInMonth after later)
    · rw [daysFromCivil_day, @daysFromCivil_day year' 1 day']
      omega
  exact (ended.trans_le years).trans_le begun

end Calendar

/-! ### Digits -/

namespace Reference

theorem digitChar_lt_digitChar : ∀ first < 10, ∀ second < 10, first < second →
    Nat.digitChar first < Nat.digitChar second := by
  decide

theorem padded_succ {width number : Nat} (positive : 0 < width) :
    padded (width + 1) number = padded width (number / 10) ++ [Nat.digitChar (number % 10)] := by
  unfold padded
  rcases Nat.lt_or_ge number 10 with small | large
  · obtain ⟨width, rfl⟩ := Nat.exists_eq_succ_of_ne_zero positive.ne'
    rw [Nat.toDigits_of_lt_base small, Nat.div_eq_of_lt small, Nat.mod_eq_of_lt small,
      Nat.toDigits_zero]
    simp [List.replicate_succ']
  · rw [Nat.toDigits_of_base_le (by decide) large]
    simp [Nat.add_sub_add_right]

variable {width first second : Nat}

theorem padded_lt_padded (positive : 0 < width) (fits : second < 10 ^ width)
    (below : first < second) : padded width first < padded width second := by
  induction width, positive using Nat.le_induction generalizing first second with
  | base =>
      have small : second < 10 := fits
      unfold padded
      rw [Nat.toDigits_of_lt_base (below.trans small), Nat.toDigits_of_lt_base small]
      exact List.cons_lt_cons_iff.mpr
        (.inl (digitChar_lt_digitChar first (below.trans small) second small below))
  | succ width positive ih =>
      rw [pow_succ] at fits
      rw [padded_succ positive, padded_succ positive, append_lt_append_iff]
      · rcases Nat.lt_or_eq_of_le (Nat.div_le_div_right (c := 10) below.le) with higher | level
        · exact .inl (ih (Nat.div_lt_of_lt_mul (by omega)) higher)
        · refine .inr ⟨congrArg _ level, List.cons_lt_cons_iff.mpr (.inl ?_)⟩
          exact digitChar_lt_digitChar _ (Nat.mod_lt _ (by decide)) _ (Nat.mod_lt _ (by decide))
            (by omega)
      · rw [length_padded positive (by omega), length_padded positive (by omega)]

theorem padded_append_lt_iff {rest rest' : List Char} (positive : 0 < width)
    (fits : first < 10 ^ width) (fits' : second < 10 ^ width) :
    padded width first ++ rest < padded width second ++ rest' ↔
      first < second ∨ first = second ∧ rest < rest' := by
  rw [append_lt_append_iff]
  · rcases Nat.lt_trichotomy first second with below | rfl | above
    · exact iff_of_true (.inl (padded_lt_padded positive fits' below)) (.inl below)
    · rw [lt_self_iff_false, lt_self_iff_false, eq_self_iff_true, eq_self_iff_true]
    · have order := padded_lt_padded positive fits above
      refine iff_of_false ?_ ?_
      · rintro (below | ⟨same, -⟩)
        · exact order.not_gt below
        · exact order.ne' same
      · rintro (below | ⟨same, -⟩)
        · exact above.not_gt below
        · exact above.ne' same
  · rw [length_padded positive fits, length_padded positive fits']

theorem padded_append_cons_lt_iff {mark : Char} {rest rest' : List Char} (positive : 0 < width)
    (fits : first < 10 ^ width) (fits' : second < 10 ^ width) :
    padded width first ++ mark :: rest < padded width second ++ mark :: rest' ↔
      first < second ∨ first = second ∧ rest < rest' := by
  rw [padded_append_lt_iff positive fits fits', List.cons_lt_cons_iff, lt_self_iff_false,
    false_or, and_iff_right rfl]

theorem padded_lt_padded_iff (positive : 0 < width) (fits : first < 10 ^ width)
    (fits' : second < 10 ^ width) : padded width first < padded width second ↔ first < second := by
  have closed := @padded_append_lt_iff width first second [] [] positive fits fits'
  simpa using closed

theorem fraction_lt_fraction {first second : Nat} (fits : second < 10 ^ 9)
    (below : first < second) : fraction first < fraction second := by
  have positive : second ≠ 0 := Nat.ne_zero_of_lt below
  unfold fraction
  rw [if_neg positive]
  split
  · exact List.nil_lt_cons _ _
  · refine List.cons_lt_cons_iff.mpr (.inr ⟨rfl, trimmed_lt_trimmed ?_ ?_ ?_⟩)
    · rw [length_padded (by decide) fits, length_padded (by decide) (below.trans fits)]
    · intro letter member
      have digit := isDigit_padded member
      rw [Char.isDigit, Bool.and_eq_true] at digit
      exact of_decide_eq_true digit.1
    · exact padded_lt_padded (by decide) fits below

theorem fraction_lt_fraction_iff {first second : Nat} (fits : first < 10 ^ 9)
    (fits' : second < 10 ^ 9) : fraction first < fraction second ↔ first < second := by
  rcases Nat.lt_trichotomy first second with below | rfl | above
  · exact iff_of_true (fraction_lt_fraction fits' below) below
  · exact iff_of_false (lt_irrefl _) (lt_irrefl _)
  · exact iff_of_false (fraction_lt_fraction fits above).not_gt above.not_gt

end Reference

/-! ### Instants -/

/-- An instant in UTC of a year that RFC 3339 can write. -/
structure UtcInstant extends OffsetDateTime where
  utc : offset = 0
  years : 0 ≤ year ∧ year ≤ 9999
  months : 1 ≤ month ∧ month ≤ 12
  days : 1 ≤ day ∧ day ≤ daysInMonth year month
  hours : hour ≤ 23
  minutes : minute ≤ 59
  seconds : second ≤ 59
  nanoseconds : nanosecond ≤ 999999999

namespace UtcInstant

/-- The nanoseconds since 1970, by which instants compare. -/
def nanos (instant : UtcInstant) : Int := instant.toOffsetDateTime.unixTimestampNanos

def secondText (instant : UtcInstant) : List Char :=
  padded 4 instant.year.toNat ++ ('-' :: (padded 2 instant.month ++ ('-' ::
    (padded 2 instant.day ++ ('T' :: (padded 2 instant.hour ++ (':' ::
      (padded 2 instant.minute ++ (':' :: padded 2 instant.second)))))))))

/-- The text of an instant: `format(&Rfc3339)`. -/
def text (instant : UtcInstant) : String :=
  String.ofList (instant.secondText ++ (fraction instant.nanosecond ++ ['Z']))

theorem days_le (instant : UtcInstant) : instant.day ≤ 31 := by
  refine instant.days.2.trans ?_
  unfold daysInMonth
  split
  · split <;> omega
  · split <;> omega

/-- Two instants within one second whose fractions extend one another. -/
def Clash (first second : UtcInstant) : Prop :=
  first.secondText = second.secondText ∧
    Lexical.Clash (fraction first.nanosecond) (fraction second.nanosecond)

instance decidableClash (first second : UtcInstant) : Decidable (Clash first second) :=
  inferInstanceAs (Decidable (_ ∧ _))

variable {first second : UtcInstant}

def secondNumber (instant : UtcInstant) : Int :=
  daysFromCivil instant.year instant.month instant.day * 86400 + instant.hour * 3600 +
    instant.minute * 60 + instant.second

theorem nanos_eq (instant : UtcInstant) :
    instant.nanos = instant.secondNumber * 1000000000 + instant.nanosecond := by
  unfold nanos OffsetDateTime.unixTimestampNanos secondNumber
  rw [instant.utc, Int.sub_zero]

theorem secondOfDay (instant : UtcInstant) :
    instant.hour * 3600 + instant.minute * 60 + instant.second < 86400 := by
  have hours := instant.hours
  have minutes := instant.minutes
  have seconds := instant.seconds
  omega

theorem fits (instant : UtcInstant) :
    instant.year.toNat < 10 ^ 4 ∧ instant.month < 10 ^ 2 ∧ instant.day < 10 ^ 2 ∧
      instant.hour < 10 ^ 2 ∧ instant.minute < 10 ^ 2 ∧ instant.second < 10 ^ 2 := by
  have := instant.years
  have := instant.months
  have := instant.days_le
  have := instant.hours
  have := instant.minutes
  have := instant.seconds
  omega

theorem secondNumber_lt (below : first.secondText < second.secondText) :
    first.secondNumber < second.secondNumber := by
  have years := first.years
  have years' := second.years
  obtain ⟨year, month, day, hour, minute, second_⟩ := first.fits
  obtain ⟨year', month', day', hour', minute', second_'⟩ := second.fits
  unfold secondText at below
  unfold secondNumber
  rw [padded_append_cons_lt_iff (Nat.succ_pos _) year year'] at below
  rcases below with earlier | ⟨sameYear, below⟩
  · have earlier : first.year < second.year := by omega
    have before := daysFromCivil_lt_of_year first.months.1 first.months.2 first.days.2 earlier
      second.months.1 second.months.2 second.days.1
    have withinDay := first.secondOfDay
    omega
  have sameYear : first.year = second.year := by omega
  rw [sameYear]
  rw [padded_append_cons_lt_iff Nat.two_pos month month'] at below
  rcases below with earlier | ⟨sameMonth, below⟩
  · have inMonth := sameYear ▸ first.days.2
    have before := daysFromCivil_lt_of_month first.months.1 second.months.2 inMonth earlier
      second.days.1
    have withinDay := first.secondOfDay
    omega
  rw [padded_append_cons_lt_iff Nat.two_pos day day',
    padded_append_cons_lt_iff Nat.two_pos hour hour',
    padded_append_cons_lt_iff Nat.two_pos minute minute',
    padded_lt_padded_iff Nat.two_pos second_ second_'] at below
  have withinDay := first.secondOfDay
  have minutes := first.minutes
  have seconds := first.seconds
  rw [sameMonth, daysFromCivil_day, @daysFromCivil_day _ _ second.day]
  omega

theorem secondNumber_of_secondText (same : first.secondText = second.secondText) :
    first.secondNumber = second.secondNumber := by
  have years := first.years
  have years' := second.years
  obtain ⟨year, month, day, hour, minute, -⟩ := first.fits
  obtain ⟨year', month', day', hour', minute', -⟩ := second.fits
  unfold secondText at same
  obtain ⟨sameYear, same⟩ := padded_append_inj (Nat.succ_pos _) year year' same
  obtain ⟨sameMonth, same⟩ := padded_append_inj Nat.two_pos month month' (List.cons.inj same).2
  obtain ⟨sameDay, same⟩ := padded_append_inj Nat.two_pos day day' (List.cons.inj same).2
  obtain ⟨sameHour, same⟩ := padded_append_inj Nat.two_pos hour hour' (List.cons.inj same).2
  obtain ⟨sameMinute, same⟩ := padded_append_inj Nat.two_pos minute minute' (List.cons.inj same).2
  have sameSecond := padded_injective 2 (List.cons.inj same).2
  have sameYear : first.year = second.year := by omega
  unfold secondNumber
  rw [sameYear, sameMonth, sameDay, sameHour, sameMinute, sameSecond]

theorem length_secondText : first.secondText.length = 19 := by
  obtain ⟨year, month, day, hour, minute, second_⟩ := first.fits
  unfold secondText
  simp only [List.length_append, List.length_cons]
  rw [length_padded (Nat.succ_pos _) year, length_padded Nat.two_pos month,
    length_padded Nat.two_pos day, length_padded Nat.two_pos hour, length_padded Nat.two_pos minute,
    length_padded Nat.two_pos second_]

theorem text_lt_text : first.text < second.text ↔
    first.secondText < second.secondText ∨ first.secondText = second.secondText ∧
      fraction first.nanosecond ++ ['Z'] < fraction second.nanosecond ++ ['Z'] := by
  rw [String.lt_iff_toList_lt, text, text, String.toList_ofList, String.toList_ofList,
    append_lt_append_iff]
  rw [length_secondText, length_secondText]

theorem fits_nanosecond (instant : UtcInstant) : instant.nanosecond < 10 ^ 9 := by
  have := instant.nanoseconds
  omega

theorem nanos_lt_nanos : first.nanos < second.nanos ↔
    first.secondText < second.secondText ∨ first.secondText = second.secondText ∧
      first.nanosecond < second.nanosecond := by
  have := first.nanoseconds
  have := second.nanoseconds
  rw [nanos_eq, nanos_eq]
  rcases lt_trichotomy first.secondText second.secondText with below | same | above
  · have := secondNumber_lt below
    exact iff_of_true (by omega) (.inl below)
  · have := secondNumber_of_secondText same
    rw [same, lt_self_iff_false, false_or, and_iff_right rfl]
    omega
  · have := secondNumber_lt above
    refine iff_of_false (by omega) ?_
    rintro (below | ⟨same, -⟩)
    · exact above.not_gt below
    · exact above.ne' same

/-- **Texts compare as their instants do**, unless they clash. -/
theorem text_lt_text_iff (apart : ¬Clash first second) :
    first.text < second.text ↔ first.nanos < second.nanos := by
  rw [text_lt_text, nanos_lt_nanos]
  refine or_congr_right (and_congr_right fun same => ?_)
  rw [concat_lt_concat_iff (fun clash => apart ⟨same, clash⟩),
    fraction_lt_fraction_iff first.fits_nanosecond second.fits_nanosecond]

theorem lt_of_mem_fraction {nanosecond : Nat} {letter : Char}
    (member : letter ∈ fraction nanosecond) : letter < 'Z' := by
  unfold fraction at member
  split at member
  · cases member
  · rcases List.mem_cons.mp member with rfl | kept
    · decide
    · have digit := List.mem_reverse.mp ((List.dropWhile_sublist _).subset
        (List.mem_reverse.mp kept))
      have digit := isDigit_padded digit
      rw [Char.isDigit, Bool.and_eq_true] at digit
      have most : letter ≤ '9' := of_decide_eq_true digit.2
      exact most.trans_lt (by decide)

/-- **Texts that clash compare the other way.** -/
theorem text_lt_text_iff_of_clash (clash : Clash first second) :
    first.text < second.text ↔ second.nanos < first.nanos := by
  rw [text_lt_text, nanos_lt_nanos, clash.1, lt_self_iff_false, false_or, false_or,
    and_iff_right rfl, and_iff_right rfl, concat_lt_concat_iff_of_clash _ clash.2,
    fraction_lt_fraction_iff second.fits_nanosecond first.fits_nanosecond]
  intro letter member
  rcases List.mem_append.mp member with here | there
  · exact lt_of_mem_fraction here
  · exact lt_of_mem_fraction there

end UtcInstant

end Chancela
