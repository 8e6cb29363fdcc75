import Mathlib.Data.Prod.Lex
import Mathlib.Order.Basic

/-! # The annual calendar of a profile

A profile rule derives a due date from the fiscal year of an entity or from a fixed day of the
year. A date that `time::Date` does not represent cannot be built, and the code panics there,
which is `none` here: the due dates of a year lie in it, never precede the first applicable one
and never fall back, up to the ends of the years that are represented
(`Chancela.ProfileCalendar.calendar_iff`).
-/

namespace Chancela.ProfileCalendar

def isLeapYear (year : Int) : Bool :=
  (year % 4 == 0 && year % 100 != 0) || year % 400 == 0

/-- `days_in_month`, of a month there is. -/
def daysInMonth (year : Int) (month : Nat) : Nat :=
  match month with
  | 4 | 6 | 9 | 11 => 30
  | 2 => if isLeapYear year then 29 else 28
  | _ => 31

/-- `time::Date`, by its calendar: a day of the years -9999 to 9999. -/
structure CalendarDate where
  year : Int
  month : Nat
  day : Nat
  years : -9999 ≤ year ∧ year ≤ 9999
  months : 1 ≤ month ∧ month ≤ 12
  days : 1 ≤ day ∧ day ≤ daysInMonth year month
deriving DecidableEq

def fromCalendarDate (year : Int) (month day : Nat) : Option CalendarDate :=
  if represented : (-9999 ≤ year ∧ year ≤ 9999) ∧ (1 ≤ month ∧ month ≤ 12) ∧
      1 ≤ day ∧ day ≤ daysInMonth year month then
    some ⟨year, month, day, represented.1, represented.2.1, represented.2.2⟩
  else none

/-- `FiscalYearEnd`, a day of a leap year. -/
structure FiscalYearEnd where
  month : Nat
  day : Nat
  valid : (1 ≤ month ∧ month ≤ 12) ∧ 1 ≤ day ∧ day ≤ daysInMonth 2000 month
deriving DecidableEq

/-- `str::parse::<u8>`: digits after a plus sign that may stand there. -/
def parseU8 (text : List Char) : Option Nat :=
  let digits := if text.head? = some '+' then text.tail else text
  if digits ≠ [] ∧ digits.all Char.isDigit then
    let number := digits.foldl (fun number digit => number * 10 + (digit.toNat - 48)) 0
    if number < 256 then some number else none
  else none

def FiscalYearEnd.parse (value : String) : Option FiscalYearEnd :=
  let chars := value.toList
  if chars.contains '-' then do
    let month ← parseU8 (chars.takeWhile (· ≠ '-'))
    let day ← parseU8 ((chars.dropWhile (· ≠ '-')).tail)
    if valid : (1 ≤ month ∧ month ≤ 12) ∧ 1 ≤ day ∧ day ≤ daysInMonth 2000 month then
      some ⟨month, day, valid⟩
    else none
  else none

/-- `AnnualFixedDate`, with a month there is. -/
structure AnnualFixedDate where
  month : Nat
  day : Nat
  valid : (1 ≤ month ∧ month ≤ 12) ∧ 1 ≤ day
deriving DecidableEq

/-- `ProfileCalendarUnsupportedReason`. -/
inductive UnsupportedReason where
  | missingLocalDueDateRule
deriving DecidableEq

/-- `ProfileCalendarDueRule`. -/
inductive DueRule where
  | fiscalYearEndOffset (monthsAfterFiscalYearEnd : Nat) (defaultFiscalYearEnd : FiscalYearEnd)
  | annualFixedDate (date : AnnualFixedDate)
  | notEncoded (reason : UnsupportedReason)
deriving DecidableEq

/-- `ProfileCalendarDueBasis`. -/
inductive DueBasis where
  | recordedFiscalYearEnd
  | defaultFiscalYearEndMissingRecordedValue
  | defaultFiscalYearEndUnreadableRecordedValue
  | annualFixedDate
deriving DecidableEq

/-- `ProfileCalendarEvaluationContext`. -/
structure EvaluationContext where
  today : CalendarDate
  recordedFiscalYearEnd : Option String
  constitutionDate : Option CalendarDate

/-- `ProfileCalendarScheduledRule`. -/
structure ScheduledRule where
  dueDate : CalendarDate
  fiscalYearEnd : Option FiscalYearEnd
  monthsAfterFiscalYearEnd : Option Nat
  annualFixedDate : Option AnnualFixedDate
  dueBasis : DueBasis
deriving DecidableEq

/-- `ProfileCalendarSuppressionReason`. -/
inductive SuppressionReason where
  | firstFiscalYear
  | beforeFirstApplicableAnnualDue
deriving DecidableEq

/-- `ProfileCalendarRuleEvaluation`. -/
inductive RuleEvaluation where
  | scheduled (rule : ScheduledRule)
  | unsupported (reason : UnsupportedReason)
  | suppressed (reason : SuppressionReason)
deriving DecidableEq

/-! ### Dates in their order -/

namespace CalendarDate

def key (date : CalendarDate) : ℤ ×ₗ ℕ ×ₗ ℕ := toLex (date.year, toLex (date.month, date.day))

theorem key_injective : Function.Injective key := by
  intro first second same
  unfold key at same
  rw [toLex_inj, Prod.mk.injEq, toLex_inj, Prod.mk.injEq] at same
  cases first
  cases second
  obtain ⟨rfl, rfl, rfl⟩ := same
  rfl

instance : LinearOrder CalendarDate := LinearOrder.lift' key key_injective

variable {first second : CalendarDate}

theorem le_iff : first ≤ second ↔ first.year < second.year ∨ first.year = second.year ∧
    (first.month < second.month ∨ first.month = second.month ∧ first.day ≤ second.day) := by
  change key first ≤ key second ↔ _
  unfold key
  rw [Prod.Lex.toLex_le_toLex, Prod.Lex.toLex_le_toLex]

theorem lt_of_year_lt (earlier : first.year < second.year) : first < second :=
  lt_of_le_of_ne (le_iff.mpr (.inl earlier)) fun same => by
    rw [same] at earlier
    exact lt_irrefl _ earlier

theorem year_le (ordered : first ≤ second) : first.year ≤ second.year := by
  rcases le_iff.mp ordered with earlier | ⟨same, -⟩
  · exact le_of_lt earlier
  · exact le_of_eq same

end CalendarDate

/-! ### The evaluation of a rule -/

def fiscalYearEndDate (year : Int) (fiscalYearEnd : FiscalYearEnd) : Option CalendarDate :=
  fromCalendarDate year fiscalYearEnd.month
    (min fiscalYearEnd.day (daysInMonth year fiscalYearEnd.month))

def addMonthsClamped (date : CalendarDate) (months : Nat) : Option CalendarDate :=
  let zeroBasedMonth := date.month - 1 + months
  let year := date.year + (zeroBasedMonth / 12 : Nat)
  let month := zeroBasedMonth % 12 + 1
  fromCalendarDate year month (min date.day (daysInMonth year month))

def dueDateOfFiscalYear (year : Int) (fiscalYearEnd : FiscalYearEnd) (months : Nat) :
    Option CalendarDate := do
  addMonthsClamped (← fiscalYearEndDate year fiscalYearEnd) months

/-- `profile_calendar_due_date_for_year`. -/
def dueDateForYear (dueYear : Int) (fiscalYearEnd : FiscalYearEnd) (months : Nat) :
    Option CalendarDate := do
  let sameYear ← dueDateOfFiscalYear dueYear fiscalYearEnd months
  if sameYear.year = dueYear then some sameYear
  else
    let yearBefore ← dueDateOfFiscalYear (dueYear - 1) fiscalYearEnd months
    if yearBefore.year = dueYear then some yearBefore
    else dueDateOfFiscalYear dueYear fiscalYearEnd months

/-- `profile_calendar_fixed_date_for_year`. -/
def fixedDateForYear (year : Int) (date : AnnualFixedDate) : Option CalendarDate :=
  fromCalendarDate year date.month (min date.day (daysInMonth year date.month))

def firstFiscalYearEnd (constitutionDate : CalendarDate) (fiscalYearEnd : FiscalYearEnd) :
    Option CalendarDate := do
  let constitutionYearEnd ← fiscalYearEndDate constitutionDate.year fiscalYearEnd
  if constitutionDate ≤ constitutionYearEnd then some constitutionYearEnd
  else fiscalYearEndDate (constitutionDate.year + 1) fiscalYearEnd

def firstApplicableAnnualDueDate (constitutionDate : CalendarDate)
    (fiscalYearEnd : FiscalYearEnd) (months : Nat) : Option CalendarDate := do
  addMonthsClamped (← firstFiscalYearEnd constitutionDate fiscalYearEnd) months

def firstApplicableFixedAnnualDueDate (constitutionDate : CalendarDate) (date : AnnualFixedDate) :
    Option CalendarDate := do
  let sameYearDue ← fixedDateForYear constitutionDate.year date
  if constitutionDate ≤ sameYearDue then some sameYearDue
  else fixedDateForYear (constitutionDate.year + 1) date

def isInFirstFiscalYear (constitutionDate : Option CalendarDate) (fiscalYearEnd : FiscalYearEnd)
    (today : CalendarDate) : Option Bool :=
  match constitutionDate with
  | none => some false
  | some constitutionDate =>
      (firstFiscalYearEnd constitutionDate fiscalYearEnd).map fun yearEnd => today ≤ yearEnd

def isBeforeFirstApplicableAnnualDue (constitutionDate : Option CalendarDate)
    (fiscalYearEnd : FiscalYearEnd) (months : Nat) (dueDate : CalendarDate) : Option Bool :=
  match constitutionDate with
  | none => some false
  | some constitutionDate =>
      (firstApplicableAnnualDueDate constitutionDate fiscalYearEnd months).map fun first =>
        dueDate < first

def isBeforeFirstApplicableFixedAnnualDue (constitutionDate : Option CalendarDate)
    (date : AnnualFixedDate) (dueDate : CalendarDate) : Option Bool :=
  match constitutionDate with
  | none => some false
  | some constitutionDate =>
      (firstApplicableFixedAnnualDueDate constitutionDate date).map fun first => dueDate < first

/-- The fiscal-year end a rule goes by, and where it comes from. -/
def resolveFiscalYearEnd (recorded : Option String) (default_ : FiscalYearEnd) :
    FiscalYearEnd × DueBasis :=
  match recorded, recorded.bind FiscalYearEnd.parse with
  | some _, some value => (value, .recordedFiscalYearEnd)
  | some _, none => (default_, .defaultFiscalYearEndUnreadableRecordedValue)
  | none, _ => (default_, .defaultFiscalYearEndMissingRecordedValue)

/-- `evaluate_profile_calendar_rule`; `none` where it panics. -/
def evaluate (rule : DueRule) (context : EvaluationContext) : Option RuleEvaluation :=
  match rule with
  | .fiscalYearEndOffset months default_ => do
      let resolved := resolveFiscalYearEnd context.recordedFiscalYearEnd default_
      if ← isInFirstFiscalYear context.constitutionDate resolved.1 context.today then
        return .suppressed .firstFiscalYear
      let dueDate ← dueDateForYear context.today.year resolved.1 months
      if ← isBeforeFirstApplicableAnnualDue context.constitutionDate resolved.1 months dueDate then
        return .suppressed .beforeFirstApplicableAnnualDue
      return .scheduled ⟨dueDate, some resolved.1, some months, none, resolved.2⟩
  | .annualFixedDate date => do
      let dueDate ← fixedDateForYear context.today.year date
      if ← isBeforeFirstApplicableFixedAnnualDue context.constitutionDate date dueDate then
        return .suppressed .beforeFirstApplicableAnnualDue
      return .scheduled ⟨dueDate, none, none, some date, .annualFixedDate⟩
  | .notEncoded reason => some (.unsupported reason)

/-! ### What can be built -/

section Dates

variable {year : Int} {month day months : Nat} {date : CalendarDate}
  {fiscalYearEnd : FiscalYearEnd}

theorem fromCalendarDate_eq_some_iff : fromCalendarDate year month day = some date ↔
    date.year = year ∧ date.month = month ∧ date.day = day := by
  unfold fromCalendarDate
  constructor
  · intro built
    split at built
    · cases built
      exact ⟨rfl, rfl, rfl⟩
    · cases built
  · rintro ⟨rfl, rfl, rfl⟩
    exact dif_pos ⟨date.years, date.months, date.days⟩

theorem one_le_daysInMonth : 1 ≤ daysInMonth year month := by
  unfold daysInMonth
  split
  all_goals try split
  all_goals omega

theorem exists_fromCalendarDate_iff (inYear : 1 ≤ month ∧ month ≤ 12) (positive : 1 ≤ day) :
    (∃ date, fromCalendarDate year month (min day (daysInMonth year month)) = some date) ↔
      -9999 ≤ year ∧ year ≤ 9999 := by
  constructor
  · rintro ⟨date, built⟩
    obtain ⟨rfl, -, -⟩ := fromCalendarDate_eq_some_iff.mp built
    exact date.years
  · intro years
    exact ⟨⟨year, month, _, years, inYear, le_min positive one_le_daysInMonth,
      Nat.min_le_right _ _⟩, fromCalendarDate_eq_some_iff.mpr ⟨rfl, rfl, rfl⟩⟩

theorem exists_fiscalYearEndDate_iff :
    (∃ date, fiscalYearEndDate year fiscalYearEnd = some date) ↔ -9999 ≤ year ∧ year ≤ 9999 :=
  exists_fromCalendarDate_iff fiscalYearEnd.valid.1 fiscalYearEnd.valid.2.1

theorem year_of_fiscalYearEndDate (built : fiscalYearEndDate year fiscalYearEnd = some date) :
    date.year = year ∧ date.month = fiscalYearEnd.month := by
  obtain ⟨sameYear, sameMonth, -⟩ := fromCalendarDate_eq_some_iff.mp built
  exact ⟨sameYear, sameMonth⟩

/-- The years that an offset adds to the end of a fiscal year. -/
def carry (fiscalYearEnd : FiscalYearEnd) (months : Nat) : Nat :=
  (fiscalYearEnd.month - 1 + months) / 12

theorem exists_addMonthsClamped_iff : (∃ due, addMonthsClamped date months = some due) ↔
    date.year + ((date.month - 1 + months) / 12 : Nat) ≤ 9999 := by
  have bounds := date.years
  have built := @exists_fromCalendarDate_iff (date.year + ((date.month - 1 + months) / 12 : Nat))
    ((date.month - 1 + months) % 12 + 1) date.day (by omega) date.days.1
  refine Iff.trans built ⟨fun years => years.2, fun upper => ⟨?_, upper⟩⟩
  omega

theorem year_of_addMonthsClamped {due : CalendarDate}
    (built : addMonthsClamped date months = some due) :
    due.year = date.year + ((date.month - 1 + months) / 12 : Nat) :=
  (fromCalendarDate_eq_some_iff.mp built).1

theorem exists_dueDateOfFiscalYear_iff :
    (∃ due, dueDateOfFiscalYear year fiscalYearEnd months = some due) ↔
      -9999 ≤ year ∧ year + carry fiscalYearEnd months ≤ 9999 := by
  unfold dueDateOfFiscalYear
  constructor
  · rintro ⟨due, built⟩
    obtain ⟨yearEnd, ended, added⟩ := Option.bind_eq_some_iff.mp built
    obtain ⟨rfl, sameMonth⟩ := year_of_fiscalYearEndDate ended
    have upper := exists_addMonthsClamped_iff.mp ⟨due, added⟩
    rw [sameMonth] at upper
    exact ⟨yearEnd.years.1, upper⟩
  · rintro ⟨lower, upper⟩
    obtain ⟨yearEnd, ended⟩ := (@exists_fiscalYearEndDate_iff year fiscalYearEnd).mpr
      ⟨lower, by omega⟩
    obtain ⟨sameYear, sameMonth⟩ := year_of_fiscalYearEndDate ended
    obtain ⟨due, added⟩ := (@exists_addMonthsClamped_iff months yearEnd).mpr (by
      rw [sameYear, sameMonth]
      exact upper)
    exact ⟨due, Option.bind_eq_some_iff.mpr ⟨yearEnd, ended, added⟩⟩

theorem year_of_dueDateOfFiscalYear {due : CalendarDate}
    (built : dueDateOfFiscalYear year fiscalYearEnd months = some due) :
    due.year = year + carry fiscalYearEnd months := by
  obtain ⟨yearEnd, ended, added⟩ := Option.bind_eq_some_iff.mp built
  obtain ⟨rfl, sameMonth⟩ := year_of_fiscalYearEndDate ended
  rw [year_of_addMonthsClamped added, sameMonth]
  rfl

theorem carry_le_one (fiscalYearEnd : FiscalYearEnd) (offset : months ≤ 12) :
    carry fiscalYearEnd months ≤ 1 := by
  have month := fiscalYearEnd.valid.1
  unfold carry
  omega

/-- The due date of a year can be built: neither the year before nor the one after is needed, or
there is one. -/
def YearFits (fiscalYearEnd : FiscalYearEnd) (months : Nat) (year : Int) : Prop :=
  (-9999 ≤ year ∧ year ≤ 9999) ∧
    (carry fiscalYearEnd months ≠ 0 → -9999 < year ∧ year < 9999)

/-- **The due date of a year lies in it.** -/
theorem year_of_dueDateForYear {due : CalendarDate} (offset : months ≤ 12)
    (built : dueDateForYear year fiscalYearEnd months = some due) : due.year = year := by
  have atMost := carry_le_one fiscalYearEnd offset
  unfold dueDateForYear at built
  obtain ⟨sameYear, first, built⟩ := Option.bind_eq_some_iff.mp built
  split at built
  · next within =>
      cases built
      exact within
  · next apart =>
      obtain ⟨yearBefore, second, built⟩ := Option.bind_eq_some_iff.mp built
      split at built
      · next within =>
          cases built
          exact within
      · next apart' =>
          have years := year_of_dueDateOfFiscalYear first
          have years' := year_of_dueDateOfFiscalYear second
          omega

theorem exists_dueDateForYear_iff (offset : months ≤ 12) :
    (∃ due, dueDateForYear year fiscalYearEnd months = some due) ↔
      YearFits fiscalYearEnd months year := by
  have atMost := carry_le_one fiscalYearEnd offset
  unfold dueDateForYear YearFits
  constructor
  · rintro ⟨due, built⟩
    obtain ⟨sameYear, first, built⟩ := Option.bind_eq_some_iff.mp built
    have bounds := exists_dueDateOfFiscalYear_iff.mp ⟨_, first⟩
    refine ⟨by omega, fun carries => ?_⟩
    have years := year_of_dueDateOfFiscalYear first
    rw [if_neg (by omega)] at built
    obtain ⟨yearBefore, second, -⟩ := Option.bind_eq_some_iff.mp built
    have bounds' := exists_dueDateOfFiscalYear_iff.mp ⟨_, second⟩
    omega
  · rintro ⟨bounds, fits⟩
    obtain ⟨sameYear, first⟩ := (@exists_dueDateOfFiscalYear_iff year months fiscalYearEnd).mpr
      (by omega)
    have years := year_of_dueDateOfFiscalYear first
    rw [first, Option.bind_eq_bind, Option.bind_some]
    by_cases carries : carry fiscalYearEnd months = 0
    · exact ⟨sameYear, if_pos (by omega)⟩
    · have inside := fits carries
      obtain ⟨yearBefore, second⟩ :=
        (@exists_dueDateOfFiscalYear_iff (year - 1) months fiscalYearEnd).mpr (by omega)
      have years' := year_of_dueDateOfFiscalYear second
      rw [if_neg (by omega), second]
      exact ⟨yearBefore, if_pos (by omega)⟩

theorem dueDateForYear_le {later : Int} {due due' : CalendarDate} (offset : months ≤ 12)
    (ordered : year ≤ later) (built : dueDateForYear year fiscalYearEnd months = some due)
    (built' : dueDateForYear later fiscalYearEnd months = some due') : due ≤ due' := by
  rcases lt_or_eq_of_le ordered with earlier | rfl
  · refine le_of_lt (CalendarDate.lt_of_year_lt ?_)
    rw [year_of_dueDateForYear offset built, year_of_dueDateForYear offset built']
    exact earlier
  · cases built.symm.trans built'
    exact le_rfl

end Dates

/-! ### The first fiscal year -/

section FirstYear

variable {constitutionDate : CalendarDate} {fiscalYearEnd : FiscalYearEnd} {months : Nat}

/-- An entity constituted in the last year there is has the end of a fiscal year before it. -/
def FirstEndFits (fiscalYearEnd : FiscalYearEnd) (constitutionDate : CalendarDate) : Prop :=
  constitutionDate.year = 9999 →
    ∃ yearEnd, fiscalYearEndDate 9999 fiscalYearEnd = some yearEnd ∧ constitutionDate ≤ yearEnd

theorem exists_firstFiscalYearEnd_iff :
    (∃ first, firstFiscalYearEnd constitutionDate fiscalYearEnd = some first) ↔
      FirstEndFits fiscalYearEnd constitutionDate := by
  have years := constitutionDate.years
  obtain ⟨yearEnd, ended⟩ := exists_fiscalYearEndDate_iff.mpr years
  unfold firstFiscalYearEnd FirstEndFits
  rw [ended, Option.bind_eq_bind, Option.bind_some]
  by_cases within : constitutionDate ≤ yearEnd
  · rw [if_pos within]
    exact iff_of_true ⟨yearEnd, rfl⟩ fun last => ⟨yearEnd, last ▸ ended, within⟩
  · rw [if_neg within, exists_fiscalYearEndDate_iff]
    constructor
    · intro next last
      omega
    · intro fits
      refine ⟨by omega, ?_⟩
      by_contra beyond
      have last : constitutionDate.year = 9999 := by omega
      obtain ⟨other, ended', within'⟩ := fits last
      rw [last] at ended
      cases ended.symm.trans ended'
      exact within within'

theorem fiscalYearEndDate_le {year later : Int} {yearEnd yearEnd' : CalendarDate}
    (ended : fiscalYearEndDate year fiscalYearEnd = some yearEnd)
    (ended' : fiscalYearEndDate later fiscalYearEnd = some yearEnd') (ordered : year ≤ later) :
    yearEnd ≤ yearEnd' := by
  rcases lt_or_eq_of_le ordered with earlier | rfl
  · refine le_of_lt (CalendarDate.lt_of_year_lt ?_)
    rw [(year_of_fiscalYearEndDate ended).1, (year_of_fiscalYearEndDate ended').1]
    exact earlier
  · cases ended.symm.trans ended'
    exact le_rfl

/-- The first end of a fiscal year on or after a date. -/
structure IsFirstEnd (fiscalYearEnd : FiscalYearEnd) (constitutionDate first : CalendarDate) :
    Prop where
  after : constitutionDate ≤ first
  ends : ∃ year, fiscalYearEndDate year fiscalYearEnd = some first
  least : ∀ year other, fiscalYearEndDate year fiscalYearEnd = some other →
    constitutionDate ≤ other → first ≤ other

theorem isFirstEnd_of_firstFiscalYearEnd {first : CalendarDate}
    (found : firstFiscalYearEnd constitutionDate fiscalYearEnd = some first) :
    IsFirstEnd fiscalYearEnd constitutionDate first := by
  unfold firstFiscalYearEnd at found
  obtain ⟨yearEnd, ended, found⟩ := Option.bind_eq_some_iff.mp found
  have reached : ∀ {year other}, fiscalYearEndDate year fiscalYearEnd = some other →
      constitutionDate ≤ other → constitutionDate.year ≤ year := fun ended' within =>
    (CalendarDate.year_le within).trans_eq (year_of_fiscalYearEndDate ended').1
  split at found
  · next within =>
      cases found
      exact ⟨within, ⟨_, ended⟩, fun year other ended' within' =>
        fiscalYearEndDate_le ended ended' (reached ended' within')⟩
  · next beyond =>
      refine ⟨le_of_lt (CalendarDate.lt_of_year_lt ?_), ⟨_, found⟩, fun year other ended' within' =>
        fiscalYearEndDate_le found ended' ?_⟩
      · rw [(year_of_fiscalYearEndDate found).1]
        omega
      · have later : constitutionDate.year ≠ year := by
          rintro rfl
          cases ended.symm.trans ended'
          exact beyond within'
        have atLeast := reached ended' within'
        omega

end FirstYear

/-! ### The evaluations -/

section Evaluations

variable {months : Nat} {default_ : FiscalYearEnd} {recorded : Option String}
  {constitutionDate : Option CalendarDate} {today later : CalendarDate}

def Evaluable (fiscalYearEnd : FiscalYearEnd) (months : Nat)
    (constitutionDate : Option CalendarDate) (today : CalendarDate) : Prop :=
  (∀ constituted ∈ constitutionDate, FirstEndFits fiscalYearEnd constituted) ∧
    (isInFirstFiscalYear constitutionDate fiscalYearEnd today = some true ∨
      YearFits fiscalYearEnd months today.year)

def yearEndOf (recorded : Option String) (default_ : FiscalYearEnd) : FiscalYearEnd :=
  (resolveFiscalYearEnd recorded default_).1

theorem exists_isInFirstFiscalYear_iff {fiscalYearEnd : FiscalYearEnd} :
    (∃ inside, isInFirstFiscalYear constitutionDate fiscalYearEnd today = some inside) ↔
      ∀ constituted ∈ constitutionDate, FirstEndFits fiscalYearEnd constituted := by
  cases constitutionDate with
  | none =>
      refine iff_of_true ⟨false, rfl⟩ fun constituted member => ?_
      cases member
  | some constituted =>
      have found := @exists_firstFiscalYearEnd_iff constituted fiscalYearEnd
      simp only [isInFirstFiscalYear, Option.map_eq_some_iff, Option.mem_def, Option.some.injEq,
        forall_eq', ← found]
      exact ⟨fun ⟨_, first, ended, _⟩ => ⟨first, ended⟩, fun ⟨first, ended⟩ =>
        ⟨_, first, ended, rfl⟩⟩

theorem exists_isBefore {fiscalYearEnd : FiscalYearEnd} (offset : months ≤ 12)
    (outside : isInFirstFiscalYear constitutionDate fiscalYearEnd today = some false)
    (fits : YearFits fiscalYearEnd months today.year) (due : CalendarDate) :
    ∃ before, isBeforeFirstApplicableAnnualDue constitutionDate fiscalYearEnd months due =
      some before := by
  cases constitutionDate with
  | none => exact ⟨false, rfl⟩
  | some constituted =>
      obtain ⟨first, ended, past⟩ := Option.map_eq_some_iff.mp outside
      obtain ⟨year, ends⟩ := (isFirstEnd_of_firstFiscalYearEnd ended).ends
      have notAfter : first ≤ today := le_of_lt (not_le.mp (of_decide_eq_false past))
      have years := CalendarDate.year_le notAfter
      have atMost := carry_le_one fiscalYearEnd offset
      obtain ⟨bounds, inside⟩ := fits
      obtain ⟨due0, added⟩ := (@exists_addMonthsClamped_iff months first).mpr (by
        rw [(year_of_fiscalYearEndDate ends).2]
        change first.year + (carry fiscalYearEnd months : Int) ≤ 9999
        by_cases carries : carry fiscalYearEnd months = 0
        · omega
        · have room := inside carries
          omega)
      have applicable : firstApplicableAnnualDueDate constituted fiscalYearEnd months = some due0 :=
        Option.bind_eq_some_iff.mpr ⟨first, ended, added⟩
      exact ⟨decide (due < due0), Option.map_eq_some_iff.mpr ⟨due0, applicable, rfl⟩⟩

theorem evaluate_eq_scheduled_iff {rule : ScheduledRule} :
    evaluate (.fiscalYearEndOffset months default_) ⟨today, recorded, constitutionDate⟩ =
        some (.scheduled rule) ↔
      isInFirstFiscalYear constitutionDate (yearEndOf recorded default_) today = some false ∧
      dueDateForYear today.year (yearEndOf recorded default_) months = some rule.dueDate ∧
      isBeforeFirstApplicableAnnualDue constitutionDate (yearEndOf recorded default_) months
        rule.dueDate = some false ∧
      rule = ⟨rule.dueDate, some (yearEndOf recorded default_), some months, none,
        (resolveFiscalYearEnd recorded default_).2⟩ := by
  unfold evaluate yearEndOf
  dsimp only
  generalize resolveFiscalYearEnd recorded default_ = resolved
  cases isInFirstFiscalYear constitutionDate resolved.1 today with
  | none => exact iff_of_false nofun nofun
  | some first =>
      cases first with
      | true => exact iff_of_false nofun nofun
      | false =>
          cases dueDateForYear today.year resolved.1 months with
          | none => exact iff_of_false nofun nofun
          | some due =>
              simp only [Option.bind_eq_bind, Option.bind_some, Bool.false_eq_true, ↓reduceIte,
                Option.some.injEq, true_and, Option.pure_def]
              constructor
              · intro scheduled
                obtain ⟨before, found, scheduled⟩ := Option.bind_eq_some_iff.mp scheduled
                cases before with
                | true => cases scheduled
                | false =>
                    cases scheduled
                    exact ⟨rfl, found, rfl⟩
              · rintro ⟨rfl, found, same⟩
                rw [found, Option.bind_some, if_neg (by decide), ← same]

/-- **A rule of the fiscal year is evaluated just where all its dates are represented.** -/
theorem exists_evaluate_iff (offset : months ≤ 12) :
    (∃ evaluation, evaluate (.fiscalYearEndOffset months default_)
        ⟨today, recorded, constitutionDate⟩ = some evaluation) ↔
      Evaluable (yearEndOf recorded default_) months constitutionDate today := by
  unfold Evaluable
  rw [← @exists_isInFirstFiscalYear_iff _ today]
  unfold evaluate yearEndOf
  dsimp only
  generalize resolveFiscalYearEnd recorded default_ = resolved
  cases first : isInFirstFiscalYear constitutionDate resolved.1 today with
  | none =>
      refine iff_of_false ?_ ?_
      · rintro ⟨evaluation, evaluated⟩
        cases evaluated
      · rintro ⟨⟨inside, found⟩, -⟩
        cases found
  | some inside =>
      cases inside with
      | true => exact iff_of_true ⟨_, rfl⟩ ⟨⟨true, rfl⟩, .inl rfl⟩
      | false =>
          have fits := @exists_dueDateForYear_iff today.year months resolved.1 offset
          simp only [Option.bind_eq_bind, Option.bind_some, Bool.false_eq_true, ↓reduceIte,
            Option.some.injEq, false_or, ← fits, Option.pure_def]
          constructor
          · rintro ⟨evaluation, evaluated⟩
            obtain ⟨due, found, -⟩ := Option.bind_eq_some_iff.mp evaluated
            exact ⟨⟨false, rfl⟩, due, found⟩
          · rintro ⟨-, due, found⟩
            obtain ⟨before, compared⟩ := exists_isBefore offset first (fits.mp ⟨due, found⟩) due
            rw [found, Option.bind_some, compared, Option.bind_some]
            cases before with
            | true => exact ⟨_, rfl⟩
            | false => exact ⟨_, rfl⟩

theorem scheduled_later (offset : months ≤ 12) (ordered : today ≤ later) {rule : ScheduledRule}
    (scheduled : evaluate (.fiscalYearEndOffset months default_)
      ⟨today, recorded, constitutionDate⟩ = some (.scheduled rule))
    (evaluated : Evaluable (yearEndOf recorded default_) months constitutionDate later) :
    ∃ rule', evaluate (.fiscalYearEndOffset months default_)
        ⟨later, recorded, constitutionDate⟩ = some (.scheduled rule') ∧
      rule.dueDate ≤ rule'.dueDate := by
  obtain ⟨outside, due, unbefore, -⟩ := evaluate_eq_scheduled_iff.mp scheduled
  have outside' : isInFirstFiscalYear constitutionDate (yearEndOf recorded default_) later =
      some false := by
    cases constitutionDate with
    | none => rfl
    | some constituted =>
        obtain ⟨first, ended, past⟩ := Option.map_eq_some_iff.mp outside
        refine Option.map_eq_some_iff.mpr ⟨first, ended, decide_eq_false fun within => ?_⟩
        exact of_decide_eq_false past (ordered.trans within)
  have fits : YearFits (yearEndOf recorded default_) months later.year := by
    rcases evaluated.2 with inside | fits
    · rw [outside'] at inside
      cases inside
    · exact fits
  obtain ⟨due', found⟩ := (exists_dueDateForYear_iff offset).mpr fits
  have notEarlier := dueDateForYear_le offset (CalendarDate.year_le ordered) due found
  refine ⟨⟨due', some (yearEndOf recorded default_), some months, none,
    (resolveFiscalYearEnd recorded default_).2⟩, ?_, notEarlier⟩
  refine evaluate_eq_scheduled_iff.mpr ⟨outside', found, ?_, rfl⟩
  cases constitutionDate with
  | none => rfl
  | some constituted =>
      obtain ⟨first, applicable, past⟩ := Option.map_eq_some_iff.mp unbefore
      refine Option.map_eq_some_iff.mpr ⟨first, applicable, decide_eq_false fun before => ?_⟩
      exact of_decide_eq_false past (lt_of_le_of_lt notEarlier before)

theorem first_le_scheduled {constituted : CalendarDate} {rule : ScheduledRule}
    (scheduled : evaluate (.fiscalYearEndOffset months default_)
      ⟨today, recorded, some constituted⟩ = some (.scheduled rule)) :
    ∃ first due, IsFirstEnd (yearEndOf recorded default_) constituted first ∧
      addMonthsClamped first months = some due ∧ due ≤ rule.dueDate := by
  obtain ⟨-, -, unbefore, -⟩ := evaluate_eq_scheduled_iff.mp scheduled
  obtain ⟨due, applicable, past⟩ := Option.map_eq_some_iff.mp unbefore
  obtain ⟨first, ended, added⟩ := Option.bind_eq_some_iff.mp applicable
  exact ⟨first, due, isFirstEnd_of_firstFiscalYearEnd ended, added,
    not_lt.mp (of_decide_eq_false past)⟩

/-- What is asked of a rule of the fiscal year, for two days and a year: it is evaluated on both
days, the due date of the year lies in it, a scheduled rule stays scheduled and not for an earlier
date, and no date is scheduled before the first one that applies. -/
structure Keeps (months : Nat) (default_ : FiscalYearEnd) (recorded : Option String)
    (constitutionDate : Option CalendarDate) (today later : CalendarDate) (year : Int) : Prop where
  evaluated : ∃ evaluation, evaluate (.fiscalYearEndOffset months default_)
    ⟨today, recorded, constitutionDate⟩ = some evaluation
  evaluatedLater : ∃ evaluation, evaluate (.fiscalYearEndOffset months default_)
    ⟨later, recorded, constitutionDate⟩ = some evaluation
  inYear : ∃ due, dueDateForYear year (yearEndOf recorded default_) months = some due ∧
    due.year = year
  monotone : today ≤ later → ∀ rule, evaluate (.fiscalYearEndOffset months default_)
      ⟨today, recorded, constitutionDate⟩ = some (.scheduled rule) →
    ∃ rule', evaluate (.fiscalYearEndOffset months default_)
        ⟨later, recorded, constitutionDate⟩ = some (.scheduled rule') ∧
      rule.dueDate ≤ rule'.dueDate
  notBefore : ∀ rule, evaluate (.fiscalYearEndOffset months default_)
      ⟨today, recorded, constitutionDate⟩ = some (.scheduled rule) →
    ∀ constituted ∈ constitutionDate, ∃ first due,
      IsFirstEnd (yearEndOf recorded default_) constituted first ∧
        addMonthsClamped first months = some due ∧ due ≤ rule.dueDate

/-- **The annual calendar**: all that is asked of it holds just where every date it needs is
represented. -/
theorem calendar_iff (offset : 1 ≤ months ∧ months ≤ 12) (year : Int) :
    Keeps months default_ recorded constitutionDate today later year ↔
      Evaluable (yearEndOf recorded default_) months constitutionDate today ∧
        Evaluable (yearEndOf recorded default_) months constitutionDate later ∧
        YearFits (yearEndOf recorded default_) months year := by
  constructor
  · rintro ⟨evaluated, evaluatedLater, ⟨due, found, -⟩, -, -⟩
    exact ⟨(exists_evaluate_iff offset.2).mp evaluated,
      (exists_evaluate_iff offset.2).mp evaluatedLater,
      (exists_dueDateForYear_iff offset.2).mp ⟨due, found⟩⟩
  · rintro ⟨evaluable, evaluableLater, fits⟩
    obtain ⟨due, found⟩ := (exists_dueDateForYear_iff offset.2).mpr fits
    refine ⟨(exists_evaluate_iff offset.2).mpr evaluable,
      (exists_evaluate_iff offset.2).mpr evaluableLater,
      ⟨due, found, year_of_dueDateForYear offset.2 found⟩, fun ordered rule scheduled =>
        scheduled_later offset.2 ordered scheduled evaluableLater, fun rule scheduled constituted
        member => ?_⟩
    cases member
    exact first_le_scheduled scheduled

end Evaluations

section LastYear

theorem valid_december31 : (1 ≤ 12 ∧ 12 ≤ 12) ∧ 1 ≤ 31 ∧ 31 ≤ daysInMonth 2000 12 := by decide

/-- `DEFAULT_PROFILE_CALENDAR_FISCAL_YEAR_END`. -/
def december31 : FiscalYearEnd := ⟨12, 31, valid_december31⟩

theorem years_lastYear : (-9999 : Int) ≤ 9999 ∧ (9999 : Int) ≤ 9999 := by decide

theorem months_lastYear : 1 ≤ 6 ∧ 6 ≤ 12 := by decide

theorem days_lastYear : 1 ≤ 1 ∧ 1 ≤ daysInMonth 9999 6 := by decide

def inLastYear : CalendarDate := ⟨9999, 6, 1, years_lastYear, months_lastYear, days_lastYear⟩

theorem calendar_iff_inLastYear :
    Keeps 3 december31 none none inLastYear inLastYear 2026 ↔
      Evaluable (yearEndOf none december31) 3 none inLastYear ∧
        Evaluable (yearEndOf none december31) 3 none inLastYear ∧
        YearFits (yearEndOf none december31) 3 2026 :=
  calendar_iff (by decide) 2026

/-- In the last year there is, the due date of a fiscal year that ends with it is built, and is
not represented. -/
theorem panics_inLastYear : ¬∀ (months : Nat) (default_ : FiscalYearEnd)
    (recorded : Option String) (constitutionDate : Option CalendarDate)
    (today later : CalendarDate) (year : Int), 1 ≤ months ∧ months ≤ 12 →
    -9999 ≤ year ∧ year ≤ 9999 →
    Keeps months default_ recorded constitutionDate today later year := by
  intro holds
  have keeps := holds 3 december31 none none inLastYear inLastYear 2026 (by decide) (by decide)
  have evaluable := (exists_evaluate_iff (by decide)).mp keeps.evaluated
  rcases evaluable.2 with inside | fits
  · cases inside
  · have carries : carry (yearEndOf none december31) 3 ≠ 0 := by decide
    exact absurd (fits.2 carries).2 (by decide)

end LastYear

end Chancela.ProfileCalendar
