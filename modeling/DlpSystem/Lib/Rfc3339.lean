import DlpSystem.Lib.DecimalText
import Mathlib.Algebra.Order.Group.Nat
import Mathlib.Data.Nat.Find
import Mathlib.Tactic.IntervalCases

/-!
# Times as RFC 3339 texts

The text of a time shows its local date and clock, the fraction of the second without
trailing zeros in groups of three digits, and the offset from UTC.  Texts with a year of
four digits are ordered as the local times that they show.
-/

namespace DlpSystem.Lib

/-! ## The calendar

Days are counted from the first day of the year 0, months and days of a month from zero. -/

/-- The days before a year of the Gregorian calendar. -/
def daysBeforeYear (year : Nat) : Nat :=
  365 * year + (year + 3) / 4 - (year + 99) / 100 + (year + 399) / 400

def isLeapYear (year : Nat) : Bool :=
  year % 4 = 0 && (year % 100 ≠ 0 || year % 400 = 0)

/-- The days of a year before a month. -/
def daysBeforeMonth (leap : Bool) (month : Nat) : Nat :=
  [0, 31, 59, 90, 120, 151, 181, 212, 243, 273, 304, 334].getD month 365 +
    if leap && 2 ≤ month then 1 else 0

/-- The year that a day is in: the last one that has begun. -/
def yearOfDay (day : Nat) : Nat :=
  Nat.findGreatest (fun year => daysBeforeYear year ≤ day) (day / 365 + 1)

def dayOfYear (day : Nat) : Nat :=
  day - daysBeforeYear (yearOfDay day)

/-- The month that a day is in. -/
def monthOfDay (day : Nat) : Nat :=
  Nat.findGreatest (fun month => daysBeforeMonth (isLeapYear (yearOfDay day)) month ≤ dayOfYear day)
    11

def dayOfMonth (day : Nat) : Nat :=
  dayOfYear day - daysBeforeMonth (isLeapYear (yearOfDay day)) (monthOfDay day)

theorem daysBeforeYear_yearOfDay (day : Nat) : daysBeforeYear (yearOfDay day) ≤ day := by
  apply @Nat.findGreatest_spec 0 (fun year => daysBeforeYear year ≤ day) _ _ (Nat.zero_le _)
  exact Nat.zero_le _

theorem lt_daysBeforeYear (day : Nat) : day < daysBeforeYear (yearOfDay day + 1) := by
  have begun := daysBeforeYear_yearOfDay day
  have bounded : yearOfDay day + 1 ≤ day / 365 + 1 := by
    unfold daysBeforeYear at begun
    omega
  apply Nat.lt_of_not_le
  exact @Nat.findGreatest_is_greatest _ (fun year => daysBeforeYear year ≤ day) _
    (day / 365 + 1) (Nat.lt_succ_self _) bounded

theorem daysBeforeYear_mono : Monotone daysBeforeYear := by
  apply monotone_nat_of_le_succ
  intro year
  unfold daysBeforeYear
  omega

/-- A day is in the years up to some year, or that year is over before it. -/
theorem yearOfDay_le_iff {day year : Nat} :
    yearOfDay day ≤ year ↔ day < daysBeforeYear (year + 1) := by
  constructor
  · intro le
    exact (lt_daysBeforeYear day).trans_le (daysBeforeYear_mono (Nat.succ_le_succ le))
  · intro before
    by_contra later
    have begun := @daysBeforeYear_mono (year + 1) _ (Nat.lt_of_not_le later)
    have inYear := daysBeforeYear_yearOfDay day
    omega

theorem dayOfYear_lt (day : Nat) : dayOfYear day < 366 := by
  have inYear := lt_daysBeforeYear day
  unfold dayOfYear
  unfold daysBeforeYear at inYear ⊢
  omega

theorem yearOfDay_mono {early late : Nat} (le : early ≤ late) : yearOfDay early ≤ yearOfDay late :=
  yearOfDay_le_iff.mpr (le.trans_lt (lt_daysBeforeYear late))

theorem daysBeforeMonth_monthOfDay (day : Nat) :
    daysBeforeMonth (isLeapYear (yearOfDay day)) (monthOfDay day) ≤ dayOfYear day := by
  apply @Nat.findGreatest_spec 0
    (fun month => daysBeforeMonth (isLeapYear (yearOfDay day)) month ≤ dayOfYear day) _ _
    (Nat.zero_le _)
  have none : daysBeforeMonth (isLeapYear (yearOfDay day)) 0 = 0 := by
    simp [daysBeforeMonth]
  rw [none]
  exact Nat.zero_le _

theorem monthOfDay_le (day : Nat) : monthOfDay day ≤ 11 :=
  Nat.findGreatest_le 11

theorem dayOfMonth_le (day : Nat) : dayOfMonth day ≤ 31 := by
  have inYear := dayOfYear_lt day
  have lengths : ∀ leap : Bool, ∀ month < 11,
      daysBeforeMonth leap (month + 1) ≤ daysBeforeMonth leap month + 31 := by decide
  have lastMonth : ∀ leap : Bool, 334 ≤ daysBeforeMonth leap 11 := by decide
  unfold dayOfMonth
  rcases Nat.lt_or_ge (monthOfDay day) 11 with inner | last
  · have next := @Nat.findGreatest_is_greatest (monthOfDay day + 1)
      (fun month => daysBeforeMonth (isLeapYear (yearOfDay day)) month ≤ dayOfYear day) _
      11 (Nat.lt_succ_self (monthOfDay day)) inner
    have length := lengths (isLeapYear (yearOfDay day)) (monthOfDay day) inner
    omega
  · rw [Nat.le_antisymm (monthOfDay_le day) last]
    have length := lastMonth (isLeapYear (yearOfDay day))
    omega

/-- Later days have later dates. -/
theorem date_lt_of_lt {early late : Nat} (lt : early < late) :
    yearOfDay early < yearOfDay late ∨ yearOfDay early = yearOfDay late ∧
      (monthOfDay early < monthOfDay late ∨ monthOfDay early = monthOfDay late ∧
        dayOfMonth early < dayOfMonth late) := by
  have begun := daysBeforeYear_yearOfDay early
  rcases (yearOfDay_mono lt.le).lt_or_eq with year | year
  · exact .inl year
  · have sooner : dayOfYear early < dayOfYear late := by
      unfold dayOfYear
      rw [← year]
      omega
    have months : monthOfDay early ≤ monthOfDay late := by
      unfold monthOfDay
      rw [year]
      exact Nat.findGreatest_mono_left (fun month reached => reached.trans sooner.le) 11
    have reached := daysBeforeMonth_monthOfDay early
    rcases months.lt_or_eq with month | month
    · exact .inr ⟨year, .inl month⟩
    · have days : dayOfMonth early < dayOfMonth late := by
        unfold dayOfMonth
        rw [← year, ← month]
        omega
      exact .inr ⟨year, .inr ⟨month, days⟩⟩

/-! ## Local times -/

/-- A local time and its offset from UTC. -/
structure LocalTime where
  /-- Seconds since the start of the year 0. -/
  seconds : Nat
  /-- Nanoseconds of the second.  In a leap second they go on from those of the second
  before it. -/
  nanos : Nat
  /-- Minutes ahead of UTC. -/
  offset : Int
  nanos_lt : nanos < 2000000000
  leapSecond : 1000000000 ≤ nanos → seconds % 60 = 59
  offset_lt : offset.natAbs < 1440

namespace LocalTime

def day (time : LocalTime) : Nat :=
  time.seconds / 86400

def year (time : LocalTime) : Nat :=
  yearOfDay time.day

/-- The place of a local time in the order of local times. -/
def place (time : LocalTime) : Nat :=
  time.seconds * 2000000000 + time.nanos

/-- The place of the same moment in the order of the times of UTC. -/
def instant (time : LocalTime) : Int :=
  (time.seconds - 60 * time.offset) * 2000000000 + time.nanos

end LocalTime

/-- The year, with a sign if it has more than four digits. -/
def yearText (year : Nat) : List Char :=
  if year ≤ 9999 then decimalText 4 year else '+' :: Nat.toDigits 10 year

/-- The fraction of a second in nanoseconds. -/
def fractionText (nanos : Nat) : List Char :=
  if nanos = 0 then []
  else if nanos % 1000000 = 0 then '.' :: decimalText 3 (nanos / 1000000)
  else if nanos % 1000 = 0 then '.' :: decimalText 6 (nanos / 1000)
  else '.' :: decimalText 9 nanos

/-- The offset in minutes. -/
def offsetText (offset : Int) : List Char :=
  (if offset < 0 then '-' else '+') ::
    (decimalText 2 (offset.natAbs / 60) ++ ':' :: decimalText 2 (offset.natAbs % 60))

/-- A number of two digits behind a separator. -/
def field (separator : Char) (number : Nat) (rest : List Char) : List Char :=
  separator :: (decimalText 2 number ++ rest)

/-- The text of a time. -/
def rfc3339Text (time : LocalTime) : List Char :=
  yearText time.year ++
    field '-' (monthOfDay time.day + 1) (field '-' (dayOfMonth time.day + 1)
      (field 'T' (time.seconds / 3600 % 24) (field ':' (time.seconds / 60 % 60)
        (field ':' (time.seconds % 60 + time.nanos / 1000000000)
          (fractionText (time.nanos % 1000000000) ++ offsetText time.offset)))))

def rfc3339 (time : LocalTime) : String :=
  String.ofList (rfc3339Text time)

/-! ## The order of the texts -/

theorem field_lt_iff {separator : Char} {left right : Nat} {leftRest rightRest : List Char}
    (leftSmall : left < 100) (rightSmall : right < 100) :
    field separator left leftRest < field separator right rightRest ↔
      left < right ∨ left = right ∧ leftRest < rightRest := by
  rw [field, field, List.cons_lt_cons_self, decimalText_append_lt_iff leftSmall rightSmall]

/-- The dates of two days are ordered as the days. -/
theorem date_lt_iff (left right : Nat) (rest : Prop) :
    (yearOfDay left < yearOfDay right ∨ yearOfDay left = yearOfDay right ∧
      (monthOfDay left + 1 < monthOfDay right + 1 ∨ monthOfDay left + 1 = monthOfDay right + 1 ∧
        (dayOfMonth left + 1 < dayOfMonth right + 1 ∨
          dayOfMonth left + 1 = dayOfMonth right + 1 ∧ rest))) ↔
      left < right ∨ left = right ∧ rest := by
  rcases Nat.lt_trichotomy left right with less | rfl | more
  · have dates := date_lt_of_lt less
    simp only [less, true_or, iff_true]
    omega
  · simp
  · have dates := date_lt_of_lt more
    simp only [more.not_gt, more.ne', false_and, or_self, iff_false]
    omega

/-- A fraction shows the digits of its nanoseconds, but for zeros at the end. -/
theorem fractionText_digits {nanos : Nat} (present : nanos ≠ 0) :
    ∃ digits, fractionText nanos = '.' :: digits ∧ digits.length ≤ 9 ∧
      (∀ char ∈ digits, '0' ≤ char) ∧ padZeros 9 digits = decimalText 9 nanos := by
  rw [fractionText, if_neg present]
  split
  · rename_i millis
    exact ⟨_, rfl, by simp, fun _ => mem_decimalText,
      @padZeros_decimalText 3 6 nanos millis⟩
  · split
    · rename_i micros
      exact ⟨_, rfl, by simp, fun _ => mem_decimalText,
        @padZeros_decimalText 6 3 nanos micros⟩
    · exact ⟨_, rfl, by simp, fun _ => mem_decimalText, by simp [padZeros]⟩

/-- A smaller fraction comes first, whatever offsets follow. -/
theorem fractionText_append_lt {left right : Nat} {leftSign rightSign : Char}
    {leftRest rightRest : List Char} (leftSmall : left < 1000000000)
    (rightSmall : right < 1000000000) (early : leftSign < '.') (less : left < right) :
    fractionText left ++ leftSign :: leftRest < fractionText right ++ rightSign :: rightRest := by
  obtain ⟨rightDigits, rightText, -, areRight, rightPadded⟩ :=
    fractionText_digits (Nat.ne_of_gt (Nat.lt_of_le_of_lt (Nat.zero_le _) less))
  rw [rightText]
  by_cases none : left = 0
  · subst none
    rw [fractionText, if_pos rfl, List.nil_append, List.cons_append, List.cons_lt_cons_iff]
    exact .inl early
  · obtain ⟨leftDigits, leftText, short, areLeft, leftPadded⟩ := fractionText_digits none
    have ordered := (@decimalText_append_lt_iff 9 left right [] [] leftSmall rightSmall).mpr
      (.inl less)
    rw [List.append_nil, List.append_nil, ← leftPadded, ← rightPadded] at ordered
    rw [leftText, List.cons_append, List.cons_append, List.cons_lt_cons_self]
    exact append_lt_of_padZeros_lt short areLeft areRight (early.trans (by decide)) ordered

theorem offsetText_eq (offset : Int) :
    ∃ sign rest, offsetText offset = sign :: rest ∧ sign < '.' := by
  unfold offsetText
  split
  · exact ⟨_, _, rfl, by decide⟩
  · exact ⟨_, _, rfl, by decide⟩

theorem fraction_lt_iff {left right : Nat} (leftOffset rightOffset : Int)
    (leftSmall : left < 1000000000) (rightSmall : right < 1000000000) :
    fractionText left ++ offsetText leftOffset < fractionText right ++ offsetText rightOffset ↔
      left < right ∨ left = right ∧ offsetText leftOffset < offsetText rightOffset := by
  obtain ⟨leftSign, leftRest, leftText, leftEarly⟩ := offsetText_eq leftOffset
  obtain ⟨rightSign, rightRest, rightText, rightEarly⟩ := offsetText_eq rightOffset
  rw [leftText, rightText]
  rcases Nat.lt_trichotomy left right with less | rfl | more
  · simp only [less, true_or, iff_true]
    exact fractionText_append_lt leftSmall rightSmall leftEarly less
  · simp [append_lt_append_iff]
  · simp only [more.not_gt, more.ne', false_and, or_self, iff_false]
    exact (fractionText_append_lt rightSmall leftSmall rightEarly more).not_gt

theorem mod_lt_of_div_eq {base left right : Nat} (less : left < right)
    (quotient : left / base = right / base) : left % base < right % base := by
  have leftSplit := Nat.div_add_mod left base
  have rightSplit := Nat.div_add_mod right base
  rw [quotient] at leftSplit
  omega

/-- Numbers are ordered by their quotients and then by their remainders. -/
theorem divMod_lt_iff (base left right : Nat) (rest : Prop) :
    (left / base < right / base ∨ left / base = right / base ∧
      (left % base < right % base ∨ left % base = right % base ∧ rest)) ↔
      left < right ∨ left = right ∧ rest := by
  rcases Nat.lt_trichotomy left right with less | rfl | more
  · simp only [less, true_or, iff_true]
    rcases (Nat.div_le_div_right less.le).lt_or_eq with quotient | quotient
    · exact .inl quotient
    · exact .inr ⟨quotient, .inl (mod_lt_of_div_eq less quotient)⟩
  · simp
  · simp only [more.not_gt, more.ne', false_and, or_self, iff_false]
    rintro (quotient | ⟨quotient, remainder | ⟨remainder, _⟩⟩)
    · exact absurd (Nat.div_le_div_right more.le) quotient.not_ge
    · exact absurd (mod_lt_of_div_eq more quotient.symm) remainder.asymm
    · exact absurd (mod_lt_of_div_eq more quotient.symm) remainder.not_gt

/-- The days, the clocks and the fractions of two times are ordered as the times. -/
theorem clock_lt_iff (left right : LocalTime) (rest : Prop) :
    (left.day < right.day ∨ left.day = right.day ∧
      (left.seconds / 3600 % 24 < right.seconds / 3600 % 24 ∨
        left.seconds / 3600 % 24 = right.seconds / 3600 % 24 ∧
          (left.seconds / 60 % 60 < right.seconds / 60 % 60 ∨
            left.seconds / 60 % 60 = right.seconds / 60 % 60 ∧
              (left.seconds % 60 + left.nanos / 1000000000 <
                  right.seconds % 60 + right.nanos / 1000000000 ∨
                left.seconds % 60 + left.nanos / 1000000000 =
                    right.seconds % 60 + right.nanos / 1000000000 ∧
                  (left.nanos % 1000000000 < right.nanos % 1000000000 ∨
                    left.nanos % 1000000000 = right.nanos % 1000000000 ∧ rest))))) ↔
      left.place < right.place ∨ left.place = right.place ∧ rest := by
  have dayOf : ∀ time : LocalTime, time.day = time.seconds / 3600 / 24 := by
    intro time
    rw [Nat.div_div_eq_div_mul]
    rfl
  have hourOf : ∀ seconds : Nat, seconds / 3600 = seconds / 60 / 60 := by
    intro seconds
    rw [Nat.div_div_eq_div_mul]
  rw [dayOf, dayOf, divMod_lt_iff, hourOf, hourOf, divMod_lt_iff]
  -- What is left is the minute, and the second with its leap second.
  have leftNanos := left.nanos_lt
  have rightNanos := right.nanos_lt
  have leftLeap := left.leapSecond
  have rightLeap := right.leapSecond
  unfold LocalTime.place
  by_cases further : rest
  · simp only [further, and_true]
    omega
  · simp only [further, and_false, or_false]
    omega

/-- Texts of years with four digits are ordered as the local times, and at the same local
time as their offsets. -/
theorem rfc3339Text_lt_iff {left right : LocalTime} (leftYear : left.year ≤ 9999)
    (rightYear : right.year ≤ 9999) :
    rfc3339Text left < rfc3339Text right ↔
      left.place < right.place ∨
        left.place = right.place ∧ offsetText left.offset < offsetText right.offset := by
  have leftNanos := left.nanos_lt
  have rightNanos := right.nanos_lt
  have leftLeap := left.leapSecond
  have rightLeap := right.leapSecond
  have month_small : ∀ day, monthOfDay day + 1 < 100 := by
    intro day
    have bound := monthOfDay_le day
    omega
  have day_small : ∀ day, dayOfMonth day + 1 < 100 := by
    intro day
    have bound := dayOfMonth_le day
    omega
  rw [rfc3339Text, rfc3339Text, yearText, yearText, if_pos leftYear, if_pos rightYear,
    decimalText_append_lt_iff (by omega) (by omega),
    field_lt_iff (month_small left.day) (month_small right.day),
    field_lt_iff (day_small left.day) (day_small right.day),
    field_lt_iff (by omega) (by omega), field_lt_iff (by omega) (by omega),
    field_lt_iff (by omega) (by omega),
    fraction_lt_iff _ _ (Nat.mod_lt _ (by omega)) (Nat.mod_lt _ (by omega)), LocalTime.year,
    LocalTime.year, date_lt_iff, clock_lt_iff]

theorem rfc3339_lt_iff {left right : LocalTime} (leftYear : left.year ≤ 9999)
    (rightYear : right.year ≤ 9999) :
    rfc3339 left < rfc3339 right ↔
      left.place < right.place ∨
        left.place = right.place ∧ offsetText left.offset < offsetText right.offset := by
  rw [rfc3339, rfc3339, String.lt_iff_toList_lt, String.toList_ofList, String.toList_ofList]
  exact rfc3339Text_lt_iff leftYear rightYear

/-- Texts of later years come before all others. -/
theorem rfc3339_lt_of_far {left right : LocalTime} (leftYear : 9999 < left.year)
    (rightYear : right.year ≤ 9999) : rfc3339 left < rfc3339 right := by
  rw [rfc3339, rfc3339, String.lt_iff_toList_lt, String.toList_ofList, String.toList_ofList,
    rfc3339Text, rfc3339Text, yearText, yearText, if_neg (Nat.not_le.mpr leftYear),
    if_pos rightYear]
  have digit := @mem_decimalText 4 right.year
  rw [decimalText, List.cons_append, List.cons_append, List.cons_lt_cons_iff]
  have sign : '+' < '0' := by decide
  exact .inl (sign.trans_le (digit (List.mem_cons_self ..)))

/-- Of all offsets the text of UTC is the first. -/
theorem offsetText_zero_lt_iff {offset : Int} (small : offset.natAbs < 1440) :
    offsetText 0 < offsetText offset ↔ offset ≠ 0 := by
  unfold offsetText
  by_cases behind : offset < 0
  · rw [if_pos behind, if_neg (by decide), List.cons_lt_cons_iff]
    simp only [show ('+' < '-') from by decide, true_or, true_iff]
    omega
  · rw [if_neg behind, if_neg (by decide), List.cons_lt_cons_self,
      decimalText_append_lt_iff (by omega) (by omega), List.cons_lt_cons_self,
      ← List.append_nil (decimalText 2 (Int.natAbs 0 % 60)),
      ← List.append_nil (decimalText 2 (offset.natAbs % 60)),
      decimalText_append_lt_iff (by omega) (by omega)]
    simp only [lt_irrefl, and_false, or_false]
    omega

/-! ## Times of UTC -/

/-- The time of UTC that is some nanoseconds after the start of 1970. -/
def utcTime (nanos : Nat) : LocalTime where
  seconds := 62167219200 + nanos / 1000000000
  nanos := nanos % 1000000000
  offset := 0
  nanos_lt := by omega
  leapSecond := by omega
  offset_lt := by decide

example : rfc3339 (utcTime 1709251199123000000) = "2024-02-29T23:59:59.123+00:00" := by
  decide +kernel

theorem utcTime_place_lt_iff (left right : Nat) :
    (utcTime left).place < (utcTime right).place ↔ left < right := by
  simp only [utcTime, LocalTime.place]
  omega

/-- Texts of UTC in years with four digits are ordered as the times. -/
theorem rfc3339_utcTime_lt_iff {left right : Nat} (leftYear : (utcTime left).year ≤ 9999)
    (rightYear : (utcTime right).year ≤ 9999) :
    rfc3339 (utcTime left) < rfc3339 (utcTime right) ↔ left < right := by
  rw [rfc3339_lt_iff leftYear rightYear, utcTime_place_lt_iff]
  simp [utcTime]

end DlpSystem.Lib
