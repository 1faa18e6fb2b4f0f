import Mathlib.Tactic.IntervalCases
import Tna.Auditor.Schema
import Tna.Js.Number

/-!
# Timestamps and the instants they name

The text of an instant of the years 0 to 9999 is a timestamp, and `Date.parse` gives the instant back. The
calendar is counted in years that begin in March, so that a leap day is the last of its year.
-/

namespace Tna.Auditor

open Tna.Js Tna.Ledger

/-! ## Years of an era -/

/-- The year of a day of an era of four hundred years. -/
def yearOf (doe : Nat) : Nat := (doe - doe / 1460 + doe / 36524 - doe / 146096) / 365
/-- The days of an era before a year of it. -/
def yearStart (y : Nat) : Nat := 365 * y + y / 4 - y / 100

theorem yearOf_mono : Monotone yearOf := by
  refine monotone_nat_of_le_succ fun n => ?_
  unfold yearOf
  refine Nat.div_le_div_right ?_
  omega

theorem yearOf_bounds : ∀ y : Fin 400, yearOf (yearStart y) = y ∧ (0 < y.1 → yearOf (yearStart y - 1) = y - 1) := by
  decide +kernel

variable {doe y k n day month year : Nat} {millis : Int} {t : Text}

/-- A day lies in its year. -/
theorem year_spec (h : doe < 146097) :
    yearOf doe ≤ 399 ∧ yearStart (yearOf doe) ≤ doe ∧ (yearOf doe < 399 → doe < yearStart (yearOf doe + 1)) := by
  have hmax : yearOf 146096 = 399 := by decide +kernel
  have hle : yearOf doe ≤ 399 := by rw [← hmax]; exact yearOf_mono (by omega)
  refine ⟨hle, ?_, ?_⟩
  · by_contra hlt
    rcases Nat.eq_zero_or_pos (yearOf doe) with h0 | hpos
    · rw [h0] at hlt
      exact hlt (Nat.zero_le _)
    · have hb := (yearOf_bounds ⟨yearOf doe, by omega⟩).2 hpos
      have := yearOf_mono (show doe ≤ yearStart (yearOf doe) - 1 by omega)
      simp only at hb
      omega
  · intro hy
    by_contra hge
    have hb := (yearOf_bounds ⟨yearOf doe + 1, by omega⟩).1
    have := yearOf_mono (Nat.not_lt.1 hge)
    simp only at hb
    omega


/-! ## Days before a month -/

/-- A year has 365 days, or 366 when the next February has 29. -/
theorem yearStart_succ (y : Nat) : yearStart (y + 1) ≤ yearStart y + 366 ∧
    (yearStart (y + 1) = yearStart y + 366 → (y + 1) % 4 = 0 ∧ (y + 1) % 100 ≠ 0) := by
  have hle : y / 100 ≤ y / 4 := Nat.div_le_div_left (by decide) (by decide)
  have h4 : (y + 1) / 4 = y / 4 + if (y + 1) % 4 = 0 then 1 else 0 := by split_ifs <;> omega
  have h100 : (y + 1) / 100 = y / 100 + if (y + 1) % 100 = 0 then 1 else 0 := by split_ifs <;> omega
  unfold yearStart
  rw [h4, h100]
  split_ifs <;> omega

/-- The start of a year, over the eras. -/
theorem yearStart_add (era : Nat) (h : y ≤ 399) :
    365 * (y + 400 * era) + (y + 400 * era) / 4 - (y + 400 * era) / 100 + (y + 400 * era) / 400 = 146097 * era + yearStart y := by
  have hle : y / 100 ≤ y / 4 := Nat.div_le_div_left (by decide) (by decide)
  have h4 : (y + 400 * era) / 4 = y / 4 + 100 * era := by omega
  have h100 : (y + 400 * era) / 100 = y / 100 + 4 * era := by omega
  have h400 : (y + 400 * era) / 400 = era := by omega
  rw [h4, h100, h400, yearStart]
  omega

theorem add_pred_div (n : Nat) (hk : 0 < k) : (n + (k - 1)) / k = n / k + if n % k = 0 then 0 else 1 := by
  have hdiv := Nat.div_add_mod n k
  have hmod := Nat.mod_lt n hk
  split_ifs with h
  · exact Nat.div_eq_of_lt_le (by rw [Nat.add_zero, Nat.mul_comm]; omega) (by rw [Nat.add_zero, Nat.add_mul, Nat.mul_comm (n / k)]; omega)
  · exact Nat.div_eq_of_lt_le (by rw [Nat.add_mul, Nat.mul_comm (n / k)]; omega)
      (by rw [Nat.add_mul, Nat.add_mul, Nat.mul_comm (n / k)]; omega)

/-- The days before March. -/
theorem daysBefore_three (year : Nat) : daysBefore year 3 = 365 * year + year / 4 - year / 100 + year / 400 + 60 := by
  have h4 := add_pred_div year (k := 4) (by decide)
  have h100 := add_pred_div year (k := 100) (by decide)
  have h400 := add_pred_div year (k := 400) (by decide)
  have hfeb : daysInMonth year 2 = if year % 4 = 0 ∧ (year % 100 ≠ 0 ∨ year % 400 = 0) then 29 else 28 := rfl
  have hmonths : ((List.range (3 - 1)).map fun m => daysInMonth year (m + 1)).sum = 31 + daysInMonth year 2 := by
    simp [List.range_succ, daysInMonth]
  have hle : year / 100 ≤ year / 4 := Nat.div_le_div_left (by decide) (by decide)
  have hdvd : year % 400 = 0 → year % 100 = 0 := fun h => by omega
  have hdvd' : year % 100 = 0 → year % 4 = 0 := fun h => by omega
  rw [daysBefore, hmonths, hfeb, h4, h100, h400]
  by_cases ha : year % 4 = 0
  · by_cases hb : year % 100 = 0
    · by_cases hc : year % 400 = 0
      · rw [if_pos ha, if_pos hb, if_pos hc, if_pos ⟨ha, Or.inr hc⟩]
        omega
      · rw [if_pos ha, if_pos hb, if_neg hc, if_neg fun h => h.2.elim (· hb) hc]
        omega
    · rw [if_pos ha, if_neg hb, if_neg (mt hdvd hb), if_pos ⟨ha, Or.inl hb⟩]
      omega
  · rw [if_neg ha, if_neg (mt hdvd' ha), if_neg (mt hdvd' ha ∘ hdvd), if_neg fun h => ha h.1]
    omega

theorem daysInMonth_add_three (year : Nat) (h : k < 10) :
    (153 * k + 2) / 5 + daysInMonth year (k + 3) = (153 * (k + 1) + 2) / 5 := by
  interval_cases k <;> simp [daysInMonth]

theorem daysBefore_succ (year n : Nat) : daysBefore year (n + 1) + daysInMonth year (n + 1) = daysBefore year (n + 2) := by
  have hmonths : n + 2 - 1 = (n + 1 - 1) + 1 := rfl
  rw [daysBefore, daysBefore, hmonths, List.range_succ, List.map_append, List.sum_append, List.map_singleton, List.sum_singleton,
    Nat.add_assoc]
  rfl

/-- The days before a month from March on. -/
theorem daysBefore_add_three (year : Nat) (h : k < 10) :
    daysBefore year (k + 3) = 365 * year + year / 4 - year / 100 + year / 400 + 60 + (153 * k + 2) / 5 := by
  induction k with
  | zero => exact daysBefore_three year
  | succ k ih =>
    have hmonth : (153 * k + 2) / 5 + daysInMonth year (k + 3) = (153 * (k + 1) + 2) / 5 := daysInMonth_add_three year (by omega)
    have hnext : daysBefore year (k + 3) + daysInMonth year (k + 3) = daysBefore year (k + 1 + 3) := daysBefore_succ year (k + 2)
    rw [ih (by omega)] at hnext
    rw [← hnext]
    omega

/-- The start of January, over the eras. -/
theorem daysBefore_one (era : Nat) (h : y ≤ 399) : daysBefore (y + 400 * era + 1) 1 = 146097 * era + yearStart y + 366 := by
  have hle : y / 100 ≤ y / 4 := Nat.div_le_div_left (by decide) (by decide)
  have h4 : (y + 400 * era + 1 + 3) / 4 = y / 4 + 100 * era + 1 := by omega
  have h100 : (y + 400 * era + 1 + 99) / 100 = y / 100 + 4 * era + 1 := by omega
  have h400 : (y + 400 * era + 1 + 399) / 400 = era + 1 := by omega
  simp only [daysBefore, h4, h100, h400, yearStart, Nat.sub_self, List.range_zero, List.map_nil, List.sum_nil]
  omega

theorem daysBefore_two (year : Nat) : daysBefore year 2 = daysBefore year 1 + 31 := by
  simp [daysBefore, List.range_succ, daysInMonth]

/-! ## Days of the calendar -/

/-- A date, with the days from 1970 on to it. -/
structure CalendarDay (days : Int) (year month day : Nat) : Prop where
  year_le : year ≤ 9999
  month_mem : 1 ≤ month ∧ month ≤ 12
  day_mem : 1 ≤ day ∧ day ≤ daysInMonth year month
  days_eq : (daysBefore year month + day : Int) = days + 719529

/-- The year, the month and the day of a day of an era, counted from March on. -/
def dateOf (era : Int) (yearOfEra dayOfYear : Nat) : Int × Nat × Nat :=
  let shifted := (5 * dayOfYear + 2) / 153
  let month := if shifted < 10 then shifted + 3 else shifted - 9
  (yearOfEra + era * 400 + (if month ≤ 2 then 1 else 0), month, dayOfYear - (153 * shifted + 2) / 5 + 1)

/-- **Each day of the years 0 to 9999 has its date.** -/
theorem calendarDay_dateOf {days era : Int} (hdays : era * 146097 + doe = days + 719468) (hdoe : doe < 146097)
    (hlow : -719528 ≤ days) (hhigh : days ≤ 2932896) :
    ∃ year month day, CalendarDay days year month day ∧
      dateOf era (yearOf doe) (doe - yearStart (yearOf doe)) = ((year : ℤ), month, day) := by
  have hyear := year_spec hdoe
  unfold dateOf
  generalize yearOf doe = yoe at *
  obtain ⟨hyoe, hstart, hnext⟩ := hyear
  obtain ⟨doy, rfl⟩ := Nat.exists_eq_add_of_le hstart
  rw [Nat.add_sub_cancel_left]
  have hdoy : doy ≤ 365 ∧ (doy = 365 → (yoe + 1) % 4 = 0 ∧ ((yoe + 1) % 100 ≠ 0 ∨ yoe = 399)) := by
    rcases hyoe.lt_or_eq with h | rfl
    · obtain ⟨hlength, hleap⟩ := yearStart_succ yoe
      have hend := hnext h
      exact ⟨by omega, fun heq => ⟨(hleap (by omega)).1, Or.inl (hleap (by omega)).2⟩⟩
    · have hlast : yearStart 399 = 145731 := rfl
      exact ⟨by omega, fun _ => ⟨rfl, Or.inr rfl⟩⟩
  have hshifted : (5 * doy + 2) / 153 ≤ 11 := by omega
  have hmonth : (153 * ((5 * doy + 2) / 153) + 2) / 5 ≤ doy ∧ doy < (153 * ((5 * doy + 2) / 153 + 1) + 2) / 5 := by omega
  generalize (5 * doy + 2) / 153 = shifted at *
  have hstart0 : yearStart yoe ≤ 145731 := by
    unfold yearStart
    omega
  rcases Nat.lt_or_ge shifted 10 with hk | hk
  · -- from March on
    have hnonneg : 0 ≤ era := by omega
    obtain ⟨era, rfl⟩ := Int.eq_ofNat_of_zero_le hnonneg
    have hbefore := daysBefore_add_three (yoe + 400 * era) hk
    have hlength := daysInMonth_add_three (yoe + 400 * era) hk
    rw [yearStart_add era hyoe] at hbefore
    have hyear : (yoe : ℤ) + (era : ℤ) * 400 + (if shifted + 3 ≤ 2 then 1 else 0) = ((yoe + 400 * era : ℕ) : ℤ) := by
      rw [if_neg (by omega), Nat.cast_add, Nat.cast_mul, Nat.cast_ofNat, Int.add_zero, Int.mul_comm]
    have hle : yoe + 400 * era ≤ 9999 := by omega
    refine ⟨yoe + 400 * era, shifted + 3, doy - (153 * shifted + 2) / 5 + 1, ⟨hle, ⟨by omega, by omega⟩, ⟨by omega, by omega⟩, ?_⟩, ?_⟩
    · rw [hbefore]
      omega
    · simp only [if_pos hk, hyear]
  · -- January and February
    obtain ⟨year, hyear, hone, hleap⟩ : ∃ year : Nat, (year : ℤ) = yoe + era * 400 + 1 ∧
        (daysBefore year 1 : ℤ) = era * 146097 + yearStart yoe + 366 ∧ (doy = 365 → daysInMonth year 2 = 29) := by
      rcases lt_or_ge era 0 with hneg | hnonneg
      · have hera1 : era = -1 := by omega
        have hyoe1 : yoe = 399 := by
          by_contra hne
          have hend := hnext (by omega)
          have hend' : yearStart (yoe + 1) ≤ 145731 := by
            unfold yearStart
            omega
          omega
        subst hera1 hyoe1
        exact ⟨0, rfl, rfl, fun _ => rfl⟩
      · obtain ⟨era, rfl⟩ := Int.eq_ofNat_of_zero_le hnonneg
        refine ⟨yoe + 400 * era + 1, by push_cast; ring, ?_, fun hlast => ?_⟩
        · rw [daysBefore_one era hyoe]
          push_cast
          ring
        · obtain ⟨h4, h100⟩ := hdoy.2 hlast
          rw [daysInMonth, if_pos rfl, if_pos ⟨by omega, by omega⟩]
    have hlast : yoe = 399 → yearStart yoe = 145731 := fun h => by
      rw [h]
      rfl
    have hle : year ≤ 9999 := by omega
    have hfeb : 28 ≤ daysInMonth year 2 := by
      rw [daysInMonth, if_pos rfl]
      split_ifs <;> omega
    have hjan : daysInMonth year 1 = 31 := rfl
    obtain rfl | rfl : shifted = 10 ∨ shifted = 11 := by omega
    · refine ⟨year, 1, doy - (153 * 10 + 2) / 5 + 1, ⟨hle, by omega, ⟨by omega, by omega⟩, by omega⟩, ?_⟩
      rw [hyear]
      rfl
    · have htwo := daysBefore_two year
      refine ⟨year, 2, doy - (153 * 11 + 2) / 5 + 1, ⟨hle, by omega, ⟨by omega, ?_⟩, by omega⟩, ?_⟩
      · rcases Nat.lt_or_ge doy 365 with h | h
        · omega
        · have := hleap (by omega)
          omega
      · rw [hyear]
        rfl

/-! ## The text -/

/-- The text of a year. -/
def yearText (year : Int) : Text :=
  if 0 ≤ year ∧ year ≤ 9999 then padded 4 year.toNat else (if year < 0 then unit '-' else unit '+') :: padded 6 year.natAbs

/-- The text of a date and the milliseconds of its day. -/
def dateText (year : Text) (month day time : Nat) : Text :=
  year ++ "-" ++ padded 2 month ++ "-" ++ padded 2 day ++ "T" ++ padded 2 (time / 3600000) ++ ":" ++
    padded 2 (time / 60000 % 60) ++ ":" ++ padded 2 (time / 1000 % 60) ++ "." ++ padded 3 (time % 1000) ++ "Z"

theorem toIsoString_eq_dateText (millis : Int) :
    let days := millis / 86400000
    let doe := ((days + 719468) % 146097).toNat
    let date := dateOf ((days + 719468) / 146097) (yearOf doe) (doe - yearStart (yearOf doe))
    toIsoString millis = dateText (yearText date.1) date.2.1 date.2.2 (millis % 86400000).toNat := rfl

/-- The date of an instant that is written. -/
theorem toIsoString_eq (h0 : -62167219200000 ≤ millis) (h1 : millis < 253402300800000) :
    ∃ year month day, CalendarDay (millis / 86400000) year month day ∧
      toIsoString millis = dateText (padded 4 year) month day (millis % 86400000).toNat := by
  have hdays : (millis / 86400000 + 719468) / 146097 * 146097 + ((millis / 86400000 + 719468) % 146097).toNat =
      millis / 86400000 + 719468 := by omega
  obtain ⟨year, month, day, hdate, hdateOf⟩ := calendarDay_dateOf hdays (by omega) (by omega) (by omega)
  have hyear := hdate.year_le
  refine ⟨year, month, day, hdate, ?_⟩
  rw [toIsoString_eq_dateText, hdateOf, yearText, if_pos ⟨by omega, by omega⟩, Int.toNat_natCast]

/-! ## Digits -/

/-- A number in a fixed number of digits. -/
theorem padded_spec (width : Nat) (h : n < 10 ^ width) (hw : 0 < width) :
    (padded width n).length = width ∧ (∀ c ∈ padded width n, isDigit c = true) ∧ digitsValue (padded width n) = n := by
  have hlength : (decimal n).length ≤ width := by
    rw [decimal]
    split_ifs with hn
    · exact hw
    · rw [List.length_map, List.length_reverse]
      exact Nat.digits_length_le_iff (by decide) n |>.2 h
  refine ⟨?_, ?_, ?_⟩
  · rw [padded, List.length_append, List.length_replicate]
    omega
  · intro c hc
    rcases List.mem_append.1 hc with hc | hc
    · rw [List.eq_of_mem_replicate hc]
      decide
    · exact (decimal_digits n).2 c hc
  · have hzeros : ∀ k t, digitsValue (List.replicate k (unit '0') ++ t) = digitsValue t := by
      intro k t
      induction k with
      | zero => rfl
      | succ k ih =>
        rw [← ih]
        rfl
    rw [padded, hzeros, digitsValue_decimal]

theorem padded_two (h : n < 100) :
    ∃ a b, padded 2 n = [a, b] ∧ isDigit a = true ∧ isDigit b = true ∧ digitsValue [a, b] = n := by
  obtain ⟨hlength, hdigits, hvalue⟩ := padded_spec 2 h (by decide)
  obtain ⟨a, b, hab⟩ := List.length_eq_two.1 hlength
  rw [hab] at hdigits hvalue
  exact ⟨a, b, hab, hdigits a (by simp), hdigits b (by simp), hvalue⟩

theorem padded_three (h : n < 1000) :
    ∃ a b c, padded 3 n = [a, b, c] ∧ isDigit a = true ∧ isDigit b = true ∧ isDigit c = true ∧ digitsValue [a, b, c] = n := by
  obtain ⟨hlength, hdigits, hvalue⟩ := padded_spec 3 h (by decide)
  obtain ⟨a, b, c, habc⟩ := List.length_eq_three.1 hlength
  rw [habc] at hdigits hvalue
  exact ⟨a, b, c, habc, hdigits a (by simp), hdigits b (by simp), hdigits c (by simp), hvalue⟩

theorem padded_four (h : n < 10000) :
    ∃ a b c d, padded 4 n = [a, b, c, d] ∧ isDigit a = true ∧ isDigit b = true ∧ isDigit c = true ∧ isDigit d = true ∧
      digitsValue [a, b, c, d] = n := by
  obtain ⟨hlength, hdigits, hvalue⟩ := padded_spec 4 h (by decide)
  match hlist : padded 4 n, hlength, hdigits, hvalue with
  | [a, b, c, d], _, hdigits, hvalue =>
    exact ⟨a, b, c, d, rfl, hdigits a (by simp), hdigits b (by simp), hdigits c (by simp), hdigits d (by simp), hvalue⟩

theorem matchesShape_digit {c : CodeUnit} (h : isDigit c = true) (shape t : Text) :
    matchesShape (unit 'd' :: shape) (c :: t) = matchesShape shape t := by
  rw [matchesShape, if_pos rfl, h, Bool.true_and]

theorem matchesShape_same {s : CodeUnit} (h : s ≠ unit 'd') (shape t : Text) :
    matchesShape (s :: shape) (s :: t) = matchesShape shape t := by
  rw [matchesShape, if_neg h, beq_self_eq_true, Bool.true_and]

/-- The numbers in the text of an instant. -/
structure FieldsOf (t : Text) (year month day time : Nat) : Prop where
  shape : matchesShape timestampShape t = true
  year : numberAt t 0 4 = year
  month : numberAt t 5 2 = month
  day : numberAt t 8 2 = day
  hours : numberAt t 11 2 = time / 3600000
  minutes : numberAt t 14 2 = time / 60000 % 60
  seconds : numberAt t 17 2 = time / 1000 % 60
  millis : numberAt t 20 3 = time % 1000

theorem fieldsOf_dateText {time : Nat} (hyear : year ≤ 9999) (hmonth : month ≤ 12) (hday : day ≤ 31) (htime : time < 86400000) :
    FieldsOf (dateText (padded 4 year) month day time) year month day time := by
  obtain ⟨y1, y2, y3, y4, hy, hy1, hy2, hy3, hy4, hyv⟩ := padded_four (n := year) (by omega)
  obtain ⟨m1, m2, hm, hm1, hm2, hmv⟩ := padded_two (n := month) (by omega)
  obtain ⟨d1, d2, hd, hd1, hd2, hdv⟩ := padded_two (n := day) (by omega)
  obtain ⟨a1, a2, ha, ha1, ha2, hav⟩ := padded_two (n := time / 3600000) (by omega)
  obtain ⟨b1, b2, hb, hb1, hb2, hbv⟩ := padded_two (n := time / 60000 % 60) (by omega)
  obtain ⟨c1, c2, hc, hc1, hc2, hcv⟩ := padded_two (n := time / 1000 % 60) (by omega)
  obtain ⟨e1, e2, e3, he, he1, he2, he3, hev⟩ := padded_three (n := time % 1000) (by omega)
  have htext : dateText (padded 4 year) month day time = [y1, y2, y3, y4, unit '-', m1, m2, unit '-', d1, d2, unit 'T', a1, a2, unit ':',
      b1, b2, unit ':', c1, c2, unit '.', e1, e2, e3, unit 'Z'] := by
    rw [dateText, hy, hm, hd, ha, hb, hc, he]
    rfl
  have hshape : timestampShape = [unit 'd', unit 'd', unit 'd', unit 'd', unit '-', unit 'd', unit 'd', unit '-', unit 'd',
      unit 'd', unit 'T', unit 'd', unit 'd', unit ':', unit 'd', unit 'd', unit ':', unit 'd', unit 'd', unit '.', unit 'd',
      unit 'd', unit 'd', unit 'Z'] := by decide +kernel
  rw [htext]
  refine ⟨?_, hyv, hmv, hdv, hav, hbv, hcv, hev⟩
  have hdash : unit '-' ≠ unit 'd' := by decide
  have hcolon : unit ':' ≠ unit 'd' := by decide
  rw [hshape, matchesShape_digit hy1, matchesShape_digit hy2, matchesShape_digit hy3, matchesShape_digit hy4,
    matchesShape_same hdash, matchesShape_digit hm1, matchesShape_digit hm2, matchesShape_same hdash, matchesShape_digit hd1,
    matchesShape_digit hd2, matchesShape_same (by decide), matchesShape_digit ha1, matchesShape_digit ha2,
    matchesShape_same hcolon, matchesShape_digit hb1, matchesShape_digit hb2, matchesShape_same hcolon,
    matchesShape_digit hc1, matchesShape_digit hc2, matchesShape_same (by decide), matchesShape_digit he1,
    matchesShape_digit he2, matchesShape_digit he3, matchesShape_same (by decide)]
  rfl

theorem daysInMonth_le (year month : Nat) : daysInMonth year month ≤ 31 := by
  unfold daysInMonth
  split_ifs <;> omega

/-! ## There and back -/

theorem seconds_add (days time : Nat) :
    (days * 86400 + time / 3600000 * 3600 + time / 60000 % 60 * 60 + time / 1000 % 60) * 1000 + time % 1000 =
      days * 86400000 + time := by
  have htime : (time / 3600000 * 3600 + time / 60000 % 60 * 60 + time / 1000 % 60) * 1000 + time % 1000 = time := by omega
  conv_rhs => rw [← htime]
  ring

/-- **An instant of the years 0 to 9999 is read back from its text.** -/
theorem dateParse_toIsoString (h0 : -62167219200000 ≤ millis) (h1 : millis < 253402300800000) :
    isIsoTimestamp (toIsoString millis) = true ∧ dateParse (toIsoString millis) = some millis := by
  obtain ⟨year, month, day, hdate, htext⟩ := toIsoString_eq h0 h1
  have htime : (millis % 86400000).toNat < 86400000 := by omega
  have hfields := fieldsOf_dateText hdate.year_le hdate.month_mem.2 (hdate.day_mem.2.trans (daysInMonth_le year month)) htime
  rw [← htext] at hfields
  have hiso : isIsoTimestamp (toIsoString millis) = true := by
    simp only [isIsoTimestamp, hfields.shape, hfields.year, hfields.month, hfields.day, hfields.hours, hfields.minutes,
      hfields.seconds, Bool.true_and, Bool.and_eq_true, decide_eq_true_eq]
    exact ⟨⟨hdate.month_mem.1, hdate.month_mem.2, hdate.day_mem⟩, by omega, by omega, by omega⟩
  refine ⟨hiso, ?_⟩
  have hdays := hdate.days_eq
  have hepoch : daysBefore 1970 1 = 719528 := by decide
  have hday := hdate.day_mem.1
  rw [dateParse, if_pos hiso]
  simp only [hfields.year, hfields.month, hfields.day, hfields.hours, hfields.minutes, hfields.seconds, hfields.millis, hepoch]
  rw [seconds_add]
  have hsplit : millis / 86400000 * 86400000 + millis % 86400000 = millis := Int.ediv_mul_add_emod millis 86400000
  have hmod := Int.emod_nonneg millis (by decide : (86400000 : ℤ) ≠ 0)
  refine congrArg some ?_
  generalize millis / 86400000 = days at *
  generalize millis % 86400000 = time at *
  omega

/-! ## Beyond the year 9999 -/

/-- The text of an instant of the first day of the year 10000 is no timestamp. -/
theorem not_isIsoTimestamp_toIsoString (h0 : 253402300800000 ≤ millis) (h1 : millis < 253402387200000) :
    isIsoTimestamp (toIsoString millis) = false := by
  have hday : millis / 86400000 = 2932897 := by omega
  have hdate : dateOf ((2932897 + 719468) / 146097) (yearOf ((2932897 + 719468 : ℤ) % 146097).toNat)
      (((2932897 + 719468 : ℤ) % 146097).toNat - yearStart (yearOf ((2932897 + 719468 : ℤ) % 146097).toNat)) = (10000, 1, 1) := by
    decide +kernel
  have hyear : yearText 10000 = unit '+' :: padded 6 10000 := rfl
  have hshape : timestampShape = unit 'd' :: timestampShape.tail := by decide +kernel
  have hplus : isDigit (unit '+') = false := by decide
  rw [toIsoString_eq_dateText, hday, hdate, hyear, dateText, isIsoTimestamp, hshape]
  simp only [List.cons_append, matchesShape, if_pos, hplus, Bool.false_and]

/-- The number in digits is below a power of ten. -/
theorem digitsValue_lt (h : ∀ c ∈ t, isDigit c = true) : digitsValue t < 10 ^ t.length := by
  have hfold : ∀ n, t.foldl (fun n c => n * 10 + digitValue c) n < (n + 1) * 10 ^ t.length := by
    induction t with
    | nil => exact fun n => by simp
    | cons c t ih =>
      intro n
      obtain ⟨hc, ht⟩ := List.forall_mem_cons.1 h
      have hdigit := forall_digit (p := fun c => decide (digitValue c ≤ 9)) (by decide) hc
      have hle : digitValue c ≤ 9 := of_decide_eq_true hdigit
      calc t.foldl (fun n c => n * 10 + digitValue c) (n * 10 + digitValue c)
          < (n * 10 + digitValue c + 1) * 10 ^ t.length := ih ht _
        _ ≤ (n + 1) * 10 * 10 ^ t.length := Nat.mul_le_mul_right _ (by omega)
        _ = (n + 1) * 10 ^ (c :: t).length := by rw [List.length_cons, Nat.pow_succ]; ring
  have h0 := hfold 0
  rw [Nat.zero_add, Nat.one_mul] at h0
  exact h0

theorem year_le_of_matchesShape (h : matchesShape timestampShape t = true) : numberAt t 0 4 ≤ 9999 := by
  have hshape : timestampShape = unit 'd' :: unit 'd' :: unit 'd' :: unit 'd' :: timestampShape.drop 4 := by decide +kernel
  rw [hshape] at h
  match t, h with
  | [], h => cases h
  | [a], h => simp [matchesShape] at h
  | [a, b], h => simp [matchesShape] at h
  | [a, b, c], h => simp [matchesShape] at h
  | a :: b :: c :: d :: rest, h =>
    simp only [matchesShape, if_pos, Bool.and_eq_true] at h
    obtain ⟨ha, hb, hc, hd, -⟩ := h
    have hlt := digitsValue_lt (t := [a, b, c, d]) (by simp [ha, hb, hc, hd])
    have hvalue : numberAt (a :: b :: c :: d :: rest) 0 4 = digitsValue [a, b, c, d] := rfl
    rw [hvalue]
    simp only [List.length_cons, List.length_nil] at hlt
    omega

theorem matchesShape_drop {shape : Text} (n : Nat) (h : matchesShape shape t = true) :
    matchesShape (shape.drop n) (t.drop n) = true := by
  induction n generalizing shape t with
  | zero => exact h
  | succ n ih =>
    cases shape with
    | nil =>
      cases t with
      | nil => exact h
      | cons c t => cases h
    | cons s shape =>
      cases t with
      | nil => cases h
      | cons c t =>
        rw [matchesShape, Bool.and_eq_true] at h
        exact ih h.2

theorem millis_le_of_matchesShape (h : matchesShape timestampShape t = true) : numberAt t 20 3 ≤ 999 := by
  have hend := matchesShape_drop 20 h
  have hshape : timestampShape.drop 20 = [unit 'd', unit 'd', unit 'd', unit 'Z'] := by decide +kernel
  rw [hshape] at hend
  have hvalue : numberAt t 20 3 = digitsValue ((t.drop 20).take 3) := rfl
  rw [hvalue]
  match t.drop 20, hend with
  | [], h => cases h
  | [a], h => simp [matchesShape] at h
  | [a, b], h => simp [matchesShape] at h
  | a :: b :: c :: rest, h =>
    simp only [matchesShape, if_pos, Bool.and_eq_true] at h
    obtain ⟨ha, hb, hc, -⟩ := h
    have hlt := digitsValue_lt (t := [a, b, c]) (by simp [ha, hb, hc])
    have htake : (a :: b :: c :: rest).take 3 = [a, b, c] := rfl
    rw [htake]
    simp only [List.length_cons, List.length_nil] at hlt
    omega

/-- A year ends before the first of January of the year 10000. -/
theorem daysBefore_add_le (hyear : year ≤ 9999) (hmonth : 1 ≤ month ∧ month ≤ 12) (hday : day ≤ daysInMonth year month) :
    daysBefore year month + day ≤ 3652425 := by
  have hmarch := daysBefore_three year
  have hyears : 365 * year + year / 4 - year / 100 + year / 400 ≤ 3652059 := by
    have hmono : Monotone fun y : Nat => 365 * y + y / 4 - y / 100 + y / 400 := by
      refine monotone_nat_of_le_succ fun y => ?_
      omega
    exact hmono hyear
  rcases Nat.lt_or_ge month 3 with hlt | hge
  · have hone : daysBefore year 1 + 31 = daysBefore year 2 := (daysBefore_two year).symm
    have htwo : daysBefore year 2 + daysInMonth year 2 = daysBefore year 3 := daysBefore_succ year 1
    have hjan : daysInMonth year 1 = 31 := rfl
    obtain rfl | rfl : month = 1 ∨ month = 2 := by omega
    · omega
    · omega
  · obtain ⟨k, rfl⟩ := Nat.exists_eq_add_of_le' hge
    have hbefore := daysBefore_add_three year (k := k) (by omega)
    have hlength := daysInMonth_add_three year (k := k) (by omega)
    omega

/-- A timestamp names an instant before the year 10000. -/
theorem dateParse_lt (h : dateParse t = some millis) : millis < 253402300800000 := by
  rw [dateParse] at h
  split_ifs at h with hiso
  cases h
  simp only [isIsoTimestamp, Bool.and_eq_true, decide_eq_true_eq] at hiso
  obtain ⟨⟨hshape, hmonth, hmonth', hday, hday'⟩, htime⟩ := hiso
  have hle := daysBefore_add_le (year_le_of_matchesShape hshape) ⟨hmonth, hmonth'⟩ hday'
  have hmillis := millis_le_of_matchesShape hshape
  have hepoch : daysBefore 1970 1 = 719528 := by decide
  rw [hepoch]
  generalize daysBefore _ _ = days at *
  omega

end Tna.Auditor
