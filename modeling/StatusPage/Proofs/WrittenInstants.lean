import Mathlib.Algebra.Group.Nat.Defs
import StatusPage.Time.Rfc3339

/-!
Instants come back from their texts: no matter how many digits of fraction are written, before and
after the years of four digits and in leap seconds. The calendar is the inverse of the count of
days, and each part of a text is read up to where the next one begins.
-/

set_option autoImplicit false

namespace StatusPage.Time

/-! ### The calendar -/

def yearOfEra (day : Int) : Int := (day - day / 1460 + day / 36524 - day / 146096) / 365

def dayOfYear (day : Int) : Int :=
  day - (365 * yearOfEra day + yearOfEra day / 4 - yearOfEra day / 100)

/-- A day of an era, counted by centuries, groups of four years, years and days. Only the last year
of a group has 366 days, and the last group of a century has none; the last day of the era is not
counted in this way. -/
structure Counted (day century group year rest : Int) : Prop where
  total : day = 36524 * century + (1461 * group + (365 * year + rest))
  centuries : 0 ≤ century ∧ century ≤ 3
  groups : 0 ≤ group ∧ group ≤ 24
  years : 0 ≤ year ∧ year ≤ 3
  days : 0 ≤ rest ∧ rest ≤ 365
  leap : rest = 365 → year = 3 ∧ group ≠ 24

private theorem counted_of_lt {day : Int} (first : 0 ≤ day) (inner : day < 146096) :
    ∃ century group year rest, Counted day century group year rest := by
  refine ⟨day / 36524, day % 36524 / 1461, min (day % 36524 % 1461 / 365) 3,
    day % 36524 % 1461 - 365 * min (day % 36524 % 1461 / 365) 3, ?_, ?_, ?_, ?_, ?_, ?_⟩ <;> omega

theorem Counted.yearOfEra {day century group year rest : Int}
    (counted : Counted day century group year rest) :
    yearOfEra day = 100 * century + (4 * group + year) := by
  obtain ⟨total, century', group', year', rest', leap⟩ := counted
  have groups : day / 1460 = 25 * century + group + (group + 365 * year + rest + 24 * century) /
      1460 := by omega
  have centuries : day / 36524 = century := by omega
  have last : day / 146096 = 0 := by omega
  unfold Time.yearOfEra
  rw [groups, centuries, last]
  omega

/-- A year with a day of the number 365 is one whose last month, February, has a leap day. -/
theorem yearOfEra_bounds {day : Int} (first : 0 ≤ day) (last : day < 146097) :
    0 ≤ yearOfEra day ∧ yearOfEra day ≤ 399 ∧ 0 ≤ dayOfYear day ∧
    dayOfYear day ≤ 365 ∧
      (dayOfYear day = 365 → yearOfEra day % 4 = 3 ∧
        (yearOfEra day % 100 = 99 → yearOfEra day = 399)) := by
  by_cases inner : day < 146096
  · obtain ⟨century, group, year, rest, counted⟩ := counted_of_lt first inner
    have years := counted.yearOfEra
    obtain ⟨total, century', group', year', rest', leap⟩ := counted
    have fourths : (100 * century + (4 * group + year)) / 4 = 25 * century + group := by omega
    have hundredths : (100 * century + (4 * group + year)) / 100 = century := by omega
    unfold dayOfYear
    rw [years, fourths, hundredths]
    omega
  · obtain rfl : day = 146096 := by omega
    decide

/-- A date by its year counted from March, the month of this year and the day of
this month, both from zero. -/
def marchDate (year month day : Int) : Date where
  year := if month < 10 then year else year + 1
  month := (if month < 10 then month + 3 else month - 9).toNat
  day := (day + 1).toNat

private theorem toDays_marchDate {year month day : Int} (low : 0 ≤ month) (high : month ≤ 11)
    (start : 0 ≤ day) :
    (marchDate year month day).toDays =
      year / 400 * 146097 +
        (year % 400 * 365 + year % 400 / 4 - year % 400 / 100 + ((153 * month + 2) / 5 + day)) -
        719468 := by
  unfold marchDate Date.toDays
  dsimp only
  have counted : ((day + 1).toNat : Int) = day + 1 := by omega
  by_cases early : month < 10
  · have named : ((month + 3).toNat : Int) = month + 3 := by omega
    have late : ¬(month + 3).toNat ≤ 2 := by omega
    simp only [if_pos early, if_neg late, named, counted, Int.add_sub_cancel]
    omega
  · have named : ((month - 9).toNat : Int) = month - 9 := by omega
    have late : (month - 9).toNat ≤ 2 := by omega
    simp only [if_neg early, if_pos late, named, counted, Int.add_sub_cancel, Int.sub_add_cancel]
    omega

def dayOfEra (days : Int) : Int := (days + 719468) % 146097

def marchYear (days : Int) : Int := yearOfEra (dayOfEra days) + (days + 719468) / 146097 * 400

def marchMonth (days : Int) : Int := (5 * dayOfYear (dayOfEra days) + 2) / 153

private theorem dayOfEra_bounds (days : Int) : 0 ≤ dayOfEra days ∧ dayOfEra days < 146097 :=
  ⟨Int.emod_nonneg _ (by decide), Int.emod_lt_of_pos _ (by decide)⟩

private theorem marchMonth_bounds (days : Int) :
    0 ≤ marchMonth days ∧ marchMonth days ≤ 11 ∧
    (153 * marchMonth days + 2) / 5 ≤ dayOfYear (dayOfEra days) := by
  obtain ⟨-, -, first, last, -⟩ :=
    yearOfEra_bounds (dayOfEra_bounds days).1 (dayOfEra_bounds days).2
  unfold marchMonth
  omega

private theorem ofDays_eq (days : Int) :
    Date.ofDays days = marchDate (marchYear days) (marchMonth days)
      (dayOfYear (dayOfEra days) - (153 * marchMonth days + 2) / 5) := by
  obtain ⟨first, last, -⟩ := marchMonth_bounds days
  have unfolded : Date.ofDays days =
      { year := if (if marchMonth days < 10 then marchMonth days + 3
        else marchMonth days - 9) ≤ 2 then marchYear days + 1 else marchYear days
        month := (if marchMonth days < 10 then marchMonth days + 3 else marchMonth days - 9).toNat
        day := (dayOfYear (dayOfEra days) - (153 * marchMonth days + 2) / 5 + 1).toNat } := rfl
  rw [unfolded, marchDate]
  by_cases early : marchMonth days < 10
  · simp only [if_pos early, if_neg (by omega : ¬marchMonth days + 3 ≤ 2)]
  · simp only [if_neg early, if_pos (by omega : marchMonth days - 9 ≤ 2)]

private theorem toDays_ofDays (days : Int) : (Date.ofDays days).toDays = days := by
  obtain ⟨low, high, start⟩ := marchMonth_bounds days
  obtain ⟨first, last, -⟩ := yearOfEra_bounds (dayOfEra_bounds days).1 (dayOfEra_bounds days).2
  have era : marchYear days / 400 = (days + 719468) / 146097 := by
    unfold marchYear
    omega
  have year : marchYear days % 400 = yearOfEra (dayOfEra days) := by
    unfold marchYear
    omega
  have counted : dayOfEra days = 365 * yearOfEra (dayOfEra days) + yearOfEra (dayOfEra days) / 4 -
      yearOfEra (dayOfEra days) / 100 + dayOfYear (dayOfEra days) := by
    unfold dayOfYear
    omega
  have whole : (days + 719468) / 146097 * 146097 + dayOfEra days = days + 719468 := by
    unfold dayOfEra
    omega
  rw [ofDays_eq, toDays_marchDate low high (by omega), era, year]
  omega

private theorem marchDate_valid {year month day : Int} (low : 0 ≤ month) (high : month ≤ 11)
    (start : 0 ≤ day)
    (within : month ≠ 11 → (153 * month + 2) / 5 + day < (153 * (month + 1) + 2) / 5)
    (february : month = 11 → day ≤ 28 ∧ (day = 28 → isLeapYear (year + 1) = true)) :
    (marchDate year month day).Valid := by
  by_cases last : month = 11
  · subst last
    obtain ⟨bound, leap⟩ := february rfl
    have feb : (marchDate year 11 day) = ⟨year + 1, 2, (day + 1).toNat⟩ := rfl
    have length : (day + 1).toNat ≤ daysInMonth (year + 1) 2 := by
      by_cases final : day = 28
      · simp [daysInMonth, leap final, final]
      · have short : 28 ≤ daysInMonth (year + 1) 2 := by
          simp only [daysInMonth, if_true]
          split <;> decide
        omega
    rw [feb]
    exact ⟨(by decide : 1 ≤ 2), (by decide : 2 ≤ 12),
      (by omega : 1 ≤ (day + 1).toNat), length⟩
  · have each : month = 0 ∨ month = 1 ∨ month = 2 ∨ month = 3 ∨ month = 4 ∨ month = 5 ∨
        month = 6 ∨ month = 7 ∨
        month = 8 ∨ month = 9 ∨ month = 10 := by omega
    have fits := within last
    rcases each with rfl | rfl | rfl | rfl | rfl | rfl | rfl | rfl | rfl | rfl | rfl <;>
      simp [Date.Valid, marchDate, daysInMonth] <;> omega

private theorem isLeapYear_march {year era : Int}
    (leap : year % 4 = 3 ∧ (year % 100 = 99 → year = 399)) :
    isLeapYear (year + era * 400 + 1) = true := by
  have fourth : (year + era * 400 + 1) % 4 = 0 := by omega
  have century : (year + era * 400 + 1) % 100 ≠ 0 ∨ (year + era * 400 + 1) % 400 = 0 := by omega
  simp only [isLeapYear, fourth, beq_self_eq_true, Bool.true_and, Bool.or_eq_true,
    bne_iff_ne, beq_iff_eq]
  exact century

private theorem ofDays_valid (days : Int) : (Date.ofDays days).Valid := by
  obtain ⟨low, high, start⟩ := marchMonth_bounds days
  obtain ⟨-, -, -, latest, leap⟩ :=
    yearOfEra_bounds (dayOfEra_bounds days).1 (dayOfEra_bounds days).2
  have month : marchMonth days = (5 * dayOfYear (dayOfEra days) + 2) / 153 := rfl
  rw [ofDays_eq]
  refine marchDate_valid low high (by omega) (by omega) fun last => ⟨by omega, fun final => ?_⟩
  exact isLeapYear_march (leap (by omega))

private theorem ofDays_year {days : Int} (first : Date.toDays ⟨firstYear, 1, 1⟩ ≤ days)
    (last : days ≤ Date.toDays ⟨lastYear, 12, 31⟩) :
    firstYear ≤ (Date.ofDays days).year ∧ (Date.ofDays days).year ≤ lastYear := by
  obtain ⟨low, high, start⟩ := marchMonth_bounds days
  obtain ⟨-, -, day, most, -⟩ :=
    yearOfEra_bounds (dayOfEra_bounds days).1 (dayOfEra_bounds days).2
  have month : marchMonth days = (5 * dayOfYear (dayOfEra days) + 2) / 153 := rfl
  have counted := toDays_ofDays days
  rw [ofDays_eq, toDays_marchDate low high (by omega)] at counted
  have linear :
      marchYear days / 400 * 146097 + (marchYear days % 400 * 365 + marchYear days % 400 / 4 -
      marchYear days % 400 / 100) = 365 * marchYear days + marchYear days / 4 -
        marchYear days / 100 +
        marchYear days / 400 := by omega
  have earliest : Date.toDays ⟨firstYear, 1, 1⟩ = -96465292 := by decide
  have latest : Date.toDays ⟨lastYear, 12, 31⟩ = 95026236 := by decide
  rw [earliest] at first
  rw [latest] at last
  rw [ofDays_eq]
  have named : (marchDate (marchYear days) (marchMonth days)
      (dayOfYear (dayOfEra days) - (153 * marchMonth days + 2) / 5)).year =
        if marchMonth days < 10 then marchYear days else marchYear days + 1 := rfl
  rw [named, firstYear, lastYear]
  split <;> omega

/-! ### Digits -/

section

open Text

def numberOf (digits : List Char) : Nat := digits.foldl (fun n c => n * 10 + digitValue c) 0

theorem isDigit_of_mem_decimal {n : Nat} {c : Char} (member : c ∈ decimal n) :
    isDigit c = true := by
  have digit : c.isDigit = true := Nat.isDigit_of_mem_toDigits (by decide) (by decide) member
  simpa [isDigit, Char.isDigit, Char.le_def] using digit

private theorem padded_digits (width n : Nat) : ∀ c ∈ padded width n, isDigit c = true := by
  intro c member
  rcases List.mem_append.mp member with zero | digit
  · rw [List.eq_of_mem_replicate zero]
    decide
  · exact isDigit_of_mem_decimal digit

private theorem padded_length {width n : Nat} (some : 0 < width) (fits : n < 10 ^ width) :
    (padded width n).length = width := by
  have short : (decimal n).length ≤ width :=
    (Nat.length_toDigits_le_iff (by decide) some).mpr fits
  rw [padded, List.length_append, List.length_replicate]
  omega

private theorem padded_ne_nil (width n : Nat) : padded width n ≠ [] := by
  have some : decimal n ≠ [] := Nat.toDigits_ne_nil
  simp [padded, some]

theorem numberOf_padded (width n : Nat) : numberOf (padded width n) = n := by
  have zeros (count : Nat) : numberOf (List.replicate count '0') = 0 := by
    induction count with
    | zero => rfl
    | succ count ih => exact ih
  have digits : (decimal n).foldl (fun n c => n * 10 + digitValue c) 0 = n := by
    have same : (fun n c => n * 10 + digitValue c) = fun n c => 10 * n + (c.toNat - '0'.toNat) := by
      funext n c
      rw [Nat.mul_comm, digitValue]
    rw [same, ← Nat.ofDigitChars_eq_foldl]
    exact Nat.ofDigitChars_ten_toDigits
  unfold numberOf at zeros ⊢
  rw [padded, List.foldl_append, zeros, digits]

private theorem takeWhile_digits {width : Nat} {digits rest : List Char}
    (each : ∀ c ∈ digits, isDigit c = true) (fits : digits.length ≤ width)
    (ends : digits.length = width ∨ ∀ c ∈ rest.head?, isDigit c = false) :
    ((digits ++ rest).take width).takeWhile isDigit = digits := by
  have none : (rest.take (width - digits.length)).takeWhile isDigit = [] := by
    rcases ends with full | other
    · rw [full, Nat.sub_self]
      rfl
    · cases rest with
      | nil => simp
      | cons c rest =>
          have stop := other c rfl
          cases width - digits.length with
          | zero => rfl
          | succ count => simp [stop]
  rw [List.take_append, List.take_of_length_le fits, List.takeWhile_append_of_pos each, none,
    List.append_nil]

private theorem readDigits_append {width : Nat} {digits rest : List Char} (some : digits ≠ [])
    (each : ∀ c ∈ digits, isDigit c = true) (fits : digits.length ≤ width)
    (ends : digits.length = width ∨ ∀ c ∈ rest.head?, isDigit c = false) :
    readDigits width (digits ++ rest) = .some (numberOf digits, rest) := by
  have inhabited : digits.isEmpty = false := List.isEmpty_eq_false_iff.mpr some
  unfold readDigits
  dsimp only
  rw [takeWhile_digits each fits ends, inhabited, List.drop_left]
  rfl

private theorem dropBlanks_digits {digits rest : List Char} (some : digits ≠ [])
    (each : ∀ c ∈ digits, isDigit c = true) :
    dropBlanks (digits ++ rest) = digits ++ rest := by
  cases digits with
  | nil => exact absurd rfl some
  | cons c digits =>
      have digit := each c List.mem_cons_self
      have visible : ¬isBlank c = true := by
        simp only [isDigit, Char.le_def, Bool.and_eq_true, decide_eq_true_eq,
          UInt32.le_iff_toNat_le] at digit
        have low : 48 ≤ c.toNat := digit.1
        have high : c.toNat ≤ 57 := digit.2
        simp only [isBlank, Bool.or_eq_true, Bool.and_eq_true, decide_eq_true_eq, beq_iff_eq]
        omega
      exact List.dropWhile_cons_of_neg visible

/-! ### Parts of a text -/

private theorem readField_padded {n : Nat} (fits : n < 100) (rest : List Char) :
    readField (padded 2 n ++ rest) = some (n, rest) := by
  have length : (padded 2 n).length = 2 := padded_length (by decide) fits
  rw [readField, dropBlanks_digits (padded_ne_nil 2 n) (padded_digits 2 n),
    readDigits_append (padded_ne_nil 2 n) (padded_digits 2 n) (Nat.le_of_eq length) (.inl length),
    numberOf_padded]

private theorem readYear_digits {digits rest : List Char} (some : digits ≠ [])
    (each : ∀ c ∈ digits, isDigit c = true) :
    readYear (digits ++ rest) = (readDigits 4 (digits ++ rest)).map fun (n, rest) =>
      ((n : Int), rest) := by
  have unsigned {sign : Char} {more : List Char} (other : isDigit sign = false) :
      digits ++ rest ≠ sign :: more := by
    cases digits with
    | nil => exact absurd rfl some
    | cons c digits =>
        rintro same
        cases same
        exact absurd (each _ List.mem_cons_self) (by rw [other]; decide)
  rw [readYear, dropBlanks_digits some each]
  split
  · rename_i same
    exact absurd same (unsigned (by decide))
  · rename_i same
    exact absurd same (unsigned (by decide))
  · rfl

private theorem readYear_yearText (year : Int) (rest : List Char) :
    readYear (yearText year ++ '-' :: rest) = some (year, '-' :: rest) := by
  have stop : ∀ c ∈ ('-' :: rest).head?, isDigit c = false := by
    rintro _ ⟨⟩
    decide
  have signed :
      readDigits (padded 4 year.natAbs ++ '-' :: rest).length (padded 4 year.natAbs ++
        '-' :: rest) = some (year.natAbs, '-' :: rest) := by
    have fits : (padded 4 year.natAbs).length ≤ (padded 4 year.natAbs ++ '-' :: rest).length := by
      rw [List.length_append]
      exact Nat.le_add_right _ _
    rw [readDigits_append (padded_ne_nil 4 _) (padded_digits 4 _) fits (.inr stop), numberOf_padded]
  unfold yearText
  split
  · have length : (padded 4 year.natAbs).length = 4 := padded_length (by decide) (by omega)
    rw [readYear_digits (padded_ne_nil 4 _) (padded_digits 4 _),
      readDigits_append (padded_ne_nil 4 _)
      (padded_digits 4 _) (Nat.le_of_eq length) (.inl length), numberOf_padded, Option.map_some]
    have value : (year.natAbs : Int) = year := by omega
    dsimp only
    rw [value]
  · split
    · change (readDigits (padded 4 year.natAbs ++ '-' :: rest).length (padded 4 year.natAbs ++
        '-' :: rest)).map _ = _
      have value : -(year.natAbs : Int) = year := by omega
      rw [signed, Option.map_some]
      dsimp only
      rw [value]
    · change (readDigits (padded 4 year.natAbs ++ '-' :: rest).length (padded 4 year.natAbs ++
        '-' :: rest)).map _ = _
      have value : (year.natAbs : Int) = year := by omega
      rw [signed, Option.map_some]
      dsimp only
      rw [value]

private theorem readDate_dateText {date : Date} (month : date.month < 100) (day : date.day < 100)
    (rest : List Char) :
    readDate (dateText date ++ rest) = some (date, rest) := by
  have text : dateText date ++ rest =
      yearText date.year ++ '-' :: (padded 2 date.month ++ '-' :: (padded 2 date.day ++ rest)) := by
    simp only [dateText, List.append_assoc, List.cons_append]
  have mark (more : List Char) : readMark '-' ('-' :: more) = some more := rfl
  rw [text, readDate, readYear_yearText]
  simp only [Option.bind_eq_bind, Option.bind_some, mark, readField_padded month,
    readField_padded day]
  rfl

private theorem readFraction_fractionText (nanos : Nat) :
    readFraction (fractionText nanos ++ ['Z']) = some (nanos % 1000000000, ['Z']) := by
  have digits {width n : Nat} (some : 0 < width) (most : width ≤ 9) (fits : n < 10 ^ width) :
      readFraction ('.' :: padded width n ++ ['Z']) = .some (n * 10 ^ (9 - width), ['Z']) := by
    have length := padded_length some fits
    have taken : ((padded width n ++ ['Z']).take 9).takeWhile isDigit = padded width n := by
      refine takeWhile_digits (padded_digits width n) (by omega) (.inr ?_)
      rintro _ ⟨⟩
      decide
    have dropped : (padded width n ++ ['Z']).dropWhile isDigit = ['Z'] := by
      rw [List.dropWhile_append_of_pos (padded_digits width n)]
      rfl
    have inhabited : (padded width n).isEmpty = false :=
      List.isEmpty_eq_false_iff.mpr (padded_ne_nil width n)
    have value := numberOf_padded width n
    unfold numberOf at value
    rw [List.cons_append, readFraction]
    simp only [taken, inhabited, dropped, value, length, Bool.false_eq_true, if_false]
    rfl
  unfold fractionText
  dsimp only
  split
  · rename_i whole
    rw [whole]
    rfl
  · split
    · rw [digits (by decide) (by decide) (by omega)]
      congr 2
      omega
    · split
      · rw [digits (by decide) (by decide) (by omega)]
        congr 2
        omega
      · rw [digits (by decide) (by decide) (by omega)]
        congr 2
        omega

end

/-! ### Whole texts -/

namespace Instant

private theorem day_inRange {t : Instant} (range : t.InRange) :
    Date.toDays ⟨firstYear, 1, 1⟩ ≤ t.seconds / 86400 ∧
    t.seconds / 86400 ≤ Date.toDays ⟨lastYear, 12, 31⟩ := by
  obtain ⟨first, last⟩ := range
  unfold firstSecond at first
  unfold lastSecond at last
  omega

private theorem instantOf_parts {t : Instant} (valid : t.Valid) :
    instantOf t.date (t.secondOfDay / 3600) (t.secondOfDay / 60 % 60)
      (t.secondOfDay % 60 + t.nanos / 1000000000)
      (t.nanos % 1000000000) 0 = some t := by
  obtain ⟨range, extra, leap⟩ := valid
  obtain ⟨first, last⟩ := day_inRange range
  have years := ofDays_year first last
  have within : (t.secondOfDay : Int) = t.seconds % 86400 := by
    unfold secondOfDay
    omega
  have same : (⟨t.date.toDays * 86400 + ((t.secondOfDay / 3600 : Nat) : Int) * 3600 +
      ((t.secondOfDay / 60 % 60 : Nat) : Int) * 60 +
        ((min (t.secondOfDay % 60 + t.nanos / 1000000000) 59 : Nat) : Int) - 0,
      t.nanos % 1000000000 +
        if t.secondOfDay % 60 + t.nanos / 1000000000 = 60 then 1000000000
          else 0⟩ : Instant) = t := by
    have days : t.date.toDays = t.seconds / 86400 := toDays_ofDays _
    rw [days]
    obtain ⟨seconds, nanos⟩ := t
    dsimp only at *
    congr 1
    · omega
    · split <;> omega
  unfold instantOf
  dsimp only
  rw [same, if_pos]
  exact ⟨ofDays_valid _, years.1, years.2, by omega, by omega, by omega, range⟩

private theorem ofChars?_written {t : Instant} (valid : t.Valid) :
    ofChars? (dateText t.date ++ 'T' :: clockText t ++ fractionText t.nanos ++ ['Z']) = some t := by
  obtain ⟨_, month, _, day⟩ := ofDays_valid (t.seconds / 86400)
  have days : t.date.day < 100 := by
    have length : daysInMonth t.date.year t.date.month ≤ 31 := by
      unfold daysInMonth
      split
      · split <;> decide
      · split <;> decide
    exact Nat.lt_of_le_of_lt (Nat.le_trans day length) (by decide)
  have months : t.date.month < 100 := Nat.lt_of_le_of_lt month (by decide)
  have second : t.secondOfDay < 86400 := by
    unfold secondOfDay
    omega
  have extra := valid.2.1
  have text : dateText t.date ++ 'T' :: clockText t ++ fractionText t.nanos ++ ['Z'] =
      dateText t.date ++ 'T' :: (Text.padded 2 (t.secondOfDay / 3600) ++ ':' ::
        (Text.padded 2 (t.secondOfDay / 60 % 60) ++ ':' ::
          (Text.padded 2 (t.secondOfDay % 60 + t.nanos / 1000000000) ++
            (fractionText t.nanos ++ ['Z'])))) := by
    simp only [clockText, List.append_assoc, List.cons_append]
  have separator (more : List Char) : readSeparator ('T' :: more) = some more := rfl
  have mark (more : List Char) : readMark ':' (':' :: more) = some more := rfl
  have zone : readZone ['Z'] = some (0, []) := by decide
  rw [text, ofChars?, readDate_dateText months days]
  simp only [Option.bind_eq_bind, Option.bind_some, separator, mark, zone,
    readFraction_fractionText, readField_padded (show t.secondOfDay / 3600 < 100 by omega),
    readField_padded (show t.secondOfDay / 60 % 60 < 100 by omega),
    readField_padded (show t.secondOfDay % 60 + t.nanos / 1000000000 < 100 by omega)]
  exact instantOf_parts valid

/-- An instant is read from the text that is written for it. -/
theorem ofText?_toText {t : Instant} (valid : t.Valid) : ofText? t.toText = some t := by
  rw [ofText?, toText, String.toList_ofList]
  exact ofChars?_written valid

end Instant

end StatusPage.Time
