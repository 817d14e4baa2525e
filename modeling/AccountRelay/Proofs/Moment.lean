import AccountRelay.Moment
import AccountRelay.Proofs.Text.Numeral
/-!
# Stamps are ordered like moments

The days before a date grow with its year, month and day read as one number, and going to the next or
the previous date adds or takes away one day. A stamp is the numeral of that number, then the numeral
of the time of day, both of fixed widths from the year 1000 on. So stamps are listed in the order of
the seconds they stand for.
-/

namespace AccountRelay

namespace Date

/-! ## Days before a date -/

theorem monthStart_succ (year : Nat) {month : Nat} (h : 1 ≤ month) :
    monthStart year (month + 1) = monthStart year month + daysIn year month := by
  obtain ⟨m, rfl⟩ : ∃ m, month = m + 1 := ⟨month - 1, by omega⟩
  rfl

theorem monthStart_mono (year : Nat) {m n : Nat} (hm : 1 ≤ m) (h : m ≤ n) :
    monthStart year m ≤ monthStart year n := by
  induction n, h using Nat.le_induction with
  | base => exact Nat.le_refl _
  | succ n hn ih =>
    rw [monthStart_succ year (show 1 ≤ n by omega)]
    omega

def yearLength (year : Nat) : Nat := if isLeap year then 366 else 365

theorem monthStart_end (year : Nat) : monthStart year 13 = yearLength year := by
  unfold yearLength
  cases h : isLeap year <;> simp [monthStart, daysIn, h]

theorem yearStart_succ {year : Nat} (h : 1 ≤ year) :
    yearStart (year + 1) = yearStart year + yearLength year := by
  obtain ⟨y, rfl⟩ : ∃ y, year = y + 1 := ⟨year - 1, by omega⟩
  have fours := Nat.succ_div (a := y) (b := 4)
  have hundreds := Nat.succ_div (a := y) (b := 100)
  have rare := Nat.succ_div (a := y) (b := 400)
  have order : y / 100 ≤ y / 4 := by omega
  unfold yearStart yearLength isLeap
  simp only [Bool.and_eq_true, Bool.or_eq_true, decide_eq_true_eq, Nat.add_sub_cancel, ne_eq,
    ← Nat.dvd_iff_mod_eq_zero]
  by_cases four : 4 ∣ y + 1
  · by_cases hundred : 100 ∣ y + 1
    · by_cases leap : 400 ∣ y + 1
      · simp only [four, hundred, leap, if_true, not_true_eq_false, or_true, and_self] at *
        omega
      · simp only [four, hundred, leap, if_true, if_false, not_true_eq_false, or_self,
          and_false] at *
        omega
    · have common : ¬ 400 ∣ y + 1 := fun h => hundred (Nat.dvd_trans (by decide) h)
      simp only [four, hundred, common, if_true, if_false, not_false_eq_true, or_false,
        and_self] at *
      omega
  · have odd : ¬ 100 ∣ y + 1 := fun h => four (Nat.dvd_trans (by decide) h)
    have common : ¬ 400 ∣ y + 1 := fun h => four (Nat.dvd_trans (by decide) h)
    simp only [four, odd, common, if_false, false_and] at *
    omega

theorem yearStart_mono {m n : Nat} (hm : 1 ≤ m) (h : m ≤ n) : yearStart m ≤ yearStart n := by
  induction n, h using Nat.le_induction with
  | base => exact Nat.le_refl _
  | succ n hn ih =>
    rw [yearStart_succ (show 1 ≤ n by omega)]
    omega

def number (d : Date) : Nat := (d.year * 100 + d.month) * 100 + d.day

theorem daysIn_le (year month : Nat) : daysIn year month ≤ 31 := by
  unfold daysIn
  split
  · split <;> omega
  · split <;> omega

theorem number_lt (d : Date) : d.number < 10 ^ 8 := by
  obtain ⟨-, year, -, month, -, day⟩ := d.valid
  have := daysIn_le d.year d.month
  unfold number
  omega

theorem ordinal_lt_of_number_lt {d e : Date} (h : d.number < e.number) : d.ordinal < e.ordinal := by
  obtain ⟨dy, -, dm, dm', dd, dd'⟩ := d.valid
  obtain ⟨ey, -, em, em', ed, ed'⟩ := e.valid
  have short := daysIn_le d.year d.month
  have short' := daysIn_le e.year e.month
  -- The day lies before the end of its month, and the month before the end of its year.
  have inMonth := monthStart_succ d.year dm
  rw [ordinal, ordinal]
  unfold number at h
  by_cases years : d.year < e.year
  · have inYear := monthStart_mono d.year (show 1 ≤ d.month + 1 by omega)
      (show d.month + 1 ≤ 13 by omega)
    rw [monthStart_end] at inYear
    have later := yearStart_mono (show 1 ≤ d.year + 1 by omega) years
    rw [yearStart_succ dy] at later
    omega
  · have same : d.year = e.year := by omega
    rw [same] at inMonth dd' ⊢
    by_cases months : d.month < e.month
    · have later := monthStart_mono e.year (show 1 ≤ d.month + 1 by omega) months
      omega
    · have same' : d.month = e.month := by omega
      rw [same']
      omega

theorem eq_of_number_eq {d e : Date} (h : d.number = e.number) : d = e := by
  obtain ⟨-, -, -, dm, -, dd⟩ := d.valid
  obtain ⟨-, -, -, em, -, ed⟩ := e.valid
  have short := daysIn_le d.year d.month
  have short' := daysIn_le e.year e.month
  unfold number at h
  obtain ⟨y, m, d, valid⟩ := d
  obtain ⟨y', m', d', valid'⟩ := e
  simp only at h dm em dd ed short short'
  obtain ⟨rfl, rfl, rfl⟩ : y = y' ∧ m = m' ∧ d = d' := by omega
  rfl

theorem number_lt_of_ordinal_lt {d e : Date} (h : d.ordinal < e.ordinal) : d.number < e.number := by
  by_contra back
  obtain lower | same := Nat.lt_or_eq_of_le (Nat.le_of_not_lt back)
  · have := ordinal_lt_of_number_lt lower
    omega
  · rw [eq_of_number_eq same] at h
    exact Nat.lt_irrefl _ h

theorem ordinal_injective {d e : Date} (h : d.ordinal = e.ordinal) : d = e := by
  obtain lower | same | higher := Nat.lt_trichotomy d.number e.number
  · have := ordinal_lt_of_number_lt lower
    omega
  · exact eq_of_number_eq same
  · have := ordinal_lt_of_number_lt higher
    omega

/-! ## Neighbours -/

theorem of?_eq_some {year month day : Nat} {d : Date} (h : of? year month day = some d) :
    d.year = year ∧ d.month = month ∧ d.day = day := by
  unfold of? at h
  split at h
  · cases h
    exact ⟨rfl, rfl, rfl⟩
  · cases h

theorem ordinal_of? {year month day : Nat} {d : Date} (h : of? year month day = some d) :
    d.ordinal = yearStart year + monthStart year month + (day - 1) := by
  obtain ⟨rfl, rfl, rfl⟩ := of?_eq_some h
  rfl

theorem monthStart_one (year : Nat) : monthStart year 1 = 0 := rfl

theorem ordinal_next? {d e : Date} (h : d.next? = some e) : e.ordinal = d.ordinal + 1 := by
  obtain ⟨dy, -, dm, dm', dd, dd'⟩ := d.valid
  have inMonth := monthStart_succ d.year dm
  unfold next? at h
  split at h
  · rw [ordinal_of? h, ordinal]
    omega
  · split at h
    · rw [ordinal_of? h, ordinal]
      omega
    · rename_i monthEnd yearEnd
      have last : d.month = 12 := by omega
      rw [last] at inMonth monthEnd dd'
      rw [monthStart_end] at inMonth
      rw [ordinal_of? h, ordinal, yearStart_succ dy, monthStart_one, last]
      omega

theorem ordinal_previous? {d e : Date} (h : d.previous? = some e) : e.ordinal + 1 = d.ordinal := by
  obtain ⟨dy, -, dm, dm', dd, dd'⟩ := d.valid
  unfold previous? at h
  split at h
  · rw [ordinal_of? h, ordinal]
    omega
  · split at h
    · have before := monthStart_succ d.year (show 1 ≤ d.month - 1 by omega)
      rw [Nat.sub_add_cancel dm] at before
      obtain ⟨-, -, day⟩ := of?_eq_some h
      have positive := e.valid.2.2.2.2.1
      rw [ordinal_of? h, ordinal]
      omega
    · have first : d.month = 1 := by omega
      obtain ⟨year, -, -⟩ := of?_eq_some h
      have positive := e.valid.1
      have before := yearStart_succ (show 1 ≤ d.year - 1 by omega)
      rw [Nat.sub_add_cancel dy, ← monthStart_end, monthStart_succ _ (by decide)] at before
      rw [ordinal_of? h, ordinal, first, monthStart_one]
      have december : daysIn (d.year - 1) 12 = 31 := by simp [daysIn]
      omega

end Date

namespace Moment

theorem instant_of_utc? {m : Moment} {date : Date} {second : Nat}
    (h : m.utc? = some (date, second)) :
    (date.ordinal * 86400 + second : Int) = m.instant ∧ second < 86400 := by
  have inDay := m.second_lt
  obtain ⟨low, high⟩ := m.offset_lt
  unfold utc? at h
  unfold instant
  simp only at h
  split at h
  · obtain ⟨before, previous, pair⟩ := Option.map_eq_some_iff.1 h
    cases pair
    have := Date.ordinal_previous? previous
    omega
  · split at h
    · cases h
      omega
    · obtain ⟨after, next, pair⟩ := Option.map_eq_some_iff.1 h
      cases pair
      have := Date.ordinal_next? next
      omega

end Moment

/-! ## Stamps -/

def timeNumber (second : Nat) : Nat :=
  (second / 3600 * 100 + second / 60 % 60) * 100 + second % 60

theorem timeNumber_lt {second : Nat} (h : second < 86400) : timeNumber second < 10 ^ 6 := by
  unfold timeNumber
  omega

theorem timeNumber_lt_of_lt {s t : Nat} (h : s < t) : timeNumber s < timeNumber t := by
  have hours (n : Nat) : n / 3600 = n / 60 / 60 := (Nat.div_div_eq_div_mul n 60 60).symm
  unfold timeNumber
  rw [hours, hours]
  by_cases minutes : s / 60 < t / 60
  · generalize s / 60 = m at *
    generalize t / 60 = n at *
    omega
  · have same : s / 60 = t / 60 := by omega
    rw [same]
    omega

theorem timeNumber_injective {s t : Nat} (h : timeNumber s = timeNumber t) : s = t := by
  obtain earlier | same | later := Nat.lt_trichotomy s t
  · have := timeNumber_lt_of_lt earlier
    omega
  · exact same
  · have := timeNumber_lt_of_lt later
    omega

/-- The year is all that is written before the last twelve symbols of a stamp. -/
theorem stamp_eq_year (date : Date) (second : Nat) :
    stamp date second = Text.decimal date.year ++ (Text.digits 4 (date.month * 100 + date.day) ++
      ("T" ++ (Text.digits 6 (timeNumber second) ++ "Z"))) := by
  obtain ⟨-, -, -, month, -, day⟩ := date.valid
  have short := Date.daysIn_le date.year date.month
  have days : Text.twoDigits date.month ++ Text.twoDigits date.day =
      Text.digits 4 (date.month * 100 + date.day) := by
    rw [Text.twoDigits_eq_digits, Text.twoDigits_eq_digits, Text.digits_append 2 2 _ _ (by omega)]
    rfl
  have times : Text.twoDigits (second / 3600) ++ Text.twoDigits (second / 60 % 60) ++
      Text.twoDigits (second % 60) = Text.digits 6 (timeNumber second) := by
    rw [Text.twoDigits_eq_digits, Text.twoDigits_eq_digits, Text.twoDigits_eq_digits,
      Text.digits_append 2 2 _ _ (by omega), Text.digits_append 4 2 _ _ (by omega)]
    rfl
  rw [stamp, ← days, ← times]
  simp only [List.append_assoc]

theorem stamp_eq {date : Date} (second : Nat) (year : 1000 ≤ date.year) :
    stamp date second =
      Text.digits 8 date.number ++ ("T" ++ (Text.digits 6 (timeNumber second) ++ "Z")) := by
  obtain ⟨-, high, -, month, -, day⟩ := date.valid
  have short := Date.daysIn_le date.year date.month
  have number : date.year * 10 ^ 4 + (date.month * 100 + date.day) = date.number := by
    unfold Date.number
    omega
  rw [stamp_eq_year, Text.decimal_eq_digits year high, ← List.append_assoc,
    Text.digits_append 4 4 _ _ (by omega), number]

theorem stamp_before {date other : Date} {second moment : Nat} (year : 1000 ≤ date.year)
    (year' : 1000 ≤ other.year) (inDay : moment < 86400)
    (h : date.ordinal * 86400 + second < other.ordinal * 86400 + moment) :
    Text.Before (stamp date second) (stamp other moment) := by
  rw [stamp_eq second year, stamp_eq moment year']
  by_cases days : date.ordinal < other.ordinal
  · have numbers := Text.digits_before (Date.number_lt_of_ordinal_lt days) other.number_lt
    exact numbers.append (by simp) _ _
  · obtain rfl : date = other := Date.ordinal_injective (by omega)
    rw [Text.before_append_left_iff, Text.before_append_left_iff]
    have numbers := Text.digits_before (timeNumber_lt_of_lt (show second < moment by omega))
      (timeNumber_lt inDay)
    exact numbers.append (by simp) _ _

theorem stamp_injective {date other : Date} {second moment : Nat} (inDay : second < 86400)
    (inDay' : moment < 86400) (h : stamp date second = stamp other moment) :
    date = other ∧ second = moment := by
  obtain ⟨-, -, -, month, -, day⟩ := date.valid
  obtain ⟨-, -, -, month', -, day'⟩ := other.valid
  have short := Date.daysIn_le date.year date.month
  have short' := Date.daysIn_le other.year other.month
  rw [stamp_eq_year, stamp_eq_year] at h
  obtain ⟨years, rest⟩ := List.append_inj' h (by simp [Text.ofString])
  obtain ⟨days, rest⟩ := List.append_inj rest (by simp)
  obtain ⟨times, -⟩ := List.append_inj (List.append_cancel_left rest) (by simp)
  have year := Text.decimal_injective years
  have number := Text.digits_injective (show _ < 10 ^ 4 by omega) (show _ < 10 ^ 4 by omega) days
  have time := Text.digits_injective (timeNumber_lt inDay) (timeNumber_lt inDay') times
  refine ⟨Date.eq_of_number_eq ?_, timeNumber_injective time⟩
  unfold Date.number
  omega

theorem length_stamp {date : Date} (second : Nat) (year : 1000 ≤ date.year) :
    (stamp date second).length = 16 := by
  rw [stamp_eq second year]
  simp [Text.ofString]

theorem rank_of_mem_stamp {date : Date} {second : Nat} {c : Symbol} (h : c ∈ stamp date second) :
    48 ≤ c.rank ∧ c.rank ≤ 90 := by
  have ofDigit {n : Nat} (h : c = Text.digit n) : 48 ≤ c.rank ∧ c.rank ≤ 90 := by
    rw [h, Text.rank_digit]
    omega
  have ofTwo {n : Nat} (h : c ∈ Text.twoDigits n) : 48 ≤ c.rank ∧ c.rank ≤ 90 := by
    obtain rfl | rfl : c = Text.digit (n / 10) ∨ c = Text.digit n := by
      simpa [Text.twoDigits] using h
    · exact ofDigit rfl
    · exact ofDigit rfl
  simp only [stamp, List.mem_append, Text.ofString] at h
  obtain (((((((h | h) | h) | h) | h) | h) | h) | h) := h
  · obtain ⟨n, rfl⟩ := Text.mem_decimal h
    exact ofDigit rfl
  · exact ofTwo h
  · exact ofTwo h
  · obtain rfl : c = .char 'T' := by simpa using h
    decide
  · exact ofTwo h
  · exact ofTwo h
  · exact ofTwo h
  · obtain rfl : c = .char 'Z' := by simpa using h
    decide

namespace Moment

theorem stamp?_eq_some {m : Moment} {t : Text} (h : m.stamp? = some t) :
    ∃ date second, m.utc? = some (date, second) ∧ t = stamp date second := by
  obtain ⟨⟨date, second⟩, utc, rfl⟩ := Option.map_eq_some_iff.1 h
  exact ⟨date, second, utc, rfl⟩

/-- The UTC date of the moment, where the calendar has it, lies in the year 1000 or later. -/
def Recent (m : Moment) : Prop := ∀ date second, m.utc? = some (date, second) → 1000 ≤ date.year

theorem stamp?_eq_or_before {m n : Moment} {s t : Text} (recent : m.Recent) (recent' : n.Recent)
    (h : m.instant ≤ n.instant) (hs : m.stamp? = some s) (ht : n.stamp? = some t) :
    s = t ∨ Text.Before s t := by
  obtain ⟨date, second, utc, rfl⟩ := stamp?_eq_some hs
  obtain ⟨other, moment, utc', rfl⟩ := stamp?_eq_some ht
  obtain ⟨here, inDay⟩ := instant_of_utc? utc
  obtain ⟨there, inDay'⟩ := instant_of_utc? utc'
  by_cases same : m.instant = n.instant
  · obtain rfl : date = other := Date.ordinal_injective (by omega)
    obtain rfl : second = moment := by omega
    exact Or.inl rfl
  · exact Or.inr (stamp_before (recent _ _ utc) (recent' _ _ utc') inDay' (by omega))

theorem stamp?_eq_iff {m n : Moment} {s t : Text} (hs : m.stamp? = some s) (ht : n.stamp? = some t) :
    s = t ↔ m.instant = n.instant := by
  obtain ⟨date, second, utc, rfl⟩ := stamp?_eq_some hs
  obtain ⟨other, moment, utc', rfl⟩ := stamp?_eq_some ht
  obtain ⟨here, inDay⟩ := instant_of_utc? utc
  obtain ⟨there, inDay'⟩ := instant_of_utc? utc'
  constructor
  · intro same
    obtain ⟨rfl, rfl⟩ := stamp_injective inDay inDay' same
    omega
  · intro same
    obtain rfl : date = other := Date.ordinal_injective (by omega)
    obtain rfl : second = moment := by omega
    rfl

theorem length_stamp? {m : Moment} {s : Text} (recent : m.Recent) (hs : m.stamp? = some s) :
    s.length = 16 := by
  obtain ⟨date, second, utc, rfl⟩ := stamp?_eq_some hs
  exact length_stamp second (recent _ _ utc)

theorem midnight_lt : 0 < 86400 := by decide

theorem greenwich_lt : -86400 < (0 : Int) ∧ (0 : Int) < 86400 := by decide

def newYear : Moment := ⟨⟨2024, 1, 1, by decide⟩, 0, 0, midnight_lt, greenwich_lt⟩

theorem recent_newYear : newYear.Recent := by
  intro date second utc
  have known : newYear.utc? = some (newYear.date, 0) := rfl
  rw [known] at utc
  cases utc
  decide

end Moment

end AccountRelay
