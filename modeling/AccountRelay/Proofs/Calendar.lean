import AccountRelay.Proofs.EntryName
/-!
# The calendar and its stamps

Going to the next date fails after the last of the calendar only, and going to the previous one before
the first. So a moment has a stamp as long as its UTC second lies in the years 1 to 9999. From the
year 1000 on all stamps have one length, and their order is that of the seconds.
-/

namespace AccountRelay

namespace Date

theorem daysIn_pos (year month : Nat) : 1 ≤ daysIn year month := by
  unfold daysIn
  split
  · split <;> omega
  · split <;> omega

theorem of?_of_valid {year month day : Nat} (valid : Valid year month day) :
    of? year month day = some ⟨year, month, day, valid⟩ := dif_pos valid

theorem yearStart_le_ordinal_iff {year : Nat} (first : 1 ≤ year) (d : Date) :
    yearStart year ≤ d.ordinal ↔ year ≤ d.year := by
  obtain ⟨dy, -, dm, dm', dd, dd'⟩ := d.valid
  unfold ordinal
  constructor
  · intro begun
    by_contra later
    have next := yearStart_mono (show 1 ≤ d.year + 1 by omega) (show d.year + 1 ≤ year by omega)
    rw [yearStart_succ dy, ← monthStart_end] at next
    have inMonth := monthStart_succ d.year dm
    have inYear := monthStart_mono d.year (show 1 ≤ d.month + 1 by omega)
      (show d.month + 1 ≤ 13 by omega)
    omega
  · intro same
    have := yearStart_mono first same
    omega

theorem ordinal_lt_yearStart_iff {year : Nat} (first : 1 ≤ year) (d : Date) :
    d.ordinal < yearStart year ↔ d.year < year := by
  rw [← Nat.not_le, yearStart_le_ordinal_iff first, Nat.not_le]

/-- Only the last date of the calendar has no next one. -/
theorem next?_eq_none_iff (d : Date) : d.next? = none ↔ d.ordinal + 1 = yearStart 10000 := by
  obtain ⟨dy, dy', dm, dm', dd, dd'⟩ := d.valid
  constructor
  · intro none
    unfold next? at none
    split at none
    · rw [of?_of_valid ⟨dy, dy', dm, dm', by omega, by omega⟩] at none
      cases none
    · split at none
      · rw [of?_of_valid ⟨dy, dy', by omega, by omega, by omega, daysIn_pos _ _⟩] at none
        cases none
      · rename_i monthEnd yearEnd
        have last : ¬ d.year + 1 ≤ 9999 := by
          intro room
          rw [of?_of_valid ⟨by omega, room, by omega, by omega, by omega, daysIn_pos _ _⟩] at none
          cases none
        obtain ⟨year, month⟩ : d.year = 9999 ∧ d.month = 12 := by omega
        rw [year, month] at monthEnd dd'
        have december : daysIn 9999 12 = 31 := rfl
        rw [ordinal, year, month]
        have : yearStart 9999 + monthStart 9999 12 + 31 = yearStart 10000 := by decide
        omega
  · intro last
    cases next : d.next? with
    | none => rfl
    | some e =>
      have later := ordinal_next? next
      have inYears := e.valid.2.1
      have inCalendar : e.ordinal < yearStart 10000 :=
        (ordinal_lt_yearStart_iff (by decide) e).2 (by omega)
      omega

theorem previous?_eq_none_iff (d : Date) : d.previous? = none ↔ d.ordinal = 0 := by
  obtain ⟨dy, dy', dm, dm', dd, dd'⟩ := d.valid
  constructor
  · intro none
    unfold previous? at none
    split at none
    · rw [of?_of_valid ⟨dy, dy', dm, dm', by omega, by omega⟩] at none
      cases none
    · split at none
      · rw [of?_of_valid ⟨dy, dy', by omega, by omega, daysIn_pos _ _, Nat.le_refl _⟩] at none
        cases none
      · have first : ¬ 1 ≤ d.year - 1 := by
          intro room
          have december : daysIn (d.year - 1) 12 = 31 := by simp [daysIn]
          rw [of?_of_valid ⟨room, by omega, by omega, by omega, by omega, by omega⟩] at none
          cases none
        obtain ⟨year, month, day⟩ : d.year = 1 ∧ d.month = 1 ∧ d.day = 1 := by omega
        rw [ordinal, year, month, day]
        decide
  · intro first
    cases previous : d.previous? with
    | none => rfl
    | some e =>
      have := ordinal_previous? previous
      omega

end Date

namespace Moment

/-- The UTC second of the moment lies in these years, the last of them included. -/
def Within (m : Moment) (first last : Nat) : Prop :=
  (Date.yearStart first * 86400 : Int) ≤ m.instant ∧
    m.instant < (Date.yearStart (last + 1) * 86400 : Int)

instance (m : Moment) (first last : Nat) : Decidable (m.Within first last) :=
  inferInstanceAs (Decidable (_ ∧ _))

theorem within_iff_of_utc? {m : Moment} {date : Date} {second first : Nat}
    (utc : m.utc? = some (date, second)) (positive : 1 ≤ first) (last : Nat) :
    m.Within first last ↔ first ≤ date.year ∧ date.year ≤ last := by
  obtain ⟨here, inDay⟩ := instant_of_utc? utc
  have begun := Date.yearStart_le_ordinal_iff positive date
  have ended := Date.ordinal_lt_yearStart_iff (show 1 ≤ last + 1 by omega) date
  unfold Within
  omega

theorem utc?_eq_none_iff (m : Moment) : m.utc? = none ↔ ¬ m.Within 1 9999 := by
  have inDay := m.second_lt
  obtain ⟨low, high⟩ := m.offset_lt
  have inYears := m.date.valid.2.1
  have inCalendar : m.date.ordinal < Date.yearStart 10000 :=
    (Date.ordinal_lt_yearStart_iff (by decide) m.date).2 (by omega)
  have start : Date.yearStart 1 = 0 := rfl
  unfold utc? Within instant
  simp only [start, Nat.reduceAdd]
  split
  · rw [Option.map_eq_none_iff, Date.previous?_eq_none_iff]
    omega
  · split
    · simp only [reduceCtorEq, false_iff]
      omega
    · rw [Option.map_eq_none_iff, Date.next?_eq_none_iff]
      omega

theorem recent_of_within {m : Moment} (within : m.Within 1000 9999) : m.Recent := fun _ _ utc =>
  ((within_iff_of_utc? utc (by decide) 9999).1 within).1

theorem Within.mono {m : Moment} {first last early late : Nat} (within : m.Within first last)
    (positive : 1 ≤ early) (before : early ≤ first) (behind : last ≤ late) : m.Within early late := by
  have starts := Date.yearStart_mono positive before
  have ends := Date.yearStart_mono (show 1 ≤ last + 1 by omega) (show last + 1 ≤ late + 1 by omega)
  obtain ⟨begun, ended⟩ := within
  unfold Within
  omega

theorem exists_stamp? {m : Moment} (within : m.Within 1 9999) : ∃ s, m.stamp? = some s := by
  cases utc : m.utc? with
  | none => exact absurd within ((utc?_eq_none_iff m).1 utc)
  | some found => exact ⟨_, by rw [stamp?, utc]; rfl⟩

/-- A moment has a stamp unless its UTC second lies outside the calendar. Stamps of four-digit years
are listed like their seconds, have one length, and no hyphen. -/
theorem stamps_ordered (m n : Moment) :
    (m.stamp? = none ↔ ¬ m.Within 1 9999) ∧
      (m.Within 1000 9999 → n.Within 1000 9999 → ∃ s t, m.stamp? = some s ∧ n.stamp? = some t ∧
        (Text.le s t = true ↔ m.instant ≤ n.instant) ∧ (s = t ↔ m.instant = n.instant) ∧
        s.length = 16 ∧ .char '-' ∉ s) := by
  refine ⟨?_, fun within within' => ?_⟩
  · rw [stamp?, Option.map_eq_none_iff, utc?_eq_none_iff]
  · obtain ⟨s, hs⟩ := exists_stamp? (within.mono (by decide) (by decide) (by decide))
    obtain ⟨t, ht⟩ := exists_stamp? (within'.mono (by decide) (by decide) (by decide))
    have recent := recent_of_within within
    have recent' := recent_of_within within'
    have same := stamp?_eq_iff hs ht
    refine ⟨s, t, hs, ht, ?_, same, length_stamp? recent hs, EntryName.hyphen_not_mem_stamp? hs⟩
    rw [Text.le_iff_not_before]
    constructor
    · intro ahead
      by_contra later
      obtain equal | before := stamp?_eq_or_before recent' recent (by omega) ht hs
      · have := same.1 equal.symm
        omega
      · exact ahead before
    · intro earlier
      obtain rfl | before := stamp?_eq_or_before recent recent' earlier hs ht
      · exact Text.Before.irrefl s
      · exact before.asymm

/-- In UTC the first is an hour after the end of a leap day, and one second before the second, whose
own date is later. The year one has not begun in UTC where its clock says so. -/
theorem stamps_ordered_over_leap_day :
    let m : Moment := ⟨⟨2000, 2, 29, by decide⟩, 86399, -3600, by decide, by decide⟩
    let n : Moment := ⟨⟨2000, 3, 1, by decide⟩, 7200, 3600, by decide, by decide⟩
    let early : Moment := ⟨⟨1, 1, 1, by decide⟩, 0, 1, by decide, by decide⟩
    m.Within 1000 9999 ∧ n.Within 1000 9999 ∧
      (∃ s t, m.stamp? = some s ∧ n.stamp? = some t ∧
        (Text.le s t = true ↔ m.instant ≤ n.instant) ∧ (s = t ↔ m.instant = n.instant) ∧
        s.length = 16 ∧ .char '-' ∉ s) ∧
      m.instant + 1 = n.instant ∧ ¬ early.Within 1 9999 ∧ early.stamp? = none := by
  intro m n early
  have within : m.Within 1000 9999 := by decide
  have within' : n.Within 1000 9999 := by decide
  have outside : ¬ early.Within 1 9999 := by decide
  exact ⟨within, within', (stamps_ordered m n).2 within within', by decide, outside,
    (stamps_ordered early m).1.2 outside⟩

end Moment

end AccountRelay
