import AccountRelay.Text
/-!
# Moments

A moment is a civil date and a second of that day, read at an offset from UTC of less than a day
either way. Its UTC second lies on the same day, the day before or the day after, so the conversion
moves the date by at most one day, and fails where the calendar of years 1 to 9999 ends.
-/

namespace AccountRelay

namespace Date

def isLeap (year : Nat) : Bool := year % 4 = 0 && (year % 100 ≠ 0 || year % 400 = 0)

def daysIn (year month : Nat) : Nat :=
  if month = 2 then if isLeap year then 29 else 28
  else if month = 4 ∨ month = 6 ∨ month = 9 ∨ month = 11 then 30
  else 31

def Valid (year month day : Nat) : Prop :=
  1 ≤ year ∧ year ≤ 9999 ∧ 1 ≤ month ∧ month ≤ 12 ∧ 1 ≤ day ∧ day ≤ daysIn year month

instance (year month day : Nat) : Decidable (Valid year month day) :=
  inferInstanceAs (Decidable (_ ∧ _))

end Date

structure Date where
  year : Nat
  month : Nat
  day : Nat
  valid : Date.Valid year month day
  deriving DecidableEq

namespace Date

def of? (year month day : Nat) : Option Date :=
  if valid : Valid year month day then some ⟨year, month, day, valid⟩ else none

def next? (d : Date) : Option Date :=
  if d.day < daysIn d.year d.month then of? d.year d.month (d.day + 1)
  else if d.month < 12 then of? d.year (d.month + 1) 1
  else of? (d.year + 1) 1 1

def previous? (d : Date) : Option Date :=
  if 1 < d.day then of? d.year d.month (d.day - 1)
  else if 1 < d.month then of? d.year (d.month - 1) (daysIn d.year (d.month - 1))
  else of? (d.year - 1) 12 31

def yearStart (year : Nat) : Nat :=
  let y := year - 1
  365 * y + y / 4 - y / 100 + y / 400

def monthStart (year : Nat) : Nat → Nat
  | 0 => 0
  | 1 => 0
  | month + 2 => monthStart year (month + 1) + daysIn year (month + 1)

/-- The days before a date, counted from the first day of year one. -/
def ordinal (d : Date) : Nat := yearStart d.year + monthStart d.year d.month + (d.day - 1)

end Date

structure Moment where
  date : Date
  second : Nat
  offset : Int
  second_lt : second < 86400
  offset_lt : -86400 < offset ∧ offset < 86400
  deriving DecidableEq

namespace Moment

def of? (year month day hour minute second : Nat) (offset : Int) : Option Moment := do
  let date ← Date.of? year month day
  let seconds := hour * 3600 + minute * 60 + second
  if h : seconds < 86400 ∧ -86400 < offset ∧ offset < 86400 then
    some ⟨date, seconds, offset, h.1, h.2⟩
  else none

/-- The seconds from the first day of year one, in UTC. -/
def instant (m : Moment) : Int := m.date.ordinal * 86400 + m.second - m.offset

def utc? (m : Moment) : Option (Date × Nat) :=
  let second := m.second - m.offset
  if second < 0 then m.date.previous?.map fun date => (date, (second + 86400).toNat)
  else if second < 86400 then some (m.date, second.toNat)
  else m.date.next?.map fun date => (date, (second - 86400).toNat)

/-- The date that lies some days after another one. -/
def after : Nat → Date → Option Date
  | 0, date => some date
  | days + 1, date => date.next?.bind (after days)

/-- The moment some seconds after the start of the year 1970, in UTC. -/
def ofSeconds (seconds : Nat) : Option Moment := do
  let date ← after (seconds / 86400) (← Date.of? 1970 1 1)
  return ⟨date, seconds % 86400, 0, Nat.mod_lt _ (by decide), by decide⟩

end Moment

/-- A date and a second of the day as entry names have them. Only the year may be shorter than
usual. -/
def stamp (date : Date) (second : Nat) : Text :=
  Text.decimal date.year ++ Text.twoDigits date.month ++ Text.twoDigits date.day ++ "T"
    ++ Text.twoDigits (second / 3600) ++ Text.twoDigits (second / 60 % 60)
    ++ Text.twoDigits (second % 60) ++ "Z"

def Moment.stamp? (m : Moment) : Option Text := m.utc?.map fun (date, second) => stamp date second

end AccountRelay
