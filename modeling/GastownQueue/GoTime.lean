import GastownQueue.RateLimit

/-! The parts of package `time` the reset parsers call. A `time.Time` is an `Int` of nanoseconds
from January 1 of year 1 UTC, as in the rate-limit state. The machine's zone (`time.Local`) is a
`Location`, the offset it has at each instant, so that `time.Date` in the zone of the clock is
the civil date of that zone, daylight saving time included. `time.Parse` is modelled on the
texts the timestamp patterns capture, four digits of year and two of every other field with
their separators, followed by nothing, `Z`, or an offset `±hh:mm`. -/

namespace GastownQueue

open Strings Strconv

def hour : GoInt := 60 * minute

/-- `time.Until(t)` at the clock reading `now`: `t.Sub(now)`. -/
def timeUntil (now t : Int) : GoInt :=
  GoInt.saturate (t - now)

namespace GoTime

def day : Int := 86400000000000

def isLeap (year : Int) : Bool :=
  year % 4 = 0 && (year % 100 ≠ 0 || year % 400 = 0)

/-- `daysIn`: the days of a month. -/
def daysIn (month year : Int) : Int :=
  if month = 2 then (if isLeap year then 29 else 28)
  else if month = 4 ∨ month = 6 ∨ month = 9 ∨ month = 11 then 30
  else 31

/-- The days from January 1 of year 1 to a civil date of the proleptic Gregorian calendar,
counted from March so that the leap day ends a year. -/
def daysFromCivil (year month dayOfMonth : Int) : Int :=
  let y := if month ≤ 2 then year - 1 else year
  let era := y / 400
  let yoe := y - era * 400
  let doy := (153 * (if month > 2 then month - 3 else month + 9) + 2) / 5 + dayOfMonth - 1
  era * 146097 + (yoe * 365 + yoe / 4 - yoe / 100 + doy) - 306

/-- `time.Date(year, month, day, hour, min, sec, 0, time.UTC)`: the fields past their ranges
carry into the next ones, which is linear in them. -/
def date (year month dayOfMonth hh mm ss : Int) : Int :=
  daysFromCivil year month dayOfMonth * day + ((hh * 60 + mm) * 60 + ss) * 1000000000

/-- The start of the day of a wall-clock reading. -/
def dayStart (wall : Int) : Int :=
  wall - wall % day

theorem dayStart_le (wall : Int) : dayStart wall ≤ wall ∧ wall < dayStart wall + day := by
  unfold dayStart day
  omega

/-- A `*time.Location`: the offset east of UTC, in nanoseconds, of the zone period that holds
each instant, as `lookup` gives it. -/
structure Location where
  offset : Int → Int

def Location.utc : Location := ⟨fun _ => 0⟩

/-- A zone whose offset is the same at every instant: UTC, or a zone without daylight saving
time. -/
def Location.Fixed (loc : Location) : Prop :=
  ∃ c, ∀ t, loc.offset t = c

theorem Location.fixed_utc : Location.utc.Fixed := ⟨0, fun _ => rfl⟩

/-- `time.Date(now.Year(), now.Month(), now.Day(), hh, mm, 0, 0, loc)`: the wall clock of the
start of `now`'s day in `loc`, plus the hours and minutes carried past their ranges, taken back
to an instant. `Date` subtracts the offset it looks up at that wall clock read as UTC or, when the
instant this gives lies outside the zone period it looked up, the offset at that instant; as the
offset is the same over a period, that is the offset at the instant of the first guess. -/
def todayAt (loc : Location) (now hh mm : Int) : Int :=
  let wall := dayStart (now + loc.offset now) + (hh * 60 + mm) * 60 * 1000000000
  wall - loc.offset (wall - loc.offset wall)

/-- Today's `hh:mm`, or that time plus a day if it is before `now`: `if resetTime.Before(now) {
resetTime = resetTime.Add(24 * time.Hour) }`. -/
def nextAt (loc : Location) (now hh mm : Int) : Int :=
  if todayAt loc now hh mm < now then todayAt loc now hh mm + (24 * hour).val
  else todayAt loc now hh mm

/-- In a zone of fixed offset, a time of day with no negative field is next reached at `now` or
later. -/
theorem le_nextAt {loc : Location} {now hh mm : Int} (hloc : loc.Fixed) (hh0 : 0 ≤ hh)
    (mm0 : 0 ≤ mm) : now ≤ nextAt loc now hh mm := by
  obtain ⟨c, hc⟩ := hloc
  have := dayStart_le (now + c)
  have h24 : (24 * hour).val = day := by decide
  unfold nextAt todayAt
  simp only [hc]
  split_ifs <;> omega

/-- America/New_York around the end of daylight saving time in 2026: four hours behind UTC
until 06:00 UTC on 1 November, five hours behind from then on. Its day of 1 November lasts 25
hours. -/
def newYorkFall2026 : Location :=
  ⟨fun t => if t < date 2026 11 1 6 0 0 then -14400000000000 else -18000000000000⟩

def twoDigits (a b : Char) : Option Nat :=
  if a.isDigit ∧ b.isDigit then some (decimalValue [a, b]) else none

/-- The date and time fields of `2006-01-02T15:04:05`, checked as `time.Parse` checks them,
as an instant of UTC. -/
def parseDateTime : GoString → Option Int
  | [y1, y2, y3, y4, '-', m1, m2, '-', d1, d2, 'T', h1, h2, ':', i1, i2, ':', s1, s2] => do
      let year ← if [y1, y2, y3, y4].all Char.isDigit then some (decimalValue [y1, y2, y3, y4])
        else none
      let month ← twoDigits m1 m2
      let dayOfMonth ← twoDigits d1 d2
      let hh ← twoDigits h1 h2
      let mm ← twoDigits i1 i2
      let ss ← twoDigits s1 s2
      if 1 ≤ month ∧ month ≤ 12 ∧ 1 ≤ dayOfMonth ∧ (dayOfMonth : Int) ≤ daysIn month year ∧
          hh ≤ 23 ∧ mm ≤ 59 ∧ ss ≤ 59 then
        some (date year month dayOfMonth hh mm ss)
      else none
  | _ => none

/-- `time.Parse(time.RFC3339, v)`: the date and time, then `Z` or an offset. The fast path of
`Parse` takes offsets up to `23:59`, its general path, tried after it, up to `24:60`. -/
def parseRFC3339 (v : GoString) : Option Int :=
  match v.drop 19 with
  | ['Z'] => parseDateTime (v.take 19)
  | [sign, a, b, ':', c, d] => do
      let t ← parseDateTime (v.take 19)
      let oh ← twoDigits a b
      let om ← twoDigits c d
      if oh ≤ 24 ∧ om ≤ 60 then
        let offset : Int := ((oh * 60 + om) * 60 : Nat) * 1000000000
        if sign = '+' then some (t - offset)
        else if sign = '-' then some (t + offset)
        else none
      else none
  | _ => none

/-- `time.Parse("2006-01-02T15:04:05", v)`, which reads the time in UTC. -/
def parseLayout (v : GoString) : Option Int :=
  parseDateTime v

end GoTime

end GastownQueue
