import DesignTokens.Number.Notation

/-! # Calendar values

Dates, times of day and moments as documents may hold them. -/
namespace DesignTokens

structure Date where
  year : Nat
  month : Nat
  day : Nat
  deriving DecidableEq, Repr

structure Clock where
  hour : Nat
  minute : Nat
  second : Nat
  micro : Nat
  deriving DecidableEq, Repr

/-- A moment, with its offset from universal time in seconds if it is known. -/
structure Moment where
  date : Date
  clock : Clock
  offset : Option Int
  deriving DecidableEq, Repr

/-- Decimal digits, with zeros in front up to `width`. -/
def padded (width n : Nat) : String :=
  let ds := natText n
  String.ofList (List.replicate (width - ds.length) '0' ++ ds)

namespace Date

def isLeap (year : Nat) : Bool := year % 4 = 0 && (year % 100 ≠ 0 || year % 400 = 0)

def daysInMonth (year month : Nat) : Nat :=
  if month = 2 then (if isLeap year then 29 else 28)
  else if month = 4 ∨ month = 6 ∨ month = 9 ∨ month = 11 then 30 else 31

/-- Days from the start of the year 0 of the Gregorian rule to this date. -/
def ordinal (d : Date) : Nat :=
  let y := d.year - 1
  365 * d.year + y / 4 - y / 100 + y / 400 +
    ((List.range (d.month - 1)).map fun m => daysInMonth d.year (m + 1)).foldl (· + ·) 0 +
    d.day

def text (d : Date) : String := padded 4 d.year ++ "-" ++ padded 2 d.month ++ "-" ++ padded 2 d.day

def fields (d : Date) : String := intText d.year ++ ", " ++ intText d.month ++ ", " ++ intText d.day

end Date

namespace Clock

def text (c : Clock) : String :=
  let main := padded 2 c.hour ++ ":" ++ padded 2 c.minute ++ ":" ++ padded 2 c.second
  if c.micro = 0 then main else main ++ "." ++ padded 6 c.micro

/-- The fields in call order; seconds and microseconds are left out while they are zero. -/
def fields (c : Clock) : String :=
  let main := intText c.hour ++ ", " ++ intText c.minute
  if c.micro ≠ 0 then main ++ ", " ++ intText c.second ++ ", " ++ intText c.micro
  else if c.second ≠ 0 then main ++ ", " ++ intText c.second
  else main

def seconds (c : Clock) : Nat := c.hour * 3600 + c.minute * 60 + c.second

end Clock

/-- A span of time as whole days and the remaining seconds, which are never negative. -/
def spanText (seconds : Int) : String :=
  let days := seconds.fdiv 86400
  let rest := seconds.fmod 86400
  let parts := (if days = 0 then [] else ["days=" ++ intText days]) ++
    (if rest = 0 then [] else ["seconds=" ++ intText rest])
  "datetime.timedelta(" ++ (if parts.isEmpty then "0" else ", ".intercalate parts) ++ ")"

namespace Moment

def offsetText (seconds : Int) : String :=
  let n := seconds.natAbs
  let main := (if seconds < 0 then "-" else "+") ++ padded 2 (n / 3600) ++ ":" ++
    padded 2 (n / 60 % 60)
  if n % 60 = 0 then main else main ++ ":" ++ padded 2 (n % 60)

def text (t : Moment) : String :=
  t.date.text ++ " " ++ t.clock.text ++ (t.offset.map offsetText).getD ""

def zoneText (seconds : Int) : String :=
  if seconds = 0 then "datetime.timezone.utc"
  else "datetime.timezone(" ++ spanText seconds ++ ")"

/-- Microseconds on the scale of universal time. -/
def instant (t : Moment) : Int :=
  ((t.date.ordinal * 86400 + t.clock.seconds : Nat) - t.offset.getD 0) * 1000000 + t.clock.micro

/-- Moments of known offset are equal if they are the same instant. -/
def same (s t : Moment) : Bool :=
  s.offset.isSome == t.offset.isSome && s.instant == t.instant

end Moment

end DesignTokens
