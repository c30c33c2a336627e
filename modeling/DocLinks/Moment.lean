import DocLinks.Decimal.Text

/-!
# Dates and times

A moment is a day, a time of day, or both. Configurations may hold moments, and nothing is computed
with them; they are only named in messages.

## Contents
- `Day`, `DayTime`, `Moment`.
- `Moment.text`, `Moment.shown`: a moment as plain text, and as a message quotes it.
- `Moment.same`: whether two moments are the same one.
- `Moment.fault?`: the first part that is out of range.
-/

namespace DocLinks

/-- A day of the calendar. -/
structure Day where
  year : Nat
  month : Nat
  day : Nat
  deriving DecidableEq, Repr, Inhabited

/-- A time of day with millionths of a second. -/
structure DayTime where
  hour : Nat
  minute : Nat
  second : Nat
  micro : Nat
  deriving DecidableEq, Repr, Inhabited

/-- A day, a time of day, or both, then perhaps with the minutes that the clock is ahead. -/
inductive Moment where
  | day (d : Day)
  | time (t : DayTime)
  | both (d : Day) (t : DayTime) (ahead : Option Int)
  deriving DecidableEq, Repr, Inhabited

/-- A number with zeros in front of it, up to a width. -/
def padded (width n : Nat) : String :=
  let ds := Nat.toDigits 10 n
  String.ofList (List.replicate (width - ds.length) '0' ++ ds)

def Day.text (d : Day) : String :=
  padded 4 d.year ++ "-" ++ padded 2 d.month ++ "-" ++ padded 2 d.day

def DayTime.text (t : DayTime) : String :=
  padded 2 t.hour ++ ":" ++ padded 2 t.minute ++ ":" ++ padded 2 t.second ++
    if t.micro = 0 then "" else "." ++ padded 6 t.micro

/-- How far a clock is ahead, as hours and minutes. -/
def aheadText (minutes : Int) : String :=
  let n := minutes.natAbs
  (if minutes < 0 then "-" else "+") ++ padded 2 (n / 60) ++ ":" ++ padded 2 (n % 60)

/-- The parts of a day that a message lists. -/
def Day.parts (d : Day) : List Nat := [d.year, d.month, d.day]

/-- The parts of a time that a message lists; parts that are zero are left out at the end. -/
def DayTime.parts (t : DayTime) : List Nat :=
  [t.hour, t.minute] ++
    if t.micro ≠ 0 then [t.second, t.micro] else if t.second ≠ 0 then [t.second] else []

/-- The minutes of a day. -/
def dayMinutes : Int := 24 * 60

/-- A span of minutes as a message shows it: whole days, rounded down, and the seconds left. -/
def spanShown (minutes : Int) : String :=
  let part (name : String) (n : Int) : List String :=
    if n = 0 then [] else [name ++ "=" ++ toString n]
  let parts := part "days" (minutes.fdiv dayMinutes) ++ part "seconds" (minutes.fmod dayMinutes * 60)
  "datetime.timedelta(" ++ (if parts.isEmpty then "0" else ", ".intercalate parts) ++ ")"

/-- How far a clock is ahead, as a message shows it. -/
def aheadShown (minutes : Int) : String :=
  if minutes = 0 then "datetime.timezone.utc" else "datetime.timezone(" ++ spanShown minutes ++ ")"

namespace Moment

/-- The name of the type of a moment in messages. -/
def typeName : Moment → String
  | day _ => "date"
  | time _ => "time"
  | both _ _ _ => "datetime"

/-- A moment as plain text. -/
def text : Moment → String
  | day d => d.text
  | time t => t.text
  | both d t ahead => d.text ++ " " ++ t.text ++ (ahead.map aheadText).getD ""

/-- A moment as a message quotes it: its type and its parts. -/
def shown (m : Moment) : String :=
  let parts := match m with
    | day d => d.parts.map toString
    | time t => t.parts.map toString
    | both d t ahead =>
      (d.parts ++ t.parts).map toString ++ (ahead.map ("tzinfo=" ++ aheadShown ·)).toList
  "datetime." ++ m.typeName ++ "(" ++ ", ".intercalate parts ++ ")"

end Moment

example : (Moment.both ⟨2024, 2, 29⟩ ⟨7, 5, 0, 0⟩ (some (-90))).text =
    "2024-02-29 07:05:00-01:30" := by decide +kernel

/-- A part of a moment that is out of range. -/
inductive MomentFault where
  | ahead (minutes : Int)
  | year (n : Nat)
  | month
  | day
  | hour
  | minute
  | second
  deriving DecidableEq, Repr

def MomentFault.message : MomentFault → String
  | ahead minutes =>
    "offset must be a timedelta strictly between -timedelta(hours=24) and timedelta(hours=24), not " ++
      spanShown minutes ++ "."
  | year n => "year " ++ toString n ++ " is out of range"
  | month => "month must be in 1..12"
  | day => "day is out of range for month"
  | hour => "hour must be in 0..23"
  | minute => "minute must be in 0..59"
  | second => "second must be in 0..59"

/-- Whether a year has a day more in February. -/
def isLeap (year : Nat) : Bool := year % 4 = 0 && (year % 100 ≠ 0 || year % 400 = 0)

/-- The number of days of a month. -/
def daysOf (year month : Nat) : Nat :=
  if month = 2 then (if isLeap year then 29 else 28)
  else if [4, 6, 9, 11].contains month then 30
  else 31

/-- The first part of a day that is out of range. -/
def Day.fault? (d : Day) : Option MomentFault :=
  if d.year = 0 then some (.year d.year)
  else if d.month = 0 ∨ 12 < d.month then some .month
  else if d.day = 0 ∨ daysOf d.year d.month < d.day then some .day
  else none

/-- The first part of a time that is out of range. -/
def DayTime.fault? (t : DayTime) : Option MomentFault :=
  if 23 < t.hour then some .hour
  else if 59 < t.minute then some .minute
  else if 59 < t.second then some .second
  else none

namespace Moment

/-- The first part that is out of range. A clock that is ahead by a day or more is noticed first. -/
def fault? : Moment → Option MomentFault
  | day d => d.fault?
  | time t => t.fault?
  | both d t ahead =>
    (ahead.bind fun m => if dayMinutes ≤ m.natAbs then some (.ahead m) else none) <|>
      d.fault? <|> t.fault?

end Moment

/-! ## Sameness -/

/-- The number of a day, counted on from a fixed one. -/
def Day.number (d : Day) : Nat :=
  let years := d.year - 1
  365 * years + years / 4 - years / 100 + years / 400 +
    (List.range (d.month - 1)).foldl (fun n m => n + daysOf d.year (m + 1)) 0 + d.day

/-- The millionths of a second since midnight. -/
def DayTime.micros (t : DayTime) : Nat :=
  ((t.hour * 60 + t.minute) * 60 + t.second) * 1000000 + t.micro

/-- Whether two moments are the same one. Where it is known how far clocks are ahead, the instant
counts. -/
def Moment.same : Moment → Moment → Bool
  | both d t (some m), both e u (some n) =>
    let instant (d : Day) (t : DayTime) (ahead : Int) : Int :=
      d.number * 86400000000 + t.micros - ahead * 60000000
    instant d t m == instant e u n
  | a, b => a == b

example : Moment.same (.both ⟨2001, 3, 1⟩ ⟨0, 30, 0, 0⟩ (some 60))
    (.both ⟨2001, 2, 28⟩ ⟨23, 30, 0, 0⟩ (some 0)) := by decide +kernel

end DocLinks
