/-
Moments: written points in time, by their numbers.

`Moment.ofText` reads a written time, of which all that follows the day may
be left out; the day may be given by its week. A text that is no time has a
`Flaw`. `Moment.iso` writes it in full and `Moment.quoted` spells it out.
Moments are compared as points in time: by their instants if both have an
offset, by their wall clocks if neither has, and a moment with an offset never
equals one without.
-/
import Lifecycle.Text.Quoted

namespace Lifecycle

structure Moment where
  year : Nat
  month : Nat
  day : Nat
  hour : Nat := 0
  minute : Nat := 0
  second : Nat := 0
  micros : Nat := 0
  /-- How far the wall clock is ahead of universal time, in microseconds, if that is known. -/
  offset : Option Int := .none
  deriving Repr, DecidableEq, Inhabited

namespace Moment

/-- Why a text is no time. -/
inductive Flaw where
  /-- The text has not the form of a time. -/
  | form (text : String)
  | year (n : Nat)
  | month
  | day
  | hour
  | minute
  | second
  /-- A zone lies less than a day away from universal time. -/
  | offset (span : Int)
  deriving Repr, DecidableEq, Inhabited

/-! ## Reading -/

def digits (cs : List Char) : Nat :=
  cs.foldl (fun n c => 10 * n + (c.toNat - '0'.toNat)) 0

/-- The number in the first `width` characters, and what follows it. -/
def number? (width : Nat) (cs : List Char) : Option (Nat × List Char) :=
  let front := cs.take width
  if front.length = width && front.all Char.isDigit then .some (digits front, cs.drop width)
  else .none

/-- A fraction of a second in microseconds, and whether nothing is left over behind it. Further
digits do not count. -/
def fraction? (cs : List Char) : Option (Nat × Bool) := do
  let width := min 6 cs.length
  let (n, rest) ← number? width cs
  return (n * Nat.pow 10 (6 - width), (rest.dropWhile Char.isDigit).isEmpty)

/-- The numbers of a time of day, `n` of them at most, the fraction behind the last, and whether
nothing is left over. Colons part the numbers or nothing does: the first gap decides. One character
behind a number ends the time if it is one of the first 128. -/
def numbers? (marked : Option Bool) : Nat → List Char → Option (List Nat × Nat × Bool)
  | 0, cs => do
    let (micros, isWhole) ← fraction? cs
    return ([], micros, isWhole)
  | n + 1, cs => do
    let (k, cs) ← number? 2 cs
    match cs with
    | [] => return ([k], 0, true)
    | [c] => if c.toNat < 128 then return ([k], 0, false) else .none
    | c :: rest => do
      let marked := marked.getD (c == ':')
      if marked && c == ':' then
        let (ks, found) ← numbers? (.some true) n rest
        return (k :: ks, found)
      else if c == '.' || c == ',' then
        return ([k], ← fraction? rest)
      else if marked then .none
      else
        let (ks, found) ← numbers? (.some false) n (c :: rest)
        return (k :: ks, found)

/-- Hour, minute, second and microseconds, and whether nothing is left over; whatever is left out at
the end counts as zero. -/
def timeOfDay? (cs : List Char) : Option ((Nat × Nat × Nat × Nat) × Bool) := do
  let (ks, micros, isWhole) ← numbers? .none 3 cs
  return ((ks.getD 0 0, ks.getD 1 0, ks.getD 2 0, micros), isWhole)

/-- An offset such as `+05:45`. One of less than a second counts as universal time. -/
def offset? : List Char → Option (Option Int)
  | [] => .some .none
  | ['Z'] => .some (.some 0)
  | 'Z' :: _ => .none
  | sign :: cs => do
    let ((hours, minutes, seconds, micros), isWhole) ← timeOfDay? cs
    let whole := 3600 * hours + 60 * minutes + seconds
    let size : Int := if whole = 0 then 0 else 1000000 * whole + micros
    if isWhole then return .some (if sign = '-' then -size else size) else .none

/-- A time of day and an offset. What is left over before an offset is let pass. -/
def timeAndOffset? (cs : List Char) : Option ((Nat × Nat × Nat × Nat) × Option Int) := do
  let (time, zone) := cs.span (· ∉ ['+', '-', 'Z'])
  let (numbers, isWhole) ← timeOfDay? time
  if isWhole || !zone.isEmpty then return (numbers, ← offset? zone) else .none

/-! ## Reading a day -/

/-- Days from a fixed origin to a date of the Gregorian calendar; the year starts in March. -/
def dayNumber (year month day : Nat) : Nat :=
  let y := if month ≤ 2 then year - 1 else year
  365 * y + y / 4 - y / 100 + y / 400 + (153 * ((month + 9) % 12) + 2) / 5 + day

def isLeap (year : Nat) : Bool := year % 4 = 0 && (year % 100 ≠ 0 || year % 400 = 0)

def monthLengths (year : Nat) : List Nat :=
  [31, if isLeap year then 29 else 28, 31, 30, 31, 30, 31, 31, 30, 31, 30, 31]

/-- Month and day of the day that comes `k` days after the first of a year of such months. -/
def monthAndDay : List Nat → Nat → Nat × Nat
  | [], k => (1, k + 1)
  | length :: rest, k =>
    if k < length then (1, k + 1)
    else
      let (month, day) := monthAndDay rest (k - length)
      (month + 1, day)

/-- The date that comes `k` days after the first of January, or before it. -/
def dateFrom (year : Nat) (k : Int) : Nat × Nat × Nat :=
  let length := if isLeap year then 366 else 365
  if k < 0 then (year - 1, 12, (32 + k).toNat)
  else if length ≤ k then (year + 1, monthAndDay (monthLengths (year + 1)) (k - length).toNat)
  else (year, monthAndDay (monthLengths year) k.toNat)

/-- How many days a date is behind the last Monday. -/
def weekday (year month day : Nat) : Nat := (dayNumber year month day + 1) % 7

/-- The date of a day of a week. The first week of a year is the one with its first Thursday, and a
week begins with Monday. -/
def dateOfWeek (year week day : Nat) : Nat × Nat × Nat :=
  let first := weekday year 1 1
  let monday : Int := (if 3 < first then 7 else 0) - first
  dateFrom year (monday + 7 * (week - 1) + (day - 1))

/-- How many weeks a year has: one more if it begins with a Thursday, or with a Wednesday and is a
leap year. -/
def weeksOf (year : Nat) : Nat :=
  let first := weekday year 1 1
  if first = 3 ∨ (first = 2 ∧ isLeap year) then 53 else 52

/-- The mark between the parts of a date, where they have one. -/
def mark? (isMarked : Bool) : List Char → Option (List Char)
  | '-' :: cs => if isMarked then .some cs else .none
  | cs => if isMarked then .none else .some cs

/-- The date of a week and of a day in it, which is the first one if it is left out. A week before
the first year lies in no month. -/
def weekDate? (year : Nat) (isMarked : Bool) (cs : List Char) : Option (Nat × Nat × Nat) := do
  let (week, cs) ← number? 2 cs
  let day ← if cs.isEmpty then pure 1 else (mark? isMarked cs >>= number? 1).map (·.1)
  if 1 ≤ week ∧ week ≤ weeksOf year ∧ 1 ≤ day ∧ day ≤ 7 then
    return if year = 0 then (1, 0, 1) else dateOfWeek year week day
  else .none

/-- A date such as `2024-02-29` or `2024-W09-4`; all marks may be left out. -/
def date? (cs : List Char) : Option (Nat × Nat × Nat) := do
  let (year, cs) ← number? 4 cs
  let isMarked := cs.head? == .some '-'
  match if isMarked then cs.tail else cs with
  | 'W' :: cs => weekDate? year isMarked cs
  | cs => do
    let (month, cs) ← number? 2 cs
    let (day, _) ← mark? isMarked cs >>= number? 2
    return (year, month, day)

/-- Where the date of a written time ends. What stands behind it can be any character: a mark behind
a week belongs to the date unless two digits follow it, and a digit behind one unless the digits
from there on come in pairs. -/
def dateLength (cs : List Char) : Nat :=
  let digitAt (i : Nat) : Bool := (cs[i]?.map Char.isDigit).getD false
  if cs.length = 7 then 7
  else if cs[4]? = '-' then
    if cs[5]? ≠ 'W' then 10
    else if cs[8]? = '-' && !digitAt 10 then 10
    else 8
  else if cs[4]? = 'W' then
    let n := ((cs.drop 7).takeWhile Char.isDigit).length
    if n < 2 then 7 + n else if n % 2 = 1 then 7 else 8
  else 8

/-- The date, the time of day and the offset of a written time. The date stands first; one
character, whatever it is, parts it from the rest, which may be missing. -/
def parts? (cs : List Char) : Option Moment := do
  let length := dateLength cs
  let (year, month, day) ← date? (cs.take length)
  match cs.drop length with
  | [] => return { year, month, day }
  | _ :: cs => do
    let ((hour, minute, second, micros), offset) ← timeAndOffset? cs
    return { year, month, day, hour, minute, second, micros, offset }

/-- How long a day is, in microseconds. -/
def dayLength : Nat := 86400000000

/-- The first number that is out of bounds. -/
def flaw? (m : Moment) : Option Flaw :=
  if (m.offset.getD 0).natAbs ≥ dayLength then .some (.offset (m.offset.getD 0))
  else if m.year = 0 ∨ 9999 < m.year then .some (.year m.year)
  else if m.month = 0 ∨ 12 < m.month then .some .month
  else if m.day = 0 ∨ (monthLengths m.year).getD (m.month - 1) 31 < m.day then .some .day
  else if 23 < m.hour then .some .hour
  else if 59 < m.minute then .some .minute
  else if 59 < m.second then .some .second
  else .none

/-- A written time, all of whose numbers have to be within their bounds. -/
def ofText (s : String) : Except Flaw Moment :=
  match parts? s.toList with
  | .none => .error (.form s)
  | .some m =>
    match m.flaw? with
    | .some f => .error f
    | .none => .ok m

/-! ## Writing -/

/-- A number with at least `width` digits. -/
def padded (width n : Nat) : String :=
  let ds := Nat.toDigits 10 n
  String.ofList (List.replicate (width - ds.length) '0' ++ ds)

def fractionText (micros : Nat) : String := if micros = 0 then "" else "." ++ padded 6 micros

/-- The calendar day as the wall shows it. -/
def dayText (m : Moment) : String :=
  padded 4 m.year ++ "-" ++ padded 2 m.month ++ "-" ++ padded 2 m.day

def timeText (m : Moment) : String :=
  padded 2 m.hour ++ ":" ++ padded 2 m.minute ++ ":" ++ padded 2 m.second ++ fractionText m.micros

/-- An offset by its sign, hours and minutes; seconds and their fraction follow if there are any. -/
def offsetText (span : Int) : String :=
  let seconds := span.natAbs / 1000000
  let rest := if span.natAbs % 60000000 = 0 then ""
    else ":" ++ padded 2 (seconds % 60) ++ fractionText (span.natAbs % 1000000)
  (if span < 0 then "-" else "+") ++ padded 2 (seconds / 3600) ++ ":"
    ++ padded 2 (seconds / 60 % 60) ++ rest

def textWith (separator : String) (m : Moment) : String :=
  m.dayText ++ separator ++ m.timeText ++ (m.offset.map offsetText).getD ""

/-- The written form, with a letter between day and hour. -/
def iso (m : Moment) : String := m.textWith "T"

/-- The written form with a space between day and hour. -/
def text (m : Moment) : String := m.textWith " "

example : (ofText "2023-12-31T23:59:59.000456-01:30").toOption.map iso
    = .some "2023-12-31T23:59:59.000456-01:30" := by
  cbv

example : (ofText "1970-01-01T00:00:00+00:00:00.000001").toOption.map iso
    = .some "1970-01-01T00:00:00+00:00" := by
  cbv

example : (ofText "2023-02-29T00:00:00").toOption = .none := by cbv

example : dateOfWeek 2024 9 4 = (2024, 2, 29) := by decide

example : dateOfWeek 2025 1 1 = (2024, 12, 30) := by decide

example : dateOfWeek 2021 1 1 = (2021, 1, 4) := by decide

/-! ## As a point in time -/

/-- The time that the wall shows, in microseconds from a fixed origin. -/
def wall (m : Moment) : Nat :=
  let days := dayNumber m.year m.month m.day
  1000000 * (86400 * days + 3600 * m.hour + 60 * m.minute + m.second) + m.micros

/-- Microseconds from a fixed origin in universal time, or on the wall if there is no offset. -/
def instant (m : Moment) : Int × Bool :=
  match m.offset with
  | .some shift => (m.wall - shift, true)
  | .none => (m.wall, false)

def same (a b : Moment) : Bool := a.instant == b.instant

def sameDay (a b : Moment) : Bool := (a.year, a.month, a.day) == (b.year, b.month, b.day)

example : same { year := 2024, month := 1, day := 1, hour := 5, offset := .some 18000000000 }
    { year := 2024, month := 1, day := 1, offset := .some 0 } = true := by
  decide

example : same { year := 2024, month := 3, day := 1, offset := .some 0 }
    { year := 2024, month := 3, day := 1 } = false := by
  decide

/-! ## Spelled out -/

/-- The numbers of a time of day. A fraction of zero is left out, and so are seconds of zero that
have none. -/
def timeNumbers (m : Moment) : List Nat :=
  if m.micros ≠ 0 then [m.hour, m.minute, m.second, m.micros]
  else if m.second ≠ 0 then [m.hour, m.minute, m.second]
  else [m.hour, m.minute]

/-- A stretch of microseconds as days, seconds and microseconds, of which only the days can be
negative. -/
def spanNumbers (span : Int) : Int × Int × Int :=
  let rest := span % dayLength
  (span / dayLength, rest / 1000000, rest % 1000000)

/-- The numbers of a stretch by their units, without those that are zero. -/
def spanParts (span : Int) : List String :=
  let (days, seconds, micros) := spanNumbers span
  let parts := [("days", days), ("seconds", seconds), ("microseconds", micros)]
  (parts.filter (·.2 ≠ 0)).map fun (unit, n) => unit ++ "=" ++ toString n

/-- A stretch of microseconds spelled out. -/
def quotedSpan (span : Int) : String := Text.enclose "datetime.timedelta(" ")" (spanParts span)

/-- An offset, which has a name of its own where it is zero. -/
def quotedOffset (span : Int) : String :=
  if span = 0 then "datetime.timezone.utc"
  else Text.enclose "datetime.timezone(" ")" [quotedSpan span]

/-- A moment spelled out, as it stands inside a list. -/
def quoted (m : Moment) : String :=
  let zone := m.offset.toList.map fun span => "tzinfo=" ++ quotedOffset span
  Text.enclose "datetime.datetime(" ")"
    (([m.year, m.month, m.day] ++ m.timeNumbers).map toString ++ zone)

/-- The day of a moment spelled out. -/
def quotedDay (m : Moment) : String :=
  Text.enclose "datetime.date(" ")" ([m.year, m.month, m.day].map toString)

example : quoted { year := 2024, month := 1, day := 1, offset := .some (-1800000000) }
    = "datetime.datetime(2024, 1, 1, 0, 0, tzinfo=datetime.timezone("
      ++ "datetime.timedelta(days=-1, seconds=84600)))" := by
  cbv

example : quoted { year := 2024, month := 2, day := 9, hour := 23, minute := 59, micros := 120 }
    = "datetime.datetime(2024, 2, 9, 23, 59, 0, 120)" := by
  cbv

/-! ## Flaws -/

def Flaw.message : Flaw → String
  | form text => "Invalid isoformat string: " ++ Text.quote text
  | year n => "year " ++ toString n ++ " is out of range"
  | month => "month must be in 1..12"
  | day => "day is out of range for month"
  | hour => "hour must be in 0..23"
  | minute => "minute must be in 0..59"
  | second => "second must be in 0..59"
  | offset span =>
    "offset must be a timedelta strictly between -timedelta(hours=24) and timedelta(hours=24), not "
      ++ quotedSpan span ++ "."

end Moment

end Lifecycle
