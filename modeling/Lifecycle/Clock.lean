/-
Clocks and what is read off them.

A reading is a moment. It may have been written down beforehand; else it is the
time at which the program runs, and no text of it is the same in every run. The
day of a reading is the one that its wall shows, whatever zone it is in.

Of the running time nothing is taken for granted: it may show anything at any
request, another day at each of them as well.
-/
import Lifecycle.Clock.Moment

namespace Lifecycle

structure Reading where
  moment : Moment
  /-- Whether the reading is the same in every run. -/
  isWritten : Bool
  deriving Repr, DecidableEq, Inhabited

namespace Reading

def text (r : Reading) : String := r.moment.text

def dayText (r : Reading) : String := r.moment.dayText

def quoted (r : Reading) : String := r.moment.quoted

def quotedDay (r : Reading) : String := r.moment.quotedDay

def same (a b : Reading) : Bool := a.moment.same b.moment

def sameDay (a b : Reading) : Bool := a.moment.sameDay b.moment

end Reading

/-- What adapters are given to know their clock by. -/
abbrev ClockId := Nat

/-- What an engine asks for the time. -/
inductive Clock where
  /-- A list of readings, by the number of the request; the last repeats. -/
  | scripted (readings : List Moment)
  /-- The running time: what it is, in universal time or in local time, at each request. -/
  | running (time : Bool → Nat → Moment)

/-- A running time that shows little: a new microsecond at each request. -/
def Clock.system : Clock :=
  .running fun _ k => { year := 2025, month := 7, day := 1, hour := 12, micros := k }

/-- A clock that shows some written times. -/
def Clock.ofTexts (texts : List String) : Except Moment.Flaw Clock := do
  return .scripted (← texts.mapM Moment.ofText)

/-- The answer to request number `k`, counted from zero over all clocks of a setting; a list without
readings has none. The running time has an offset where it is universal time, and none otherwise. -/
def Clock.reading? (utc : Bool) (k : Nat) : Clock → Option Reading
  | .scripted readings => readings[min k (readings.length - 1)]?.map (⟨·, true⟩)
  | .running time =>
    .some ⟨{ time utc k with offset := if utc then .some 0 else .none }, false⟩

end Lifecycle
