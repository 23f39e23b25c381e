import FlowLang.Decimal.Basic

/-!
# Clocks

The service reads two clocks: one that only ever advances, for how long it has been up, and the calendar in UTC, for the
time of a compilation.
-/

namespace FlowLang.Service

open Text

/-- A time of the calendar in UTC. -/
structure Timestamp where
  year : Nat
  month : Nat
  day : Nat
  hour : Nat
  minute : Nat
  second : Nat
  microsecond : Nat
  deriving DecidableEq, Repr

/-- The time as year, month and day, hours, minutes and seconds, and the offset from UTC. Microseconds are written only
if there are any. -/
def Timestamp.write (t : Timestamp) : Text :=
  padded 4 t.year ++ "-".toList ++ padded 2 t.month ++ "-".toList ++ padded 2 t.day ++ "T".toList
    ++ padded 2 t.hour ++ ":".toList ++ padded 2 t.minute ++ ":".toList ++ padded 2 t.second
    ++ (if t.microsecond = 0 then [] else ".".toList ++ padded 6 t.microsecond)
    ++ "+00:00".toList

/-- What the clocks show. -/
structure Clock where
  /-- seconds on the clock that only advances -/
  elapsed : Binary64
  utc : Timestamp
  deriving DecidableEq, Repr

end FlowLang.Service
