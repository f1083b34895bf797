import RelativeTime.Calendar
import RelativeTime.Text.Decimal

/-!
# Dates and times as text

The text of a time is `YYYY-MM-DDTHH:MM:SS`, with a fraction of the second where there is one and the
offset of the clock where it has a zone. Wall times are given in seconds from the start of the
year 1.
-/

namespace RelativeTime.Text.Iso

/-! ## Writing -/

/-- The text of the date and the time of day at wall second `s`. -/
def secondText (s : Int) : List Char :=
  let date := Calendar.Date.ofDay (s / 86400)
  let clock := (s % 86400).toNat
  padded 4 date.year.toNat ++ ['-'] ++ padded 2 date.month.toNat ++ ['-'] ++
    padded 2 date.day.toNat ++ ['T'] ++ padded 2 (clock / 3600) ++ [':'] ++
    padded 2 (clock / 60 % 60) ++ [':'] ++ padded 2 (clock % 60)

def fractionText (width : Nat) (fraction : Int) : List Char :=
  '.' :: padded width fraction.toNat

/-- The text of an offset: hours and minutes with a sign, and the seconds where there are any. -/
def offsetText (seconds : Int) : List Char :=
  let n := seconds.natAbs
  let tail := if n % 60 = 0 then [] else ':' :: padded 2 (n % 60)
  (if seconds < 0 then '-' else '+') :: padded 2 (n / 3600) ++ [':'] ++ padded 2 (n / 60 % 60) ++ tail

/-! ## Reading -/

def numberAt? (cs : List Char) (first width : Nat) : Option Nat :=
  decimal? ((cs.drop first).take width)

/-- A wall time that was read: its second, the nanoseconds after it, and the number of digits that
its fraction was written with. -/
structure WallText where
  second : Int
  nanos : Int
  digits : Nat

/-- The fraction of a second written after a point, up to nanoseconds. -/
def fraction? : List Char → Option (Int × Nat)
  | [] => some (0, 0)
  | '.' :: digits => do
    let n ← decimal? ((digits ++ List.replicate 9 '0').take 9)
    return (n, digits.length)
  | _ => none

/-- Reads `YYYY-MM-DDTHH:MM:SS` with an optional fraction. -/
def read? (text : String) : Option WallText := do
  let cs := text.toList
  let year ← numberAt? cs 0 4
  let month ← numberAt? cs 5 2
  let day ← numberAt? cs 8 2
  let hour ← numberAt? cs 11 2
  let minute ← numberAt? cs 14 2
  let second ← numberAt? cs 17 2
  let (nanos, digits) ← fraction? (cs.drop 19)
  let d := Calendar.Date.toDay { year, month, day }
  return { second := 86400 * d + 3600 * hour + 60 * minute + second, nanos, digits }

end RelativeTime.Text.Iso
