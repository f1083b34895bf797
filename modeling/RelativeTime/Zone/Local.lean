import RelativeTime.Zone.Basic

/-!
# Local time

A wall clock shows the seconds of universal time plus the offset in force. Reading a wall time back
is not always possible in one way: when clocks are set back a stretch of wall times is shown twice,
and when they are set forward a stretch is skipped. All offsets are less than a day, so the offset a
day before and the offset a day after a wall time are those around the one change that can matter
for it, as long as changes lie more than two days apart.
-/

namespace RelativeTime

/-- How a wall time can be read in a zone. -/
inductive WallReading where
  /-- It is shown once, under this offset. -/
  | once (offset : Int)
  /-- It is shown twice, first under the one offset and then under the other. -/
  | twice (first second : Int)
  /-- It is skipped by the change from the one offset to the other. -/
  | never (before after : Int)
  deriving DecidableEq

/-- The offset that a reading stands for. Of a repeated wall time `secondPass` chooses the second
showing; of a skipped one it chooses the offset after the change in place of the one before. -/
def WallReading.offset : WallReading → Bool → Int
  | .once offset, _ => offset
  | .twice first second, secondPass => if secondPass then second else first
  | .never before after, secondPass => if secondPass then after else before

namespace Zone

def Shows (zone : Zone) (s offset : Int) : Prop :=
  zone.offsetAt (s - offset) = offset

instance (zone : Zone) (s offset : Int) : Decidable (zone.Shows s offset) :=
  inferInstanceAs (Decidable (_ = _))

/-- The reading of wall second `s`, by the offsets a day before and a day after it. -/
def reading (zone : Zone) (s : Int) : WallReading :=
  let before := zone.offsetAt (s - 86400)
  let after := zone.offsetAt (s + 86400)
  if before = after then .once before
  else if zone.Shows s before then
    if zone.Shows s after then .twice before after else .once before
  else if zone.Shows s after then .once after
  else .never before after

def wallOffset (zone : Zone) (s : Int) (secondPass : Bool) : Int :=
  (zone.reading s).offset secondPass

/-- Whether the wall time at second `u` of universal time is the second showing of a repeated one. -/
def isSecondPass (zone : Zone) (u : Int) : Bool :=
  let offset := zone.offsetAt u
  match zone.reading (u + offset) with
  | .twice _ second => offset = second
  | _ => false

/-! ## The end of a skipped stretch -/

/-- The first second after `low` and up to `low + width` at which the offset is `offset`, by halving
a stretch at whose end it is and within which it does not stop being. -/
def firstSecondWith (zone : Zone) (offset low : Int) (width : Nat) : Int :=
  if width ≤ 1 then low + width
  else
    let half := width / 2
    if zone.offsetAt (low + half) = offset then zone.firstSecondWith offset low half
    else zone.firstSecondWith offset (low + half) (width - half)
termination_by width

/-- The second of universal time at which the change from offset `before` to the larger offset
`after` skips wall second `s`. -/
def skipSecond (zone : Zone) (s before after : Int) : Int :=
  zone.firstSecondWith after (s - after) (after - before).toNat

/-! ## Constant offsets -/

@[simp] theorem reading_fixed (offset : UtcOffset) (s : Int) :
    (fixed offset).reading s = .once offset.seconds := by
  simp [reading]

@[simp] theorem wallOffset_fixed (offset : UtcOffset) (s : Int) (secondPass : Bool) :
    (fixed offset).wallOffset s secondPass = offset.seconds := by
  simp [wallOffset, WallReading.offset]

@[simp] theorem isSecondPass_fixed (offset : UtcOffset) (u : Int) :
    (fixed offset).isSecondPass u = false := by
  simp [isSecondPass]

/-! ## Universal time -/

section

variable {zone : Zone} (universal : zone.isUniversal = true)
include universal

theorem reading_of_isUniversal (s : Int) : zone.reading s = .once 0 := by
  simp only [reading, offsetAt_of_isUniversal universal, if_true]

theorem wallOffset_of_isUniversal (s : Int) (secondPass : Bool) : zone.wallOffset s secondPass = 0 := by
  rw [wallOffset, reading_of_isUniversal universal]
  rfl

theorem isSecondPass_of_isUniversal (u : Int) : zone.isSecondPass u = false := by
  simp only [isSecondPass, reading_of_isUniversal universal]

end

end Zone

end RelativeTime
