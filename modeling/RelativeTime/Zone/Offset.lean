/-!
# Offsets from universal time

The offset of a clock is the number of seconds that it is ahead of universal time, less than a day
in either direction.
-/

namespace RelativeTime

/-- Seconds ahead of universal time, less than a day either way. -/
structure UtcOffset where
  seconds : Int
  lower : -86400 < seconds
  upper : seconds < 86400
  deriving DecidableEq

namespace UtcOffset

def zero : UtcOffset := ⟨0, by decide, by decide⟩

instance : Inhabited UtcOffset := ⟨zero⟩

/-- The offset with the given number of seconds, if that is less than a day. -/
def ofSeconds? (seconds : Int) : Option UtcOffset :=
  if h : -86400 < seconds ∧ seconds < 86400 then some ⟨seconds, h.1, h.2⟩ else none

theorem ofSeconds?_seconds (offset : UtcOffset) : ofSeconds? offset.seconds = some offset := by
  simp [ofSeconds?, offset.lower, offset.upper]

end UtcOffset

end RelativeTime
