import RelativeTime.Stamp.Basic
import RelativeTime.Text.Iso

/-!
# Stamps as text

The fraction of a stamp has nine digits if it needs them, six if those are enough, and is left out
when it is zero.
-/

namespace RelativeTime

namespace Stamp

def fractionText (nanos : Int) : List Char :=
  if nanos % 1000 ≠ 0 then Text.Iso.fractionText 9 nanos
  else if nanos ≠ 0 then Text.Iso.fractionText 6 (nanos / 1000)
  else []

def isoText (v : Stamp) : String :=
  String.ofList <|
    Text.Iso.secondText (v.wall / perSecond) ++ fractionText (v.wall % perSecond) ++
      (if v.zone.isSome then Text.Iso.offsetText v.period.offset.seconds else [])

end Stamp

end RelativeTime
