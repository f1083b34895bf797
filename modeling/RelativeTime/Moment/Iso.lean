import RelativeTime.Moment.Basic
import RelativeTime.Text.Iso

/-!
# Moments as text

The fraction of a moment has six digits or is left out when it is zero.
-/

namespace RelativeTime

namespace Moment

/-- The text of a moment, without the mark for a second showing. -/
def isoText (v : Moment) : String :=
  let micros := v.wall % perSecond
  String.ofList <|
    Text.Iso.secondText (v.wall / perSecond) ++
      (if micros = 0 then [] else Text.Iso.fractionText 6 micros) ++
      v.offset?.elim [] Text.Iso.offsetText

end Moment

end RelativeTime
