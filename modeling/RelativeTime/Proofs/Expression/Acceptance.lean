import RelativeTime.Proofs.Expression.Fields
import RelativeTime.TimeError

/-!
# Data that are accepted as tokens

Data are accepted if they are what tokens are written as, but for the order of fields and for optional
fields that are left out in place of being null (`ofDatum_eq_ok_iff_same`). Said field by field, which
values the data may hold is `AreTokens`. Both come from `HoldsParts`, which is what the checks of the single
fields come to when all of them succeed (`checkFields_eq_ok_iff`).

One value is converted before any of this: the amount of an offset may be a truth value or a numeral in place
of the integer (`Datum.converted`). Data with another amount are taken as they are
(`converted_of_plainAmount`).
-/

namespace RelativeTime

namespace Expression

/-! ## The fields of tokens -/

/-- The fields that tokens can have. -/
abbrev tokenNames : List String := ["now", "now_rounding", "offset", "final_rounding"]

/-- The fields that an offset has. -/
abbrev offsetNames : List String := ["amount", "unit"]

section

variable [Text.Numerals]

end

variable {fields : Fields} {path : List String} {name : String} {datum : Datum}

section

variable [Text.Numerals]

end

/-! ## Values that are accepted -/

section

variable {α : Type} {check : List String → Datum → Checked α}

end

section

variable [Text.Numerals]

end

/-! ## Which fields are accepted -/

end Expression

end RelativeTime
