import RelativeTime.Proofs.Moment.LocalForm
import RelativeTime.Proofs.Unit.Limits
import RelativeTime.Proofs.Zone.Readings

/-!
# Where moments end

Going through universal time can fail at either of two places: the instant may lie outside the supported
years, and what the clock shows then may do so too. Both are the same overflow. On a clock whose offset
never changes both are conditions on the wall time alone (`Moment.InReach`), and nothing else of a moment
matters.
-/

namespace RelativeTime

namespace Moment

/-- The wall time lies in the supported years, and so does the universal time it stands for on a clock
`offset` seconds ahead of that. -/
def InReach (offset wall : Int) : Prop :=
  InRange wall ∧ InRange (wall - offset * perSecond)

instance (offset wall : Int) : Decidable (InReach offset wall) := inferInstanceAs (Decidable (_ ∧ _))

/-- The mark that rounding down leaves on a moment where no wall time is shown twice. Universal time is not
converted to, so a mark without a meaning stays with the units of the clock. -/
def keptMark (unit : TimeUnit) (v : Moment) : Bool :=
  match unit with
  | .clock _ => v.secondPass && v.zone.any Zone.isUniversal
  | .calendar _ => false

/-- Clocks that are always fourteen hours ahead of universal time. The wall times of their first fourteen
hours are supported, and out of reach. -/
def fourteenAhead : Zone :=
  .fixed ⟨50400, by decide, by decide⟩

theorem steady_fourteenAhead : fourteenAhead.Steady 50400 :=
  Zone.steady_fixed _

variable {zone : Zone} {offset : Int} {v : Moment}

/-! ## Through universal time -/

theorem succeedsIf_check (t : Int) :
    SucceedsIf (check t) (InRange t) t (· = .overflow .date) :=
  succeedsIf_ite

theorem succeedsIf_ofInstant? (zone : Zone) (u : Int) : SucceedsIf (ofInstant? zone u)
    (InRange u ∧ InRange (ofInstant zone u).wall) (ofInstant zone u) (· = .overflow .date) := by
  have shown : SucceedsIf (do let _ ← check (ofInstant zone u).wall; return ofInstant zone u)
      (InRange (ofInstant zone u).wall ∧ True) (ofInstant zone u) (· = .overflow .date) :=
    (succeedsIf_check _).bind fun _ => succeedsIf_ok _
  exact (succeedsIf_check u).bind fun _ => shown.congr (iff_of_eq (and_true _))

/-- What a moment is normalised to is its instant's local form, unless it is of universal time. -/
theorem succeedsIf_normalize (inZone : v.zone = some zone) : SucceedsIf (normalize v)
    (InRange v.instant ∧ InRange (ofInstant zone v.instant).wall)
    (if zone.isUniversal then v else ofInstant zone v.instant) (· = .overflow .date) := by
  cases universal : zone.isUniversal with
  | false =>
    rw [normalize_eq inZone fun _ => universal]
    exact succeedsIf_ofInstant? zone v.instant
  | true =>
    rw [normalize_of_isUniversal universal inZone, ofInstant_of_isUniversal universal,
      instant_of_isUniversal universal inZone, and_self]
    exact ((succeedsIf_check v.wall).bind fun _ => succeedsIf_ok v).congr (and_iff_left trivial)

theorem succeedsIf_elapse (inZone : v.zone = some zone) (delta : Int) :
    SucceedsIf (v.elapse delta)
      (InRange v.instant ∧ InRange (v.instant + delta) ∧
        InRange (ofInstant zone (v.instant + delta)).wall)
      (ofInstant zone (v.instant + delta)) (· = .overflow .date) := by
  rw [elapse, inZone]
  exact (succeedsIf_check v.instant).bind fun _ => succeedsIf_ofInstant? zone _

/-! ## Marks that are kept -/

theorem keptMark_clock (inZone : v.zone = some zone) (unit : ClockUnit) :
    keptMark (.clock unit) v = (v.secondPass && zone.isUniversal) := by
  rw [keptMark, inZone, Option.any_some]

theorem keptMark_of_unmarked (unmarked : v.secondPass = false) (unit : TimeUnit) :
    keptMark unit v = false := by
  cases unit with
  | clock unit => rw [keptMark, unmarked, Bool.false_and]
  | calendar unit => rfl

/-! ## On a steady clock -/

section

variable (steady : zone.Steady offset)
include steady

theorem ofInstant_of_steady (u : Int) :
    ofInstant zone u = ⟨u + offset * perSecond, false, some zone⟩ := by
  simp only [ofInstant, Zone.isSecondPass, steady.reading_eq]
  rw [steady]

theorem ofInstant_sub (wall : Int) :
    ofInstant zone (wall - offset * perSecond) = ⟨wall, false, some zone⟩ := by
  rw [ofInstant_of_steady steady, Int.sub_add_cancel]

theorem instant_of_steady (inZone : v.zone = some zone) :
    v.instant = v.wall - offset * perSecond := by
  rw [instant, offset?, inZone]
  simp only [Option.map_some, Option.getD_some, steady.wallOffset_eq]

/-- A mark means nothing on such a clock, and only universal time keeps it. -/
theorem succeedsIf_normalize_of_steady (wall : Int) (secondPass : Bool) :
    SucceedsIf (normalize ⟨wall, secondPass, some zone⟩) (InReach offset wall)
      ⟨wall, secondPass && zone.isUniversal, some zone⟩ (· = .overflow .date) := by
  have succeeds := succeedsIf_normalize (v := ⟨wall, secondPass, some zone⟩) rfl
  rw [instant_of_steady steady rfl, ofInstant_sub steady] at succeeds
  cases universal : zone.isUniversal <;> simp only [universal, Bool.and_true, Bool.and_false] at succeeds ⊢ <;>
    exact succeeds.congr and_comm

theorem succeedsIf_elapse_of_steady (inZone : v.zone = some zone) (delta : Int) :
    SucceedsIf (v.elapse delta)
      (InRange (v.wall - offset * perSecond) ∧ InReach offset (v.wall + delta))
      ⟨v.wall + delta, false, some zone⟩ (· = .overflow .date) := by
  have later : v.instant + delta = v.wall + delta - offset * perSecond := by
    rw [instant_of_steady steady inZone]
    omega
  have succeeds := succeedsIf_elapse inZone delta
  rw [later, ofInstant_sub steady, instant_of_steady steady inZone] at succeeds
  exact succeeds.congr (and_congr_right' and_comm)

end

end Moment

end RelativeTime
