import RelativeTime.Zone.Basic
import RelativeTime.Zone.Key

/-!
# Zone databases

The zones that keys name are not fixed: they come from a database that is updated several times a
year. What is relied on is that it has universal time, and that no part of a path starts with a dash,
as its own rules for names demand.

Stamps look keys up by themselves. Where a path is accepted and leads to a zone they find the same one,
and they read the front of a key before anything else, so that an empty key has none.
-/

namespace RelativeTime

/-- A database of time zones. -/
class ZoneDatabase where
  /-- The zone under a key whose path is accepted. -/
  find : String → Except LookupError Zone
  /-- The zone that stamps find under a key. -/
  findForStamp : String → Except ZoneKeyError Zone
  find_utc : ∃ zone, find "UTC" = .ok zone
  undashed {key : String} {zone : Zone} : find key = .ok zone → key.toList.head? ≠ some '-'
  findForStamp_of_find {key : String} {zone : Zone} :
    ZoneKey.problem? key = none → find key = .ok zone → findForStamp key = .ok zone
  findForStamp_empty : findForStamp "" = .error .empty

namespace Zone

variable [ZoneDatabase] {key : String} {zone : Zone}

/-- The zone that a key names. -/
def named (key : String) : Except ZoneKeyError Zone :=
  match ZoneKey.problem? key with
  | some problem => .error problem
  | none => (ZoneDatabase.find key).mapError (.lookup key)

theorem named_eq_ok_iff :
    named key = .ok zone ↔ ZoneKey.problem? key = none ∧ ZoneDatabase.find key = .ok zone := by
  rw [named]
  cases ZoneKey.problem? key with
  | some problem => simp
  | none =>
    refine Iff.trans ?_ (and_iff_right rfl).symm
    cases ZoneDatabase.find key with
    | ok found => constructor <;> rintro ⟨⟩ <;> rfl
    | error error => constructor <;> rintro ⟨⟩

/-- Universal time is always known. -/
theorem exists_named_utc : ∃ zone, named "UTC" = .ok zone :=
  ZoneDatabase.find_utc.imp fun _ found => named_eq_ok_iff.mpr ⟨by decide, found⟩

/-- A key that names a zone does not look like an option. -/
theorem undashed_of_named (named : named key = .ok zone) : key.toList.head? ≠ some '-' :=
  ZoneDatabase.undashed (named_eq_ok_iff.mp named).2

theorem forStamp_of_named (named : named key = .ok zone) :
    ZoneDatabase.findForStamp key = .ok zone :=
  let ⟨accepted, found⟩ := named_eq_ok_iff.mp named
  ZoneDatabase.findForStamp_of_find accepted found

/-- The error with which the look-up of a key ends half-way. -/
def brokenLookup? (key : String) : Option ZoneKeyError :=
  match named key with
  | .ok _ => none
  | .error error => if error.namesNoZone then none else some error

theorem brokenLookup?_of_named (named : named key = .ok zone) : brokenLookup? key = none := by
  rw [brokenLookup?, named]

theorem brokenLookup?_eq_some_iff {error : ZoneKeyError} : brokenLookup? key = some error ↔
    named key = .error error ∧ error.namesNoZone = false := by
  rw [brokenLookup?]
  cases named key with
  | ok zone => simp
  | error other => grind

theorem named_empty : named "" = .error (.unnormalized "") := rfl

end Zone

end RelativeTime
