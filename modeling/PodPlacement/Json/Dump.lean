import PodPlacement.Decimal.Layout
import PodPlacement.Json.Value
import PodPlacement.Text.Quoted

/-!
# Dumps of open values

An open value is one of which nothing was required.  In a dump it may not be too deep, its
keys have bytes, and its real numbers that are not finite are null.
-/

namespace PodPlacement.Json

open PodPlacement.Decimal PodPlacement.Text

inductive DumpError where
  | tooDeep
  | unencodable (key : Text)
  deriving DecidableEq, Repr

def DumpError.message : DumpError → String
  | tooDeep => "Maximum serialization depth exceeded"
  | unencodable key => unencodableText key

def dumpKey (key : Text) : Except DumpError Text :=
  if key.isProper then .ok key else .error (.unencodable key)

/-- The dump of a value that may have `room` levels. -/
def dump : Nat → Json → Except DumpError Json
  | 0, _ => .error .tooDeep
  | room + 1, value =>
    match value with
    | real x => .ok (if isFinite x then real x else null)
    | array items => (items.mapM (dump room)).map array
    | object members =>
      (members.mapM fun (key, value) => do
        let key ← dumpKey key
        return (key, ← dump room value)).map object
    | value => .ok value

/-- The dump of members whose values are open. -/
def dumpMembers (room : Nat) (members : Members) : Except DumpError Members :=
  members.mapM fun (key, value) => do
    let key ← dumpKey key
    return (key, ← dump room value)

end PodPlacement.Json
