import PodPlacement.Text.Address

/-!
# Parameters of an address

The parameters at the end of an address.  A key may be given more than once and then has
several values, in their order; the keys stand in the order of their first use.
-/

namespace PodPlacement.Database

open Text

/-- Keys with their values, of which each has one at least. -/
abbrev Query := List (String × List String)

namespace Query

/-- One more value of a key. -/
def add (key value : String) : Query → Query
  | [] => [(key, [value])]
  | (k, values) :: rest =>
    if k = key then (key, values ++ [value]) :: rest else (k, values) :: add key value rest

/-! ## From text -/

/-- A key or a value as it was meant: a plus is a space. -/
def plain (cs : List Char) : String :=
  String.ofList (percentDecode (cs.map fun c => if c = '+' then ' ' else c))

/-- The key and the value of a parameter; none if there is no value. -/
def parameter? (cs : List Char) : Option (String × String) :=
  match cut '=' cs with
  | (key, some value) => if value.isEmpty then none else some (plain key, plain value)
  | (_, none) => none

def ofText (cs : List Char) : Query :=
  ((pieces '&' cs).filterMap parameter?).foldl (fun q p => add p.1 p.2 q) []

/-! ## To text -/

/-- A key or a value as it is written: a space is a plus. -/
def written (s : String) : List Char :=
  (percentEncode (fun c => isUnreserved c || c == ' ') s.toList).map fun c =>
    if c = ' ' then '+' else c

/-- The text of parameters, in the order of their keys. -/
def text (q : Query) : List Char :=
  joined '&' ((q.mergeSort fun a b => !(b.1 < a.1)).flatMap fun (key, values) =>
    values.map fun value => written key ++ '=' :: written value)

end Query

end PodPlacement.Database
