import PodPlacement.Text

/-!
# JSON values

JSON values with members in their written order, and with whole numbers kept apart from real
ones.  A key that is put again keeps its place and takes the new value.

    (put key value members).lookup key = some value         (lookup_put)
    k ≠ key → (put key value members).lookup k = members.lookup k   (lookup_put_of_ne)
-/

namespace PodPlacement

inductive Json where
  | null
  | bool (b : Bool)
  | whole (n : Int)
  | real (x : Float)
  | string (t : Text)
  | array (items : List Json)
  | object (members : List (Text × Json))
  deriving Inhabited

/-- The members of an object, in order. -/
abbrev Members := List (Text × Json)

namespace Json

/-- The members with one more, or with a new value in the place of the old one. -/
def put (key : Text) (value : Json) : Members → Members
  | [] => [(key, value)]
  | (k, v) :: rest => if k = key then (key, value) :: rest else (k, v) :: put key value rest

theorem lookup_put (key : Text) (value : Json) (members : Members) :
    (put key value members).lookup key = some value := by
  induction members with
  | nil => simp [put]
  | cons head rest ih =>
    obtain ⟨k, v⟩ := head
    unfold put
    split
    · simp
    · next h =>
      rw [List.lookup_cons, beq_false_of_ne (Ne.symm h)]
      exact ih

/-- The other members are as they were. -/
theorem lookup_put_of_ne {k key : Text} (hne : k ≠ key) (value : Json) (members : Members) :
    (put key value members).lookup k = members.lookup k := by
  induction members with
  | nil => simp [put, hne]
  | cons head rest ih =>
    obtain ⟨k', v⟩ := head
    unfold put
    split
    · next h =>
      subst h
      rw [List.lookup_cons, List.lookup_cons, beq_false_of_ne hne]
    · rw [List.lookup_cons, List.lookup_cons, ih]

/-- Whether a value counts as not given: null, false, zero, or without content. -/
def isVoid : Json → Bool
  | null => true
  | bool b => !b
  | whole n => n == 0
  | real x => x == 0.0
  | string t => t.isEmpty
  | array items => items.isEmpty
  | object members => members.isEmpty

/-- The value of a key, null when there is none. -/
def get (members : Members) (key : Text) : Json := (members.lookup key).getD null

end Json

end PodPlacement
