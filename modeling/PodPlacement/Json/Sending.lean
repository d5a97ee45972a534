import PodPlacement.Decimal.Layout
import PodPlacement.Json.Value

/-!
# Sending JSON values

A value can be sent if it has a strict JSON text and that has bytes: its real numbers are
finite, and no half stands alone in its texts and keys.  `Json.without` leaves members out
that are not for others.

    (string t).isSendable = t.isProper          (isSendable_string)
-/

namespace PodPlacement.Json

open PodPlacement.Decimal

mutual

def isSendable : Json → Bool
  | real x => isFinite x
  | string t => t.isProper
  | array items => itemsSendable items
  | object members => membersSendable members
  | null | bool _ | whole _ => true

def itemsSendable : List Json → Bool
  | [] => true
  | item :: rest => item.isSendable && itemsSendable rest

def membersSendable : List (Text × Json) → Bool
  | [] => true
  | (key, value) :: rest => key.isProper && value.isSendable && membersSendable rest

end

@[simp] theorem isSendable_string (t : Text) : (string t).isSendable = t.isProper := by
  rw [isSendable]

mutual

/-- A value without the members, at any depth, whose keys are hidden. -/
def without (hidden : Text → Bool) : Json → Json
  | array items => array (itemsWithout hidden items)
  | object members => object (membersWithout hidden members)
  | value => value

def itemsWithout (hidden : Text → Bool) : List Json → List Json
  | [] => []
  | item :: rest => item.without hidden :: itemsWithout hidden rest

def membersWithout (hidden : Text → Bool) : List (Text × Json) → List (Text × Json)
  | [] => []
  | (key, value) :: rest =>
    if hidden key then membersWithout hidden rest
    else (key, value.without hidden) :: membersWithout hidden rest

end

end PodPlacement.Json
