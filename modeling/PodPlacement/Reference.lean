import PodPlacement.Validation.Decoder

/-!
# References

A reference names a managed object, such as a datastore or a resource pool, by its type and
its identifier.

    Reference.read (Reference.write r) = .valid r          (Reference.read_write)
-/

namespace PodPlacement

open Decoder

/-- A managed object, by type and identifier. -/
structure Reference where
  type : Text
  value : Text
  deriving DecidableEq, Repr, Inhabited

instance : Document Reference where
  kind := "ManagedObjectReference"
  ofMembers ms := ((Checked.valid Reference.mk).apply (required "type" text ms)).apply
    (required "value" text ms)
  toMembers r := [("type", .string r.type), ("value", .string r.value)]

namespace Reference

def read : Decoder Reference := Document.read

def write : Reference → Json := Document.write

theorem read_write (r : Reference) : read (write r) = .valid r := by
  obtain ⟨type, value⟩ := r
  rfl

def datastore (id : Text) : Reference := ⟨"Datastore", id⟩

/-- The reference to the datastore cluster of an identifier. -/
def storagePod (id : Text) : Reference := ⟨"StoragePod", id⟩

end Reference

end PodPlacement
