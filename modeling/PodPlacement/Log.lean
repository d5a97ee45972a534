import PodPlacement.Failure

/-!
# The log

What is noted on the way: each event is noted for one machine, by the part of the library
that it belongs to.  A `Trace` is all that can be seen of a run from outside: the notes, the
lookups, and the posts to the scheduler, each in order.

    (s ++ t).log = s.log ++ t.log        and so for the other parts
-/

namespace PodPlacement

open Text

/-! ## Events -/

inductive Event where
  /-- A placement for a new machine begins. -/
  | creating
  /-- A placement for a copy of a machine begins. -/
  | cloning
  /-- A request is composed. -/
  | composing
  /-- A datastore is asked for. -/
  | asking (disk : String) (place : Text)
  /-- Recommendations were received. -/
  | received (count : Nat)
  /-- A disk is assigned to a datastore. -/
  | assigned (datastore : Text) (disk : String)
  /-- The files of the machine are put on a datastore. -/
  | located (datastore : Text)
  /-- A disk is passed over. -/
  | skipped (disk : String)
  /-- A placement is complete. -/
  | applied
  deriving DecidableEq, Repr

/-- The part of the library that an event belongs to. -/
def Event.channel : Event → String
  | composing | asking _ _ => "placement.app.placement_spec"
  | received _ => "placement.app.scheduler_client"
  | creating | cloning | assigned _ _ | located _ | skipped _ | applied => "placement.app.workflow"

def Event.text : Event → String
  | creating => "Getting storage DRS recommendations for VM creation"
  | cloning => "Getting storage DRS recommendations for VM cloning"
  | composing => "Creating StoragePlacementSpec for creation"
  | asking disk place =>
    s!"Requesting recommendation for new disk {quoted disk} on datastore cluster {quoted place}"
  | received count => s!"Received {count} storage DRS recommendation(s)"
  | assigned datastore disk =>
    s!"Assigning recommended datastore {quoted datastore} to disk {quoted disk}"
  | located datastore => s!"Datastore for VMX configuration is {quoted datastore}"
  | skipped disk =>
    s!"Disk {quoted disk} is not on the source virtual machine, skipping clone placement"
  | applied => "Storage DRS recommendations applied successfully"

/-- An event, noted for the machine that a tag names. -/
structure Note where
  tag : Text
  event : Event
  deriving DecidableEq, Repr

def Note.text (n : Note) : Text := n.tag ++ ": " ++ n.event.text

/-- The line of a note; all notes are for finding errors. -/
def Note.line (n : Note) : Text := s!"DEBUG {n.event.channel}: " ++ n.text

/-! ## Tags -/

/-- The name of the kind of object that is placed. -/
def resourceKind : String := "vsphere_virtual_machine"

/-- The tag of an object of a kind; one without an identifier is new. -/
def resourceTagOf (kind id : Text) : Text :=
  let shown : Text := if id.isEmpty then "<new resource>" else id
  kind ++ " (ID = " ++ shown ++ ")"

/-- The tag of a machine. -/
def resourceTag (id : Text) : Text := resourceTagOf resourceKind id

/-- The identifier that a value gives; one that counts as not given is empty. -/
def identifierOf (value : Json) : Text := if value.isVoid then "" else value.display

/-! ## Traces -/

/-- All that can be seen of a run from outside. -/
structure Trace where
  log : List Note
  clusterLookups : List Text
  posts : List Post
  datastoreLookups : List Text

namespace Trace

def empty : Trace := ⟨[], [], [], []⟩

def append (s t : Trace) : Trace :=
  ⟨s.log ++ t.log, s.clusterLookups ++ t.clusterLookups, s.posts ++ t.posts,
   s.datastoreLookups ++ t.datastoreLookups⟩

instance : Append Trace := ⟨append⟩

def notes (tag : Text) (events : List Event) : Trace :=
  { empty with log := events.map fun e => ⟨tag, e⟩ }

def clusterLookup (id : Text) : Trace := { empty with clusterLookups := [id] }

def post (p : Post) : Trace := { empty with posts := [p] }

@[simp] theorem append_log (s t : Trace) : (s ++ t).log = s.log ++ t.log := rfl

@[simp] theorem append_clusterLookups (s t : Trace) :
    (s ++ t).clusterLookups = s.clusterLookups ++ t.clusterLookups := rfl

@[simp] theorem append_posts (s t : Trace) : (s ++ t).posts = s.posts ++ t.posts := rfl

@[simp] theorem append_datastoreLookups (s t : Trace) :
    (s ++ t).datastoreLookups = s.datastoreLookups ++ t.datastoreLookups := rfl

end Trace

end PodPlacement
