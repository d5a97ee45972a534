import PodPlacement.Reference

/-!
# The inventory

The datastore clusters and datastores that are known, each under an identifier of its own.
A datastore may say to which cluster it belongs.  What is stored has bytes, and so has what is
looked for.

    lookUp known id = .ok a ↔ id.isProper ∧ known id = some a        (lookUp_eq_ok_iff)
    (inv.putCluster c).cluster? id = if c.id = id then some c else inv.cluster? id
                                                                  (cluster?_putCluster)
    (inv.putDatastore e).registered? id = if e.id = id then some e else inv.registered? id
                                                                  (registered?_putDatastore)
-/

namespace PodPlacement

/-! ## Datastores and clusters -/

structure Datastore where
  id : Text
  name : Text
  deriving DecidableEq, Repr, Inhabited

namespace Datastore

def reference (d : Datastore) : Reference := .datastore d.id

/-- The path of a datastore as a whole. -/
def path (d : Datastore) : Text := "[" ++ d.name ++ "]"

/-- The path of a file on a datastore; without one, of the datastore. -/
def pathOf (d : Datastore) (file : Text) : Text :=
  if file.isEmpty then d.path else d.path ++ " " ++ file

end Datastore

structure Cluster where
  id : Text
  name : Text
  inventoryPath : Text
  deriving DecidableEq, Repr, Inhabited

namespace Cluster

def reference (c : Cluster) : Reference := .storagePod c.id

/-- What a cluster is called in messages: its inventory path, or its name when it has none. -/
def place (c : Cluster) : Text := if c.inventoryPath.isEmpty then c.name else c.inventoryPath

end Cluster

/-- A datastore with the cluster it belongs to. -/
structure DatastoreEntry extends Datastore where
  clusterId : Option Text
  deriving DecidableEq, Repr, Inhabited

/-! ## Lookups -/

/-- Why nothing is found under an identifier. -/
inductive LookupError where
  | unknown
  /-- The identifier has no bytes to look for. -/
  | unencodable
  deriving DecidableEq, Repr

/-- What is found of datastores: each identifier stands for one at most. -/
abbrev DatastoreDirectory := Text → Except LookupError Datastore

/-- What is found of clusters: each identifier stands for one at most. -/
abbrev ClusterDirectory := Text → Except LookupError Cluster

/-- What is found under an identifier, where `known` says what there is. -/
def lookUp {α : Type} (known : Text → Option α) (id : Text) : Except LookupError α :=
  if id.isProper then
    match known id with
    | some a => .ok a
    | none => .error .unknown
  else .error .unencodable

section

variable {α : Type} (known : Text → Option α) (id : Text)

theorem lookUp_eq_ok_iff (a : α) :
    lookUp known id = .ok a ↔ id.isProper = true ∧ known id = some a := by
  unfold lookUp
  cases id.isProper <;> cases known id <;> simp

theorem lookUp_eq_unknown_iff :
    lookUp known id = .error .unknown ↔ id.isProper = true ∧ known id = none := by
  unfold lookUp
  cases id.isProper <;> cases known id <;> simp

theorem lookUp_eq_unencodable_iff :
    lookUp known id = .error .unencodable ↔ id.isProper = false := by
  unfold lookUp
  cases id.isProper <;> cases known id <;> simp

end

/-! ## Rows with identifiers -/

section

variable {ρ : Type}

/-- The rows with one more, or with a new row in the place of the one of its identifier. -/
def putRow (id : ρ → Text) (row : ρ) : List ρ → List ρ
  | [] => [row]
  | r :: rows => if id r = id row then row :: rows else r :: putRow id row rows

def findRow (id : ρ → Text) (key : Text) (rows : List ρ) : Option ρ :=
  rows.find? fun r => id r == key

/-- What was put is found, and nothing else changes. -/
theorem findRow_putRow (id : ρ → Text) (row : ρ) (rows : List ρ) (key : Text) :
    findRow id key (putRow id row rows) =
      if id row = key then some row else findRow id key rows := by
  induction rows with
  | nil => by_cases h : id row = key <;> simp [putRow, findRow, h]
  | cons r rows ih =>
    unfold putRow
    by_cases hr : id r = id row
    · rw [if_pos hr]
      by_cases h : id row = key <;> simp [findRow, hr, h]
    · rw [if_neg hr]
      by_cases h : id r = key
      · have hne : id row ≠ key := fun e => hr (h.trans e.symm)
        simp [findRow, h, hne]
      · simpa [findRow, h] using ih

end

/-! ## Storing -/

inductive StoreError where
  /-- The identifier stands for something else. -/
  | taken
  | unencodable (t : Text)
  deriving DecidableEq, Repr

/-- The first of some texts that cannot be stored. -/
def unstorable? (texts : List Text) : Option Text := texts.find? fun t => !t.isProper

theorem unstorable?_eq_none_iff (texts : List Text) :
    unstorable? texts = none ↔ ∀ t ∈ texts, t.isProper = true := by
  unfold unstorable?
  rw [List.find?_eq_none]
  simp

theorem unstorable?_eq_some {texts : List Text} {t : Text} (h : unstorable? texts = some t) :
    ∃ t ∈ texts, t.isProper = false := by
  unfold unstorable? at h
  exact ⟨t, List.mem_of_find?_eq_some h, by simpa using List.find?_some h⟩

def Cluster.texts (c : Cluster) : List Text := [c.id, c.name, c.inventoryPath]

def DatastoreEntry.texts (e : DatastoreEntry) : List Text := [e.id, e.name] ++ e.clusterId.toList

/-! ## Inventories -/

/-- The known clusters and datastores, in the order of their first registration. -/
structure Inventory where
  clusters : List Cluster
  datastores : List DatastoreEntry
  deriving DecidableEq, Repr, Inhabited

namespace Inventory

def empty : Inventory := ⟨[], []⟩

def cluster? (inv : Inventory) (id : Text) : Option Cluster :=
  findRow Cluster.id id inv.clusters

def registered? (inv : Inventory) (id : Text) : Option DatastoreEntry :=
  findRow (fun e : DatastoreEntry => e.id) id inv.datastores

def datastore? (inv : Inventory) (id : Text) : Option Datastore :=
  (inv.registered? id).map DatastoreEntry.toDatastore

def clusterDirectory (inv : Inventory) : ClusterDirectory := lookUp inv.cluster?

def datastoreDirectory (inv : Inventory) : DatastoreDirectory := lookUp inv.datastore?

/-- The inventory with a cluster, in the place of one with its identifier. -/
def putCluster (inv : Inventory) (c : Cluster) : Inventory :=
  { inv with clusters := putRow Cluster.id c inv.clusters }

/-- The inventory with a datastore, in the place of one with its identifier. -/
def putDatastore (inv : Inventory) (e : DatastoreEntry) : Inventory :=
  { inv with datastores := putRow (fun e : DatastoreEntry => e.id) e inv.datastores }

/-- The inventory with a new cluster, unless its identifier is taken. -/
def addCluster (inv : Inventory) (c : Cluster) : Except StoreError Inventory :=
  match unstorable? c.texts, inv.cluster? c.id with
  | some t, _ => .error (.unencodable t)
  | none, some _ => .error .taken
  | none, none => .ok (inv.putCluster c)

/-- The inventory with a new datastore, unless its identifier is taken. -/
def addDatastore (inv : Inventory) (e : DatastoreEntry) : Except StoreError Inventory :=
  match unstorable? e.texts, inv.registered? e.id with
  | some t, _ => .error (.unencodable t)
  | none, some _ => .error .taken
  | none, none => .ok (inv.putDatastore e)

/-- The inventory with a datastore of a name; one that was known stays in its cluster. -/
def nameDatastore (inv : Inventory) (id name : Text) : Except StoreError Inventory :=
  match unstorable? [id, name] with
  | some t => .error (.unencodable t)
  | none =>
    .ok (inv.putDatastore ⟨⟨id, name⟩, (inv.registered? id).bind DatastoreEntry.clusterId⟩)

def dropDatastore (inv : Inventory) (id : Text) : Inventory :=
  { inv with datastores := inv.datastores.filter fun e => e.id != id }

theorem cluster?_putCluster (inv : Inventory) (c : Cluster) (id : Text) :
    (inv.putCluster c).cluster? id = if c.id = id then some c else inv.cluster? id :=
  findRow_putRow Cluster.id c inv.clusters id

theorem registered?_putDatastore (inv : Inventory) (e : DatastoreEntry) (id : Text) :
    (inv.putDatastore e).registered? id = if e.id = id then some e else inv.registered? id :=
  findRow_putRow (fun e : DatastoreEntry => e.id) e inv.datastores id

end Inventory

end PodPlacement
