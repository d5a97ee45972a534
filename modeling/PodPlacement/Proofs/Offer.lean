import Mathlib.Data.List.Forall2
import PodPlacement.Failure

/-!
# What an offer means

An offer that is well formed means a recommendation if each of its placement actions says where
to.  One for disks does; one for the machine does if it has a destination.  The recommendation
then has an action for each of them, in order, and none for the actions of other types.

    a.action? = some b ↔ a.Means b                                      (action?_eq_some_iff)
    (∃ b, a.action? = some b) ↔ a.SaysWhere                      (exists_action?_eq_some_iff)
    Recommendation.ofOffer? o = some r ↔ o.Means r                     (ofOffer?_eq_some_iff)
    (∃ r, Recommendation.ofOffer? o = some r) ↔ o.SaysWhere     (exists_ofOffer?_eq_some_iff)
-/

namespace PodPlacement

open Decoder

/-! ## One action -/

namespace OfferedAction

/-- What an offered action of the placement type means: without disks it is for the machine and
leads to its destination; with disks it is for these, each with the datastore offered for it. -/
inductive Means : OfferedAction → Action → Prop
  | machine {a : OfferedAction} {destination : Reference} (hdisks : a.relocation.disks = [])
      (hdestination : a.destination = some destination) : Means a (.machine ⟨destination⟩)
  | disks {a : OfferedAction} {ps : DiskPlacements}
      (hdisks : a.relocation.disks.map (fun o => (o.diskId, o.datastore)) =
        ps.toList.map fun p => (p.diskId, p.datastore)) : Means a (.disks ps)

/-- Whether an action says where to: if it is for no disk, it has a destination. -/
def SaysWhere (a : OfferedAction) : Prop := a.relocation.disks = [] → a.destination ≠ none

instance (a : OfferedAction) : Decidable a.SaysWhere :=
  inferInstanceAs (Decidable (_ → _))

/-- Disks and datastores are those of offers if and only if the placements are. -/
theorem map_pair_eq_iff (offers : List DiskOffer) (ps : List DiskPlacement) :
    offers.map (fun o => (o.diskId, o.datastore)) = ps.map (fun p => (p.diskId, p.datastore)) ↔
      offers.map DiskOffer.placement = ps := by
  have hpairs : offers.map (fun o => (o.diskId, o.datastore)) =
      (offers.map DiskOffer.placement).map fun p => (p.diskId, p.datastore) := by
    rw [List.map_map]
    rfl
  have hinj : Function.Injective fun p : DiskPlacement => (p.diskId, p.datastore) := by
    rintro ⟨id, datastore⟩ ⟨id', datastore'⟩ h
    obtain ⟨rfl, rfl⟩ := Prod.mk.inj h
    rfl
  rw [hpairs]
  exact ⟨fun h => List.map_injective_iff.2 hinj h, fun h => congrArg _ h⟩

theorem action?_eq_some_iff (a : OfferedAction) (b : Action) : a.action? = some b ↔ a.Means b := by
  unfold action?
  cases hdisks : a.relocation.disks with
  | nil =>
    constructor
    · intro h
      obtain ⟨destination, hdestination, rfl⟩ := Option.map_eq_some_iff.1 h
      exact .machine hdisks hdestination
    · intro h
      cases h with
      | machine _ hdestination =>
        rw [hdestination]
        rfl
      | disks hpairs =>
        rw [hdisks] at hpairs
        cases hpairs
  | cons first rest =>
    constructor
    · intro h
      obtain rfl := Option.some.inj h
      refine .disks ?_
      rw [map_pair_eq_iff, hdisks]
      rfl
    · intro h
      cases h with
      | machine hnil =>
        rw [hdisks] at hnil
        cases hnil
      | disks hpairs =>
        rw [map_pair_eq_iff, hdisks] at hpairs
        obtain ⟨hfirst, hrest⟩ := List.cons.inj hpairs
        exact congrArg (some ∘ Action.disks) (congrArg₂ DiskPlacements.mk hfirst hrest)

theorem exists_action?_eq_some_iff (a : OfferedAction) :
    (∃ b, a.action? = some b) ↔ a.SaysWhere := by
  unfold action? SaysWhere
  cases a.relocation.disks with
  | nil =>
    rw [← Option.ne_none_iff_exists', Ne, Option.map_eq_none_iff]
    exact ⟨fun h _ => h, fun h => h rfl⟩
  | cons first rest => exact ⟨nofun, fun _ => ⟨_, rfl⟩⟩

/-- An action that is read is of the placement type if it says so, or if it names no type. -/
theorem type_eq_iff_of_read (members : Members) (a : OfferedAction)
    (h : Document.read (.object members) = Checked.valid a) :
    a.type = placementType ↔ members.lookup (.proper "type") = none ∨
      members.lookup (.proper "type") = some (.string placementType) := by
  obtain ⟨_, relocation, hthree, -, rfl⟩ := Checked.apply_eq_valid_iff.1 h
  obtain ⟨_, destination, htwo, -, rfl⟩ := Checked.apply_eq_valid_iff.1 hthree
  obtain ⟨_, target, hone, -, rfl⟩ := Checked.apply_eq_valid_iff.1 htwo
  obtain ⟨_, type, hmk, htype, rfl⟩ := Checked.apply_eq_valid_iff.1 hone
  obtain rfl := Checked.valid.inj hmk
  show type = placementType ↔ _
  rw [optional_eq_valid_iff] at htype
  obtain ⟨value, hlookup, hvalue⟩ | ⟨hlookup, hdefault⟩ := htype
  · rw [hlookup, (text_eq_valid_iff value type).1 hvalue]
    simp
  · rw [hlookup]
    simp [hdefault]

end OfferedAction

/-! ## All actions -/

section

variable {α β : Type} {f : α → Option β}

/-- Values that are made one by one are made together. -/
theorem mapM_eq_some_iff {xs : List α} {ys : List β} :
    xs.mapM f = some ys ↔ List.Forall₂ (fun a b => f a = some b) xs ys := by
  induction xs generalizing ys with
  | nil => simp [eq_comm]
  | cons a xs ih =>
    rw [List.mapM_cons, List.forall₂_cons_left_iff]
    simp only [Option.bind_eq_bind, Option.pure_def, Option.bind_eq_some_iff, Option.some.injEq,
      ih, eq_comm (b := ys)]
    exact ⟨fun ⟨b, hb, zs, hzs, h⟩ => ⟨b, zs, hb, hzs, h⟩,
      fun ⟨b, zs, hb, hzs, h⟩ => ⟨b, hb, zs, hzs, h⟩⟩

theorem exists_mapM_eq_some_iff {xs : List α} :
    (∃ ys, xs.mapM f = some ys) ↔ ∀ a ∈ xs, ∃ b, f a = some b := by
  induction xs with
  | nil => simp
  | cons a xs ih =>
    rw [List.forall_mem_cons, ← ih]
    simp only [mapM_eq_some_iff, List.forall₂_cons_left_iff]
    constructor
    · rintro ⟨_, b, ys, hb, hys, rfl⟩
      exact ⟨⟨b, hb⟩, ys, hys⟩
    · rintro ⟨⟨b, hb⟩, ys, hys⟩
      exact ⟨_, b, ys, hb, hys, rfl⟩

end

namespace Offer

/-- What an offer means: a recommendation of its key, with the actions that its placement actions
mean, in order and one for one. -/
structure Means (o : Offer) (r : Recommendation) : Prop where
  key : r.key = o.key
  actions : List.Forall₂ OfferedAction.Means o.placements r.actions

/-- Whether each placement action of an offer says where to. -/
def SaysWhere (o : Offer) : Prop := ∀ a ∈ o.actions, a.type = placementType → a.SaysWhere

theorem mem_placements {o : Offer} {a : OfferedAction} :
    a ∈ o.placements ↔ a ∈ o.actions ∧ a.type = placementType := by
  unfold placements
  rw [List.mem_filter, decide_eq_true_eq]

end Offer

theorem Recommendation.ofOffer?_eq_some_iff (o : Offer) (r : Recommendation) :
    ofOffer? o = some r ↔ o.Means r := by
  unfold ofOffer?
  rw [Option.map_eq_some_iff]
  simp only [mapM_eq_some_iff, OfferedAction.action?_eq_some_iff]
  constructor
  · rintro ⟨actions, hactions, rfl⟩
    exact ⟨rfl, hactions⟩
  · rintro ⟨hkey, hactions⟩
    obtain ⟨key, actions⟩ := r
    obtain rfl : key = o.key := hkey
    exact ⟨actions, hactions, rfl⟩

theorem Recommendation.exists_ofOffer?_eq_some_iff (o : Offer) :
    (∃ r, ofOffer? o = some r) ↔ o.SaysWhere := by
  have hall : (∃ actions, o.placements.mapM OfferedAction.action? = some actions) ↔
      o.SaysWhere := by
    rw [exists_mapM_eq_some_iff]
    simp only [OfferedAction.exists_action?_eq_some_iff, Offer.mem_placements, and_imp]
    rfl
  rw [← hall]
  unfold ofOffer?
  simp only [Option.map_eq_some_iff]
  exact ⟨fun ⟨_, actions, h, _⟩ => ⟨actions, h⟩, fun ⟨actions, h⟩ => ⟨_, actions, h, rfl⟩⟩

/-! ## From JSON -/

/-- **Exactly the right offers are taken, and for what they mean.**  A value is a recommendation
if and only if it is a well formed offer each of whose placement actions says where to, and it is
the recommendation that the offer means; placement actions are those that say so and those that
name no type.  Any other value fails with its faults, or with the offer whose action says nothing,
and both are failures of the request. -/
theorem ofJson_cases (raw : Json) :
    (∀ r, Recommendation.ofJson raw = .ok r ↔
      ∃ o : Offer, Document.read raw = .valid o ∧ o.Means r) ∧
    ((∃ r, Recommendation.ofJson raw = .ok r) ↔
      ∃ o : Offer, Document.read raw = .valid o ∧ o.SaysWhere) ∧
    (∀ e, Recommendation.ofJson raw = .error e ↔
      (∃ faults, (Document.read raw : Checked Offer) = .faulty faults ∧ e = .faulty faults) ∨
      ∃ o : Offer, Document.read raw = .valid o ∧ ¬o.SaysWhere ∧ e = .noDestination o.key) ∧
    (∀ e, (Failure.ofOffer e).category = .request) ∧
    (∀ (members : Members) (a : OfferedAction),
      Document.read (.object members) = Checked.valid a →
      (a.type = placementType ↔ members.lookup (.proper "type") = none ∨
        members.lookup (.proper "type") = some (.string placementType))) := by
  have hcategory : ∀ e, (Failure.ofOffer e).category = .request := fun e => by cases e <;> rfl
  have htype := @OfferedAction.type_eq_iff_of_read
  unfold Recommendation.ofJson
  cases hread : (Document.read raw : Checked Offer) with
  | faulty faults => exact ⟨by simp, by simp, by simp [eq_comm], hcategory, htype⟩
  | valid o =>
    simp only [Checked.valid.injEq, exists_eq_left', ← Recommendation.ofOffer?_eq_some_iff,
      ← Recommendation.exists_ofOffer?_eq_some_iff]
    cases Recommendation.ofOffer? o with
    | none => exact ⟨by simp, by simp, by simp [eq_comm], hcategory, htype⟩
    | some r => exact ⟨by simp, by simp, by simp, hcategory, htype⟩

/-- An offer with an action that names no type, one of another type, and one for disks that has a
destination as well. -/
def assorted : Json :=
  .object
    [("reason", .string "space"), ("key", .string "k"),
     ("actions", .array
       [.object [("destination", (Reference.datastore "d-1").write)],
        .object [("type", .string "HostAction"), ("relocate_spec", .object [])],
        .object
          [("type", .string placementType), ("destination", (Reference.datastore "d-9").write),
           ("relocate_spec", .object
             [("datastore", (Reference.datastore "d-8").write),
              ("disk", .array
                [.object [("disk_id", .whole 7), ("datastore", (Reference.datastore "d-2").write)],
                 .object [("disk_id", .string "8"),
                   ("datastore", (Reference.datastore "d-3").write)]])])]])]

/-- What that offer means. -/
def assortedMeaning : Recommendation :=
  ⟨"k",
    [.machine ⟨.datastore "d-1"⟩,
     .disks ⟨⟨7, .datastore "d-2"⟩, [⟨8, .datastore "d-3"⟩]⟩]⟩

/-- The members of an action that names no type. -/
def untyped : Members := [("destination", (Reference.datastore "d-1").write)]

theorem assorted_is_taken :
    Recommendation.ofJson assorted = .ok assortedMeaning ∧
    (∃ o : Offer, Document.read assorted = .valid o ∧ o.Means assortedMeaning) ∧
    (∃ o : Offer, Document.read assorted = .valid o ∧ o.SaysWhere) ∧
    Document.read (.object untyped) = Checked.valid
      (⟨placementType, none, some (.datastore "d-1"), .unspecified⟩ : OfferedAction) ∧
    (untyped.lookup (.proper "type") = none ∨
      untyped.lookup (.proper "type") = some (.string placementType)) := by
  obtain ⟨hok, hexists, -, -, htype⟩ := ofJson_cases assorted
  have htaken : Recommendation.ofJson assorted = .ok assortedMeaning := rfl
  have hread : Document.read (.object untyped) = Checked.valid
      (⟨placementType, none, some (.datastore "d-1"), .unspecified⟩ : OfferedAction) := rfl
  exact ⟨htaken, (hok _).1 htaken, hexists.1 ⟨_, htaken⟩, hread, (htype _ _ hread).1 rfl⟩

end PodPlacement
