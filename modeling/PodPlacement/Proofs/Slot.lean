import PodPlacement.Proofs.SlotOrder

/-!
# Slots

A disk sits in a slot: the bus of the controller to which it is attached, and its unit there.
Where each disk has a slot of its own, the order of slots lists the disks by slot; and if the
slots of one machine are the first ones of another, the disks of both that sit in one slot
stand at one position.

    (slotOrder bound devices).map (slotOf? bound devices) =
      (slotsInOrder bound devices).map some                        (map_slotOf?_slotOrder)
    (slotsInOrder bound devices).Pairwise (· < ·)                  (pairwise_slotsInOrder)
    slotsInOrder bound source <+: slotsInOrder bound final         (isPrefix_slotsInOrder)
-/

namespace PodPlacement

/-! ## The order of slots as such -/

/-- A bus, and a unit on it. -/
structure Slot where
  bus : Int
  unit : Int
  deriving DecidableEq, Repr

namespace Slot

/-- Slots come by bus, then by unit. -/
instance : LT Slot := ⟨fun s t => s.bus < t.bus ∨ s.bus = t.bus ∧ s.unit < t.unit⟩

instance (s t : Slot) : Decidable (s < t) :=
  inferInstanceAs (Decidable (s.bus < t.bus ∨ s.bus = t.bus ∧ s.unit < t.unit))

theorem lt_def {s t : Slot} : s < t ↔ s.bus < t.bus ∨ s.bus = t.bus ∧ s.unit < t.unit := Iff.rfl

theorem lt_irrefl (s : Slot) : ¬s < s := by
  rw [lt_def]
  omega

theorem lt_asymm {s t : Slot} (h : s < t) : ¬t < s := by
  rw [lt_def] at h ⊢
  omega

theorem lt_of_not_lt {s t : Slot} (h : ¬t < s) (hne : s ≠ t) : s < t := by
  obtain ⟨bus, unit⟩ := s
  obtain ⟨bus', unit'⟩ := t
  rw [Ne, mk.injEq] at hne
  rw [lt_def] at h ⊢
  simp only at h ⊢
  omega

end Slot

/-- Whether some slots are the first of others: each of them is one of the others, and so is
none in front of one of them that is not one of them. -/
def IsInitialSegment (slots others : List Slot) : Prop :=
  (∀ s ∈ slots, s ∈ others) ∧ ∀ s ∈ slots, ∀ t ∈ others, t < s → t ∈ slots

instance (slots others : List Slot) : Decidable (IsInitialSegment slots others) :=
  inferInstanceAs (Decidable (_ ∧ _))

/-- In order, the first of some slots are the front of them. -/
theorem isPrefix_of_isInitialSegment {slots others : List Slot} (hslots : slots.Pairwise (· < ·))
    (hothers : others.Pairwise (· < ·)) (h : IsInitialSegment slots others) :
    slots <+: others := by
  induction slots generalizing others with
  | nil => exact List.nil_prefix
  | cons s slots ih =>
    obtain ⟨hsub, hdown⟩ := h
    obtain ⟨hs, hslots'⟩ := List.pairwise_cons.1 hslots
    cases others with
    | nil => cases hsub s List.mem_cons_self
    | cons t others =>
      obtain ⟨ht, hothers'⟩ := List.pairwise_cons.1 hothers
      have hst : s = t := by
        rcases List.mem_cons.1 (hsub s List.mem_cons_self) with hst | hmem
        · exact hst
        · have hts := ht s hmem
          rcases List.mem_cons.1 (hdown s List.mem_cons_self t List.mem_cons_self hts) with
            hts' | hmem'
          · exact hts'.symm
          · exact absurd hts (Slot.lt_asymm (hs t hmem'))
      subst hst
      refine List.cons_prefix_cons.2 ⟨rfl, ih hslots' hothers' ⟨?_, ?_⟩⟩
      · intro u hu
        rcases List.mem_cons.1 (hsub u (List.mem_cons_of_mem s hu)) with hus | hmem
        · exact absurd (hus ▸ hs u hu) (Slot.lt_irrefl s)
        · exact hmem
      · intro u hu v hv hvu
        rcases List.mem_cons.1 (hdown u (List.mem_cons_of_mem s hu) v
          (List.mem_cons_of_mem s hv) hvu) with hvs | hmem
        · exact absurd (hvs ▸ ht v hv) (Slot.lt_irrefl s)
        · exact hmem

/-! ## The slots of disks -/

/-- The slot of a disk: the bus of the controller in range to which it is attached, and its
unit. -/
def slotOf? (bound : Int) (devices : List Device) (d : Disk) : Option Slot :=
  match (controllersInRange bound devices).find? fun c => d.isOn c, d.unitNumber with
  | some c, some unit => some ⟨c.busNumber, unit⟩
  | _, _ => none

/-- The slots that the attached disks of a machine occupy. -/
def occupiedSlots (bound : Int) (devices : List Device) : List Slot :=
  (attachedDisks bound devices).filterMap (slotOf? bound devices)

/-- Each attached disk of a machine has a slot of its own, and a key of its own. -/
structure IsSlotted (bound : Int) (devices : List Device) : Prop where
  controllerKeys : ((controllersInRange bound devices).map Controller.key).Nodup
  buses : ((controllersInRange bound devices).map Controller.busNumber).Nodup
  units : ∀ d ∈ attachedDisks bound devices, d.unitNumber.isSome
  slots : ((attachedDisks bound devices).map (slotOf? bound devices)).Nodup
  diskKeys : ((attachedDisks bound devices).map Disk.key).Nodup

/-- The slots of the disks of a machine, in the order of slots. -/
def slotsInOrder (bound : Int) (devices : List Device) : List Slot :=
  (slotOrder bound devices).filterMap (slotOf? bound devices)

/-- An attached disk sits in its slot. -/
def Disk.SitsIn (bound : Int) (devices : List Device) (slot : Slot) (d : Disk) : Prop :=
  d ∈ attachedDisks bound devices ∧ slotOf? bound devices d = some slot

instance (bound : Int) (devices : List Device) (slot : Slot) (d : Disk) :
    Decidable (d.SitsIn bound devices slot) :=
  inferInstanceAs (Decidable (_ ∧ _))

theorem mem_disksOn {devices : List Device} {c : Controller} {d : Disk} :
    d ∈ disksOn devices c ↔ .disk d ∈ devices ∧ d.isOn c = true := by
  unfold Disk.isOn
  rw [beq_iff_eq]
  exact mem_disksAt

namespace IsSlotted

variable {bound : Int} {devices : List Device} (h : IsSlotted bound devices)

include h

theorem perm_attachedDisks : (slotOrder bound devices).Perm (attachedDisks bound devices) :=
  slotOrder_perm_attachedDisks h.controllerKeys

theorem mem_slotOrder {d : Disk} :
    d ∈ slotOrder bound devices ↔ d ∈ attachedDisks bound devices :=
  h.perm_attachedDisks.mem_iff

/-- A disk sits on the bus of its controller. -/
theorem slotOf?_of_mem_disksOn {c : Controller} {d : Disk}
    (hc : c ∈ controllersInRange bound devices) (hd : d ∈ disksOn devices c) :
    ∃ unit, d.unitNumber = some unit ∧ slotOf? bound devices d = some ⟨c.busNumber, unit⟩ := by
  have hon := (mem_disksOn.1 hd).2
  have hmem := h.mem_slotOrder.1 (List.mem_flatMap.2 ⟨c, hc, hd⟩)
  obtain ⟨unit, hunit⟩ := Option.isSome_iff_exists.1 (h.units d hmem)
  refine ⟨unit, hunit, ?_⟩
  unfold slotOf?
  cases hfind : (controllersInRange bound devices).find? fun c => d.isOn c with
  | none => exact absurd hon (List.find?_eq_none.1 hfind c hc)
  | some c' =>
    have hon' := List.find?_some hfind
    have hkey : c'.key = c.key := by
      unfold Disk.isOn at hon hon'
      rw [beq_iff_eq] at hon hon'
      exact Option.some.inj (hon'.symm.trans hon)
    have heq : c' = c := List.inj_on_of_nodup_map h.controllerKeys
      (List.mem_of_find?_eq_some hfind) hc hkey
    rw [hunit, heq]

theorem isSome_slotOf? {d : Disk} (hd : d ∈ slotOrder bound devices) :
    ∃ slot, slotOf? bound devices d = some slot := by
  obtain ⟨c, hc, hd⟩ := List.mem_flatMap.1 hd
  obtain ⟨unit, -, hslot⟩ := h.slotOf?_of_mem_disksOn hc hd
  exact ⟨_, hslot⟩

/-- No disk in the order of slots sits in front of one before it. -/
theorem pairwise_not_lt : (slotOrder bound devices).Pairwise fun d e =>
    ∀ s t, slotOf? bound devices d = some s → slotOf? bound devices e = some t → ¬t < s := by
  unfold slotOrder
  rw [List.pairwise_flatMap]
  constructor
  · -- on one bus the ranks of the disks decide
    intro c hc
    refine List.Pairwise.imp_of_mem ?_ (sortOn_pairwise Disk.rank _)
    intro d e hd he hrank s t hs ht
    obtain ⟨u, hu, hsd⟩ := h.slotOf?_of_mem_disksOn hc hd
    obtain ⟨v, hv, hte⟩ := h.slotOf?_of_mem_disksOn hc he
    rw [hsd] at hs
    rw [hte] at ht
    cases hs
    cases ht
    rw [Disk.rankLE_iff, hu, hv] at hrank
    simp only [Option.getD_some, Option.isSome_some, Option.isNone_some, Bool.false_eq_true,
      and_false, false_or, true_and] at hrank
    rw [Slot.lt_def]
    simp only
    omega
  · -- of two buses the controllers are in order
    have hbuses : (controllersInRange bound devices).Pairwise fun c c' =>
        c.busNumber ≠ c'.busNumber := List.pairwise_map.1 h.buses
    refine List.Pairwise.imp_of_mem ?_ ((sortOn_pairwise Controller.rank _).and hbuses)
    intro c c' hc hc' hcc d hd e he s t hs ht
    obtain ⟨hrank, hne⟩ := hcc
    obtain ⟨u, -, hsd⟩ := h.slotOf?_of_mem_disksOn hc hd
    obtain ⟨v, -, hte⟩ := h.slotOf?_of_mem_disksOn hc' he
    rw [hsd] at hs
    rw [hte] at ht
    cases hs
    cases ht
    rw [Controller.rankLE_iff] at hrank
    rw [Slot.lt_def]
    simp only
    omega

/-- The slots in order are the slots of the disks in the order of slots, one for one. -/
theorem map_slotOf?_slotOrder : (slotOrder bound devices).map (slotOf? bound devices) =
    (slotsInOrder bound devices).map some := by
  unfold slotsInOrder
  rw [List.map_filterMap]
  conv => lhs; rw [← List.filterMap_eq_map]
  refine List.filterMap_congr fun d hd => ?_
  obtain ⟨slot, hslot⟩ := h.isSome_slotOf? hd
  rw [Function.comp_apply, hslot]
  rfl

/-- The slots in order go up. -/
theorem pairwise_slotsInOrder : (slotsInOrder bound devices).Pairwise (· < ·) := by
  have hnodup : ((slotOrder bound devices).map (slotOf? bound devices)).Nodup :=
    (h.perm_attachedDisks.map _).nodup_iff.2 h.slots
  unfold slotsInOrder
  rw [List.pairwise_filterMap]
  refine (h.pairwise_not_lt.and (List.pairwise_map.1 hnodup)).imp ?_
  intro d e hde s hs t ht
  obtain ⟨hnot, hne⟩ := hde
  refine Slot.lt_of_not_lt (hnot s t hs ht) fun hst => hne ?_
  rw [hs, ht, hst]

theorem mem_slotsInOrder {slot : Slot} :
    slot ∈ slotsInOrder bound devices ↔ slot ∈ occupiedSlots bound devices :=
  (h.perm_attachedDisks.filterMap _).mem_iff

theorem getElem?_slotsInOrder (i : Nat) : (slotsInOrder bound devices)[i]? =
    (slotOrder bound devices)[i]?.bind (slotOf? bound devices) := by
  have hi := congrArg (fun slots => slots[i]?) h.map_slotOf?_slotOrder
  simp only [List.getElem?_map] at hi
  cases hd : (slotOrder bound devices)[i]? with
  | none =>
    rw [hd] at hi
    exact Option.map_eq_none_iff.1 hi.symm
  | some d =>
    rw [hd] at hi
    obtain ⟨slot, hslot, hsome⟩ := Option.map_eq_some_iff.1 hi.symm
    rw [hslot, hsome]
    rfl

/-- A disk that sits in a slot stands at the position of the slot, and no other does. -/
theorem sitsIn_iff {d : Disk} {slot : Slot} : d.SitsIn bound devices slot ↔
    ∃ i : Nat, (slotOrder bound devices)[i]? = some d ∧
      (slotsInOrder bound devices)[i]? = some slot := by
  constructor
  · rintro ⟨hd, hslot⟩
    obtain ⟨i, hi⟩ := List.mem_iff_getElem?.1 (h.mem_slotOrder.2 hd)
    refine ⟨i, hi, ?_⟩
    rw [h.getElem?_slotsInOrder, hi]
    exact hslot
  · rintro ⟨i, hi, hslot⟩
    rw [h.getElem?_slotsInOrder, hi] at hslot
    exact ⟨h.mem_slotOrder.1 (List.mem_of_getElem? hi), hslot⟩

/-- Disks in one slot are the same. -/
theorem eq_of_sitsIn {d e : Disk} {slot : Slot} (hd : d.SitsIn bound devices slot)
    (he : e.SitsIn bound devices slot) : d = e :=
  List.inj_on_of_nodup_map h.slots hd.1 he.1 (hd.2.trans he.2.symm)

theorem eq_of_key_eq {d e : Disk} {slot slot' : Slot} (hd : d.SitsIn bound devices slot)
    (he : e.SitsIn bound devices slot') (hkey : d.key = e.key) : d = e :=
  List.inj_on_of_nodup_map h.diskKeys hd.1 he.1 hkey

end IsSlotted

/-! ## Two machines -/

/-- The slots of a machine that are the first of another come first in the order of both. -/
theorem isPrefix_slotsInOrder {bound : Int} {source final : List Device}
    (hsource : IsSlotted bound source) (hfinal : IsSlotted bound final)
    (h : IsInitialSegment (occupiedSlots bound source) (occupiedSlots bound final)) :
    slotsInOrder bound source <+: slotsInOrder bound final := by
  refine isPrefix_of_isInitialSegment hsource.pairwise_slotsInOrder
    hfinal.pairwise_slotsInOrder ⟨fun s hs => ?_, fun s hs t ht hts => ?_⟩
  · exact hfinal.mem_slotsInOrder.2 (h.1 s (hsource.mem_slotsInOrder.1 hs))
  · exact hsource.mem_slotsInOrder.2
      (h.2 s (hsource.mem_slotsInOrder.1 hs) t (hfinal.mem_slotsInOrder.1 ht) hts)

end PodPlacement
