import Mathlib
import PodPlacement.Proofs.SlotOrder

/-!
# The order of slots is a stable sort

A disk has a place: the bus and the key of the controller in range to which it is attached, its
unit, and its key, a unit that is missing being above all others.  Where the controllers in range
have keys of their own, the order of slots has the attached disks by place, and those of one place
as they are listed; and there is only one such order.

    (sortOn rank xs).filter p = xs.filter p
      where rank a = rank b if p a and p b                               (filter_sortOn)
    (slotOrder bound devices).filter p = (attachedDisks bound devices).filter p
      where d.triple = e.triple if p d and p e                           (filter_slotOrder)
    disks = slotOrder bound devices ↔ IsByPlace bound devices disks
                                                                 (slotOrder_is_stable_sort)
-/

namespace PodPlacement

/-! ## Stable sorting -/

section

variable {α κ : Type}

/-- Elements of one rank keep their order when they are sorted. -/
theorem filter_sortOn {rank : α → List Int} {p : α → Bool}
    (hp : ∀ a b, p a = true → p b = true → rank a = rank b) (xs : List α) :
    (sortOn rank xs).filter p = xs.filter p := by
  rw [← sortOn_filter]
  refine sortOn_eq_self rank (List.pairwise_of_forall_mem_list fun a ha b hb => ?_)
  rw [hp a b (List.mem_filter.1 ha).2 (List.mem_filter.1 hb).2]
  exact rankLE_iff_le.2 le_rfl

variable [LinearOrder κ]

/-- Lists that do not fall, and that have the same elements in the same order at each level, are
the same. -/
theorem eq_of_same_levels (f : α → κ) {xs ys : List α} (hxs : (xs.map f).Pairwise (· ≤ ·))
    (hys : (ys.map f).Pairwise (· ≤ ·))
    (h : ∀ a, xs.filter (fun b => f b = f a) = ys.filter fun b => f b = f a) : xs = ys := by
  induction xs generalizing ys with
  | nil =>
    cases ys with
    | nil => rfl
    | cons b ys =>
      have hb := h b
      rw [List.filter_cons_of_pos (by simp)] at hb
      cases hb
  | cons a xs ih =>
    cases ys with
    | nil =>
      have ha := h a
      rw [List.filter_cons_of_pos (by simp)] at ha
      cases ha
    | cons b ys =>
      rw [List.map_cons, List.pairwise_cons] at hxs hys
      -- each of the two first elements is somewhere in the other list, so neither is above
      have hmem : ∀ c, c ∈ a :: xs ↔ c ∈ b :: ys := by
        intro c
        have hc := congrArg (c ∈ ·) (h c)
        simpa using hc
      have hba : f b ≤ f a := by
        rcases List.mem_cons.1 ((hmem a).1 List.mem_cons_self) with rfl | ha
        · exact le_refl _
        · exact hys.1 _ (List.mem_map_of_mem ha)
      have hab : f a ≤ f b := by
        rcases List.mem_cons.1 ((hmem b).2 List.mem_cons_self) with rfl | hb
        · exact le_refl _
        · exact hxs.1 _ (List.mem_map_of_mem hb)
      have hlevel := h a
      rw [List.filter_cons_of_pos (by simp),
        List.filter_cons_of_pos (by simp [le_antisymm hba hab])] at hlevel
      obtain ⟨rfl, -⟩ := List.cons.inj hlevel
      refine congrArg (a :: ·) (ih hxs.2 hys.2 fun c => ?_)
      have hc := h c
      rw [List.filter_cons, List.filter_cons] at hc
      split at hc
      · exact (List.cons.inj hc).2
      · exact hc

end

/-- If all but one of some different things give nothing, they give what that one does. -/
theorem flatMap_of_nodup {κ β : Type} [DecidableEq κ] {f : κ → List β} {k : κ}
    (hf : ∀ k', k' ≠ k → f k' = []) {ks : List κ} (hks : ks.Nodup) :
    ks.flatMap f = if k ∈ ks then f k else [] := by
  induction ks with
  | nil => rfl
  | cons k' ks ih =>
    obtain ⟨hnot, hks'⟩ := List.nodup_cons.1 hks
    rw [List.flatMap_cons, ih hks']
    by_cases hk : k' = k
    · subst hk
      rw [if_neg hnot, if_pos List.mem_cons_self, List.append_nil]
    · rw [hf k' hk, List.nil_append]
      simp [Ne.symm hk]

/-! ## Places -/

def controllersOf (bound : Int) (devices : List Device) (d : Disk) : List Controller :=
  ((devices.filterMap Device.controller?).filter (Controller.inRange bound)).filter
    fun c => d.isOn c

def keysInRange (bound : Int) (devices : List Device) : List Int :=
  ((devices.filterMap Device.controller?).filter (Controller.inRange bound)).map Controller.key

/-- A number, or what is below all of them. -/
def orLowest : Option Int → WithBot Int
  | none => ⊥
  | some n => n

/-- A number, or what is above all of them. -/
def orHighest : Option Int → WithTop Int
  | none => ⊤
  | some n => n

theorem orLowest_injective : Function.Injective orLowest := by
  intro m n h
  cases m <;> cases n <;> simp_all [orLowest]

theorem orHighest_injective : Function.Injective orHighest := by
  intro m n h
  cases m <;> cases n <;> simp_all [orHighest]

/-- Places come by bus, then by controller, then by unit, and then by key. -/
abbrev Place : Type := Lex (WithBot Int × Lex (WithBot Int × Lex (WithTop Int × Int)))

/-- The place of a disk.  Its bus is that of the first controller in range to which it is
attached; a unit that is missing is above all others. -/
def Disk.place (bound : Int) (devices : List Device) (d : Disk) : Place :=
  toLex (orLowest ((controllersOf bound devices d).head?.map Controller.busNumber),
    toLex (orLowest d.controllerKey, toLex (orHighest d.unitNumber, d.key)))

/-- Whether disks are the attached disks of a machine by place, those of one place as they are
listed. -/
structure IsByPlace (bound : Int) (devices : List Device) (disks : List Disk) : Prop where
  perm : disks.Perm (attachedDisks bound devices)
  sorted : (disks.map (Disk.place bound devices)).Pairwise (· ≤ ·)
  stable : ∀ d : Disk,
    disks.filter (fun e => e.place bound devices = d.place bound devices) =
      (attachedDisks bound devices).filter fun e => e.place bound devices = d.place bound devices

/-- The attached disks of a machine have one order by place. -/
theorem IsByPlace.eq {bound : Int} {devices : List Device} {disks disks' : List Disk}
    (h : IsByPlace bound devices disks) (h' : IsByPlace bound devices disks') : disks = disks' :=
  eq_of_same_levels (Disk.place bound devices) h.sorted h'.sorted fun d =>
    (h.stable d).trans (h'.stable d).symm

theorem Disk.triple_eq_of_place_eq {bound : Int} {devices : List Device} {d e : Disk}
    (h : d.place bound devices = e.place bound devices) : d.triple = e.triple := by
  unfold Disk.place at h
  obtain ⟨-, h⟩ := Prod.mk.inj (toLex.injective h)
  obtain ⟨hcontroller, h⟩ := Prod.mk.inj (toLex.injective h)
  obtain ⟨hunit, hkey⟩ := Prod.mk.inj (toLex.injective h)
  exact Prod.ext (orLowest_injective hcontroller) (Prod.ext (orHighest_injective hunit) hkey)

/-- Disks come by rank as by unit and key. -/
theorem Disk.rankLE_iff_toLex_le {d e : Disk} : rankLE d.rank e.rank = true ↔
    toLex (orHighest d.unitNumber, d.key) ≤ toLex (orHighest e.unitNumber, e.key) := by
  rw [Disk.rankLE_iff, Prod.Lex.toLex_le_toLex]
  cases d.unitNumber <;> cases e.unitNumber <;> simp [orHighest]

/-! ## The order of slots by place -/

section

variable {bound : Int} {devices : List Device}

/-- A disk is attached to as many controllers in range as are listed for it. -/
theorem length_controllersOf (d : Disk) : (controllersOf bound devices d).length =
    (controllersInRange bound devices).countP fun c => d.isOn c := by
  unfold controllersOf
  rw [← List.countP_eq_length_filter]
  exact ((sortOn_perm Controller.rank _).countP_eq _).symm

theorem nodup_keysInRange : (keysInRange bound devices).Nodup ↔
    ((controllersInRange bound devices).map Controller.key).Nodup :=
  ((sortOn_perm Controller.rank _).map Controller.key).nodup_iff.symm

variable (hkeys : ((controllersInRange bound devices).map Controller.key).Nodup)

include hkeys

theorem place_of_mem_disksOn {c : Controller} (hc : c ∈ controllersInRange bound devices)
    {d : Disk} (hd : d ∈ disksOn devices c) : d.place bound devices =
      toLex ((c.busNumber : WithBot Int), toLex ((c.key : WithBot Int),
        toLex (orHighest d.unitNumber, d.key))) := by
  have hkey : d.controllerKey = some c.key := (mem_disksAt.1 hd).2
  have hmem : c ∈ controllersOf bound devices d := by
    refine List.mem_filter.2 ⟨(sortOn_perm Controller.rank _).mem_iff.1 hc, ?_⟩
    unfold Disk.isOn
    rw [hkey, beq_self_eq_true]
  have hone : (controllersOf bound devices d).length ≤ 1 := by
    rw [length_controllersOf]
    exact countP_isOn_le_one hkeys d
  have hlist : controllersOf bound devices d = [c] := by
    obtain ⟨c', hc'⟩ := List.length_eq_one_iff.1
      (Nat.le_antisymm hone (List.length_pos_of_mem hmem))
    rw [hc'] at hmem ⊢
    rw [List.mem_singleton.1 hmem]
  unfold Disk.place
  rw [hlist, hkey]
  rfl

/-- No disk in the order of slots is in a place above the place of one after it. -/
theorem slotOrder_sorted :
    ((slotOrder bound devices).map (Disk.place bound devices)).Pairwise (· ≤ ·) := by
  unfold slotOrder
  rw [List.pairwise_map, List.pairwise_flatMap]
  constructor
  · -- at one controller the ranks of the disks decide
    intro c hc
    refine List.Pairwise.imp_of_mem ?_ (sortOn_pairwise Disk.rank _)
    intro d e hd he hrank
    rw [place_of_mem_disksOn hkeys hc hd, place_of_mem_disksOn hkeys hc he,
      Prod.Lex.toLex_le_toLex, Prod.Lex.toLex_le_toLex]
    exact Or.inr ⟨rfl, Or.inr ⟨rfl, Disk.rankLE_iff_toLex_le.1 hrank⟩⟩
  · -- of two controllers the ranks differ, so the disks are not looked at
    refine List.Pairwise.imp_of_mem ?_
      ((sortOn_pairwise Controller.rank _).and (List.pairwise_map.1 hkeys))
    intro c c' hc hc' hcc d hd e he
    obtain ⟨hrank, hne⟩ := hcc
    rw [place_of_mem_disksOn hkeys hc hd, place_of_mem_disksOn hkeys hc' he,
      Prod.Lex.toLex_le_toLex, Prod.Lex.toLex_le_toLex, WithBot.coe_lt_coe, WithBot.coe_lt_coe,
      WithBot.coe_inj]
    rcases Controller.rankLE_iff.1 hrank with hbus | ⟨hbus, hkey⟩
    · exact Or.inl hbus
    · exact Or.inr ⟨hbus, Or.inl (lt_of_le_of_ne hkey hne)⟩

/-- Attached disks of one controller, unit and key come as they are listed. -/
theorem filter_slotOrder {p : Disk → Bool}
    (hp : ∀ d e, p d = true → p e = true → d.triple = e.triple) :
    (slotOrder bound devices).filter p = (attachedDisks bound devices).filter p := by
  have hperm := (slotOrder_perm_attachedDisks hkeys).filter p
  by_cases hnone : (attachedDisks bound devices).filter p = []
  · rw [hnone] at hperm ⊢
    exact hperm.eq_nil
  · -- all that are looked at name the controller that one of them names
    obtain ⟨d, hd⟩ := List.exists_mem_of_ne_nil _ hnone
    obtain ⟨hattached, hpd⟩ := List.mem_filter.1 hd
    obtain ⟨c, hc, hon⟩ := List.any_eq_true.1 (List.mem_filter.1 hattached).2
    have hkey : ∀ e, p e = true → e.controllerKey = some c.key := by
      intro e hpe
      have htriple : e.controllerKey = d.controllerKey := congrArg Prod.fst (hp e d hpe hpd)
      unfold Disk.isOn at hon
      rw [htriple, beq_iff_eq.1 hon]
    have hother : ∀ key, key ≠ c.key → (disksAt devices key).filter p = [] := by
      intro key hne
      refine List.filter_eq_nil_iff.2 fun e he hpe => hne ?_
      exact Option.some.inj ((mem_disksAt.1 he).2.symm.trans (hkey e hpe))
    have hrank : ∀ e e', p e = true → p e' = true → e.rank = e'.rank := by
      intro e e' he he'
      have htriple := hp e e' he he'
      unfold Disk.rank
      rw [show e.unitNumber = e'.unitNumber from congrArg (fun t => t.2.1) htriple,
        show e.key = e'.key from congrArg (fun t => t.2.2) htriple]
    rw [slotOrder_eq_flatMap_disksAt, List.filter_flatMap, flatMap_of_nodup hother hkeys,
      if_pos (List.mem_map_of_mem hc)]
    unfold disksAt attachedDisks
    rw [filter_sortOn hrank, List.filter_filter, List.filter_filter]
    refine List.filter_congr fun e _ => ?_
    cases hpe : p e with
    | false => rfl
    | true =>
      have he : e.isAttached bound devices = true :=
        List.any_eq_true.2 ⟨c, hc, beq_iff_eq.2 (hkey e hpe)⟩
      rw [he, hkey e hpe, beq_self_eq_true]

/-- The order of slots has the attached disks by place. -/
theorem isByPlace_slotOrder : IsByPlace bound devices (slotOrder bound devices) where
  perm := slotOrder_perm_attachedDisks hkeys
  sorted := slotOrder_sorted hkeys
  stable := fun _ => filter_slotOrder hkeys fun _ _ hd he =>
    Disk.triple_eq_of_place_eq ((of_decide_eq_true hd).trans (of_decide_eq_true he).symm)

end

/-- The order of slots has disks of the machine, each once for each controller in range to which
it is attached.  If the controllers in range have keys of their own, it is the one order of the
attached disks by place that keeps those of one place as they are listed. -/
theorem slotOrder_is_stable_sort (bound : Int) (devices : List Device) :
    (∀ d ∈ slotOrder bound devices, Device.disk d ∈ devices) ∧
    (∀ d : Disk, (slotOrder bound devices).count d =
      (controllersOf bound devices d).length * (devices.filterMap Device.disk?).count d) ∧
    (∀ d : Disk, d.controllerKey = none → controllersOf bound devices d = []) ∧
    ((keysInRange bound devices).Nodup →
      (∀ d : Disk, (controllersOf bound devices d).length ≤ 1) ∧
      ∀ disks, disks = slotOrder bound devices ↔ IsByPlace bound devices disks) := by
  refine ⟨fun d hd => mem_of_mem_slotOrder hd, fun d => ?_, fun d hnone => ?_, fun hkeys => ?_⟩
  · rw [length_controllersOf, count_slotOrder]
  · refine List.filter_eq_nil_iff.2 fun c _ hon => ?_
    unfold Disk.isOn at hon
    rw [hnone] at hon
    cases hon
  · have hkeys := nodup_keysInRange.1 hkeys
    refine ⟨fun d => ?_, fun disks => ⟨?_, fun h => h.eq (isByPlace_slotOrder hkeys)⟩⟩
    · rw [length_controllersOf]
      exact countP_isOn_le_one hkeys d
    · rintro rfl
      exact isByPlace_slotOrder hkeys

/-- A device list with two controllers on a bus and two that are out of range, that has disks of
one place, disks without a unit and disks without a controller. -/
def cluttered : List Device :=
  [.other ⟨100, none, none, some "PCI controller 0"⟩,
   .disk ⟨2000, some 1001, none, some "no unit", 8, .unspecified⟩,
   .disk ⟨2001, some 1001, some 5, some "unit 5", 8, .unspecified⟩,
   .disk ⟨2007, some 1000, some 0, some "second bus", 8, .unspecified⟩,
   .controller ⟨1001, 0, some 100, none, none⟩,
   .controller ⟨1000, 1, some 100, none, none⟩,
   .controller ⟨990, 0, some 100, none, none⟩,
   .controller ⟨1002, 2, some 100, none, none⟩,
   .controller ⟨1003, -1, some 100, none, none⟩,
   .disk ⟨2002, some 1001, some (-3), some "listed first", 8, .unspecified⟩,
   .disk ⟨2002, some 1001, some (-3), some "listed last", 16, .unspecified⟩,
   .disk ⟨1999, some 1001, none, some "no unit, lower key", 8, .unspecified⟩,
   .disk ⟨2003, some 1002, some 0, some "above the range", 8, .unspecified⟩,
   .disk ⟨2004, some 1003, some 0, some "below the range", 8, .unspecified⟩,
   .disk ⟨2005, none, some 0, some "no controller", 8, .unspecified⟩,
   .disk ⟨2006, some 990, some 40, some "lower controller", 8, .unspecified⟩]

theorem cluttered_is_sorted : (keysInRange 2 cluttered).Nodup ∧
    (slotOrder 2 cluttered).map Disk.label =
      ([some "lower controller", some "listed first", some "listed last", some "unit 5",
        some "no unit, lower key", some "no unit", some "second bus"] : List (Option Text)) ∧
    ∀ disks, disks = slotOrder 2 cluttered ↔ IsByPlace 2 cluttered disks :=
  ⟨by decide, by decide, ((slotOrder_is_stable_sort 2 cluttered).2.2.2 (by decide)).2⟩

end PodPlacement
