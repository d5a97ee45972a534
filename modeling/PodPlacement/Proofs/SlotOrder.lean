import Mathlib.Data.List.Forall2
import Mathlib.Data.List.Lex
import Mathlib.Data.List.Nodup
import Mathlib.Data.List.Sort
import PodPlacement.SlotOrder

/-!
# The order of slots does not show the order of listing

Elements that rank alike keep their order when they are sorted, so what a sort gives depends on
the order in which elements are listed.  A function of the rank does not see it: of two lists
with the same elements it sees the same sorted.  For the disks of a machine this is any
function of the controller, the unit and the key of a disk.

    rankLE r s = true ↔ r ≤ s                                                     (rankLE_iff_le)
    sortOn rank xs = xs.insertionSort fun a b => rankLE (rank a) (rank b)
                                                                      (sortOn_eq_insertionSort)
    xs.Perm ys → (sortOn rank xs).map g = (sortOn rank ys).map g
      where g a = g b if rank a = rank b                                  (map_sortOn_of_perm)
    sortOn rank (xs.filter p) = (sortOn rank xs).filter p                       (sortOn_filter)
    devices.Perm devices' →
      (slotOrder bound devices).map g = (slotOrder bound devices').map g
      where g d = g e if d.triple = e.triple                           (map_slotOrder_of_perm)
-/

namespace PodPlacement

/-! ## Sorting by rank -/

/-- Ranks are in the order of lists, in which the first number that differs decides. -/
theorem rankLE_iff_le {r s : List Int} : rankLE r s = true ↔ r ≤ s := by
  rw [← not_lt]
  induction r generalizing s with
  | nil => exact iff_of_true rfl (List.not_lt_nil s)
  | cons a as ih =>
    cases s with
    | nil => exact iff_of_false Bool.false_ne_true (not_not_intro (List.nil_lt_cons a as))
    | cons b bs =>
      rw [List.cons_lt_cons_iff, rankLE, Bool.or_eq_true, Bool.and_eq_true, decide_eq_true_eq,
        beq_iff_eq, ih]
      rcases lt_trichotomy a b with hlt | rfl | hgt
      · simp [hlt, hlt.not_gt, hlt.ne']
      · simp
      · simp [hgt, hgt.not_gt, hgt.ne']

section

variable {α : Type} (rank : α → List Int)

theorem insertOn_eq_orderedInsert (a : α) (xs : List α) :
    insertOn rank a xs = xs.orderedInsert (fun a b => rankLE (rank a) (rank b)) a := by
  induction xs with
  | nil => rfl
  | cons b xs ih => rw [insertOn, List.orderedInsert_cons, ih]

/-- The elements by rank are those that an insertion sort gives. -/
theorem sortOn_eq_insertionSort (xs : List α) :
    sortOn rank xs = xs.insertionSort fun a b => rankLE (rank a) (rank b) := by
  induction xs with
  | nil => rfl
  | cons a xs ih =>
    rw [List.insertionSort_cons, ← ih, ← insertOn_eq_orderedInsert]
    rfl

theorem sortOn_perm (xs : List α) : (sortOn rank xs).Perm xs := by
  rw [sortOn_eq_insertionSort]
  exact List.perm_insertionSort _ xs

theorem sortOn_pairwise (xs : List α) :
    (sortOn rank xs).Pairwise fun a b => rankLE (rank a) (rank b) := by
  rw [sortOn_eq_insertionSort]
  have htotal : Std.Total fun a b : α => rankLE (rank a) (rank b) = true :=
    ⟨fun a b => by simpa only [rankLE_iff_le] using le_total (rank a) (rank b)⟩
  have htrans : IsTrans α fun a b => rankLE (rank a) (rank b) = true :=
    ⟨fun a b c => by simpa only [rankLE_iff_le] using le_trans⟩
  exact List.pairwise_insertionSort _ xs

/-- A list that does not fall in rank is sorted as it is. -/
theorem sortOn_eq_self {xs : List α} (h : xs.Pairwise fun a b => rankLE (rank a) (rank b)) :
    sortOn rank xs = xs := by
  rw [sortOn_eq_insertionSort]
  exact h.insertionSort_eq

end

/-! ## Sorting the same elements -/

section

variable {α β : Type}

/-- The ranks of the same elements, sorted, are the same. -/
theorem map_rank_sortOn_of_perm (rank : α → List Int) {xs ys : List α} (h : xs.Perm ys) :
    (sortOn rank xs).map rank = (sortOn rank ys).map rank := by
  have hperm : (sortOn rank xs).Perm (sortOn rank ys) :=
    (sortOn_perm rank xs).trans (h.trans (sortOn_perm rank ys).symm)
  have hsorted : ∀ xs : List α, ((sortOn rank xs).map rank).Pairwise (· ≤ ·) := fun xs =>
    List.pairwise_map.2 ((sortOn_pairwise rank xs).imp rankLE_iff_le.1)
  exact List.Perm.eq_of_pairwise' (hsorted xs) (hsorted ys) (hperm.map rank)

/-- A function of the rank sees the same of the same elements, sorted. -/
theorem map_sortOn_of_perm {rank : α → List Int} {g : α → β}
    (hg : ∀ a b, rank a = rank b → g a = g b) {xs ys : List α} (h : xs.Perm ys) :
    (sortOn rank xs).map g = (sortOn rank ys).map g := by
  have hrank := map_rank_sortOn_of_perm rank h
  rw [← List.forall₂_eq_eq_eq, List.forall₂_map_left_iff, List.forall₂_map_right_iff]
    at hrank ⊢
  exact hrank.imp hg

/-- Lists that look the same through a function, which tells their elements apart, are the
same. -/
theorem eq_of_map_eq {f : α → β} {xs ys : List α}
    (hinj : ∀ a ∈ xs, ∀ b ∈ ys, f a = f b → a = b) (h : xs.map f = ys.map f) : xs = ys := by
  rw [← List.forall₂_eq_eq_eq, List.forall₂_map_left_iff, List.forall₂_map_right_iff] at h
  induction h with
  | nil => rfl
  | @cons a b xs ys hab _ ih =>
    have ha : a = b := hinj a List.mem_cons_self b List.mem_cons_self hab
    rw [ha, ih fun c hc d hd => hinj c (List.mem_cons_of_mem a hc) d (List.mem_cons_of_mem b hd)]

end

/-! ## Sorting some of the elements -/

section

variable {α : Type}

/-- An element that is looked at is put among those that are, as among all. -/
theorem filter_insertOn_of_pos {rank : α → List Int} {p : α → Bool} {a : α} (ha : p a = true)
    {xs : List α} (hxs : xs.Pairwise fun a b => rankLE (rank a) (rank b)) :
    (insertOn rank a xs).filter p = insertOn rank a (xs.filter p) := by
  induction xs with
  | nil => exact List.filter_cons_of_pos ha
  | cons b xs ih =>
    obtain ⟨hb, hxs'⟩ := List.pairwise_cons.1 hxs
    conv => lhs; unfold insertOn
    split
    · next hab =>
      -- all that follow rank above `b`, so the first that is looked at ranks above `a` too
      rw [List.filter_cons_of_pos ha]
      cases hfirst : (b :: xs).filter p with
      | nil => rfl
      | cons c cs =>
        have hc : c ∈ b :: xs := (List.mem_filter.1 (hfirst ▸ List.mem_cons_self)).1
        have hac : rankLE (rank a) (rank c) = true := by
          rcases List.mem_cons.1 hc with rfl | hc
          · exact hab
          · exact rankLE_iff_le.2 ((rankLE_iff_le.1 hab).trans (rankLE_iff_le.1 (hb c hc)))
        exact (if_pos hac).symm
    · next hab =>
      rw [List.filter_cons, ih hxs', List.filter_cons]
      split
      · exact (if_neg hab).symm
      · rfl

/-- An element that is not looked at is not seen. -/
theorem filter_insertOn_of_neg {rank : α → List Int} {p : α → Bool} {a : α}
    (ha : ¬p a = true) (xs : List α) : (insertOn rank a xs).filter p = xs.filter p := by
  induction xs with
  | nil => exact List.filter_cons_of_neg ha
  | cons b xs ih =>
    unfold insertOn
    split
    · exact List.filter_cons_of_neg ha
    · rw [List.filter_cons, ih, List.filter_cons]

/-- To sort some of the elements is to look at them among all, sorted. -/
theorem sortOn_filter (rank : α → List Int) (p : α → Bool) (xs : List α) :
    sortOn rank (xs.filter p) = (sortOn rank xs).filter p := by
  induction xs with
  | nil => rfl
  | cons a xs ih =>
    show _ = (insertOn rank a (sortOn rank xs)).filter p
    by_cases ha : p a = true
    · rw [List.filter_cons_of_pos ha, filter_insertOn_of_pos ha (sortOn_pairwise rank xs), ← ih]
      rfl
    · rw [List.filter_cons_of_neg ha, filter_insertOn_of_neg ha, ih]

end

/-! ## Controllers and disks -/

/-- Of two ranks the first numbers decide, or the rest if they are the same. -/
theorem rankLE_cons_iff {a b : Int} {as bs : List Int} :
    rankLE (a :: as) (b :: bs) = true ↔ a < b ∨ a = b ∧ rankLE as bs = true := by
  rw [rankLE, Bool.or_eq_true, Bool.and_eq_true, decide_eq_true_eq, beq_iff_eq]

theorem rankLE_singleton_iff {a b : Int} : rankLE [a] [b] = true ↔ a ≤ b := by
  rw [rankLE_cons_iff, Int.le_iff_lt_or_eq]
  exact or_congr_right (and_iff_left rfl)

/-- Controllers come by bus, then by key. -/
theorem Controller.rankLE_iff {c c' : Controller} : rankLE c.rank c'.rank = true ↔
    c.busNumber < c'.busNumber ∨ c.busNumber = c'.busNumber ∧ c.key ≤ c'.key := by
  unfold Controller.rank
  rw [rankLE_cons_iff, rankLE_singleton_iff]

/-- Disks come by whether they have a unit, then by unit, then by key. -/
theorem Disk.rankLE_iff {d e : Disk} : rankLE d.rank e.rank = true ↔
    (d.unitNumber.isSome ∧ e.unitNumber.isNone) ∨
      d.unitNumber.isSome = e.unitNumber.isSome ∧
        (d.unitNumber.getD 0 < e.unitNumber.getD 0 ∨
          d.unitNumber.getD 0 = e.unitNumber.getD 0 ∧ d.key ≤ e.key) := by
  unfold Disk.rank
  rw [rankLE_cons_iff, rankLE_cons_iff, rankLE_singleton_iff]
  cases d.unitNumber <;> cases e.unitNumber <;> simp

/-- What is looked at of a disk: its controller, its unit and its key. -/
def Disk.triple (d : Disk) : Option Int × Option Int × Int :=
  (d.controllerKey, d.unitNumber, d.key)

theorem Disk.eq_of_rank_eq {d e : Disk} (h : d.rank = e.rank) :
    d.unitNumber = e.unitNumber ∧ d.key = e.key := by
  unfold Disk.rank at h
  simp only [List.cons.injEq, and_true] at h
  obtain ⟨hnone, hunit, hkey⟩ := h
  refine ⟨?_, hkey⟩
  cases hd : d.unitNumber with
  | none =>
    cases he : e.unitNumber with
    | none => rfl
    | some v =>
      rw [hd, he] at hnone
      cases hnone
  | some u =>
    cases he : e.unitNumber with
    | none =>
      rw [hd, he] at hnone
      cases hnone
    | some v =>
      rw [hd, he] at hunit
      exact congrArg some hunit

/-- The disks of a controller of a key, by rank. -/
def disksAt (devices : List Device) (key : Int) : List Disk :=
  sortOn Disk.rank ((devices.filterMap Device.disk?).filter fun d => d.controllerKey == some key)

theorem slotOrder_eq_flatMap_disksAt (bound : Int) (devices : List Device) :
    slotOrder bound devices =
      ((controllersInRange bound devices).map Controller.key).flatMap (disksAt devices) := by
  rw [List.flatMap_map]
  rfl

theorem mem_disksAt {devices : List Device} {key : Int} {d : Disk} :
    d ∈ disksAt devices key ↔ .disk d ∈ devices ∧ d.controllerKey = some key := by
  unfold disksAt
  rw [(sortOn_perm _ _).mem_iff, List.mem_filter, List.mem_filterMap, beq_iff_eq]
  constructor
  · rintro ⟨⟨device, hdevice, hd⟩, hkey⟩
    cases device with
    | disk e =>
      cases hd
      exact ⟨hdevice, hkey⟩
    | controller _ | other _ => cases hd
  · rintro ⟨hd, hkey⟩
    exact ⟨⟨.disk d, hd, rfl⟩, hkey⟩

section

variable {β : Type} {g : Disk → β} (hg : ∀ d e, d.triple = e.triple → g d = g e)
  {devices devices' : List Device} (h : devices.Perm devices')

include h

theorem map_key_controllersInRange_of_perm (bound : Int) :
    (controllersInRange bound devices).map Controller.key =
      (controllersInRange bound devices').map Controller.key := by
  refine map_sortOn_of_perm (fun c e hrank => ?_) ((h.filterMap _).filter _)
  unfold Controller.rank at hrank
  simp only [List.cons.injEq, and_true] at hrank
  exact hrank.2

include hg

theorem map_disksAt_of_perm (key : Int) :
    (disksAt devices key).map g = (disksAt devices' key).map g := by
  -- all disks of one controller name it, so there the rank alone decides
  have hmap : ∀ devices : List Device, (disksAt devices key).map g =
      (disksAt devices key).map fun d => g { d with controllerKey := some key } := by
    intro devices
    refine List.map_congr_left fun d hd => ?_
    rw [← (mem_disksAt.1 hd).2]
  rw [hmap devices, hmap devices']
  refine map_sortOn_of_perm (fun d e hrank => hg _ _ ?_) ((h.filterMap _).filter _)
  obtain ⟨hunit, hkey⟩ := Disk.eq_of_rank_eq hrank
  unfold Disk.triple
  rw [hunit, hkey]

/-- What is looked at of the disks in the order of their slots does not depend on the order in
which the devices are listed. -/
theorem map_slotOrder_of_perm (bound : Int) :
    (slotOrder bound devices).map g = (slotOrder bound devices').map g := by
  rw [slotOrder_eq_flatMap_disksAt, slotOrder_eq_flatMap_disksAt, List.map_flatMap,
    List.map_flatMap, map_key_controllersInRange_of_perm h bound,
    funext fun key => map_disksAt_of_perm hg h key]

end

theorem mem_of_mem_slotOrder {bound : Int} {devices : List Device} {d : Disk}
    (h : d ∈ slotOrder bound devices) : .disk d ∈ devices := by
  rw [slotOrder_eq_flatMap_disksAt] at h
  obtain ⟨key, -, hd⟩ := List.mem_flatMap.1 h
  exact (mem_disksAt.1 hd).1

/-- Disks with keys of their own have one order of slots. -/
theorem slotOrder_of_perm {devices devices' : List Device} (h : devices.Perm devices')
    (hkeys : ((devices.filterMap Device.disk?).map Disk.key).Nodup) (bound : Int) :
    slotOrder bound devices = slotOrder bound devices' := by
  have hkey : ∀ d e : Disk, d.triple = e.triple → d.key = e.key :=
    fun d e htriple => congrArg (fun t => t.2.2) htriple
  refine eq_of_map_eq (fun d hd e he => ?_) (map_slotOrder_of_perm hkey h bound)
  refine List.inj_on_of_nodup_map hkeys (List.mem_filterMap.2 ?_) (List.mem_filterMap.2 ?_)
  · exact ⟨.disk d, mem_of_mem_slotOrder hd, rfl⟩
  · exact ⟨.disk e, h.mem_iff.2 (mem_of_mem_slotOrder he), rfl⟩

/-! ## What is in the order of slots -/

/-- Whether a disk is attached to a controller in range. -/
def Disk.isAttached (bound : Int) (devices : List Device) (d : Disk) : Bool :=
  (controllersInRange bound devices).any fun c => d.isOn c

/-- The disks of a machine that are attached to controllers in range, as they are listed. -/
def attachedDisks (bound : Int) (devices : List Device) : List Disk :=
  (devices.filterMap Device.disk?).filter (Disk.isAttached bound devices)

/-- A disk is in the order of slots as often as among the devices, once for each controller in
range to which it is attached. -/
theorem count_slotOrder (bound : Int) (devices : List Device) (d : Disk) :
    (slotOrder bound devices).count d =
      (controllersInRange bound devices).countP (fun c => d.isOn c) *
        (devices.filterMap Device.disk?).count d := by
  unfold slotOrder
  induction controllersInRange bound devices with
  | nil => exact (Nat.zero_mul _).symm
  | cons c controllers ih =>
    have hcount : (disksOn devices c).count d =
        if d.isOn c then (devices.filterMap Device.disk?).count d else 0 := by
      unfold disksOn
      rw [(sortOn_perm _ _).count_eq]
      by_cases hon : d.isOn c = true
      · rw [if_pos hon, List.count_filter hon]
      · rw [if_neg hon, List.count_eq_zero]
        intro hd
        exact hon (List.mem_filter.1 hd).2
    rw [List.flatMap_cons, List.count_append, ih, hcount, List.countP_cons, Nat.add_mul]
    by_cases hon : d.isOn c = true
    · rw [if_pos hon, if_pos hon, Nat.one_mul, Nat.add_comm]
    · rw [if_neg hon, if_neg hon, Nat.zero_mul, Nat.zero_add, Nat.add_zero]

/-- Of controllers with keys of their own a disk is attached to one at most. -/
theorem countP_isOn_le_one {controllers : List Controller}
    (hkeys : (controllers.map Controller.key).Nodup) (d : Disk) :
    controllers.countP (fun c => d.isOn c) ≤ 1 := by
  cases hk : d.controllerKey with
  | none =>
    rw [List.countP_eq_zero.2]
    · exact Nat.zero_le 1
    · intro c _ hon
      unfold Disk.isOn at hon
      rw [hk] at hon
      cases hon
  | some key =>
    have hcount : controllers.countP (fun c => d.isOn c) =
        (controllers.map Controller.key).count key := by
      unfold List.count
      rw [List.countP_map]
      congr 1
      funext c
      unfold Disk.isOn
      rw [hk, Bool.eq_iff_iff]
      simp only [Function.comp_apply, beq_iff_eq, Option.some.injEq]
      exact eq_comm
    rw [hcount]
    exact List.nodup_iff_count_le_one.1 hkeys key

/-- If the controllers in range have keys of their own, the order of slots has each attached
disk once. -/
theorem slotOrder_perm_attachedDisks {bound : Int} {devices : List Device}
    (hkeys : ((controllersInRange bound devices).map Controller.key).Nodup) :
    (slotOrder bound devices).Perm (attachedDisks bound devices) := by
  rw [List.perm_iff_count]
  intro d
  rw [count_slotOrder]
  unfold attachedDisks
  by_cases hd : d.isAttached bound devices = true
  · have hpos : 0 < (controllersInRange bound devices).countP (fun c => d.isOn c) := by
      rw [List.countP_pos_iff]
      exact List.any_eq_true.1 hd
    have hle := countP_isOn_le_one hkeys d
    have hone : (controllersInRange bound devices).countP (fun c => d.isOn c) = 1 := by omega
    rw [hone, Nat.one_mul, List.count_filter hd]
  · have hzero : (controllersInRange bound devices).countP (fun c => d.isOn c) = 0 := by
      rw [List.countP_eq_zero]
      intro c hc hon
      exact hd (List.any_eq_true.2 ⟨c, hc, hon⟩)
    rw [hzero, Nat.zero_mul, eq_comm, List.count_eq_zero]
    intro hmem
    exact hd (List.mem_filter.1 hmem).2

end PodPlacement
