import Mathlib.Data.List.Flatten
import Mathlib.Data.List.Infix
import PodPlacement.Proofs.CloneProjection
import PodPlacement.Proofs.SlotOrder

/-!
# A larger bound

The bound says on how many buses controllers are looked for.  If it is larger, the controllers
that are found come after those that were found before, for controllers come by bus; so all that
is found before stays where it is, and the order of slots goes on after it.  What a placement of
a clone sends under a bound it sends under a larger one as well, and only disks that were passed
over, or not seen, can be sent besides.

    m ≤ n → controllersInRange m devices <+: controllersInRange n devices
                                                              (controllersInRange_isPrefix)
    m ≤ n → slotOrder m devices <+: slotOrder n devices              (slotOrder_isPrefix)
    sources <+: sources' → finals <+: finals' →
      ((s.plan sources finals r).filter Step.acts).Sublist (s.plan sources' finals' r)
                                                                         (acts_plan_sublist)
-/

namespace PodPlacement

/-! ## The front of a list -/

section

variable {α β : Type}

/-- If no element that is looked at comes after one that is not, those that are come first. -/
theorem filter_isPrefix {p : α → Bool} {xs : List α}
    (hxs : xs.Pairwise fun a b => p b = true → p a = true) : xs.filter p <+: xs := by
  induction xs with
  | nil => exact List.nil_prefix
  | cons a xs ih =>
    obtain ⟨ha, hxs'⟩ := List.pairwise_cons.1 hxs
    by_cases hp : p a = true
    · rw [List.filter_cons_of_pos hp]
      exact List.cons_prefix_cons.2 ⟨rfl, ih hxs'⟩
    · have hnone : xs.filter p = [] := List.filter_eq_nil_iff.2 fun b hb hpb => hp (ha b hb hpb)
      rw [List.filter_cons_of_neg hp, hnone]
      exact List.nil_prefix

theorem zip_isPrefix {xs xs' : List α} {ys ys' : List β} (hxs : xs <+: xs') (hys : ys <+: ys') :
    xs.zip ys <+: xs'.zip ys' := by
  induction xs generalizing xs' ys ys' with
  | nil => exact List.nil_prefix
  | cons x xs ih =>
    cases ys with
    | nil => exact List.nil_prefix
    | cons y ys =>
      obtain ⟨more, rfl⟩ := hxs
      obtain ⟨more', rfl⟩ := hys
      exact List.cons_prefix_cons.2 ⟨rfl, ih (List.prefix_append _ _) (List.prefix_append _ _)⟩

end

/-! ## More controllers -/

section

variable {m n : Int} (hle : m ≤ n) (devices : List Device)

include hle

/-- The controllers in range are, among those of a larger range, those that are in range. -/
theorem controllersInRange_eq_filter :
    controllersInRange m devices =
      (controllersInRange n devices).filter (Controller.inRange m) := by
  unfold controllersInRange
  rw [← sortOn_filter, List.filter_filter]
  congr 1
  refine List.filter_congr fun c _ => ?_
  unfold Controller.inRange
  rw [Bool.eq_iff_iff, Bool.and_eq_true, decide_eq_true_eq, decide_eq_true_eq]
  omega

/-- The controllers of a larger range come after those in range. -/
theorem controllersInRange_isPrefix :
    controllersInRange m devices <+: controllersInRange n devices := by
  rw [controllersInRange_eq_filter hle]
  refine filter_isPrefix (List.Pairwise.imp_of_mem ?_ (sortOn_pairwise Controller.rank _))
  intro c c' hc _ hrank hc'
  -- no bus is below 0 here, so a controller on a lower bus is in range as well
  have hzero : c.inRange n = true :=
    (List.mem_filter.1 ((sortOn_perm Controller.rank _).mem_iff.1 hc)).2
  rw [Controller.rankLE_iff] at hrank
  unfold Controller.inRange at hzero hc' ⊢
  rw [decide_eq_true_eq] at hzero hc' ⊢
  omega

/-- The order of slots goes on where it ends under a smaller bound. -/
theorem slotOrder_isPrefix : slotOrder m devices <+: slotOrder n devices :=
  (controllersInRange_isPrefix hle devices).flatMap (disksOn devices)

end

/-! ## More disks -/

/-- Whether a step does more than to pass a disk over. -/
def Step.acts : Step → Bool
  | .files _ | .location _ | .disk _ _ _ => true
  | .skip _ => false

namespace CloneSpec

variable (s : CloneSpec) {sources sources' finals finals' : List Disk}

/-- Where the source has more disks, the same is sent for a final disk at a position, and a disk
that was passed over may be sent. -/
theorem acts_stepsAt_sublist (hsources : sources <+: sources') (p : DiskPlacement)
    (x : Disk × Nat) : ((s.stepsAt sources p x).filter Step.acts).Sublist
      (s.stepsAt sources' p x) := by
  unfold stepsAt
  split
  · cases hs : sources[x.2]? with
    | none => exact List.nil_sublist _
    | some source =>
      obtain ⟨more, rfl⟩ := hsources
      rw [List.getElem?_append_left (List.getElem?_eq_some_iff.1 hs).1, hs]
      exact List.filter_sublist
  · exact List.nil_sublist _

theorem acts_stepsForPlacement_sublist (hsources : sources <+: sources')
    (hfinals : finals <+: finals') (p : DiskPlacement) :
    ((s.stepsForPlacement sources finals p).filter Step.acts).Sublist
      (s.stepsForPlacement sources' finals' p) := by
  rw [stepsForPlacement_eq, stepsForPlacement_eq, List.filter_flatMap]
  obtain ⟨more, rfl⟩ := hfinals
  rw [List.zipIdx_append, List.flatMap_append]
  refine List.sublist_append_of_sublist_left ?_
  exact List.Sublist.flatMap_right _ fun x _ => s.acts_stepsAt_sublist hsources p x

/-- What is done for a recommendation is done, and in the same order, where both machines have
more disks after theirs. -/
theorem acts_plan_sublist (hsources : sources <+: sources') (hfinals : finals <+: finals')
    (r : Recommendation) : ((s.plan sources finals r).filter Step.acts).Sublist
      (s.plan sources' finals' r) := by
  unfold plan
  rw [List.filter_flatMap]
  refine List.Sublist.flatMap_right _ fun action _ => ?_
  cases action with
  | machine p => exact List.Sublist.refl _
  | disks ps =>
    show ((ps.toList.flatMap _).filter Step.acts).Sublist (ps.toList.flatMap _)
    rw [List.filter_flatMap]
    exact List.Sublist.flatMap_right _ fun p _ =>
      s.acts_stepsForPlacement_sublist hsources hfinals p

end CloneSpec

/-- A placement that hits a locator hits it where both machines have more disks after theirs. -/
theorem DiskPlacement.Hits.mono {sources sources' finals finals' : List Disk} {p : DiskPlacement}
    {l : DiskLocator} (h : p.Hits sources finals l) (hsources : sources <+: sources')
    (hfinals : finals <+: finals') : p.Hits sources' finals' l := by
  obtain ⟨i, source, final, hs, hf, hp, hl⟩ := h
  obtain ⟨more, rfl⟩ := hsources
  obtain ⟨more', rfl⟩ := hfinals
  refine ⟨i, source, final, ?_, ?_, hp, hl⟩
  · rw [List.getElem?_append_left (List.getElem?_eq_some_iff.1 hs).1, hs]
  · rw [List.getElem?_append_left (List.getElem?_eq_some_iff.1 hf).1, hf]

/-! ## The same at the front -/

/-- **A larger bound moves no disk.**  The order of slots under a bound is the front of the order
under a larger one, whatever the devices are.  So the disks of a source and of a final
configuration that are matched are matched as before, position by position; a placement hits the
locators that it hit, and all that is done to a clone for a recommendation is done, in the same
order. -/
theorem larger_bound_extends {m n : Int} (hle : m ≤ n) :
    (∀ devices : List Device, slotOrder m devices <+: slotOrder n devices) ∧
    ∀ source final : List Device,
      (slotOrder m source).zip (slotOrder m final) <+:
        (slotOrder n source).zip (slotOrder n final) ∧
      (∀ (p : DiskPlacement) (l : DiskLocator), p.Hits (slotOrder m source) (slotOrder m final) l →
        p.Hits (slotOrder n source) (slotOrder n final) l) ∧
      ∀ (s : CloneSpec) (r : Recommendation),
        ((s.plan (slotOrder m source) (slotOrder m final) r).filter Step.acts).Sublist
          (s.plan (slotOrder n source) (slotOrder n final) r) := by
  refine ⟨slotOrder_isPrefix hle, fun source final => ?_⟩
  have hsource := slotOrder_isPrefix hle source
  have hfinal := slotOrder_isPrefix hle final
  exact ⟨zip_isPrefix hsource hfinal, fun p l h => h.mono hsource hfinal,
    fun s r => s.acts_plan_sublist hsource hfinal r⟩

/-- A device list in which two controllers of one key are on buses far apart, one of them above a
bound of 1, as is a controller between them; another one is below every bound. -/
def spread : List Device :=
  [.controller ⟨10, 2, none, none, none⟩,
   .disk ⟨4, some 11, some 0, none, 8, .unspecified⟩,
   .disk ⟨5, some 10, none, none, 8, .unspecified⟩,
   .controller ⟨11, 1, none, none, none⟩,
   .controller ⟨11, -1, none, none, none⟩,
   .controller ⟨10, 0, none, none, none⟩,
   .disk ⟨6, some 10, some 1, none, 8, .unspecified⟩]

theorem spread_extends : (1 : Int) ≤ 3 ∧
    (slotOrder 1 spread).map Disk.key = [6, 5] ∧
    (slotOrder 3 spread).map Disk.key = [6, 5, 4, 6, 5] ∧
    slotOrder 1 spread <+: slotOrder 3 spread ∧
    (slotOrder 1 spread).zip (slotOrder 1 spread) <+:
      (slotOrder 3 spread).zip (slotOrder 3 spread) := by
  have hle : (1 : Int) ≤ 3 := by decide
  obtain ⟨hfront, hpairs⟩ := larger_bound_extends hle
  exact ⟨hle, by decide, by decide, hfront spread, (hpairs spread spread).1⟩

end PodPlacement
