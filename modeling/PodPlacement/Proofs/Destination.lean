import PodPlacement.Proofs.Run

/-!
# Where a recommendation sends things

The actions of a recommendation are gathered in order, those for the machine and those for
disks.  Of several placements that concern one thing the last counts: what the steps of a plan
write at a position is where the last of the placements that concern it sends it.

    (r.gather machine disk).filterMap g =
      r.gather (fun p => (machine p).filterMap g) (fun p => (disk p).filterMap g)
                                                                         (filterMap_gather)
    lastSent? n (r.gather machine disk) = (r.lastPlacement? P).map (·.datastore)
      where the steps of p write at n if and only if P p                  (lastSent?_gather)
    part (carry dir write steps s) = (part s).map fun a =>
      (r.lastPlacement? (P a)).elim a fun p => send p.datastore (path of p.datastore) a
      where the steps send each a at last as the last p does with P a         (carry_eq_map)
-/

namespace PodPlacement

/-! ## Placements in order -/

namespace Recommendation

section

variable {α β : Type}

/-- What the placements of a recommendation give, over all actions in order. -/
def gather (r : Recommendation) (machine : MachinePlacement → List α)
    (disk : DiskPlacement → List α) : List α :=
  r.actions.flatMap fun
    | .machine p => machine p
    | .disks ps => ps.toList.flatMap disk

theorem filterMap_gather (r : Recommendation) (machine : MachinePlacement → List α)
    (disk : DiskPlacement → List α) (g : α → Option β) :
    (r.gather machine disk).filterMap g =
      r.gather (fun p => (machine p).filterMap g) (fun p => (disk p).filterMap g) := by
  unfold gather
  rw [List.filterMap_flatMap]
  congr 1
  funext a
  cases a with
  | machine p => rfl
  | disks ps => exact List.filterMap_flatMap

theorem map_gather (r : Recommendation) (machine : MachinePlacement → List α)
    (disk : DiskPlacement → List α) (g : α → β) :
    (r.gather machine disk).map g =
      r.gather (fun p => (machine p).map g) (fun p => (disk p).map g) := by
  unfold gather
  rw [List.map_flatMap]
  congr 1
  funext a
  cases a with
  | machine p => rfl
  | disks ps => exact List.map_flatMap

end

def diskPlacements (r : Recommendation) : List DiskPlacement :=
  r.gather (fun _ => []) fun p => [p]

def machinePlacements (r : Recommendation) : List MachinePlacement :=
  r.gather (fun p => [p]) fun _ => []

/-- Where the machine goes in the end. -/
def machineDestination? (r : Recommendation) : Option Reference :=
  r.machinePlacements.getLast?.map MachinePlacement.datastore

/-- The last placement of a disk that has a property. -/
def lastPlacement? (r : Recommendation) (P : DiskPlacement → Prop) [DecidablePred P] :
    Option DiskPlacement :=
  (r.diskPlacements.filter P).getLast?

/-- Without what the machine gives, what is gathered is what the placements of disks give. -/
theorem gather_disks {α : Type} (r : Recommendation) (disk : DiskPlacement → List α) :
    r.gather (fun _ => []) disk = r.diskPlacements.flatMap disk := by
  unfold diskPlacements gather
  rw [List.flatMap_assoc]
  congr 1
  funext a
  cases a with
  | machine p => rfl
  | disks ps =>
    show ps.toList.flatMap disk = (ps.toList.flatMap fun p => [p]).flatMap disk
    rw [List.flatMap_singleton']

/-- Without what the disks give, what is gathered is what the placements of the machine give. -/
theorem gather_machine {α : Type} (r : Recommendation) (machine : MachinePlacement → List α) :
    r.gather machine (fun _ => []) = r.machinePlacements.flatMap machine := by
  unfold machinePlacements gather
  rw [List.flatMap_assoc]
  congr 1
  funext a
  cases a with
  | machine p => exact (List.append_nil _).symm
  | disks ps =>
    have hnil : ∀ {γ : Type}, (ps.toList.flatMap fun _ => ([] : List γ)) = [] :=
      List.flatMap_eq_nil_iff.2 fun _ _ => rfl
    show (ps.toList.flatMap fun _ => []) = (ps.toList.flatMap fun _ => []).flatMap machine
    rw [hnil, hnil, List.flatMap_nil]

section

variable {r : Recommendation} {P Q : DiskPlacement → Prop} [DecidablePred P] [DecidablePred Q]

theorem lastPlacement?_eq_none_iff :
    r.lastPlacement? P = none ↔ ∀ p ∈ r.diskPlacements, ¬P p := by
  unfold lastPlacement?
  rw [List.getLast?_eq_none_iff, List.filter_eq_nil_iff]
  simp

theorem lastPlacement?_congr (h : ∀ p, P p ↔ Q p) :
    r.lastPlacement? P = r.lastPlacement? Q := by
  unfold lastPlacement?
  congr 1
  exact List.filter_congr fun p _ => decide_eq_decide.2 (h p)

end

end Recommendation

/-! ## What steps write last -/

/-- Where a step sends what stands at a position of a spec, if it writes there. -/
def Step.sentTo? (n : Nat) : Step → Option Reference
  | .disk position _ destination => if position = n then some destination else none
  | .files _ | .location _ | .skip _ => none

/-- Where a step puts the files of the machine, if it does. -/
def Step.filesTo? : Step → Option Reference
  | .files destination => some destination
  | .location _ | .disk _ _ _ | .skip _ => none

/-- Where a step puts the copy of the machine, if it does. -/
def Step.locationTo? : Step → Option Reference
  | .location destination => some destination
  | .files _ | .disk _ _ _ | .skip _ => none

/-- The disk that a step sends to a datastore, if it sends one. -/
def Step.on? : Step → Option Disk
  | .disk _ d _ => some d
  | .files _ | .location _ | .skip _ => none

/-- The steps for a disk that goes to a datastore: it is sent there, or it is passed over. -/
inductive Step.Sends (ref : Reference) : Step → Prop
  | disk (position : Nat) (d : Disk) : Sends ref (.disk position d ref)
  | skip (d : Disk) : Sends ref (.skip d)

/-- Where steps send at last what stands at a position of a spec. -/
def lastSent? (n : Nat) (steps : List Step) : Option Reference :=
  (steps.filterMap (Step.sentTo? n)).getLast?

theorem Step.lookup?_of_sentTo? {n : Nat} {step : Step} {ref : Reference}
    (h : step.sentTo? n = some ref) : step.lookup? = some ref.value := by
  cases step with
  | disk position d destination =>
    simp only [Step.sentTo?, Option.ite_none_right_eq_some, Option.some.injEq] at h
    rw [← h.2]
    rfl
  | files | location | skip => cases h

theorem Step.lookup?_of_filesTo? {step : Step} {ref : Reference}
    (h : step.filesTo? = some ref) : step.lookup? = some ref.value := by
  cases step with
  | files destination =>
    cases h
    rfl
  | disk | location | skip => cases h

/-- After a success the datastore that a last step leads to is known. -/
theorem found_of_getLast?_filterMap {σ : Type} {dir : DatastoreDirectory}
    {write : Step → Text → σ → σ} {steps : List Step} {s : σ}
    (h : (run dir write steps s).failure = none) {to? : Step → Option Reference}
    (hto : ∀ step ref, to? step = some ref → step.lookup? = some ref.value) {ref : Reference}
    (hlast : (steps.filterMap to?).getLast? = some ref) : ∃ d, dir ref.value = .ok d := by
  rw [failure_run_eq_none_iff] at h
  obtain ⟨step, hstep, hs⟩ := List.mem_filterMap.1 (List.mem_of_getLast? hlast)
  exact h step hstep ref.value (hto step ref hs)

section

variable {α β : Type}

/-- If each part of a list ends in its own value or is empty, the list ends in the value of the
last part that is not. -/
theorem getLast?_flatMap_of_getLast? (P : α → Prop) [DecidablePred P] (f : α → List β)
    (g : α → β) (h : ∀ a, (f a).getLast? = if P a then some (g a) else none) (xs : List α) :
    (xs.flatMap f).getLast? = (xs.filter P).getLast?.map g := by
  induction xs with
  | nil => rfl
  | cons a xs ih =>
    rw [List.flatMap_cons, List.getLast?_append, ih, h]
    by_cases ha : P a
    · have hfilter : (a :: xs).filter P = a :: xs.filter P :=
        List.filter_cons_of_pos (decide_eq_true ha)
      rw [if_pos ha, hfilter, List.getLast?_cons]
      cases (xs.filter P).getLast? with
      | none => rfl
      | some b => rfl
    · have hfilter : (a :: xs).filter P = xs.filter P :=
        List.filter_cons_of_neg (by simpa using ha)
      rw [if_neg ha, hfilter, Option.or_none]

/-- Of what stands at the positions of a list, a function of one position sees one. -/
theorem filterMap_zipIdx_at (g : α → Option β) (xs : List α) (n k : Nat) :
    (xs.zipIdx k).filterMap (fun x => if x.2 = k + n then g x.1 else none) =
      (xs[n]?.bind g).toList := by
  induction xs generalizing n k with
  | nil => rfl
  | cons a xs ih =>
    rw [List.zipIdx_cons, List.filterMap_cons]
    cases n with
    | zero =>
      have hrest : (xs.zipIdx (k + 1)).filterMap
          (fun x => if x.2 = k + 0 then g x.1 else none) = [] := by
        rw [List.filterMap_eq_nil_iff]
        intro x hx
        have hk := (List.mem_zipIdx hx).1
        exact if_neg (by omega)
      rw [hrest]
      simp only [Nat.add_zero, if_true, List.getElem?_cons_zero, Option.bind_some]
      cases g a <;> rfl
    | succ n =>
      have hne : ¬k = k + (n + 1) := by omega
      have heq : k + (n + 1) = k + 1 + n := by omega
      simp only [if_neg hne, List.getElem?_cons_succ]
      rw [heq]
      exact ih n (k + 1)

end

/-- What the steps of a plan write last at a position is where the last placement that writes
there sends it. -/
theorem lastSent?_gather (n : Nat) (r : Recommendation) (machine : MachinePlacement → List Step)
    (disk : DiskPlacement → List Step) (P : DiskPlacement → Prop) [DecidablePred P]
    (hmachine : ∀ p, (machine p).filterMap (Step.sentTo? n) = [])
    (hdisk : ∀ p, lastSent? n (disk p) = if P p then some p.datastore else none) :
    lastSent? n (r.gather machine disk) =
      (r.lastPlacement? P).map DiskPlacement.datastore := by
  unfold lastSent? Recommendation.lastPlacement?
  rw [Recommendation.filterMap_gather, funext hmachine, Recommendation.gather_disks]
  exact getLast?_flatMap_of_getLast? P _ _ hdisk r.diskPlacements

/-- Where a plan puts the machine is where the last placement of the machine sends it. -/
theorem getLast?_filterMap_gather (r : Recommendation) (machine : MachinePlacement → List Step)
    (disk : DiskPlacement → List Step) (to? : Step → Option Reference)
    (hmachine : ∀ p, (machine p).filterMap to? = [p.datastore])
    (hdisk : ∀ p, (disk p).filterMap to? = []) :
    ((r.gather machine disk).filterMap to?).getLast? = r.machineDestination? := by
  unfold Recommendation.machineDestination?
  rw [Recommendation.filterMap_gather, funext hmachine, funext hdisk,
    Recommendation.gather_machine, ← List.map_eq_flatMap, List.getLast?_map]

/-! ## What steps make of a list -/

/-- What a step makes of a list of a spec whose entries it sends to datastores. -/
def Step.modifyAt {α : Type} (send : Reference → Text → α → α) (path : Text) (xs : List α) :
    Step → List α
  | .disk position _ destination => xs.modify position (send destination path)
  | .files _ | .location _ | .skip _ => xs

section

variable {σ α : Type} (dir : DatastoreDirectory) (write : Step → Text → σ → σ)
  (part : σ → List α) (send : Reference → Text → α → α)
  (hwrite : ∀ step path s, part (write step path s) = step.modifyAt send path (part s))
  (hsend : ∀ ref ref' path path' a, send ref path (send ref' path' a) = send ref path a)

include hwrite hsend

/-- An entry that is sent to datastores ends where it is sent last. -/
theorem getElem?_carry (steps : List Step) (s : σ) (n : Nat) :
    (part (carry dir write steps s))[n]? =
      (lastSent? n steps).elim (part s)[n]? fun ref =>
        (part s)[n]?.map (send ref (dir.pathAt ref.value)) := by
  refine carry_lastSet dir write (fun s => (part s)[n]?) (Step.sentTo? n)
    (fun ref => Option.map (send ref (dir.pathAt ref.value))) ?_ ?_ steps s
  · intro step s
    rw [hwrite]
    cases step with
    | files | location | skip => rfl
    | disk position d destination =>
      show ((part s).modify position _)[n]? = _
      rw [List.getElem?_modify]
      unfold Step.sentTo?
      by_cases hn : position = n
      · simp only [hn, if_true]
        rfl
      · simp only [hn, if_false]
        exact Option.map_id'
  · intro ref ref' a
    rw [Option.map_map]
    congr 1
    funext a
    exact hsend ref ref' _ _ a

/-- If steps send each entry at last where the last placement that concerns it does, they send
the list so. -/
theorem carry_eq_map (P : α → DiskPlacement → Prop) [∀ a, DecidablePred (P a)]
    {steps : List Step} {s : σ} {r : Recommendation}
    (hlast : ∀ n a, (part s)[n]? = some a →
      lastSent? n steps = (r.lastPlacement? (P a)).map DiskPlacement.datastore) :
    part (carry dir write steps s) = (part s).map fun a =>
      (r.lastPlacement? (P a)).elim a fun p =>
        send p.datastore (dir.pathAt p.datastore.value) a := by
  apply List.ext_getElem?
  intro n
  rw [getElem?_carry dir write part send hwrite hsend, List.getElem?_map]
  cases ha : (part s)[n]? with
  | none => cases lastSent? n steps <;> rfl
  | some a =>
    rw [hlast n a ha, Option.map_some]
    cases r.lastPlacement? (P a) <;> rfl

end

end PodPlacement
