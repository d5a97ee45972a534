import Mathlib.Data.List.Basic
import PodPlacement.Proofs.Destination

/-!
# Placements one after another

A recommendation is a list of placements, in whatever actions they come.  A run of their steps
either succeeds, or it ends at the first placement whose datastore is looked up and not found:
what the placements before that one write is written, and of that one nothing.

    r.gather machine disk = r.placements.flatMap (Placement.fold machine disk)
                                                                       (gather_eq_flatMap)
    (run dir write (ps.flatMap stepsOf) s).failure ≠ none →
      run dir write (ps.flatMap stepsOf) s stops at some p in ps = before ++ p :: after
        and leaves carry dir write (before.flatMap stepsOf) s                (exists_stop)
    Schedule write stepsOf →
      (run dir write (ps.flatMap stepsOf) s).Ends dir disks attempts left ps
                                                                           (Schedule.ends)
    f.EndsLookups inventory.datastoreDirectory lookups ↔ f.EndsLookupsIn inventory lookups
                                                            (endsLookups_inventory_iff)
-/

namespace PodPlacement

/-! ## Placements -/

/-- One placement of a recommendation: of the machine, or of one disk. -/
inductive Placement where
  | machine (p : MachinePlacement)
  | disk (p : DiskPlacement)
  deriving DecidableEq, Repr

namespace Placement

def datastore : Placement → Reference
  | machine p => p.datastore
  | disk p => p.datastore

/-- The action of one placement. -/
def action : Placement → Action
  | machine p => .machine p
  | disk p => .disks ⟨p, []⟩

/-- What a placement gives, by its kind. -/
def fold {α : Type} (machine : MachinePlacement → α) (disk : DiskPlacement → α) : Placement → α
  | .machine p => machine p
  | .disk p => disk p

end Placement

namespace Recommendation

/-- The placements of a recommendation, over all actions in order. -/
def placements (r : Recommendation) : List Placement :=
  r.gather (fun p => [.machine p]) fun p => [.disk p]

/-- The recommendation of placements, each in an action of its own. -/
def ofPlacements (ps : List Placement) : Recommendation := ⟨"", ps.map Placement.action⟩

theorem gather_eq_flatMap {α : Type} (r : Recommendation) (machine : MachinePlacement → List α)
    (disk : DiskPlacement → List α) :
    r.gather machine disk = r.placements.flatMap (Placement.fold machine disk) := by
  unfold placements gather
  rw [List.flatMap_assoc]
  congr 1
  funext a
  cases a with
  | machine p => exact (List.append_nil (machine p)).symm
  | disks ps =>
    show ps.toList.flatMap disk = (ps.toList.flatMap fun p => [Placement.disk p]).flatMap _
    rw [List.flatMap_assoc]
    congr 1
    funext p
    exact (List.append_nil (disk p)).symm

theorem placements_ofPlacements (ps : List Placement) : (ofPlacements ps).placements = ps := by
  unfold placements gather ofPlacements
  rw [List.flatMap_map]
  induction ps with
  | nil => rfl
  | cons p ps ih =>
    rw [List.flatMap_cons, ih]
    cases p <;> rfl

end Recommendation

/-! ## Runs of placements -/

/-- Steps are for a placement: they look up nothing but its datastore, and if they do, those
among them that look nothing up write nothing. -/
structure Placement.Steps {σ : Type} (write : Step → Text → σ → σ) (p : Placement)
    (steps : List Step) : Prop where
  lookup : ∀ step ∈ steps, ∀ id, step.lookup? = some id → id = p.datastore.value
  idle : ∀ step ∈ steps, step.lookup? = none →
    steps.filterMap Step.lookup? = [] ∨ ∀ path s, write step path s = s

section

variable {σ : Type} (dir : DatastoreDirectory) {write : Step → Text → σ → σ}

/-- If not all datastores for a placement are found, a run stops at the first lookup for it, and
nothing is written before. -/
theorem run_append_of_not_isFound {p : Placement} {steps : List Step} (hp : p.Steps write steps)
    (hnot : ¬∀ step ∈ steps, step.isFound dir = true) (more : List Step) (s : σ) :
    ∃ idle step rest e, steps = idle ++ step :: rest ∧ idle.filterMap Step.lookup? = [] ∧
      step.lookup? = some p.datastore.value ∧ dir p.datastore.value = .error e ∧
      run dir write (steps ++ more) s =
        ⟨s, some (step.unresolved p.datastore.value e), idle.flatMap (Step.eventsIn dir),
          [p.datastore.value]⟩ := by
  obtain ⟨step, hfind⟩ : ∃ step, (steps.find? fun step => !step.isFound dir) = some step := by
    rw [← Option.isSome_iff_exists, List.find?_isSome]
    simpa using hnot
  obtain ⟨hstep, idle, rest, hsteps, hdone⟩ := List.find?_eq_some_iff_append.1 hfind
  replace hstep : step.isFound dir = false := by simpa using hstep
  replace hdone : ∀ x ∈ idle, x.isFound dir = true := by simpa using hdone
  have hmem : ∀ x ∈ idle, x ∈ steps := fun x hx => hsteps ▸ List.mem_append_left _ hx
  have hmemStep : step ∈ steps := hsteps ▸ List.mem_append_right _ List.mem_cons_self
  obtain ⟨id, e, hid, he, hrun⟩ := run_cons_of_not_isFound dir write hstep (rest ++ more) s
  obtain rfl : id = p.datastore.value := hp.lookup step hmemStep id hid
  -- A step before this one that looked something up would have failed on the same identifier.
  have hnone : ∀ x ∈ idle, x.lookup? = none := by
    intro x hx
    by_contra hsome
    obtain ⟨i, hi⟩ := Option.ne_none_iff_exists'.1 hsome
    obtain ⟨d, hd⟩ := (Step.isFound_iff dir x).1 (hdone x hx) i hi
    rw [hp.lookup x (hmem x hx) i hi, he] at hd
    cases hd
  have hwrite : ∀ x ∈ idle, ∀ path s, write x path s = s := by
    intro x hx
    refine (hp.idle x (hmem x hx) (hnone x hx)).resolve_left fun hnil => ?_
    have hstepNone := List.filterMap_eq_nil_iff.1 hnil step hmemStep
    rw [hid] at hstepNone
    cases hstepNone
  have hidle : idle.filterMap Step.lookup? = [] := List.filterMap_eq_nil_iff.2 hnone
  refine ⟨idle, step, rest, e, hsteps, hidle, hid, he, ?_⟩
  rw [hsteps, List.append_assoc, List.cons_append, run_append_of_isFound dir write hdone,
    carry_of_idle dir write hwrite, hrun, hidle]
  simp only [List.append_nil, List.nil_append]

/-- A run of the steps for placements that fails stops at a placement whose datastore is looked
up and not found, and leaves what the placements before it write. -/
theorem exists_stop {stepsOf : Placement → List Step}
    (hsteps : ∀ p : Placement, p.Steps write (stepsOf p))
    {ps : List Placement} {s : σ} (hfail : (run dir write (ps.flatMap stepsOf) s).failure ≠ none) :
    ∃ before p after idle step rest e, ps = before ++ p :: after ∧
      (∀ step ∈ before.flatMap stepsOf, step.isFound dir = true) ∧
      stepsOf p = idle ++ step :: rest ∧ idle.filterMap Step.lookup? = [] ∧
      step.lookup? = some p.datastore.value ∧ dir p.datastore.value = .error e ∧
      run dir write (ps.flatMap stepsOf) s =
        ⟨carry dir write (before.flatMap stepsOf) s,
          some (step.unresolved p.datastore.value e),
          (before.flatMap stepsOf ++ idle).flatMap (Step.eventsIn dir),
          (before.flatMap stepsOf).filterMap Step.lookup? ++ [p.datastore.value]⟩ := by
  induction ps generalizing s with
  | nil => exact absurd rfl hfail
  | cons p ps ih =>
    rw [List.flatMap_cons] at hfail ⊢
    by_cases hfound : ∀ step ∈ stepsOf p, step.isFound dir = true
    · rw [run_append_of_isFound dir write hfound] at hfail ⊢
      obtain ⟨before, q, after, idle, step, rest, e, hps, hbefore, hq, hidle, hid, he, hrun⟩ :=
        ih hfail
      refine ⟨p :: before, q, after, idle, step, rest, e, ?_, ?_, hq, hidle, hid, he, ?_⟩
      · rw [hps, List.cons_append]
      · rw [List.flatMap_cons]
        exact List.forall_mem_append.2 ⟨hfound, hbefore⟩
      · have hcarry : carry dir write (stepsOf p ++ before.flatMap stepsOf) s =
            carry dir write (before.flatMap stepsOf) (carry dir write (stepsOf p) s) :=
          List.foldl_append
        rw [List.flatMap_cons, hrun, hcarry]
        simp only [List.flatMap_append, List.filterMap_append, List.append_assoc]
    · obtain ⟨idle, step, rest, e, hp, hidle, hid, he, hrun⟩ :=
        run_append_of_not_isFound dir (hsteps p) hfound (ps.flatMap stepsOf) s
      exact ⟨[], p, ps, idle, step, rest, e, rfl, by simp, hp, hidle, hid, he, hrun⟩

end

/-! ## Schedules -/

/-- The steps for placements: one for the machine, and for a disk those that send it. -/
structure Schedule {σ : Type} (write : Step → Text → σ → σ) (stepsOf : Placement → List Step) :
    Prop where
  machine : ∀ p, stepsOf (.machine p) = [.files p.datastore] ∨
    stepsOf (.machine p) = [.location p.datastore]
  disk : ∀ p, ∀ step ∈ stepsOf (.disk p), step.Sends p.datastore
  skip : ∀ d path s, write (.skip d) path s = s

theorem Schedule.steps {σ : Type} {write : Step → Text → σ → σ} {stepsOf : Placement → List Step}
    (h : Schedule write stepsOf) (p : Placement) : p.Steps write (stepsOf p) := by
  cases p with
  | machine p =>
    obtain hp | hp := h.machine p <;> rw [hp] <;>
      refine ⟨fun step hstep id hid => ?_, fun step hstep hnone => ?_⟩ <;>
      obtain rfl := List.mem_singleton.1 hstep
    · exact (Option.some.inj hid).symm
    · cases hnone
    · cases hid
    · exact .inl rfl
  | disk p =>
    refine ⟨fun step hstep id hid => ?_, fun step hstep hnone => ?_⟩
    · cases h.disk p step hstep with
      | disk position d => exact (Option.some.inj hid).symm
      | skip d => cases hid
    · cases h.disk p step hstep with
      | disk position d => cases hnone
      | skip d => exact .inr (h.skip d)

/-- A datastore is looked up once for each disk that is sent there. -/
theorem filterMap_lookup?_of_sends {ref : Reference} {steps : List Step}
    (h : ∀ step ∈ steps, step.Sends ref) :
    steps.filterMap Step.lookup? = (steps.filterMap Step.on?).map fun _ => ref.value := by
  rw [List.map_filterMap]
  refine List.filterMap_congr fun step hstep => ?_
  cases h step hstep with
  | disk position d => rfl
  | skip d => rfl

/-! ## How a projection ends -/

/-- The failure of a placement whose datastore is not found.  For a disk it names the first one
that the datastore is looked up for. -/
def Placement.failure? (disks : DiskPlacement → List Disk) :
    Placement → LookupError → Option Failure
  | p, .unencodable => some (.unencodable p.datastore.value)
  | .machine p, .unknown => some (.machineDatastoreUnknown p.datastore.value)
  | .disk p, .unknown => (disks p).head?.map fun d => .diskDatastoreUnknown p.datastore.value d.name

/-- Whether a failure is one of resolution, since no datastore is found under an identifier. -/
structure Failure.IsUnresolved (id : Text) (f : Failure) : Prop where
  category : f.category = .resolution
  breakage : f.breakage? = some (.notFound (datastoreNotFound id))

/-- Whether a failure is that of the last of some lookups of datastores: the datastore is not
known, which is a failure of resolution, or it cannot even be looked for. -/
def Failure.EndsLookups (dir : DatastoreDirectory) (lookups : List Text) (f : Failure) : Prop :=
  ∃ id, lookups.getLast? = some id ∧
    (dir id = .error .unknown ∧ f.IsUnresolved id ∨
      dir id = .error .unencodable ∧ f = .unencodable id)

/-- Whether a failure is that of the last of some lookups in an inventory: no datastore has the
identifier, or the identifier has no bytes. -/
def Failure.EndsLookupsIn (inventory : Inventory) (lookups : List Text) (f : Failure) : Prop :=
  ∃ id, lookups.getLast? = some id ∧
    (id.isProper = true ∧ inventory.datastore? id = none ∧ f.IsUnresolved id ∨
      id.isProper = false ∧ f = .unencodable id)

theorem Failure.endsLookups_inventory_iff {inventory : Inventory} {lookups : List Text}
    {f : Failure} : f.EndsLookups inventory.datastoreDirectory lookups ↔
      f.EndsLookupsIn inventory lookups := by
  unfold EndsLookups EndsLookupsIn Inventory.datastoreDirectory
  simp only [lookUp_eq_unknown_iff, lookUp_eq_unencodable_iff, and_assoc]

/-- How a projection of placements ends, one after the other.  `disks p` are the disks that a
placement is for, `attempts p` is what is looked up for it, and `left ps` is the spec that
placements leave if they all succeed.  Either all succeed, or the first of them whose datastore
is looked up and not found fails, and what the placements before it leave is left. -/
inductive Projection.Ends {σ : Type} (dir : DatastoreDirectory)
    (disks : DiskPlacement → List Disk) (attempts : Placement → List Text)
    (left : List Placement → σ) (ps : List Placement) (o : Projection σ) : Prop
  | succeeds
      (found : ∀ id ∈ ps.flatMap attempts, ∃ d, dir id = .ok d)
      (failure : o.failure = none)
      (lookups : o.lookups = ps.flatMap attempts)
      (spec : o.spec = left ps)
  | fails {before after : List Placement} {p : Placement} {e : LookupError} {f : Failure}
      (order : ps = before ++ p :: after)
      (found : ∀ id ∈ before.flatMap attempts, ∃ d, dir id = .ok d)
      (attempted : (attempts p).head? = some p.datastore.value)
      (missing : dir p.datastore.value = .error e)
      (failure : o.failure = some f)
      (cause : p.failure? disks e = some f)
      (lookups : o.lookups = before.flatMap attempts ++ [p.datastore.value])
      (spec : o.spec = left before)

section

variable {σ : Type} {dir : DatastoreDirectory} {write : Step → Text → σ → σ}
  {stepsOf : Placement → List Step} {disks : DiskPlacement → List Disk}
  {attempts : Placement → List Text}

theorem flatMap_attempts (hattempts : ∀ p, (stepsOf p).filterMap Step.lookup? = attempts p)
    (ps : List Placement) : (ps.flatMap stepsOf).filterMap Step.lookup? = ps.flatMap attempts := by
  rw [List.filterMap_flatMap, funext hattempts]

/-- The datastores of all steps are found if and only if all that is looked up is. -/
theorem isFound_iff_attempts (hattempts : ∀ p, (stepsOf p).filterMap Step.lookup? = attempts p)
    (ps : List Placement) : (∀ step ∈ ps.flatMap stepsOf, step.isFound dir = true) ↔
      ∀ id ∈ ps.flatMap attempts, ∃ d, dir id = .ok d := by
  rw [← flatMap_attempts hattempts]
  simp only [Step.isFound_iff, List.mem_filterMap]
  exact ⟨fun h id ⟨step, hstep, hid⟩ => h step hstep id hid,
    fun h step hstep id hid => h id ⟨step, hstep, hid⟩⟩

/-- The failure of the first step for a placement that looks something up is that of the
placement. -/
theorem Schedule.failure?_eq (h : Schedule write stepsOf)
    (hdisks : ∀ p, (stepsOf (.disk p)).filterMap Step.on? = disks p) {p : Placement}
    {idle rest : List Step} {step : Step} (hp : stepsOf p = idle ++ step :: rest)
    (hidle : idle.filterMap Step.lookup? = [])
    (hid : step.lookup? = some p.datastore.value) (e : LookupError) :
    p.failure? disks e = some (step.unresolved p.datastore.value e) := by
  have hstep : step ∈ stepsOf p := hp ▸ List.mem_append_right _ List.mem_cons_self
  cases e with
  | unencodable => cases p <;> rfl
  | unknown =>
    cases p with
    | machine p =>
      obtain hm | hm := h.machine p <;> rw [hm] at hstep <;>
        obtain rfl := List.mem_singleton.1 hstep <;> rfl
    | disk p =>
      cases h.disk p step hstep with
      | skip d => cases hid
      | disk position d =>
        have hnone : idle.filterMap Step.on? = [] := by
          rw [List.filterMap_eq_nil_iff] at hidle ⊢
          intro x hx
          have hx' : x ∈ stepsOf (.disk p) := hp ▸ List.mem_append_left _ hx
          cases h.disk p x hx' with
          | disk position d => cases hidle _ hx
          | skip d => rfl
        have hhead : (disks p).head? = some d := by
          rw [← hdisks, hp, List.filterMap_append, hnone]
          rfl
        show Option.map _ (disks p).head? = _
        rw [hhead]
        rfl

/-- A run of the steps for placements ends as its placements do. -/
theorem Schedule.ends (h : Schedule write stepsOf)
    (hattempts : ∀ p, (stepsOf p).filterMap Step.lookup? = attempts p)
    (hdisks : ∀ p, (stepsOf (.disk p)).filterMap Step.on? = disks p)
    {left : List Placement → σ} {s : σ}
    (hleft : ∀ ps, (run dir write (ps.flatMap stepsOf) s).failure = none →
      carry dir write (ps.flatMap stepsOf) s = left ps) (ps : List Placement) :
    (run dir write (ps.flatMap stepsOf) s).Ends dir disks attempts left ps := by
  have hcarry : ∀ qs, (∀ step ∈ qs.flatMap stepsOf, step.isFound dir = true) →
      carry dir write (qs.flatMap stepsOf) s = left qs := fun qs hqs => by
    refine hleft qs ?_
    rw [run_of_isFound dir write hqs]
  by_cases hfail : (run dir write (ps.flatMap stepsOf) s).failure = none
  · have hfound : ∀ step ∈ ps.flatMap stepsOf, step.isFound dir = true := by
      rw [failure_run_eq_none_iff] at hfail
      exact fun step hstep => (Step.isFound_iff dir step).2 (hfail step hstep)
    refine .succeeds ((isFound_iff_attempts hattempts ps).1 hfound) hfail ?_ ?_
    · rw [run_of_isFound dir write hfound]
      exact flatMap_attempts hattempts ps
    · rw [run_of_isFound dir write hfound]
      exact hcarry ps hfound
  · obtain ⟨before, p, after, idle, step, rest, e, hps, hbefore, hp, hidle, hid, he, hrun⟩ :=
      exists_stop dir h.steps hfail
    refine .fails hps ((isFound_iff_attempts hattempts before).1 hbefore) ?_ he ?_
      (h.failure?_eq hdisks hp hidle hid e) ?_ ?_
    · rw [← hattempts, hp, List.filterMap_append, hidle, List.filterMap_cons_some hid]
      rfl
    · rw [hrun]
    · rw [hrun, flatMap_attempts hattempts]
    · rw [hrun]
      exact hcarry before hbefore

end

section

variable {σ : Type} {dir : DatastoreDirectory} {disks : DiskPlacement → List Disk}
  {attempts : Placement → List Text} {left : List Placement → σ} {ps : List Placement}
  {o : Projection σ}

theorem Projection.Ends.failure_eq_none_iff (h : o.Ends dir disks attempts left ps) :
    o.failure = none ↔ ∀ id ∈ ps.flatMap attempts, ∃ d, dir id = .ok d := by
  cases h with
  | succeeds hfound hnone => exact ⟨fun _ => hfound, fun _ => hnone⟩
  | fails horder _ hattempted hmissing hfailure =>
    refine ⟨fun hnone => ?_, fun hfound => ?_⟩
    · rw [hnone] at hfailure
      cases hfailure
    · rw [horder, List.flatMap_append, List.flatMap_cons] at hfound
      obtain ⟨d, hd⟩ := hfound _ (List.mem_append_right _
        (List.mem_append_left _ (List.mem_of_head? hattempted)))
      rw [hmissing] at hd
      cases hd

theorem Projection.Ends.endsLookups (h : o.Ends dir disks attempts left ps) {f : Failure}
    (hf : o.failure = some f) : f.EndsLookups dir o.lookups := by
  cases h with
  | succeeds _ hnone =>
    rw [hnone] at hf
    cases hf
  | @fails before after p e f' horder _ _ hmissing hfailure hcause hlookups =>
    obtain rfl : f' = f := Option.some.inj (hfailure.symm.trans hf)
    refine ⟨p.datastore.value, ?_, ?_⟩
    · rw [hlookups, List.getLast?_concat]
    · cases e with
      | unencodable =>
        refine .inr ⟨hmissing, ?_⟩
        cases p <;> exact (Option.some.inj hcause).symm
      | unknown =>
        refine .inl ⟨hmissing, ?_⟩
        cases p with
        | machine p =>
          rw [← Option.some.inj hcause]
          exact ⟨rfl, rfl⟩
        | disk p =>
          obtain ⟨d, -, rfl⟩ := Option.map_eq_some_iff.1 hcause
          exact ⟨rfl, rfl⟩

/-- Whichever way it ends, a projection leaves what some of the first placements leave. -/
theorem Projection.Ends.exists_spec_eq (h : o.Ends dir disks attempts left ps) :
    ∃ before after, ps = before ++ after ∧ o.spec = left before := by
  cases h with
  | succeeds _ _ _ hspec => exact ⟨ps, [], (List.append_nil ps).symm, hspec⟩
  | fails horder _ _ _ _ _ _ hspec => exact ⟨_, _, horder, hspec⟩

end

end PodPlacement
