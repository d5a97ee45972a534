import Mathlib.Data.List.TakeWhile
import PodPlacement.Projection

/-!
# What a run leaves

A run does its steps up to the first whose datastore is not found, and what it leaves is what
those steps write.  A part of the spec that each step either sets or leaves alone ends as the
last of the steps that sets it makes it.

    (run dir write steps s).spec = carry dir write (reached dir steps) s           (spec_run)
    (run dir write steps s).failure = none →
      (run dir write steps s).spec = carry dir write steps s           (spec_run_of_succeeds)
    (∀ step ∈ done, step.isFound dir) → run dir write (done ++ steps) s =
      what done does, and then run dir write steps (carry dir write done s)
                                                                      (run_append_of_isFound)
    part (carry dir write steps s) =
      (steps.filterMap set?).getLast?.elim (part s) fun b => set b (part s)    (carry_lastSet)
-/

namespace PodPlacement

/-! ## Paths -/

namespace DatastoreDirectory

/-- The path of the datastore of an identifier; empty if there is none. -/
def pathAt (dir : DatastoreDirectory) (id : Text) : Text :=
  match dir id with
  | .ok d => d.path
  | .error _ => ""

/-- Whether a path is that of the datastore to which a reference leads. -/
def IsPath (dir : DatastoreDirectory) (ref : Reference) (path : Text) : Prop :=
  ∃ d, dir ref.value = .ok d ∧ path = "[" ++ d.name ++ "]"

theorem pathAt_of_ok {dir : DatastoreDirectory} {id : Text} {d : Datastore}
    (h : dir id = .ok d) : dir.pathAt id = d.path := by
  unfold pathAt
  rw [h]

theorem isPath_pathAt {dir : DatastoreDirectory} {ref : Reference}
    (h : ∃ d, dir ref.value = .ok d) : dir.IsPath ref (dir.pathAt ref.value) := by
  obtain ⟨d, hd⟩ := h
  exact ⟨d, hd, pathAt_of_ok hd⟩

end DatastoreDirectory

/-! ## One step -/

namespace Step

/-- Whether a step finds its datastore, if it looks one up. -/
def isFound (dir : DatastoreDirectory) (step : Step) : Bool :=
  match step.lookup? with
  | none => true
  | some id => (dir id).isOk

/-- The path that a step writes with: that of its datastore, if it looks one up. -/
def pathIn (dir : DatastoreDirectory) (step : Step) : Text :=
  match step.lookup? with
  | none => ""
  | some id => dir.pathAt id

/-- What is noted of a step that is done. -/
def eventsIn (dir : DatastoreDirectory) (step : Step) : List Event :=
  match step.lookup? with
  | none => step.note?.toList
  | some id =>
    match dir id with
    | .ok d => (step.resolvedNote? d).toList
    | .error _ => []

theorem isFound_iff (dir : DatastoreDirectory) (step : Step) :
    step.isFound dir = true ↔ ∀ id, step.lookup? = some id → ∃ d, dir id = .ok d := by
  unfold isFound
  cases hl : step.lookup? with
  | none => simp
  | some id =>
    cases hd : dir id with
    | error e => simp [hd, Except.toBool]
    | ok d => simp [hd, Except.toBool]

section

variable {dir : DatastoreDirectory} {step : Step} {id : Text} {d : Datastore}
  (hlookup : step.lookup? = some id) (hfound : dir id = .ok d)

include hlookup hfound

end

/-- A step that finds the datastore that it looks up writes with the path of that datastore. -/
theorem isPath_pathIn {dir : DatastoreDirectory} {step : Step} {ref : Reference}
    (hfound : step.isFound dir = true) (hlookup : step.lookup? = some ref.value) :
    dir.IsPath ref (step.pathIn dir) := by
  have hpath : step.pathIn dir = dir.pathAt ref.value := by
    unfold pathIn
    rw [hlookup]
  rw [hpath]
  exact DatastoreDirectory.isPath_pathAt ((isFound_iff dir step).1 hfound _ hlookup)

end Step

section

variable {σ : Type} (dir : DatastoreDirectory) (write : Step → Text → σ → σ)

/-- A step whose datastore is found is done, and the run goes on from what it leaves. -/
theorem run_cons_of_isFound {step : Step} (h : step.isFound dir = true) (steps : List Step)
    (s : σ) :
    run dir write (step :: steps) s =
      let rest := run dir write steps (write step (step.pathIn dir) s)
      ⟨rest.spec, rest.failure, step.eventsIn dir ++ rest.events,
        step.lookup?.toList ++ rest.lookups⟩ := by
  rw [Step.isFound_iff] at h
  conv => lhs; unfold run
  unfold Step.pathIn Step.eventsIn
  cases hl : step.lookup? with
  | none => rfl
  | some id =>
    obtain ⟨d, hd⟩ := h id hl
    simp only [hd, DatastoreDirectory.pathAt_of_ok hd]
    rfl

/-- A step whose datastore is not found ends the run. -/
theorem run_cons_of_not_isFound {step : Step} (h : step.isFound dir = false) (steps : List Step)
    (s : σ) :
    ∃ id e, step.lookup? = some id ∧ dir id = .error e ∧
      run dir write (step :: steps) s = ⟨s, some (step.unresolved id e), [], [id]⟩ := by
  unfold Step.isFound at h
  cases hl : step.lookup? with
  | none => rw [hl] at h; cases h
  | some id =>
    replace h : (dir id).isOk = false := by rw [hl] at h; exact h
    cases hd : dir id with
    | ok d => rw [hd] at h; cases h
    | error e =>
      refine ⟨id, e, rfl, hd, ?_⟩
      unfold run
      rw [hl]
      simp only [hd]

/-! ## All steps -/

/-- The steps that a run gets to: those before the first whose datastore is not found. -/
def reached (steps : List Step) : List Step := steps.takeWhile (Step.isFound dir)

/-- What steps write, one after the other. -/
def carry (steps : List Step) (s : σ) : σ :=
  steps.foldl (fun s step => write step (step.pathIn dir) s) s

theorem spec_run (steps : List Step) (s : σ) :
    (run dir write steps s).spec = carry dir write (reached dir steps) s := by
  induction steps generalizing s with
  | nil => rfl
  | cons step steps ih =>
    unfold reached
    rw [List.takeWhile_cons]
    cases hf : step.isFound dir with
    | true =>
      rw [run_cons_of_isFound dir write hf, if_pos rfl]
      exact ih (write step (step.pathIn dir) s)
    | false =>
      obtain ⟨id, e, -, -, hr⟩ := run_cons_of_not_isFound dir write hf steps s
      rw [hr]
      rfl

theorem reached_of_succeeds {steps : List Step} {s : σ}
    (h : (run dir write steps s).failure = none) : reached dir steps = steps := by
  rw [failure_run_eq_none_iff] at h
  unfold reached
  rw [List.takeWhile_eq_self_iff]
  intro step hstep
  rw [Step.isFound_iff]
  exact h step hstep

theorem spec_run_of_succeeds {steps : List Step} {s : σ}
    (h : (run dir write steps s).failure = none) :
    (run dir write steps s).spec = carry dir write steps s := by
  rw [spec_run, reached_of_succeeds dir write h]

/-- A run does steps whose datastores are found and goes on from what they leave. -/
theorem run_append_of_isFound {done : List Step} (h : ∀ step ∈ done, step.isFound dir = true)
    (steps : List Step) (s : σ) :
    run dir write (done ++ steps) s =
      let rest := run dir write steps (carry dir write done s)
      ⟨rest.spec, rest.failure, done.flatMap (Step.eventsIn dir) ++ rest.events,
        done.filterMap Step.lookup? ++ rest.lookups⟩ := by
  induction done generalizing s with
  | nil => rfl
  | cons step done ih =>
    obtain ⟨hstep, hdone⟩ := List.forall_mem_cons.1 h
    rw [List.cons_append, run_cons_of_isFound dir write hstep, ih hdone]
    have hlookups : (step :: done).filterMap Step.lookup? =
        step.lookup?.toList ++ done.filterMap Step.lookup? := by
      cases hl : step.lookup? with
      | none => exact List.filterMap_cons_none hl
      | some id => exact List.filterMap_cons_some hl
    simp only [List.flatMap_cons, hlookups, List.append_assoc]
    rfl

theorem run_of_isFound {steps : List Step} (h : ∀ step ∈ steps, step.isFound dir = true) (s : σ) :
    run dir write steps s =
      ⟨carry dir write steps s, none, steps.flatMap (Step.eventsIn dir),
        steps.filterMap Step.lookup?⟩ := by
  have hrun := run_append_of_isFound dir write h [] s
  rw [List.append_nil] at hrun
  rw [hrun]
  simp [run]

/-- Steps that write nothing leave a spec as it is. -/
theorem carry_of_idle {steps : List Step} (h : ∀ step ∈ steps, ∀ path s, write step path s = s)
    (s : σ) : carry dir write steps s = s := by
  induction steps with
  | nil => rfl
  | cons step steps ih =>
    obtain ⟨hstep, hsteps⟩ := List.forall_mem_cons.1 h
    show carry dir write steps (write step (step.pathIn dir) s) = s
    rw [hstep, ih hsteps]

/-- What holds from before to after each step whose datastore is found holds from before to after
a run, whether it succeeds or fails. -/
theorem run_induction {R : σ → σ → Prop} (hrefl : ∀ s, R s s)
    (htrans : ∀ s s' s'', R s s' → R s' s'' → R s s'')
    (hwrite : ∀ step, step.isFound dir = true → ∀ s, R s (write step (step.pathIn dir) s))
    (steps : List Step) (s : σ) : R s (run dir write steps s).spec := by
  induction steps generalizing s with
  | nil => exact hrefl s
  | cons step steps ih =>
    cases hfound : step.isFound dir with
    | true =>
      rw [run_cons_of_isFound dir write hfound]
      exact htrans _ _ _ (hwrite step hfound s) (ih _)
    | false =>
      obtain ⟨id, e, -, -, hrun⟩ := run_cons_of_not_isFound dir write hfound steps s
      rw [hrun]
      exact hrefl s

end

/-! ## The last write wins -/

section

variable {σ α β : Type} (dir : DatastoreDirectory) (write : Step → Text → σ → σ)

/-- A part of a spec that each step either sets or leaves alone, and in which nothing shows of
what was set before, ends as the last step that sets it makes it. -/
theorem carry_lastSet (part : σ → α) (set? : Step → Option β) (set : β → α → α)
    (hwrite : ∀ step s, part (write step (step.pathIn dir) s) =
      (set? step).elim (part s) fun b => set b (part s))
    (hset : ∀ b b' a, set b (set b' a) = set b a) (steps : List Step) (s : σ) :
    part (carry dir write steps s) =
      (steps.filterMap set?).getLast?.elim (part s) fun b => set b (part s) := by
  induction steps generalizing s with
  | nil => rfl
  | cons step steps ih =>
    have hstep : carry dir write (step :: steps) s =
        carry dir write steps (write step (step.pathIn dir) s) := rfl
    rw [hstep, ih, hwrite]
    cases hs : set? step with
    | none =>
      rw [List.filterMap_cons_none hs]
      rfl
    | some b' =>
      rw [List.filterMap_cons_some hs, List.getLast?_cons]
      cases (steps.filterMap set?).getLast? with
      | none => rfl
      | some b => exact hset b b' (part s)

end

end PodPlacement
