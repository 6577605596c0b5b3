import ContentBlocker.Proofs.Conversion.Slices
import Mathlib.Tactic

/-!
# Runs of a job

A job is run slice by slice, and each slice leaves less to do, so that every run ends.

* `advance` does some slices and records what they say;
* `RunsFor` says after how many slices the run of a job ends;
* `drain` does all that is left in two large slices, and `run_eq_drain` says that a run comes to the
  same.
-/

namespace ContentBlocker.Job

open Badfilters

/-! ### One slice -/

theorem slice_append {α : Type} (size : ℕ) (xs : List α) :
    (slice size xs).1 ++ (slice size xs).2 = xs := by
  unfold slice
  split <;> simp

variable [Externals]

/-- While lines are left, a slice reads the first of them. -/
theorem step_reading {j : Job} (h : j.queue ≠ []) :
    j.step =
      let (now, later) := slice j.options.chunkSize j.queue
      let k := { j with isStarted := true, queue := later }.readSlice now
      (k.1, .parsing (j.inputLength - later.length) j.inputLength, j.banner ++ k.2) := by
  simp only [step, List.isEmpty_eq_false_iff.2 h, Bool.not_false, if_true]
  rfl

/-- When all lines are read and rules are left, a slice converts the first of them. -/
theorem step_emitting {j : Job} (hq : j.queue = []) (hw : j.waiting ≠ []) :
    j.step =
      let (now, later) := slice j.options.chunkSize j.waiting
      let k := { j with isStarted := true, waiting := later }.emitAll now
      (k.1, .emitting k.1.processed (j.processed + j.waiting.length), j.banner ++ k.2) := by
  simp [step, hq, hw]

/-- When nothing is left, a slice changes nothing but the mark that the job was begun. -/
theorem step_done {j : Job} (hq : j.queue = []) (hw : j.waiting = []) :
    j.step = ({ j with isStarted := true }, .done, j.banner) := by
  simp [step, hq, hw]

omit [Externals] in
theorem isDone_iff {j : Job} : j.isDone = true ↔ j.queue = [] ∧ j.waiting = [] := by
  simp [isDone]

/-- A slice answers that nothing was left exactly if nothing was left. -/
theorem step_eq_done_iff (j : Job) : j.step.2.1 = .done ↔ j.isDone = true := by
  rw [isDone_iff]
  by_cases hq : j.queue = []
  · by_cases hw : j.waiting = []
    · simp [step_done, hq, hw]
    · simp [step_emitting hq hw, hw]
  · simp [step_reading hq, hq]

omit [Externals] in
@[simp] theorem slice_nil {α : Type} (size : ℕ) : slice size ([] : List α) = ([], []) := by
  simp [slice]

/-- A slice takes lines from the front, if any are left. -/
theorem step_queue (j : Job) : j.step.1.queue = (slice j.options.chunkSize j.queue).2 := by
  by_cases hq : j.queue = []
  · by_cases hw : j.waiting = []
    · simp [step_done hq hw, hq]
    · simp [step_emitting hq hw, emitAll_queue, hq]
  · rw [step_reading hq]
    rfl

/-! ### Some slices -/

/-- Do `n` slices and record what they say behind what was recorded before. -/
def advance (j : Job) (before : Diagnostics) : ℕ → Job × Diagnostics
  | 0 => (j, before)
  | n + 1 => j.step.1.advance (before ++ j.step.2.2) n

@[simp] theorem advance_zero (j : Job) (before : Diagnostics) : j.advance before 0 = (j, before) :=
  rfl

theorem advance_succ (j : Job) (before : Diagnostics) (n : ℕ) :
    j.advance before (n + 1) = j.step.1.advance (before ++ j.step.2.2) n := rfl

/-- Some slices and then some more. -/
theorem advance_add (j : Job) (before : Diagnostics) (m n : ℕ) :
    j.advance before (m + n) =
      (j.advance before m).1.advance (j.advance before m).2 n := by
  induction m generalizing j before with
  | zero => rw [Nat.zero_add, advance_zero]
  | succ m ih => rw [Nat.succ_add, advance_succ, ih, ← advance_succ]

theorem advance_succ_fst (j : Job) (before : Diagnostics) (n : ℕ) :
    (j.advance before (n + 1)).1 = (j.advance before n).1.step.1 := by
  rw [advance_add, advance_succ, advance_zero]

/-- What was recorded before stays in front and changes nothing. -/
theorem advance_eq (j : Job) (before : Diagnostics) (n : ℕ) :
    j.advance before n = ((j.advance [] n).1, before ++ (j.advance [] n).2) := by
  induction n generalizing j before with
  | zero => simp
  | succ n ih =>
    simp only [advance_succ, List.nil_append]
    rw [ih, ih _ j.step.2.2, List.append_assoc]

/-- The run of a job ends with the slice behind `n` others, which is the first that finds nothing to
do. -/
structure RunsFor (j : Job) (n : ℕ) : Prop where
  busy : ∀ i < n, (j.advance [] i).1.step.2.1 ≠ .done
  done : (j.advance [] n).1.step.2.1 = .done
  run_eq : j.run = j.advance [] (n + 1)

/-- To prove something of every job, prove it when nothing is left, and else from what the next
slice leaves. -/
@[elab_as_elim]
theorem runInduction {P : Job → Prop} (done : ∀ j : Job, j.isDone = true → P j)
    (step : ∀ j : Job, j.isDone = false → P j.step.1 → P j) (j : Job) : P j := by
  induction j using run.induct with
  | case1 j next p notes hs hd last rest hr ih => exact step j hd (by rw [hs]; exact ih)
  | case2 j next p notes hs hd => exact done j (by simpa using hd)

theorem run_of_isDone {j : Job} (h : j.isDone = true) : j.run = (j.step.1, j.step.2.2) := by
  rw [run]
  simp [h]

theorem run_of_not_isDone {j : Job} (h : j.isDone = false) :
    j.run = (j.step.1.run.1, j.step.2.2 ++ j.step.1.run.2) := by
  rw [run]
  simp [h]

/-- Every run ends. -/
theorem exists_runsFor (j : Job) : ∃ n, j.RunsFor n := by
  induction j using runInduction with
  | done j h =>
    refine ⟨0, by simp, (step_eq_done_iff j).2 h, ?_⟩
    rw [run_of_isDone h, advance_succ]
    rfl
  | step j h ih =>
    obtain ⟨n, hn⟩ := ih
    refine ⟨n + 1, ?_, ?_, ?_⟩
    · rintro (_ | i) hi
      · simp [step_eq_done_iff, h]
      · rw [advance_succ, advance_eq]
        exact hn.busy i (by omega)
    · rw [advance_succ, advance_eq]
      exact hn.done
    · rw [run_of_not_isDone h, hn.run_eq, advance_succ j, List.nil_append, advance_eq _ j.step.2.2]

/-! ### All slices at once -/

/-- Read all lines that are left, then convert all rules. -/
def drain (j : Job) : Job × Diagnostics :=
  let k := { j with isStarted := true, queue := [] }.readSlice j.queue
  let l := { k.1 with waiting := [] }.emitAll k.1.waiting
  (l.1, j.banner ++ k.2 ++ l.2)

omit [Externals] in
theorem banner_of_isStarted {j : Job} (h : j.isStarted = true) : j.banner = [] := by
  simp [banner, h]

/-- When all lines are read, only the conversion of rules is left. -/
theorem drain_of_queue_nil {j : Job} (hq : j.queue = []) :
    j.drain =
      let l := { j with isStarted := true, waiting := [] }.emitAll j.waiting
      (l.1, j.banner ++ l.2) := by
  obtain ⟨o, n, q, s, w, b, p, e, f, t⟩ := j
  obtain rfl : q = [] := hq
  simp only [drain, readSlice_nil, List.append_nil]

theorem drain_step_of_emitting {j : Job} (hq : j.queue = []) (hw : j.waiting ≠ []) :
    j.drain = (j.step.1.drain.1, j.step.2.2 ++ j.step.1.drain.2) := by
  have hs := slice_append j.options.chunkSize j.waiting
  rw [step_emitting hq hw]
  generalize slice j.options.chunkSize j.waiting = s at hs ⊢
  obtain ⟨now, later⟩ := s
  -- the job with nothing waiting, to which the two slices are then added in turn
  let k : Job := { j with isStarted := true, waiting := [] }
  let m : Job := ({ j with isStarted := true, waiting := later }.emitAll now).1
  have hnotes : ({ j with isStarted := true, waiting := later }.emitAll now).2 =
      (k.emitAll now).2 := by simp only [k, emitAll_eq]
  have hm : m = { (k.emitAll now).1 with waiting := later } := by
    simp only [m, k, emitAll_eq]
    rfl
  have hmq : m.queue = [] := by rw [hm]; simpa only [k, emitAll_queue] using hq
  have hmk : { m with isStarted := true, waiting := [] } = (k.emitAll now).1 := by
    rw [hm]
    simp only [k, emitAll_eq]
    rfl
  have hmb : m.banner = [] := banner_of_isStarted (by rw [hm]; simp only [k, emitAll_eq]; rfl)
  have hmw : m.waiting = later := by rw [hm]
  have hmd : m.drain = ((k.emitAll now).1.emitAll later) := by
    rw [drain_of_queue_nil hmq, hmk, hmb, hmw]
    rfl
  calc j.drain = ((k.emitAll j.waiting).1, j.banner ++ (k.emitAll j.waiting).2) :=
        drain_of_queue_nil hq
    _ = (m.drain.1, j.banner ++ (k.emitAll now).2 ++ m.drain.2) := by
        rw [← hs, emitAll_append, hmd, List.append_assoc]
    _ = _ := by rw [← hnotes]

theorem drain_step_of_reading {j : Job} (hq : j.queue ≠ []) :
    j.drain = (j.step.1.drain.1, j.step.2.2 ++ j.step.1.drain.2) := by
  have hs := slice_append j.options.chunkSize j.queue
  rw [step_reading hq]
  generalize slice j.options.chunkSize j.queue = s at hs ⊢
  obtain ⟨now, later⟩ := s
  let k : Job := { j with isStarted := true, queue := [] }
  let m : Job := ({ j with isStarted := true, queue := later }.readSlice now).1
  have hm : { m with isStarted := true, queue := [] } = (k.readSlice now).1 := rfl
  have hmb : m.banner = [] := banner_of_isStarted rfl
  have hmd : m.drain =
      let r := (k.readSlice now).1.readSlice later
      let l := { r.1 with waiting := [] }.emitAll r.1.waiting
      (l.1, r.2 ++ l.2) := by
    unfold drain
    rw [hm, hmb]
    rfl
  calc j.drain =
        (let r := k.readSlice (now ++ later)
        let l := { r.1 with waiting := [] }.emitAll r.1.waiting
        (l.1, j.banner ++ r.2 ++ l.2)) := by rw [hs]; rfl
    _ = (m.drain.1, j.banner ++ (k.readSlice now).2 ++ m.drain.2) := by
        rw [readSlice_append, hmd]
        simp only [List.append_assoc]

theorem drain_of_isDone {j : Job} (hq : j.queue = []) (hw : j.waiting = []) :
    j.drain = ({ j with isStarted := true }, j.banner) := by
  rw [drain_of_queue_nil hq]
  simp only [hw, emitAll, List.append_nil]

/-- A slice leaves the whole of what is left unchanged. -/
theorem drain_step (j : Job) : j.drain = (j.step.1.drain.1, j.step.2.2 ++ j.step.1.drain.2) := by
  by_cases hq : j.queue = []
  · by_cases hw : j.waiting = []
    · let k : Job := { j with isStarted := true }
      have hk : k.drain = (k, []) := by
        rw [drain_of_isDone (j := k) hq hw, banner_of_isStarted (j := k) rfl]
      rw [step_done hq hw, drain_of_isDone hq hw, hk, List.append_nil]
    · exact drain_step_of_emitting hq hw
  · exact drain_step_of_reading hq

/-- So do some slices. -/
theorem drain_advance (j : Job) (before : Diagnostics) (n : ℕ) :
    (j.advance before n).1.drain.1 = j.drain.1 ∧
      (j.advance before n).2 ++ (j.advance before n).1.drain.2 = before ++ j.drain.2 := by
  induction n generalizing j before with
  | zero => exact ⟨rfl, rfl⟩
  | succ n ih =>
    obtain ⟨h₁, h₂⟩ := ih j.step.1 (before ++ j.step.2.2)
    rw [advance_succ, drain_step j]
    exact ⟨h₁, by rw [h₂, List.append_assoc]⟩

/-- A run does all that is left. -/
theorem run_eq_drain (j : Job) : j.run = j.drain := by
  induction j using runInduction with
  | done j h =>
    obtain ⟨hq, hw⟩ := isDone_iff.1 h
    rw [run_of_isDone h, step_done hq hw, drain_of_isDone hq hw]
  | step j h ih => rw [run_of_not_isDone h, ih, drain_step j]

end ContentBlocker.Job
