import ContentBlocker.Proofs.Conversion.Outcome

/-!
# Counting in bounded numbers

A job may count in numbers that end with a largest one: a sum beyond it does not exist, nor does a
difference below zero.

* `add?` and `sub?` are the sums and differences that exist, and `addUpTo` is a sum that stops at
  the largest number;
* `Job.step?` is a slice in which everything is counted with these, and which fails where a number
  does not exist;
* `Job.Fits` says that the numbers of a job are not beyond the largest one up to its end, and
  `step?_eq` that the next slice is then what it is with all numbers;
* `fits_start`: if the lines, the rules and the targets can be counted, a conversion fits.
-/

namespace ContentBlocker

/-! ### Bounded numbers -/

namespace Bounded

/-- The sum of two numbers, if it is not beyond the largest number `top`. -/
def add? (top m n : ℕ) : Option ℕ := if m + n ≤ top then some (m + n) else none

/-- The difference of two numbers, if it is not below zero. -/
def sub? (m n : ℕ) : Option ℕ := if n ≤ m then some (m - n) else none

/-- The sum of two numbers, or the largest number if the sum is beyond it. -/
def addUpTo (top m n : ℕ) : ℕ := min (m + n) top

theorem add?_eq {top m n : ℕ} (h : m + n ≤ top) : add? top m n = some (m + n) := if_pos h

theorem sub?_eq {m n : ℕ} (h : n ≤ m) : sub? m n = some (m - n) := if_pos h

end Bounded

namespace Job

open Badfilters Bounded

/-- The most that one slice takes, where a size of zero stands for the largest number. -/
def sliceLimit (top size : ℕ) : ℕ := if size = 0 then top else size

variable [Externals]

/-- Read the lines of one slice. -/
def readSlice? (top : ℕ) (j : Job) (sources : List Source) : Option (Job × Diagnostics) := do
  let results := sources.map readSource
  let errors := readErrors results
  let (kept, targets) := j.badfilters.collect (readRules results)
  let parseErrors ← add? top j.stats.parseErrors errors.length
  let registered ← sub? targets.length j.badfilters.length
  let badfilterRules ← add? top j.stats.badfilterRules registered
  some ({ j with
      waiting := j.waiting ++ kept
      badfilters := targets
      errors := j.errors ++ errors
      stats := { j.stats with parseErrors, badfilterRules } },
    errors.map .debug)

/-- Convert one rule. -/
def emitRule? (top : ℕ) (j : Job) (r : Rule) : Option (Job × Diagnostics) := do
  let processed ← add? top j.processed 1
  let j := { j with processed }
  if j.badfilters.contains r.text then
    let badfilteredRules ← add? top j.stats.badfilteredRules 1
    some ({ j with stats := { j.stats with badfilteredRules } }, [badfilterNote r])
  else match r.emit with
    | (notes, .ok b) => some ({ j with emitted := j.emitted ++ [⟨Bucket.of r b, b⟩] }, notes)
    | (notes, .error e) =>
      let conversionErrors ← add? top j.stats.conversionErrors 1
      some ({ j with
          errors := j.errors ++ [emitError r e]
          stats := { j.stats with conversionErrors } },
        notes ++ [.debug (emitError r e)])

/-- Convert some rules in turn. -/
def emitAll? (top : ℕ) (j : Job) : List Rule → Option (Job × Diagnostics)
  | [] => some (j, [])
  | r :: rs => do
    let (j, notes) ← j.emitRule? top r
    let (j, more) ← j.emitAll? top rs
    some (j, notes ++ more)

/-- Do the next slice. -/
def step? (top : ℕ) (j : Job) : Option (Job × Progress × Diagnostics) := do
  let first := j.banner
  let limit := sliceLimit top j.options.chunkSize
  let j := { j with isStarted := true }
  if !j.queue.isEmpty then
    let count := min limit j.queue.length
    let (j, notes) ← { j with queue := j.queue.drop count }.readSlice? top (j.queue.take count)
    let processed ← sub? j.inputLength j.queue.length
    some (j, .parsing processed j.inputLength, first ++ notes)
  else if !j.waiting.isEmpty then
    let total ← add? top j.processed j.waiting.length
    let stop := min (addUpTo top j.processed limit) total
    let count ← sub? stop j.processed
    let (j, notes) ← { j with waiting := j.waiting.drop count }.emitAll? top (j.waiting.take count)
    some (j, .emitting stop total, first ++ notes)
  else some (j, .done, first)

/-! ### Counters -/

/-- No counter is beyond the largest number. -/
structure Counts (top : ℕ) (j : Job) : Prop where
  processed : j.processed ≤ top
  parseErrors : j.stats.parseErrors ≤ top
  conversionErrors : j.stats.conversionErrors ≤ top
  badfilterRules : j.stats.badfilterRules ≤ top
  badfilteredRules : j.stats.badfilteredRules ≤ top

variable {top : ℕ} {j : Job}

/-! A slice only adds to the counters. -/

theorem Counts.of_readSlice {sources : List Source} (h : (j.readSlice sources).1.Counts top) :
    j.Counts top := by
  rw [readSlice_eq] at h
  exact ⟨h.processed, Nat.le_of_add_right_le h.parseErrors, h.conversionErrors,
    Nat.le_of_add_right_le h.badfilterRules, h.badfilteredRules⟩

theorem Counts.of_emitAll {rs : List Rule} (h : (j.emitAll rs).1.Counts top) : j.Counts top := by
  rw [emitAll_eq] at h
  exact ⟨Nat.le_of_add_right_le h.processed, h.parseErrors,
    Nat.le_of_add_right_le h.conversionErrors, h.badfilterRules,
    Nat.le_of_add_right_le h.badfilteredRules⟩

/-- So a counter that is not beyond the largest number at the end never is. -/
theorem Counts.of_drain (h : j.drain.1.Counts top) : j.Counts top := by
  -- the two large slices begin with jobs that differ from this one, but in no counter
  obtain ⟨h₁, h₂, h₃, h₄, h₅⟩ := h.of_emitAll
  have hread : ({ j with isStarted := true, queue := [] }.readSlice j.queue).1.Counts top :=
    ⟨h₁, h₂, h₃, h₄, h₅⟩
  obtain ⟨h₁, h₂, h₃, h₄, h₅⟩ := hread.of_readSlice
  exact ⟨h₁, h₂, h₃, h₄, h₅⟩

theorem drain_processed (j : Job) :
    j.drain.1.processed = j.processed + j.waiting.length + (plain (rulesIn j.queue)).length := by
  simp only [drain, readSlice_eq, emitAll_eq, withConverted, List.length_append, Nat.add_assoc]

/-! ### Slices -/

theorem readSlice?_eq {sources : List Source} (h : (j.readSlice sources).1.Counts top) :
    j.readSlice? top sources = some (j.readSlice sources) := by
  have hgrow : j.badfilters.length ≤
      (j.badfilters.collect (readRules (sources.map readSource))).2.length := by
    rw [collect, collectRules_eq]
    exact length_le_insertAll _ _
  have herrors : j.stats.parseErrors + (readErrors (sources.map readSource)).length ≤ top :=
    h.parseErrors
  have htargets : j.stats.badfilterRules +
      ((j.badfilters.collect (readRules (sources.map readSource))).2.length -
        j.badfilters.length) ≤ top := h.badfilterRules
  simp only [readSlice?, add?_eq herrors, sub?_eq hgrow, add?_eq htargets, Option.bind_eq_bind,
    Option.bind_some]
  rfl

theorem emitRule?_eq {r : Rule} (h : (j.emitRule r).1.Counts top) :
    j.emitRule? top r = some (j.emitRule r) := by
  have hp : j.processed + 1 ≤ top := by
    have := h.processed
    rwa [emitRule_eq] at this
  unfold emitRule at h ⊢
  simp only [emitRule?, add?_eq hp, Option.bind_eq_bind, Option.bind_some]
  dsimp only at h
  split at h
  · next hb =>
    have hn : j.stats.badfilteredRules + 1 ≤ top := h.badfilteredRules
    simp only [if_pos hb, add?_eq hn, Option.bind_some]
  · next hb =>
    rcases he : r.emit with ⟨notes, e | b⟩
    · rw [he] at h
      have hn : j.stats.conversionErrors + 1 ≤ top := h.conversionErrors
      simp only [if_neg hb, add?_eq hn, Option.bind_some]
    · simp only [if_neg hb]

theorem emitAll?_eq {rs : List Rule} (h : (j.emitAll rs).1.Counts top) :
    j.emitAll? top rs = some (j.emitAll rs) := by
  induction rs generalizing j with
  | nil => rfl
  | cons r rs ih =>
    have hrest : ((j.emitRule r).1.emitAll rs).1.Counts top := h
    simp only [emitAll?, emitRule?_eq hrest.of_emitAll, ih hrest, Option.bind_eq_bind,
      Option.bind_some]
    rfl

omit [Externals] in
/-- What one slice takes, when all that is left can be counted. -/
theorem slice_eq_limit {α : Type} (top size : ℕ) {xs : List α} (h : xs.length ≤ top) :
    slice size xs =
      (xs.take (min (sliceLimit top size) xs.length),
        xs.drop (min (sliceLimit top size) xs.length)) := by
  unfold slice sliceLimit
  split
  · rw [Nat.min_eq_right h, List.take_length, List.drop_length]
  · rw [List.take_eq_take_min, List.drop_eq_drop_min]

/-- The numbers of a job, up to its end, are not beyond the largest one. -/
structure Fits (top : ℕ) (j : Job) : Prop where
  counts : j.drain.1.Counts top
  queue_le : j.queue.length ≤ j.inputLength
  inputLength_le : j.inputLength ≤ top

/-- A slice leaves a job that fits. -/
theorem Fits.step (h : j.Fits top) : j.step.1.Fits top := by
  refine ⟨?_, ?_, ?_⟩
  · have := h.counts
    rwa [drain_step] at this
  · have hle : (slice j.options.chunkSize j.queue).2.length ≤ j.queue.length := by
      have := congrArg List.length (slice_append j.options.chunkSize j.queue)
      rw [List.length_append] at this
      omega
    rw [step_inputLength, step_queue]
    exact hle.trans h.queue_le
  · rw [step_inputLength]
    exact h.inputLength_le

/-- So do some slices. -/
theorem Fits.advance (h : j.Fits top) (before : Diagnostics) (n : ℕ) :
    (j.advance before n).1.Fits top := by
  induction n generalizing j before with
  | zero => exact h
  | succ n ih => exact ih h.step _

theorem step?_eq_of_reading (h : j.Fits top) (hq : j.queue ≠ []) :
    j.step? top = some j.step := by
  have hnext : j.step.1.Counts top := h.step.counts.of_drain
  have hle := h.queue_le
  rw [step_reading hq, slice_eq_limit top _ (hle.trans h.inputLength_le)] at hnext ⊢
  simp only [step?, List.isEmpty_eq_false_iff.2 hq, Bool.not_false, if_true]
  generalize min (sliceLimit top j.options.chunkSize) j.queue.length = count at hnext ⊢
  have hdone := sub?_eq (show (j.queue.drop count).length ≤ j.inputLength by
    rw [List.length_drop]
    omega)
  exact Option.bind_eq_some_iff.2 ⟨_, readSlice?_eq hnext,
    Option.bind_eq_some_iff.2 ⟨_, hdone, rfl⟩⟩

theorem step?_eq_of_emitting (h : j.Fits top) (hq : j.queue = []) (hw : j.waiting ≠ []) :
    j.step? top = some j.step := by
  have hnext : j.step.1.Counts top := h.step.counts.of_drain
  have htotal : j.processed + j.waiting.length ≤ top := by
    have := h.counts.processed
    rw [drain_processed] at this
    exact Nat.le_of_add_right_le this
  rw [step_emitting hq hw, slice_eq_limit top _ (Nat.le_of_add_left_le htotal)] at hnext ⊢
  simp only [step?, List.isEmpty_iff.2 hq, List.isEmpty_eq_false_iff.2 hw, Bool.not_true,
    Bool.not_false, if_true]
  generalize sliceLimit top j.options.chunkSize = limit at hnext ⊢
  -- the total is not beyond the largest number, so that it decides where the slice ends
  have hstop : min (addUpTo top j.processed limit) (j.processed + j.waiting.length) =
      j.processed + min limit j.waiting.length := by
    unfold addUpTo
    omega
  have hcount : sub? (j.processed + min limit j.waiting.length) j.processed =
      some (min limit j.waiting.length) := by
    rw [sub?_eq (Nat.le_add_right ..), Nat.add_sub_cancel_left]
  refine Option.bind_eq_some_iff.2 ⟨_, add?_eq htotal, ?_⟩
  rw [hstop]
  refine Option.bind_eq_some_iff.2 ⟨_, hcount, ?_⟩
  refine Option.bind_eq_some_iff.2 ⟨_, emitAll?_eq hnext, ?_⟩
  simp [emitAll_eq, withConverted]

/-- Where all numbers fit, counting in bounded numbers is counting. -/
theorem step?_eq (h : j.Fits top) : j.step? top = some j.step := by
  by_cases hq : j.queue = []
  · by_cases hw : j.waiting = []
    · rw [step_done hq hw]
      simp [step?, hq, hw]
    · exact step?_eq_of_emitting h hq hw
  · exact step?_eq_of_reading h hq

/-- If the lines, the rules and the targets can be counted, a conversion fits. -/
theorem fits_start {sources : List Source} (options : ConvertOptions)
    (hlines : sources.length ≤ top) (hrules : (plain (rulesIn sources)).length ≤ top)
    (htargets : (targets (rulesIn sources)).dedup.length ≤ top) :
    (start sources options).Fits top := by
  have hsurvivors : (survivors (rulesIn sources)).length ≤ top :=
    (List.length_filter_le ..).trans hrules
  have hfaults : (faultsIn sources).length ≤ sources.length :=
    (List.length_filterMap_le ..).trans_eq (List.length_map ..)
  refine ⟨?_, Nat.le_refl _, hlines⟩
  rw [drain_start]
  exact {
    processed := hrules
    parseErrors := hfaults.trans hlines
    conversionErrors := (List.length_filterMap_le ..).trans hsurvivors
    badfilterRules := htargets
    badfilteredRules := (List.length_filter_le ..).trans hrules }

end Job
end ContentBlocker
