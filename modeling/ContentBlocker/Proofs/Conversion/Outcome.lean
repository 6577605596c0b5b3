import ContentBlocker.Conversion.Result
import ContentBlocker.Proofs.Conversion.Runs

/-!
# The outcome of a conversion

The job at the end of a conversion depends on the lines and the settings alone, and so does the
result that is made of it.

* `final` is the job at the end, written down field by field, and `run_start` says that it is;
* `conclude` makes the result of a job whose rules are all converted;
* `Agrees` relates two jobs of which the same result is made.
-/

namespace ContentBlocker.Job

open Badfilters

variable [Externals]

/-! ### The job at the end -/

/-- The rules that stay when all targets are known: those that cancel nothing and are not
cancelled. -/
def survivors (rs : List Rule) : List Rule := uncancelled (targets rs) (plain rs)

/-- The job at the end of a conversion. -/
def final (sources : List Source) (options : ConvertOptions) : Job :=
  let rules := rulesIn sources
  { options, inputLength := sources.length, queue := [], isStarted := true, waiting := []
    badfilters := insertAll [] (targets rules)
    processed := (plain rules).length
    emitted := (survivors rules).filterMap Rule.converted?
    errors := faultsIn sources ++ (survivors rules).filterMap Rule.fault?
    stats :=
      { inputRules := sources.length
        parseErrors := (faultsIn sources).length
        conversionErrors := ((survivors rules).filterMap Rule.fault?).length
        badfilterRules := (targets rules).dedup.length
        badfilteredRules := (cancelled (targets rules) (plain rules)).length } }

/-- What is said in a conversion until all rules are converted. -/
def finalNotes (sources : List Source) (options : ConvertOptions) : Diagnostics :=
  let rules := rulesIn sources
  (start sources options).banner ++ (faultsIn sources).map .debug ++
    (plain rules).flatMap (emitNotes (targets rules))

/-! Only membership in the set of targets counts. -/

section Membership

variable {bs cs : Badfilters} (h : ∀ t, t ∈ bs ↔ t ∈ cs)
include h

omit [Externals] in
theorem uncancelled_congr (rs : List Rule) : uncancelled bs rs = uncancelled cs rs := by
  simp only [uncancelled, h]

omit [Externals] in
theorem cancelled_congr (rs : List Rule) : cancelled bs rs = cancelled cs rs := by
  simp only [cancelled, h]

theorem emitNotes_congr : emitNotes bs = emitNotes cs := by
  funext r
  simp only [emitNotes, h]

end Membership

theorem drain_start (sources : List Source) (options : ConvertOptions) :
    (start sources options).drain = (final sources options, finalNotes sources options) := by
  have h : ∀ t, t ∈ insertAll [] (targets (rulesIn sources)) ↔ t ∈ targets (rulesIn sources) := by
    simp [mem_insertAll]
  simp only [drain, start, readSlice_eq, emitAll_eq, withConverted, final, finalNotes, survivors,
    uncancelled_congr h, cancelled_congr h, emitNotes_congr h, length_insertAll, List.length_nil,
    Nat.zero_add, Nat.sub_zero, List.nil_append]

/-- After any number of slices, the run of a conversion ends with the same job, and the same is
said. -/
theorem run_start (sources : List Source) (options : ConvertOptions) (before : Diagnostics)
    (n : ℕ) :
    let (j, said) := (start sources options).advance before n
    j.run.1 = final sources options ∧
      said ++ j.run.2 = before ++ finalNotes sources options := by
  have h := drain_advance (start sources options) before n
  rwa [drain_start, ← run_eq_drain] at h

/-! ### The result -/

/-- Make the result of a job whose rules are all converted. -/
def conclude (j : Job) : ConversionResult × Diagnostics :=
  let (sections, k, notes) := j.aggregate
  let (result, more) := k.result sections
  (result, notes ++ more)

theorem finish_eq (j : Job) :
    j.finish =
      if j.inputLength = 0 then (none, [.info "No rules presented for conversion"])
      else (some j.run.1.conclude.1, j.run.2 ++ j.run.1.conclude.2) := by
  simp only [finish, conclude, List.append_assoc]

/-- Two jobs agree in all that results are made of. -/
structure Agrees (j k : Job) : Prop where
  limit : j.options.limit = k.options.limit
  optimize : j.options.optimize = k.options.optimize
  advancedBlocking : j.options.advancedBlocking = k.options.advancedBlocking
  inputLength : j.inputLength = k.inputLength
  emitted : j.emitted = k.emitted
  errors : j.errors = k.errors
  stats : j.stats = k.stats

omit [Externals] in
/-- Of jobs that agree the same result is made. -/
theorem conclude_congr {j k : Job} (h : j.Agrees k) : j.conclude = k.conclude := by
  obtain ⟨⟨_, _, advanced, _⟩, _, _, _, _, _, _, _, _, _⟩ := j
  obtain ⟨⟨_, _, _, _⟩, _, _, _, _, _, _, _, _, _⟩ := k
  obtain ⟨rfl, rfl, rfl, rfl, rfl, rfl, rfl⟩ := h
  cases advanced <;> rfl

theorem final_agrees_of_chunkSize (sources : List Source) (options : ConvertOptions) (size : ℕ) :
    (final sources { options with chunkSize := size }).Agrees (final sources options) :=
  ⟨rfl, rfl, rfl, rfl, rfl, rfl, rfl⟩

omit [Externals] in
/-- Making the result counts exceptions and changes no other counter. -/
theorem conclude_stats (j : Job) :
    ∃ applied conflicts : ℕ, j.conclude.1.stats =
      { j.stats with exceptionsApplied := applied, exceptionConflicts := conflicts } := by
  simp only [conclude, aggregate]
  split <;> exact ⟨_, _, rfl⟩

@[simp] theorem step_inputLength (j : Job) : j.step.1.inputLength = j.inputLength := by
  by_cases hq : j.queue = []
  · by_cases hw : j.waiting = []
    · rw [step_done hq hw]
    · simp only [step_emitting hq hw, emitAll_eq, withConverted_inputLength]
  · rw [step_reading hq]
    rfl

@[simp] theorem advance_inputLength (j : Job) (before : Diagnostics) (n : ℕ) :
    (j.advance before n).1.inputLength = j.inputLength := by
  induction n generalizing j before with
  | zero => rfl
  | succ n ih => rw [advance_succ, ih, step_inputLength]

/-- After any number of slices, a conversion of some lines ends with the result that is made of the
final job, and the same is said. -/
theorem finish_start {sources : List Source} (hs : sources ≠ []) (options : ConvertOptions)
    (before : Diagnostics) (n : ℕ) :
    let (j, said) := (start sources options).advance before n
    j.finish.1 = some (final sources options).conclude.1 ∧
      said ++ j.finish.2 =
        before ++ (finalNotes sources options ++ (final sources options).conclude.2) := by
  obtain ⟨hj, hn⟩ := run_start sources options before n
  have hl : ((start sources options).advance before n).1.inputLength ≠ 0 := by
    simpa [start] using hs
  simp only [finish_eq, if_neg hl, hj, true_and]
  rw [← List.append_assoc, hn, List.append_assoc]

/-- The result of a conversion, after any number of slices: nothing results from no lines. -/
theorem finish_start_fst (sources : List Source) (options : ConvertOptions) (before : Diagnostics)
    (n : ℕ) :
    ((start sources options).advance before n).1.finish.1 =
      if sources = [] then none else some (final sources options).conclude.1 := by
  split_ifs with hs
  · rw [hs]
    simp [finish_eq, start]
  · exact (finish_start hs options before n).1

end ContentBlocker.Job
