import ContentBlocker.Blocker.Emit
import ContentBlocker.Conversion.Badfilter
import ContentBlocker.Conversion.Bucket
import ContentBlocker.Conversion.Options
import ContentBlocker.Filter.Line

/-!
# Conversion jobs

A conversion runs in slices, so that the caller can do something else in between.  First all lines
are read, then all rules are converted; so a badfilter rule cancels rules before it too.

* `Job` is a conversion under way;
* `Job.step` does the next slice;
* `Job.run` does all that is left.
-/

namespace ContentBlocker

variable [Externals]

/-- A line to convert. -/
inductive Source where
  /-- A line as it is written. -/
  | text (t : Text)
  /-- A line that was read before. -/
  | parsed (r : FilterRule)
  deriving DecidableEq, Repr

/-- The counters of a conversion. -/
structure ConversionStats where
  /-- The lines. -/
  inputRules : Nat := 0
  /-- The lines that could not be read. -/
  parseErrors : Nat := 0
  /-- The rules that could not be converted. -/
  conversionErrors : Nat := 0
  /-- The targets of badfilter rules. -/
  badfilterRules : Nat := 0
  /-- The rules that were cancelled. -/
  badfilteredRules : Nat := 0
  /-- The exceptions that undo some rule. -/
  exceptionsApplied : Nat := 0
  /-- The rules that exceptions left with both lists of domains. -/
  exceptionConflicts : Nat := 0
  deriving DecidableEq, Repr

/-- A conversion under way. -/
structure Job where
  /-- The settings. -/
  options : ConvertOptions
  /-- The number of lines. -/
  inputLength : Nat
  /-- The lines not yet read. -/
  queue : List Source
  /-- Some slice was begun. -/
  isStarted : Bool
  /-- The rules that were read and are not yet converted. -/
  waiting : List Rule
  /-- The targets of the badfilter rules that were read. -/
  badfilters : Badfilters
  /-- The number of rules that were converted, refused or cancelled. -/
  processed : Nat
  /-- The converted rules, in order. -/
  emitted : List Emitted
  /-- What went wrong, in order. -/
  errors : List Text
  /-- The counters. -/
  stats : ConversionStats
  deriving DecidableEq, Repr

/-- What a slice did. -/
inductive Progress where
  /-- Some lines were read. -/
  | parsing (processed total : Nat)
  /-- Some rules were converted. -/
  | emitting (processed total : Nat)
  /-- Nothing was left to do. -/
  | done
  deriving DecidableEq, Repr

namespace Job

/-- A job that has done nothing yet. -/
def start (sources : List Source) (options : ConvertOptions) : Job :=
  { options, inputLength := sources.length, queue := sources, isStarted := false, waiting := []
    badfilters := [], processed := 0, emitted := [], errors := []
    stats := { inputRules := sources.length } }

/-- Nothing is left to do. -/
def isDone (j : Job) : Bool := j.queue.isEmpty && j.waiting.isEmpty

/-- The first slice of a list, and the rest; a size of zero takes all. -/
def slice {α : Type} (size : Nat) (xs : List α) : List α × List α :=
  if size = 0 then (xs, []) else (xs.take size, xs.drop size)

/-! ### Reading -/

/-- What is said of a line that cannot be read. -/
def readError (text : Text) (e : RuleError) : Text :=
  "Error creating rule from: ".toList ++ text ++ " cause: ".toList ++ e.message

/-- Read one line: the rules in it, or what went wrong. -/
def readSource : Source → Except Text (Option FilterRule)
  | .parsed r => .ok (some r)
  | .text t =>
    match FilterRule.readLine t with
    | .ok r => .ok r
    | .error e => .error (readError t e)

/-- The rules that were read. -/
def readRules (results : List (Except Text (Option FilterRule))) : List FilterRule :=
  results.filterMap fun
    | .ok r => r
    | .error _ => none

/-- What went wrong. -/
def readErrors (results : List (Except Text (Option FilterRule))) : List Text :=
  results.filterMap fun
    | .ok _ => none
    | .error e => some e

/-- Read the lines of one slice. -/
def readSlice (j : Job) (sources : List Source) : Job × Diagnostics :=
  let results := sources.map readSource
  let errors := readErrors results
  let (kept, targets) := j.badfilters.collect (readRules results)
  ({ j with
      waiting := j.waiting ++ kept
      badfilters := targets
      errors := j.errors ++ errors
      stats := { j.stats with
        parseErrors := j.stats.parseErrors + errors.length
        badfilterRules := j.stats.badfilterRules + (targets.length - j.badfilters.length) } },
    errors.map .debug)

/-! ### Converting -/

/-- What is said of a rule that cannot be converted. -/
def emitError (r : Rule) (e : RuleError) : Text :=
  "Error converting rule from: ".toList ++ r.text ++ " cause: ".toList ++ e.message

/-- What is said of a rule that is cancelled. -/
def badfilterNote (r : Rule) : Diagnostic :=
  .info ("Rule ".toList ++ r.text ++ " removed with a $badfilter modifier".toList)

/-- Convert one rule. -/
def emitRule (j : Job) (r : Rule) : Job × Diagnostics :=
  let j := { j with processed := j.processed + 1 }
  if j.badfilters.contains r.text then
    ({ j with stats := { j.stats with badfilteredRules := j.stats.badfilteredRules + 1 } },
      [badfilterNote r])
  else match r.emit with
    | (notes, .ok b) => ({ j with emitted := j.emitted ++ [⟨Bucket.of r b, b⟩] }, notes)
    | (notes, .error e) =>
      ({ j with
          errors := j.errors ++ [emitError r e]
          stats := { j.stats with conversionErrors := j.stats.conversionErrors + 1 } },
        notes ++ [.debug (emitError r e)])

/-- Convert some rules in turn. -/
def emitAll (j : Job) : List Rule → Job × Diagnostics
  | [] => (j, [])
  | r :: rs =>
    let (j, notes) := j.emitRule r
    let (j, more) := j.emitAll rs
    (j, notes ++ more)

/-! ### Slices -/

/-- The version in the first message. -/
def version : Text := "0.2.0"

/-- What is said when a job begins. -/
def banner (j : Job) : Diagnostics :=
  if j.isStarted then []
  else
    [.info ("Safari Content Blocker Converter v".toList ++ version),
      .info ("Converting ".toList ++ Text.decimal j.inputLength ++ " rules. Optimize=".toList ++
        (if j.options.optimize then "true".toList else "false".toList))]

/-- Do the next slice. -/
def step (j : Job) : Job × Progress × Diagnostics :=
  let first := j.banner
  let j := { j with isStarted := true }
  if !j.queue.isEmpty then
    let (now, later) := slice j.options.chunkSize j.queue
    let (j, notes) := { j with queue := later }.readSlice now
    (j, .parsing (j.inputLength - later.length) j.inputLength, first ++ notes)
  else if !j.waiting.isEmpty then
    let total := j.processed + j.waiting.length
    let (now, later) := slice j.options.chunkSize j.waiting
    let (j, notes) := { j with waiting := later }.emitAll now
    (j, .emitting j.processed total, first ++ notes)
  else (j, .done, first)

/-! ### Termination -/

omit [Externals] in
theorem slice_length_lt {α : Type} (size : Nat) {xs : List α} (h : xs ≠ []) :
    (slice size xs).2.length < xs.length := by
  have := List.length_pos_iff.2 h
  unfold slice
  split
  · simpa using this
  · simp only [List.length_drop]
    omega

theorem emitRule_queue (j : Job) (r : Rule) : (j.emitRule r).1.queue = j.queue := by
  unfold emitRule
  dsimp only
  split
  · rfl
  · split <;> rfl

theorem emitRule_waiting (j : Job) (r : Rule) : (j.emitRule r).1.waiting = j.waiting := by
  unfold emitRule
  dsimp only
  split
  · rfl
  · split <;> rfl

theorem emitAll_queue (j : Job) (rs : List Rule) : (j.emitAll rs).1.queue = j.queue := by
  induction rs generalizing j with
  | nil => rfl
  | cons r rs ih => simp only [emitAll, ih, emitRule_queue]

theorem emitAll_waiting (j : Job) (rs : List Rule) : (j.emitAll rs).1.waiting = j.waiting := by
  induction rs generalizing j with
  | nil => rfl
  | cons r rs ih => simp only [emitAll, ih, emitRule_waiting]

/-- A slice leaves fewer lines, or as many lines and fewer rules. -/
theorem step_progress (j : Job) (h : j.isDone = false) :
    Prod.Lex (· < ·) (· < ·) (j.step.1.queue.length, j.step.1.waiting.length)
      (j.queue.length, j.waiting.length) := by
  by_cases hq : j.queue = []
  · have hw : j.waiting ≠ [] := by
      intro hw
      simp [isDone, hq, hw] at h
    have hlt := slice_length_lt j.options.chunkSize hw
    have hstep : j.step.1.queue = j.queue ∧
        j.step.1.waiting = (slice j.options.chunkSize j.waiting).2 := by
      simp [step, hq, hw, emitAll_queue, emitAll_waiting]
    rw [hstep.1, hstep.2]
    exact Prod.Lex.right _ hlt
  · have hlt := slice_length_lt j.options.chunkSize hq
    have hstep : j.step.1.queue = (slice j.options.chunkSize j.queue).2 := by
      simp [step, hq, readSlice]
    rw [hstep]
    exact Prod.Lex.left _ _ hlt

/-- Do all that is left.  The last slice finds nothing to do. -/
def run (j : Job) : Job × Diagnostics :=
  match _hs : j.step with
  | (next, _, notes) =>
    if _h : j.isDone = false then
      let (last, rest) := next.run
      (last, notes ++ rest)
    else (next, notes)
termination_by (j.queue.length, j.waiting.length)
decreasing_by
  have h := step_progress j _h
  rwa [_hs] at h

end Job
end ContentBlocker
