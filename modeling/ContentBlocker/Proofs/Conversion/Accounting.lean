import ContentBlocker.Proofs.Blocker.RoundTrip
import ContentBlocker.Proofs.Conversion.Isolation

/-!
# The accounts of a job

Every rule that was read is counted once: as waiting, cancelled, refused, or in one of the
categories.

* `Bucket.all` lists the categories, and `length_inBucket_all` counts what is in them;
* `Job.Books` describes a job by the lines it has read and the rules it has converted;
* `Job.books_step` says that a slice keeps the description, `Job.books_advance` that every run does;
* `Job.accounts_balance` states the equations between counters and lists, during a conversion and
  for its result.
-/

namespace ContentBlocker

/-! ### Categories -/

/-- All categories. -/
def Bucket.all : List Bucket :=
  [cssBlocking, cssExceptions, extendedCssBlocking, cosmeticCssExceptions, script, scriptExceptions,
    scriptlets, scriptletExceptions, generichideExceptions, elemhideExceptions, jsinjectExceptions,
    urlBlocking, important, importantExceptions, documentExceptions, other]

theorem inBucket_cons (k : Bucket) (e : Emitted) (es : List Emitted) :
    inBucket k (e :: es) = if e.bucket = k then e.rule :: inBucket k es else inBucket k es := by
  by_cases h : e.bucket = k <;> simp [inBucket, h]

/-- Every converted rule is in one category. -/
theorem length_inBucket_all (emitted : List Emitted) :
    (Bucket.all.map fun k => (inBucket k emitted).length).sum = emitted.length := by
  induction emitted with
  | nil => rfl
  | cons e es ih =>
    have hone : (Bucket.all.map fun k => if e.bucket = k then 1 else 0).sum = 1 := by
      cases e.bucket <;> rfl
    have hcons : ∀ k, (inBucket k (e :: es)).length =
        (if e.bucket = k then 1 else 0) + (inBucket k es).length := by
      intro k
      rw [inBucket_cons]
      split_ifs <;> simp [Nat.add_comm]
    simp only [hcons, List.sum_map_add, hone, ih, List.length_cons, Nat.add_comm]

/-! ### Converting rules -/

/-- A rule is converted or refused. -/
theorem length_converted?_add_fault? [Externals] (rs : List Rule) :
    (rs.filterMap Rule.converted?).length + (rs.filterMap Rule.fault?).length = rs.length := by
  induction rs with
  | nil => rfl
  | cons r rs ih =>
    rcases h : r.emit with ⟨notes, e | b⟩
    · simp [Rule.converted?, Rule.fault?, h]
      omega
    · simp [Rule.converted?, Rule.fault?, h]
      omega

namespace Job

open Badfilters

theorem length_cancelled_add_uncancelled (bs : Badfilters) (rs : List Rule) :
    (cancelled bs rs).length + (uncancelled bs rs).length = rs.length := by
  simpa [cancelled, uncancelled, List.countP_eq_length_filter] using
    (List.length_eq_countP_add_countP (fun r => decide (r.text ∈ bs)) (l := rs)).symm

section Accounts

variable [Externals]

/-! ### The books of a job -/

/-- The job has read the lines `read` of `sources` and has converted, refused or cancelled the rules
`treated`. -/
structure Books (sources read : List Source) (treated : List Rule) (j : Job) : Prop where
  queue : read ++ j.queue = sources
  waiting : treated ++ j.waiting = plain (rulesIn read)
  idle : j.queue ≠ [] → treated = []
  processed : j.processed = treated.length
  emitted : j.emitted = (uncancelled j.badfilters treated).filterMap Rule.converted?
  errors : j.errors =
    faultsIn read ++ (uncancelled j.badfilters treated).filterMap Rule.fault?
  parseErrors : j.stats.parseErrors = (faultsIn read).length
  conversionErrors : j.stats.conversionErrors =
    ((uncancelled j.badfilters treated).filterMap Rule.fault?).length
  badfilteredRules : j.stats.badfilteredRules = (cancelled j.badfilters treated).length

theorem books_start (sources : List Source) (options : ConvertOptions) :
    (start sources options).Books sources [] [] :=
  ⟨rfl, rfl, fun _ => rfl, rfl, rfl, rfl, rfl, rfl, rfl⟩

theorem Books.step_reading {sources read : List Source} {treated : List Rule} {j : Job}
    (h : j.Books sources read treated) (hq : j.queue ≠ []) :
    ∃ now, j.step.1.Books sources (read ++ now) [] := by
  -- nothing was converted yet, so that new targets change nothing of what was
  obtain rfl := h.idle hq
  have hs := slice_append j.options.chunkSize j.queue
  rw [Job.step_reading hq]
  generalize slice j.options.chunkSize j.queue = s at hs ⊢
  obtain ⟨now, later⟩ := s
  have hqueue : read ++ now ++ later = sources := by
    rw [List.append_assoc, hs, h.queue]
  have hwaiting : j.waiting ++ plain (rulesIn now) = plain (rulesIn (read ++ now)) := by
    rw [rulesIn_append, plain_append, ← h.waiting, List.nil_append]
  have herrors : j.errors ++ faultsIn now = faultsIn (read ++ now) := by
    rw [faultsIn_append, h.errors]
    simp [uncancelled]
  have hparse : j.stats.parseErrors + (faultsIn now).length = (faultsIn (read ++ now)).length := by
    rw [h.parseErrors, faultsIn_append, List.length_append]
  refine ⟨now, ?_⟩
  simp only [readSlice_eq]
  exact
    { queue := hqueue
      waiting := hwaiting
      idle := fun _ => rfl
      processed := h.processed
      emitted := h.emitted
      errors := by rw [herrors]; simp [uncancelled]
      parseErrors := hparse
      conversionErrors := h.conversionErrors
      badfilteredRules := h.badfilteredRules }

theorem Books.step_emitting {sources read : List Source} {treated : List Rule} {j : Job}
    (h : j.Books sources read treated) (hq : j.queue = []) (hw : j.waiting ≠ []) :
    ∃ now, j.step.1.Books sources read (treated ++ now) := by
  have hs := slice_append j.options.chunkSize j.waiting
  rw [Job.step_emitting hq hw]
  generalize slice j.options.chunkSize j.waiting = s at hs ⊢
  obtain ⟨now, later⟩ := s
  have hwaiting : treated ++ now ++ later = plain (rulesIn read) := by
    rw [List.append_assoc, hs, h.waiting]
  refine ⟨now, ?_⟩
  simp only [emitAll_eq]
  exact
    { queue := h.queue
      waiting := hwaiting
      idle := fun hne => absurd hq hne
      processed := by simp [withConverted, h.processed]
      emitted := by simp [withConverted, h.emitted]
      errors := by simp [withConverted, h.errors]
      parseErrors := h.parseErrors
      conversionErrors := by simp [withConverted, h.conversionErrors]
      badfilteredRules := by simp [withConverted, h.badfilteredRules] }

/-- A slice keeps the books. -/
theorem books_step {sources read : List Source} {treated : List Rule} {j : Job}
    (h : j.Books sources read treated) :
    ∃ read' treated', j.step.1.Books sources read' treated' := by
  by_cases hq : j.queue = []
  · by_cases hw : j.waiting = []
    · rw [step_done hq hw]
      exact ⟨read, treated, { h with }⟩
    · obtain ⟨now, hnow⟩ := h.step_emitting hq hw
      exact ⟨_, _, hnow⟩
  · obtain ⟨now, hnow⟩ := h.step_reading hq
    exact ⟨_, _, hnow⟩

/-- Any number of slices keep the books. -/
theorem books_advance {sources read : List Source} {treated : List Rule} {j : Job}
    (h : j.Books sources read treated) (before : Diagnostics) (n : ℕ) :
    ∃ read' treated', (j.advance before n).1.Books sources read' treated' := by
  induction n generalizing j before read treated with
  | zero => exact ⟨read, treated, h⟩
  | succ n ih =>
    obtain ⟨read', treated', hstep⟩ := books_step h
    rw [advance_succ]
    exact ih hstep _

namespace Books

variable {sources read : List Source} {treated : List Rule} {j : Job}
  (h : j.Books sources read treated)
include h

theorem errors_length : j.errors.length = j.stats.parseErrors + j.stats.conversionErrors := by
  rw [h.errors, List.length_append, h.parseErrors, h.conversionErrors]

theorem processed_eq :
    j.processed = j.stats.badfilteredRules + j.stats.conversionErrors + j.emitted.length := by
  have hsplit := length_cancelled_add_uncancelled j.badfilters treated
  have hconverted := length_converted?_add_fault? (uncancelled j.badfilters treated)
  rw [h.processed, h.badfilteredRules, h.conversionErrors, h.emitted]
  omega

theorem waiting_eq : j.waiting = (plain (rulesIn read)).drop j.processed := by
  rw [← h.waiting, h.processed, List.drop_left]

theorem processed_le : j.processed ≤ (plain (rulesIn read)).length := by
  rw [← h.waiting, h.processed, List.length_append]
  omega

theorem nothing_emitted (hq : j.queue ≠ []) : j.processed = 0 ∧ j.emitted = [] := by
  obtain rfl := h.idle hq
  exact ⟨h.processed, h.emitted⟩

end Books

end Accounts

/-! ### Results -/

theorem conclude_errorsCount (j : Job) :
    j.conclude.1.errorsCount = j.conclude.1.errors.length := rfl

/-- Making the result counts no further errors. -/
theorem conclude_stats_errors (j : Job) :
    j.conclude.1.stats.parseErrors = j.stats.parseErrors ∧
      j.conclude.1.stats.conversionErrors = j.stats.conversionErrors := by
  obtain ⟨applied, conflicts, hstats⟩ := conclude_stats j
  rw [hstats]
  exact ⟨rfl, rfl⟩

/-- The basic output of a result is read again as the rules that it counts. -/
theorem readAll?_conclude (j : Job) :
    ∃ rules, BlockerRule.readAll? j.conclude.1.converted = some rules ∧
      rules.length = j.conclude.1.convertedCount := by
  obtain ⟨-, hcount, -, -⟩ := conclude_limit j
  refine ⟨j.basicOutput, ?_, hcount.symm⟩
  rw [(conclude_outputs j).1, BlockerRule.readAll?_writeAll]

/-- **The accounts of a job balance**, after any number of slices of a conversion.  While lines are
left to read, no rule was converted.  The rules that wait are those that were read without those
that were processed.  There is one message for each counted error, and each processed rule is
counted as cancelled, as refused, or in its category.  If there were lines at all, the conversion
ends with a result: its messages are those of reading, in the order of the lines, then those of
converting, in the order of the rules, and then one if the limit was exceeded; and its output is
read as so many rules as it counts. -/
theorem accounts_balance [Externals] (sources : List Source) (options : ConvertOptions) (n : ℕ) :
    let j := ((start sources options).advance [] n).1
    (j.queue ≠ [] → j.processed = 0 ∧ ∀ k, inBucket k j.emitted = []) ∧
    (∃ read, read ++ j.queue = sources ∧ j.processed ≤ (plain (rulesIn read)).length ∧
      j.waiting = (plain (rulesIn read)).drop j.processed) ∧
    j.errors.length = j.stats.parseErrors + j.stats.conversionErrors ∧
    j.processed = j.stats.badfilteredRules + j.stats.conversionErrors +
      (Bucket.all.map fun k => (inBucket k j.emitted).length).sum ∧
    match j.finish.1 with
    | none => sources = []
    | some R =>
      R.errorsCount = R.errors.length ∧
      R.errors.length =
        R.stats.parseErrors + R.stats.conversionErrors + (if R.overLimit then 1 else 0) ∧
      (∃ ofReading ofConverting : List Text,
        ofReading = faultsIn sources ∧
        ofConverting = (survivors (rulesIn sources)).filterMap Rule.fault? ∧
        ofReading.length = R.stats.parseErrors ∧ ofConverting.length = R.stats.conversionErrors ∧
        R.errors =
          ofReading ++ ofConverting ++ if R.overLimit then [limitError options.limit] else []) ∧
      ∃ rules, BlockerRule.readAll? R.converted = some rules ∧ rules.length = R.convertedCount := by
  intro j
  obtain ⟨read, treated, h⟩ := books_advance (books_start sources options) [] n
  refine ⟨fun hq => ?_, ⟨read, h.queue, h.processed_le, h.waiting_eq⟩, h.errors_length, ?_, ?_⟩
  · obtain ⟨hprocessed, hemitted⟩ := h.nothing_emitted hq
    exact ⟨hprocessed, fun k => by rw [hemitted]; rfl⟩
  · rw [length_inBucket_all]
    exact h.processed_eq
  · rw [finish_start_fst]
    split_ifs with hs
    · exact hs
    · let k := final sources options
      obtain ⟨hparse, hconversion⟩ := conclude_stats_errors k
      have herrors := conclude_errors k
      have hlength : k.errors.length = k.stats.parseErrors + k.stats.conversionErrors :=
        List.length_append
      refine ⟨conclude_errorsCount k, ?_, ⟨_, _, rfl, rfl, hparse.symm, hconversion.symm, herrors⟩,
        readAll?_conclude k⟩
      rw [herrors, List.length_append, hlength, hparse, hconversion]
      split_ifs <;> rfl

end Job
end ContentBlocker
