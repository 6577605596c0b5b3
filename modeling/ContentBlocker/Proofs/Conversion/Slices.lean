import ContentBlocker.Conversion.Job
import ContentBlocker.Proofs.Conversion.Badfilters

/-!
# What a slice adds to a job

Both kinds of slices only add to a job, and what they add depends on the rules alone and on which
targets are known.

* `rulesIn` and `faultsIn` are what reading some lines gives;
* `Rule.converted?` and `Rule.fault?` are what converting a rule gives;
* `readSlice_eq` and `emitAll_eq` describe a slice of lines and a slice of rules field by field;
* `readSlice_append` and `emitAll_append` say that two slices in turn are one slice.
-/

namespace ContentBlocker

variable [Externals]

/-! ### Converting one rule -/

/-- What a rule is converted to, with its category. -/
def Rule.converted? (r : Rule) : Option Emitted :=
  match r.emit with
  | (_, .ok b) => some ⟨Bucket.of r b, b⟩
  | (_, .error _) => none

/-- What is said of a rule that cannot be converted. -/
def Rule.fault? (r : Rule) : Option Text :=
  match r.emit with
  | (_, .ok _) => none
  | (_, .error e) => some (Job.emitError r e)

theorem Rule.converted?_eq_some_iff {r : Rule} {e : Emitted} :
    r.converted? = some e ↔ r.emit.2 = .ok e.rule ∧ e.bucket = Bucket.of r e.rule := by
  obtain ⟨bucket, b⟩ := e
  rcases h : r.emit with ⟨notes, e' | b'⟩
  · simp [converted?, h]
  · simp only [converted?, h, Option.some.injEq, Emitted.mk.injEq, Except.ok.injEq]
    constructor
    · rintro ⟨rfl, rfl⟩
      exact ⟨rfl, rfl⟩
    · rintro ⟨rfl, rfl⟩
      exact ⟨rfl, rfl⟩

namespace Job

open Badfilters

/-! ### Reading lines -/

/-- The rules in some lines, those that a line stands for one by one. -/
def rulesIn (sources : List Source) : List Rule :=
  (readRules (sources.map readSource)).flatMap FilterRule.parts

/-- What is said of the lines that cannot be read. -/
def faultsIn (sources : List Source) : List Text := readErrors (sources.map readSource)

@[simp] theorem rulesIn_nil : rulesIn [] = [] := rfl

@[simp] theorem faultsIn_nil : faultsIn [] = [] := rfl

@[simp] theorem rulesIn_append (ss ts : List Source) :
    rulesIn (ss ++ ts) = rulesIn ss ++ rulesIn ts := by
  simp [rulesIn, readRules]

@[simp] theorem faultsIn_append (ss ts : List Source) :
    faultsIn (ss ++ ts) = faultsIn ss ++ faultsIn ts := by
  simp [faultsIn, readErrors]

theorem readSlice_eq (j : Job) (sources : List Source) :
    j.readSlice sources =
      ({ j with
          waiting := j.waiting ++ plain (rulesIn sources)
          badfilters := j.badfilters.insertAll (targets (rulesIn sources))
          errors := j.errors ++ faultsIn sources
          stats := { j.stats with
            parseErrors := j.stats.parseErrors + (faultsIn sources).length
            badfilterRules := j.stats.badfilterRules +
              ((j.badfilters.insertAll (targets (rulesIn sources))).length -
                j.badfilters.length) } },
        (faultsIn sources).map .debug) := by
  simp only [readSlice, collect, collectRules_eq]
  rfl

@[simp] theorem readSlice_nil (j : Job) : j.readSlice [] = (j, []) := by
  simp [readSlice_eq, plain, targets]

/-- Two slices of lines in turn are one slice. -/
theorem readSlice_append (j : Job) (ss ts : List Source) :
    j.readSlice (ss ++ ts) =
      (((j.readSlice ss).1.readSlice ts).1,
        (j.readSlice ss).2 ++ ((j.readSlice ss).1.readSlice ts).2) := by
  have h₁ := length_le_insertAll j.badfilters (targets (rulesIn ss))
  have h₂ := length_le_insertAll (j.badfilters.insertAll (targets (rulesIn ss)))
    (targets (rulesIn ts))
  simp only [readSlice_eq, rulesIn_append, faultsIn_append, plain_append, targets_append,
    insertAll_append, List.append_assoc, List.length_append, List.map_append, Nat.add_assoc,
    Prod.mk.injEq, Job.mk.injEq, ConversionStats.mk.injEq, and_self, and_true, true_and]
  omega

/-! ### Converting rules -/

/-- The rules that no known target cancels. -/
def uncancelled (bs : Badfilters) (rs : List Rule) : List Rule :=
  rs.filter fun r => r.text ∉ bs

/-- The rules that a known target cancels. -/
def cancelled (bs : Badfilters) (rs : List Rule) : List Rule :=
  rs.filter fun r => r.text ∈ bs

/-- What is said when a rule is converted. -/
def emitNotes (bs : Badfilters) (r : Rule) : Diagnostics :=
  if r.text ∈ bs then [badfilterNote r] else r.emit.1 ++ r.fault?.toList.map .debug

omit [Externals] in
theorem uncancelled_cons (bs : Badfilters) (r : Rule) (rs : List Rule) :
    uncancelled bs (r :: rs) =
      if r.text ∈ bs then uncancelled bs rs else r :: uncancelled bs rs := by
  by_cases h : r.text ∈ bs <;> simp [uncancelled, h]

omit [Externals] in
@[simp] theorem uncancelled_append (bs : Badfilters) (rs ss : List Rule) :
    uncancelled bs (rs ++ ss) = uncancelled bs rs ++ uncancelled bs ss := List.filter_append ..

omit [Externals] in
@[simp] theorem cancelled_append (bs : Badfilters) (rs ss : List Rule) :
    cancelled bs (rs ++ ss) = cancelled bs rs ++ cancelled bs ss := List.filter_append ..

/-- A job with what converting some rules adds to it. -/
def withConverted (j : Job) (rs : List Rule) : Job :=
  { j with
    processed := j.processed + rs.length
    emitted := j.emitted ++ (uncancelled j.badfilters rs).filterMap Rule.converted?
    errors := j.errors ++ (uncancelled j.badfilters rs).filterMap Rule.fault?
    stats := { j.stats with
      conversionErrors := j.stats.conversionErrors +
        ((uncancelled j.badfilters rs).filterMap Rule.fault?).length
      badfilteredRules := j.stats.badfilteredRules + (cancelled j.badfilters rs).length } }

@[simp] theorem withConverted_queue (j : Job) (rs : List Rule) :
    (j.withConverted rs).queue = j.queue := rfl

@[simp] theorem withConverted_waiting (j : Job) (rs : List Rule) :
    (j.withConverted rs).waiting = j.waiting := rfl

@[simp] theorem withConverted_badfilters (j : Job) (rs : List Rule) :
    (j.withConverted rs).badfilters = j.badfilters := rfl

@[simp] theorem withConverted_inputLength (j : Job) (rs : List Rule) :
    (j.withConverted rs).inputLength = j.inputLength := rfl

theorem withConverted_append (j : Job) (rs ss : List Rule) :
    j.withConverted (rs ++ ss) = (j.withConverted rs).withConverted ss := by
  simp [withConverted, Nat.add_assoc]

theorem emitRule_eq (j : Job) (r : Rule) :
    j.emitRule r = (j.withConverted [r], emitNotes j.badfilters r) := by
  unfold emitRule
  by_cases h : r.text ∈ j.badfilters
  · simp [withConverted, emitNotes, uncancelled, cancelled, h]
  · rcases he : r.emit with ⟨notes, b | e⟩ <;>
      simp [withConverted, emitNotes, uncancelled, cancelled, Rule.converted?, Rule.fault?, h, he]

theorem emitAll_eq (j : Job) (rs : List Rule) :
    j.emitAll rs = (j.withConverted rs, rs.flatMap (emitNotes j.badfilters)) := by
  induction rs generalizing j with
  | nil => simp [emitAll, withConverted, uncancelled, cancelled]
  | cons r rs ih =>
    simp only [emitAll, emitRule_eq, ih, withConverted_badfilters, List.flatMap_cons,
      ← withConverted_append, List.singleton_append]

/-- Two slices of rules in turn are one slice. -/
theorem emitAll_append (j : Job) (rs ss : List Rule) :
    j.emitAll (rs ++ ss) =
      (((j.emitAll rs).1.emitAll ss).1, (j.emitAll rs).2 ++ ((j.emitAll rs).1.emitAll ss).2) := by
  simp only [emitAll_eq, withConverted_badfilters, withConverted_append, List.flatMap_append]

end Job
end ContentBlocker
