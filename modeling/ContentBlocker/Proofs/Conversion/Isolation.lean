import ContentBlocker.Proofs.Conversion.Cancelling
import ContentBlocker.Proofs.Conversion.Settings

/-!
# Lines of which nothing comes

A line that cannot be read, that holds no rule, or whose rules the converter refuses leaves the
other lines alone, wherever it stands.

* `Job.IsBarren` says that no rule comes of a line;
* `Job.readMessages` and `Job.convertMessages` are what is said of such a line;
* `Job.final_insert` compares the jobs at the end of two conversions, with the line and without it;
* `Job.convert_insert_barren` compares the results.
-/

namespace ContentBlocker.Job

open Badfilters

section Barren

variable [Externals]

/-! ### One line -/

/-- No rule comes of a line: it cannot be read, it holds no rule, or its rules cancel nothing and
are all refused by the converter. -/
def IsBarren (line : Text) : Prop :=
  ∀ rule, FilterRule.readLine line = .ok (some rule) →
    ∀ r ∈ rule.parts, r.badfilter? = none ∧ ∃ e, r.emit.2 = .error e

/-- What is said when a line is read. -/
def readMessages (line : Text) : List Text :=
  match FilterRule.readLine line with
  | .error e => [readError line e]
  | .ok _ => []

/-- What is said when the rules in a line are converted, those that a target cancels excepted. -/
def convertMessages (bs : Badfilters) (line : Text) : List Text :=
  match FilterRule.readLine line with
  | .ok (some rule) => (uncancelled bs rule.parts).filterMap Rule.fault?
  | _ => []

theorem faultsIn_text (line : Text) : faultsIn [.text line] = readMessages line := by
  rcases h : FilterRule.readLine line with e | rule <;>
    simp [faultsIn, readErrors, readSource, readMessages, h]

theorem rulesIn_text (line : Text) :
    rulesIn [.text line] =
      match FilterRule.readLine line with
      | .ok (some rule) => rule.parts
      | _ => [] := by
  rcases h : FilterRule.readLine line with e | _ | rule <;>
    simp [rulesIn, readRules, readSource, h]

theorem convertMessages_eq (bs : Badfilters) (line : Text) :
    convertMessages bs line = (uncancelled bs (rulesIn [.text line])).filterMap Rule.fault? := by
  rw [convertMessages, rulesIn_text]
  rcases FilterRule.readLine line with e | _ | rule <;> rfl

theorem converted?_eq_none_iff {r : Rule} : r.converted? = none ↔ ∃ e, r.emit.2 = .error e := by
  rcases h : r.emit with ⟨notes, e | b⟩ <;> simp [Rule.converted?, h]

theorem fault?_eq_some_of_error {r : Rule} {e : RuleError} (h : r.emit.2 = .error e) :
    r.fault? = some (emitError r e) := by
  rcases hr : r.emit with ⟨notes, e' | b⟩
  · obtain rfl : e' = e := by simpa [hr] using h
    simp [Rule.fault?, hr]
  · simp [hr] at h

theorem isBarren_iff {line : Text} :
    IsBarren line ↔ ∀ r ∈ rulesIn [.text line], r.badfilter? = none ∧ r.converted? = none := by
  rw [rulesIn_text, IsBarren]
  simp only [converted?_eq_none_iff]
  rcases FilterRule.readLine line with e | _ | rule <;> simp

instance (line : Text) : Decidable (IsBarren line) := decidable_of_iff _ isBarren_iff.symm

namespace IsBarren

variable {line : Text} (h : IsBarren line)
include h

theorem targets_eq_nil : targets (rulesIn [.text line]) = [] :=
  List.filterMap_eq_nil_iff.2 fun r hr => (isBarren_iff.1 h r hr).1

theorem plain_eq : plain (rulesIn [.text line]) = rulesIn [.text line] :=
  List.filter_eq_self.2 fun r hr => decide_eq_true (isBarren_iff.1 h r hr).1

theorem filterMap_converted? (bs : Badfilters) :
    (uncancelled bs (rulesIn [.text line])).filterMap Rule.converted? = [] :=
  List.filterMap_eq_nil_iff.2 fun r hr => (isBarren_iff.1 h r (List.mem_of_mem_filter hr)).2

/-- One message for every rule that is not cancelled. -/
theorem length_convertMessages (bs : Badfilters) {rule : FilterRule}
    (hl : FilterRule.readLine line = .ok (some rule)) :
    (convertMessages bs line).length = rule.parts.countP (·.text ∉ bs) := by
  have hall : ∀ r ∈ uncancelled bs rule.parts, r.fault?.isSome := by
    intro r hr
    obtain ⟨-, e, he⟩ := h rule hl r (List.mem_of_mem_filter hr)
    rw [fault?_eq_some_of_error he]
    rfl
  have hmessages : convertMessages bs line = (uncancelled bs rule.parts).filterMap Rule.fault? := by
    rw [convertMessages, hl]
  rw [hmessages, List.filterMap_length_eq_length.2 hall, uncancelled, List.countP_eq_length_filter]

end IsBarren

/-! ### Jobs at the end -/

/-- What is said of the rules in some lines when they are converted. -/
def convertFaults (bs : Badfilters) (sources : List Source) : List Text :=
  (uncancelled bs (plain (rulesIn sources))).filterMap Rule.fault?

@[simp] theorem convertFaults_append (bs : Badfilters) (ss ts : List Source) :
    convertFaults bs (ss ++ ts) = convertFaults bs ss ++ convertFaults bs ts := by
  simp [convertFaults]

theorem final_errors (sources : List Source) (options : ConvertOptions) :
    (final sources options).errors =
      faultsIn sources ++ convertFaults (targets (rulesIn sources)) sources := rfl

/-- The jobs at the end of a conversion with a line of which nothing comes, and without it. -/
theorem final_insert (before after : List Source) {line : Text} (h : IsBarren line)
    (options : ConvertOptions) :
    let bs := targets (rulesIn (before ++ after))
    let j := final (before ++ after) options
    let k := final (before ++ .text line :: after) options
    k.emitted = j.emitted ∧
      j.errors = faultsIn before ++ (faultsIn after ++ convertFaults bs before) ++
        convertFaults bs after ∧
      k.errors = faultsIn before ++ readMessages line ++
        (faultsIn after ++ convertFaults bs before) ++ convertMessages bs line ++
        convertFaults bs after := by
  intro bs j k
  have hrules : rulesIn (before ++ .text line :: after) =
      rulesIn before ++ (rulesIn [.text line] ++ rulesIn after) := by
    rw [rulesIn_append, rulesIn_cons]
  have hfaults : faultsIn (before ++ .text line :: after) =
      faultsIn before ++ (readMessages line ++ faultsIn after) := by
    rw [faultsIn_append, faultsIn_cons, faultsIn_text]
  have htargets : targets (rulesIn (before ++ .text line :: after)) = bs := by
    simp only [bs, hrules, rulesIn_append, targets_append, h.targets_eq_nil, List.nil_append]
  have hmessages : convertFaults bs (before ++ .text line :: after) =
      convertFaults bs before ++ (convertMessages bs line ++ convertFaults bs after) := by
    simp only [convertFaults, hrules, plain_append, uncancelled_append, List.filterMap_append,
      h.plain_eq, convertMessages_eq]
  refine ⟨?_, ?_, ?_⟩
  · show (survivors _).filterMap Rule.converted? = (survivors _).filterMap Rule.converted?
    rw [survivors, survivors, htargets, hrules]
    simp only [rulesIn_append, plain_append, uncancelled_append, List.filterMap_append, h.plain_eq,
      h.filterMap_converted?, List.nil_append, bs]
  · rw [final_errors]
    simp only [faultsIn_append, convertFaults_append, List.append_assoc, bs]
  · rw [final_errors, htargets, hfaults, hmessages]
    simp only [List.append_assoc]

end Barren

/-! ### Results -/

/-- The sections of a job depend on its settings and on what was converted alone. -/
theorem aggregate_congr {j k : Job} (ho : j.options = k.options) (he : j.emitted = k.emitted) :
    j.aggregate.1 = k.aggregate.1 := by
  obtain ⟨⟨_, _, advanced, _⟩, _, _, _, _, _, _, _, _, _⟩ := j
  obtain ⟨⟨_, _, _, _⟩, _, _, _, _, _, _, _, _, _⟩ := k
  cases ho
  cases he
  cases advanced <;> rfl

/-- So does all that a result says but its messages and counters. -/
theorem conclude_outputs_congr {j k : Job} (ho : j.options = k.options)
    (he : j.emitted = k.emitted) :
    j.conclude.1.converted = k.conclude.1.converted ∧
      j.conclude.1.advancedBlocking = k.conclude.1.advancedBlocking ∧
      j.conclude.1.totalConvertedCount = k.conclude.1.totalConvertedCount ∧
      j.conclude.1.convertedCount = k.conclude.1.convertedCount ∧
      j.conclude.1.overLimit = k.conclude.1.overLimit := by
  have hsections := aggregate_congr ho he
  have hbasic : j.basicOutput = k.basicOutput := by
    rw [basicOutput_eq, basicOutput_eq, hsections, ho, he]
  have hadvanced : j.advancedOutput = k.advancedOutput := by
    rw [advancedOutput_eq, advancedOutput_eq, hsections, ho, he]
  obtain ⟨hj, hj'⟩ := conclude_outputs j
  obtain ⟨hk, hk'⟩ := conclude_outputs k
  obtain ⟨htotal, hcount, hover, -⟩ := conclude_limit j
  obtain ⟨htotal', hcount', hover', -⟩ := conclude_limit k
  refine ⟨?_, ?_, ?_, ?_, ?_⟩
  · rw [hj, hk, hbasic]
  · rw [hj', hk', hadvanced]
  · rw [htotal, htotal', hsections, he]
  · rw [hcount, hcount', hbasic]
  · rw [hover, hover', hsections, ho, he]

/-- The messages of a result are those of its job, and one more if the limit was exceeded. -/
theorem conclude_errors (j : Job) :
    j.conclude.1.errors =
      j.errors ++ if j.conclude.1.overLimit then [limitError j.options.limit] else [] := by
  obtain ⟨-, -, hover, herrors⟩ := conclude_limit j
  rw [herrors, hover]

/-- **A line of which nothing comes leaves the others alone.**  Take a line that cannot be read,
that holds no rule, or whose rules cancel nothing and are all refused by the converter, and put it
anywhere among other lines.  The outputs, their counts and the flag of the limit stay.  The messages
of the others stay in order: the line adds its own when it is read, one if it cannot be read, and
when its rules are converted, one for each that is not cancelled. -/
theorem convert_insert_barren [Externals] {before after : List Source} (hs : before ++ after ≠ [])
    {line : Text} (h : IsBarren line) (options : ConvertOptions) :
    let bs := targets (rulesIn (before ++ after))
    ∃ R R' : ConversionResult,
      (convert (before ++ after) options).1 = some R ∧
      (convert (before ++ .text line :: after) options).1 = some R' ∧
      R'.converted = R.converted ∧ R'.advancedBlocking = R.advancedBlocking ∧
      R'.totalConvertedCount = R.totalConvertedCount ∧ R'.convertedCount = R.convertedCount ∧
      R'.overLimit = R.overLimit ∧
      ∃ first middle last : List Text,
        first = faultsIn before ∧ middle = faultsIn after ++ convertFaults bs before ∧
        last = convertFaults bs after ++ (if R.overLimit then [limitError options.limit] else []) ∧
        R.errors = first ++ middle ++ last ∧
        R'.errors =
          first ++ readMessages line ++ middle ++ convertMessages bs line ++ last ∧
        match FilterRule.readLine line with
        | .error e => readMessages line = [readError line e] ∧ convertMessages bs line = []
        | .ok none => readMessages line = [] ∧ convertMessages bs line = []
        | .ok (some rule) => readMessages line = [] ∧
            (convertMessages bs line).length = rule.parts.countP (·.text ∉ bs) := by
  intro bs
  let j := final (before ++ after) options
  let k := final (before ++ .text line :: after) options
  obtain ⟨hemitted, herrors, herrors'⟩ := final_insert before after h options
  have hR : (convert (before ++ after) options).1 = some j.conclude.1 :=
    (finish_start hs options [] 0).1
  have hR' : (convert (before ++ .text line :: after) options).1 = some k.conclude.1 :=
    (finish_start (by simp) options [] 0).1
  obtain ⟨hconverted, hadvanced, htotal, hcount, hover⟩ :=
    conclude_outputs_congr (j := k) (k := j) rfl hemitted
  refine ⟨_, _, hR, hR', hconverted, hadvanced, htotal, hcount, hover, _, _, _, rfl, rfl, rfl,
    ?_, ?_, ?_⟩
  · rw [conclude_errors, herrors, List.append_assoc _ (convertFaults bs after)]
    rfl
  · rw [conclude_errors, herrors', hover, List.append_assoc _ (convertFaults bs after)]
    rfl
  · rcases hl : FilterRule.readLine line with e | _ | rule
    · simp [readMessages, convertMessages, hl]
    · simp [readMessages, convertMessages, hl]
    · exact ⟨by simp [readMessages, hl], h.length_convertMessages bs hl⟩

/-- A rule with both kinds of domains, between a line that cannot be read and another such rule. -/
theorem convert_insert_barren_mixed :
    let before : List Source := [.text "||ads.org^$network"]
    let after : List Source := [.text "a.org,~b.org##.ad", .text "||ads.org^"]
    let line : Text := "c.org,~d.org##.ad"
    before ++ after ≠ [] ∧ IsBarren line ∧
      ∃ (R R' : ConversionResult) (unread mixed own : Text),
        (convert (before ++ after) {}).1 = some R ∧
        (convert (before ++ .text line :: after) {}).1 = some R' ∧
        R'.converted = R.converted ∧ R'.convertedCount = R.convertedCount ∧
        R.errors = [unread, mixed] ∧ R'.errors = [unread, own, mixed] := by
  intro before after line
  have hs : before ++ after ≠ [] := by simp [before]
  have hline : IsBarren line := by decide +kernel
  obtain ⟨R, R', hR, hR', hconverted, -, -, hcount, -, first, middle, last, rfl, rfl, rfl, herrors,
    herrors', -⟩ := convert_insert_barren hs hline {}
  have hover : R.overLimit = false := by
    rw [Option.some.inj (hR.symm.trans (finish_start hs {} [] 0).1)]
    decide +kernel
  obtain ⟨unread, hfirst⟩ : ∃ t, faultsIn before = [t] :=
    List.length_eq_one_iff.1 (by decide +kernel)
  obtain ⟨own, hown⟩ : ∃ t, convertMessages (targets (rulesIn (before ++ after))) line = [t] :=
    List.length_eq_one_iff.1 (by decide +kernel)
  obtain ⟨mixed, hlast⟩ : ∃ t, convertFaults (targets (rulesIn (before ++ after))) after = [t] :=
    List.length_eq_one_iff.1 (by decide +kernel)
  have hmiddle : faultsIn after ++
      convertFaults (targets (rulesIn (before ++ after))) before = [] := by
    decide +kernel
  have hread : readMessages line = [] := by decide +kernel
  refine ⟨hs, hline, R, R', unread, mixed, own, hR, hR', hconverted, hcount, ?_, ?_⟩
  · rw [herrors, hfirst, hmiddle, hlast, hover]
    rfl
  · rw [herrors', hfirst, hread, hmiddle, hown, hlast, hover]
    rfl

end ContentBlocker.Job
