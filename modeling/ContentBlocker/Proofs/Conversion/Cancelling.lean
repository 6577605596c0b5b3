import ContentBlocker.Proofs.Conversion.Outcome

/-!
# What badfilter rules cancel

Lines are read in slices and targets become known on the way, but a rule is handed to the converter
only when all targets are known.

* `handedIn` are the rules that some slices hand to the converter;
* `handedIn_run` says that a whole run hands over the rules that stay when all targets are known;
* `final_agrees_of_perm` says that lines with nothing but badfilter rules may stand anywhere;
* `badfilters_cancel` puts the two together with the counters.
-/

namespace ContentBlocker

/-- The line stands for badfilter rules and nothing else. -/
def Source.onlyCancels [Externals] (s : Source) : Bool :=
  match Job.readSource s with
  | .ok (some line) => line.parts.all (·.badfilter?.isSome)
  | _ => false

namespace Job

open Badfilters

section Handed

variable [Externals]

/-! ### The rules handed to the converter -/

/-- The rules among some that are handed to the converter when they are converted in turn. -/
def handedAll (j : Job) : List Rule → List Rule
  | [] => []
  | r :: rs =>
    if j.badfilters.contains r.text then (j.emitRule r).1.handedAll rs
    else r :: (j.emitRule r).1.handedAll rs

/-- The rules that the next slice hands to the converter. -/
def handed (j : Job) : List Rule :=
  if j.queue.isEmpty then
    let (now, later) := slice j.options.chunkSize j.waiting
    { j with isStarted := true, waiting := later }.handedAll now
  else []

/-- The rules that the next `n` slices hand to the converter. -/
def handedIn (j : Job) : ℕ → List Rule
  | 0 => []
  | n + 1 => j.handed ++ j.step.1.handedIn n

theorem handedAll_eq (j : Job) (rs : List Rule) : j.handedAll rs = uncancelled j.badfilters rs := by
  induction rs generalizing j with
  | nil => rfl
  | cons r rs ih =>
    simp only [handedAll, uncancelled_cons, emitRule_eq, ih, withConverted_badfilters,
      List.contains_iff_mem]

/-- The rules that all slices that are left hand to the converter. -/
def toHand (j : Job) : List Rule :=
  uncancelled (j.badfilters.insertAll (targets (rulesIn j.queue)))
    (j.waiting ++ plain (rulesIn j.queue))

theorem toHand_of_queue_nil {j : Job} (hq : j.queue = []) :
    j.toHand = uncancelled j.badfilters j.waiting := by
  simp [toHand, hq, plain, targets]

theorem toHand_start (sources : List Source) (options : ConvertOptions) :
    (start sources options).toHand = survivors (rulesIn sources) :=
  uncancelled_congr (by simp [start, mem_insertAll]) _

/-- What a slice hands over is the first part of what all slices hand over. -/
theorem toHand_step (j : Job) : j.toHand = j.handed ++ j.step.1.toHand := by
  by_cases hq : j.queue = []
  · have hs := slice_append j.options.chunkSize j.waiting
    have hh : j.handed = uncancelled j.badfilters (slice j.options.chunkSize j.waiting).1 := by
      simp only [handed, hq, List.isEmpty_nil, if_true, handedAll_eq]
    have hk : j.step.1.toHand =
        uncancelled j.badfilters (slice j.options.chunkSize j.waiting).2 := by
      by_cases hw : j.waiting = []
      · rw [hw] at hs ⊢
        rw [step_done hq hw, (List.append_eq_nil_iff.1 hs).2, toHand_of_queue_nil (by exact hq)]
        simp only [hw]
      · simp only [step_emitting hq hw, emitAll_eq]
        rw [toHand_of_queue_nil (by simpa using hq), withConverted_badfilters,
          withConverted_waiting]
    rw [hh, hk, ← uncancelled_append, hs, toHand_of_queue_nil hq]
  · -- a slice of lines hands nothing over, and its targets are counted in already
    have hs := slice_append j.options.chunkSize j.queue
    have hh : j.handed = [] := by simp [handed, hq]
    rw [hh, step_reading hq, List.nil_append]
    generalize slice j.options.chunkSize j.queue = s at hs ⊢
    obtain ⟨now, later⟩ := s
    simp only [toHand, readSlice_eq, ← hs, rulesIn_append, targets_append, plain_append,
      insertAll_append, List.append_assoc]

theorem toHand_advance (j : Job) (before : Diagnostics) (n : ℕ) :
    j.toHand = j.handedIn n ++ (j.advance before n).1.toHand := by
  induction n generalizing j before with
  | zero => rfl
  | succ n ih =>
    rw [toHand_step j, ih j.step.1 (before ++ j.step.2.2), handedIn, advance_succ,
      List.append_assoc]

/-- Whatever was done by some slices and is done by the rest of the run, together they hand over the
rules that stay when all targets are known. -/
theorem handedIn_run {sources : List Source} {options : ConvertOptions} {n m : ℕ}
    (h : ((start sources options).advance [] n).1.RunsFor m) :
    (start sources options).handedIn n ++
        ((start sources options).advance [] n).1.handedIn (m + 1) =
      survivors (rulesIn sources) := by
  have hrun := (run_start sources options [] n).1
  have hn := toHand_advance (start sources options) [] n
  have hm := toHand_advance ((start sources options).advance [] n).1 [] (m + 1)
  rw [← h.run_eq, hrun, toHand_of_queue_nil (j := final sources options) rfl] at hm
  rw [← toHand_start sources options, hn, hm]
  simp [final, uncancelled]

/-! ### Lines with nothing but badfilter rules -/

theorem rulesIn_cons (s : Source) (ss : List Source) :
    rulesIn (s :: ss) = rulesIn [s] ++ rulesIn ss := rulesIn_append [s] ss

theorem faultsIn_cons (s : Source) (ss : List Source) :
    faultsIn (s :: ss) = faultsIn [s] ++ faultsIn ss := faultsIn_append [s] ss

/-- Such a line adds no rule that could be converted, and no fault. -/
theorem nothing_of_onlyCancels {s : Source} (h : s.onlyCancels = true) :
    plain (rulesIn [s]) = [] ∧ faultsIn [s] = [] := by
  unfold Source.onlyCancels at h
  cases hs : readSource s with
  | error e => simp [hs] at h
  | ok line =>
    cases line with
    | none => simp [hs] at h
    | some line =>
      simp only [hs, List.all_eq_true] at h
      have hp : plain line.parts = [] := by
        simpa [plain, Option.isSome_iff_ne_none] using h
      simp [rulesIn, faultsIn, readRules, readErrors, hs, hp]

theorem plain_rulesIn_filter (sources : List Source) :
    plain (rulesIn (sources.filter (!·.onlyCancels))) = plain (rulesIn sources) := by
  induction sources with
  | nil => rfl
  | cons s ss ih =>
    rw [rulesIn_cons s ss, plain_append, ← ih]
    cases h : s.onlyCancels with
    | true => simp [h, (nothing_of_onlyCancels h).1]
    | false => rw [List.filter_cons_of_pos (by simp [h]), rulesIn_cons s, plain_append]

theorem faultsIn_filter (sources : List Source) :
    faultsIn (sources.filter (!·.onlyCancels)) = faultsIn sources := by
  induction sources with
  | nil => rfl
  | cons s ss ih =>
    rw [faultsIn_cons s ss, ← ih]
    cases h : s.onlyCancels with
    | true => simp [h, (nothing_of_onlyCancels h).2]
    | false => rw [List.filter_cons_of_pos (by simp [h]), faultsIn_cons s]

theorem targets_perm {ss ts : List Source} (h : ss.Perm ts) :
    (targets (rulesIn ss)).Perm (targets (rulesIn ts)) :=
  (((h.map readSource).filterMap _).flatMap_right _).filterMap _

/-- Lines with nothing but badfilter rules may stand anywhere among the others. -/
theorem final_agrees_of_perm {ss ts : List Source} (h : ss.Perm ts)
    (hf : ss.filter (!·.onlyCancels) = ts.filter (!·.onlyCancels)) (options : ConvertOptions) :
    (final ss options).Agrees (final ts options) := by
  have hplain : plain (rulesIn ss) = plain (rulesIn ts) := by
    rw [← plain_rulesIn_filter ss, hf, plain_rulesIn_filter]
  have hfaults : faultsIn ss = faultsIn ts := by rw [← faultsIn_filter ss, hf, faultsIn_filter]
  have hmem : ∀ t, t ∈ targets (rulesIn ss) ↔ t ∈ targets (rulesIn ts) :=
    fun t => (targets_perm h).mem_iff
  have hsurvivors : survivors (rulesIn ss) = survivors (rulesIn ts) := by
    rw [survivors, survivors, hplain, uncancelled_congr hmem]
  have hcancelled : cancelled (targets (rulesIn ss)) (plain (rulesIn ss)) =
      cancelled (targets (rulesIn ts)) (plain (rulesIn ts)) := by
    rw [hplain, cancelled_congr hmem]
  have hdistinct := (targets_perm h).dedup.length_eq
  constructor <;>
    simp only [final, hfaults, hsurvivors, hcancelled, hdistinct, h.length_eq]

end Handed

/-! ### A whole conversion -/

theorem survivors_eq (rs : List Rule) :
    survivors rs = rs.filter fun r => r.badfilter? = none ∧ r.text ∉ targets rs := by
  simp only [survivors, uncancelled, plain, List.filter_filter]
  congr 1
  funext r
  simp [Bool.and_comm]

theorem length_cancelled (rs : List Rule) :
    (cancelled (targets rs) (plain rs)).length =
      rs.countP fun r => r.badfilter? = none ∧ r.text ∈ targets rs := by
  simp only [cancelled, plain, List.filter_filter, ← List.countP_eq_length_filter]
  congr 1
  funext r
  simp [Bool.and_comm]

/-- The counters of a result tell the distinct targets and the rules that were cancelled. -/
theorem finish_stats [Externals] {sources : List Source} {options : ConvertOptions} {n : ℕ}
    {result : ConversionResult}
    (h : ((start sources options).advance [] n).1.finish.1 = some result) :
    result.stats.badfilterRules = (targets (rulesIn sources)).dedup.length ∧
      result.stats.badfilteredRules =
        (rulesIn sources).countP fun r =>
          r.badfilter? = none ∧ r.text ∈ targets (rulesIn sources) := by
  rw [finish_start_fst, Option.ite_none_left_eq_some, Option.some.injEq] at h
  obtain ⟨-, rfl⟩ := h
  obtain ⟨applied, conflicts, hstats⟩ := conclude_stats (final sources options)
  rw [hstats]
  exact ⟨rfl, length_cancelled (rulesIn sources)⟩

/-- The result stays when lines with nothing but badfilter rules are moved and the slices are chosen
anew. -/
theorem finish_of_perm [Externals] {moved sources : List Source} (h : moved.Perm sources)
    (hf : moved.filter (!·.onlyCancels) = sources.filter (!·.onlyCancels))
    (options : ConvertOptions) (size n k : ℕ) :
    ((start moved { options with chunkSize := size }).advance [] k).1.finish.1 =
      ((start sources options).advance [] n).1.finish.1 := by
  have hnil : moved = [] ↔ sources = [] := by
    rw [← List.length_eq_zero_iff, h.length_eq, List.length_eq_zero_iff]
  rw [finish_start_fst, finish_start_fst, conclude_congr (final_agrees_of_perm h hf _),
    conclude_congr (final_agrees_of_chunkSize sources options size)]
  simp only [hnil]

/-- **A badfilter rule cancels its target wherever the two stand.**  After any number of slices, the
run of a conversion ends, and all of its slices together hand to the converter, in order, the rules
that are no badfilter rules and not the target of one; of these everything is made.  The counters
tell the distinct targets and the rules that were cancelled.  Lines with nothing but badfilter rules
can be moved to any other places, and the slices be chosen anew, without a change of the result. -/
theorem badfilters_cancel [Externals] (sources : List Source) (options : ConvertOptions) (n : ℕ) :
    let rules := rulesIn sources
    let kept := rules.filter fun r => r.badfilter? = none ∧ r.text ∉ targets rules
    let first := start sources options
    let j := (first.advance [] n).1
    (∃ m, j.RunsFor m ∧ first.handedIn n ++ j.handedIn (m + 1) = kept) ∧
      j.run.1.emitted = kept.filterMap Rule.converted? ∧
      j.run.1.errors = faultsIn sources ++ kept.filterMap Rule.fault? ∧
      j.finish.1.isSome = !sources.isEmpty ∧
      (∀ result ∈ j.finish.1,
        result.stats.badfilterRules = (targets rules).dedup.length ∧
        result.stats.badfilteredRules =
          rules.countP fun r => r.badfilter? = none ∧ r.text ∈ targets rules) ∧
      ∀ (moved : List Source) (size k : ℕ), moved.Perm sources →
        moved.filter (!·.onlyCancels) = sources.filter (!·.onlyCancels) →
        ((start moved { options with chunkSize := size }).advance [] k).1.finish.1 =
          j.finish.1 := by
  intro rules kept first j
  have hkept : kept = survivors rules := (survivors_eq rules).symm
  have hrun : j.run.1 = final sources options := (run_start sources options [] n).1
  refine ⟨?_, ?_, ?_, ?_, ?_, ?_⟩
  · obtain ⟨m, hm⟩ := exists_runsFor j
    exact ⟨m, hm, by rw [hkept]; exact handedIn_run hm⟩
  · rw [hrun, hkept]
    rfl
  · rw [hrun, hkept]
    rfl
  · show (((start sources options).advance [] n).1.finish.1).isSome = _
    rw [finish_start_fst]
    cases sources <;> rfl
  · intro result hresult
    exact finish_stats hresult
  · intro moved size k hperm hfilter
    exact finish_of_perm hperm hfilter options size n k

/-- A badfilter line in front of its target, and moved behind all others. -/
theorem badfilters_cancel_moved :
    let sources : List Source :=
      [.text "||example.org^$badfilter", .text "||example.org^", .text "##.banner"]
    let moved : List Source :=
      [.text "||example.org^", .text "##.banner", .text "||example.org^$badfilter"]
    let j := ((start sources {}).advance [] 2).1
    moved.Perm sources ∧
      moved.filter (!·.onlyCancels) = sources.filter (!·.onlyCancels) ∧
      (∃ result ∈ j.finish.1, result.stats.badfilterRules = 1 ∧ result.stats.badfilteredRules = 1) ∧
      ∀ size k : ℕ,
        ((start moved { ({} : ConvertOptions) with chunkSize := size }).advance [] k).1.finish.1 =
          j.finish.1 := by
  intro sources moved j
  have hperm : moved.Perm sources := by decide +kernel
  have hfilter : moved.filter (!·.onlyCancels) = sources.filter (!·.onlyCancels) := by
    decide +kernel
  obtain ⟨-, -, -, hsome, hstats, hmoved⟩ := badfilters_cancel sources {} 2
  obtain ⟨result, hresult⟩ := Option.isSome_iff_exists.1 hsome
  obtain ⟨hrules, hruled⟩ := hstats result hresult
  refine ⟨hperm, hfilter, ⟨result, hresult, ?_, ?_⟩,
    fun size k => hmoved moved size k hperm hfilter⟩
  · rw [hrules]; decide +kernel
  · rw [hruled]; decide +kernel

end Job
end ContentBlocker
