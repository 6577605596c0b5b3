import ContentBlocker.Proofs.Conversion.Cancelling
import ContentBlocker.Proofs.Filter.Origins

/-!
# Lines that were read before

A conversion takes lines as they are written and lines that were read before, which may carry the
number of their filter list.  Neither makes a difference.

* `Rule.untagged` is a rule without the number, and what is done with a rule does not depend on it;
* `Source.ReadsAs` says that a line is what another one is read as;
* `Job.final_eq_of_untagged`: the job at the end depends on the rules without their numbers alone;
* `Job.early_reading_unobservable` says that lines may be read before.
-/

namespace ContentBlocker

open Badfilters

/-! ### The number of the filter list -/

namespace Rule

/-- The rule without the number of its filter list. -/
def untagged : Rule → Rule
  | css r => css { r with filterId := none }
  | url r => url { r with filterId := none }
  | script r => script { r with filterId := none }
  | scriptlet r => scriptlet { r with filterId := none }

variable (r : Rule)

@[simp] theorem untagged_withFilterId (id : Int) : (r.withFilterId id).untagged = r.untagged := by
  cases r <;> rfl

@[simp] theorem text_untagged : r.untagged.text = r.text := by
  cases r <;> rfl

@[simp] theorem badfilter?_untagged : r.untagged.badfilter? = r.badfilter? := by
  cases r <;> rfl

@[simp] theorem bucket_untagged (b : BlockerRule) : Bucket.of r.untagged b = Bucket.of r b := by
  cases r <;> rfl

theorem emitError_untagged (e : RuleError) : Job.emitError r.untagged e = Job.emitError r e := by
  unfold Job.emitError
  rw [text_untagged]

variable [Externals]

@[simp] theorem emit_untagged : r.untagged.emit = r.emit := by
  cases r <;> rfl

theorem converted?_untagged : r.untagged.converted? = r.converted? := by
  rcases h : r.emit with ⟨notes, e | b⟩ <;> simp [converted?, h]

theorem fault?_untagged : r.untagged.fault? = r.fault? := by
  rcases h : r.emit with ⟨notes, e | b⟩ <;> simp [fault?, emitError_untagged, h]

theorem emitNotes_untagged (bs : Badfilters) :
    Job.emitNotes bs r.untagged = Job.emitNotes bs r := by
  simp only [Job.emitNotes, Job.badfilterNote, emit_untagged, text_untagged, fault?_untagged]

/-- All that a conversion does with the two rules is the same. -/
structure TreatedAlike (r' r : Rule) : Prop where
  text : r'.text = r.text
  badfilter? : r'.badfilter? = r.badfilter?
  emit : r'.emit = r.emit
  bucket : ∀ b, Bucket.of r' b = Bucket.of r b
  emitError : ∀ e, Job.emitError r' e = Job.emitError r e

/-- The number of its filter list changes nothing that is done with a rule. -/
theorem withFilterId_treatedAlike (id : Int) : (r.withFilterId id).TreatedAlike r := by
  -- a function that is the same for a rule without its number is the same for any number
  have hsame : ∀ {α : Type} (f : Rule → α), (∀ r, f r.untagged = f r) →
      f (r.withFilterId id) = f r := by
    intro α f hf
    rw [← hf, untagged_withFilterId, hf]
  constructor
  · exact hsame Rule.text text_untagged
  · exact hsame Rule.badfilter? badfilter?_untagged
  · exact hsame Rule.emit (emit_untagged ·)
  · exact fun b => hsame (Bucket.of · b) (bucket_untagged · b)
  · exact fun e => hsame (Job.emitError · e) (emitError_untagged · e)

end Rule

/-! ### Rules without their numbers -/

/-- What does not see the numbers is the same for rules that differ in them alone. -/
theorem eq_of_untagged {α : Type} {f : List Rule → α} (hf : ∀ rs, f (rs.map Rule.untagged) = f rs)
    {rs ss : List Rule} (h : rs.map Rule.untagged = ss.map Rule.untagged) : f rs = f ss := by
  rw [← hf rs, h, hf ss]

namespace Job

section Untagged

variable (rs : List Rule)

theorem targets_untagged : targets (rs.map Rule.untagged) = targets rs := by
  simp [targets, List.filterMap_map]

theorem plain_untagged : plain (rs.map Rule.untagged) = (plain rs).map Rule.untagged := by
  simp [plain, List.filter_map, Function.comp_def]

theorem uncancelled_untagged (bs : Badfilters) :
    uncancelled bs (rs.map Rule.untagged) = (uncancelled bs rs).map Rule.untagged := by
  simp [uncancelled, List.filter_map, Function.comp_def]

theorem cancelled_untagged (bs : Badfilters) :
    cancelled bs (rs.map Rule.untagged) = (cancelled bs rs).map Rule.untagged := by
  simp [cancelled, List.filter_map, Function.comp_def]

theorem survivors_untagged :
    survivors (rs.map Rule.untagged) = (survivors rs).map Rule.untagged := by
  rw [survivors, targets_untagged, plain_untagged, uncancelled_untagged, survivors]

end Untagged

/-- The job at the end of a conversion, and what is said until then, depend on the rules in the
lines without their numbers, on the faults of the lines and on how many they are. -/
theorem final_eq_of_untagged [Externals] {ss ts : List Source} (hlength : ss.length = ts.length)
    (hrules : (rulesIn ss).map Rule.untagged = (rulesIn ts).map Rule.untagged)
    (hfaults : faultsIn ss = faultsIn ts) (options : ConvertOptions) :
    final ss options = final ts options ∧ finalNotes ss options = finalNotes ts options := by
  have htargets : targets (rulesIn ss) = targets (rulesIn ts) :=
    eq_of_untagged targets_untagged hrules
  have hprocessed : (plain (rulesIn ss)).length = (plain (rulesIn ts)).length :=
    eq_of_untagged (f := fun rs => (plain rs).length) (by simp [plain_untagged]) hrules
  have hemitted : (survivors (rulesIn ss)).filterMap Rule.converted? =
      (survivors (rulesIn ts)).filterMap Rule.converted? :=
    eq_of_untagged (f := fun rs => (survivors rs).filterMap Rule.converted?)
      (by simp [survivors_untagged, List.filterMap_map, Rule.converted?_untagged]) hrules
  have hrefused : (survivors (rulesIn ss)).filterMap Rule.fault? =
      (survivors (rulesIn ts)).filterMap Rule.fault? :=
    eq_of_untagged (f := fun rs => (survivors rs).filterMap Rule.fault?)
      (by simp [survivors_untagged, List.filterMap_map, Rule.fault?_untagged]) hrules
  have hcancelled : (cancelled (targets (rulesIn ss)) (plain (rulesIn ss))).length =
      (cancelled (targets (rulesIn ts)) (plain (rulesIn ts))).length :=
    eq_of_untagged (f := fun rs => (cancelled (targets rs) (plain rs)).length)
      (by simp [targets_untagged, plain_untagged, cancelled_untagged]) hrules
  have hnotes : (plain (rulesIn ss)).flatMap (emitNotes (targets (rulesIn ss))) =
      (plain (rulesIn ts)).flatMap (emitNotes (targets (rulesIn ts))) :=
    eq_of_untagged (f := fun rs => (plain rs).flatMap (emitNotes (targets rs)))
      (by simp [targets_untagged, plain_untagged, List.flatMap_map, Rule.emitNotes_untagged]) hrules
  constructor
  · simp only [final, hlength, hprocessed, hemitted, hrefused, hcancelled, hfaults]
    rw [htargets]
  · have hbanner : (start ss options).banner = (start ts options).banner := by
      simp only [start, hlength]
      rfl
    simp only [finalNotes, hbanner, hfaults, hnotes]

end Job

/-! ### Reading before -/

/-- The second line is the first one, or what the first one is read as, perhaps with the number of a
filter list. -/
inductive Source.ReadsAs [Externals] : Source → Source → Prop
  | same (s : Source) : ReadsAs s s
  | parsed {t : Text} {line : FilterRule} (h : FilterRule.readLine t = .ok (some line)) :
    ReadsAs (.text t) (.parsed line)
  | tagged {t : Text} {line : FilterRule} (h : FilterRule.readLine t = .ok (some line)) (id : Int) :
    ReadsAs (.text t) (.parsed (line.withFilterId id))

namespace Job

/-- One line that is read before. -/
theorem rulesIn_of_readsAs [Externals] {s s' : Source} (h : s.ReadsAs s') :
    (rulesIn [s']).map Rule.untagged = (rulesIn [s]).map Rule.untagged ∧
      faultsIn [s'] = faultsIn [s] := by
  cases h with
  | same => exact ⟨rfl, rfl⟩
  | parsed h => simp [rulesIn, faultsIn, readRules, readErrors, readSource, h]
  | tagged h id =>
    simp [rulesIn, faultsIn, readRules, readErrors, readSource, h, FilterRule.parts_withFilterId]

/-- Some lines of which any are read before. -/
theorem rulesIn_of_forall₂ [Externals] {ss ts : List Source}
    (h : List.Forall₂ Source.ReadsAs ss ts) :
    (rulesIn ts).map Rule.untagged = (rulesIn ss).map Rule.untagged ∧
      faultsIn ts = faultsIn ss := by
  induction h with
  | nil => exact ⟨rfl, rfl⟩
  | @cons s t ss ts hs _ ih =>
    obtain ⟨hrules, hfaults⟩ := rulesIn_of_readsAs hs
    rw [rulesIn_cons s, rulesIn_cons t, faultsIn_cons s, faultsIn_cons t, List.map_append,
      List.map_append, hrules, hfaults, ih.1, ih.2]
    exact ⟨rfl, rfl⟩

/-- **Lines may be read before.**  Let any lines of a conversion be read before, with or without the
number of a filter list.  For all settings, after any number of slices and behind all messages
recorded before, the conversion ends with the same result and says the same.  The number is not seen
when the targets of badfilter rules are looked for, when a rule is converted, when its category is
chosen, and in messages, also if the rule is one of several that a line stands for. -/
theorem early_reading_unobservable [Externals] {ss ts : List Source}
    (h : List.Forall₂ Source.ReadsAs ss ts) (options : ConvertOptions) (before : Diagnostics)
    (n : ℕ) :
    (let (j, said) := (start ss options).advance before n
      let (k, said') := (start ts options).advance before n
      k.finish.1 = j.finish.1 ∧ said' ++ k.finish.2 = said ++ j.finish.2) ∧
    convert ts options = convert ss options ∧
    ∀ (line : FilterRule) (id : Int),
      (line.withFilterId id).text = line.text ∧ (line.withFilterId id).emit = line.emit ∧
        List.Forall₂ Rule.TreatedAlike (line.withFilterId id).parts line.parts := by
  obtain ⟨hrules, hfaults⟩ := rulesIn_of_forall₂ h
  obtain ⟨hfinal, hnotes⟩ := final_eq_of_untagged h.length_eq.symm hrules hfaults options
  have hsame : ∀ (before : Diagnostics) (n : ℕ),
      let (j, said) := (start ss options).advance before n
      let (k, said') := (start ts options).advance before n
      k.finish.1 = j.finish.1 ∧ said' ++ k.finish.2 = said ++ j.finish.2 := by
    intro before n
    by_cases hs : ss = []
    · have ht : ts = [] := by
        rw [hs] at h
        exact List.forall₂_nil_left_iff.1 h
      rw [hs, ht]
      exact ⟨rfl, rfl⟩
    · have ht : ts ≠ [] := by
        rintro rfl
        exact hs (List.forall₂_nil_right_iff.1 h)
      obtain ⟨hj, hsaid⟩ := finish_start hs options before n
      obtain ⟨hk, hsaid'⟩ := finish_start ht options before n
      rw [hfinal] at hk hsaid'
      rw [hnotes] at hsaid'
      exact ⟨hk.trans hj.symm, hsaid'.trans hsaid.symm⟩
  refine ⟨hsame before n, Prod.ext (hsame [] 0).1 (hsame [] 0).2, fun line id => ⟨?_, ?_, ?_⟩⟩
  · cases line with
    | single r => exact (r.withFilterId_treatedAlike id).text
    | composite t rs => rfl
  · cases line with
    | single r => exact (r.withFilterId_treatedAlike id).emit
    | composite t rs => rfl
  · rw [FilterRule.parts_withFilterId, List.forall₂_map_left_iff, List.forall₂_same]
    exact fun r _ => r.withFilterId_treatedAlike id

/-- A line that stands for two rules is read before and gets a number, and a badfilter line still
cancels one of the two. -/
theorem early_reading_unobservable_composite :
    ∃ line, FilterRule.readLine "||ads.org^$all" = .ok (some line) ∧ line.parts.length = 2 ∧
      let ss : List Source := [.text "||ads.org^$all", .text "||ads.org^$popup,badfilter"]
      let ts : List Source :=
        [.parsed (line.withFilterId 7), .text "||ads.org^$popup,badfilter"]
      List.Forall₂ Source.ReadsAs ss ts ∧
        (∃ result ∈ (convert ss {}).1, result.stats.badfilteredRules = 1) ∧
        convert ts {} = convert ss {} := by
  have hread : ∃ l ∈ (FilterRule.readLine "||ads.org^$all").toOption,
      ∃ line ∈ l, line.parts.length = 2 := by
    decide +kernel
  obtain ⟨l, hl, line, hline, hparts⟩ := hread
  obtain rfl := Option.mem_def.1 hline
  have hl := eq_ok_of_mem_toOption hl
  refine ⟨line, hl, hparts, ?_⟩
  intro ss ts
  have h : List.Forall₂ Source.ReadsAs ss ts := .cons (.tagged hl 7) (.cons (.same _) .nil)
  have hresult : (convert ss {}).1 = some (final ss {}).conclude.1 := finish_start_fst ss {} [] 0
  have hcancelled : (final ss {}).conclude.1.stats.badfilteredRules = 1 := by
    rw [(finish_stats (n := 0) hresult).2]
    decide +kernel
  exact ⟨h, ⟨_, hresult, hcancelled⟩, (early_reading_unobservable h {} [] 0).2.1⟩

end Job
end ContentBlocker
