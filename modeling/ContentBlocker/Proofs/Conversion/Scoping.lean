import ContentBlocker.Proofs.Blocker.Scoped
import ContentBlocker.Proofs.Conversion.Compaction
import ContentBlocker.Proofs.Conversion.Excepting
import ContentBlocker.Proofs.Conversion.Outcome

/-!
# Domains in the outputs

Converted rules have at most one list of domains.  Exceptions add domains to rules that are limited
to others; the rules that are left with both lists are dropped, and compaction and the order of the
outputs add no domains.

* `AllScoped` says that all rules of a list are scoped;
* `Sections.mem_basic` and `Sections.mem_advanced` say where the rules of the outputs come from;
* `Exceptions.apply_scoped`, `CompactedCss.ofRules_scoped`, `Sections.basic_scoped` and
  `Sections.advanced_scoped` follow the rules to the outputs;
* `Job.basicOutput` and `Job.advancedOutput` are the rules of the outputs;
* `Job.outputs_wellScoped` says that they have at most one list of domains, in any conversion.
-/

namespace ContentBlocker

/-- All rules are scoped. -/
def AllScoped (rules : List BlockerRule) : Prop := ∀ r ∈ rules, r.trigger.Scoped

theorem allScoped_nil : AllScoped [] := by
  intro r hr
  cases hr

/-! ### Exceptions -/

/-- Excluded domains make no list empty, but may leave both lists. -/
theorem Trigger.Filled.withExcluded {t : Trigger} (h : t.Filled) (domains : List Text) :
    (t.withExcluded domains).Filled := by
  unfold Trigger.withExcluded
  split
  · exact h
  · next hd =>
    refine ⟨h.included, ?_⟩
    simp [hd]

namespace Exceptions

theorem excepted_filled (key : ExceptionKey) (es : List BlockerRule) {r : BlockerRule}
    (h : r.trigger.Filled) : (excepted key es r).trigger.Filled :=
  h.withExcluded (added key es r)

/-- When the rules that were left with both lists are dropped, the others are scoped. -/
theorem apply_scoped (key : ExceptionKey) {rules : List BlockerRule} (h : AllScoped rules)
    (exceptions : List BlockerRule) : AllScoped (apply key rules exceptions).1 := by
  intro r hr
  rw [apply_rules, List.mem_filter, Bool.not_eq_true'] at hr
  obtain ⟨hr, hc⟩ := hr
  obtain ⟨r', hr', rfl⟩ := List.mem_map.1 hr
  -- that at most one list is there is lost on the way, that none is empty is not
  exact (excepted_filled key exceptions (h r' hr').toFilled).scoped hc

end Exceptions

/-! ### Compaction -/

namespace CompactedCss

/-- All rules of a compaction are scoped. -/
structure Scoped (c : CompactedCss) : Prop where
  wide : AllScoped c.wide
  generic : AllScoped c.generic
  specific : AllScoped c.specific

theorem wideRule_scoped (selectors : List Text) : (wideRule selectors).trigger.Scoped :=
  Trigger.scoped_of_none rfl rfl

theorem scoped_empty : Scoped {} := ⟨allScoped_nil, allScoped_nil, allScoped_nil⟩

theorem ofRules_scoped (merge : Bool) {rules : List BlockerRule} (h : AllScoped rules) :
    (ofRules merge rules).Scoped := by
  constructor
  · intro r hr
    rcases mem_wide_ofRules hr with ⟨hr, -⟩ | ⟨-, selectors, rfl, -⟩
    · exact h r hr
    · exact wideRule_scoped selectors
  · intro r hr
    rw [ofRules, ofRulesFrom_generic] at hr
    exact h r (List.mem_of_mem_filter hr)
  · intro r hr
    rw [ofRules, ofRulesFrom_specific] at hr
    exact h r (List.mem_of_mem_filter hr)

theorem Scoped.withoutWide {c : CompactedCss} (h : c.Scoped) (drop : Bool) :
    (c.withoutWide drop).Scoped := by
  cases drop with
  | false => exact h
  | true => exact { h with wide := allScoped_nil }

end CompactedCss

/-! ### Order of the outputs -/

/-- All converted rules are scoped. -/
def EmittedScoped (emitted : List Emitted) : Prop := ∀ e ∈ emitted, e.rule.trigger.Scoped

theorem inBucket_scoped (bucket : Bucket) {emitted : List Emitted} (h : EmittedScoped emitted) :
    AllScoped (inBucket bucket emitted) := by
  intro r hr
  obtain ⟨e, he, rfl⟩ := List.mem_map.1 hr
  exact h e (List.mem_filter.1 he).1

namespace Bucket

/-- The categories of network rules in the basic output, in order. -/
def basicOrder : List Bucket :=
  [generichideExceptions, elemhideExceptions, urlBlocking, other, important, importantExceptions,
    documentExceptions]

/-- The categories of network rules in the advanced output, in order. -/
def advancedOrder : List Bucket :=
  [jsinjectExceptions, generichideExceptions, elemhideExceptions, other, importantExceptions,
    documentExceptions]

end Bucket

namespace Sections

/-- The basic output holds the hiding rules and seven categories. -/
theorem mem_basic {s : Sections} {emitted : List Emitted} {r : BlockerRule} :
    r ∈ s.basic emitted ↔
      (r ∈ s.css.wide ∨ r ∈ s.css.generic ∨ r ∈ s.css.specific) ∨
        ∃ k ∈ Bucket.basicOrder, r ∈ inBucket k emitted := by
  simp only [basic, Bucket.basicOrder, List.mem_append, List.exists_mem_cons_iff,
    List.not_mem_nil, false_and, exists_false, or_false]
  tauto

/-- The advanced output holds scripts, styles and hiding rules, and six categories. -/
theorem mem_advanced {s : Sections} {emitted : List Emitted} {r : BlockerRule} :
    r ∈ s.advanced emitted ↔
      (r ∈ s.script ∨ r ∈ s.scriptlets) ∨
        (r ∈ s.extendedCss.wide ∨ r ∈ s.extendedCss.generic ∨ r ∈ s.extendedCss.specific) ∨
          ∃ k ∈ Bucket.advancedOrder, r ∈ inBucket k emitted := by
  simp only [advanced, Bucket.advancedOrder, List.mem_append, List.exists_mem_cons_iff,
    List.not_mem_nil, false_and, exists_false, or_false]
  tauto

/-- All rules of the sections are scoped. -/
structure Scoped (s : Sections) : Prop where
  css : s.css.Scoped
  extendedCss : s.extendedCss.Scoped
  script : AllScoped s.script
  scriptlets : AllScoped s.scriptlets

theorem basic_scoped {s : Sections} (h : s.Scoped) {emitted : List Emitted}
    (he : EmittedScoped emitted) : AllScoped (s.basic emitted) := by
  intro r hr
  rcases mem_basic.1 hr with (hr | hr | hr) | ⟨k, -, hr⟩
  · exact h.css.wide r hr
  · exact h.css.generic r hr
  · exact h.css.specific r hr
  · exact inBucket_scoped k he r hr

theorem advanced_scoped {s : Sections} (h : s.Scoped) {emitted : List Emitted}
    (he : EmittedScoped emitted) : AllScoped (s.advanced emitted) := by
  intro r hr
  rcases mem_advanced.1 hr with (hr | hr) | (hr | hr | hr) | ⟨k, -, hr⟩
  · exact h.script r hr
  · exact h.scriptlets r hr
  · exact h.extendedCss.wide r hr
  · exact h.extendedCss.generic r hr
  · exact h.extendedCss.specific r hr
  · exact inBucket_scoped k he r hr

end Sections

namespace Job

/-! ### The sections of a job -/

theorem cssSection_scoped {j : Job} (h : EmittedScoped j.emitted) : j.cssSection.1.Scoped :=
  (CompactedCss.ofRules_scoped _ (Exceptions.apply_scoped _ (inBucket_scoped _ h) _)).withoutWide _

theorem extendedCssSection_scoped {j : Job} (h : EmittedScoped j.emitted) :
    j.extendedCssSection.1.Scoped :=
  (CompactedCss.ofRules_scoped _ (Exceptions.apply_scoped _ (inBucket_scoped _ h) _)).withoutWide _

theorem aggregate_scoped {j : Job} (h : EmittedScoped j.emitted) : j.aggregate.1.Scoped := by
  simp only [aggregate]
  split
  · exact ⟨cssSection_scoped h, extendedCssSection_scoped h,
      Exceptions.apply_scoped _ (inBucket_scoped _ h) _,
      Exceptions.apply_scoped _ (inBucket_scoped _ h) _⟩
  · exact ⟨cssSection_scoped h, CompactedCss.scoped_empty, allScoped_nil, allScoped_nil⟩

/-- Aggregation changes the counters of a job only. -/
theorem aggregate_eq (j : Job) : ∃ stats, j.aggregate.2.1 = { j with stats } := by
  simp only [aggregate]
  split <;> exact ⟨_, rfl⟩

/-! ### The outputs -/

/-- The rules of the basic output of a job whose rules are all converted. -/
def basicOutput (j : Job) : List BlockerRule := j.aggregate.2.1.basicRules j.aggregate.1

/-- The rules of the advanced output, if there is one. -/
def advancedOutput (j : Job) : Option (List BlockerRule) :=
  if j.options.advancedBlocking then some (j.aggregate.2.1.advancedRules j.aggregate.1) else none

theorem basicOutput_eq (j : Job) :
    j.basicOutput =
      (truncate j.options.limit (j.aggregate.1.basic j.emitted)).map BlockerRule.withWildcards := by
  obtain ⟨stats, hk⟩ := j.aggregate_eq
  rw [basicOutput, hk]
  rfl

theorem basicOutput_of_limit_zero {j : Job} (hl : j.options.limit = 0) :
    j.basicOutput = (j.aggregate.1.basic j.emitted).map BlockerRule.withWildcards := by
  rw [basicOutput_eq, hl]
  rfl

theorem advancedOutput_eq (j : Job) :
    j.advancedOutput =
      if j.options.advancedBlocking then
        some ((j.aggregate.1.advanced j.emitted).map BlockerRule.withWildcards)
      else none := by
  obtain ⟨stats, hk⟩ := j.aggregate_eq
  rw [advancedOutput, hk]
  rfl

theorem truncate_subset (limit : ℕ) (rules : List BlockerRule) : truncate limit rules ⊆ rules := by
  unfold truncate
  split
  · exact List.Subset.refl rules
  · exact List.take_subset limit rules

/-- A rule of the basic output is put together for it, and has got the wildcards then. -/
theorem exists_of_mem_basicOutput {j : Job} {r : BlockerRule} (hr : r ∈ j.basicOutput) :
    ∃ s ∈ j.aggregate.1.basic j.emitted, r = s.withWildcards := by
  rw [basicOutput_eq] at hr
  obtain ⟨s, hs, rfl⟩ := List.mem_map.1 hr
  exact ⟨s, truncate_subset _ _ hs, rfl⟩

/-- So is a rule of the advanced output, if there is one. -/
theorem exists_of_mem_advancedOutput {j : Job} {rs : List BlockerRule} (hrs : rs ∈ j.advancedOutput)
    {r : BlockerRule} (hr : r ∈ rs) :
    j.options.advancedBlocking = true ∧
      ∃ s ∈ j.aggregate.1.advanced j.emitted, r = s.withWildcards := by
  rw [advancedOutput_eq, Option.mem_def, Option.ite_none_right_eq_some, Option.some.injEq] at hrs
  obtain ⟨hasked, rfl⟩ := hrs
  obtain ⟨s, hs, rfl⟩ := List.mem_map.1 hr
  exact ⟨hasked, s, hs, rfl⟩

theorem basicOutput_wellScoped {j : Job} (h : EmittedScoped j.emitted) :
    ∀ r ∈ j.basicOutput, r.trigger.WellScoped := by
  intro r hr
  obtain ⟨s, hs, rfl⟩ := exists_of_mem_basicOutput hr
  exact Trigger.withWildcards_wellScoped (Sections.basic_scoped (aggregate_scoped h) h s hs)

theorem advancedOutput_wellScoped {j : Job} (h : EmittedScoped j.emitted) :
    ∀ rs ∈ j.advancedOutput, ∀ r ∈ rs, r.trigger.WellScoped := by
  intro rs hrs r hr
  obtain ⟨-, s, hs, rfl⟩ := exists_of_mem_advancedOutput hrs hr
  exact Trigger.withWildcards_wellScoped (Sections.advanced_scoped (aggregate_scoped h) h s hs)

/-- The rules of the outputs are those that the result holds as text. -/
theorem conclude_outputs (j : Job) :
    j.conclude.1.converted = BlockerRule.writeAll j.basicOutput ∧
      j.conclude.1.advancedBlocking =
        j.advancedOutput.map fun rs => (BlockerRule.writeAll rs, rs.length) := by
  obtain ⟨stats, hk⟩ := j.aggregate_eq
  refine ⟨rfl, ?_⟩
  simp only [conclude, result, advancedOutput, hk]

/-- All converted rules are scoped. -/
theorem emittedScoped_converted [Externals] (rs : List Rule) :
    EmittedScoped (rs.filterMap Rule.converted?) := by
  intro e he
  obtain ⟨r, -, hr⟩ := List.mem_filterMap.1 he
  obtain ⟨hemit, -⟩ := Rule.converted?_eq_some_iff.1 hr
  exact Rule.emit_scoped hemit

theorem final_emittedScoped [Externals] (sources : List Source) (options : ConvertOptions) :
    EmittedScoped (final sources options).emitted := emittedScoped_converted _

/-- **Every rule of the outputs has at most one list of domains, which is not empty and whose
domains all begin with the wildcard.**  This holds for any lines and settings, after any number of
slices. -/
theorem outputs_wellScoped [Externals] {sources : List Source} (hs : sources ≠ [])
    (options : ConvertOptions) (n : ℕ) :
    let j := ((start sources options).advance [] n).1
    (∃ result, j.finish.1 = some result ∧
      result.converted = BlockerRule.writeAll j.run.1.basicOutput ∧
      result.advancedBlocking =
        j.run.1.advancedOutput.map fun rs => (BlockerRule.writeAll rs, rs.length)) ∧
    (∀ r ∈ j.run.1.basicOutput, r.trigger.WellScoped) ∧
    ∀ rs ∈ j.run.1.advancedOutput, ∀ r ∈ rs, r.trigger.WellScoped := by
  intro j
  have hrun : j.run.1 = final sources options := (run_start sources options [] n).1
  have hfinish : j.finish.1 = some (final sources options).conclude.1 :=
    (finish_start hs options [] n).1
  have he := final_emittedScoped sources options
  rw [hrun]
  exact ⟨⟨_, hfinish, conclude_outputs _⟩, basicOutput_wellScoped he, advancedOutput_wellScoped he⟩

/-- An exception for a subdomain leaves one hiding rule with a list of excluded domains, and another
with both lists, which is dropped. -/
theorem outputs_wellScoped_exception :
    let sources : List Source :=
      [.text "##.banner", .text "example.org##.banner", .text "sub.example.org#@#.banner"]
    let j := ((start sources {}).advance [] 1).1
    sources ≠ [] ∧ j.run.1.basicOutput.map (fun r => (r.trigger.ifDomain, r.trigger.unlessDomain)) =
        [(none, some ["*sub.example.org".toList])] ∧
      (∃ result, j.finish.1 = some result ∧
        result.converted = BlockerRule.writeAll j.run.1.basicOutput) ∧
      ∀ r ∈ j.run.1.basicOutput, r.trigger.WellScoped := by
  intro sources j
  have hs : sources ≠ [] := by simp [sources]
  obtain ⟨⟨result, hfinish, hconverted, -⟩, hbasic, -⟩ := outputs_wellScoped hs {} 1
  have hrun : j.run.1 = final sources {} := (run_start sources {} [] 1).1
  refine ⟨hs, ?_, ⟨result, hfinish, hconverted⟩, hbasic⟩
  rw [hrun]
  decide +kernel

end Job
end ContentBlocker
