import ContentBlocker.Proofs.Blocker.Checked
import ContentBlocker.Proofs.Blocker.Payloads
import ContentBlocker.Proofs.Conversion.Assembly
import ContentBlocker.Proofs.Conversion.Cancelling

/-!
# Where the rules of the outputs come from

A rule of an output is what one rule was converted to, except that its domains may have changed, or
it is joined from the selectors of hiding rules.  Exceptions that are no network rules only move
their domains into other rules and come to no output themselves.

* `IsConverted` and `IsJoined` are the two ways, and `MadeFrom` is either;
* `inBucket_isConverted`, `Exceptions.apply_isConverted` and `CompactedCss.ofRules_madeFrom` follow
  the rules through categories, exceptions and compaction;
* `Job.basicOutput_madeFrom` and `Job.advancedOutput_madeFrom` say it of the outputs;
* `Job.outputs_exact` says that the rules of the outputs have exactly the payloads of their types;
* `Job.outputs_safe` says what passes the check of address filters and so comes to the outputs.
-/

namespace ContentBlocker

variable {rs : List Rule} {b : BlockerRule}

section Made

variable [Externals]

/-! ### The two ways -/

/-- The rule is what one of some rules was converted to, with the same action and the same address
filter.  That one is an exception just if the rule undoes others, and then it is a network rule. -/
def IsConverted (rs : List Rule) (b : BlockerRule) : Prop :=
  ∃ r ∈ rs, ∃ c, r.emit.2 = .ok c ∧ b.action = c.action ∧
    b.trigger.urlFilter = c.trigger.urlFilter ∧
    (r.head.isException = true ↔ b.action.type = .ignorePreviousRules) ∧
    (r.head.isException = true → ∃ u, r = .url u)

/-- The rule is joined from selectors of hiding rules, none of which is an exception. -/
def IsJoined (rs : List Rule) (b : BlockerRule) : Prop :=
  ∃ selectors, b = CompactedCss.wideRule selectors ∧ ∀ s ∈ selectors,
    ∃ r ∈ rs, r.head.isException = false ∧
      ∃ c, r.emit.2 = .ok c ∧ c.action = { type := .cssDisplayNone, selector := some s }

/-- The rule of an output is made from some rules. -/
def MadeFrom (rs : List Rule) (b : BlockerRule) : Prop := IsConverted rs b ∨ IsJoined rs b

theorem IsConverted.of_eq {c : BlockerRule} (h : IsConverted rs c) (ha : b.action = c.action)
    (hf : b.trigger.urlFilter = c.trigger.urlFilter) : IsConverted rs b := by
  obtain ⟨r, hr, d, hd, hac, hfc, hx, hu⟩ := h
  exact ⟨r, hr, d, hd, ha.trans hac, hf.trans hfc, by rwa [ha], hu⟩

theorem MadeFrom.withWildcards (h : MadeFrom rs b) : MadeFrom rs b.withWildcards := by
  rcases h with h | ⟨selectors, rfl, h⟩
  · exact .inl (h.of_eq rfl rfl)
  · exact .inr ⟨selectors, rfl, h⟩

theorem IsConverted.isExact (h : IsConverted rs b) : b.action.IsExact := by
  obtain ⟨r, -, c, hemit, ha, -, -, hu⟩ := h
  rw [ha]
  exact Rule.emit_isExact hemit hu

/-- Whichever way a rule is made, it has exactly the payload of its type. -/
theorem MadeFrom.isExact (h : MadeFrom rs b) : b.action.IsExact := by
  rcases h with h | ⟨selectors, rfl, -⟩
  · exact h.isExact
  · exact .hide _

/-- Whichever way a rule is made, its address filter was checked. -/
theorem MadeFrom.checkSafe (h : MadeFrom rs b) :
    UrlFilter.checkSafe b.trigger.urlFilter = .ok () := by
  rcases h with ⟨r, -, c, hemit, -, hfilter, -⟩ | ⟨selectors, rfl, -⟩
  · rw [hfilter]
    exact Rule.emit_checkSafe hemit
  · exact UrlFilter.checkSafe_anything

/-! ### Through a conversion -/

/-- In a category of network rules there is no exception of another kind, and in a category whose
rules undo none there is no exception. -/
theorem inBucket_isConverted {k : Bucket}
    (hk : k.actionType ≠ .ignorePreviousRules ∨ k ∈ Bucket.urlBuckets)
    (hs : ∀ r ∈ rs, r.HasSelector) (hb : b ∈ inBucket k (rs.filterMap Rule.converted?)) :
    IsConverted rs b := by
  obtain ⟨r, hr, hemit, rfl⟩ := mem_inBucket_converted.1 hb
  refine ⟨r, hr, b, hemit, rfl, rfl, Rule.emit_isException hemit, fun hx => ?_⟩
  -- an exception undoes others, and one of another kind is in no category of network rules
  rcases hk with hk | hk
  · rw [Bucket.actionType_of] at hk
    exact absurd ((Rule.emit_isException hemit).1 hx) hk
  · by_contra! hne
    exact Bucket.of_notMem_urlBuckets (hs r hr) hne hemit hk

/-- Exceptions change the domains of rules only. -/
theorem Exceptions.apply_isConverted (key : ExceptionKey) {rules : List BlockerRule}
    (h : ∀ c ∈ rules, IsConverted rs c) (es : List BlockerRule) :
    ∀ c ∈ (apply key rules es).1, IsConverted rs c := by
  intro c hc
  rw [apply_rules] at hc
  obtain ⟨d, hd, rfl⟩ := List.mem_map.1 (List.mem_of_mem_filter hc)
  exact (h d hd).of_eq (excepted_action key es d) (urlFilter_excepted key es d)

namespace CompactedCss

/-- All rules of a compaction are made from some rules. -/
structure MadeFrom (rs : List Rule) (c : CompactedCss) : Prop where
  wide : ∀ b ∈ c.wide, ContentBlocker.MadeFrom rs b
  generic : ∀ b ∈ c.generic, ContentBlocker.MadeFrom rs b
  specific : ∀ b ∈ c.specific, ContentBlocker.MadeFrom rs b

/-- Only selectors of hiding rules are joined, and these are no exceptions. -/
theorem ofRules_madeFrom (merge : Bool) {rules : List BlockerRule}
    (h : ∀ c ∈ rules, IsConverted rs c) : (ofRules merge rules).MadeFrom rs := by
  constructor
  · intro b hb
    rcases mem_wide_ofRules hb with ⟨hb, -⟩ | ⟨-, selectors, rfl, hselectors⟩
    · exact .inl (h b hb)
    · refine .inr ⟨selectors, rfl, fun s hs => ?_⟩
      obtain ⟨c, hc, htype, hselector⟩ := hselectors s hs
      obtain ⟨r, hr, d, hemit, ha, -, hx, -⟩ := h c hc
      -- what hides elements undoes no others, and its payload is the selector
      refine ⟨r, hr, ?_, d, hemit, ?_⟩
      · rw [Bool.eq_false_iff, Ne, hx, htype]
        decide
      · rw [← ha]
        exact (h c hc).isExact.eq_of_selector htype hselector
  · intro b hb
    rw [ofRules, ofRulesFrom_generic] at hb
    exact .inl (h b (List.mem_of_mem_filter hb))
  · intro b hb
    rw [ofRules, ofRulesFrom_specific] at hb
    exact .inl (h b (List.mem_of_mem_filter hb))

theorem MadeFrom.withoutWide {c : CompactedCss} (h : c.MadeFrom rs) (drop : Bool) :
    (c.withoutWide drop).MadeFrom rs := by
  cases drop with
  | false => exact h
  | true => exact { h with wide := by simp [CompactedCss.withoutWide] }

end CompactedCss

end Made

/-! ### The outputs -/

namespace Job

open Badfilters

section Outputs

variable [Externals]

variable {j : Job} (hj : j.emitted = rs.filterMap Rule.converted?) (hs : ∀ r ∈ rs, r.HasSelector)
include hj hs

/-- A category that an output is put together from. -/
theorem inBucket_madeFrom {k : Bucket} (hk : k ∈ Bucket.urlBuckets) :
    ∀ b ∈ inBucket k j.emitted, MadeFrom rs b := by
  intro b hb
  rw [hj] at hb
  exact .inl (inBucket_isConverted (.inr hk) hs hb)

/-- The rules of a category that undo no others, after some exceptions. -/
theorem apply_inBucket_isConverted (key : ExceptionKey) {k : Bucket}
    (hk : k.actionType ≠ .ignorePreviousRules) (es : List BlockerRule) :
    ∀ b ∈ (Exceptions.apply key (inBucket k j.emitted) es).1, IsConverted rs b := by
  apply Exceptions.apply_isConverted
  intro c hc
  rw [hj] at hc
  exact inBucket_isConverted (.inl hk) hs hc

theorem cssSection_madeFrom : j.cssSection.1.MadeFrom rs :=
  (CompactedCss.ofRules_madeFrom true
    (apply_inBucket_isConverted hj hs .selector (k := .cssBlocking) (by decide) _)).withoutWide _

theorem extendedCssSection_madeFrom : j.extendedCssSection.1.MadeFrom rs :=
  (CompactedCss.ofRules_madeFrom false
    (apply_inBucket_isConverted hj hs .css (k := .extendedCssBlocking) (by decide) _)).withoutWide _

theorem basicOutput_madeFrom : ∀ b ∈ j.basicOutput, MadeFrom rs b := by
  intro b hb
  obtain ⟨c, hc, rfl⟩ := exists_of_mem_basicOutput hb
  apply MadeFrom.withWildcards
  have hcss := cssSection_madeFrom hj hs
  rw [← aggregate_css] at hcss
  have hcategories : ∀ k ∈ Bucket.basicOrder, k ∈ Bucket.urlBuckets := by decide
  rcases Sections.mem_basic.1 hc with (hc | hc | hc) | ⟨k, hk, hc⟩
  · exact hcss.wide c hc
  · exact hcss.generic c hc
  · exact hcss.specific c hc
  · exact inBucket_madeFrom hj hs (hcategories k hk) c hc

theorem advancedOutput_madeFrom : ∀ advanced ∈ j.advancedOutput, ∀ b ∈ advanced, MadeFrom rs b := by
  intro advanced h b hb
  obtain ⟨hasked, c, hc, rfl⟩ := exists_of_mem_advancedOutput h hb
  apply MadeFrom.withWildcards
  have hcss := extendedCssSection_madeFrom hj hs
  have hcategories : ∀ k ∈ Bucket.advancedOrder, k ∈ Bucket.urlBuckets := by decide
  have hsections : j.aggregate.1 =
      ⟨j.cssSection.1, j.extendedCssSection.1,
        (Exceptions.apply .script (inBucket .script j.emitted)
          (inBucket .scriptExceptions j.emitted)).1,
        (Exceptions.apply .scriptlet (inBucket .scriptlets j.emitted)
          (inBucket .scriptletExceptions j.emitted)).1⟩ := by
    simp only [aggregate, hasked, if_true]
  rw [hsections] at hc
  rcases Sections.mem_advanced.1 hc with (hc | hc) | (hc | hc | hc) | ⟨k, hk, hc⟩
  · exact .inl (apply_inBucket_isConverted hj hs .script (k := .script) (by decide) _ c hc)
  · exact .inl (apply_inBucket_isConverted hj hs .scriptlet (k := .scriptlets) (by decide) _ c hc)
  · exact hcss.wide c hc
  · exact hcss.generic c hc
  · exact hcss.specific c hc
  · exact inBucket_madeFrom hj hs (hcategories k hk) c hc

end Outputs

section Types

variable [Externals]

variable {j : Job} (hj : j.emitted = rs.filterMap Rule.converted?)
include hj

theorem basicOutput_types : ∀ b ∈ j.basicOutput,
    b.action.type ∈ [ActionType.cssDisplayNone, .block, .ignorePreviousRules] := by
  intro b hb
  obtain ⟨c, hc, rfl⟩ := exists_of_mem_basicOutput hb
  exact Sections.basic_types (aggregate_typed_converted hj) (hj ▸ emittedTyped_converted rs) c hc

theorem advancedOutput_types : ∀ advanced ∈ j.advancedOutput, ∀ b ∈ advanced,
    b.action.type ∈ [ActionType.css, .script, .scriptlet, .ignorePreviousRules] := by
  intro advanced h b hb
  obtain ⟨-, c, hc, rfl⟩ := exists_of_mem_advancedOutput h hb
  exact Sections.advanced_types (aggregate_typed_converted hj) (hj ▸ emittedTyped_converted rs) c hc

end Types

/-- The result of a conversion, after any number of slices, holds the outputs of its job as text. -/
theorem finish_outputs [Externals] (sources : List Source) (options : ConvertOptions) (n : ℕ) :
    let j := ((start sources options).advance [] n).1
    j.finish.1.isSome = !sources.isEmpty ∧
      ∀ result ∈ j.finish.1, result.converted = BlockerRule.writeAll j.run.1.basicOutput ∧
        result.advancedBlocking =
          j.run.1.advancedOutput.map fun rs => (BlockerRule.writeAll rs, rs.length) := by
  intro j
  have hrun : j.run.1 = final sources options := (run_start sources options [] n).1
  have hfinish : j.finish.1 = _ := finish_start_fst sources options [] n
  rw [hfinish, hrun]
  constructor
  · cases sources <;> rfl
  · intro result hresult
    rw [Option.mem_def, Option.ite_none_left_eq_some, Option.some.injEq] at hresult
    obtain ⟨-, rfl⟩ := hresult
    exact conclude_outputs (final sources options)

/-- After any number of slices, the outputs are made from the rules that are not cancelled, and each
holds rules of some types only. -/
theorem outputs_madeFrom [Externals] {sources : List Source} (hs : ∀ s ∈ sources, s.IsRead)
    (options : ConvertOptions) (n : ℕ) :
    let rules := rulesIn sources
    let kept := rules.filter fun r => r.badfilter? = none ∧ r.text ∉ targets rules
    let j := ((start sources options).advance [] n).1
    (∀ b ∈ j.run.1.basicOutput, MadeFrom kept b ∧
        b.action.type ∈ [ActionType.cssDisplayNone, .block, .ignorePreviousRules]) ∧
      ∀ advanced ∈ j.run.1.advancedOutput, ∀ b ∈ advanced, MadeFrom kept b ∧
        b.action.type ∈ [ActionType.css, .script, .scriptlet, .ignorePreviousRules] := by
  intro rules kept j
  have hrun : j.run.1 = final sources options := (run_start sources options [] n).1
  have hselectors : ∀ r ∈ kept, r.HasSelector := fun r hr =>
    rulesIn_hasSelector hs r (List.mem_of_mem_filter hr)
  have hemitted : (final sources options).emitted = kept.filterMap Rule.converted? := by
    rw [show kept = survivors rules from (survivors_eq rules).symm]
    rfl
  rw [hrun]
  constructor
  · intro b hb
    exact ⟨basicOutput_madeFrom hemitted hselectors b hb, basicOutput_types hemitted b hb⟩
  · intro advanced h b hb
    exact ⟨advancedOutput_madeFrom hemitted hselectors advanced h b hb,
      advancedOutput_types hemitted advanced h b hb⟩

/-- **The rules of the outputs have exactly the payloads of their types, and no exception leaks into
them.**  After any number of slices, the basic output of a conversion hides elements, blocks loads
and undoes other rules; the advanced output applies styles that load nothing, runs scripts and
scriptlets, and undoes other rules.  Every rule is made from the rules that are not cancelled: those
that undo others from exceptions among the network rules, and all others from rules that are no
exceptions. -/
theorem outputs_exact [Externals] {sources : List Source} (hs : ∀ s ∈ sources, s.IsRead)
    (options : ConvertOptions) (n : ℕ) :
    let rules := rulesIn sources
    let kept := rules.filter fun r => r.badfilter? = none ∧ r.text ∉ targets rules
    let j := ((start sources options).advance [] n).1
    (j.finish.1.isSome = !sources.isEmpty ∧
      ∀ result ∈ j.finish.1, result.converted = BlockerRule.writeAll j.run.1.basicOutput ∧
        result.advancedBlocking =
          j.run.1.advancedOutput.map fun rs => (BlockerRule.writeAll rs, rs.length)) ∧
      (∀ b ∈ j.run.1.basicOutput, b.action.IsExact ∧
        b.action.type ∈ [ActionType.cssDisplayNone, .block, .ignorePreviousRules] ∧
        MadeFrom kept b) ∧
      ∀ advanced ∈ j.run.1.advancedOutput, ∀ b ∈ advanced, b.action.IsExact ∧
        b.action.type ∈ [ActionType.css, .script, .scriptlet, .ignorePreviousRules] ∧
        MadeFrom kept b := by
  intro rules kept j
  obtain ⟨hbasic, hadvanced⟩ := outputs_madeFrom hs options n
  refine ⟨finish_outputs sources options n, ?_, ?_⟩
  · intro b hb
    obtain ⟨hmade, htype⟩ := hbasic b hb
    exact ⟨hmade.isExact, htype, hmade⟩
  · intro advanced h b hb
    obtain ⟨hmade, htype⟩ := hadvanced advanced h b hb
    exact ⟨hmade.isExact, htype, hmade⟩

/-- Exceptions for scripts and scriptlets come to no output, and the others undo rules in both. -/
theorem outputs_exact_exceptions :
    let sources : List Source :=
      [.text "##.banner", .text "example.org#%#//scriptlet('log')",
        .text "example.org#$#p { color: red }", .text "example.org#@%#alert(1)",
        .text "example.org#@#.ads", .text "@@||ads.org^$document"]
    let options : ConvertOptions := { advancedBlocking := true }
    let j := ((start sources options).advance [] 1).1
    (∀ s ∈ sources, s.IsRead) ∧ j.finish.1.isSome = true ∧
      (∀ b ∈ j.run.1.basicOutput, b.action.IsExact) ∧
      j.run.1.basicOutput.map (·.action.type) = [.cssDisplayNone, .ignorePreviousRules] ∧
      ∃ advanced, j.run.1.advancedOutput = some advanced ∧ (∀ b ∈ advanced, b.action.IsExact) ∧
        advanced.map (·.action.type) = [.scriptlet, .css, .ignorePreviousRules] := by
  intro sources options j
  have hs : ∀ s ∈ sources, s.IsRead := by simp [sources, Source.IsRead]
  obtain ⟨⟨hfinish, -⟩, hbasic, hadvanced⟩ := outputs_exact hs options 1
  have hrun : j.run.1 = final sources options := (run_start sources options [] 1).1
  have htypes : (final sources options).advancedOutput.map (List.map (·.action.type)) =
      some [.scriptlet, .css, .ignorePreviousRules] := by
    decide +kernel
  obtain ⟨advanced, h, ht⟩ := Option.map_eq_some_iff.1 htypes
  rw [← hrun] at h
  refine ⟨hs, hfinish, fun b hb => (hbasic b hb).1, ?_, advanced, h,
    fun b hb => (hadvanced advanced h b hb).1, ht⟩
  rw [hrun]
  decide +kernel

/-- **What passes the check of address filters, and what therefore comes to the outputs.**  A text
passes if and only if it is in ASCII, holds no count in braces and no negative look-ahead, and every
`|` and every escape that is not understood is escaped, but for those at the start of the text and
behind an escaped backslash, which the check overlooks.  After any number of slices, the address
filters of both outputs are such texts. -/
theorem outputs_safe [Externals] {sources : List Source} (hs : ∀ s ∈ sources, s.IsRead)
    (options : ConvertOptions) (n : ℕ) :
    let j := ((start sources options).advance [] n).1
    (∀ t, UrlFilter.checkSafe t = .ok () ↔ UrlFilter.SafeBut UrlFilter.Overlooked t) ∧
      (j.finish.1.isSome = !sources.isEmpty ∧
        ∀ result ∈ j.finish.1, result.converted = BlockerRule.writeAll j.run.1.basicOutput ∧
          result.advancedBlocking =
            j.run.1.advancedOutput.map fun rs => (BlockerRule.writeAll rs, rs.length)) ∧
      (∀ b ∈ j.run.1.basicOutput,
        UrlFilter.SafeBut UrlFilter.Overlooked b.trigger.urlFilter) ∧
      ∀ advanced ∈ j.run.1.advancedOutput, ∀ b ∈ advanced,
        UrlFilter.SafeBut UrlFilter.Overlooked b.trigger.urlFilter := by
  intro j
  obtain ⟨hbasic, hadvanced⟩ := outputs_madeFrom hs options n
  refine ⟨fun t => UrlFilter.checkSafe_eq_ok_iff, finish_outputs sources options n, ?_, ?_⟩
  · intro b hb
    exact UrlFilter.checkSafe_eq_ok_iff.1 (hbasic b hb).1.checkSafe
  · intro advanced h b hb
    exact UrlFilter.checkSafe_eq_ok_iff.1 (hadvanced advanced h b hb).1.checkSafe

/-- A regular expression that uses none of the constructs comes to the output. -/
theorem outputs_safe_regex :
    let sources : List Source := [.text "/^https?:\\/\\/ads\\./"]
    let j := ((start sources {}).advance [] 1).1
    (∀ s ∈ sources, s.IsRead) ∧ j.finish.1.isSome = true ∧
      ∃ b, j.run.1.basicOutput = [b] ∧
        b.trigger.urlFilter = "^https?:\\/\\/ads\\.".toList ∧
        UrlFilter.SafeBut UrlFilter.Overlooked b.trigger.urlFilter := by
  intro sources j
  have hs : ∀ s ∈ sources, s.IsRead := by simp [sources, Source.IsRead]
  obtain ⟨-, ⟨hfinish, -⟩, hbasic, -⟩ := outputs_safe hs {} 1
  have hrun : j.run.1 = final sources {} := (run_start sources {} [] 1).1
  have hfilters : j.run.1.basicOutput.map (·.trigger.urlFilter) =
      ["^https?:\\/\\/ads\\.".toList] := by
    rw [hrun]
    decide +kernel
  obtain ⟨b, hb, hfilter⟩ := List.map_eq_singleton_iff.1 hfilters
  refine ⟨hs, hfinish, b, hb, hfilter, hbasic b ?_⟩
  rw [hb]
  exact List.mem_singleton_self b

/-- What stands at the start of a text, or behind an escaped backslash, is overlooked: it passes the
check, and rules with it come to the output, although it is not escaped. -/
theorem outputs_safe_overlooked :
    let sources : List Source := [.text "/\\d+ads/", .text "/ads\\\\|track/"]
    let filters : List Text := ["\\d+ads".toList, "ads\\\\|track".toList]
    let j := ((start sources {}).advance [] 1).1
    (∀ s ∈ sources, s.IsRead) ∧ j.run.1.basicOutput.map (·.trigger.urlFilter) = filters ∧
      (∀ t ∈ filters, UrlFilter.checkSafe t = .ok ()) ∧
      ∀ t ∈ filters, ¬UrlFilter.SafeBut (fun _ => False) t := by
  intro sources filters j
  have hrun : j.run.1 = final sources {} := (run_start sources {} [] 1).1
  refine ⟨by simp [sources, Source.IsRead], ?_, by decide +kernel, ?_⟩
  · rw [hrun]
    decide +kernel
  · simp only [filters, List.forall_mem_cons, List.not_mem_nil, false_implies, implies_true,
      and_true]
    constructor
    · intro h
      have hescaped := h.escape [] 'd' "+ads".toList rfl (by decide)
      simp at hescaped
    · intro h
      have hescaped := h.pipe "ads\\\\".toList "track".toList rfl
      revert hescaped
      decide +kernel

end Job
end ContentBlocker
