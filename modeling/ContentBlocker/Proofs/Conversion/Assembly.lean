import ContentBlocker.Proofs.Conversion.Categories
import ContentBlocker.Proofs.Conversion.Scoping

/-!
# What the outputs are put together from

An output is put together from sections, which hold hiding rules and scripts after exceptions and
compaction, and from categories of network rules.

* `EmittedTyped` tells the types of the actions in all categories, by `emittedTyped_converted`;
* `Sections.Typed` tells them for the sections, by `Job.aggregate_typed`;
* `Sections.basic_filter` and `Sections.advanced_filter`: without their sections, the outputs are
  categories in order.
-/

namespace ContentBlocker

/-! ### Types of actions -/

/-- In each category all actions are of its type. -/
def EmittedTyped (emitted : List Emitted) : Prop :=
  ∀ k, ∀ r ∈ inBucket k emitted, r.action.type = k.actionType

theorem emittedTyped_converted [Externals] (rs : List Rule) :
    EmittedTyped (rs.filterMap Rule.converted?) :=
  fun _ _ hr => type_of_mem_inBucket hr

/-- The rules that exceptions leave have the actions that they had before. -/
theorem Exceptions.apply_types (key : ExceptionKey) {rules : List BlockerRule} {type : ActionType}
    (h : ∀ r ∈ rules, r.action.type = type) (es : List BlockerRule) :
    ∀ r ∈ (apply key rules es).1, r.action.type = type := by
  intro r hr
  rw [apply_rules] at hr
  obtain ⟨r', hr', rfl⟩ := List.mem_map.1 (List.mem_of_mem_filter hr)
  rw [excepted_action]
  exact h r' hr'

namespace CompactedCss

theorem Sorted.withoutWide {type : ActionType} {c : CompactedCss} (h : c.Sorted type)
    (drop : Bool) : (c.withoutWide drop).Sorted type := by
  cases drop with
  | false => exact h
  | true => exact { h with wide := by simp [CompactedCss.withoutWide] }

theorem Sorted.types {type : ActionType} {c : CompactedCss} (h : c.Sorted type) :
    (∀ r ∈ c.wide, r.action.type = type) ∧ (∀ r ∈ c.generic, r.action.type = type) ∧
      ∀ r ∈ c.specific, r.action.type = type :=
  ⟨fun r hr => (BlockerRule.isWide_iff.1 (h.wide r hr)).1, fun r hr => (h.generic r hr).1,
    fun r hr => (h.specific r hr).1⟩

end CompactedCss

/-! ### Sections -/

namespace Sections

/-- In each section all actions are of its type, and hiding rules are sorted. -/
structure Typed (s : Sections) : Prop where
  css : s.css.Sorted .cssDisplayNone
  extendedCss : s.extendedCss.Sorted .css
  script : ∀ r ∈ s.script, r.action.type = .script
  scriptlets : ∀ r ∈ s.scriptlets, r.action.type = .scriptlet

/-! A test that only looks at types keeps or drops a section or a category as a whole. -/

theorem filter_eq_self_of_type {rules : List BlockerRule} {type : ActionType}
    (h : ∀ r ∈ rules, r.action.type = type) {p : BlockerRule → Bool}
    (hp : ∀ r, r.action.type = type → p r = true) : rules.filter p = rules :=
  List.filter_eq_self.2 fun r hr => hp r (h r hr)

theorem filter_eq_nil_of_type {rules : List BlockerRule} {type : ActionType}
    (h : ∀ r ∈ rules, r.action.type = type) {p : BlockerRule → Bool}
    (hp : ∀ r, r.action.type = type → p r = false) : rules.filter p = [] :=
  List.filter_eq_nil_iff.2 fun r hr => by simp [hp r (h r hr)]

section Filter

variable {s : Sections} (hs : s.Typed) {emitted : List Emitted} (he : EmittedTyped emitted)
include hs he

/-- Without hiding rules, the basic output is categories of network rules in order. -/
theorem basic_filter :
    (s.basic emitted).filter (·.action.type ≠ .cssDisplayNone) =
      Bucket.basicOrder.flatMap (inBucket · emitted) := by
  obtain ⟨hw, hg, hd⟩ := hs.css.types
  have hcss : ∀ r : BlockerRule, r.action.type = .cssDisplayNone →
      decide (r.action.type ≠ .cssDisplayNone) = false := by
    intro r hr
    simp [hr]
  have hall : ∀ k : Bucket, k.actionType ≠ .cssDisplayNone →
      (inBucket k emitted).filter (·.action.type ≠ .cssDisplayNone) = inBucket k emitted :=
    fun k hk => filter_eq_self_of_type (he k) fun r hr => by simp [hr, hk]
  -- the hiding rules go, and every category stays
  simp only [basic, List.filter_append, filter_eq_nil_of_type hw hcss,
    filter_eq_nil_of_type hg hcss, filter_eq_nil_of_type hd hcss]
  simp (disch := decide) only [hall]
  simp only [Bucket.basicOrder, List.flatMap_cons, List.flatMap_nil, List.nil_append,
    List.append_nil, List.append_assoc]

/-- Without hiding rules, styles and scripts, the advanced output is categories of network rules in
order. -/
theorem advanced_filter :
    (s.advanced emitted).filter (·.action.type = .ignorePreviousRules) =
      Bucket.advancedOrder.flatMap (inBucket · emitted) := by
  obtain ⟨hw, hg, hd⟩ := hs.extendedCss.types
  have hother : ∀ {type : ActionType}, type ≠ .ignorePreviousRules → ∀ r : BlockerRule,
      r.action.type = type → decide (r.action.type = .ignorePreviousRules) = false :=
    fun ht r hr => by simp [hr, ht]
  have hcss := hother (show ActionType.css ≠ .ignorePreviousRules by decide)
  have hall : ∀ k : Bucket, k.actionType = .ignorePreviousRules →
      (inBucket k emitted).filter (·.action.type = .ignorePreviousRules) = inBucket k emitted :=
    fun k hk => filter_eq_self_of_type (he k) fun r hr => by simp [hr, hk]
  simp only [advanced, List.filter_append, filter_eq_nil_of_type hw hcss,
    filter_eq_nil_of_type hg hcss, filter_eq_nil_of_type hd hcss,
    filter_eq_nil_of_type hs.script (hother (by decide)),
    filter_eq_nil_of_type hs.scriptlets (hother (by decide))]
  simp (disch := decide) only [hall]
  simp only [Bucket.advancedOrder, List.flatMap_cons, List.flatMap_nil, List.nil_append,
    List.append_nil, List.append_assoc]

/-- The basic output hides elements, blocks loads and undoes other rules. -/
theorem basic_types : ∀ r ∈ s.basic emitted,
    r.action.type ∈ [ActionType.cssDisplayNone, .block, .ignorePreviousRules] := by
  obtain ⟨hw, hg, hd⟩ := hs.css.types
  intro r hr
  rcases mem_basic.1 hr with (hr | hr | hr) | ⟨k, hk, hr⟩
  · simp [hw r hr]
  · simp [hg r hr]
  · simp [hd r hr]
  · have hcategories : ∀ k ∈ Bucket.basicOrder,
        k.actionType ∈ [ActionType.cssDisplayNone, .block, .ignorePreviousRules] := by decide
    rw [he k r hr]
    exact hcategories k hk

/-- The advanced output applies styles, runs scripts and scriptlets, and undoes other rules. -/
theorem advanced_types : ∀ r ∈ s.advanced emitted,
    r.action.type ∈ [ActionType.css, .script, .scriptlet, .ignorePreviousRules] := by
  obtain ⟨hw, hg, hd⟩ := hs.extendedCss.types
  intro r hr
  rcases mem_advanced.1 hr with (hr | hr) | (hr | hr | hr) | ⟨k, hk, hr⟩
  · simp [hs.script r hr]
  · simp [hs.scriptlets r hr]
  · simp [hw r hr]
  · simp [hg r hr]
  · simp [hd r hr]
  · have hcategories : ∀ k ∈ Bucket.advancedOrder,
        k.actionType ∈ [ActionType.css, .script, .scriptlet, .ignorePreviousRules] := by decide
    rw [he k r hr]
    exact hcategories k hk

/-- The advanced output blocks no loads. -/
theorem advanced_types_ne_block : ∀ r ∈ s.advanced emitted, r.action.type ≠ .block := by
  intro r hr
  exact ne_of_mem_of_not_mem (advanced_types hs he r hr) (by decide)

end Filter
end Sections

namespace Job

theorem aggregate_css (j : Job) : j.aggregate.1.css = j.cssSection.1 := by
  simp only [aggregate]
  split <;> rfl

section Emitted

variable {j : Job} (hs : EmittedScoped j.emitted) (ht : EmittedTyped j.emitted)
include hs ht

theorem cssSection_sorted : j.cssSection.1.Sorted .cssDisplayNone := by
  have hscoped := Exceptions.apply_scoped .selector (inBucket_scoped .cssBlocking hs)
    (inBucket .cssExceptions j.emitted)
  have htypes := Exceptions.apply_types .selector (ht .cssBlocking)
    (inBucket .cssExceptions j.emitted)
  exact (CompactedCss.ofRules_sorted (fun _ => rfl) htypes fun r hr =>
    (hscoped r hr).toFilled).withoutWide j.options.optimize

theorem extendedCssSection_sorted : j.extendedCssSection.1.Sorted .css := by
  have hscoped := Exceptions.apply_scoped .css (inBucket_scoped .extendedCssBlocking hs)
    (inBucket .cssExceptions j.emitted ++ inBucket .cosmeticCssExceptions j.emitted)
  have htypes := Exceptions.apply_types .css (ht .extendedCssBlocking)
    (inBucket .cssExceptions j.emitted ++ inBucket .cosmeticCssExceptions j.emitted)
  exact (CompactedCss.ofRules_sorted (by simp) htypes fun r hr =>
    (hscoped r hr).toFilled).withoutWide j.options.optimize

theorem aggregate_typed : j.aggregate.1.Typed := by
  simp only [aggregate]
  split
  · exact ⟨cssSection_sorted hs ht, extendedCssSection_sorted hs ht,
      Exceptions.apply_types _ (ht .script) _, Exceptions.apply_types _ (ht .scriptlets) _⟩
  · exact ⟨cssSection_sorted hs ht, CompactedCss.sorted_empty .css, by simp, by simp⟩

end Emitted

/-- The sections of a job that holds what rules were converted to. -/
theorem aggregate_typed_converted [Externals] {j : Job} {rs : List Rule}
    (hj : j.emitted = rs.filterMap Rule.converted?) : j.aggregate.1.Typed := by
  apply aggregate_typed
  · rw [hj]
    exact emittedScoped_converted rs
  · rw [hj]
    exact emittedTyped_converted rs

end Job
end ContentBlocker
