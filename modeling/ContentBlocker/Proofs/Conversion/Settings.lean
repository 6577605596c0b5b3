import ContentBlocker.Proofs.Conversion.Assembly

/-!
# What the settings leave out

All settings of a conversion but the size of slices leave something out of one conversion that leaves
out nothing.

* `ConvertOptions.full` are the settings that leave nothing out;
* `Sections.basic_withoutWide` and `Sections.advanced_withoutWide`: without its wide rules, a
  section leaves the output without wide rules of its type;
* `Job.basicOutput_eq_truncate` and `Job.advancedOutput_eq_filter` compare the outputs of a job with
  those under the settings that leave nothing out;
* `Job.settings_filter` compares the results of two conversions of the same lines.
-/

namespace ContentBlocker

/-- The settings that leave nothing out. -/
def ConvertOptions.full (chunkSize : ℕ) : ConvertOptions :=
  { limit := 0, optimize := false, advancedBlocking := true, chunkSize }

/-- Without the rules of a type that have no list of domains, if `drop` is set. -/
def dropWide (drop : Bool) (type : ActionType) (rules : List BlockerRule) : List BlockerRule :=
  if drop then rules.filter (!·.isWide type) else rules

theorem dropWide_map_withWildcards (drop : Bool) (type : ActionType) (rules : List BlockerRule) :
    dropWide drop type (rules.map BlockerRule.withWildcards) =
      (dropWide drop type rules).map BlockerRule.withWildcards := by
  cases drop with
  | false => rfl
  | true =>
    simp only [dropWide, if_true, List.filter_map]
    congr 2
    funext r
    simp

/-! ### Sections without wide rules -/

namespace CompactedCss

theorem Sorted.filter_isWide {type : ActionType} {c : CompactedCss} (h : c.Sorted type) :
    c.wide.filter (!·.isWide type) = [] ∧ c.generic.filter (!·.isWide type) = c.generic ∧
      c.specific.filter (!·.isWide type) = c.specific := by
  refine ⟨?_, ?_, ?_⟩
  · rw [List.filter_eq_nil_iff]
    intro r hr
    simp [h.wide r hr]
  · rw [List.filter_eq_self]
    intro r hr
    obtain ⟨-, -, hu⟩ := h.generic r hr
    simp [BlockerRule.isWide, hu]
  · rw [List.filter_eq_self]
    intro r hr
    obtain ⟨-, hi⟩ := h.specific r hr
    simp [BlockerRule.isWide, hi]

end CompactedCss

namespace Sections

/-- A rule of another type stays. -/
theorem filter_isWide_of_type {rules : List BlockerRule} {type dropped : ActionType}
    (h : ∀ r ∈ rules, r.action.type = type) (hd : type ≠ dropped) :
    rules.filter (!·.isWide dropped) = rules := by
  refine filter_eq_self_of_type h fun r hr => ?_
  simp [BlockerRule.isWide, hr, hd]

/-- The sections without hiding rules for all domains, if `drop` is set. -/
def withoutWide (drop : Bool) (s : Sections) : Sections :=
  { s with css := s.css.withoutWide drop, extendedCss := s.extendedCss.withoutWide drop }

/-- Of all sections only the hiding rules are in the basic output. -/
theorem basic_congr {s t : Sections} (h : s.css = t.css) (emitted : List Emitted) :
    s.basic emitted = t.basic emitted := by
  simp only [basic, h]

variable {s : Sections} (hs : s.Typed) {emitted : List Emitted} (he : EmittedTyped emitted)
include hs he

theorem basic_withoutWide (drop : Bool) :
    (s.withoutWide drop).basic emitted = dropWide drop .cssDisplayNone (s.basic emitted) := by
  cases drop with
  | false => rfl
  | true =>
    obtain ⟨hw, hg, hd⟩ := hs.css.filter_isWide
    have hall : ∀ k : Bucket, k.actionType ≠ .cssDisplayNone →
        (inBucket k emitted).filter (!·.isWide .cssDisplayNone) = inBucket k emitted :=
      fun k hk => filter_isWide_of_type (he k) hk
    -- network rules are of other types, so only hiding rules are left out
    simp only [dropWide, if_true, basic, List.filter_append, hw, hg, hd]
    simp (disch := decide) only [hall]
    rfl

theorem advanced_withoutWide (drop : Bool) :
    (s.withoutWide drop).advanced emitted = dropWide drop .css (s.advanced emitted) := by
  cases drop with
  | false => rfl
  | true =>
    obtain ⟨hw, hg, hd⟩ := hs.extendedCss.filter_isWide
    have hall : ∀ k : Bucket, k.actionType ≠ .css →
        (inBucket k emitted).filter (!·.isWide .css) = inBucket k emitted :=
      fun k hk => filter_isWide_of_type (he k) hk
    simp only [dropWide, if_true, advanced, List.filter_append, hw, hg, hd,
      filter_isWide_of_type hs.script (show ActionType.script ≠ .css by decide),
      filter_isWide_of_type hs.scriptlets (show ActionType.scriptlet ≠ .css by decide)]
    simp (disch := decide) only [hall]
    rfl

end Sections

namespace Job

/-! ### Outputs under other settings -/

theorem truncate_map (limit : ℕ) (f : BlockerRule → BlockerRule) (rules : List BlockerRule) :
    truncate limit (rules.map f) = (truncate limit rules).map f := by
  unfold truncate
  split
  · rfl
  · exact List.map_take.symm

/-- A job under the settings that leave nothing out. -/
def full (j : Job) (size : ℕ) : Job := { j with options := .full size }

theorem aggregate_css_full (j : Job) (size : ℕ) :
    j.aggregate.1.css = ((j.full size).aggregate.1.withoutWide j.options.optimize).css := by
  rw [aggregate_css, Sections.withoutWide, aggregate_css]
  rfl

theorem aggregate_full {j : Job} (h : j.options.advancedBlocking = true) (size : ℕ) :
    j.aggregate.1 = (j.full size).aggregate.1.withoutWide j.options.optimize := by
  simp only [aggregate, h, if_true]
  rfl

section Outputs

variable {j : Job} (hs : EmittedScoped j.emitted) (ht : EmittedTyped j.emitted) (size : ℕ)
include hs ht

theorem basic_eq_dropWide :
    j.aggregate.1.basic j.emitted =
      dropWide j.options.optimize .cssDisplayNone ((j.full size).aggregate.1.basic j.emitted) := by
  have htyped : (j.full size).aggregate.1.Typed := aggregate_typed hs ht
  rw [Sections.basic_congr (aggregate_css_full j size), Sections.basic_withoutWide htyped ht]

theorem map_basic_eq_dropWide :
    (j.aggregate.1.basic j.emitted).map BlockerRule.withWildcards =
      dropWide j.options.optimize .cssDisplayNone (j.full size).basicOutput := by
  have hlimit : (j.full size).options.limit = 0 := rfl
  rw [basicOutput_of_limit_zero hlimit, dropWide_map_withWildcards, basic_eq_dropWide hs ht size]
  rfl

/-- The basic output loses its wide hiding rules, if it is to, and then what is over the limit. -/
theorem basicOutput_eq_truncate :
    j.basicOutput = truncate j.options.limit
      (dropWide j.options.optimize .cssDisplayNone (j.full size).basicOutput) := by
  rw [basicOutput_eq, ← truncate_map, map_basic_eq_dropWide hs ht size]

/-- The advanced output loses its wide hiding rules, if it is to and if it is asked for at all. -/
theorem advancedOutput_eq_filter :
    ∃ advanced, (j.full size).advancedOutput = some advanced ∧
      j.advancedOutput =
        if j.options.advancedBlocking then some (dropWide j.options.optimize .css advanced)
        else none := by
  have htyped : (j.full size).aggregate.1.Typed := aggregate_typed hs ht
  refine ⟨((j.full size).aggregate.1.advanced j.emitted).map BlockerRule.withWildcards,
    advancedOutput_eq _, ?_⟩
  rw [advancedOutput_eq]
  split
  · next h =>
    rw [aggregate_full h size, Sections.advanced_withoutWide htyped ht, dropWide_map_withWildcards]
  · rfl

end Outputs

/-! ### Results under other settings -/

/-- What the result of a job says about its basic output and the limit. -/
theorem conclude_limit (j : Job) :
    let all := j.aggregate.1.basic j.emitted
    let isOver := isOverLimit j.options.limit all
    j.conclude.1.totalConvertedCount = all.length ∧
      j.conclude.1.convertedCount = j.basicOutput.length ∧
      j.conclude.1.overLimit = isOver ∧
      j.conclude.1.errors = j.errors ++ if isOver then [limitError j.options.limit] else [] := by
  intro all isOver
  obtain ⟨stats, hk⟩ := j.aggregate_eq
  simp only [conclude, result, basicOutput, hk, all, isOver, and_self]

theorem conclude_full_errors (j : Job) (size : ℕ) : (j.full size).conclude.1.errors = j.errors := by
  obtain ⟨-, -, -, herrors⟩ := conclude_limit (j.full size)
  have hnever : isOverLimit (j.full size).options.limit
      ((j.full size).aggregate.1.basic (j.full size).emitted) = false := rfl
  rw [herrors, hnever]
  exact List.append_nil j.errors

/-- The counts, the flag and the messages tell what the limit cuts off. -/
theorem conclude_eq_full {j : Job} (hs : EmittedScoped j.emitted) (ht : EmittedTyped j.emitted)
    (size : ℕ) :
    let basic := dropWide j.options.optimize .cssDisplayNone (j.full size).basicOutput
    j.conclude.1.totalConvertedCount = basic.length ∧
      j.conclude.1.convertedCount =
        (if j.options.limit = 0 then basic.length else min basic.length j.options.limit) ∧
      (j.conclude.1.overLimit = true ↔
        0 < j.options.limit ∧ j.options.limit < basic.length) ∧
      j.conclude.1.errors = (j.full size).conclude.1.errors ++
        if j.conclude.1.overLimit then [limitError j.options.limit] else [] := by
  intro basic
  have hlength : (j.aggregate.1.basic j.emitted).length = basic.length := by
    have h := congrArg List.length (map_basic_eq_dropWide hs ht size)
    rwa [List.length_map] at h
  obtain ⟨htotal, hcount, hover, herrors⟩ := conclude_limit j
  refine ⟨htotal.trans hlength, ?_, ?_, ?_⟩
  · rw [hcount, basicOutput_eq_truncate hs ht size]
    unfold truncate
    split
    · rfl
    · rw [List.length_take, Nat.min_comm]
  · rw [hover, ← hlength]
    simp [isOverLimit]
  · rw [herrors, hover, conclude_full_errors]

/-! ### Two conversions -/

/-- **The settings act as filters on one conversion.**  Take the conversion of some lines under the
settings that leave nothing out, after any number of slices, and another one of the same lines under
any settings.  Its basic output is that of the first up to the limit, without the hiding rules for
all domains if they are to be left out; its advanced output, if it is asked for, is that of the first
without the same.  The counts, the flag and the messages tell what the limit cuts off. -/
theorem settings_filter [Externals] {sources : List Source} (hs : sources ≠ [])
    (options : ConvertOptions) (size n k : ℕ) :
    let reference := ((start sources (.full size)).advance [] n).1
    let j := ((start sources options).advance [] k).1
    let basic := dropWide options.optimize .cssDisplayNone reference.run.1.basicOutput
    ∃ (R result : ConversionResult) (advanced : List BlockerRule),
      (reference.finish.1 = some R ∧
        R.converted = BlockerRule.writeAll reference.run.1.basicOutput ∧
        reference.run.1.advancedOutput = some advanced ∧
        R.advancedBlocking = some (BlockerRule.writeAll advanced, advanced.length)) ∧
      (j.finish.1 = some result ∧
        result.converted = BlockerRule.writeAll j.run.1.basicOutput ∧
        result.advancedBlocking =
          j.run.1.advancedOutput.map fun rs => (BlockerRule.writeAll rs, rs.length)) ∧
      j.run.1.basicOutput = (if options.limit = 0 then basic else basic.take options.limit) ∧
      j.run.1.advancedOutput =
        (if options.advancedBlocking then some (dropWide options.optimize .css advanced)
          else none) ∧
      result.totalConvertedCount = basic.length ∧
      result.convertedCount =
        (if options.limit = 0 then basic.length else min basic.length options.limit) ∧
      (result.overLimit = true ↔ 0 < options.limit ∧ options.limit < basic.length) ∧
      result.errors = R.errors ++ if result.overLimit then [limitError options.limit] else [] := by
  intro reference j basic
  have hscoped := final_emittedScoped sources options
  have htyped : EmittedTyped (final sources options).emitted := emittedTyped_converted _
  -- the job at the end of the reference differs from the other in its settings only
  have hreference : reference.run.1 = (final sources options).full size :=
    (run_start sources (.full size) [] n).1
  have hj : j.run.1 = final sources options := (run_start sources options [] k).1
  have hR : reference.finish.1 = some ((final sources options).full size).conclude.1 :=
    (finish_start hs (.full size) [] n).1
  have hresult : j.finish.1 = some (final sources options).conclude.1 :=
    (finish_start hs options [] k).1
  obtain ⟨advanced, hadvanced, hfiltered⟩ := advancedOutput_eq_filter hscoped htyped size
  obtain ⟨hconverted, hblocking⟩ := conclude_outputs ((final sources options).full size)
  rw [hadvanced] at hblocking
  have hbasic := basicOutput_eq_truncate hscoped htyped size
  have hcounts := conclude_eq_full hscoped htyped size
  simp only [basic, hreference, hj]
  exact ⟨_, _, advanced, ⟨hR, hconverted, hadvanced, hblocking⟩,
    ⟨hresult, conclude_outputs (final sources options)⟩, hbasic, hfiltered, hcounts⟩

/-- Of three rules one is for all domains, and one is over the limit. -/
theorem settings_filter_limit :
    let sources : List Source :=
      [.text "##.banner", .text "example.org##.banner", .text "||ads.org^"]
    let options : ConvertOptions := { limit := 1, optimize := true }
    let j := ((start sources options).advance [] 2).1
    sources ≠ [] ∧
      j.run.1.basicOutput.map (fun r => (r.action.type, r.trigger.ifDomain)) =
        [(.cssDisplayNone, some ["*example.org".toList])] ∧
      ∃ R result, ((start sources (.full 0)).advance [] 1).1.finish.1 = some R ∧
        j.finish.1 = some result ∧ result.totalConvertedCount = 2 ∧ result.convertedCount = 1 ∧
        result.overLimit = true ∧ result.advancedBlocking = none ∧
        result.errors = R.errors ++ [limitError 1] := by
  intro sources options j
  have hs : sources ≠ [] := by simp [sources]
  obtain ⟨R, result, advanced, ⟨hR, -, -, -⟩, ⟨hresult, -, hadvanced⟩, hbasic, hnone, htotal, hcount,
    hover, herrors⟩ := settings_filter hs options 0 1 2
  have hreference : ((start sources (.full 0)).advance [] 1).1.run.1 = final sources (.full 0) :=
    (run_start sources (.full 0) [] 1).1
  rw [hreference] at hbasic htotal hcount hover
  have hlength : (dropWide options.optimize .cssDisplayNone
      (final sources (.full 0)).basicOutput).length = 2 := by
    decide +kernel
  rw [hlength] at htotal hcount hover
  have hlimit : result.overLimit = true := hover.2 (by decide)
  refine ⟨hs, ?_, R, result, hR, hresult, htotal, hcount, hlimit, ?_, ?_⟩
  · rw [hbasic]
    decide +kernel
  · rw [hadvanced, hnone]
    rfl
  · rw [herrors, hlimit]
    rfl

end Job
end ContentBlocker
