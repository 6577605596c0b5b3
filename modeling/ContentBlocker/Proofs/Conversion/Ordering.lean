import ContentBlocker.Proofs.Conversion.Assembly
import ContentBlocker.Proofs.Conversion.Cancelling

/-!
# The order of the outputs

As every converted network rule is in one category, and an output names a category at most once, what
network rules are converted to is sorted in an output, and nothing is lost or doubled.

* `flatMap_filter_eq_mergeSort`: the members of each category in turn are the sorted list;
* `urlItems_sorted`: so are the categories of network rules in turn;
* `Job.outputs_ordered` describes both outputs of a conversion.
-/

namespace ContentBlocker

/-! ### Sorting by category -/

section Sorting

variable {α β : Type} [DecidableEq β]

/-- The category of the first does not come behind that of the second. -/
def inOrder (f : α → β) (order : List β) (x y : α) : Bool := order.idxOf (f x) ≤ order.idxOf (f y)

theorem inOrder_iff {f : α → β} {order : List β} {x y : α} :
    inOrder f order x y = true ↔ order.idxOf (f x) ≤ order.idxOf (f y) := by
  simp [inOrder]

theorem inOrder_trans {f : α → β} {order : List β} (x y z : α) (hxy : inOrder f order x y = true)
    (hyz : inOrder f order y z = true) : inOrder f order x z = true := by
  rw [inOrder_iff] at *
  exact Nat.le_trans hxy hyz

theorem inOrder_total {f : α → β} {order : List β} (x y : α) :
    (inOrder f order x y || inOrder f order y x) = true := by
  rw [Bool.or_eq_true, inOrder_iff, inOrder_iff]
  exact Nat.le_total _ _

/-- If members with a property never stand behind others, they are the first part of the list. -/
theorem filter_append_filter_not {p : α → Bool} {xs : List α}
    (h : xs.Pairwise fun x y => p y = true → p x = true) :
    xs.filter p ++ xs.filter (!p ·) = xs := by
  induction h with
  | nil => rfl
  | @cons x xs hx _ ih =>
    cases hp : p x with
    | true => simpa [hp] using ih
    | false =>
      have hnone : xs.filter p = [] := by
        rw [List.filter_eq_nil_iff]
        intro y hy hpy
        rw [hx y hy hpy] at hp
        cases hp
      rw [hnone, List.nil_append] at ih
      simp [hp, hnone, ih]

/-- Members that are in none of the categories can be left out. -/
theorem flatMap_filter_filter (f : α → β) {order : List β} {p : α → Bool} {xs : List α}
    (hp : ∀ x ∈ xs, f x ∈ order → p x = true) :
    (order.flatMap fun c => (xs.filter p).filter (f · = c)) =
      order.flatMap fun c => xs.filter (f · = c) := by
  apply List.flatMap_congr
  intro c hc
  rw [List.filter_filter]
  apply List.filter_congr
  intro x hx
  by_cases hxc : f x = c
  · rw [hp x hx (hxc ▸ hc), Bool.and_true]
  · simp [hxc]

/-- A list in the order of its categories is the members of each category in turn. -/
theorem flatMap_filter_of_pairwise (f : α → β) {order : List β} (hn : order.Nodup) {xs : List α}
    (hf : ∀ x ∈ xs, f x ∈ order) (h : xs.Pairwise fun x y => inOrder f order x y = true) :
    (order.flatMap fun c => xs.filter (f · = c)) = xs := by
  simp only [inOrder_iff] at h
  induction order generalizing xs with
  | nil =>
    have hnil : xs = [] := List.eq_nil_iff_forall_not_mem.2 fun x hx => by simpa using hf x hx
    rw [hnil]
    rfl
  | cons c cs ih =>
    obtain ⟨hc, hcs⟩ := List.nodup_cons.1 hn
    have hfirst : xs.Pairwise fun x y => decide (f y = c) = true → decide (f x = c) = true := by
      refine h.imp fun hxy hy => ?_
      rw [of_decide_eq_true hy, List.idxOf_cons_self, Nat.le_zero,
        List.idxOf_eq_zero_iff_eq_nil_or_head_eq] at hxy
      simpa [eq_comm] using hxy
    have hne : ∀ x ∈ xs.filter (fun x => !decide (f x = c)), x ∈ xs ∧ f x ≠ c := by
      simp
    -- behind the members of the first category, the others are in the order that is left
    have hrest : (cs.flatMap fun d => (xs.filter fun x => !decide (f x = c)).filter (f · = d)) =
        xs.filter fun x => !decide (f x = c) := by
      apply ih hcs
      · intro x hx
        exact (List.mem_cons.1 (hf x (hne x hx).1)).resolve_left (hne x hx).2
      · refine (h.filter _).imp_of_mem fun {x y} hx hy hxy => ?_
        rw [List.idxOf_cons_ne _ (hne x hx).2.symm, List.idxOf_cons_ne _ (hne y hy).2.symm] at hxy
        exact Nat.le_of_succ_le_succ hxy
    have hsame : (cs.flatMap fun d => (xs.filter fun x => !decide (f x = c)).filter (f · = d)) =
        cs.flatMap fun d => xs.filter (f · = d) := by
      refine flatMap_filter_filter f fun x _ hxcs => ?_
      have hxc : f x ≠ c := ne_of_mem_of_not_mem hxcs hc
      simpa using hxc
    rw [List.flatMap_cons, ← hsame, hrest]
    exact filter_append_filter_not hfirst

/-- Sorting by category keeps the members of one category in order. -/
theorem filter_mergeSort (f : α → β) (order : List β) (xs : List α) (c : β) :
    (xs.mergeSort (inOrder f order)).filter (f · = c) = xs.filter (f · = c) := by
  have hequal : (xs.filter (f · = c)).Pairwise fun x y => inOrder f order x y = true := by
    apply List.pairwise_of_forall_mem_list
    intro x hx y hy
    rw [inOrder_iff, of_decide_eq_true (List.mem_filter.1 hx).2,
      of_decide_eq_true (List.mem_filter.1 hy).2]
  -- members that are in order stay in order, and there are as many of them as before
  have hsub := (List.sublist_mergeSort inOrder_trans inOrder_total hequal
    List.filter_sublist).filter (f · = c)
  rw [List.filter_filter] at hsub
  simp only [Bool.and_self] at hsub
  exact (hsub.eq_of_length ((List.mergeSort_perm xs _).filter _).length_eq.symm).symm

/-- The members of each category in turn are those that are in one of the categories, sorted. -/
theorem flatMap_filter_eq_mergeSort (f : α → β) {order : List β} (hn : order.Nodup) {p : α → Bool}
    {xs : List α} (hp : ∀ x ∈ xs, p x = true ↔ f x ∈ order) :
    (order.flatMap fun c => xs.filter (f · = c)) = (xs.filter p).mergeSort (inOrder f order) := by
  have hmem : ∀ x ∈ (xs.filter p).mergeSort (inOrder f order), f x ∈ order := by
    intro x hx
    obtain ⟨hx, hpx⟩ := List.mem_filter.1 (List.mem_mergeSort.1 hx)
    exact (hp x hx).1 hpx
  have hsorted := flatMap_filter_of_pairwise f hn hmem
    (List.pairwise_mergeSort inOrder_trans inOrder_total _)
  simp only [filter_mergeSort] at hsorted
  rwa [flatMap_filter_filter f fun x hx hf => (hp x hx).2 hf] at hsorted

end Sorting

/-! ### Hiding rules with wildcards -/

namespace CompactedCss

/-- Rules by the domains they are for, with the wildcard in front of all domains. -/
def withWildcards (c : CompactedCss) : CompactedCss :=
  { wide := c.wide.map BlockerRule.withWildcards
    generic := c.generic.map BlockerRule.withWildcards
    specific := c.specific.map BlockerRule.withWildcards }

theorem Sorted.withWildcards {type : ActionType} {c : CompactedCss} (h : c.Sorted type) :
    c.withWildcards.Sorted type := by
  constructor
  · refine List.forall_mem_map.2 fun r hr => ?_
    rw [BlockerRule.isWide_withWildcards]
    exact h.wide r hr
  · refine List.forall_mem_map.2 fun r hr => ?_
    obtain ⟨ht, hi, hu⟩ := h.generic r hr
    refine ⟨ht, ?_, ?_⟩
    · simp [BlockerRule.withWildcards, Trigger.withWildcards, hi]
    · simpa [BlockerRule.withWildcards, Trigger.withWildcards] using hu
  · refine List.forall_mem_map.2 fun r hr => ?_
    obtain ⟨ht, hi⟩ := h.specific r hr
    refine ⟨ht, ?_⟩
    simpa [BlockerRule.withWildcards, Trigger.withWildcards] using hi

end CompactedCss

/-! ### Network rules -/

/-- Categories of network rules in turn are what the rules in these categories are converted to,
sorted by category. -/
theorem urlItems_sorted [Externals] {order : List Bucket} (hn : order.Nodup)
    (ho : order ⊆ Bucket.urlBuckets) {rs : List Rule} (hs : ∀ r ∈ rs, r.HasSelector)
    {p : UrlRule × BlockerRule → Bool} (hp : ∀ i ∈ urlItems rs, p i = true ↔ i.1.bucket ∈ order) :
    (order.flatMap (inBucket · (rs.filterMap Rule.converted?))) =
      (((urlItems rs).filter p).mergeSort (inOrder (·.1.bucket) order)).map Prod.snd := by
  -- what is sorted are the rules, whose category is known before they are converted
  have hbuckets : (order.flatMap (inBucket · (rs.filterMap Rule.converted?))) =
      order.flatMap fun k => ((urlItems rs).filter (·.1.bucket = k)).map Prod.snd :=
    List.flatMap_congr fun k hk => inBucket_urlItems (ho hk) hs
  rw [hbuckets, ← List.map_flatMap, flatMap_filter_eq_mergeSort _ hn hp]

namespace UrlRule

/-- The basic output names all categories of network rules but one. -/
theorem bucket_mem_basicOrder (r : UrlRule) :
    r.bucket ∈ Bucket.basicOrder ↔ ¬(r.isException = true ∧ r.hasOnly .jsinject = true) := by
  have hk : ∀ k ∈ Bucket.urlBuckets, k ∈ Bucket.basicOrder ↔ k ≠ .jsinjectExceptions := by decide
  rw [hk _ r.bucket_mem_urlBuckets, Ne, bucket_eq_jsinjectExceptions_iff]

/-- The advanced output names the categories of exceptions. -/
theorem bucket_mem_advancedOrder (r : UrlRule) :
    r.bucket ∈ Bucket.advancedOrder ↔ r.isException = true := by
  have hk : ∀ k ∈ Bucket.urlBuckets,
      k ∈ Bucket.advancedOrder ↔ k.actionType = .ignorePreviousRules := by decide
  rw [hk _ r.bucket_mem_urlBuckets, actionType_bucket]
  cases r.isException <;> decide

end UrlRule

namespace Job

open Badfilters

/-! ### Outputs of a job -/

section Outputs

variable [Externals]

variable {j : Job} {rs : List Rule} (hj : j.emitted = rs.filterMap Rule.converted?)

variable (hs : ∀ r ∈ rs, r.HasSelector)
include hj hs

/-- Without a limit, the basic output is ten runs. -/
theorem basicOutput_runs (hl : j.options.limit = 0) :
    let run := fun k : Bucket =>
      ((urlItems rs).filter (·.1.bucket = k)).map (·.2.withWildcards)
    let css := j.cssSection.1.withWildcards
    j.basicOutput =
      css.wide ++ css.generic ++ run .generichideExceptions ++ css.specific ++
        run .elemhideExceptions ++ run .urlBlocking ++ run .other ++ run .important ++
        run .importantExceptions ++ run .documentExceptions := by
  intro run css
  have hrun : ∀ k ∈ Bucket.urlBuckets,
      (inBucket k j.emitted).map BlockerRule.withWildcards = run k := by
    intro k hk
    rw [hj, inBucket_urlItems hk hs, List.map_map]
    rfl
  rw [basicOutput_of_limit_zero hl]
  simp only [Sections.basic, List.map_append, aggregate_css]
  rw [hrun _ (by decide), hrun _ (by decide), hrun _ (by decide), hrun _ (by decide),
    hrun _ (by decide), hrun _ (by decide), hrun _ (by decide)]
  rfl

/-- Without a limit, the basic output holds what network rules are converted to in order, but for
the exceptions whose only option is to leave scripts alone. -/
theorem basicOutput_sorted (hl : j.options.limit = 0) :
    j.basicOutput.filter (·.action.type ≠ .cssDisplayNone) =
      (((urlItems rs).filter fun i =>
          ¬(i.1.isException = true ∧ i.1.hasOnly .jsinject = true)).mergeSort
        (inOrder (·.1.bucket) Bucket.basicOrder)).map (·.2.withWildcards) := by
  have htyped : EmittedTyped j.emitted := hj ▸ emittedTyped_converted rs
  have hsorted := urlItems_sorted (show Bucket.basicOrder.Nodup by decide) (by decide) hs
    fun i _ => decide_eq_true_iff.trans i.1.bucket_mem_basicOrder.symm
  rw [basicOutput_of_limit_zero hl, List.filter_map]
  have hfilter := Sections.basic_filter (aggregate_typed_converted hj) htyped
  rw [hj, hsorted] at hfilter
  rw [hj]
  exact (congrArg (List.map BlockerRule.withWildcards) hfilter).trans (List.map_map ..)

/-- The advanced output holds the exceptions among network rules in order, and blocks no loads. -/
theorem advancedOutput_sorted : ∀ advanced ∈ j.advancedOutput,
    (∀ r ∈ advanced, r.action.type ≠ .block) ∧
      advanced.filter (·.action.type = .ignorePreviousRules) =
        (((urlItems rs).filter (·.1.isException)).mergeSort
          (inOrder (·.1.bucket) Bucket.advancedOrder)).map (·.2.withWildcards) := by
  intro advanced h
  have htyped : EmittedTyped j.emitted := hj ▸ emittedTyped_converted rs
  have hsections := aggregate_typed_converted hj
  rw [advancedOutput_eq, Option.mem_def, Option.ite_none_right_eq_some, Option.some.injEq] at h
  obtain ⟨-, rfl⟩ := h
  constructor
  · rw [List.forall_mem_map]
    exact Sections.advanced_types_ne_block hsections htyped
  · have hsorted := urlItems_sorted (show Bucket.advancedOrder.Nodup by decide) (by decide) hs
      fun i _ => i.1.bucket_mem_advancedOrder.symm
    have hfilter := Sections.advanced_filter hsections htyped
    rw [hj, hsorted] at hfilter
    rw [hj, List.filter_map]
    exact (congrArg (List.map BlockerRule.withWildcards) hfilter).trans (List.map_map ..)

end Outputs

/-! ### A whole conversion -/

/-- **The outputs are in order, and nothing is lost or doubled.**  After any number of slices, and
without a limit, the basic output of a conversion is ten runs: the hiding rules for all domains, for
all but some and for some, which are what compaction makes of them, and between and behind them the
categories of network rules.  What is no hiding rule is what the network rules that are not
cancelled are converted to, in the order of the lines and sorted by category, but for the exceptions
whose only option is to leave scripts alone.  The advanced output, if it is asked for, blocks no
loads, and holds what the exceptions among these rules are converted to, sorted by category. -/
theorem outputs_ordered [Externals] {sources : List Source} (hs : ∀ s ∈ sources, s.IsRead)
    {options : ConvertOptions} (hl : options.limit = 0) (n : ℕ) :
    let rules := rulesIn sources
    let kept := rules.filter fun r => r.badfilter? = none ∧ r.text ∉ targets rules
    let items := urlItems kept
    let run := fun k : Bucket => (items.filter (·.1.bucket = k)).map (·.2.withWildcards)
    let j := ((start sources options).advance [] n).1
    let basic := j.run.1.basicOutput
    let css := j.run.1.cssSection.1.withWildcards
    j.finish.1.isSome = !sources.isEmpty ∧
      (∀ result ∈ j.finish.1, result.converted = BlockerRule.writeAll basic ∧
        result.advancedBlocking =
          j.run.1.advancedOutput.map fun rs => (BlockerRule.writeAll rs, rs.length)) ∧
      css.Sorted .cssDisplayNone ∧
      basic = css.wide ++ css.generic ++ run .generichideExceptions ++ css.specific ++
        run .elemhideExceptions ++ run .urlBlocking ++ run .other ++ run .important ++
        run .importantExceptions ++ run .documentExceptions ∧
      basic.filter (·.action.type ≠ .cssDisplayNone) =
        ((items.filter fun i => ¬(i.1.isException = true ∧ i.1.hasOnly .jsinject = true)).mergeSort
          (inOrder (·.1.bucket) Bucket.basicOrder)).map (·.2.withWildcards) ∧
      j.run.1.advancedOutput.isSome = options.advancedBlocking ∧
      ∀ advanced ∈ j.run.1.advancedOutput,
        (∀ r ∈ advanced, r.action.type ≠ .block) ∧
        advanced.filter (·.action.type = .ignorePreviousRules) =
          ((items.filter (·.1.isException)).mergeSort
            (inOrder (·.1.bucket) Bucket.advancedOrder)).map (·.2.withWildcards) := by
  intro rules kept items run j basic css
  have hrun : j.run.1 = final sources options := (run_start sources options [] n).1
  have hfinish := finish_start_fst sources options [] n
  have hselectors : ∀ r ∈ kept, r.HasSelector := fun r hr =>
    rulesIn_hasSelector hs r (List.mem_of_mem_filter hr)
  have hemitted : (final sources options).emitted = kept.filterMap Rule.converted? := by
    rw [show kept = survivors rules from (survivors_eq rules).symm]
    rfl
  have hcss : (final sources options).cssSection.1.Sorted .cssDisplayNone := by
    rw [← aggregate_css]
    exact (aggregate_typed_converted hemitted).css
  simp only [basic, css, hrun]
  refine ⟨?_, ?_, hcss.withWildcards,
    basicOutput_runs hemitted hselectors hl, basicOutput_sorted hemitted hselectors hl, ?_,
    advancedOutput_sorted hemitted hselectors⟩
  · rw [show j.finish.1 = _ from hfinish]
    cases sources with
    | nil => rfl
    | cons s ss => rfl
  · intro result hresult
    rw [show j.finish.1 = _ from hfinish, Option.mem_def, Option.ite_none_left_eq_some,
      Option.some.injEq] at hresult
    obtain ⟨-, rfl⟩ := hresult
    exact conclude_outputs (final sources options)
  · rw [advancedOutput_eq]
    have hoptions : (final sources options).options = options := rfl
    rw [hoptions]
    cases options.advancedBlocking <;> rfl

/-- An important rule goes behind an ordinary one, and an exception that leaves scripts alone goes to
the advanced output only. -/
theorem outputs_ordered_important :
    let sources : List Source :=
      [.text "||ads.org^$important", .text "@@||ads.org^$jsinject", .text "||ads.net^",
        .text "##.banner"]
    let options : ConvertOptions := { advancedBlocking := true }
    let j := ((start sources options).advance [] 1).1
    (∀ s ∈ sources, s.IsRead) ∧ options.limit = 0 ∧ j.finish.1.isSome = true ∧
      j.run.1.basicOutput.map (fun r => (r.action.type, r.trigger.urlFilter)) =
        [(.cssDisplayNone, ".*".toList),
          (.block, "^[htpsw]+:\\/\\/([a-z0-9-]+\\.)?ads\\.net[/:&?]?".toList),
          (.block, "^[htpsw]+:\\/\\/([a-z0-9-]+\\.)?ads\\.org[/:&?]?".toList)] ∧
      ∃ advanced, j.run.1.advancedOutput = some advanced ∧
        (∀ r ∈ advanced, r.action.type ≠ .block) ∧
        advanced.map (·.action.type) = [.ignorePreviousRules] := by
  intro sources options j
  have hs : ∀ s ∈ sources, s.IsRead := by simp [sources, Source.IsRead]
  have hl : options.limit = 0 := rfl
  obtain ⟨hfinish, -, -, -, -, hsome, hadvanced⟩ := outputs_ordered hs hl 1
  have hrun : j.run.1 = final sources options := (run_start sources options [] 1).1
  obtain ⟨advanced, h⟩ := Option.isSome_iff_exists.1 hsome
  refine ⟨hs, hl, hfinish, ?_, advanced, h, (hadvanced advanced h).1, ?_⟩
  · rw [hrun]
    decide +kernel
  · have htypes : (final sources options).advancedOutput.map (List.map (·.action.type)) =
        some [.ignorePreviousRules] := by
      decide +kernel
    rw [← hrun, h] at htypes
    exact Option.some.inj htypes

end Job
end ContentBlocker
