import ContentBlocker.Proofs.Blocker.Safety
import ContentBlocker.Proofs.Conversion.Outcome
import ContentBlocker.Proofs.Filter.PageExceptions

/-!
# Page exceptions in the outputs

An exception for the pages of a host is converted to a rule that is limited to the domain and to
nothing else, and it is the only rule of both outputs.

* `PageException.emit_rule` converts the exception, and `PageException.bucket_of_rule` sorts it;
* `Job.conclude_of_pageBucket` makes the result of a single rule in one of these categories;
* `convert_pageException` puts this together with reading.
-/

namespace ContentBlocker

/-! ### The converted rule -/

namespace PageException

variable (e : PageException)

/-- The rule that the exception is converted to. -/
def blockerRule : BlockerRule :=
  ⟨{ urlFilter := Pattern.anything, ifDomain := some [e.host.lowerAscii] },
    { type := .ignorePreviousRules }⟩

theorem isPageException_rule : e.rule.isPageException = true := by
  have hoption : ∀ o ∈ pageOptions,
      (true && (o.2.contains OptionSet.documentException || o.2 = RuleOption.urlblock.single ||
        o.2 = RuleOption.genericblock.single || o.2 = RuleOption.generichide.single ||
        o.2 = RuleOption.elemhide.single)) = true := by
    decide
  exact e.of_pageOptions hoption

theorem pageDomain_rule [Externals] : e.rule.pageDomain = ([], some e.host.lowerAscii) := by
  have hends : ∀ ending ∈ HostPattern.hostEnds,
      let path := if ending = [] then none else some ending
      path = none ∨ path = some ['^'] ∨ path = some ['/'] := by
    decide
  have hhost : HostPattern.hostOf? e.rule.pattern = _ :=
    HostPattern.hostOf?_anchored e.isHostName e.mem_hostEnds
  rw [UrlRule.pageDomain, isPageException_rule, hhost]
  simp only [Bool.not_true, Bool.false_eq_true, if_false, if_pos (hends _ e.mem_hostEnds)]

theorem checkedTypes_rule : e.rule.checkedTypes = .ok (some [.document]) := by
  have hoption : ∀ o ∈ pageOptions, o.2.has .csp = false ∧ o.2.has .popup = false := by decide
  obtain ⟨hcsp, hpopup⟩ := e.of_pageOptions hoption
  have hsafe : UrlFilter.checkSafe e.rule.urlFilter = .ok () := by
    obtain ⟨htame, hascii⟩ := UrlRule.tame_urlFilter (r := e.rule) rfl rfl
    have hpattern : Text.isAscii e.rule.pattern = true := e.isAscii_pattern
    rw [htame.checkSafe_eq, hascii, hpattern]
    rfl
  have htypes : e.rule.resourceTypes = .ok (some [.document]) := by
    have hfind : UrlRule.unsupportedTypes.find? (fun t => e.rule.isOnlyFor t.1) = none := rfl
    have hgroups : ((UrlRule.resourceGroups.filter fun g => g.1.any e.rule.admits).map (·.2)) =
        [.document] := by
      have hadmits : e.rule.admits = fun t =>
        ContentType.document.single.has t && !TypeSet.empty.has t := rfl
      rw [hadmits]
      decide
    have hdocument : e.rule.permittedTypes ≠ TypeSet.all := by
      show ContentType.document.single ≠ TypeSet.all
      decide
    rw [UrlRule.resourceTypes, if_neg fun h => hdocument h.1, hfind]
    simp only [UrlRule.blocksPopups, show e.rule.enabled.has .popup = false from hpopup, hgroups]
    rfl
  have hpolicy : e.rule.isCsp = false := hcsp
  rw [UrlRule.checkedTypes, hpolicy, hsafe, htypes]
  rfl

/-- The domain of a host is not taken for a wildcard domain. -/
theorem expandAll_host : Domain.expandAll [e.host.lowerAscii] = [e.host.lowerAscii] := by
  have hstar : '*' ∉ e.host.lowerAscii := Domain.notMem_lowerAscii e.isHostName (by decide)
  have hstrip : Text.stripEnd? Domain.wildcardEnd e.host.lowerAscii = none := by
    by_contra hsome
    obtain ⟨s, hs⟩ := Option.ne_none_iff_exists'.1 hsome
    refine hstar ?_
    rw [Text.eq_append_of_stripEnd? hs]
    exact List.mem_append_right s (by decide)
  simp only [Domain.expandAll, List.flatMap_singleton, Domain.expand, hstrip]

theorem emit_rule [Externals] : e.rule.emit = ([], .ok e.blockerRule) := by
  rw [UrlRule.emit, checkedTypes_rule]
  simp only [pageDomain_rule, UrlRule.trigger, expandAll_host]
  rfl

/-- The categories of page exceptions. -/
def buckets : List Bucket :=
  [.generichideExceptions, .elemhideExceptions, .documentExceptions, .other]

theorem bucket_of_rule : Bucket.of (.url e.rule) e.blockerRule ∈ buckets := by
  have hoption : ∀ o ∈ pageOptions,
      (if o.2 = RuleOption.generichide.single then Bucket.generichideExceptions
      else if o.2 = RuleOption.elemhide.single then .elemhideExceptions
      else if o.2 = RuleOption.jsinject.single then .jsinjectExceptions
      else if o.2.contains OptionSet.documentException then .documentExceptions
      else .other) ∈ buckets := by
    decide
  have hbucket := e.of_pageOptions hoption
  simp only [Bucket.of, blockerRule, Bucket.ofException, Bucket.isFilled, Bucket.hasOnly,
    UrlRule.hasOnly, Bucket.isDocumentException, UrlRule.isDocumentException, decide_eq_true_eq]
  exact hbucket

end PageException

/-! ### The result -/

namespace Job

open Badfilters

theorem truncate_singleton (limit : ℕ) (b : BlockerRule) : truncate limit [b] = [b] := by
  cases limit with
  | zero => rfl
  | succ n => simp [truncate]

theorem isOverLimit_singleton (limit : ℕ) (b : BlockerRule) : isOverLimit limit [b] = false := by
  cases limit with
  | zero => rfl
  | succ n => simp [isOverLimit]

section PageBucket

variable {j : Job} {k : Bucket} (hk : k ∈ PageException.buckets) {b : BlockerRule}
  (hj : j.emitted = [⟨k, b⟩])
include hk hj

/-- There is nothing to apply a single page exception to, and nothing to compact. -/
theorem aggregate_of_pageBucket :
    j.aggregate.1 = ⟨{}, {}, [], []⟩ ∧ j.aggregate.2.1 = j := by
  have hnone : ∀ k' ∉ PageException.buckets, inBucket k' j.emitted = [] := by
    intro k' hk'
    have hne : k ≠ k' := ne_of_mem_of_not_mem hk hk'
    simp [inBucket, hj, hne]
  have hcss := hnone .cssBlocking (by decide)
  have hcssExceptions := hnone .cssExceptions (by decide)
  have hextended := hnone .extendedCssBlocking (by decide)
  have hcosmetic := hnone .cosmeticCssExceptions (by decide)
  have hscript := hnone .script (by decide)
  have hscriptExceptions := hnone .scriptExceptions (by decide)
  have hscriptlets := hnone .scriptlets (by decide)
  have hscriptletExceptions := hnone .scriptletExceptions (by decide)
  simp only [aggregate, cssSection, extendedCssSection, hcss, hcssExceptions, hextended, hcosmetic,
    hscript, hscriptExceptions, hscriptlets, hscriptletExceptions]
  cases j.options.optimize <;> split <;> exact ⟨rfl, rfl⟩

/-- The result of a job with a single page exception, which is in both outputs. -/
theorem conclude_of_pageBucket :
    j.conclude.1 =
      { totalConvertedCount := 1, convertedCount := 1, errorsCount := j.errors.length
        overLimit := false
        converted := BlockerRule.writeAll [b.withWildcards]
        advancedBlocking :=
          if j.options.advancedBlocking then
            some (BlockerRule.writeAll [b.withWildcards], 1)
          else none
        errors := j.errors, stats := j.stats } := by
  obtain ⟨hsections, hjob⟩ := aggregate_of_pageBucket hk hj
  have hboth : ∀ k ∈ PageException.buckets,
      Sections.basic ⟨{}, {}, [], []⟩ [⟨k, b⟩] = [b] ∧
        Sections.advanced ⟨{}, {}, [], []⟩ [⟨k, b⟩] = [b] := by
    simp only [PageException.buckets, List.forall_mem_cons]
    exact ⟨⟨rfl, rfl⟩, ⟨rfl, rfl⟩, ⟨rfl, rfl⟩, ⟨rfl, rfl⟩, nofun⟩
  obtain ⟨hbasic, hadvanced⟩ := hboth k hk
  have hresult : j.conclude.1 = (j.result ⟨{}, {}, [], []⟩).1 := by
    have h : j.conclude.1 = (j.aggregate.2.1.result j.aggregate.1).1 := rfl
    rw [h, hsections, hjob]
  rw [hresult, result]
  simp only [basicRules, advancedRules, hj, hbasic, hadvanced, truncate_singleton,
    isOverLimit_singleton, Bool.false_eq_true, if_false, List.append_nil, List.map_singleton]
  cases j.options.advancedBlocking <;> rfl

end PageBucket

/-- The job at the end of the conversion of a page exception. -/
theorem final_pageException [Externals] (e : PageException) (options : ConvertOptions) :
    (final [.text e.text] options).emitted =
        [⟨Bucket.of (.url e.rule) e.blockerRule, e.blockerRule⟩] ∧
      (final [.text e.text] options).errors = [] ∧
      (final [.text e.text] options).stats = { inputRules := 1 } := by
  have hsource : readSource (.text e.text) = .ok (some (.single (.url e.rule))) := by
    rw [readSource, e.readLine_text]
  have hrules : rulesIn [.text e.text] = [.url e.rule] := by
    simp only [rulesIn, List.map_singleton, hsource]
    rfl
  have hfaults : faultsIn [.text e.text] = [] := by
    simp only [faultsIn, List.map_singleton, hsource]
    rfl
  have hemit : (Rule.url e.rule).emit = ([], .ok e.blockerRule) := e.emit_rule
  have hconverted : (Rule.url e.rule).converted? =
      some ⟨Bucket.of (.url e.rule) e.blockerRule, e.blockerRule⟩ := by
    rw [Rule.converted?, hemit]
  have hfault : (Rule.url e.rule).fault? = none := by
    rw [Rule.fault?, hemit]
  have hsurvivors : survivors [.url e.rule] = [.url e.rule] := rfl
  have hcancelled : cancelled (targets [.url e.rule]) (plain [.url e.rule]) = [] := rfl
  simp only [final, hrules, hfaults, hsurvivors, hcancelled, List.filterMap_cons, hconverted, hfault]
  exact ⟨rfl, rfl, rfl⟩

end Job

/-- **Page exceptions are for all pages of their host.**  Take an ordinary host name, in any letter
case, with nothing, a separator or a slash behind it, and one of the options for pages.  Converting
the exception with any settings gives one rule, which is limited to the host in lower case and its
subdomains and to nothing else, and no errors; if the advanced output is asked for, the same rule is
all of it. -/
theorem convert_pageException [Externals] {host ending option : Text}
    (hhost : Domain.isHostName host = true) (hending : ending ∈ HostPattern.hostEnds)
    (hoption : option ∈ pageOptions.map Prod.fst) (options : ConvertOptions) :
    let rule : BlockerRule :=
      ⟨{ urlFilter := Pattern.anything, ifDomain := some ['*' :: host.lowerAscii] },
        { type := .ignorePreviousRules }⟩
    (convert [.text ("@@||".toList ++ host ++ ending ++ '$' :: option)] options).1 =
      some
        { totalConvertedCount := 1, convertedCount := 1, errorsCount := 0, overLimit := false
          converted := BlockerRule.writeAll [rule]
          advancedBlocking :=
            if options.advancedBlocking then some (BlockerRule.writeAll [rule], 1) else none
          errors := [], stats := { inputRules := 1 } } := by
  intro rule
  obtain ⟨⟨option, enabled⟩, hmem, rfl⟩ := List.mem_map.1 hoption
  let e : PageException := ⟨host, hhost, ending, hending, option, enabled, hmem⟩
  have htext : "@@||".toList ++ host ++ ending ++ '$' :: option = e.text := by
    rw [List.append_assoc "@@||".toList]
    rfl
  have hwildcard : e.blockerRule.withWildcards = rule := by
    have hstar : '*' ∉ host.lowerAscii := Domain.notMem_lowerAscii hhost (by decide)
    have hhead : host.lowerAscii.head? ≠ some '*' := fun h => hstar (List.mem_of_head? h)
    have hdomain : Trigger.addWildcard host.lowerAscii = '*' :: host.lowerAscii := if_neg hhead
    show (⟨{ urlFilter := Pattern.anything, ifDomain := some [Trigger.addWildcard host.lowerAscii] },
      { type := .ignorePreviousRules }⟩ : BlockerRule) = rule
    rw [hdomain]
  obtain ⟨hemitted, herrors, hstats⟩ := Job.final_pageException e options
  have hfinish : (convert [.text e.text] options).1 =
      some (Job.final [.text e.text] options).conclude.1 :=
    (Job.finish_start (List.cons_ne_nil _ []) options [] 0).1
  rw [htext, hfinish, Job.conclude_of_pageBucket e.bucket_of_rule hemitted, herrors, hstats, hwildcard]
  rfl

/-- A host in mixed letter case with a separator behind it, and both outputs. -/
theorem convert_pageException_separator :
    let rule : BlockerRule :=
      ⟨{ urlFilter := ".*", ifDomain := some ["*sub-1.example.org"] },
        { type := .ignorePreviousRules }⟩
    (convert [.text "@@||Sub-1.Example.ORG^$genericblock"] { advancedBlocking := true }).1 =
      some
        { totalConvertedCount := 1, convertedCount := 1, errorsCount := 0, overLimit := false
          converted := BlockerRule.writeAll [rule]
          advancedBlocking := some (BlockerRule.writeAll [rule], 1)
          errors := [], stats := { inputRules := 1 } } := by
  have hhost : Domain.isHostName "Sub-1.Example.ORG".toList = true := by decide
  have hending : ['^'] ∈ HostPattern.hostEnds := by decide
  have hoption : "genericblock".toList ∈ pageOptions.map Prod.fst := by decide
  exact convert_pageException hhost hending hoption { advancedBlocking := true }

end ContentBlocker
