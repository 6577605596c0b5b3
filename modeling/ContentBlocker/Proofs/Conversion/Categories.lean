import ContentBlocker.Proofs.Blocker.Emission
import ContentBlocker.Proofs.Conversion.Slices
import ContentBlocker.Proofs.Filter.Selectors

/-!
# Which rules are in a category

The category of a converted rule is found from the rule and from what it was converted to.  It tells
the type of the action, and for network rules it can be told from the rule alone.

* `mem_inBucket_converted`: what the converted rules of a category are converted from;
* `Bucket.actionType` is the type of the actions in a category, by `Bucket.actionType_of`;
* `UrlRule.bucket` is the category of a network rule, by `Bucket.of_url`;
* `Bucket.of_notMem_urlBuckets`: rules of the other kinds are in other categories;
* `inBucket_urlItems`: a category of network rules holds what these are converted to, in order;
* `Source.IsRead` says of a line that it was read, or still has to be;
* `Job.rulesIn_isRead`: the rules in such lines were read, so that by `Job.rulesIn_hasSelector` the
  cosmetic ones have selectors.
-/

namespace ContentBlocker

/-! ### Converted rules -/

theorem mem_inBucket_converted [Externals] {k : Bucket} {rs : List Rule} {b : BlockerRule} :
    b ∈ inBucket k (rs.filterMap Rule.converted?) ↔
      ∃ r ∈ rs, r.emit.2 = .ok b ∧ Bucket.of r b = k := by
  simp only [inBucket, List.mem_map, List.mem_filter, List.mem_filterMap,
    Rule.converted?_eq_some_iff, decide_eq_true_iff]
  constructor
  · rintro ⟨e, ⟨⟨r, hr, he, hk⟩, rfl⟩, rfl⟩
    exact ⟨r, hr, he, hk.symm⟩
  · rintro ⟨r, hr, he, rfl⟩
    exact ⟨⟨Bucket.of r b, b⟩, ⟨⟨r, hr, he, rfl⟩, rfl⟩, rfl⟩

/-! ### Types of actions -/

namespace Bucket

/-- The type of the actions in a category. -/
def actionType : Bucket → ActionType
  | urlBlocking | important => .block
  | cssBlocking => .cssDisplayNone
  | extendedCssBlocking => .css
  | script => .script
  | scriptlets => .scriptlet
  | cssExceptions | cosmeticCssExceptions | scriptExceptions | scriptletExceptions |
    generichideExceptions | elemhideExceptions | jsinjectExceptions | importantExceptions |
    documentExceptions | other => .ignorePreviousRules

theorem actionType_ofException (r : Rule) (a : Action) :
    (ofException r a).actionType = .ignorePreviousRules := by
  unfold ofException
  split
  · rfl
  · rfl
  · split_ifs <;> rfl

theorem actionType_of (r : Rule) (b : BlockerRule) : (of r b).actionType = b.action.type := by
  unfold of
  cases b.action.type with
  | block =>
    dsimp only
    split <;> rfl
  | ignorePreviousRules => exact actionType_ofException r b.action
  | cssDisplayNone | css | script | scriptlet => rfl

end Bucket

theorem type_of_mem_inBucket [Externals] {k : Bucket} {rs : List Rule} {b : BlockerRule}
    (h : b ∈ inBucket k (rs.filterMap Rule.converted?)) : b.action.type = k.actionType := by
  obtain ⟨r, -, -, rfl⟩ := mem_inBucket_converted.1 h
  exact (Bucket.actionType_of r b).symm

/-! ### Categories of network rules -/

/-- The category of a network rule. -/
def UrlRule.bucket (r : UrlRule) : Bucket :=
  if r.isException then
    if r.hasOnly .generichide then .generichideExceptions
    else if r.hasOnly .elemhide then .elemhideExceptions
    else if r.hasOnly .jsinject then .jsinjectExceptions
    else if r.isImportant then .importantExceptions
    else if r.isDocumentException then .documentExceptions
    else .other
  else if r.isImportant then .important
  else .urlBlocking

namespace Bucket

/-- The categories of network rules. -/
def urlBuckets : List Bucket :=
  [generichideExceptions, elemhideExceptions, jsinjectExceptions, urlBlocking, other, important,
    importantExceptions, documentExceptions]

theorem of_url [Externals] {r : UrlRule} {b : BlockerRule} (h : r.emit.2 = .ok b) :
    of (.url r) b = r.bucket := by
  obtain ⟨types, -, -, ha, -⟩ := UrlRule.emit_ok h
  unfold of UrlRule.bucket
  rw [ha]
  cases r.isException with
  | true => rfl
  | false => rfl

end Bucket

namespace UrlRule

theorem bucket_mem_urlBuckets (r : UrlRule) : r.bucket ∈ Bucket.urlBuckets := by
  unfold bucket
  split_ifs <;> decide

theorem actionType_bucket (r : UrlRule) :
    r.bucket.actionType = if r.isException then .ignorePreviousRules else .block := by
  unfold bucket
  split_ifs <;> rfl

theorem hasOnly_eq_false {r : UrlRule} {o o' : RuleOption} (h : r.hasOnly o = true)
    (hne : o.single ≠ o'.single) : r.hasOnly o' = false := by
  rw [hasOnly, decide_eq_true_iff] at h
  rw [hasOnly, h, decide_eq_false_iff_not]
  exact hne

/-- An exception whose only option is to leave scripts alone has a category of its own. -/
theorem bucket_eq_jsinjectExceptions_iff {r : UrlRule} :
    r.bucket = .jsinjectExceptions ↔ r.isException = true ∧ r.hasOnly .jsinject = true := by
  constructor
  · intro h
    unfold bucket at h
    split_ifs at h with hx _ _ hj
    exact ⟨hx, hj⟩
  · rintro ⟨hx, hj⟩
    -- the options that are asked for before cannot be the only ones as well
    have hg : r.hasOnly .generichide = false := hasOnly_eq_false hj (by decide)
    have he : r.hasOnly .elemhide = false := hasOnly_eq_false hj (by decide)
    rw [bucket, if_pos hx, hg, he, if_neg Bool.false_ne_true, if_neg Bool.false_ne_true, if_pos hj]

end UrlRule

/-! ### Categories of other rules -/

namespace Bucket

/-- The selector of a cosmetic rule tells its exceptions from those of network rules. -/
theorem of_css {r : CssRule} (hs : r.selector ≠ []) {b : BlockerRule} (h : r.emit = .ok b) :
    of (.css r) b =
      if r.isException then
        if r.isExtended || r.isInjection then cosmeticCssExceptions else cssExceptions
      else if r.isExtended || r.isInjection then extendedCssBlocking
      else cssBlocking := by
  have hfilled : isFilled (some r.selector) = true := by simpa [isFilled] using hs
  obtain ⟨-, ha⟩ := CssRule.emit_ok h
  unfold of
  rw [ha]
  cases r.isException with
  | false => cases (r.isExtended || r.isInjection) <;> rfl
  | true =>
    cases (r.isExtended || r.isInjection) with
    | true =>
      have hempty : isFilled none = false := rfl
      simp only [ContentBlocker.actionType, if_true, ofException, hempty, hfilled,
        Bool.false_eq_true, if_false]
    | false =>
      simp only [ContentBlocker.actionType, if_true, ofException, hfilled, Bool.false_eq_true,
        if_false]

theorem of_script {r : ScriptRule} {b : BlockerRule} (h : r.emit = .ok b) :
    of (.script r) b = if r.isException then scriptExceptions else script := by
  obtain ⟨-, ha⟩ := ScriptRule.emit_ok h
  unfold of
  rw [ha]
  cases r.isException <;> rfl

theorem of_scriptlet {r : ScriptletRule} {b : BlockerRule} (h : r.emit = .ok b) :
    of (.scriptlet r) b = if r.isException then scriptletExceptions else scriptlets := by
  obtain ⟨-, ha⟩ := ScriptletRule.emit_ok h
  unfold of
  rw [ha]
  cases r.isException <;> rfl

end Bucket

variable [Externals]

/-! ### What network rules are converted to -/

/-- A network rule with what it is converted to. -/
def Rule.urlItem? : Rule → Option (UrlRule × BlockerRule)
  | .url u => u.emit.2.toOption.map (u, ·)
  | _ => none

/-- The network rules among some that are converted, in order, with what they are converted to. -/
def urlItems (rs : List Rule) : List (UrlRule × BlockerRule) := rs.filterMap Rule.urlItem?

/-- Rules of the other kinds are in no category of network rules. -/
theorem Bucket.of_notMem_urlBuckets {r : Rule} (hs : r.HasSelector) (hr : ∀ u, r ≠ .url u)
    {b : BlockerRule} (h : r.emit.2 = .ok b) : Bucket.of r b ∉ urlBuckets := by
  cases r with
  | url u => exact absurd rfl (hr u)
  | css r =>
    rw [of_css hs h]
    split_ifs <;> decide
  | script r =>
    rw [of_script h]
    split_ifs <;> decide
  | scriptlet r =>
    rw [of_scriptlet h]
    split_ifs <;> decide

/-- Among what the rules are converted to, a category of network rules keeps what it keeps among
what network rules are converted to. -/
theorem Rule.filter_converted? {k : Bucket} (hk : k ∈ Bucket.urlBuckets) {r : Rule}
    (hs : r.HasSelector) :
    (r.converted?.filter (·.bucket = k)).map Emitted.rule =
      (r.urlItem?.filter (·.1.bucket = k)).map Prod.snd := by
  by_cases hr : ∀ u, r ≠ .url u
  · -- a rule of another kind is no item, and what it is converted to is in another category
    have hitem : r.urlItem? = none := by
      cases r with
      | url u => exact absurd rfl (hr u)
      | css | script | scriptlet => rfl
    rw [hitem, Option.filter_none, Option.map_none, Option.map_eq_none_iff,
      Option.filter_eq_none_iff]
    intro e he
    obtain ⟨hemit, hb⟩ := converted?_eq_some_iff.1 he
    rw [hb, decide_eq_true_iff]
    rintro rfl
    exact Bucket.of_notMem_urlBuckets hs hr hemit hk
  · push Not at hr
    obtain ⟨u, rfl⟩ := hr
    rcases h : u.emit with ⟨notes, e | b⟩
    · simp [converted?, emit, urlItem?, h, Except.toOption]
    · have hb : Bucket.of (.url u) b = u.bucket := Bucket.of_url (by rw [h])
      by_cases hu : u.bucket = k <;>
        simp [converted?, emit, urlItem?, h, Except.toOption, hb, hu, Option.filter]

/-- A category of network rules holds what the rules of the category are converted to, in order. -/
theorem inBucket_urlItems {k : Bucket} (hk : k ∈ Bucket.urlBuckets) {rs : List Rule}
    (hs : ∀ r ∈ rs, r.HasSelector) :
    inBucket k (rs.filterMap Rule.converted?) =
      ((urlItems rs).filter (·.1.bucket = k)).map Prod.snd := by
  rw [inBucket, urlItems, List.filter_filterMap, List.filter_filterMap, List.map_filterMap,
    List.map_filterMap]
  apply List.filterMap_congr
  intro r hr
  exact Rule.filter_converted? hk (hs r hr)

/-! ### Rules of lines -/

/-- A line that was read before is what reading some text gives, perhaps with the number of its
filter list. -/
def Source.IsRead : Source → Prop
  | .text _ => True
  | .parsed r =>
    ∃ (text : Text) (line : FilterRule), FilterRule.read text = .ok (some line) ∧
      (r = line ∨ ∃ id, r = line.withFilterId id)

namespace Job

theorem readSource_isRead {s : Source} (hs : s.IsRead) {line : FilterRule}
    (h : readSource s = .ok (some line)) : ∀ r ∈ line.parts, r.IsRead := by
  cases s with
  | text t =>
    rw [readSource] at h
    rcases hl : FilterRule.readLine t with e | l
    · rw [hl] at h
      cases h
    · rw [hl] at h
      cases h
      exact FilterRule.readLine_isRead hl
  | parsed r =>
    cases h
    obtain ⟨text, line, hread, rfl | ⟨id, rfl⟩⟩ := hs
    · exact FilterRule.read_isRead hread
    · rw [FilterRule.parts_withFilterId, List.forall_mem_map]
      exact fun r hr => (FilterRule.read_isRead hread r hr).withFilterId id

theorem rulesIn_isRead {sources : List Source} (hs : ∀ s ∈ sources, s.IsRead) :
    ∀ r ∈ rulesIn sources, r.IsRead := by
  intro r hr
  obtain ⟨line, hline, hr⟩ := List.mem_flatMap.1 hr
  obtain ⟨result, hresult, hline⟩ := List.mem_filterMap.1 hline
  obtain ⟨s, hmem, rfl⟩ := List.mem_map.1 hresult
  rcases h : readSource s with e | l
  · rw [h] at hline
    cases hline
  · rw [h] at hline
    dsimp only at hline
    subst hline
    exact readSource_isRead (hs s hmem) h r hr

theorem rulesIn_hasSelector {sources : List Source} (hs : ∀ s ∈ sources, s.IsRead) :
    ∀ r ∈ rulesIn sources, r.HasSelector :=
  fun r hr => (rulesIn_isRead hs r hr).hasSelector

end Job
end ContentBlocker
