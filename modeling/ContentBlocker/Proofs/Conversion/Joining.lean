import ContentBlocker.Proofs.Conversion.Compaction

/-!
# Joined selectors

Compaction loses no rule and changes no order.  What it joins are the selectors of hiding rules for
all domains: they wait until a rule is full, and what still waits at the end makes a last rule.

* `BlockerRule.isUnscoped` says that a rule is for all domains;
* `IsCut` says that a list is cut into pieces of one length, but for a shorter one at the end;
* `CompactedCss.wide_ofRulesFrom_scoped`, `CompactedCss.wide_ofRulesFrom_kept` and
  `CompactedCss.wide_ofRulesFrom_joined` say what the wide rules gain by one rule;
* `CompactedCss.ofRules_lossless` says what becomes of all rules.
-/

namespace ContentBlocker

/-- The rule has no domains: each list of them is absent or empty. -/
def BlockerRule.isUnscoped (r : BlockerRule) : Bool :=
  r.trigger.ifDomains.isEmpty && r.trigger.unlessDomains.isEmpty

theorem BlockerRule.isUnscoped_iff {r : BlockerRule} :
    r.isUnscoped = true ↔ r.trigger.ifDomains = [] ∧ r.trigger.unlessDomains = [] := by
  simp [isUnscoped]

/-! ### Cutting a list -/

/-- The pieces make up the list.  All but the last are of length `n`, and the last is not longer and
not empty. -/
structure IsCut {α : Type} (n : ℕ) (xs : List α) (pieces : List (List α)) : Prop where
  flatten : pieces.flatten = xs
  full : ∀ p ∈ pieces.dropLast, p.length = n
  last : ∀ p ∈ pieces.getLast?, p ≠ [] ∧ p.length ≤ n

namespace IsCut

variable {α : Type} {n : ℕ}

theorem nil : IsCut n ([] : List α) [] := by
  constructor <;> simp

theorem single {xs : List α} (hne : xs ≠ []) (hn : xs.length ≤ n) : IsCut n xs [xs] := by
  constructor
  · simp
  · simp
  · intro p hp
    obtain rfl : xs = p := by simpa using hp
    exact ⟨hne, hn⟩

/-- A full piece may stand in front of others. -/
theorem cons {p xs : List α} {pieces : List (List α)} (hne : p ≠ []) (hp : p.length = n)
    (h : IsCut n xs pieces) : IsCut n (p ++ xs) (p :: pieces) := by
  rcases pieces with _ | ⟨q, pieces⟩
  · obtain rfl : [] = xs := h.flatten
    simpa using single hne hp.le
  · constructor
    · rw [List.flatten_cons, h.flatten]
    · rw [List.dropLast_cons_cons, List.forall_mem_cons]
      exact ⟨hp, h.full⟩
    · rw [List.getLast?_cons_cons]
      exact h.last

end IsCut

namespace CompactedCss

/-! ### One rule -/

section Step

variable {r : BlockerRule} (rs : List BlockerRule) (merge : Bool) (waiting : List Text)

/-- A rule with domains is not among the wide ones. -/
theorem wide_ofRulesFrom_scoped (hr : r.isUnscoped = false) :
    (ofRulesFrom merge waiting (r :: rs)).wide = (ofRulesFrom merge waiting rs).wide := by
  by_cases hi : r.trigger.ifDomains = []
  · have hu : r.trigger.unlessDomains ≠ [] := by
      rintro hu
      simp [BlockerRule.isUnscoped, hi, hu] at hr
    simp [ofRulesFrom, hi, hu]
  · simp [ofRulesFrom, hi]

/-- A rule without domains stays if nothing is joined, or if it does not hide elements. -/
theorem wide_ofRulesFrom_kept (hr : r.isUnscoped = true)
    (hk : merge = false ∨ r.action.type ≠ .cssDisplayNone) :
    (ofRulesFrom merge waiting (r :: rs)).wide = r :: (ofRulesFrom merge waiting rs).wide := by
  obtain ⟨hi, hu⟩ := BlockerRule.isUnscoped_iff.1 hr
  rcases hk with hk | hk <;> simp [ofRulesFrom, hi, hu, hk]

/-- A selector to be joined waits, or it is the last one that a rule holds. -/
theorem wide_ofRulesFrom_joined {s : Text} (hr : r.isUnscoped = true)
    (ht : r.action.type = .cssDisplayNone) (hs : r.action.selector = some s) :
    (ofRulesFrom true waiting (r :: rs)).wide =
      if maxSelectors ≤ waiting.length + 1 then
        wideRule (waiting ++ [s]) :: (ofRulesFrom true [] rs).wide
      else (ofRulesFrom true (waiting ++ [s]) rs).wide := by
  obtain ⟨hi, hu⟩ := BlockerRule.isUnscoped_iff.1 hr
  split_ifs with hfull <;> simp [ofRulesFrom, hi, hu, ht, hs, hfull]

end Step

/-! ### All rules -/

/-- Without joining, the rules without domains stay, in order. -/
theorem wide_ofRulesFrom_false (rules : List BlockerRule) :
    (ofRulesFrom false [] rules).wide = rules.filter (·.isUnscoped) := by
  induction rules with
  | nil => rfl
  | cons r rs ih =>
    cases hr : r.isUnscoped with
    | false =>
      rw [wide_ofRulesFrom_scoped rs false [] hr, ih, List.filter_cons_of_neg (by simp [hr])]
    | true =>
      rw [wide_ofRulesFrom_kept rs false [] hr (.inl rfl), ih, List.filter_cons_of_pos hr]

/-- All hiding rules without domains have a selector. -/
def AllSelecting (rules : List BlockerRule) : Prop :=
  ∀ r ∈ rules, r.isUnscoped = true → r.action.type = .cssDisplayNone → r.action.selector ≠ none

/-- The rules that do not hide elements stay, in order. -/
theorem wide_ofRulesFrom_others (waiting : List Text) {rules : List BlockerRule}
    (h : AllSelecting rules) :
    (ofRulesFrom true waiting rules).wide.filter (·.action.type ≠ .cssDisplayNone) =
      (rules.filter (·.isUnscoped)).filter (·.action.type ≠ .cssDisplayNone) := by
  induction rules generalizing waiting with
  | nil =>
    rw [ofRulesFrom]
    split <;> simp [wideRule]
  | cons r rs ih =>
    obtain ⟨hfirst, hrest⟩ := List.forall_mem_cons.1 h
    cases hr : r.isUnscoped with
    | false =>
      rw [wide_ofRulesFrom_scoped rs true waiting hr, ih waiting hrest,
        List.filter_cons_of_neg (by simp [hr])]
    | true =>
      rw [List.filter_cons_of_pos hr]
      by_cases ht : r.action.type = .cssDisplayNone
      · obtain ⟨s, hs⟩ := Option.ne_none_iff_exists'.1 (hfirst hr ht)
        rw [wide_ofRulesFrom_joined rs waiting hr ht hs, List.filter_cons_of_neg (by simp [ht])]
        split_ifs
        · rw [List.filter_cons_of_neg (by simp [wideRule]), ih [] hrest]
        · rw [ih _ hrest]
      · rw [wide_ofRulesFrom_kept rs true waiting hr (.inr ht),
          List.filter_cons_of_pos (by simp [ht]), List.filter_cons_of_pos (by simp [ht]),
          ih waiting hrest]

/-- Without anything that waits, no rule is full. -/
theorem maxSelectors_pos : ([] : List Text).length < maxSelectors := by decide

/-- The selectors that wait and those of the hiding rules are cut into pieces, and every piece makes
one rule.  Fewer selectors wait than a rule holds. -/
theorem wide_ofRulesFrom_hiding {waiting : List Text} (hw : waiting.length < maxSelectors)
    {rules : List BlockerRule} (h : AllSelecting rules) :
    ∃ pieces selectors, IsCut maxSelectors (waiting ++ selectors) pieces ∧
      ((rules.filter (·.isUnscoped)).filter (·.action.type = .cssDisplayNone)).map
        (·.action.selector) = selectors.map some ∧
      (ofRulesFrom true waiting rules).wide.filter (·.action.type = .cssDisplayNone) =
        pieces.map wideRule := by
  induction rules generalizing waiting with
  | nil =>
    by_cases hne : waiting = []
    · exact ⟨[], [], by simpa [hne] using IsCut.nil, rfl, by simp [ofRulesFrom, hne]⟩
    · exact ⟨[waiting], [], by simpa using IsCut.single hne hw.le, rfl,
        by simp [ofRulesFrom, hne, wideRule]⟩
  | cons r rs ih =>
    obtain ⟨hfirst, hrest⟩ := List.forall_mem_cons.1 h
    cases hr : r.isUnscoped with
    | false =>
      rw [wide_ofRulesFrom_scoped rs true waiting hr, List.filter_cons_of_neg (by simp [hr])]
      exact ih hw hrest
    | true =>
      rw [List.filter_cons_of_pos hr]
      by_cases ht : r.action.type = .cssDisplayNone
      · obtain ⟨s, hs⟩ := Option.ne_none_iff_exists'.1 (hfirst hr ht)
        rw [wide_ofRulesFrom_joined rs waiting hr ht hs, List.filter_cons_of_pos (by simp [ht]),
          List.map_cons, hs]
        split_ifs with hfull
        · -- the rule is full, and nothing waits any more
          obtain ⟨pieces, selectors, hcut, hsel, hwide⟩ := ih maxSelectors_pos hrest
          refine ⟨(waiting ++ [s]) :: pieces, s :: selectors, ?_, by rw [hsel, List.map_cons], ?_⟩
          · have hlength : (waiting ++ [s]).length = maxSelectors := by
              rw [List.length_append, List.length_singleton]
              omega
            have := hcut.cons (p := waiting ++ [s]) (by simp) hlength
            simpa using this
          · rw [List.filter_cons_of_pos (by simp [wideRule]), hwide, List.map_cons]
        · have hlength : (waiting ++ [s]).length < maxSelectors := by
            rw [List.length_append, List.length_singleton]
            omega
          obtain ⟨pieces, selectors, hcut, hsel, hwide⟩ := ih hlength hrest
          refine ⟨pieces, s :: selectors, ?_, by rw [hsel, List.map_cons], hwide⟩
          simpa using hcut
      · rw [wide_ofRulesFrom_kept rs true waiting hr (.inr ht),
          List.filter_cons_of_neg (by simp [ht]), List.filter_cons_of_neg (by simp [ht])]
        exact ih hw hrest

/-- **Compaction neither loses nor reorders anything.**  The rules for some domains and those for
all domains but some stay, in order.  Without joining, so do the rules without domains.  With
joining, those that do not hide elements stay, in order, and the selectors of the others are cut
into pieces, in order: all but the last hold 250 selectors, the last holds at most as many and at
least one, and each makes one rule for all addresses, in order. -/
theorem ofRules_lossless (merge : Bool) {rules : List BlockerRule} (h : AllSelecting rules) :
    let c := ofRules merge rules
    let unscoped := rules.filter (·.isUnscoped)
    c.specific = rules.filter (·.trigger.ifDomains ≠ []) ∧
      c.generic =
        rules.filter (fun r => r.trigger.ifDomains = [] ∧ r.trigger.unlessDomains ≠ []) ∧
      if merge then
        c.wide.filter (·.action.type ≠ .cssDisplayNone) =
            unscoped.filter (·.action.type ≠ .cssDisplayNone) ∧
          ∃ pieces : List (List Text),
            c.wide.filter (·.action.type = .cssDisplayNone) =
              pieces.map (fun selectors =>
                { trigger := { urlFilter := ".*" }
                  action := { type := .cssDisplayNone
                              selector := some (", ".toList.intercalate selectors) } }) ∧
            pieces.flatten.map some =
              (unscoped.filter (·.action.type = .cssDisplayNone)).map (·.action.selector) ∧
            (∀ p ∈ pieces.dropLast, p.length = 250) ∧
            ∀ p ∈ pieces.getLast?, p ≠ [] ∧ p.length ≤ 250
      else c.wide = unscoped := by
  intro c unscoped
  refine ⟨ofRulesFrom_specific merge [] rules, ofRulesFrom_generic merge [] rules, ?_⟩
  cases merge with
  | false => exact wide_ofRulesFrom_false rules
  | true =>
    obtain ⟨pieces, selectors, hcut, hselectors, hwide⟩ :=
      wide_ofRulesFrom_hiding maxSelectors_pos h
    refine ⟨wide_ofRulesFrom_others [] h, pieces, hwide, ?_, hcut.full, hcut.last⟩
    rw [hcut.flatten, hselectors, List.nil_append]

/-- One selector more than a rule holds, with rules of the other kinds between. -/
theorem ofRules_lossless_next :
    let banner : BlockerRule :=
      ⟨{ urlFilter := ".*" }, { type := .cssDisplayNone, selector := some ".ad".toList }⟩
    let style : BlockerRule :=
      ⟨{ urlFilter := ".*" }, { type := .css, css := some "p { color: red }".toList }⟩
    let onSite : BlockerRule :=
      ⟨{ urlFilter := ".*", ifDomain := some ["a.org".toList] }, banner.action⟩
    let elsewhere : BlockerRule :=
      ⟨{ urlFilter := ".*", ifDomain := some [], unlessDomain := some ["b.org".toList] },
        banner.action⟩
    let rules := List.replicate 250 banner ++ [onSite, style, elsewhere, banner]
    let c := ofRules true rules
    AllSelecting rules ∧ c.specific = [onSite] ∧ c.generic = [elsewhere] ∧ c.wide.length = 3 ∧
      c.wide.filter (·.action.type ≠ .cssDisplayNone) = [style] ∧
      ∃ pieces : List (List Text),
        (c.wide.filter (·.action.type = .cssDisplayNone)).length = pieces.length ∧
        pieces.flatten = List.replicate 251 ".ad".toList ∧
        (∀ p ∈ pieces.dropLast, p.length = 250) ∧
        ∀ p ∈ pieces.getLast?, p ≠ [] ∧ p.length ≤ 250 := by
  intro banner style onSite elsewhere rules c
  have h : AllSelecting rules := by
    intro r hr hu ht
    simp only [rules, List.mem_append, List.mem_replicate, List.mem_cons, List.not_mem_nil] at hr
    rcases hr with ⟨-, rfl⟩ | rfl | rfl | rfl | rfl | hr
    · simp [banner]
    · simp [onSite, banner]
    · cases ht
    · simp [elsewhere, banner]
    · simp [banner]
    · cases hr
  obtain ⟨hspecific, hgeneric, hothers, pieces, hwide, hselectors, hfull, hlast⟩ :=
    ofRules_lossless true h
  refine ⟨h, ?_, ?_, by decide +kernel, ?_, pieces, ?_, ?_, hfull, hlast⟩
  · rw [hspecific]
    decide +kernel
  · rw [hgeneric]
    decide +kernel
  · rw [hothers]
    decide +kernel
  · rw [hwide, List.length_map]
  · have : pieces.flatten.map some = (List.replicate 251 ".ad".toList).map some := by
      rw [hselectors]
      decide +kernel
    exact List.map_injective_iff.2 (Option.some_injective _) this

end CompactedCss
end ContentBlocker
