import ContentBlocker.Filter.Line
import ContentBlocker.Proofs.Domain.HostNames
import ContentBlocker.Proofs.Filter.OptionSplitting
import ContentBlocker.Proofs.Filter.Options
import ContentBlocker.Proofs.Filter.Settling
import ContentBlocker.Proofs.Text.Words

/-!
# Reading page exceptions

An exception for all addresses of a host, with one option for pages, is read as it is written: no
reader on the way takes a part of the host for something else.

* `PageException` is such an exception, and `PageException.text` writes it;
* `normalize_text`, `splitOptions_text` and `urlRule_read_text` follow it through the readers;
* `readLine_text` says what the whole line is read as.
-/

namespace ContentBlocker

open Text

/-- The options for pages, with what they set. -/
def pageOptions : List (Text × OptionSet) :=
  [("document", OptionSet.documentException), ("elemhide", RuleOption.elemhide.single),
    ("generichide", RuleOption.generichide.single), ("urlblock", RuleOption.urlblock.single),
    ("genericblock", RuleOption.genericblock.single)]

/-- An exception for the pages of a host. -/
structure PageException where
  host : Text
  isHostName : Domain.isHostName host = true
  ending : Text
  mem_hostEnds : ending ∈ HostPattern.hostEnds
  option : Text
  enabled : OptionSet
  mem_pageOptions : (option, enabled) ∈ pageOptions

namespace PageException

variable (e : PageException)

/-- The pattern for the addresses of the host. -/
def pattern : Text := '|' :: '|' :: (e.host ++ e.ending)

/-- The exception as it is written. -/
def text : Text := '@' :: '@' :: (e.pattern ++ '$' :: e.option)

/-- The rule that the exception is read as. -/
def rule : UrlRule :=
  { text := e.text
    isException := true
    pattern := e.pattern
    permittedTypes := ContentType.document.single
    enabled := e.enabled
    regex := Pattern.compile e.pattern }

/-! ### Characters -/

/-- The signs in front of the option. -/
def frontSigns : Text := "@|^/"

/-- What stands in front of the option. -/
def front : Text := '@' :: '@' :: e.pattern

theorem text_eq : e.text = e.front ++ '$' :: e.option := rfl

theorem mem_front {c : Char} (hc : c ∈ e.front) : Domain.isHostChar c = true ∨ c ∈ frontSigns := by
  have hending : ∀ ending ∈ HostPattern.hostEnds, ending ⊆ frontSigns := by decide
  simp only [front, pattern, List.mem_cons, List.mem_append] at hc
  rcases hc with rfl | rfl | rfl | rfl | hc | hc
  · exact .inr (by decide)
  · exact .inr (by decide)
  · exact .inr (by decide)
  · exact .inr (by decide)
  · exact .inl (Domain.isHostChar_of_mem e.isHostName hc)
  · exact .inr (hending _ e.mem_hostEnds hc)

/-- The character stands neither in hosts nor for a sign in front of the option. -/
def isForeign (c : Char) : Bool := !Domain.isHostChar c && !frontSigns.contains c

theorem notMem_front {c : Char} (hc : isForeign c = true) : c ∉ e.front := by
  intro hmem
  rcases e.mem_front hmem with h | h <;> simp [isForeign, h] at hc

theorem isAscii_pattern : isAscii e.pattern = true := by
  have hsigns : isAscii frontSigns = true := by decide
  rw [isAscii, List.all_eq_true] at hsigns ⊢
  intro c hc
  rcases e.mem_front (List.mem_cons_of_mem _ (List.mem_cons_of_mem _ hc)) with h | h
  · exact decide_eq_true (Domain.toNat_of_isHostChar h)
  · exact hsigns c h

/-- What holds of all options for pages holds of the one of an exception. -/
theorem of_pageOptions {p : Text × OptionSet → Prop} (h : ∀ o ∈ pageOptions, p o) :
    p (e.option, e.enabled) := h _ e.mem_pageOptions

theorem notMem_text {c : Char} (hc : isForeign c = true)
    (ho : ∀ o ∈ pageOptions, c ∉ '$' :: o.1) : c ∉ e.text := by
  rw [text_eq, List.mem_append, not_or]
  exact ⟨e.notMem_front hc, e.of_pageOptions ho⟩

/-- A text does not begin in front of the option. -/
theorem places_append_front {p : Text} (hp : p.head?.any isForeign = true) (t : Text) :
    places p (e.front ++ t) = places p t := by
  obtain ⟨c, q, rfl⟩ : ∃ c q, p = c :: q := by
    rcases p with _ | ⟨c, q⟩
    · cases hp
    · exact ⟨c, q, rfl⟩
  refine places_append_of_head? (List.cons_ne_nil c q) (fun d hd h => ?_) t
  cases h
  exact e.notMem_front hp hd

theorem has_text_of_head? {p : Text} (hp : p.head?.any isForeign = true)
    (ho : ∀ o ∈ pageOptions, places p ('$' :: o.1) = 0) : has p e.text = false := by
  have hne : p ≠ [] := by
    rintro rfl
    cases hp
  rw [← Bool.not_eq_true, has_iff_infix, ← places_eq_zero_iff hne, text_eq, e.places_append_front hp]
  exact e.of_pageOptions ho

theorem has_text_of_mem {p : Text} {c : Char} (hcp : c ∈ p) (hc : isForeign c = true)
    (ho : ∀ o ∈ pageOptions, c ∉ '$' :: o.1) : has p e.text = false := by
  rw [← Bool.not_eq_true, has_iff_infix]
  exact fun h => e.notMem_text hc ho (h.subset hcp)

/-! ### Before the rule is read -/

theorem isNoRule_text : FilterRule.isNoRule e.text = false := by
  have hdash : has " - " e.text = false :=
    e.has_text_of_mem (by decide : ' ' ∈ " - ".toList) (by decide) (by decide)
  rw [FilterRule.isNoRule, hdash]
  rfl

theorem trim_text : trim e.text = e.text := by
  have hlast : ∀ o ∈ pageOptions, ('$' :: o.1).getLast?.any isBlank = false := by decide
  refine trim_eq_self (fun c hc => ?_) fun c hc => ?_
  · cases hc
    decide
  · rw [text_eq, List.getLast?_append_of_ne_nil _ (List.cons_ne_nil _ _)] at hc
    have hany := e.of_pageOptions hlast
    rwa [hc] at hany

/-- No rewriting applies to the exception. -/
theorem normalize_text : Dialect.normalize e.text = [e.text] := by
  have hforeign : ∀ m ∈ Dialect.marks, m.head?.any isForeign = true := by decide
  have hplaces : ∀ o ∈ pageOptions, ∀ m ∈ Dialect.marks, places m ('$' :: o.1 ++ [',']) = 0 := by
    decide
  refine (Dialect.isCommon_of_markCount (List.sum_eq_zero fun n hn => ?_)).normalize_eq
  obtain ⟨m, hm, rfl⟩ := List.mem_map.1 hn
  rw [Dialect.markPlaces, text_eq, List.append_assoc, e.places_append_front (hforeign m hm)]
  exact e.of_pageOptions hplaces m hm

theorem unsupportedSigns_text : unsupportedSigns.any (has · e.text) = false := by
  have hstyle : has "adg_start_style_inject" e.text = false :=
    e.has_text_of_mem (by decide : '_' ∈ "adg_start_style_inject".toList) (by decide) (by decide)
  have hdollars : has "$$" e.text = false := e.has_text_of_head? (by decide) (by decide)
  have hat : has "$@$" e.text = false := e.has_text_of_head? (by decide) (by decide)
  have hpercent : has "%%" e.text = false := e.has_text_of_head? (by decide) (by decide)
  simp only [unsupportedSigns, List.any_cons, List.any_nil, hstyle, hdollars, hat, hpercent]
  rfl

theorem split?_text : Marker.split? e.text = none := by
  have hhash : '#' ∉ e.text := e.notMem_text (by decide) (by decide)
  have hrest : e.text.dropWhile (· ≠ '#') = [] := by
    rw [List.dropWhile_eq_nil_iff]
    exact fun c hc => decide_eq_true (ne_of_mem_of_not_mem hc hhash)
  rw [Marker.split?, hrest]
  rfl

/-! ### The rule itself -/

/-- The last dollar sign stands in front of the option. -/
theorem splitOptions_text : UrlRule.splitOptions e.text = (e.pattern, some e.option) := by
  have hoption : ∀ o ∈ pageOptions, o.1 ≠ [] ∧ '$' ∉ o.1 := by decide
  obtain ⟨hne, hdollar⟩ := e.of_pageOptions hoption
  have hwritten : UrlRule.withOptions e.pattern e.option = e.pattern ++ '$' :: e.option := by
    rw [UrlRule.withOptions, escapeDelimiters_of_notMem hdollar]
  have hsigned : UrlRule.IsSigned e.text (UrlRule.withOptions e.pattern e.option) := by
    rw [hwritten]
    exact .inl rfl
  refine UrlRule.splitOptions_of_isSigned hsigned (fun h => ?_) hne ?_
  · have hmem : '\\' ∈ e.front := List.mem_append_right ['@', '@'] (List.mem_of_getLast? h)
    exact e.notMem_front (by decide) hmem
  · rintro ⟨⟨inner, hinner⟩, -⟩
    have hhead : some '|' = some '/' := congrArg List.head? hinner
    exact absurd hhead (by decide)

theorem lookup_pageOptions :
    ∀ o ∈ pageOptions, UrlRule.modifiers.lookup o.1 = some (.enable o.2) := by
  simp only [pageOptions, List.forall_mem_cons]
  exact ⟨rfl, rfl, rfl, rfl, rfl, nofun⟩

variable [Externals]

theorem fresh_text :
    UrlRule.fresh e.text e.pattern =
      { text := e.text, isException := true, pattern := e.pattern } := by
  have hpattern : HostPattern.asciiPattern e.pattern = e.pattern := by
    simp only [HostPattern.asciiPattern, e.isAscii_pattern, Bool.true_or, if_true]
  rw [UrlRule.fresh, hpattern]
  rfl

theorem applyOptions_option :
    (UrlRule.fresh e.text e.pattern).applyOptions e.option =
      .ok { text := e.text, isException := true, pattern := e.pattern, enabled := e.enabled } := by
  have hoption : ∀ o ∈ pageOptions, splitEscaped ',' '\\' false o.1 = [o.1] ∧
      UrlRule.optionName o.1 = o.1 ∧ OptionSet.blockingOnly.contains o.2 = false ∧
        OptionSet.empty ||| o.2 = o.2 := by
    decide +kernel
  obtain ⟨hsplit, hname, hallowed, henabled⟩ := e.of_pageOptions hoption
  have henable (r : UrlRule) (hr : r.isException = true) :
      r.applyOption e.option = .ok { r with enabled := r.enabled ||| e.enabled } := by
    rw [UrlRule.applyOption_eq, hname, e.of_pageOptions lookup_pageOptions]
    simp only [Option.elim, UrlRule.applyModifier, UrlRule.enable, hr, hallowed, if_true,
      Bool.false_eq_true, if_false]
  rw [fresh_text, UrlRule.applyOptions, hsplit, UrlRule.applyAll, henable _ rfl]
  simp only [UrlRule.applyAll, henabled]

/-- The option is one for documents, and nothing is left to be refused. -/
theorem urlRule_read_text : UrlRule.read e.text = .ok e.rule := by
  have hoption : ∀ o ∈ pageOptions,
      o.2.intersects OptionSet.documentLevel = true ∧ o.2.has .csp = false := by
    decide
  obtain ⟨hlevel, hcsp⟩ := e.of_pageOptions hoption
  have hslashes : UrlRule.betweenSlashes e.pattern = false := rfl
  simp only [UrlRule.read, splitOptions_text, applyOptions_option, bind, Except.bind,
    UrlRule.forDocuments, hlevel, if_true, UrlRule.withRegex, hslashes, Bool.false_eq_true, and_false,
    if_false, UrlRule.checkCsp, UrlRule.isCsp, hcsp, Bool.not_false]
  rfl

/-- The exception is read as the rule of its host. -/
theorem readLine_text : FilterRule.readLine e.text = .ok (some (.single (.url e.rule))) := by
  have hcomment : e.text.head? ≠ some commentSign := by
    show some '@' ≠ some '!'
    decide
  have hrule : Rule.read e.text = .ok (some (.url e.rule)) := by
    rw [Rule.read, unsupportedSigns_text, split?_text, urlRule_read_text]
    simp only [hcomment, decide_false, Bool.false_or, Bool.false_eq_true, if_false]
    rfl
  have hread : FilterRule.read e.text = .ok (some (.single (.url e.rule))) := by
    simp only [FilterRule.read, trim_text, normalize_text, hcomment, Rule.readAll, hrule]
    rfl
  rw [FilterRule.readLine, isNoRule_text, hread]
  rfl

end PageException
end ContentBlocker
