import ContentBlocker.Blocker.UrlFilter
import ContentBlocker.Filter.Network
import ContentBlocker.Proofs.Filter.Origins
import ContentBlocker.Proofs.Pattern.Atoms
import Mathlib.Data.List.Chain
import Mathlib.Data.List.TakeWhile

/-!
# Address filters of wildcard rules

The compiler of patterns and the search for unsafe constructs know nothing of each other.  What the
compiler writes never holds such a construct, except for characters outside of ASCII that the
pattern itself holds.

* `UrlFilter.Tame` says of a text that its neighbouring characters and its escapes make no unsafe
  construct, and `UrlFilter.Tame.holds_eq_false` that there is none then;
* `UrlFilter.tame_compile` says that compiled patterns are tame, because their atoms are;
* `Pattern.isAscii_compile` says which characters they hold;
* `UrlRule.checkSafe_urlFilter` puts this together for the rules that are read.
-/

namespace ContentBlocker

namespace UrlFilter

/-! ### Parts of a text -/

theorem anyTail_eq_true_iff {p : Text → Bool} {t : Text} :
    anyTail p t = true ↔ ∃ s, s <:+ t ∧ p s = true := by
  induction t with
  | nil => simp [anyTail]
  | cons c t ih =>
    rw [anyTail, Bool.or_eq_true, ih]
    constructor
    · rintro (h | ⟨s, hs, h⟩)
      · exact ⟨_, List.suffix_rfl, h⟩
      · exact ⟨s, hs.trans (List.suffix_cons c t), h⟩
    · rintro ⟨s, hs, h⟩
      rcases List.suffix_cons_iff.1 hs with rfl | hs
      · exact .inl h
      · exact .inr ⟨s, hs, h⟩

/-- Where a run of characters ends at another character, one of the run stands before that. -/
theorem exists_neighbours {p : Char → Bool} {t : Text} {b : Char} (hrun : t.takeWhile p ≠ [])
    (hend : (t.dropWhile p).head? = some b) : ∃ a, p a = true ∧ [a, b] <:+: t := by
  obtain ⟨u, a, hu⟩ := (List.eq_nil_or_concat (t.takeWhile p)).resolve_left hrun
  obtain ⟨v, hv⟩ := List.head?_eq_some_iff.1 hend
  have ha : p a = true := List.mem_takeWhile_imp (l := t) (by simp [hu])
  refine ⟨a, ha, u, v, ?_⟩
  rw [← List.takeWhile_append_dropWhile (p := p) (l := t), hu, hv]
  simp

/-! ### Neighbours and escapes -/

/-- What may stand behind what: a `|` and a closing brace only behind a backslash, and a question
mark not behind an opening parenthesis. -/
def Calm (a b : Char) : Prop := (b = '|' ∨ b = '\x7d' → a = '\\') ∧ (b = '?' → a ≠ '(')

instance : DecidableRel Calm := fun a b => by
  unfold Calm
  infer_instance

/-- The characters that may not stand behind every other. -/
def restless : Text := "|\x7d?"

theorem calm_of_notMem_restless {b : Char} (h : b ∉ restless) (a : Char) : Calm a b := by
  obtain ⟨hp, hb, hq⟩ : b ≠ '|' ∧ b ≠ '\x7d' ∧ b ≠ '?' := by simpa [restless] using h
  simp [Calm, hp, hb, hq]

/-- Every backslash escapes a character, and none of the letters whose escapes are not
understood. -/
def wellEscaped : Text → Bool
  | [] => true
  | ['\\'] => false
  | '\\' :: d :: t => !metaLetters.contains d && wellEscaped t
  | _ :: t => wellEscaped t

theorem wellEscaped_cons {c : Char} (hc : c ≠ '\\') (t : Text) :
    wellEscaped (c :: t) = wellEscaped t := by
  rw [wellEscaped]
  · rintro rfl
    exact absurd rfl hc
  · rintro d u rfl
    exact absurd rfl hc

theorem wellEscaped_append {s : Text} (hs : wellEscaped s = true) (t : Text) :
    wellEscaped (s ++ t) = wellEscaped t := by
  fun_induction wellEscaped s with
  | case1 => rfl
  | case2 => cases hs
  | case3 d s ih =>
    rw [Bool.and_eq_true] at hs
    rw [List.cons_append, List.cons_append, wellEscaped, ih hs.2, hs.1, Bool.true_and]
  | case4 c s h₁ h₂ ih =>
    have hc : c ≠ '\\' := by
      rintro rfl
      cases s with
      | nil => exact h₁ rfl rfl
      | cons d s => exact h₂ d s rfl rfl
    rw [List.cons_append, wellEscaped_cons hc, ih hs]

/-- An escaped character may be a backslash, but then it stands behind one. -/
theorem startsWithMeta_backslash (t : Text) : startsWithMeta ('\\' :: t) = false := by
  unfold startsWithMeta
  split
  · next h =>
    cases h
    rfl
  · rfl

/-- No escape of such a letter starts in a text, whatever stands before it. -/
theorem anyTail_startsWithMeta {t : Text} (h : wellEscaped t = true) (c : Char) :
    anyTail startsWithMeta (c :: t) = false := by
  fun_induction wellEscaped t generalizing c with
  | case1 => simp [anyTail, startsWithMeta]
  | case2 => cases h
  | case3 d t ih =>
    obtain ⟨hd, ht⟩ : d ∉ metaLetters ∧ wellEscaped t = true := by simpa using h
    rw [anyTail, anyTail, ih ht d, startsWithMeta_backslash]
    simp [startsWithMeta, hd]
  | case4 d t h₁ h₂ ih =>
    have hd : d ≠ '\\' := by
      rintro rfl
      cases t with
      | nil => exact h₁ rfl rfl
      | cons e t => exact h₂ e t rfl rfl
    have hhere : startsWithMeta (c :: d :: t) = false := by
      unfold startsWithMeta
      split <;> simp_all
    rw [anyTail, ih h d, hhere, Bool.false_or]

/-- Nothing in a text makes an unsafe construct, wherever the text stands. -/
structure Tame (t : Text) : Prop where
  chain : t.IsChain Calm
  head : ∀ c ∈ t.head?, c ∉ restless
  escaped : wellEscaped t = true

namespace Tame

theorem tame_iff {t : Text} :
    Tame t ↔ t.IsChain Calm ∧ (t.head?.all fun c => c ∉ restless) = true ∧ wellEscaped t = true := by
  rw [Option.all_eq_true]
  simp only [decide_eq_true_iff]
  exact ⟨fun ⟨h₁, h₂, h₃⟩ => ⟨h₁, h₂, h₃⟩, fun ⟨h₁, h₂, h₃⟩ => ⟨h₁, h₂, h₃⟩⟩

instance (t : Text) : Decidable (Tame t) := decidable_of_iff _ tame_iff.symm

theorem append {s t : Text} (hs : Tame s) (ht : Tame t) : Tame (s ++ t) where
  chain := List.isChain_append.2
    ⟨hs.chain, ht.chain, fun a _ b hb => calm_of_notMem_restless (ht.head b hb) a⟩
  head := by
    intro c hc
    rcases s with _ | ⟨d, s⟩
    · exact ht.head c hc
    · exact hs.head c hc
  escaped := by rw [wellEscaped_append hs.escaped, ht.escaped]

theorem flatMap {α : Type} {f : α → Text} {xs : List α} (h : ∀ x ∈ xs, Tame (f x)) :
    Tame (xs.flatMap f) := by
  induction xs with
  | nil => exact ⟨.nil, by simp, rfl⟩
  | cons x xs ih =>
    rw [List.flatMap_cons]
    exact (h x List.mem_cons_self).append (ih fun y hy => h y (List.mem_cons_of_mem x hy))

section Holds

variable {t : Text} (h : Tame t)
include h

theorem calm {a b : Char} (hab : [a, b] <:+: t) : Calm a b := by
  simpa using h.chain.infix hab

theorem no_count : anyTail startsWithCount t = false := by
  rw [Bool.eq_false_iff]
  intro hcount
  obtain ⟨s, hs, hcount⟩ := anyTail_eq_true_iff.1 hcount
  unfold startsWithCount at hcount
  split at hcount
  · next u =>
    rw [Bool.and_eq_true, Bool.not_eq_true', List.isEmpty_eq_false_iff, decide_eq_true_iff]
      at hcount
    obtain ⟨a, ha, hclose⟩ := exists_neighbours hcount.1 hcount.2
    have hcalm : Calm a '\x7d' :=
      h.calm (hclose.trans ((List.suffix_cons '\x7b' u).trans hs).isInfix)
    -- a backslash is part of no count
    rw [hcalm.1 (.inr rfl)] at ha
    exact absurd ha (by decide)
  · cases hcount

theorem no_pipe : anyTail startsWithPipe t = false := by
  rw [Bool.eq_false_iff]
  intro hpipe
  obtain ⟨s, hs, hpipe⟩ := anyTail_eq_true_iff.1 hpipe
  unfold startsWithPipe at hpipe
  split at hpipe
  · next c u =>
    have hcalm : Calm c '|' := h.calm (List.IsInfix.trans ⟨[], u, rfl⟩ hs.isInfix)
    simp [hcalm.1 (.inl rfl)] at hpipe
  · cases hpipe

theorem no_lookahead : anyTail startsWithLookahead t = false := by
  rw [Bool.eq_false_iff]
  intro hlook
  obtain ⟨s, hs, hlook⟩ := anyTail_eq_true_iff.1 hlook
  have hopening : ['(', '?', '!'] <+: s := by
    by_contra hno
    simp [startsWithLookahead, Text.stripStart?, hno] at hlook
  obtain ⟨u, rfl⟩ := hopening
  have hcalm : Calm '(' '?' := h.calm (List.IsInfix.trans ⟨[], '!' :: u, rfl⟩ hs.isInfix)
  exact absurd rfl (hcalm.2 rfl)

theorem no_meta : anyTail startsWithMeta t = false := by
  have hmeta := anyTail_startsWithMeta h.escaped 'x'
  rw [anyTail, Bool.or_eq_false_iff] at hmeta
  exact hmeta.2

/-- A tame text holds no unsafe construct but characters outside of ASCII. -/
theorem holds_eq_false {u : UnsafeConstruct} (hu : u ≠ .nonAscii) : holds t u = false := by
  cases u with
  | digitQuantifier => exact h.no_count
  | pipe => exact h.no_pipe
  | nonAscii => exact absurd rfl hu
  | negativeLookahead => exact h.no_lookahead
  | metacharacter => exact h.no_meta

theorem checkSafe_eq :
    checkSafe t = if Text.isAscii t then .ok () else .error (.unsafeRegexp .nonAscii) := by
  have hascii : holds t .nonAscii = !Text.isAscii t := rfl
  have hfind : findUnsafe? t = if Text.isAscii t then none else some .nonAscii := by
    simp only [findUnsafe?, constructs, List.find?_cons, List.find?_nil, hascii,
      h.holds_eq_false (show UnsafeConstruct.digitQuantifier ≠ .nonAscii by decide),
      h.holds_eq_false (show UnsafeConstruct.pipe ≠ .nonAscii by decide),
      h.holds_eq_false (show UnsafeConstruct.negativeLookahead ≠ .nonAscii by decide),
      h.holds_eq_false (show UnsafeConstruct.metacharacter ≠ .nonAscii by decide)]
    cases Text.isAscii t <;> rfl
  rw [checkSafe, hfind]
  cases Text.isAscii t <;> rfl

end Holds

end Tame

/-! ### Compiled patterns -/

theorem tame_escaped {c : Char} (hc : c = '|' ∨ c ∈ Pattern.specials) : Tame ['\\', c] := by
  have hmeta : c ∉ metaLetters := by
    rcases hc with rfl | hc
    · decide
    · have hall : (Pattern.specials.all fun c => c ∉ metaLetters) = true := by decide
      exact of_decide_eq_true (List.all_eq_true.1 hall c hc)
  exact ⟨by simp [Calm], by simp [restless], by simp [wellEscaped, hmeta]⟩

theorem tame_plain {c : Char} (hc : ¬(c = '|' ∨ c ∈ Pattern.specials)) : Tame [c] := by
  have hspecial : ∀ d ∈ Pattern.specials, c ≠ d := by
    rintro d hd rfl
    exact hc (.inr hd)
  have hrest : c ∉ restless := by
    have hall : (restless.all fun d => d = '|' ∨ d ∈ Pattern.specials) = true := by decide
    exact fun hmem => hc (of_decide_eq_true (List.all_eq_true.1 hall c hmem))
  have hescape : c ≠ '\\' := hspecial _ (by decide)
  exact ⟨.singleton c, by simpa using hrest, by rw [wellEscaped_cons hescape, wellEscaped]⟩

/-- The atoms of patterns are tame: the compiler escapes what is not. -/
theorem tame_text (a : Pattern.Atom) : Tame a.text := by
  cases a with
  | hostStart | start | stop | any | separator => decide
  | literal c _ =>
    rw [Pattern.Atom.text]
    split_ifs with hc
    · exact tame_escaped hc
    · exact tame_plain hc

theorem tame_compile (p : Text) : Tame (Pattern.compile p) := by
  by_cases hp : p ∈ Pattern.matchAll
  · have hall : ∀ p ∈ Pattern.matchAll, Pattern.compile p = Pattern.anything := by decide
    rw [hall p hp]
    decide
  · rw [Pattern.compile_eq hp]
    exact Tame.flatMap fun a _ => tame_text a

end UrlFilter

namespace Pattern

theorem isAscii_text_ofChar (c : Char) : Text.isAscii (Atom.ofChar c).text = Text.isAscii [c] := by
  unfold Atom.ofChar
  split_ifs with ha hm
  · subst ha
    decide
  · subst hm
    decide
  · have hbackslash : Text.isAscii ['\\'] = true := by decide
    rw [Atom.text]
    split_ifs
    · rw [← List.singleton_append, Text.isAscii_append, hbackslash, Bool.true_and]
    · rfl

theorem isAscii_flatMap_ofChar (t : Text) :
    Text.isAscii (t.flatMap fun c => (Atom.ofChar c).text) = Text.isAscii t := by
  induction t with
  | nil => rfl
  | cons c t ih =>
    rw [List.flatMap_cons, Text.isAscii_append, isAscii_text_ofChar, ih, ← Text.isAscii_append,
      List.singleton_append]

theorem isAscii_startAtoms (p : Text) :
    Text.isAscii ((startAtoms p).flatMap Atom.text) = Text.isAscii (startMask p) := by
  rcases startMask_cases p with ⟨hs, ha⟩ | ⟨hs, ha⟩ | ⟨hs, ha⟩ <;> rw [hs, ha] <;> decide

theorem isAscii_endAtoms (p : Text) :
    (Text.isAscii (units p) && Text.isAscii ((endAtoms p).flatMap Atom.text)) =
      Text.isAscii (body p) := by
  unfold units endAtoms
  split_ifs with h
  · have hpipe : Text.isAscii ['|'] = true ∧
        Text.isAscii ([Atom.stop].flatMap Atom.text) = true := by
      decide
    conv_rhs => rw [← List.dropLast_append_getLast? '|' h]
    rw [Text.isAscii_append, hpipe.1, hpipe.2]
  · exact Bool.and_true _

/-- Compiling adds no characters outside of ASCII and drops none. -/
theorem isAscii_compile (p : Text) : Text.isAscii (compile p) = Text.isAscii p := by
  by_cases hp : p ∈ matchAll
  · have hall : ∀ p ∈ matchAll, Text.isAscii (compile p) = Text.isAscii p := by decide
    exact hall p hp
  · calc Text.isAscii (compile p)
        = (Text.isAscii ((startAtoms p).flatMap Atom.text) && (Text.isAscii (units p) &&
            Text.isAscii ((endAtoms p).flatMap Atom.text))) := by
          rw [compile_eq hp, atoms, List.append_assoc, List.flatMap_append, List.flatMap_append,
            List.flatMap_map, Text.isAscii_append, Text.isAscii_append, isAscii_flatMap_ofChar]
      _ = (Text.isAscii (startMask p) && Text.isAscii (body p)) := by
          rw [isAscii_startAtoms, isAscii_endAtoms]
      _ = Text.isAscii p := by rw [← Text.isAscii_append, startMask_append_body]

end Pattern

/-! ### Rules that were read -/

namespace UrlRule

theorem withRegex_regex [Externals] {r r' : UrlRule} (h : r.withRegex = .ok r')
    (hr : r'.isRegex = false) :
    r'.regex = Pattern.compile r'.pattern := by
  unfold withRegex at h
  split_ifs at h
  · split at h
    · cases h
      cases hr
    · cases h
  · cases h
    rfl

theorem checkCsp_eq {r r' : UrlRule} (h : r.checkCsp = .ok r') : r' = r := by
  unfold checkCsp at h
  dsimp only at h
  split_ifs at h <;> cases h <;> rfl

/-- The regular expression of a wildcard rule is what its pattern is compiled to. -/
theorem read_regex [Externals] {text : Text} {r : UrlRule} (h : UrlRule.read text = .ok r)
    (hr : r.isRegex = false) : r.regex = Pattern.compile r.pattern := by
  have hfinish : ∀ s : UrlRule, (s.forDocuments.withRegex >>= checkCsp) = .ok r →
      r.regex = Pattern.compile r.pattern := by
    intro s hs
    obtain ⟨r', hr', hcheck⟩ := bind_eq_ok_iff.1 hs
    obtain rfl := checkCsp_eq hcheck
    exact withRegex_regex hr' hr
  unfold UrlRule.read at h
  rcases ho : splitOptions text with ⟨pattern, _ | options⟩
  · rw [ho] at h
    obtain ⟨s, -, hs⟩ := bind_eq_ok_iff.1 h
    exact hfinish s hs
  · rw [ho] at h
    obtain ⟨s, -, hs⟩ := bind_eq_ok_iff.1 h
    exact hfinish s hs

/-- The address filter of a wildcard rule whose pattern does not match every address. -/
theorem urlFilter_of_notMem {r : UrlRule} (hr : r.isRegex = false)
    (hp : r.pattern ∉ UrlFilter.anyAddressPatterns) :
    (r.regex = [] ∧ r.urlFilter = Pattern.anyAddress) ∨ r.urlFilter = r.regex ∨
      r.urlFilter = Pattern.anySocket ++ Pattern.anything ++ r.regex := by
  have hp' : UrlFilter.anyAddressPatterns.contains r.pattern = false := by simpa using hp
  unfold urlFilter
  simp only [hp', hr, Bool.false_and, Bool.false_eq_true, if_false]
  split_ifs with hempty
  · exact .inl ⟨List.isEmpty_iff.1 hempty, rfl⟩
  · exact .inr (.inr rfl)
  · exact .inr (.inl rfl)

/-- The address filter of a wildcard rule is tame, and has characters outside of ASCII only if its
pattern has. -/
theorem tame_urlFilter {r : UrlRule} (hr : r.isRegex = false)
    (hc : r.regex = Pattern.compile r.pattern) :
    UrlFilter.Tame r.urlFilter ∧ Text.isAscii r.urlFilter = Text.isAscii r.pattern := by
  have haddress : UrlFilter.Tame Pattern.anyAddress ∧ Text.isAscii Pattern.anyAddress = true := by
    decide
  have hsocket : UrlFilter.Tame Pattern.anySocket ∧ Text.isAscii Pattern.anySocket = true := by
    decide
  have hopening : UrlFilter.Tame (Pattern.anySocket ++ Pattern.anything) ∧
      Text.isAscii (Pattern.anySocket ++ Pattern.anything) = true := by
    decide
  by_cases hp : r.pattern ∈ UrlFilter.anyAddressPatterns
  · have hany : ∀ p ∈ UrlFilter.anyAddressPatterns, Text.isAscii p = true := by decide
    have hp' : UrlFilter.anyAddressPatterns.contains r.pattern = true := by simpa using hp
    rw [hany r.pattern hp, urlFilter, hp', if_pos rfl]
    split_ifs
    · exact hsocket
    · exact haddress
  · have hascii : Text.isAscii r.regex = Text.isAscii r.pattern := by
      rw [hc, Pattern.isAscii_compile]
    have htame : UrlFilter.Tame r.regex := by
      rw [hc]
      exact UrlFilter.tame_compile r.pattern
    rcases urlFilter_of_notMem hr hp with ⟨hempty, hu⟩ | hu | hu
    · rw [hu, ← hascii, hempty, haddress.2]
      exact ⟨haddress.1, rfl⟩
    · rw [hu]
      exact ⟨htame, hascii⟩
    · rw [hu, Text.isAscii_append, hopening.2, Bool.true_and]
      exact ⟨hopening.1.append htame, hascii⟩

/-- **Wildcard rules have safe address filters.**  Take a rule that is read and is no regular
expression.  Its address filter is refused only for characters outside of ASCII that its pattern
holds, and never for any other construct, whatever the pattern is. -/
theorem checkSafe_urlFilter [Externals] {text : Text} {r : UrlRule} (h : UrlRule.read text = .ok r)
    (hr : r.isRegex = false) :
    (UrlFilter.checkSafe r.urlFilter =
      if r.pattern ∈ UrlFilter.anyAddressPatterns ∨ Text.isAscii r.pattern = true then .ok ()
      else .error (.unsafeRegexp .nonAscii)) ∧
    ∀ u : UnsafeConstruct, u ≠ .nonAscii → UrlFilter.holds r.urlFilter u = false := by
  have hany : ∀ p ∈ UrlFilter.anyAddressPatterns, Text.isAscii p = true := by decide
  obtain ⟨htame, hascii⟩ := tame_urlFilter hr (read_regex h hr)
  refine ⟨?_, fun u hu => htame.holds_eq_false hu⟩
  rw [htame.checkSafe_eq, hascii, if_congr (or_iff_right_of_imp (hany r.pattern)) rfl rfl]

/-- A pattern that holds all unsafe constructs as text, and one with a letter outside of ASCII. -/
theorem checkSafe_urlFilter_constructs :
    ∃ r r' : UrlRule,
      UrlRule.read "||ads.org/a\x7b2\x7d|b(?!c)\\d^" = .ok r ∧
      UrlRule.read "||ads.org/a\x7b2\x7d|b(?!c)\\ü$websocket" = .ok r' ∧
      r.isRegex = false ∧ r'.isRegex = false ∧
      UrlFilter.checkSafe r.urlFilter = .ok () ∧
      UrlFilter.checkSafe r'.urlFilter = .error (.unsafeRegexp .nonAscii) := by
  have hread : ∀ t p : Text,
      ((UrlRule.read t).toOption.map fun r => (r.isRegex, r.pattern)) = some (false, p) →
        ∃ r, UrlRule.read t = .ok r ∧ r.isRegex = false ∧ r.pattern = p := by
    intro t p h
    rcases ht : UrlRule.read t with e | r
    · rw [ht] at h
      cases h
    · rw [ht] at h
      obtain ⟨hr, hp⟩ := Prod.mk.inj (Option.some.inj h)
      exact ⟨r, rfl, hr, hp⟩
  obtain ⟨r, h, hr, hp⟩ := hread "||ads.org/a\x7b2\x7d|b(?!c)\\d^"
    "||ads.org/a\x7b2\x7d|b(?!c)\\d^" (by decide +kernel)
  obtain ⟨r', h', hr', hp'⟩ := hread "||ads.org/a\x7b2\x7d|b(?!c)\\ü$websocket"
    "||ads.org/a\x7b2\x7d|b(?!c)\\ü" (by decide +kernel)
  refine ⟨r, r', h, h', hr, hr', ?_, ?_⟩
  · rw [(checkSafe_urlFilter h hr).1, hp]
    decide
  · rw [(checkSafe_urlFilter h' hr').1, hp']
    decide

end UrlRule
end ContentBlocker
