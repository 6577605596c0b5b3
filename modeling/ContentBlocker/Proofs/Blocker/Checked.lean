import ContentBlocker.Proofs.Blocker.Emission
import ContentBlocker.Proofs.Blocker.Safety
import ContentBlocker.Proofs.Text.Escapes

/-!
# What passes the check of address filters

A text passes the check if and only if it holds none of the unsafe constructs, but for some places
that the check overlooks: it looks for a `|` or an escape behind another character than a backslash,
so that it misses them at the start of a text and behind an escaped backslash.

* `UrlFilter.SafeBut` says what a safe text is, but for pipes and escapes in given places;
* `UrlFilter.Overlooked` are the places that the check misses;
* `UrlFilter.checkSafe_eq_ok_iff`: what passes is safe but for these, and nothing else passes;
* `Rule.emit_checkSafe`: the address filter of every converted rule passes.
-/

namespace ContentBlocker

namespace UrlFilter

open Text

/-! ### Safe texts -/

/-- The text holds no unsafe construct, except that a `|`, or a backslash before one of the letters
whose escapes are not understood, may be unescaped where `overlooked` holds of what stands
before. -/
structure SafeBut (overlooked : Text → Prop) (t : Text) : Prop where
  /-- All characters are in ASCII. -/
  ascii : ∀ c ∈ t, c.toNat < 128
  /-- Every `|` is escaped. -/
  pipe : ∀ b a, t = b ++ '|' :: a → escapesNext b = true ∨ overlooked b
  /-- Every backslash before such a letter is escaped. -/
  escape : ∀ b d a, t = b ++ '\\' :: d :: a → d ∈ metaLetters →
    escapesNext b = true ∨ overlooked b
  /-- No braces hold digits and commas only. -/
  count : ∀ b ds a, t = b ++ '\x7b' :: (ds ++ '\x7d' :: a) → ds ≠ [] →
    ¬∀ d ∈ ds, d.isDigit = true ∨ d = ','
  /-- No negative look-ahead is closed on the same line. -/
  lookahead : ∀ b m a, t = b ++ ("(?!".toList ++ (m ++ ')' :: a)) → '\n' ∈ m

/-- The places where the check overlooks what is not escaped: the start of the text, and those
behind an escaped backslash. -/
def Overlooked (b : Text) : Prop := b = [] ∨ ['\\', '\\'] <:+ b

/-! ### One construct -/

theorem anyTail_eq_false_iff {p : Text → Bool} {t : Text} :
    anyTail p t = false ↔ ∀ b u, t = b ++ u → ¬p u = true := by
  rw [Bool.eq_false_iff, Ne, anyTail_eq_true_iff]
  constructor
  · rintro h b u rfl hu
    exact h ⟨u, List.suffix_append b u, hu⟩
  · rintro h ⟨u, ⟨b, rfl⟩, hu⟩
    exact h b u rfl hu

/-- The text starts with a character other than a backslash, and what follows satisfies `q`. -/
def behindOther (q : Text → Bool) : Text → Bool
  | [] => false
  | c :: t => c ≠ '\\' && q t

/-- What is looked for behind another character than a backslash is missed in some places. -/
theorem anyTail_behindOther {q : Text → Bool} {t : Text} :
    anyTail (behindOther q) t = false ↔
      ∀ b u, t = b ++ u → q u = true → escapesNext b = true ∨ Overlooked b := by
  have hplace : ∀ b : Text,
      escapesNext b = true ∨ Overlooked b ↔ b = [] ∨ b.getLast? = some '\\' := by
    intro b
    rw [Overlooked, getLast?_eq_backslash_iff]
    tauto
  simp only [anyTail_eq_false_iff, hplace]
  constructor
  · rintro h b u rfl hu
    rcases List.eq_nil_or_concat' b with rfl | ⟨b, c, rfl⟩
    · exact .inl rfl
    · have hc : c = '\\' := by simpa [behindOther, hu] using h b (c :: u) (by simp)
      simp [hc]
  · rintro h b u rfl hu
    rcases u with _ | ⟨c, u⟩
    · cases hu
    · obtain ⟨hc, hu⟩ : c ≠ '\\' ∧ q u = true := by simpa [behindOther] using hu
      rcases h (b ++ [c]) u (by simp) hu with hb | hb
      · simp at hb
      · simp [hc] at hb

theorem startsWithPipe_eq : startsWithPipe = behindOther (·.head? = some '|') := by
  funext t
  unfold startsWithPipe behindOther
  split
  · simp
  · next h =>
    split
    · rfl
    · next c t =>
      rcases t with _ | ⟨d, t⟩
      · simp
      · have hd : d ≠ '|' := by
          rintro rfl
          exact h c t rfl
        simp [hd]

/-- The text starts with an escape that is not understood. -/
def startsWithEscape : Text → Bool
  | '\\' :: d :: _ => metaLetters.contains d
  | _ => false

theorem startsWithEscape_iff {t : Text} :
    startsWithEscape t = true ↔ ∃ d ∈ metaLetters, ∃ a, t = '\\' :: d :: a := by
  unfold startsWithEscape
  split
  · simp
  · next h =>
    simp only [Bool.false_eq_true, false_iff]
    rintro ⟨d, -, a, rfl⟩
    exact h d a rfl

theorem startsWithMeta_eq : startsWithMeta = behindOther startsWithEscape := by
  funext t
  unfold startsWithMeta
  split
  · rfl
  · next h =>
    rcases t with _ | ⟨c, t⟩
    · rfl
    · have ht : startsWithEscape t = false := by
        rw [Bool.eq_false_iff, Ne, startsWithEscape_iff]
        rintro ⟨d, -, a, rfl⟩
        exact h c d a rfl
      rw [behindOther, ht, Bool.and_false]

theorem startsWithCount_iff {t : Text} :
    startsWithCount t = true ↔
      ∃ ds a, t = '\x7b' :: (ds ++ '\x7d' :: a) ∧ ds ≠ [] ∧
        ∀ d ∈ ds, d.isDigit = true ∨ d = ',' := by
  constructor
  · intro h
    unfold startsWithCount at h
    split at h
    · next u =>
      simp only [Bool.and_eq_true, Bool.not_eq_true', List.isEmpty_eq_false_iff,
        decide_eq_true_iff] at h
      obtain ⟨a, ha⟩ := List.head?_eq_some_iff.1 h.2
      refine ⟨_, a, ?_, h.1, fun d hd => ?_⟩
      · rw [← ha, List.takeWhile_append_dropWhile]
      · simpa using List.mem_takeWhile_imp hd
    · cases h
  · rintro ⟨ds, a, rfl, hne, hds⟩
    have hall : ∀ d ∈ ds, (d.isDigit || decide (d = ',')) = true := by simpa using hds
    simp [startsWithCount, List.takeWhile_append_of_pos hall, List.dropWhile_append_of_pos hall,
      hne]

theorem startsWithLookahead_iff {t : Text} :
    startsWithLookahead t = true ↔
      ∃ m a, t = "(?!".toList ++ (m ++ ')' :: a) ∧ '\n' ∉ m := by
  simp only [startsWithLookahead, Option.any_eq_true, stripStart?_eq_some_iff,
    List.contains_iff_mem]
  constructor
  · rintro ⟨u, rfl, hu⟩
    obtain ⟨m, v, hm⟩ := List.append_of_mem hu
    refine ⟨m, v ++ u.dropWhile (· ≠ '\n'), ?_, fun hmem => ?_⟩
    · conv_lhs => rw [← List.takeWhile_append_dropWhile (p := (· ≠ '\n')) (l := u), hm]
      simp
    · have hline : '\n' ∈ u.takeWhile (· ≠ '\n') := by
        rw [hm]
        exact List.mem_append_left _ hmem
      simpa using List.mem_takeWhile_imp hline
  · rintro ⟨m, a, rfl, hm⟩
    have hline : ∀ c ∈ m ++ [')'], decide (c ≠ '\n') = true := by
      intro c hc
      rw [decide_eq_true_iff]
      rintro rfl
      simp [hm] at hc
    refine ⟨_, rfl, ?_⟩
    rw [List.append_cons, List.takeWhile_append_of_pos hline]
    simp

/-! ### The whole check -/

section Holds

variable {t : Text}

theorem holds_nonAscii_eq_false_iff : holds t .nonAscii = false ↔ ∀ c ∈ t, c.toNat < 128 := by
  simp [holds, isAscii]

theorem holds_pipe_eq_false_iff :
    holds t .pipe = false ↔ ∀ b a, t = b ++ '|' :: a → escapesNext b = true ∨ Overlooked b := by
  show anyTail startsWithPipe t = false ↔ _
  rw [startsWithPipe_eq, anyTail_behindOther]
  constructor
  · intro h b a ht
    exact h b ('|' :: a) ht rfl
  · intro h b u ht hu
    obtain ⟨a, rfl⟩ := List.head?_eq_some_iff.1 (of_decide_eq_true hu)
    exact h b a ht

theorem holds_metacharacter_eq_false_iff :
    holds t .metacharacter = false ↔ ∀ b d a, t = b ++ '\\' :: d :: a → d ∈ metaLetters →
      escapesNext b = true ∨ Overlooked b := by
  show anyTail startsWithMeta t = false ↔ _
  rw [startsWithMeta_eq, anyTail_behindOther]
  constructor
  · intro h b d a ht hd
    exact h b ('\\' :: d :: a) ht (startsWithEscape_iff.2 ⟨d, hd, a, rfl⟩)
  · intro h b u ht hu
    obtain ⟨d, hd, a, rfl⟩ := startsWithEscape_iff.1 hu
    exact h b d a ht hd

theorem holds_digitQuantifier_eq_false_iff :
    holds t .digitQuantifier = false ↔ ∀ b ds a, t = b ++ '\x7b' :: (ds ++ '\x7d' :: a) → ds ≠ [] →
      ¬∀ d ∈ ds, d.isDigit = true ∨ d = ',' := by
  show anyTail startsWithCount t = false ↔ _
  simp only [anyTail_eq_false_iff, startsWithCount_iff]
  constructor
  · intro h b ds a ht hne hds
    exact h b _ ht ⟨ds, a, rfl, hne, hds⟩
  · rintro h b u ht ⟨ds, a, rfl, hne, hds⟩
    exact h b ds a ht hne hds

theorem holds_negativeLookahead_eq_false_iff :
    holds t .negativeLookahead = false ↔
      ∀ b m a, t = b ++ ("(?!".toList ++ (m ++ ')' :: a)) → '\n' ∈ m := by
  show anyTail startsWithLookahead t = false ↔ _
  simp only [anyTail_eq_false_iff, startsWithLookahead_iff]
  constructor
  · intro h b m a ht
    by_contra hm
    exact h b _ ht ⟨m, a, rfl, hm⟩
  · rintro h b u ht ⟨m, a, rfl, hm⟩
    exact hm (h b m a ht)

theorem checkSafe_eq_ok_iff_holds :
    checkSafe t = .ok () ↔ ∀ u : UnsafeConstruct, holds t u = false := by
  have hall : ∀ u, u ∈ constructs := by
    intro u
    cases u <;> decide
  have hfind : findUnsafe? t = none ↔ ∀ u, holds t u = false := by
    simp [findUnsafe?, List.find?_eq_none, hall]
  rw [← hfind, checkSafe]
  cases findUnsafe? t <;> simp

/-- A text passes the check if and only if it is safe but for the places that the check
overlooks. -/
theorem checkSafe_eq_ok_iff : checkSafe t = .ok () ↔ SafeBut Overlooked t := by
  rw [checkSafe_eq_ok_iff_holds]
  constructor
  · intro h
    exact
      { ascii := holds_nonAscii_eq_false_iff.1 (h .nonAscii)
        pipe := holds_pipe_eq_false_iff.1 (h .pipe)
        escape := holds_metacharacter_eq_false_iff.1 (h .metacharacter)
        count := holds_digitQuantifier_eq_false_iff.1 (h .digitQuantifier)
        lookahead := holds_negativeLookahead_eq_false_iff.1 (h .negativeLookahead) }
  · intro h u
    cases u with
    | digitQuantifier => exact holds_digitQuantifier_eq_false_iff.2 h.count
    | pipe => exact holds_pipe_eq_false_iff.2 h.pipe
    | nonAscii => exact holds_nonAscii_eq_false_iff.2 h.ascii
    | negativeLookahead => exact holds_negativeLookahead_eq_false_iff.2 h.lookahead
    | metacharacter => exact holds_metacharacter_eq_false_iff.2 h.escape

end Holds
end UrlFilter

/-! ### Converted rules -/

theorem DomainLists.write_urlFilter {l : DomainLists} {t t' : Trigger} (h : l.write t = .ok t') :
    t'.urlFilter = t.urlFilter := by
  unfold write at h
  split at h
  · cases h
  · cases h
    rfl

theorem pageTrigger_urlFilter {s : Scope} {t : Trigger} (h : pageTrigger s = .ok t) :
    t.urlFilter = Pattern.anything := DomainLists.write_urlFilter h

/-- The address filter of a network rule that is converted was checked, or it is the one for the
pages of a domain. -/
theorem UrlRule.emit_urlFilter [Externals] {r : UrlRule} {b : BlockerRule} (h : r.emit.2 = .ok b) :
    (b.trigger.urlFilter = r.urlFilter ∧ UrlFilter.checkSafe r.urlFilter = .ok ()) ∨
      b.trigger.urlFilter = Pattern.anything := by
  obtain ⟨types, hc, ht, -, -⟩ := UrlRule.emit_ok h
  unfold trigger at ht
  cases hd : r.pageDomain.2 with
  | none =>
    rw [hd] at ht
    exact .inl ⟨DomainLists.write_urlFilter ht, (checkedTypes_ok hc).2.1⟩
  | some d =>
    rw [hd] at ht
    exact .inr (DomainLists.write_urlFilter ht)

/-- The filter that every address matches is safe. -/
theorem UrlFilter.checkSafe_anything : checkSafe Pattern.anything = .ok () := by decide

/-- The address filter of a converted rule passes the check. -/
theorem Rule.emit_checkSafe [Externals] {r : Rule} {b : BlockerRule} (h : r.emit.2 = .ok b) :
    UrlFilter.checkSafe b.trigger.urlFilter = .ok () := by
  cases r with
  | url r =>
    rcases UrlRule.emit_urlFilter h with ⟨hfilter, hsafe⟩ | hfilter
    · rw [hfilter, hsafe]
    · rw [hfilter, UrlFilter.checkSafe_anything]
  | css r => rw [pageTrigger_urlFilter (CssRule.emit_ok h).1, UrlFilter.checkSafe_anything]
  | script r => rw [pageTrigger_urlFilter (ScriptRule.emit_ok h).1, UrlFilter.checkSafe_anything]
  | scriptlet r =>
    rw [pageTrigger_urlFilter (ScriptletRule.emit_ok h).1, UrlFilter.checkSafe_anything]

end ContentBlocker
