import ContentBlocker.Proofs.Text.Escapes
import ContentBlocker.Text.Quoted

/-!
# Tokens in quotation marks

A token goes from one quotation mark to the next one that no backslash escapes.

* `quotedBody?_step`, `quotedBody?_rest` and `quotedBody?_skip` follow the reader of a body along
  the text, where what was read before tells whether the next character is escaped;
* `IsQuotedBody` says of a text that it may stand between two marks;
* `readQuoted?_eq_some_iff`: a token is read just if such a text stands between its marks, and the
  whole of it is read;
* `QuotedToken` is a token taken apart into the units of its body, and `readQuoted?_exact` says that
  reading finds the one token that a text begins with.
-/

namespace ContentBlocker.Text

/-! ### Reading a body -/

section Body

variable {q : Char} (hq : q ≠ '\\')
include hq

/-- The reader goes on up to a closing mark that is not escaped. -/
theorem quotedBody?_step (b : Text) (c : Char) (t : Text) :
    quotedBody? q (escapesNext b) (c :: t) =
      if c = q ∧ escapesNext b = false then some ([], t)
      else (quotedBody? q (escapesNext (b ++ [c])) t).map fun s => (c :: s.1, s.2) := by
  rw [escapesNext_concat]
  cases escapesNext b with
  | true => simp [quotedBody?]
  | false =>
    by_cases hc : c = '\\'
    · simp [quotedBody?, hc, hq.symm]
    · simp [quotedBody?, hc]

/-- What follows a body follows a closing mark here, or it follows a body that begins with the next
character. -/
theorem quotedBody?_rest {b t body rest : Text} {c : Char}
    (h : quotedBody? q (escapesNext b) (c :: t) = some (body, rest)) :
    (c = q ∧ escapesNext b = false ∧ rest = t) ∨
      (c = q → escapesNext b = true) ∧
        ∃ body', quotedBody? q (escapesNext (b ++ [c])) t = some (body', rest) := by
  rw [quotedBody?_step hq] at h
  split_ifs at h with hcloses
  · cases h
    exact .inl ⟨hcloses.1, hcloses.2, rfl⟩
  · obtain ⟨s, hs, heq⟩ := Option.map_eq_some_iff.1 h
    cases heq
    exact .inr ⟨by simpa using hcloses, s.1, hs⟩

/-- The reader goes on over characters that are no closing marks. -/
theorem quotedBody?_skip {p : Text} (hp : q ∉ p) {b t body rest : Text}
    (h : quotedBody? q (escapesNext b) (p ++ t) = some (body, rest)) :
    ∃ body', quotedBody? q (escapesNext (b ++ p)) t = some (body', rest) := by
  induction p generalizing b body with
  | nil => exact ⟨body, by simpa using h⟩
  | cons c p ih =>
    rw [List.mem_cons, not_or] at hp
    rcases quotedBody?_rest hq h with ⟨hc, -⟩ | ⟨-, body', h'⟩
    · exact absurd hc.symm hp.1
    · simpa using ih hp.2 h'

end Body

/-! ### Bodies of tokens -/

/-- A text may stand between two quotation marks: every mark in it is escaped by the backslash right
before it, and it does not end inside of an escape. -/
structure IsQuotedBody (quote : Char) (body : Text) : Prop where
  escaped : ∀ s u, body = s ++ quote :: u → escapesNext s = true
  closed : escapesNext body = false

/-- The same where the text `b` was read before. -/
def IsQuotedBodyBehind (quote : Char) (b body : Text) : Prop :=
  (∀ s u, body = s ++ quote :: u → escapesNext (b ++ s) = true) ∧ escapesNext (b ++ body) = false

section Behind

variable {q : Char} {b body : Text}

theorem isQuotedBody_iff : IsQuotedBody q body ↔ IsQuotedBodyBehind q [] body :=
  ⟨fun h => ⟨h.escaped, h.closed⟩, fun h => ⟨h.1, h.2⟩⟩

theorem isQuotedBodyBehind_nil : IsQuotedBodyBehind q b [] ↔ escapesNext b = false := by
  simp [IsQuotedBodyBehind]

theorem isQuotedBodyBehind_cons {c : Char} :
    IsQuotedBodyBehind q b (c :: body) ↔
      (c = q → escapesNext b = true) ∧ IsQuotedBodyBehind q (b ++ [c]) body := by
  simp only [IsQuotedBodyBehind, forall_before_cons, List.append_nil, List.append_assoc,
    List.singleton_append, and_assoc]

end Behind

/-- What is read up to the closing mark is a body, and any body is read. -/
theorem quotedBody?_eq_some_iff {q : Char} (hq : q ≠ '\\') {b t body rest : Text} :
    quotedBody? q (escapesNext b) t = some (body, rest) ↔
      t = body ++ q :: rest ∧ IsQuotedBodyBehind q b body := by
  induction t generalizing b body with
  | nil => cases escapesNext b <;> simp [quotedBody?]
  | cons c t ih =>
    rw [quotedBody?_step hq]
    split_ifs with hcloses
    · obtain ⟨rfl, hplain⟩ := hcloses
      constructor
      · intro h
        cases h
        exact ⟨rfl, isQuotedBodyBehind_nil.2 hplain⟩
      · rintro ⟨heq, hbody⟩
        rcases body with _ | ⟨d, body⟩
        · cases heq
          rfl
        · obtain ⟨rfl, -⟩ := List.cons.inj heq
          rw [(isQuotedBodyBehind_cons.1 hbody).1 rfl] at hplain
          cases hplain
    · constructor
      · intro h
        obtain ⟨⟨body', rest'⟩, hread, heq⟩ := Option.map_eq_some_iff.1 h
        cases heq
        obtain ⟨rfl, hbody⟩ := ih.1 hread
        exact ⟨rfl, isQuotedBodyBehind_cons.2 ⟨by simpa using hcloses, hbody⟩⟩
      · rintro ⟨heq, hbody⟩
        rcases body with _ | ⟨d, body⟩
        · obtain ⟨rfl, -⟩ := List.cons.inj heq
          exact absurd ⟨rfl, isQuotedBodyBehind_nil.1 hbody⟩ hcloses
        · obtain ⟨rfl, rfl⟩ := List.cons.inj heq
          rw [ih.2 ⟨rfl, (isQuotedBodyBehind_cons.1 hbody).2⟩]
          rfl

/-- The marks that tokens stand in. -/
def quotationMarks : List Char := ['\'', '"']

theorem ne_backslash_of_mem {q : Char} (hq : q ∈ quotationMarks) : q ≠ '\\' := by
  rintro rfl
  exact absurd hq (by decide)

/-- A token is read just if a body stands between its marks. -/
theorem readQuoted?_eq_some_iff {t body rest : Text} :
    readQuoted? t = some (body, rest) ↔
      ∃ q ∈ quotationMarks, t = q :: (body ++ q :: rest) ∧ IsQuotedBody q body := by
  constructor
  · intro h
    rcases t with _ | ⟨q, t⟩
    · cases h
    · rw [readQuoted?] at h
      split_ifs at h with hq
      have hmark : q ∈ quotationMarks := by simpa [quotationMarks] using hq
      obtain ⟨rfl, hbody⟩ :=
        (quotedBody?_eq_some_iff (b := []) (ne_backslash_of_mem hmark)).1 h
      exact ⟨q, hmark, rfl, isQuotedBody_iff.2 hbody⟩
  · rintro ⟨q, hq, rfl, hbody⟩
    rw [readQuoted?, if_pos (by simpa [quotationMarks] using hq)]
    exact (quotedBody?_eq_some_iff (b := []) (ne_backslash_of_mem hq)).2
      ⟨rfl, isQuotedBody_iff.1 hbody⟩

/-! ### Units of a body -/

/-- What stands for one character in a body: a character that is neither the mark nor a backslash, or
a backslash with any character behind it. -/
inductive IsQuotedUnit (quote : Char) : Text → Prop
  | plain {c : Char} (isNoMark : c ≠ quote) (isNoBackslash : c ≠ '\\') : IsQuotedUnit quote [c]
  | escaped (c : Char) : IsQuotedUnit quote ['\\', c]

section Units

variable {q : Char}

/-- No unit is the beginning of another one. -/
theorem IsQuotedUnit.append_inj {u v s t : Text} (hu : IsQuotedUnit q u) (hv : IsQuotedUnit q v)
    (h : u ++ s = v ++ t) : u = v ∧ s = t := by
  cases hu with
  | plain _ hc =>
    cases hv with
    | plain => simpa using h
    | escaped => exact absurd (List.cons.inj h).1 hc
  | escaped =>
    cases hv with
    | plain _ hc => exact absurd (List.cons.inj h).1.symm hc
    | escaped => simpa using h

theorem IsQuotedUnit.ne_nil {u : Text} (hu : IsQuotedUnit q u) : u ≠ [] := by
  cases hu <;> simp

/-- A text is made of units in one way only. -/
theorem IsQuotedUnit.flatten_inj {us vs : List Text} (hus : ∀ u ∈ us, IsQuotedUnit q u)
    (hvs : ∀ v ∈ vs, IsQuotedUnit q v) (h : us.flatten = vs.flatten) : us = vs := by
  induction us generalizing vs with
  | nil =>
    rcases vs with _ | ⟨v, vs⟩
    · rfl
    · have hnil : v = [] := (List.append_eq_nil_iff.1 h.symm).1
      exact absurd hnil (hvs v (by simp)).ne_nil
  | cons u us ih =>
    obtain ⟨hu, hus⟩ := List.forall_mem_cons.1 hus
    rcases vs with _ | ⟨v, vs⟩
    · have hnil : u = [] := (List.append_eq_nil_iff.1 h).1
      exact absurd hnil hu.ne_nil
    · obtain ⟨hv, hrest⟩ := List.forall_mem_cons.1 hvs
      obtain ⟨rfl, heq⟩ := hu.append_inj hv h
      exact congrArg (u :: ·) (ih hus hrest heq)

/-- A body that is not empty begins with a unit. -/
theorem IsQuotedBodyBehind.exists_unit {b body : Text} (h : IsQuotedBodyBehind q b body)
    (hb : escapesNext b = false) (hne : body ≠ []) :
    ∃ u rest, IsQuotedUnit q u ∧ body = u ++ rest := by
  obtain ⟨c, body, rfl⟩ := List.exists_cons_of_ne_nil hne
  obtain ⟨hmark, hbehind⟩ := isQuotedBodyBehind_cons.1 h
  by_cases hc : c = '\\'
  · rcases body with _ | ⟨d, body⟩
    · -- the text would end inside of an escape
      have hclosed := isQuotedBodyBehind_nil.1 hbehind
      simp [hc, hb] at hclosed
    · exact ⟨['\\', d], body, .escaped d, by rw [hc]; rfl⟩
  · have hplain : c ≠ q := by
      intro heq
      rw [hmark heq] at hb
      cases hb
    exact ⟨[c], body, .plain hplain hc, rfl⟩

variable (hq : q ≠ '\\')
include hq

/-- A unit leaves the reader where it was: not inside of an escape. -/
theorem IsQuotedUnit.isQuotedBodyBehind_append {b u : Text} (hu : IsQuotedUnit q u)
    (hb : escapesNext b = false) (body : Text) :
    escapesNext (b ++ u) = false ∧
      (IsQuotedBodyBehind q b (u ++ body) ↔ IsQuotedBodyBehind q (b ++ u) body) := by
  cases hu with
  | plain hmark hslash => simp [isQuotedBodyBehind_cons, hmark, hslash]
  | escaped c =>
    have hopen : escapesNext (b ++ ['\\']) = true := by simp [hb]
    have hclosed : escapesNext ((b ++ ['\\']) ++ [c]) = false := by
      rw [escapesNext_concat, hopen]
      simp
    rw [List.append_assoc, List.singleton_append] at hclosed
    refine ⟨hclosed, ?_⟩
    simp [isQuotedBodyBehind_cons, hopen, Ne.symm hq]

/-- Bodies are the texts that are made of units. -/
theorem isQuotedBodyBehind_iff_units {b body : Text} (hb : escapesNext b = false) :
    IsQuotedBodyBehind q b body ↔
      ∃ us : List Text, (∀ u ∈ us, IsQuotedUnit q u) ∧ us.flatten = body := by
  constructor
  · intro h
    induction hlen : body.length using Nat.strong_induction_on generalizing b body with
    | _ n ih =>
      by_cases hne : body = []
      · exact ⟨[], by simp, hne.symm⟩
      · obtain ⟨u, rest, hu, rfl⟩ := h.exists_unit hb hne
        obtain ⟨hclosed, hiff⟩ := hu.isQuotedBodyBehind_append hq hb rest
        have hlt : rest.length < n := by
          have := List.length_pos_iff.2 hu.ne_nil
          rw [← hlen, List.length_append]
          omega
        obtain ⟨us, hus, rfl⟩ := ih _ hlt hclosed (hiff.1 h) rfl
        exact ⟨u :: us, List.forall_mem_cons.2 ⟨hu, hus⟩, rfl⟩
  · rintro ⟨us, hus, rfl⟩
    induction us generalizing b with
    | nil => exact isQuotedBodyBehind_nil.2 hb
    | cons u us ih =>
      obtain ⟨hu, hus⟩ := List.forall_mem_cons.1 hus
      obtain ⟨hclosed, hiff⟩ := hu.isQuotedBodyBehind_append hq hb us.flatten
      exact hiff.2 (ih hclosed hus)

end Units

/-! ### Tokens -/

/-- A token taken apart: its mark and the units of its body. -/
structure QuotedToken where
  /-- The mark at both ends. -/
  mark : Char
  /-- The units between them. -/
  units : List Text
  isMark : mark ∈ quotationMarks
  areUnits : ∀ u ∈ units, IsQuotedUnit mark u

namespace QuotedToken

/-- What stands between the marks. -/
def body (token : QuotedToken) : Text := token.units.flatten

/-- The token as it is written. -/
def text (token : QuotedToken) : Text := token.mark :: (token.body ++ [token.mark])

theorem readQuoted?_append (token : QuotedToken) (rest : Text) :
    readQuoted? (token.text ++ rest) = some (token.body, rest) := by
  have hbody := (isQuotedBodyBehind_iff_units (b := []) (ne_backslash_of_mem token.isMark) rfl).2
    ⟨token.units, token.areUnits, rfl⟩
  exact readQuoted?_eq_some_iff.2
    ⟨token.mark, token.isMark, by simp [text, body], isQuotedBody_iff.2 hbody⟩

/-- Where a token ends, and which it is, can be seen from the text. -/
theorem text_append_inj {token token' : QuotedToken} {rest rest' : Text}
    (h : token.text ++ rest = token'.text ++ rest') : token = token' ∧ rest = rest' := by
  have hread := token.readQuoted?_append rest
  rw [h, readQuoted?_append, Option.some.injEq, Prod.mk.injEq] at hread
  obtain ⟨mark, units, isMark, areUnits⟩ := token
  obtain ⟨mark', units', isMark', areUnits'⟩ := token'
  obtain rfl : mark = mark' := (List.cons.inj h).1
  obtain rfl : units = units' := IsQuotedUnit.flatten_inj areUnits areUnits' hread.1.symm
  exact ⟨rfl, hread.2.symm⟩

end QuotedToken

/-- What is read is a token at the start of the text. -/
theorem exists_quotedToken_of_readQuoted? {t body rest : Text}
    (h : readQuoted? t = some (body, rest)) :
    ∃ token : QuotedToken, t = token.text ++ rest ∧ token.body = body := by
  obtain ⟨q, hq, rfl, hbody⟩ := readQuoted?_eq_some_iff.1 h
  obtain ⟨us, hus, rfl⟩ := (isQuotedBodyBehind_iff_units (b := []) (ne_backslash_of_mem hq) rfl).1
    (isQuotedBody_iff.1 hbody)
  exact ⟨⟨q, us, hq, hus⟩, by simp [QuotedToken.text, QuotedToken.body], rfl⟩

/-- **Reading a token is exact.**  A body and a rest are read just if the text is a token with this
body and that rest; a text begins with one token at most, which has one decomposition into units;
and nothing is read just if the text begins with no token. -/
theorem readQuoted?_exact (t : Text) :
    (∀ body rest, readQuoted? t = some (body, rest) ↔
      ∃ token : QuotedToken, t = token.text ++ rest ∧ token.body = body) ∧
    (∀ (token token' : QuotedToken) (rest rest' : Text),
      t = token.text ++ rest → t = token'.text ++ rest' → token = token' ∧ rest = rest') ∧
    (readQuoted? t = none ↔ ¬∃ (token : QuotedToken) (rest : Text), t = token.text ++ rest) := by
  refine ⟨fun body rest => ⟨exists_quotedToken_of_readQuoted?, ?_⟩, ?_, ?_⟩
  · rintro ⟨token, rfl, rfl⟩
    exact token.readQuoted?_append rest
  · intro token token' rest rest' h h'
    exact QuotedToken.text_append_inj (h.symm.trans h')
  · constructor
    · rintro h ⟨token, rest, rfl⟩
      rw [token.readQuoted?_append] at h
      cases h
    · intro h
      rcases hread : readQuoted? t with _ | ⟨body, rest⟩
      · rfl
      · obtain ⟨token, htext, -⟩ := exists_quotedToken_of_readQuoted? hread
        exact absurd ⟨token, rest, htext⟩ h

/-- A token with an escaped mark in it. -/
def tokenWithEscape : QuotedToken where
  mark := '\''
  units := [['a'], ['\\', '\''], ['b']]
  isMark := by decide
  areUnits := by
    rw [List.forall_mem_cons, List.forall_mem_cons, List.forall_mem_singleton]
    exact ⟨.plain (by decide) (by decide), .escaped _, .plain (by decide) (by decide)⟩

theorem readQuoted?_exact_escape :
    let t : Text := "'a\\'b', 'c'"
    let body : Text := "a\\'b"
    let rest : Text := ", 'c'"
    t = tokenWithEscape.text ++ rest ∧ readQuoted? t = some (body, rest) ∧
      ∀ (token : QuotedToken) (rest' : Text),
        t = token.text ++ rest' → tokenWithEscape = token ∧ rest = rest' := by
  intro t body rest
  have htext : t = tokenWithEscape.text ++ rest := by decide
  have hbody : tokenWithEscape.body = body := by decide
  obtain ⟨hread, hunique, -⟩ := readQuoted?_exact t
  exact ⟨htext, (hread body rest).2 ⟨tokenWithEscape, htext, hbody⟩,
    fun token rest' => hunique tokenWithEscape token rest rest' htext⟩

end ContentBlocker.Text
