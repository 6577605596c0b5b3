import ContentBlocker.Filter.Dialect
import ContentBlocker.Proofs.Text.Searching
import ContentBlocker.Proofs.Text.Words

/-!
# Snippets as they are written

A rule of snippets holds calls, which semicolons separate, and a call holds words, which blanks
separate.  A word in single quotes may hold both.

* `SnippetCall` is a call, and `WritesBody` says of a text that it writes some calls, with any blanks
  and empty statements between;
* `WritesWords.words_eq` reads the words of one call again, and `WritesStatement.isClosed` says that
  no quotation mark in it is left open;
* `WritesBody.snippets_eq` reads a whole body again;
* `snippets?_written` says it of a rule.
-/

namespace ContentBlocker.Dialect

open Text

/-! ### Calls -/

/-- A word that is written as it is. -/
structure BareWord where
  text : Text
  ne_nil : text ≠ []
  noBlank : ∀ c ∈ text, isBlank c = false
  noSemicolon : ';' ∉ text
  noQuote : '\'' ∉ text

/-- A text as a bare word, if its characters may stand in one. -/
def BareWord.ofText (text : Text) (ne_nil : text ≠ [])
    (h : (text.all fun c => !isBlank c && c ≠ ';' && c ≠ '\'') = true) : BareWord :=
  have hall : ∀ c ∈ text, isBlank c = false ∧ c ≠ ';' ∧ c ≠ '\'' := by simpa [and_assoc] using h
  ⟨text, ne_nil, fun c hc => (hall c hc).1, fun hc => (hall _ hc).2.1 rfl,
    fun hc => (hall _ hc).2.2 rfl⟩

/-- A word of a snippet: one that is written as it is, or one in quotation marks. -/
inductive SnippetWord where
  | bare (w : BareWord)
  | quoted (t : Text) (noQuote : '\'' ∉ t)

/-- A call of a snippet. -/
structure SnippetCall where
  name : BareWord
  args : List SnippetWord

namespace SnippetWord

/-- The word itself. -/
def value : SnippetWord → Text
  | bare w => w.text
  | quoted t _ => t

/-- The word as it is written. -/
def written : SnippetWord → Text
  | bare w => w.text
  | quoted t _ => '\'' :: (t ++ ['\''])

theorem written_ne_nil (w : SnippetWord) : w.written ≠ [] := by
  cases w with
  | bare w => exact w.ne_nil
  | quoted t _ => exact List.cons_ne_nil _ _

theorem head?_written (w : SnippetWord) : ∀ c ∈ w.written.head?, isBlank c = false := by
  cases w with
  | bare w => exact fun c hc => w.noBlank c (List.mem_of_head? hc)
  | quoted t _ =>
    intro c hc
    cases hc
    decide

theorem getLast?_written (w : SnippetWord) : ∀ c ∈ w.written.getLast?, isBlank c = false := by
  cases w with
  | bare w => exact fun c hc => w.noBlank c (List.mem_of_getLast? hc)
  | quoted t _ =>
    intro c hc
    rw [written, List.getLast?_cons, List.getLast?_concat] at hc
    cases hc
    decide

theorem isClosed_written (w : SnippetWord) : IsClosed ';' '\'' w.written := by
  cases w with
  | bare w => exact isClosed_of_notMem w.noSemicolon w.noQuote
  | quoted t h => exact isClosed_quoted h

/-- A word is read again, if a blank or nothing follows. -/
theorem words_written_append (w : SnippetWord) {t : Text} (ht : ∀ c ∈ t.head?, isBlank c = true) :
    words (w.written ++ t) = w.value :: words t := by
  cases w with
  | bare w =>
    exact words_bare_append w.ne_nil w.noBlank (fun h => w.noQuote (List.mem_of_head? h)) ht
  | quoted u h => simpa [written, value] using words_quoted_append h t

end SnippetWord

/-- The words of a call. -/
def SnippetCall.words (call : SnippetCall) : List SnippetWord := .bare call.name :: call.args

/-- The rule that a call stands for. -/
def SnippetCall.rule (domains : Text) (isException : Bool) (call : SnippetCall) : Text :=
  scriptletRule domains isException ("abp-".toList ++ call.name.text)
    (call.args.map SnippetWord.value)

/-! ### Calls as they are written -/

/-- The text writes some words with blanks between them. -/
inductive WritesWords : List SnippetWord → Text → Prop
  | last (w : SnippetWord) : WritesWords [w] w.written
  | cons (w : SnippetWord) {ws : List SnippetWord} {gap rest : Text} (ne_nil : gap ≠ [])
      (blank : IsGap gap) (writes : WritesWords ws rest) :
      WritesWords (w :: ws) (w.written ++ (gap ++ rest))

/-- The text writes one call, perhaps with blanks around it, or it is an empty statement. -/
inductive WritesStatement : List SnippetCall → Text → Prop
  | empty {gap : Text} (blank : IsGap gap) : WritesStatement [] gap
  | call {call : SnippetCall} {before text after : Text} (blankBefore : IsGap before)
      (writes : WritesWords call.words text) (blankAfter : IsGap after) :
      WritesStatement [call] (before ++ text ++ after)

/-- The text writes some calls with semicolons between the statements. -/
inductive WritesBody : List SnippetCall → Text → Prop
  | last {calls : List SnippetCall} {t : Text} (writes : WritesStatement calls t) :
      WritesBody calls t
  | cons {calls more : List SnippetCall} {t u : Text} (writes : WritesStatement calls t)
      (writesMore : WritesBody more u) : WritesBody (calls ++ more) (t ++ ';' :: u)

/-- No semicolon and no quotation mark is a blank. -/
theorem isClosed_blanks {gap : Text} (h : IsGap gap) : IsClosed ';' '\'' gap :=
  isClosed_gap (by decide) (by decide) h

namespace WritesWords

variable {ws : List SnippetWord} {t : Text}

theorem ne_nil (h : WritesWords ws t) : t ≠ [] := by
  cases h with
  | last w => exact w.written_ne_nil
  | cons w => exact List.append_ne_nil_of_left_ne_nil w.written_ne_nil _

theorem head?_eq (h : WritesWords ws t) : ∀ c ∈ t.head?, isBlank c = false := by
  cases h with
  | last w => exact w.head?_written
  | cons w =>
    rw [List.head?_append_of_ne_nil _ w.written_ne_nil]
    exact w.head?_written

theorem getLast?_eq (h : WritesWords ws t) : ∀ c ∈ t.getLast?, isBlank c = false := by
  induction h with
  | last w => exact w.getLast?_written
  | cons w _ _ h ih =>
    rw [← List.append_assoc, List.getLast?_append_of_ne_nil _ h.ne_nil]
    exact ih

theorem isClosed (h : WritesWords ws t) : IsClosed ';' '\'' t := by
  induction h with
  | last w => exact w.isClosed_written
  | cons w _ blank _ ih =>
    exact w.isClosed_written.append ((isClosed_blanks blank).append ih)

/-- The words are read again. -/
theorem words_eq (h : WritesWords ws t) : words t = ws.map SnippetWord.value := by
  induction h with
  | last w =>
    have hw := w.words_written_append (t := []) (by simp)
    rwa [List.append_nil] at hw
  | cons w ne_nil blank _ ih =>
    rw [w.words_written_append, words_gap_append blank, ih, List.map_cons]
    rw [List.head?_append_of_ne_nil _ ne_nil]
    exact fun c hc => blank c (List.mem_of_head? hc)

end WritesWords

namespace WritesStatement

variable {calls : List SnippetCall} {t : Text}

theorem isClosed (h : WritesStatement calls t) : IsClosed ';' '\'' t := by
  cases h with
  | empty blank => exact isClosed_blanks blank
  | call blankBefore writes blankAfter =>
    have hfront := (isClosed_blanks blankBefore).append writes.isClosed
    exact hfront.append (isClosed_blanks blankAfter)

/-- The call of a statement is read again. -/
theorem snippets_eq (h : WritesStatement calls t) (domains : Text) (isException : Bool) :
    (splitOutsideQuotes ';' '\'' t).filterMap (snippet? domains isException) =
      calls.map (SnippetCall.rule domains isException) := by
  rw [splitOutsideQuotes_of_isClosed h.isClosed]
  cases h with
  | empty blank =>
    rw [trim_eq_nil_iff.2 blank]
    rfl
  | call blankBefore writes blankAfter =>
    rw [List.append_assoc, trim_between_gaps blankBefore blankAfter,
      trim_eq_self writes.head?_eq writes.getLast?_eq]
    simp [writes.ne_nil, snippet?, writes.words_eq, SnippetCall.words, SnippetCall.rule,
      SnippetWord.value]

end WritesStatement

/-- The calls of a body are read again. -/
theorem WritesBody.snippets_eq {calls : List SnippetCall} {t : Text} (h : WritesBody calls t)
    (domains : Text) (isException : Bool) :
    (splitOutsideQuotes ';' '\'' t).filterMap (snippet? domains isException) =
      calls.map (SnippetCall.rule domains isException) := by
  induction h with
  | last writes => exact writes.snippets_eq domains isException
  | cons writes _ ih =>
    rw [splitOutsideQuotes_append_delimiter (by decide) writes.isClosed, List.filterMap_append,
      writes.snippets_eq, ih, List.map_append]

/-! ### Rules -/

/-- The sign of snippets. -/
def snippetSign (isException : Bool) : Text := if isException then "#@$#" else "#$#"

/-- A rule is split at its sign, if none stands in the domains and the sign of exceptions is not
behind the other one. -/
theorem splitAtSign?_snippetSign {domains body : Text} {isException : Bool} (hd : '#' ∉ domains)
    (hsign : isException = true →
      ¬"#$#".toList <:+: domains ++ (snippetSign isException ++ body)) :
    splitAtSign? "#$#" "#@$#" (domains ++ (snippetSign isException ++ body)) =
      some (domains, isException, body) := by
  have hhead : ∀ c ∈ domains, some '#' ≠ some c := by
    rintro c hc h
    cases h
    exact hd hc
  have hfirst := isFirst_append (p := snippetSign isException) (by cases isException <;> decide)
    (s := domains) (by cases isException <;> exact hhead) body
  cases isException with
  | false =>
    rw [splitAtSign?, show cut? "#$#" _ = _ from hfirst.cut?_eq]
  | true =>
    rw [splitAtSign?, cut?_eq_none_iff.2 (hsign rfl), show cut? "#@$#" _ = _ from hfirst.cut?_eq]
    rfl

/-- **Snippets are read as they are written.**  Take a rule whose domains hold no `#`, and whose body
writes some calls: words with blanks between them, in statements with semicolons between them, of
which some may be empty.  If the rule applies no style, and holds no other sign of snippets in case
it is an exception, it stands for one rule for each call, in order, with its domains, its name and
all its arguments. -/
theorem snippets?_written {domains body : Text} {isException : Bool} {calls : List SnippetCall}
    (hd : '#' ∉ domains) (hne : calls ≠ []) (hbody : WritesBody calls body)
    (hstyle : isStyleRule (domains ++ (snippetSign isException ++ body)) = false)
    (hsign : isException = true →
      ¬"#$#".toList <:+: domains ++ (snippetSign isException ++ body)) :
    snippets? (domains ++ (snippetSign isException ++ body)) =
      some (calls.map fun call =>
        scriptletRule domains isException ("abp-".toList ++ call.name.text)
          (call.args.map SnippetWord.value)) := by
  obtain ⟨call, calls, rfl⟩ := List.exists_cons_of_ne_nil hne
  rw [snippets?, splitAtSign?_snippetSign hd hsign]
  simp only [hstyle, hbody.snippets_eq, List.map_cons]
  rfl

/-- Two calls with the separators in arguments, an empty argument and an empty statement. -/
theorem snippets?_written_separators :
    snippets? "a.org#@$#log  'x; y' '' ; ;hide .ad".toList =
      some ["a.org#@%#//scriptlet(\"abp-log\", \"x; y\", \"\")".toList,
        "a.org#@%#//scriptlet(\"abp-hide\", \".ad\")".toList] := by
  let log := BareWord.ofText "log" (by decide) (by decide)
  let hide := BareWord.ofText "hide" (by decide) (by decide)
  let ad := BareWord.ofText ".ad" (by decide) (by decide)
  let xy : SnippetWord := .quoted "x; y" (by decide)
  let nothing : SnippetWord := .quoted [] (by decide)
  have hnone : IsGap [] := List.all_eq_true.1 rfl
  have hone : IsGap [' '] := List.all_eq_true.1 rfl
  have htwo : IsGap [' ', ' '] := List.all_eq_true.1 rfl
  have hlog : WritesWords (SnippetCall.words ⟨log, [xy, nothing]⟩) "log  'x; y' ''".toList :=
    .cons (.bare log) (by decide) htwo (.cons xy (by decide) hone (.last nothing))
  have hhide : WritesWords (SnippetCall.words ⟨hide, [.bare ad]⟩) "hide .ad".toList :=
    .cons (.bare hide) (by decide) hone (.last (.bare ad))
  have hfirst : WritesStatement [⟨log, [xy, nothing]⟩] "log  'x; y' '' ".toList :=
    .call hnone hlog hone
  have hlast : WritesStatement [⟨hide, [.bare ad]⟩] "hide .ad".toList := .call hnone hhide hnone
  have hbody : WritesBody [⟨log, [xy, nothing]⟩, ⟨hide, [.bare ad]⟩]
      "log  'x; y' '' ; ;hide .ad".toList :=
    .cons hfirst (.cons (.empty hone) (.last hlast))
  have hstyle : isStyleRule ("a.org".toList ++ (snippetSign true ++
      "log  'x; y' '' ; ;hide .ad".toList)) = false := by
    decide +kernel
  exact snippets?_written (by decide) (by simp) hbody hstyle (by decide)

end ContentBlocker.Dialect
