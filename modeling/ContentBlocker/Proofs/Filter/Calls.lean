import ContentBlocker.Filter.Line
import ContentBlocker.Proofs.Filter.CallSyntax
import ContentBlocker.Proofs.Filter.Marks

/-!
# Reading scriptlet rules of other dialects

A scriptlet rule of another dialect is rewritten with its name and arguments in quotation marks, and
read again.  The writer puts a backslash before every quotation mark and nothing before a backslash,
while the reader takes every backslash for an escape.

* `IsQuotable` says that the two agree on a text;
* `opened` and `others` are what follows the opening and the closing quotation mark of an argument;
* `quotedBody?_opened` reads an argument on which they agree, and `isOpened_of_quotedBody?` tells
  where the reader stands behind any other one: inside of an argument, as if it were between two;
* `IsOpened.readTokens?_eq_none`: from there nothing can be read;
* `scriptletRule_read` says when a written rule is read again, and how.
-/

namespace ContentBlocker.Dialect

open Text ScriptletCall

/-! ### Texts on which writer and reader agree -/

/-- Every quotation mark in the text, and the one that closes it, stands behind an even number of
backslashes. -/
def IsQuotable (t : Text) : Prop := ∀ s u, t ++ ['"'] = s ++ '"' :: u → escapesNext s = false

/-- The same where the text `b` was read before. -/
def IsQuotableBehind (b t : Text) : Prop :=
  ∀ s u, t ++ ['"'] = s ++ '"' :: u → escapesNext (b ++ s) = false

theorem isQuotable_iff {t : Text} : IsQuotable t ↔ IsQuotableBehind [] t := Iff.rfl

theorem isQuotableBehind_nil {b : Text} : IsQuotableBehind b [] ↔ escapesNext b = false := by
  constructor
  · intro h
    simpa using h [] [] rfl
  · intro h s u hs
    obtain ⟨rfl, -⟩ : s = [] ∧ u = [] := by
      rcases s with _ | ⟨c, s⟩ <;> simp_all
    simpa using h

theorem isQuotableBehind_cons {b t : Text} {c : Char} :
    IsQuotableBehind b (c :: t) ↔
      (c = '"' → escapesNext b = false) ∧ IsQuotableBehind (b ++ [c]) t := by
  simp only [IsQuotableBehind, List.cons_append, forall_before_cons, List.append_nil,
    List.append_assoc, List.nil_append]

/-! ### Written arguments -/

/-- What follows the closing quotation mark of an argument: the other ones. -/
def others : List Text → Text
  | [] => []
  | v :: vs => ',' :: ' ' :: '"' :: (escapeQuotes v ++ '"' :: others vs)

/-- What follows the opening quotation mark of an argument: the argument and the other ones. -/
def opened (w : Text) (vs : List Text) : Text := escapeQuotes w ++ '"' :: others vs

theorem opened_nil (vs : List Text) : opened [] vs = '"' :: others vs := rfl

theorem opened_quote_cons (w : Text) (vs : List Text) :
    opened ('"' :: w) vs = '\\' :: '"' :: opened w vs := rfl

theorem opened_cons {c : Char} (hc : c ≠ '"') (w : Text) (vs : List Text) :
    opened (c :: w) vs = c :: opened w vs := by
  rw [opened, escapeQuotes_cons hc, List.cons_append, opened]

theorem intercalate_quoteArg (w : Text) (vs : List Text) :
    [',', ' '].intercalate (quoteArg w :: vs.map quoteArg) = '"' :: opened w vs := by
  induction vs generalizing w with
  | nil => simp [quoteArg_eq, opened, others]
  | cons v vs ih =>
    rw [List.map_cons, List.intercalate_cons_cons, ih v, quoteArg_eq]
    simp [opened, others]

/-- A reader stands inside of an argument. -/
def IsOpened (t : Text) : Prop := ∃ w vs, t = opened w vs

theorem isOpened_opened (w : Text) (vs : List Text) : IsOpened (opened w vs) := ⟨w, vs, rfl⟩

theorem IsOpened.trimStart {t : Text} (h : IsOpened t) : IsOpened (trimStart t) := by
  obtain ⟨w, vs, rfl⟩ := h
  induction w with
  | nil => exact isOpened_opened [] vs
  | cons c w ih =>
    by_cases hc : c = '"'
    · rw [hc]
      exact isOpened_opened ('"' :: w) vs
    · rw [opened_cons hc]
      by_cases hb : isBlank c = true
      · rw [Text.trimStart, List.dropWhile_cons_of_pos hb]
        exact ih
      · rw [Text.trimStart, List.dropWhile_cons_of_neg hb, ← opened_cons hc]
        exact isOpened_opened (c :: w) vs

theorem IsOpened.ne_nil {t : Text} (h : IsOpened t) : t ≠ [] := by
  obtain ⟨w, vs, rfl⟩ := h
  simp [opened]

theorem IsOpened.of_comma {t : Text} (h : IsOpened (',' :: t)) : IsOpened t := by
  obtain ⟨_ | ⟨c, w⟩, vs, h⟩ := h
  · cases h
  · by_cases hc : c = '"'
    · rw [hc, opened_quote_cons] at h
      cases h
    · rw [opened_cons hc] at h
      cases h
      exact isOpened_opened w vs

/-! ### Reading one argument -/

/-- For what follows, a written quotation mark counts like a plain one. -/
theorem escapesNext_writtenMark (b : Text) :
    escapesNext (b ++ ['\\'] ++ ['"']) = escapesNext (b ++ ['"']) := by
  rw [escapesNext_concat _ '"', escapesNext_concat b '"']
  rfl

/-- Where writer and reader agree, the whole argument is read. -/
theorem quotedBody?_opened {b w : Text} (h : IsQuotableBehind b w) (vs : List Text) :
    quotedBody? '"' (escapesNext b) (opened w vs) = some (escapeQuotes w, others vs) := by
  induction w generalizing b with
  | nil =>
    rw [opened_nil, quotedBody?_step (by decide), if_pos ⟨rfl, isQuotableBehind_nil.1 h⟩]
    rfl
  | cons c w ih =>
    obtain ⟨hmark, hw⟩ := isQuotableBehind_cons.1 h
    by_cases hc : c = '"'
    · -- behind an even number of backslashes, that of the writer escapes the mark
      subst hc
      have hescaped : escapesNext (b ++ ['\\']) = true := by simp [hmark rfl]
      rw [opened_quote_cons, quotedBody?_step (by decide), if_neg (by simp),
        quotedBody?_step (by decide), if_neg (by simp [hescaped]), escapesNext_writtenMark, ih hw]
      rfl
    · rw [opened_cons hc, quotedBody?_step (by decide), if_neg (by simp [hc]), ih hw,
        escapeQuotes_cons hc]
      rfl

/-- If the closing quotation mark is escaped, the argument goes on up to the opening mark of the
next one. -/
theorem isOpened_of_quotedBody?_others {vs : List Text} {body rest : Text}
    (h : quotedBody? '"' false (others vs) = some (body, rest)) : IsOpened rest := by
  cases vs with
  | nil => cases h
  | cons v vs =>
    cases h
    exact isOpened_opened v vs

/-- Where writer and reader do not agree, the reader stops inside of an argument: behind a quotation
mark in it, or behind the opening mark of the next one. -/
theorem isOpened_of_quotedBody? {b w : Text} {vs : List Text} {body rest : Text}
    (h : ¬IsQuotableBehind b w)
    (hread : quotedBody? '"' (escapesNext b) (opened w vs) = some (body, rest)) :
    IsOpened rest := by
  induction w generalizing b body with
  | nil =>
    rcases quotedBody?_rest (by decide) hread with ⟨-, hplain, -⟩ | ⟨-, body', hrest⟩
    · exact absurd (isQuotableBehind_nil.2 hplain) h
    · exact isOpened_of_quotedBody?_others (by simpa using hrest)
  | cons c w ih =>
    rw [isQuotableBehind_cons, not_and_or] at h
    by_cases hc : c = '"'
    · -- behind an odd number of backslashes, that of the writer is escaped, and the mark closes
      subst hc
      obtain ⟨body', hmark⟩ := quotedBody?_skip (p := ['\\']) (by decide) (by decide) hread
      rcases quotedBody?_rest (by decide) hmark with ⟨-, -, rfl⟩ | ⟨hescaped, body'', hrest⟩
      · exact isOpened_opened w vs
      · have hplain : escapesNext b = false := by simpa using hescaped rfl
        rw [escapesNext_writtenMark] at hrest
        exact ih (h.resolve_left (by simp [hplain])) hrest
    · rw [opened_cons hc] at hread
      obtain ⟨body', hrest⟩ :=
        quotedBody?_skip (p := [c]) (by decide) (by simpa using Ne.symm hc) hread
      exact ih (h.resolve_left (by simp [hc])) hrest

/-- A single quote can only stand in an argument, so that a token in single quotes that begins in
one ends in one. -/
theorem isOpened_of_singleQuoted : ∀ (w : Text) (vs : List Text) {b body rest : Text},
    quotedBody? '\'' (escapesNext b) (opened w vs) = some (body, rest) → IsOpened rest
  | [], [], b, _, _, h => by
    obtain ⟨body', h'⟩ := quotedBody?_skip (p := ['"']) (t := []) (by decide) (by decide) h
    simp [quotedBody?] at h'
  | [], v :: vs, b, _, _, h => by
    obtain ⟨body', h'⟩ :=
      quotedBody?_skip (p := ['"', ',', ' ', '"']) (t := opened v vs) (by decide) (by decide) h
    exact isOpened_of_singleQuoted v vs h'
  | c :: w, vs, b, _, _, h => by
    by_cases hc : c = '"'
    · subst hc
      obtain ⟨body', h'⟩ :=
        quotedBody?_skip (p := ['\\', '"']) (t := opened w vs) (by decide) (by decide) h
      exact isOpened_of_singleQuoted w vs h'
    · rw [opened_cons hc] at h
      rcases quotedBody?_rest (by decide) h with ⟨-, -, rfl⟩ | ⟨-, body', h'⟩
      · exact isOpened_opened w vs
      · exact isOpened_of_singleQuoted w vs h'
termination_by w vs => (vs.length, w.length)

/-- Whatever token begins inside of an argument ends inside of one. -/
theorem IsOpened.of_readQuoted? {t body rest : Text} (h : IsOpened t)
    (hread : readQuoted? t = some (body, rest)) : IsOpened rest := by
  obtain ⟨_ | ⟨c, w⟩, vs, rfl⟩ := h
  · exact isOpened_of_quotedBody?_others hread
  · by_cases hc : c = '"'
    · subst hc
      cases hread
    · rw [opened_cons hc, readQuoted?] at hread
      split_ifs at hread with hq
      obtain rfl := hq.resolve_right hc
      exact isOpened_of_singleQuoted w vs (b := []) hread

/-! ### Reading all arguments -/

theorem IsOpened.of_behindToken? {t rest : Text} (h : IsOpened t)
    (hbehind : behindToken? t = some rest) : IsOpened rest := by
  rcases behindToken?_cases hbehind with ⟨hgap, -⟩ | ⟨before, more, hbefore, rfl, rfl⟩
  · exact absurd (trimStart_eq_nil_iff.2 hgap) h.trimStart.ne_nil
  · have ht := h.trimStart
    rw [trimStart_gap_append hbefore] at ht
    exact ht.of_comma.trimStart

/-- Inside of an argument nothing can be read, as the last closing mark opens a token. -/
theorem IsOpened.readTokens?_eq_none {t : Text} (h : IsOpened t) : readTokens? t = none := by
  induction t using round?_wellFounded.induction with
  | _ t ih =>
    rw [readTokens?_eq, if_neg h.ne_nil, Option.bind_eq_none_iff]
    intro ⟨body, rest⟩ hround
    -- the round ends inside of an argument again
    obtain ⟨after, hread, hbehind⟩ := round?_eq_some_iff.1 hround
    rw [ih rest ⟨body, hround⟩ ((h.of_readQuoted? hread).of_behindToken? hbehind), Option.map_none]

theorem readQuoted?_opened {w : Text} (h : IsQuotable w) (vs : List Text) :
    readQuoted? ('"' :: opened w vs) = some (escapeQuotes w, others vs) :=
  quotedBody?_opened (isQuotable_iff.1 h) vs

/-- If writer and reader agree on the first argument, it is read, and the others are to be read
behind it. -/
theorem round?_opened {w : Text} (h : IsQuotable w) (vs : List Text) {rest : Text}
    (hrest : behindToken? (others vs) = some rest) :
    round? ('"' :: opened w vs) = some (escapeQuotes w, rest) :=
  round?_eq_some_iff.2 ⟨others vs, readQuoted?_opened h vs, hrest⟩

theorem behindToken?_others_cons (v : Text) (vs : List Text) :
    behindToken? (others (v :: vs)) = some ('"' :: opened v vs) := rfl

/-- If writer and reader agree on all arguments, these are read. -/
theorem readTokens?_of_isQuotable {w : Text} {vs : List Text}
    (h : ∀ v ∈ w :: vs, IsQuotable v) :
    readTokens? ('"' :: opened w vs) = some ((w :: vs).map escapeQuotes) := by
  induction vs generalizing w with
  | nil =>
    rw [readTokens?_of_round? (round?_opened (h w List.mem_cons_self) [] rfl), readTokens?_nil]
    rfl
  | cons v vs ih =>
    rw [List.forall_mem_cons] at h
    rw [readTokens?_of_round? (round?_opened h.1 _ (behindToken?_others_cons v vs)), ih h.2]
    rfl

/-- If they do not agree on the first one, the reader loses its place. -/
theorem readTokens?_of_not_isQuotable {w : Text} (h : ¬IsQuotable w) (vs : List Text) :
    readTokens? ('"' :: opened w vs) = none := by
  rw [readTokens?_eq, if_neg (List.cons_ne_nil _ _), Option.bind_eq_none_iff]
  intro ⟨body, rest⟩ hround
  obtain ⟨after, hread, hbehind⟩ := round?_eq_some_iff.1 hround
  have hafter : IsOpened after := isOpened_of_quotedBody? (isQuotable_iff.not.1 h) hread
  rw [(hafter.of_behindToken? hbehind).readTokens?_eq_none, Option.map_none]

/-- If they do not agree on one of them, nothing is read. -/
theorem readTokens?_of_exists {w : Text} {vs : List Text} (h : ∃ v ∈ w :: vs, ¬IsQuotable v) :
    readTokens? ('"' :: opened w vs) = none := by
  induction vs generalizing w with
  | nil =>
    obtain ⟨v, hv, hne⟩ := h
    obtain rfl := List.mem_singleton.1 hv
    exact readTokens?_of_not_isQuotable hne []
  | cons v vs ih =>
    by_cases hw : IsQuotable w
    · have hvs : ∃ u ∈ v :: vs, ¬IsQuotable u := by simpa [hw] using h
      rw [readTokens?_of_round? (round?_opened hw _ (behindToken?_others_cons v vs)), ih hvs,
        Option.map_none]
    · exact readTokens?_of_not_isQuotable hw (v :: vs)

/-! ### Reading a rule -/

/-- The call in a scriptlet rule. -/
def callOf (name : Text) (args : List Text) : Text :=
  ScriptletCall.start ++ ('"' :: opened name args ++ [')'])

theorem start_isPrefixOf_callOf (name : Text) (args : List Text) :
    ScriptletCall.start.isPrefixOf (callOf name args) = true :=
  List.isPrefixOf_iff_prefix.2 (List.prefix_append _ _)

theorem inner?_callOf (name : Text) (args : List Text) :
    inner? (callOf name args) = some ('"' :: opened name args) := by
  have hend : trimEnd ('"' :: opened name args ++ [')']) = '"' :: opened name args ++ [')'] := by
    simp [trimEnd, isBlank]
  rw [inner?, callOf, stripStart?_append, Option.bind_some, hend, stripEnd?_append]

/-- A call on whose arguments writer and reader agree is read. -/
theorem read_callOf {name : Text} {args : List Text} (hn : name ≠ [])
    (h : ∀ w ∈ name :: args, IsQuotable w) :
    ScriptletCall.read (callOf name args) =
      .ok ⟨escapeQuotes name, args.map escapeQuotes⟩ := by
  obtain ⟨c, rest, hname⟩ : ∃ c rest, escapeQuotes name = c :: rest := by
    obtain ⟨c, name, rfl⟩ := List.exists_cons_of_ne_nil hn
    by_cases hc : c = '"'
    · exact ⟨_, _, hc ▸ escapeQuotes_quote_cons name⟩
    · exact ⟨_, _, escapeQuotes_cons hc name⟩
  have htokens : (inner? (callOf name args)).bind (fun inner => readTokens? (trimStart inner)) =
      some ((c :: rest) :: args.map escapeQuotes) := by
    rw [inner?_callOf, Option.bind_some, ← hname]
    exact readTokens?_of_isQuotable h
  rw [ScriptletCall.read, htokens, hname]

/-- Any other call is refused. -/
theorem read_callOf_of_exists {name : Text} {args : List Text}
    (h : ∃ w ∈ name :: args, ¬IsQuotable w) :
    ScriptletCall.read (callOf name args) = .error (.invalidScriptlet (callOf name args)) := by
  have htokens :
      (inner? (callOf name args)).bind (fun inner => readTokens? (trimStart inner)) = none := by
    rw [inner?_callOf, Option.bind_some]
    exact readTokens?_of_exists h
  rw [ScriptletCall.read, htokens]

/-- The marker of scriptlet rules. -/
def scriptletMarker (isException : Bool) : Marker :=
  { text := if isException then "#@%#".toList else "#%#".toList
    kind := .script, isException, isExtended := false, isInjection := false }

theorem scriptletSign_eq (isException : Bool) :
    scriptletSign isException = (scriptletMarker isException).text ++ ScriptletCall.start := by
  cases isException <;> rfl

theorem scriptletRule_eq (domains : Text) (isException : Bool) (name : Text) (args : List Text) :
    scriptletRule domains isException name args =
      domains ++ ((scriptletMarker isException).text ++ callOf name args) := by
  simp only [scriptletRule, intercalate_quoteArg, scriptletSign_eq, callOf, List.append_assoc]

theorem atStart?_scriptletMarker (isException : Bool) (t : Text) :
    Marker.atStart? ((scriptletMarker isException).text ++ t) =
      some (scriptletMarker isException) := by
  cases isException <;> rfl

/-- The first `#` of a scriptlet rule is that of its marker, if there is none in the domains. -/
theorem split?_scriptletRule {domains : Text} (hd : '#' ∉ domains) (isException : Bool)
    (name : Text) (args : List Text) :
    Marker.split? (scriptletRule domains isException name args) =
      some (domains, scriptletMarker isException, callOf name args) := by
  have hbefore : ∀ c ∈ domains, decide (c ≠ '#') = true := by
    intro c hc
    exact decide_eq_true (ne_of_mem_of_not_mem hc hd)
  have hstop : ∀ t, ((scriptletMarker isException).text ++ t).takeWhile (· ≠ '#') = [] ∧
      ((scriptletMarker isException).text ++ t).dropWhile (· ≠ '#') =
        (scriptletMarker isException).text ++ t := by
    cases isException <;> exact fun t => ⟨rfl, rfl⟩
  rw [scriptletRule_eq, Marker.split?, List.takeWhile_append_of_pos hbefore,
    List.dropWhile_append_of_pos hbefore, (hstop _).1, (hstop _).2, atStart?_scriptletMarker,
    List.append_nil, Option.map_some, List.drop_left]

/-- The rules that are made of scriptlets after `+js` and of snippets are scriptlet rules with a
name. -/
theorem exists_scriptletRule {t u : Text}
    (h : scriptletCall? t = some u ∨ ∃ us, snippets? t = some us ∧ u ∈ us) :
    ∃ domains isException name args,
      name ≠ [] ∧ u = scriptletRule domains isException name args := by
  rcases h with h | ⟨us, h, hu⟩
  · unfold scriptletCall? at h
    split at h
    · cases h
    · next domains isException after hsplit =>
      dsimp only at h
      split at h
      · next c name args hargs =>
        cases h
        exact ⟨domains, isException, _, args, by simp, rfl⟩
      · cases h
  · unfold snippets? at h
    split at h
    · cases h
    · next domains isException after hsplit =>
      split_ifs at h with hstyle
      split at h
      · cases h
      · cases h
        obtain ⟨statement, -, hu⟩ := List.mem_filterMap.1 hu
        unfold snippet? at hu
        split at hu
        · next name args hwords =>
          cases hu
          exact ⟨domains, isException, _, args, by simp, rfl⟩
        · cases hu

/-- **Scriptlet rules of other dialects are read again just if writer and reader agree.**  A
scriptlet rule with a name, and with any domains that hold no `#`, is split at its marker and read
with these domains, and as an exception if it is one.  If in its name and in all arguments every
quotation mark, and the closing one, stands behind an even number of backslashes, it calls the
scriptlet with this name and these arguments, each with a backslash before every quotation mark.
Otherwise it is refused as a whole.  Scriptlets after `+js` and snippets are rewritten as such
rules. -/
theorem scriptletRule_read [Externals] {domains name : Text} (hd : '#' ∉ domains) (hn : name ≠ [])
    (isException : Bool) (args : List Text) :
    let text := scriptletRule domains isException name args
    let call : ScriptletCall := ⟨escapeQuotes name, args.map escapeQuotes⟩
    (∃ marker after, Marker.split? text = some (domains, marker, after) ∧
      marker.kind = .script ∧ marker.isException = isException ∧
      ((∀ w ∈ name :: args, IsQuotable w) →
        Rule.readScript text domains marker after = .ok (.scriptlet
          { text, scope := Scope.read domains, isException, name := call.name
            param := call.toJson.compact })) ∧
      ((∃ w ∈ name :: args, ¬IsQuotable w) →
        Rule.readScript text domains marker after = .error (.invalidScriptlet after))) ∧
    ∀ t u, (scriptletCall? t = some u ∨ ∃ us, snippets? t = some us ∧ u ∈ us) →
      ∃ domains isException name args,
        name ≠ [] ∧ u = scriptletRule domains isException name args := by
  intro text call
  refine ⟨⟨scriptletMarker isException, callOf name args,
    split?_scriptletRule hd isException name args, rfl, rfl, fun h => ?_, fun h => ?_⟩,
    fun _ _ => exists_scriptletRule⟩
  · rw [Rule.readScript, if_pos (start_isPrefixOf_callOf name args), read_callOf hn h]
    rfl
  · rw [Rule.readScript, if_pos (start_isPrefixOf_callOf name args), read_callOf_of_exists h]

/-- Quotation marks, and backslashes before other characters, come through. -/
theorem scriptletRule_read_marks :
    let t : Text := "example.org#@#+js(set, a\"b, 'c\\d')"
    let args : List Text := ["a\"b", "'c\\d'"]
    let text := scriptletRule "example.org" true "ubo-set" args
    scriptletCall? t = some text ∧
      (∃ domains isException name args,
        name ≠ [] ∧ text = scriptletRule domains isException name args) ∧
      '#' ∉ "example.org".toList ∧ "ubo-set".toList ≠ [] ∧
      (∀ w ∈ "ubo-set".toList :: args, IsQuotable w) ∧
      ∃ marker after, Marker.split? text = some ("example.org".toList, marker, after) ∧
        Rule.readScript text "example.org" marker after = .ok (.scriptlet
          { text, scope := { permitted := ["example.org"] }, isException := true
            name := "ubo-set"
            param := "\x7b\"name\":\"ubo-set\",\"args\":[\"a\\\\\\\"b\",\"'c\\\\d'\"]\x7d" }) := by
  intro t args text
  have hcall : scriptletCall? t = some text := by decide +kernel
  have hd : '#' ∉ "example.org".toList := by decide
  have hn : "ubo-set".toList ≠ [] := by decide
  have hquotable : ∀ w ∈ "ubo-set".toList :: args, IsQuotable w := by
    simp [args, isQuotable_iff, isQuotableBehind_cons, isQuotableBehind_nil, escapesNext]
  obtain ⟨⟨marker, after, hsplit, -, -, hread, -⟩, hrules⟩ := scriptletRule_read hd hn true args
  refine ⟨hcall, hrules t text (.inl hcall), hd, hn, hquotable, marker, after, hsplit, ?_⟩
  rw [hread hquotable]
  decide +kernel

/-- If a backslash stands at the end of an argument, the rule is refused. -/
theorem scriptletRule_read_backslash :
    let t : Text := "example.org##+js(foo, a\\)"
    let text := scriptletRule "example.org" false "ubo-foo" ["a\\"]
    scriptletCall? t = some text ∧
      Marker.split? text = some ("example.org".toList, scriptletMarker false,
        "//scriptlet(\"ubo-foo\", \"a\\\")".toList) ∧
      Rule.readScript text "example.org" (scriptletMarker false)
        "//scriptlet(\"ubo-foo\", \"a\\\")" =
          .error (.invalidScriptlet "//scriptlet(\"ubo-foo\", \"a\\\")") ∧
      FilterRule.readLine t =
        .error (.invalidScriptlet "//scriptlet(\"ubo-foo\", \"a\\\")") := by
  decide +kernel

end ContentBlocker.Dialect
