import ContentBlocker.Filter.Scriptlet
import ContentBlocker.Proofs.Text.Quotes
import ContentBlocker.Proofs.Text.Searching
import ContentBlocker.Proofs.Text.Words

/-!
# The syntax of scriptlet calls

A call holds tokens in quotation marks between its parentheses, with commas between them.

* `WritesTokens` and `WritesCall` say of a text that it writes tokens and a call with some bodies;
* `round?` is one round of the reader: a token, and the comma behind it if more follows;
* `round?_wellFounded`: the rounds come to an end;
* `readTokens?_eq_some_iff` and `inner?_eq_some_iff` tell what the two parts of the reader accept;
* `read_eq_ok_iff`: what is read as a call is what writes one.
-/

namespace ContentBlocker.ScriptletCall

open Text

/-! ### Calls as they are written -/

/-- The text is a token: a body between two quotation marks. -/
inductive IsToken (body : Text) : Text → Prop
  | quoted {q : Char} (mark : q ∈ quotationMarks) (isBody : IsQuotedBody q body) :
      IsToken body (q :: (body ++ [q]))

/-- The text writes some tokens, at least one, with commas between them, and perhaps one behind the
last token.  Blanks may stand behind every token and behind every comma. -/
inductive WritesTokens : List Text → Text → Prop
  | last {body token gap : Text} (isToken : IsToken body token) (blank : IsGap gap) :
      WritesTokens [body] (token ++ gap)
  | lastComma {body token before after : Text} (isToken : IsToken body token)
      (blankBefore : IsGap before) (blankAfter : IsGap after) :
      WritesTokens [body] (token ++ (before ++ ',' :: after))
  | cons {body token before after rest : Text} {bodies : List Text} (isToken : IsToken body token)
      (blankBefore : IsGap before) (blankAfter : IsGap after) (writes : WritesTokens bodies rest) :
      WritesTokens (body :: bodies) (token ++ (before ++ ',' :: (after ++ rest)))

/-- The text writes a call: some tokens between the parentheses, and perhaps blanks before the
first one and behind the call. -/
inductive WritesCall (bodies : List Text) : Text → Prop
  | call {before tokens after : Text} (blankBefore : IsGap before)
      (writes : WritesTokens bodies tokens) (blankAfter : IsGap after) :
      WritesCall bodies (start ++ (before ++ (tokens ++ ')' :: after)))

theorem IsToken.readQuoted?_append {body token : Text} (h : IsToken body token) (t : Text) :
    readQuoted? (token ++ t) = some (body, t) := by
  obtain ⟨hq, hbody⟩ := h
  exact readQuoted?_eq_some_iff.2 ⟨_, hq, by simp, hbody⟩

theorem exists_isToken_of_readQuoted? {t body rest : Text} (h : readQuoted? t = some (body, rest)) :
    ∃ token, IsToken body token ∧ t = token ++ rest := by
  obtain ⟨q, hq, rfl, hbody⟩ := readQuoted?_eq_some_iff.1 h
  exact ⟨_, .quoted hq hbody, by simp⟩

/-- Tokens begin with a quotation mark and not with a blank. -/
theorem WritesTokens.head?_eq {bodies : List Text} {t : Text} (h : WritesTokens bodies t) :
    ∃ q ∈ quotationMarks, t.head? = some q := by
  cases h with
  | last isToken => exact let ⟨hq, _⟩ := isToken; ⟨_, hq, rfl⟩
  | lastComma isToken => exact let ⟨hq, _⟩ := isToken; ⟨_, hq, rfl⟩
  | cons isToken => exact let ⟨hq, _⟩ := isToken; ⟨_, hq, rfl⟩

theorem WritesTokens.trimStart_eq {bodies : List Text} {t : Text} (h : WritesTokens bodies t) :
    trimStart t = t := by
  obtain ⟨q, hq, hhead⟩ := h.head?_eq
  refine trimStart_of_head? fun c hc => ?_
  rw [hhead] at hc
  cases hc
  rcases List.mem_pair.1 hq with rfl | rfl
  · rfl
  · rfl

/-! ### One round of the reader -/

/-- What is to be read behind a token: nothing if only blanks follow, or what follows a comma. -/
def behindToken? (t : Text) : Option Text :=
  match trimStart t with
  | [] => some []
  | c :: more => if c = ',' then some (trimStart more) else none

/-- One round of the reader: the body of the first token, and what is to be read behind it. -/
def round? (t : Text) : Option (Text × Text) :=
  (readQuoted? t).bind fun s => (behindToken? s.2).map (s.1, ·)

@[simp] theorem readTokens?_nil : readTokens? [] = some [] := by rw [readTokens?, if_pos rfl]

/-- The reader goes round until nothing is left. -/
theorem readTokens?_eq (t : Text) :
    readTokens? t =
      if t = [] then some [] else (round? t).bind fun s => (readTokens? s.2).map (s.1 :: ·) := by
  rw [readTokens?]
  split_ifs with ht
  · rfl
  · cases hread : readQuoted? t with
    | none => simp [round?, hread]
    | some s =>
      obtain ⟨body, rest⟩ := s
      simp only [round?, hread, Option.bind_some, behindToken?]
      rcases trimStart rest with _ | ⟨c, more⟩
      · simp
      · dsimp only
        split_ifs <;> rfl

theorem behindToken?_gap {t : Text} (h : IsGap t) : behindToken? t = some [] := by
  rw [behindToken?, trimStart_eq_nil_iff.2 h]

theorem behindToken?_comma {before : Text} (h : IsGap before) (more : Text) :
    behindToken? (before ++ ',' :: more) = some (trimStart more) := by
  rw [behindToken?, trimStart_gap_append h]
  rfl

theorem behindToken?_cases {t rest : Text} (h : behindToken? t = some rest) :
    (IsGap t ∧ rest = []) ∨
      ∃ before more, IsGap before ∧ t = before ++ ',' :: more ∧ rest = trimStart more := by
  obtain ⟨before, hbefore, ht⟩ := exists_gap_trimStart t
  unfold behindToken? at h
  split at h
  · next hnil =>
    cases h
    exact .inl ⟨trimStart_eq_nil_iff.1 hnil, rfl⟩
  · next c more hmore =>
    split_ifs at h with hc
    cases h
    rw [hmore, hc] at ht
    exact .inr ⟨before, more, hbefore, ht, rfl⟩

theorem behindToken?_length {t rest : Text} (h : behindToken? t = some rest) :
    rest.length ≤ t.length := by
  rcases behindToken?_cases h with ⟨-, rfl⟩ | ⟨before, more, -, rfl, rfl⟩
  · exact Nat.zero_le _
  · have hmore := trimStart_length more
    simp only [List.length_append, List.length_cons]
    omega

theorem round?_eq_some_iff {t body rest : Text} :
    round? t = some (body, rest) ↔
      ∃ after, readQuoted? t = some (body, after) ∧ behindToken? after = some rest := by
  simp [round?, Option.bind_eq_some_iff]

/-- A round leaves a shorter text. -/
theorem round?_length {t body rest : Text} (h : round? t = some (body, rest)) :
    rest.length < t.length := by
  obtain ⟨after, hread, hrest⟩ := round?_eq_some_iff.1 h
  exact (behindToken?_length hrest).trans_lt (readQuoted?_length hread)

/-- So the reader does not go round forever. -/
theorem round?_wellFounded :
    WellFounded fun rest t : Text => ∃ body, round? t = some (body, rest) :=
  (measure List.length).wf.mono fun _ _ ⟨_, h⟩ => round?_length h

/-! ### The tokens of a call -/

theorem readTokens?_of_round? {t body rest : Text} (h : round? t = some (body, rest)) :
    readTokens? t = (readTokens? rest).map (body :: ·) := by
  have hne : t ≠ [] := by
    rintro rfl
    cases h
  rw [readTokens?_eq, if_neg hne, h, Option.bind_some]

theorem IsToken.round?_append {body token after rest : Text} (h : IsToken body token)
    (hrest : behindToken? after = some rest) : round? (token ++ after) = some (body, rest) :=
  round?_eq_some_iff.2 ⟨after, h.readQuoted?_append after, hrest⟩

theorem readTokens?_of_writes {bodies : List Text} {t : Text} (h : WritesTokens bodies t) :
    readTokens? t = some bodies := by
  induction h with
  | last isToken blank =>
    rw [readTokens?_of_round? (isToken.round?_append (behindToken?_gap blank)), readTokens?_nil]
    rfl
  | lastComma isToken blankBefore blankAfter =>
    rw [readTokens?_of_round? (isToken.round?_append (behindToken?_comma blankBefore _)),
      trimStart_eq_nil_iff.2 blankAfter, readTokens?_nil]
    rfl
  | cons isToken blankBefore blankAfter writes ih =>
    rw [readTokens?_of_round? (isToken.round?_append (behindToken?_comma blankBefore _)),
      trimStart_gap_append blankAfter, writes.trimStart_eq, ih]
    rfl

theorem writesTokens_of_readTokens? {t : Text} (ht : t ≠ []) {bodies : List Text}
    (h : readTokens? t = some bodies) : WritesTokens bodies t := by
  induction t using round?_wellFounded.induction generalizing bodies with
  | _ t ih =>
    rw [readTokens?_eq, if_neg ht] at h
    obtain ⟨⟨body, rest⟩, hround, h⟩ := Option.bind_eq_some_iff.1 h
    obtain ⟨more, hmore, rfl⟩ := Option.map_eq_some_iff.1 h
    obtain ⟨after, hread, hbehind⟩ := round?_eq_some_iff.1 hround
    obtain ⟨token, htoken, rfl⟩ := exists_isToken_of_readQuoted? hread
    by_cases hrest : rest = []
    · -- this was the last token, with a comma behind it or without
      have hbodies : more = [] := by simpa [hrest, eq_comm] using hmore
      rw [hbodies]
      rcases behindToken?_cases hbehind with ⟨hgap, -⟩ | ⟨before, u, hbefore, rfl, hu⟩
      · exact .last htoken hgap
      · exact .lastComma htoken hbefore (trimStart_eq_nil_iff.1 (hu ▸ hrest))
    · rcases behindToken?_cases hbehind with ⟨-, hnil⟩ | ⟨before, u, hbefore, rfl, rfl⟩
      · exact absurd hnil hrest
      · have hwrites := ih _ ⟨body, hround⟩ hrest hmore
        obtain ⟨gap, hgap, hu⟩ := exists_gap_trimStart u
        rw [hu]
        exact .cons htoken hbefore hgap hwrites

/-- The reader reads tokens that are written, and nothing else but the empty text. -/
theorem readTokens?_eq_some_iff {t : Text} {body : Text} {bodies : List Text} :
    readTokens? t = some (body :: bodies) ↔ WritesTokens (body :: bodies) t := by
  refine ⟨fun h => writesTokens_of_readTokens? ?_ h, readTokens?_of_writes⟩
  rintro rfl
  simp at h

/-! ### The whole call -/

/-- What stands between the parentheses of a call goes to the last character that is no blank. -/
theorem inner?_eq_some_iff {t inner : Text} :
    inner? t = some inner ↔ ∃ gap, IsGap gap ∧ t = start ++ (inner ++ ')' :: gap) := by
  constructor
  · intro h
    obtain ⟨rest, hrest, h⟩ := Option.bind_eq_some_iff.1 h
    obtain ⟨gap, hgap, hend⟩ := exists_gap_trimEnd rest
    rw [eq_append_of_stripEnd? h] at hend
    exact ⟨gap, hgap, by rw [stripStart?_eq_some_iff.1 hrest, hend]; simp⟩
  · rintro ⟨gap, hgap, rfl⟩
    have hend : trimEnd (inner ++ ')' :: gap) = inner ++ [')'] := by
      rw [List.append_cons, trimEnd_append_gap hgap]
      exact trimEnd_of_getLast? (by simp; decide)
    rw [inner?, stripStart?_append, Option.bind_some, hend, stripEnd?_append]

theorem readInner_eq_some_iff {t body : Text} {bodies : List Text} :
    ((inner? t).bind fun inner => readTokens? (trimStart inner)) = some (body :: bodies) ↔
      WritesCall (body :: bodies) t := by
  constructor
  · intro h
    obtain ⟨inner, hinner, hread⟩ := Option.bind_eq_some_iff.1 h
    obtain ⟨after, hafter, rfl⟩ := inner?_eq_some_iff.1 hinner
    obtain ⟨before, hbefore, heq⟩ := exists_gap_trimStart inner
    rw [heq, List.append_assoc]
    exact .call hbefore (readTokens?_eq_some_iff.1 hread) hafter
  · rintro ⟨hbefore, hwrites, hafter⟩
    rw [← List.append_assoc _ _ (')' :: _), inner?_eq_some_iff.2 ⟨_, hafter, rfl⟩,
      Option.bind_some, trimStart_gap_append hbefore, hwrites.trimStart_eq,
      readTokens?_of_writes hwrites]

theorem read_eq_ok_iff_readInner {t name : Text} {args : List Text} :
    read t = .ok ⟨name, args⟩ ↔
      name ≠ [] ∧ ((inner? t).bind fun inner => readTokens? (trimStart inner)) =
        some (name :: args) := by
  rw [read]
  split
  · next c name' args' hread =>
    rw [hread]
    constructor
    · intro h
      cases h
      exact ⟨List.cons_ne_nil _ _, rfl⟩
    · rintro ⟨-, h⟩
      cases h
      rfl
  · next hother =>
    constructor
    · intro h
      cases h
    · rintro ⟨hne, h⟩
      obtain ⟨c, name, rfl⟩ := List.exists_cons_of_ne_nil hne
      exact absurd h (hother c name args)

/-- Whatever is no call is refused with itself. -/
theorem read_cases (t : Text) :
    (∃ call, read t = .ok call) ∨ read t = .error (.invalidScriptlet t) := by
  rw [read]
  split
  · exact .inl ⟨_, rfl⟩
  · exact .inr rfl

/-- **A call is read just if it is written as one.**  What is read is the bodies of the tokens
between the parentheses as they stand, the first one as the name, which is not empty, and the others
as the arguments.  Every other text is refused with itself in the message.  The reader goes round
once for each token, and it does not go round forever. -/
theorem read_eq_ok_iff (t : Text) :
    (∀ name args,
      read t = .ok ⟨name, args⟩ ↔ name ≠ [] ∧ WritesCall (name :: args) t) ∧
    (∀ e, read t = .error e ↔
      e = .invalidScriptlet t ∧ ¬∃ name args, name ≠ [] ∧ WritesCall (name :: args) t) ∧
    (∀ u, readTokens? u =
      if u = [] then some [] else (round? u).bind fun s => (readTokens? s.2).map (s.1 :: ·)) ∧
    WellFounded fun rest u : Text => ∃ body, round? u = some (body, rest) := by
  have hok : ∀ name args, read t = .ok ⟨name, args⟩ ↔ name ≠ [] ∧ WritesCall (name :: args) t := by
    intro name args
    rw [← readInner_eq_some_iff]
    exact read_eq_ok_iff_readInner
  refine ⟨hok, fun e => ?_, readTokens?_eq, round?_wellFounded⟩
  rcases read_cases t with ⟨⟨name, args⟩, hread⟩ | hread
  · rw [hread]
    simp only [reduceCtorEq, false_iff, not_and, not_not]
    exact fun _ => ⟨name, args, (hok name args).1 hread⟩
  · have hnot : ¬∃ name args, name ≠ [] ∧ WritesCall (name :: args) t := by
      rintro ⟨name, args, hwrites⟩
      rw [(hok name args).2 hwrites] at hread
      cases hread
    rw [hread, and_iff_left hnot, Except.error.injEq, eq_comm]

/-- Blanks around everything, an escaped mark, and a comma behind the last token. -/
example : read "//scriptlet( 'set' , \"a\\\"b\" , ) " = .ok ⟨"set", ["a\\\"b"]⟩ := by
  decide +kernel

end ContentBlocker.ScriptletCall
