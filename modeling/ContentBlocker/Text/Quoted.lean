import ContentBlocker.Text.Blank

/-!
# Quoted tokens

Texts with parts in quotation marks:

* `readQuoted?` reads one token, in which a backslash keeps the next character from closing it;
* `splitOutsideQuotes` splits at the delimiters outside the quotation marks;
* `words` splits at blanks, where single quotes hold a word with blanks together.
-/

namespace ContentBlocker.Text

/-! ### One token -/

/-- The body of a token up to the first `quote` that no backslash escapes, and what follows that
quote.  `escaped` says that a backslash stands right before. -/
def quotedBody? (quote : Char) : Bool → Text → Option (Text × Text)
  | _, [] => none
  | true, c :: t => (quotedBody? quote false t).map fun s => (c :: s.1, s.2)
  | false, c :: t =>
    if c = '\\' then (quotedBody? quote true t).map fun s => (c :: s.1, s.2)
    else if c = quote then some ([], t)
    else (quotedBody? quote false t).map fun s => (c :: s.1, s.2)

/-- Read a token in single or double quotation marks at the start of a text: its body, with every
backslash kept, and what follows the closing mark. -/
def readQuoted? : Text → Option (Text × Text)
  | [] => none
  | q :: t => if q = '\'' ∨ q = '"' then quotedBody? q false t else none

/-- A body ends before its closing mark. -/
theorem quotedBody?_length {q : Char} {escaped : Bool} {t body rest : Text}
    (h : quotedBody? q escaped t = some (body, rest)) : rest.length < t.length := by
  induction t generalizing escaped body with
  | nil => cases escaped <;> simp [quotedBody?] at h
  | cons c t ih =>
    cases escaped with
    | true =>
      simp only [quotedBody?, Option.map_eq_some_iff, Prod.mk.injEq] at h
      obtain ⟨s, hs, _, rfl⟩ := h
      exact Nat.lt_succ_of_lt (ih hs)
    | false =>
      simp only [quotedBody?] at h
      split at h
      · simp only [Option.map_eq_some_iff, Prod.mk.injEq] at h
        obtain ⟨s, hs, _, rfl⟩ := h
        exact Nat.lt_succ_of_lt (ih hs)
      · split at h
        · simp only [Option.some.injEq, Prod.mk.injEq] at h
          simp [h.2]
        · simp only [Option.map_eq_some_iff, Prod.mk.injEq] at h
          obtain ⟨s, hs, _, rfl⟩ := h
          exact Nat.lt_succ_of_lt (ih hs)

/-- A token is not empty, so that what follows it is shorter. -/
theorem readQuoted?_length {t body rest : Text} (h : readQuoted? t = some (body, rest)) :
    rest.length < t.length := by
  cases t with
  | nil => simp [readQuoted?] at h
  | cons q t =>
    simp only [readQuoted?] at h
    split at h
    · exact Nat.lt_succ_of_lt (quotedBody?_length h)
    · simp at h

/-! ### Splitting outside quotation marks -/

/-- The parts between the delimiters that stand outside quotation marks, where `inside` says
whether the text begins inside of them. -/
def rawPartsOutsideQuotes (delimiter quote : Char) : Bool → Text → List Text
  | _, [] => [[]]
  | inside, c :: t =>
    if c = quote then (rawPartsOutsideQuotes delimiter quote (!inside) t).modifyHead (c :: ·)
    else if c = delimiter ∧ inside = false then
      [] :: rawPartsOutsideQuotes delimiter quote inside t
    else (rawPartsOutsideQuotes delimiter quote inside t).modifyHead (c :: ·)

/-- The parts between the delimiters outside quotation marks, trimmed, without the empty ones. -/
def splitOutsideQuotes (delimiter quote : Char) (t : Text) : List Text :=
  ((rawPartsOutsideQuotes delimiter quote false t).map trim).filter (!·.isEmpty)

/-! ### Words -/

/-- Where a reader of words stands: between words, in a bare word or in a quoted one. -/
inductive WordState where
  | between
  | bare
  | quoted
  deriving DecidableEq, Repr

/-- The words of a text: a word that starts with a single quote goes to the next single quote,
which is no part of it, and any other word goes to the next blank.  The current word is the head
of the answer while the reader is inside of one. -/
def wordsFrom : WordState → Text → List Text
  | .between, [] => []
  | .bare, [] => [[]]
  | .quoted, [] => [[]]
  | .between, c :: t =>
    if isBlank c then wordsFrom .between t
    else if c = '\'' then wordsFrom .quoted t
    else (wordsFrom .bare t).modifyHead (c :: ·)
  | .bare, c :: t =>
    if isBlank c then [] :: wordsFrom .between t
    else (wordsFrom .bare t).modifyHead (c :: ·)
  | .quoted, c :: t =>
    if c = '\'' then [] :: wordsFrom .between t
    else (wordsFrom .quoted t).modifyHead (c :: ·)

/-- The words of a text. -/
def words (t : Text) : List Text := wordsFrom .between t

end ContentBlocker.Text
