import ContentBlocker.Text.Blank
import ContentBlocker.Unicode.Letter
import ContentBlocker.Unicode.Table
import ContentBlocker.Regex.Syntax

/-!
# Reading the pieces of a regular expression

The readers of the pieces that an expression is made of.  Each takes the text from some place on
and gives what it read and the rest of the text, or nothing if the text is malformed there.

When the switch `x` is set, blanks and comments between the characters of a piece are skipped; the
argument `x` of the readers is that switch.
-/

namespace ContentBlocker.Regex

/-! ### Blanks and comments -/

/-- A text without the blanks and comments at its start; `comment` says that it starts inside of a
comment. -/
def skipFrom : Bool → Text → Text
  | _, [] => []
  | true, c :: t => skipFrom (c ≠ '\n') t
  | false, c :: t => if Text.isBlank c then skipFrom false t
    else if c = '#' then skipFrom true t else c :: t

/-- Skip blanks and comments if the switch is set. -/
def skip (x : Bool) (t : Text) : Text := if x then skipFrom false t else t

theorem skipFrom_length (comment : Bool) (t : Text) :
    (skipFrom comment t).length ≤ t.length := by
  induction t generalizing comment with
  | nil => simp [skipFrom]
  | cons c t ih =>
    cases comment with
    | true =>
      simp only [skipFrom, List.length_cons]
      exact Nat.le_succ_of_le (ih _)
    | false =>
      simp only [skipFrom]
      split
      · exact Nat.le_succ_of_le (ih _)
      · split
        · exact Nat.le_succ_of_le (ih _)
        · simp

theorem skip_length (x : Bool) (t : Text) : (skip x t).length ≤ t.length := by
  unfold skip
  split
  · exact skipFrom_length _ _
  · simp

/-- The characters before the first `stop` without blanks and comments, and the rest behind it. -/
def readTo? (x : Bool) (stop : Char) : Bool → Text → Option (Text × Text)
  | _, [] => none
  | true, c :: t => readTo? x stop (c ≠ '\n') t
  | false, c :: t =>
    if x && Text.isBlank c then readTo? x stop false t
    else if x && c = '#' then readTo? x stop true t
    else if c = stop then some ([], t)
    else (readTo? x stop false t).map fun s => (c :: s.1, s.2)

/-- The next `n` characters without blanks and comments, and the rest behind them. -/
def readMany? (x : Bool) : Bool → Nat → Text → Option (Text × Text)
  | _, 0, t => some ([], t)
  | _, _ + 1, [] => none
  | true, n + 1, c :: t => readMany? x (c ≠ '\n') (n + 1) t
  | false, n + 1, c :: t =>
    if x && Text.isBlank c then readMany? x false (n + 1) t
    else if x && c = '#' then readMany? x true (n + 1) t
    else (readMany? x false n t).map fun s => (c :: s.1, s.2)

/-! ### Escapes -/

/-- What an escape stands for. -/
inductive Escape where
  | literal (l : Literal)
  | look
  | letter (negated : Bool) (which : LetterClass)
  | property (negated : Bool) (name : Text)
  deriving Repr

/-- The character is a hexadecimal digit. -/
def isHex (c : Char) : Bool := c.isDigit || ('a' ≤ c && c ≤ 'f') || ('A' ≤ c && c ≤ 'F')

/-- The character that hexadecimal digits name, if there is one. -/
def hexChar? (digits : Text) : Option Char :=
  if digits ≠ [] ∧ digits.all isHex then
    let n := Unicode.hexValue digits
    if Nat.isValidChar n then some (Char.ofNat n) else none
  else none

/-- Read a character in hexadecimal behind its letter: `width` digits, or any number in braces. -/
def readHex? (x : Bool) (width : Nat) (isByte : Bool) (t : Text) : Option (Escape × Text) :=
  match skip x t with
  | '\x7b' :: t => do
    let (digits, rest) ← readTo? x '\x7d' false t
    let c ← hexChar? digits
    some (.literal ⟨c, false⟩, skip x rest)
  | t => do
    let (digits, rest) ← readMany? x false width t
    let c ← hexChar? digits
    some (.literal ⟨c, isByte⟩, skip x rest)

/-- Read the name of a property behind its letter: one character, or a name in braces. -/
def readProperty? (x negated : Bool) (t : Text) : Option (Escape × Text) :=
  match skip x t with
  | [] => none
  | '\x7b' :: t => (readTo? x '\x7d' false t).map fun s => (.property negated s.1, s.2)
  | c :: t => if c = '\\' then none else some (.property negated [c], skip x t)

/-- The names of the special word boundaries. -/
def boundaryNames : List Text := ["start", "end", "start-half", "end-half"]

/-- A character of the name of a special word boundary. -/
def isBoundaryChar (c : Char) : Bool := c.isAlpha || c = '-'

/-- Read what may follow a word boundary: the name of a special one in braces.  Braces that do not
begin like a name are left to be a repetition. -/
def readBoundary? (x : Bool) (t : Text) : Option (Escape × Text) :=
  match t with
  | '\x7b' :: inner =>
    match skip x inner with
    | [] => none
    | c :: _ =>
      if isBoundaryChar c then
        match readTo? x '\x7d' false inner with
        | some (name, rest) => if boundaryNames.contains name then some (.look, rest) else none
        | none => none
      else some (.look, t)
  | _ => some (.look, t)

/-- Read an escape behind its backslash. -/
def readEscape? (x : Bool) : Text → Option (Escape × Text)
  | [] => none
  | c :: t =>
    match c with
    | 'x' => readHex? x 2 true t
    | 'u' => readHex? x 4 false t
    | 'U' => readHex? x 8 false t
    | 'p' => readProperty? x false t
    | 'P' => readProperty? x true t
    | 'd' => some (.letter false .digit, t)
    | 's' => some (.letter false .space, t)
    | 'w' => some (.letter false .word, t)
    | 'D' => some (.letter true .digit, t)
    | 'S' => some (.letter true .space, t)
    | 'W' => some (.letter true .word, t)
    | 'a' => some (.literal ⟨'\x07', false⟩, t)
    | 'f' => some (.literal ⟨'\x0c', false⟩, t)
    | 't' => some (.literal ⟨'\t', false⟩, t)
    | 'n' => some (.literal ⟨'\n', false⟩, t)
    | 'r' => some (.literal ⟨'\r', false⟩, t)
    | 'v' => some (.literal ⟨'\x0b', false⟩, t)
    | 'A' => some (.look, t)
    | 'z' => some (.look, t)
    | 'B' => some (.look, t)
    | '<' => some (.look, t)
    | '>' => some (.look, t)
    | 'b' => readBoundary? x t
    | c => if c.isAlphanum || 128 ≤ c.toNat then none else some (.literal ⟨c, false⟩, t)

/-! ### Repetition counts -/

/-- The number of times that decimal digits, with blanks around them, name, if it has at most 32
bits. -/
def count? (t : Text) : Option Nat :=
  let digits := Text.trim t
  if digits ≠ [] ∧ digits.all Char.isDigit then
    let n := Unicode.decimalValue digits
    if n < 0x100000000 then some n else none
  else none

/-- Read the counts of a repetition behind the opening brace. -/
def readCounts? (x : Bool) (t : Text) : Option (Nat × Option Nat × Text) := do
  let (content, rest) ← readTo? x '\x7d' false t
  let (low, high) ← match Text.cut? [','] content with
    | none => (count? content).map fun n => (n, some n)
    | some (a, []) => (count? a).map fun n => (n, none)
    | some (a, b) => do
      let low ← count? a
      let high ← count? b
      if low ≤ high then some (low, some high) else none
  let rest := skip x rest
  some (low, high, (Text.stripStart? ['?'] rest).getD rest)

/-! ### Groups -/

/-- What stands behind an opening parenthesis. -/
inductive GroupHead where
  /-- Switches, and no group. -/
  | switches (flags : Flags)
  /-- A group, with its switches and perhaps a name. -/
  | group (flags : Flags) (name : Option Text)
  deriving Repr

/-- The letters of the switches. -/
def switchLetters : Text := "imsUuRx"

/-- Read switches up to a colon or a closing parenthesis: the switches, that character and the
rest.  `seen` are the letters read before, `cleared` says that a hyphen was read, and `dangling`
that it was read last. -/
def readSwitches? (seen : Text) (cleared dangling : Bool) : Text → Option (Flags × Char × Text)
  | [] => none
  | c :: t =>
    if c = ':' ∨ c = ')' then if dangling then none else some ([], c, t)
    else if c = '-' then if cleared then none else readSwitches? seen true true t
    else if c ∈ switchLetters ∧ c ∉ seen then
      (readSwitches? (c :: seen) cleared false t).map fun s => ((c, !cleared) :: s.1, s.2)
    else none

/-- The text can name a group. -/
def isGroupName : Text → Bool
  | [] => false
  | c :: t =>
    (c = '_' || Unicode.isAlphabetic c) &&
      t.all fun c => c = '_' || c = '.' || c = '[' || c = ']' || Unicode.isAlphanumeric c

/-- Read the name of a group up to the closing angle bracket. -/
def readGroupName? (t : Text) : Option (GroupHead × Text) :=
  match Text.cut? ['>'] t with
  | some (name, rest) => if isGroupName name then some (.group [] (some name), rest) else none
  | none => none

/-- Read what stands behind an opening parenthesis. -/
def readGroupHead? (x : Bool) (t : Text) : Option (GroupHead × Text) :=
  match skip x t with
  | '?' :: '=' :: _ => none
  | '?' :: '!' :: _ => none
  | '?' :: '<' :: '=' :: _ => none
  | '?' :: '<' :: '!' :: _ => none
  | '?' :: 'P' :: '<' :: t => readGroupName? t
  | '?' :: '<' :: t => readGroupName? t
  | '?' :: t =>
    match readSwitches? [] false false t with
    | some (list, ':', rest) => some (.group list none, rest)
    | some ([], _, _) => none
    | some (list, _, rest) => some (.switches list, rest)
    | none => none
  | t => some (.group [] none, t)

end ContentBlocker.Regex
