import ContentBlocker.Regex.SetParser

/-!
# Parsing regular expressions

A text is first cut into tokens and the tokens are then put together to an expression.

* `tokens?` cuts a text into tokens, with the switch `x` of every open group;
* `parseTokens?` puts tokens together, with a stack of open groups;
* `Regex.parse?` is the two in turn, for expressions that are not nested too deeply and in which no
  two groups have one name.
-/

namespace ContentBlocker.Regex

/-- The tokens of a regular expression. -/
inductive Token where
  /-- An expression on its own. -/
  | atom (r : Regex)
  /-- The start of a group, with its switches. -/
  | opening (flags : Flags)
  /-- The end of a group. -/
  | closing
  /-- The sign between branches. -/
  | bar
  /-- A repetition of what stands before. -/
  | repetition (low : Nat) (high : Option Nat)
  deriving Repr

/-! ### Tokens -/

/-- Read a repetition sign behind its first character: a question mark may follow. -/
def afterLazy (t : Text) : Text := (Text.stripStart? ['?'] t).getD t

/-- The expression that an escape stands for. -/
def Escape.toRegex : Escape → Regex
  | .literal l => .literal l
  | .look => .look
  | .letter negated which => .letter negated which
  | .property negated name => .property negated name

/-- What the reader of tokens keeps: the switch `x`, the switches `x` outside of the open groups,
and the names of groups read so far. -/
structure Scan where
  /-- Blanks and comments are skipped. -/
  x : Bool
  /-- The same outside of the open groups, the innermost first. -/
  outer : List Bool
  /-- The names of groups. -/
  names : List Text

/-- Read one token at the first character `c` of a text that does not start with a blank or comment
to be skipped: the token, what is kept, and the rest. -/
def readToken? (s : Scan) (c : Char) (t : Text) : Option (Token × Scan × Text) :=
  match c with
  | '(' => do
    let (head, rest) ← readGroupHead? s.x t
    match head with
    | .switches list => some (.atom (.flags list), { s with x := (list.get? 'x').getD s.x }, rest)
    | .group list name =>
      match name with
      | some n =>
        if s.names.contains n then none
        else some (.opening list, ⟨s.x, s.x :: s.outer, n :: s.names⟩, rest)
      | none => some (.opening list, ⟨(list.get? 'x').getD s.x, s.x :: s.outer, s.names⟩, rest)
  | ')' => some (.closing, { s with x := s.outer.headD s.x, outer := s.outer.tail }, t)
  | '|' => some (.bar, s, t)
  | '[' => (readSet? s.x t).map fun r => (.atom (.set r.1 r.2.1), s, r.2.2)
  | '?' => some (.repetition 0 (some 1), s, afterLazy t)
  | '*' => some (.repetition 0 none, s, afterLazy t)
  | '+' => some (.repetition 1 none, s, afterLazy t)
  | '\x7b' => (readCounts? s.x t).map fun r => (.repetition r.1 r.2.1, s, r.2.2)
  | '\\' => (readEscape? s.x t).map fun r => (.atom r.1.toRegex, s, r.2)
  | '.' => some (.atom .dot, s, t)
  | '^' => some (.atom .look, s, t)
  | '$' => some (.atom .look, s, t)
  | c => some (.atom (.literal ⟨c, false⟩), s, t)

/-- The tokens of a text.  Every turn reads at least one character. -/
def tokensFrom? (s : Scan) (t : Text) : Option (List Token) :=
  match skip s.x t with
  | [] => some []
  | c :: u =>
    match readToken? s c u with
    | some (token, s, rest) =>
      if rest.length < t.length then (tokensFrom? s rest).map (token :: ·) else none
    | none => none
termination_by t.length

/-- The tokens of a text. -/
def tokens? (t : Text) : Option (List Token) := tokensFrom? ⟨false, [], []⟩ t

/-! ### Expressions -/

/-- An open group. -/
structure Level where
  /-- The switches of the group. -/
  flags : Flags
  /-- The complete branches, the latest first. -/
  branches : List Regex
  /-- The parts of the current branch, the latest first. -/
  parts : List Regex

namespace Level

/-- The expression read so far. -/
def toRegex (l : Level) : Regex :=
  Regex.ofBranches (l.branches.reverse ++ [Regex.ofParts l.parts.reverse])

/-- Add a part to the current branch. -/
def add (l : Level) (r : Regex) : Level := { l with parts := r :: l.parts }

/-- Start the next branch. -/
def next (l : Level) : Level :=
  { l with branches := Regex.ofParts l.parts.reverse :: l.branches, parts := [] }

/-- Repeat the part before, if there is one that can be repeated. -/
def repeat? (l : Level) (low : Nat) (high : Option Nat) : Option Level :=
  match l.parts with
  | [] => none
  | .flags _ :: _ => none
  | r :: parts => some { l with parts := .repeated low high r :: parts }

end Level

/-- Put tokens together inside of the open groups `level` and `outer`, the innermost first. -/
def parseFrom? (level : Level) (outer : List Level) : List Token → Option Regex
  | [] => if outer.isEmpty then some level.toRegex else none
  | .atom r :: ts => parseFrom? (level.add r) outer ts
  | .bar :: ts => parseFrom? level.next outer ts
  | .opening list :: ts => parseFrom? ⟨list, [], []⟩ (level :: outer) ts
  | .closing :: ts =>
    match outer with
    | [] => none
    | parent :: outer => parseFrom? (parent.add (.group level.flags level.toRegex)) outer ts
  | .repetition low high :: ts =>
    match level.repeat? low high with
    | some level => parseFrom? level outer ts
    | none => none

/-- Put tokens together. -/
def parseTokens? (ts : List Token) : Option Regex := parseFrom? ⟨[], [], []⟩ [] ts

/-- The deepest nesting that is read. -/
def maxDepth : Nat := 250

/-- The expression that a text writes. -/
def parse? (t : Text) : Option Regex := do
  let ts ← tokens? t
  let r ← parseTokens? ts
  if r.depth ≤ maxDepth then some r else none

end ContentBlocker.Regex
