import ContentBlocker.Text.Basic

/-!
# Regular expressions

The expressions that a rule may hold between slashes, as trees.

* `Flags` are the switches that a group sets and clears;
* `CharSet` is what stands between brackets;
* `Regex` is an expression, and `Regex.depth` says how deeply it is nested.
-/

namespace ContentBlocker

/-- Switches in the order they are written, each with whether it is set or cleared. -/
abbrev Flags := List (Char × Bool)

/-- What is said of a switch, if anything is. -/
def Flags.get? (flags : Flags) (c : Char) : Option Bool := flags.lookup c

/-- The named classes that a backslash and a letter stand for. -/
inductive LetterClass where
  | digit
  | space
  | word
  deriving DecidableEq, Repr

/-- One character of an expression. -/
structure Literal where
  /-- The character. -/
  char : Char
  /-- It is written with two hexadecimal digits, so that it may also name a byte. -/
  isByte : Bool
  deriving DecidableEq, Repr

/-- Operators between sets of characters. -/
inductive SetOperator where
  | intersection
  | difference
  | symmetricDifference
  deriving DecidableEq, Repr

/-- A set of characters between brackets. -/
inductive CharSet where
  | empty
  | literal (l : Literal)
  | range (first last : Literal)
  /-- A class such as `[:alpha:]`. -/
  | named (negated : Bool)
  /-- A class such as a backslash with `d`. -/
  | letter (negated : Bool) (which : LetterClass)
  /-- A Unicode property. -/
  | property (negated : Bool) (name : Text)
  | bracketed (negated : Bool) (set : CharSet)
  | union (items : List CharSet)
  | operation (op : SetOperator) (left right : CharSet)
  deriving Repr

/-- A regular expression. -/
inductive Regex where
  | empty
  /-- Switches for what follows. -/
  | flags (flags : Flags)
  | literal (l : Literal)
  | dot
  /-- A condition on the place, such as the start of a line. -/
  | look
  | letter (negated : Bool) (which : LetterClass)
  | property (negated : Bool) (name : Text)
  | set (negated : Bool) (set : CharSet)
  /-- From `low` to `high` times, without a bound if there is no `high`. -/
  | repeated (low : Nat) (high : Option Nat) (body : Regex)
  /-- A group, with the switches that it sets for its body. -/
  | group (flags : Flags) (body : Regex)
  | alternation (branches : List Regex)
  | concatenation (parts : List Regex)
  deriving Repr

namespace CharSet

/-- The set of some items. -/
def ofItems : List CharSet → CharSet
  | [] => .empty
  | [s] => s
  | items => .union items

mutual

/-- How deeply a set is nested. -/
def depth : CharSet → Nat
  | .bracketed _ s => s.depth + 1
  | .union items => depthAll items + 1
  | .operation _ l r => max l.depth r.depth + 1
  | _ => 0

/-- How deeply the deepest of some sets is nested. -/
def depthAll : List CharSet → Nat
  | [] => 0
  | s :: items => max s.depth (depthAll items)

end

end CharSet

namespace Regex

/-- The expression for some parts in a row. -/
def ofParts : List Regex → Regex
  | [] => .empty
  | [r] => r
  | parts => .concatenation parts

/-- The expression for some branches. -/
def ofBranches : List Regex → Regex
  | [] => .empty
  | [r] => r
  | branches => .alternation branches

mutual

/-- How deeply an expression is nested. -/
def depth : Regex → Nat
  | .set _ s => s.depth + 1
  | .repeated _ _ r => r.depth + 1
  | .group _ r => r.depth + 1
  | .alternation branches => depthAll branches + 1
  | .concatenation parts => depthAll parts + 1
  | _ => 0

/-- How deeply the deepest of some expressions is nested. -/
def depthAll : List Regex → Nat
  | [] => 0
  | r :: rs => max r.depth (depthAll rs)

end

end Regex
end ContentBlocker
