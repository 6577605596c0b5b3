import ContentBlocker.Text.Basic

/-!
# Tables of code points

A table is written as one text of entries, separated by blanks and sorted by their code points.
An entry is a code point or a range such as `41-5A`, with `/2` for every second code point of it,
and perhaps a value after a colon.

* `Span` is one entry, and `Table` the entries in order;
* `Table.read` reads the written form;
* `Table.find?` looks a code point up.
-/

namespace ContentBlocker.Unicode

/-- Every `step`-th code point from `first` to `last`, with a value. -/
structure Span where
  /-- The first code point. -/
  first : Nat
  /-- The last code point. -/
  last : Nat
  /-- The distance of one code point to the next. -/
  step : Nat
  /-- What the table says of them. -/
  value : Text
  deriving Repr

/-- The spans of a table in the order of their code points. -/
abbrev Table := Array Span

/-! ### Reading -/

/-- The value of a hexadecimal digit; other characters count as zero. -/
def hexDigit (c : Char) : Nat :=
  if c.isDigit then c.toNat - '0'.toNat
  else if 'A' ≤ c ∧ c ≤ 'F' then c.toNat - 'A'.toNat + 10
  else if 'a' ≤ c ∧ c ≤ 'f' then c.toNat - 'a'.toNat + 10
  else 0

/-- The number that hexadecimal digits write. -/
def hexValue (t : Text) : Nat := t.foldl (fun n c => 16 * n + hexDigit c) 0

/-- The number that decimal digits write. -/
def decimalValue (t : Text) : Nat := t.foldl (fun n c => 10 * n + (c.toNat - '0'.toNat)) 0

namespace Span

/-- Read one entry. -/
def read (t : Text) : Span :=
  let (place, value) := (Text.cut? [':'] t).getD (t, [])
  let (range, step) := (Text.cut? ['/'] place).getD (place, ['1'])
  let (first, last) := (Text.cut? ['-'] range).getD (range, range)
  ⟨hexValue first, hexValue last, decimalValue step, value⟩

/-- The span holds the code point. -/
def holds (s : Span) (n : Nat) : Bool :=
  s.first ≤ n && n ≤ s.last && (n - s.first) % s.step = 0

/-- The code points that the span maps `n` to: those written in its value, moved on as `n` is. -/
def image (s : Span) (n : Nat) : List Nat :=
  (s.value.splitOn '+').map fun t => hexValue t + (n - s.first)

end Span

namespace Table

/-- Read a written table. -/
def read (s : String) : Table :=
  ((Text.entries s).map Span.read).toArray

/-! ### Looking up -/

/-- The last span from `low` on and before `high` that starts at or before `n`, by halving. -/
def findBetween? (table : Table) (n low high : Nat) : Option Span :=
  if low + 1 < high then
    let middle := (low + high) / 2
    match table[middle]? with
    | some s => if s.first ≤ n then findBetween? table n middle high
                else findBetween? table n low middle
    | none => none
  else table[low]?
termination_by high - low

/-- The span that holds the code point. -/
def find? (table : Table) (n : Nat) : Option Span :=
  (findBetween? table n 0 table.size).filter (·.holds n)

/-- Some span holds the code point. -/
def holds (table : Table) (n : Nat) : Bool := (table.find? n).isSome

/-- What the span of a code point maps it to. -/
def image? (table : Table) (n : Nat) : Option (List Nat) :=
  (table.find? n).map (·.image n)

end Table

/-- The characters with the given code points. -/
def chars (ns : List Nat) : Text := ns.map Char.ofNat

end ContentBlocker.Unicode
