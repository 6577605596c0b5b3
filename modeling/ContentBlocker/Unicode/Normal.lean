import ContentBlocker.Unicode.NormalData
import ContentBlocker.Unicode.Table

/-!
# The composed normal form

Texts in Unicode normalization form C:

* `decompose` replaces every character by its full canonical decomposition;
* `reorder` sorts each run of combining marks by combining class;
* `compose` joins characters to primary composites;
* `normalize` is the three in turn.

Hangul syllables are decomposed and composed by arithmetic.
-/

namespace ContentBlocker.Unicode

/-- Combining classes other than zero. -/
def combiningTable : Table := Table.read combiningData

/-- Full canonical decompositions. -/
def decompositionTable : Table := Table.read decompositionData

/-- The characters of the general category Mark. -/
def markTable : Table := Table.read markData

/-- The combining class of a character. -/
def combiningClass (c : Char) : Nat :=
  if c.toNat < 0x300 then 0
  else match combiningTable.find? c.toNat with
    | some s => decimalValue s.value
    | none => 0

/-- The character is a mark. -/
def isMark (c : Char) : Bool := markTable.holds c.toNat

/-! ### Hangul syllables -/

namespace Hangul

/-- The first syllable. -/
def syllables : Nat := 0xAC00

/-- The first leading consonant. -/
def leads : Nat := 0x1100

/-- The first vowel. -/
def vowels : Nat := 0x1161

/-- The code point before the first trailing consonant. -/
def tails : Nat := 0x11A7

/-- The parts of a syllable. -/
def decompose? (n : Nat) : Option Text :=
  if syllables ≤ n ∧ n < syllables + 11172 then
    let i := n - syllables
    let parts := [leads + i / 588, vowels + i % 588 / 28]
    some (chars (if i % 28 = 0 then parts else parts ++ [tails + i % 28]))
  else none

/-- The syllable of a lead and a vowel, or of a syllable without a tail and a tail. -/
def compose? (a b : Nat) : Option Char :=
  if leads ≤ a ∧ a < leads + 19 ∧ vowels ≤ b ∧ b < vowels + 21 then
    some (Char.ofNat (syllables + ((a - leads) * 21 + (b - vowels)) * 28))
  else if syllables ≤ a ∧ a < syllables + 11172 ∧ (a - syllables) % 28 = 0 ∧
      tails < b ∧ b < tails + 28 then
    some (Char.ofNat (a + (b - tails)))
  else none

end Hangul

/-! ### Decomposition -/

/-- The full canonical decomposition of a character. -/
def decomposeChar (c : Char) : Text :=
  if c.toNat < 0xC0 then [c]
  else match Hangul.decompose? c.toNat with
    | some t => t
    | none =>
      match decompositionTable.image? c.toNat with
      | some ns => chars ns
      | none => [c]

/-- A text with every character decomposed. -/
def decompose (t : Text) : Text := t.flatMap decomposeChar

/-! ### Order of marks -/

/-- Put a character before a sorted text: it moves behind the marks of smaller classes. -/
def insertMark (c : Char) : Text → Text
  | [] => [c]
  | d :: t =>
    if 0 < combiningClass d ∧ combiningClass d < combiningClass c then d :: insertMark c t
    else c :: d :: t

/-- A text with each run of marks sorted by combining class, equal classes in their order. -/
def reorder (t : Text) : Text := t.foldr insertMark []

/-! ### Composition -/

/-- A primary composite and its two parts, by their code points. -/
structure Composite where
  /-- The first part. -/
  first : Nat
  /-- The second part. -/
  second : Nat
  /-- What they compose to. -/
  whole : Nat

/-- Read one entry of the written composites. -/
def Composite.read? (entry : Text) : Option Composite :=
  match Text.cut? [':'] entry with
  | some (parts, whole) =>
    (Text.cut? ['+'] parts).map fun s => ⟨hexValue s.1, hexValue s.2, hexValue whole⟩
  | none => none

/-- The primary composites, sorted by their parts. -/
def composites : Array Composite :=
  ((Text.entries compositionData).filterMap Composite.read?).toArray

/-- The composite of two code points among the entries from `low` on and before `high`, by
halving. -/
def findComposite? (table : Array Composite) (a b low high : Nat) : Option Nat :=
  if low + 1 < high then
    let middle := (low + high) / 2
    match table[middle]? with
    | some e =>
      if e.first < a ∨ (e.first = a ∧ e.second ≤ b) then findComposite? table a b middle high
      else findComposite? table a b low middle
    | none => none
  else match table[low]? with
    | some e => if e.first = a ∧ e.second = b then some e.whole else none
    | none => none
termination_by high - low

/-- The primary composite of two characters. -/
def composePair? (a b : Char) : Option Char :=
  match Hangul.compose? a.toNat b.toNat with
  | some c => some c
  | none => (findComposite? composites a.toNat b.toNat 0 composites.size).map Char.ofNat

/-- The state of composition: what is settled, the starter that later characters may join, and
the marks behind it that did not join. -/
structure Composing where
  /-- The settled characters, the latest first. -/
  settled : Text
  /-- The latest starter. -/
  starter : Option Char
  /-- The characters behind the starter, the latest first. -/
  behind : Text

namespace Composing

/-- The starter and what stands behind it become settled. -/
def settle (s : Composing) : Text := s.behind ++ s.starter.toList ++ s.settled

/-- No character behind the starter keeps `c` from joining it. -/
def reaches (s : Composing) (c : Char) : Bool :=
  match s.behind with
  | [] => true
  | d :: _ => combiningClass d < combiningClass c

/-- Read one character. -/
def step (s : Composing) (c : Char) : Composing :=
  match s.starter.bind fun a => if s.reaches c then composePair? a c else none with
  | some whole => { s with starter := some whole }
  | none =>
    if combiningClass c = 0 then ⟨s.settle, some c, []⟩
    else { s with behind := c :: s.behind }

end Composing

/-- A text with its characters joined to primary composites. -/
def compose (t : Text) : Text :=
  (t.foldl Composing.step ⟨[], none, []⟩).settle.reverse

/-- A text in normalization form C. -/
def normalize (t : Text) : Text :=
  if t.all (·.toNat < 0xC0) then t else compose (reorder (decompose t))

end ContentBlocker.Unicode
