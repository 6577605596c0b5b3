/-!
# Texts

Every text of the library is a list of characters, so that the functions on texts recurse on
their data.  This file holds the searches and replacements that the rule language is built from:

* `cut?` finds the first occurrence of a text and gives what stands before and after it;
* `replaceFirst` and `replaceAll` put a new text in the place of an old one;
* `pieces` splits a text at every occurrence of another;
* `utf8` is the text as bytes.
-/

namespace ContentBlocker

/-- A text is the list of its characters. -/
abbrev Text := List Char

namespace Text

instance : Coe String Text := ⟨String.toList⟩

/-! ### The two ends of a text -/

/-- What follows `p` at the start of a text, if the text starts with `p`. -/
def stripStart? (p t : Text) : Option Text :=
  if p.isPrefixOf t then some (t.drop p.length) else none

/-- What stands before `p` at the end of a text, if the text ends with `p`. -/
def stripEnd? (p t : Text) : Option Text :=
  if p.isSuffixOf t then some (t.take (t.length - p.length)) else none

/-! ### Searching -/

/-- The text `p` occurs in the text `t`. -/
def has (p : Text) : Text → Bool
  | [] => p.isEmpty
  | c :: t => p.isPrefixOf (c :: t) || has p t

/-- A text occurs in another if it is a run of its characters. -/
theorem has_iff_infix {p t : Text} : has p t = true ↔ p <:+: t := by
  induction t with
  | nil => simp [has]
  | cons c t ih => rw [has, Bool.or_eq_true, ih, List.isPrefixOf_iff_prefix, List.infix_cons_iff]

/-- What stands before and after the first occurrence of `p`. -/
def cut? (p : Text) : Text → Option (Text × Text)
  | [] => if p = [] then some ([], []) else none
  | c :: t =>
    if p.isPrefixOf (c :: t) then some ([], (c :: t).drop p.length)
    else (cut? p t).map fun s => (c :: s.1, s.2)

/-- What stands before and after the last occurrence of the character `c`. -/
def cutLast? (c : Char) : Text → Option (Text × Text)
  | [] => none
  | d :: t =>
    match cutLast? c t with
    | some s => some (d :: s.1, s.2)
    | none => if d = c then some ([], t) else none

/-! ### Replacing -/

/-- The first occurrence of `old` replaced by `new`. -/
def replaceFirst (old new t : Text) : Text :=
  match cut? old t with
  | some (before, after) => before ++ new ++ after
  | none => t

/-- Replacing with `skip` characters of the last occurrence still to be passed over. -/
def replaceFrom (old new : Text) : Nat → Text → Text
  | _, [] => []
  | skip + 1, _ :: t => replaceFrom old new skip t
  | 0, c :: t =>
    if old.isPrefixOf (c :: t) then new ++ replaceFrom old new (old.length - 1) t
    else c :: replaceFrom old new 0 t

/-- Every occurrence of the non-empty text `old`, from the left and without overlap, replaced by
`new`. -/
def replaceAll (old new t : Text) : Text := replaceFrom old new 0 t

/-! ### Splitting -/

/-- Splitting with `skip` characters of the last separator still to be passed over. -/
def piecesFrom (sep : Text) : Nat → Text → List Text
  | _, [] => [[]]
  | skip + 1, _ :: t => piecesFrom sep skip t
  | 0, c :: t =>
    if sep.isPrefixOf (c :: t) then [] :: piecesFrom sep (sep.length - 1) t
    else (piecesFrom sep 0 t).modifyHead (c :: ·)

/-- The parts of a text between the occurrences of the non-empty text `sep`, from the left and
without overlap. -/
def pieces (sep t : Text) : List Text := piecesFrom sep 0 t

/-- The entries of a written list: the parts between spaces and line breaks, without the empty
ones. -/
def entries (t : Text) : List Text :=
  (t.splitOnP fun c => c = ' ' || c = '\n').filter (!·.isEmpty)

/-! ### Numbers and bytes -/

/-- A number in decimal digits. -/
def decimal (n : Nat) : Text := Nat.toDigits 10 n

/-- Every character is below U+0080. -/
def isAscii (t : Text) : Bool := t.all fun c => c.toNat < 128

theorem isAscii_append (s t : Text) : isAscii (s ++ t) = (isAscii s && isAscii t) :=
  List.all_append

/-- The UTF-8 bytes of a text. -/
def utf8 (t : Text) : List UInt8 := t.flatMap String.utf8EncodeChar

/-- The number of UTF-8 bytes of a text. -/
def utf8Length : Text → Nat
  | [] => 0
  | c :: t => c.utf8Size + utf8Length t

end Text
end ContentBlocker
