import ContentBlocker.Unicode.CaseData
import ContentBlocker.Unicode.Table

/-!
# Letter case

Full case mappings of texts: one character may become several, and a capital sigma at the end of
a word becomes a final sigma.

* `lower` is a text in lower case;
* `upper` is a text in upper case.
-/

namespace ContentBlocker

namespace Unicode

/-- Lower case mappings of single characters. -/
def lowerTable : Table := Table.read lowerData

/-- Upper case mappings of single characters. -/
def upperTable : Table := Table.read upperData

/-- The characters with the property Cased. -/
def casedTable : Table := Table.read casedData

/-- The characters with the property Case_Ignorable. -/
def caseIgnorableTable : Table := Table.read caseIgnorableData

/-- The lower case of one character on its own. -/
def lowerChar (c : Char) : Text :=
  if c.toNat < 128 then [c.toLower]
  else match lowerTable.image? c.toNat with
    | some ns => chars ns
    | none => [c]

/-- The upper case of one character. -/
def upperChar (c : Char) : Text :=
  if c.toNat < 128 then [c.toUpper]
  else match upperTable.image? c.toNat with
    | some ns => chars ns
    | none => [c]

/-- The first character that is not ignored in questions of case is a cased one. -/
def startsCased (t : Text) : Bool :=
  match t.dropWhile fun c => caseIgnorableTable.holds c.toNat with
  | [] => false
  | c :: _ => casedTable.holds c.toNat

/-- Lower case of a text that stands after the characters `before`, the nearest of them first.  A
capital sigma that ends a word becomes a final sigma. -/
def lowerAfter (before : Text) : Text → Text
  | [] => []
  | c :: t =>
    (if c = 'Σ' then [if startsCased before && !startsCased t then 'ς' else 'σ'] else lowerChar c)
      ++ lowerAfter (c :: before) t

end Unicode

namespace Text

/-- A text in lower case. -/
def lower (t : Text) : Text := Unicode.lowerAfter [] t

/-- A text in upper case. -/
def upper (t : Text) : Text := t.flatMap Unicode.upperChar

/-- A text with its ASCII letters in lower case. -/
def lowerAscii (t : Text) : Text := t.map Char.toLower

end Text
end ContentBlocker
