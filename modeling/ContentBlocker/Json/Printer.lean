import ContentBlocker.Json.Basic

/-!
# Writing JSON

`Json.compact` writes a value without any blanks, and `Json.pretty` with one field or item on a
line, indented by tabulators.
-/

namespace ContentBlocker.Json

/-- A hexadecimal digit in lower case. -/
def hexChar (n : Nat) : Char := Nat.digitChar n

/-- One character inside of a string.  Quotation marks, backslashes and control characters are
escaped. -/
def escapeChar (c : Char) : Text :=
  if c = '"' then ['\\', '"']
  else if c = '\\' then ['\\', '\\']
  else if c = '\x08' then ['\\', 'b']
  else if c = '\t' then ['\\', 't']
  else if c = '\n' then ['\\', 'n']
  else if c = '\x0c' then ['\\', 'f']
  else if c = '\r' then ['\\', 'r']
  else if c.toNat < 32 then
    ['\\', 'u', '0', '0', hexChar (c.toNat / 16), hexChar (c.toNat % 16)]
  else [c]

/-- A string in quotation marks. -/
def quote (t : Text) : Text := '"' :: (t.flatMap escapeChar ++ ['"'])

/-- A string that holds half of a pair of surrogates. -/
def brokenText : Text := "\"\\ud800\""

/-! ### Without blanks -/

mutual

/-- A value without blanks. -/
def compact : Json → Text
  | .null => "null"
  | .bool true => "true"
  | .bool false => "false"
  | .num digits => digits
  | .str t => quote t
  | .arr items => '[' :: (compactItems items ++ [']'])
  | .obj fields => '\x7b' :: (compactFields fields ++ ['\x7d'])
  | .broken => brokenText

/-- Items without blanks, with commas between. -/
def compactItems : List Json → Text
  | [] => []
  | [j] => j.compact
  | j :: items => j.compact ++ ',' :: compactItems items

/-- Fields without blanks, with commas between. -/
def compactFields : List (Text × Json) → Text
  | [] => []
  | [(k, j)] => quote k ++ ':' :: j.compact
  | (k, j) :: fields => quote k ++ ':' :: (j.compact ++ ',' :: compactFields fields)

end

/-! ### On lines -/

/-- The start of a line at a depth. -/
def indent (depth : Nat) : Text := '\n' :: List.replicate depth '\t'

mutual

/-- A value on lines, at a depth. -/
def prettyAt (depth : Nat) : Json → Text
  | .null => "null"
  | .bool true => "true"
  | .bool false => "false"
  | .num digits => digits
  | .str t => quote t
  | .arr [] => ['[', ']']
  | .arr (j :: items) => '[' :: (prettyItems (depth + 1) (j :: items) ++ indent depth ++ [']'])
  | .obj [] => ['\x7b', '\x7d']
  | .obj (f :: fields) =>
    '\x7b' :: (prettyFields (depth + 1) (f :: fields) ++ indent depth ++ ['\x7d'])
  | .broken => brokenText

/-- Items on lines of their own. -/
def prettyItems (depth : Nat) : List Json → Text
  | [] => []
  | [j] => indent depth ++ prettyAt depth j
  | j :: items => indent depth ++ prettyAt depth j ++ ',' :: prettyItems depth items

/-- Fields on lines of their own. -/
def prettyFields (depth : Nat) : List (Text × Json) → Text
  | [] => []
  | [(k, j)] => indent depth ++ quote k ++ ':' :: ' ' :: prettyAt depth j
  | (k, j) :: fields =>
    indent depth ++ quote k ++ ':' :: ' ' :: (prettyAt depth j ++ ',' :: prettyFields depth fields)

end

/-- A value on lines. -/
def pretty (j : Json) : Text := prettyAt 0 j

end ContentBlocker.Json
