import ContentBlocker.Text.Basic

/-!
# Patterns as regular expressions

Network rules match addresses by a small wildcard language: `||` binds a pattern to the start of a
host name, `|` to the start or the end of the address, `*` stands for any characters and `^` for a
separator.  `Pattern.compile` writes a pattern as a regular expression.

The device builds an automaton for every expression, so they stay small: a host may have one more
label in front, and the separator is one optional character.
-/

namespace ContentBlocker.Pattern

/-! ### Fixed expressions -/

/-- The expression for the start of a host name. -/
def hostStart : Text := "^[htpsw]+:\\/\\/([a-z0-9-]+\\.)?"

/-- The expression for a separator. -/
def separator : Text := "[/:&?]?"

/-- The expression for any characters. -/
def anything : Text := ".*"

/-- The expression that every address matches. -/
def anyAddress : Text := "^[htpsw]+:\\/\\/"

/-- The expression that every address of a web socket matches. -/
def anySocket : Text := "^wss?:\\/\\/"

/-! ### The passes -/

/-- The characters that a regular expression gives a meaning to, the masks excepted. -/
def specials : Text := ".+?$\x7b\x7d()[]\\/"

/-- Put a backslash before every special character. -/
def escapeSpecials (t : Text) : Text := t.flatMap fun c => if c ∈ specials then ['\\', c] else [c]

/-- Put a backslash before every `|`. -/
def escapePipes (t : Text) : Text := t.flatMap fun c => if c = '|' then ['\\', '|'] else [c]

/-- Write out the masks `*` and `^`. -/
def writeMasks (t : Text) : Text :=
  (t.flatMap fun c => if c = '*' then anything else [c]).flatMap fun c =>
    if c = '^' then separator else [c]

/-- The anchor at the start of a pattern. -/
def startMask (t : Text) : Text :=
  if ['|', '|'].isPrefixOf t then ['|', '|'] else if ['|'].isPrefixOf t then ['|'] else []

/-- Write out the anchor at the start of a pattern. -/
def writeStart (t : Text) : Text :=
  match Text.stripStart? ['|', '|'] t with
  | some rest => hostStart ++ rest
  | none =>
    match Text.stripStart? ['|'] t with
    | some rest => '^' :: rest
    | none => t

/-- Write out the anchor at the end of a pattern. -/
def writeEnd (t : Text) : Text :=
  match Text.stripEnd? ['|'] t with
  | some rest => rest ++ ['$']
  | none => t

/-- The patterns that every address matches. -/
def matchAll : List Text := ["||", "|", "*"]

/-- A pattern as a regular expression.  A `|` is literal except in the anchors at the two ends. -/
def compile (pattern : Text) : Text :=
  if matchAll.contains pattern then anything
  else
    let escaped := escapeSpecials pattern
    let start := startMask escaped
    let rest := escaped.drop start.length
    let piped := start ++ escapePipes rest.dropLast ++ rest.getLast?.toList
    writeEnd (writeStart (writeMasks piped))

end ContentBlocker.Pattern
