import ContentBlocker.Filter.Rule
import ContentBlocker.Filter.Error
import ContentBlocker.Pattern.Compile
import ContentBlocker.Text.Blank

/-!
# Address filters

The regular expressions of triggers.

* `checkSafe` refuses the constructs that a content blocker does not understand;
* `UrlRule.urlFilter` is the address filter of a network rule.
-/

namespace ContentBlocker

namespace UrlFilter

/-! ### Unsafe constructs -/

/-- A text or a part of it up to its end satisfies `p`. -/
def anyTail (p : Text → Bool) : Text → Bool
  | [] => p []
  | c :: t => p (c :: t) || anyTail p t

/-- A text starts with a count in braces. -/
def startsWithCount : Text → Bool
  | '\x7b' :: t =>
    let isCount := fun c : Char => c.isDigit || c = ','
    !(t.takeWhile isCount).isEmpty && (t.dropWhile isCount).head? = some '\x7d'
  | _ => false

/-- A text starts with a `|` that no backslash stands before, behind another character. -/
def startsWithPipe : Text → Bool
  | c :: '|' :: _ => c ≠ '\\'
  | _ => false

/-- A text starts with a negative look-ahead, closed on the same line. -/
def startsWithLookahead (t : Text) : Bool :=
  (Text.stripStart? "(?!" t).any fun rest => (rest.takeWhile (· ≠ '\n')).contains ')'

/-- The letters of the escapes that are not understood. -/
def metaLetters : Text := "bBdDfnrsStvwW"

/-- A text starts with such an escape, behind another character than a backslash. -/
def startsWithMeta : Text → Bool
  | c :: '\\' :: d :: _ => c ≠ '\\' && metaLetters.contains d
  | _ => false

/-- The text holds the construct. -/
def holds (t : Text) : UnsafeConstruct → Bool
  | .digitQuantifier => anyTail startsWithCount t
  | .pipe => anyTail startsWithPipe t
  | .nonAscii => !Text.isAscii t
  | .negativeLookahead => anyTail startsWithLookahead t
  | .metacharacter => anyTail startsWithMeta t

/-- The constructs in the order in which they are looked for. -/
def constructs : List UnsafeConstruct :=
  [.digitQuantifier, .pipe, .nonAscii, .negativeLookahead, .metacharacter]

/-- The first construct in a text that is not understood. -/
def findUnsafe? (t : Text) : Option UnsafeConstruct := constructs.find? (holds t)

/-- Refuse a text with a construct that is not understood. -/
def checkSafe (t : Text) : Except RuleError Unit :=
  match findUnsafe? t with
  | some construct => .error (.unsafeRegexp construct)
  | none => .ok ()

/-! ### Filters of rules -/

/-- The patterns that every address matches. -/
def anyAddressPatterns : List Text := ["||*", "", "*", "|*"]

end UrlFilter

/-- The address filter of a network rule.  A rule for web sockets only must not match other
addresses, so its filter names the scheme if the pattern does not. -/
def UrlRule.urlFilter (r : UrlRule) : Text :=
  let forSockets := r.isOnlyFor .webSocket
  if UrlFilter.anyAddressPatterns.contains r.pattern then
    if forSockets then Pattern.anySocket else Pattern.anyAddress
  else if r.isRegex && !r.regex.isEmpty then r.regex
  else if r.regex.isEmpty then Pattern.anyAddress
  else if forSockets && r.regex.head? ≠ some '^' && !List.isPrefixOf ['w', 's'] r.regex then
    Pattern.anySocket ++ Pattern.anything ++ r.regex
  else r.regex

end ContentBlocker
