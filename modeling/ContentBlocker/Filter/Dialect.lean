import ContentBlocker.Text.Escaped
import ContentBlocker.Text.Quoted

/-!
# Dialects

Other blockers write some rules differently.  `Dialect.normalize` gives the rules in the common form
that one rule stands for:

* `scriptletCall?` for scriptlets after `+js`;
* `snippets?` for snippets, several of which may stand in one rule;
* `scriptContents?` for rules on the text of scripts;
* `allTypes?` for the option that stands for documents and windows that pop up.
-/

namespace ContentBlocker.Dialect

/-! ### Scriptlet rules -/

/-- A text in quotation marks, with a backslash before every quotation mark. -/
def quoteArg (arg : Text) : Text :=
  '"' :: ((arg.flatMap fun c => if c = '"' then ['\\', '"'] else [c]) ++ ['"'])

/-- The sign of scriptlet rules. -/
def scriptletSign (isException : Bool) : Text :=
  if isException then "#@%#//scriptlet(" else "#%#//scriptlet("

/-- A scriptlet rule in the common form. -/
def scriptletRule (domains : Text) (isException : Bool) (name : Text) (args : List Text) : Text :=
  domains ++ scriptletSign isException ++
    [',', ' '].intercalate (quoteArg name :: args.map quoteArg) ++ [')']

/-- Split a rule at the first sign, or else at the second, which is that of exceptions. -/
def splitAtSign? (sign exceptionSign rule : Text) : Option (Text × Bool × Text) :=
  match Text.cut? sign rule with
  | some (before, after) => some (before, false, after)
  | none => (Text.cut? exceptionSign rule).map fun s => (s.1, true, s.2)

/-! ### Scriptlets after `+js` -/

/-- The rule that `domains##+js(name, arguments)` stands for. -/
def scriptletCall? (rule : Text) : Option Text :=
  match splitAtSign? "##+js(" "#@#+js(" rule with
  | none => none
  | some (domains, isException, after) =>
    let inner := (Text.stripEnd? [')'] after).getD after
    match (inner.splitOn ',').map Text.trim with
    | (c :: name) :: args =>
      some (scriptletRule domains isException ("ubo-".toList ++ c :: name) args)
    | _ => none

/-! ### Snippets -/

/-- What follows the sign of a style rule: something without a line break, blanks, and braces around
something without a line break.  The text ends before the closing brace; `before` is what precedes
it, the nearest character first. -/
def isStyleBody (before : Text) : Text → Bool
  | [] => false
  | c :: t =>
    (c = '\x7b' && t.all (· ≠ '\n') &&
      match before.reverse.span (· ≠ '\n') with
      | ([], _) => false
      | (_, rest) => rest.all Text.isBlank) ||
      isStyleBody (c :: before) t

/-- Somewhere in a text without its closing brace a style rule begins. -/
def hasStyle : Text → Bool
  | [] => false
  | c :: t =>
    ((Text.stripStart? "#$#" (c :: t)).any (isStyleBody []) ||
      (Text.stripStart? "#@$#" (c :: t)).any (isStyleBody [])) || hasStyle t

/-- The rule applies a style and holds no snippets. -/
def isStyleRule (rule : Text) : Bool := (Text.stripEnd? ['\x7d'] (Text.trimEnd rule)).any hasStyle

/-- The scriptlet rule that one snippet stands for. -/
def snippet? (domains : Text) (isException : Bool) (statement : Text) : Option Text :=
  match Text.words statement with
  | name :: args => some (scriptletRule domains isException ("abp-".toList ++ name) args)
  | [] => none

/-- The rules that `domains#$#snippet argument; snippet argument` stands for. -/
def snippets? (rule : Text) : Option (List Text) :=
  match splitAtSign? "#$#" "#@$#" rule with
  | none => none
  | some (domains, isException, after) =>
    if isStyleRule rule then none
    else
      match (Text.splitOutsideQuotes ';' '\'' after).filterMap (snippet? domains isException) with
      | [] => none
      | rules => some rules

/-! ### Texts of scripts -/

/-- The sign of rules on the text of scripts. -/
def scriptSign : Text := "##^script"

/-- The start of a condition on the text of a script. -/
def hasText : Text := ":has-text("

/-- A condition is a regular expression. -/
def isRegexCondition (t : Text) : Bool :=
  2 ≤ t.length && t.head? = some '/' && t.getLast? = some '/'

/-- The rule for scripts with a text in them. -/
def contentRule (domains content : Text) : Text :=
  domains ++ "$$script[tag-content=\"".toList ++ content ++ ['"', ']']

/-- The rule for scripts that regular expressions match. -/
def regexRule (domains : Text) (conditions : List Text) : Text :=
  domains ++ scriptSign ++ conditions.flatMap fun c => hasText ++ c ++ [')']

/-- The rules that `domains##^script:has-text(a):has-text(b)` stands for: one for every text, and
one for all the regular expressions, unless there are only these. -/
def scriptContents? (rule : Text) : Option (List Text) :=
  match Text.cut? scriptSign rule with
  | none => none
  | some (domains, chain) =>
    match Text.pieces hasText chain with
    | [] :: parts =>
      match parts.mapM (Text.stripEnd? [')']) with
      | none => none
      | some conditions =>
        let (regexes, contents) := conditions.partition isRegexCondition
        if contents.isEmpty then none
        else some (contents.map (contentRule domains) ++
          if regexes.isEmpty then [] else [regexRule domains regexes])
    | _ => none

/-! ### All types -/

/-- The option that stands for others. -/
def allOption : Text := "all"

/-- What it stands for. -/
def allReplacements : List Text := ["document", "popup"]

/-- The first of some tokens that is the given one replaced by another. -/
def replaceToken (old new : Text) : List Text → List Text
  | [] => []
  | t :: ts => if t = old then new :: ts else t :: replaceToken old new ts

/-- The rules that a rule with the option `all` stands for. -/
def allTypes? (rule : Text) : Option (List Text) :=
  match Text.cutLastUnescaped? '$' '\\' rule with
  | none => none
  | some (pattern, options) =>
    let tokens := options.splitOn ','
    if tokens.contains allOption then
      some (allReplacements.map fun new =>
        pattern ++ '$' :: [','].intercalate (replaceToken allOption new tokens))
    else none

/-! ### All dialects -/

/-- The rules in the common form that a rule stands for. -/
def normalize (rule : Text) : List Text :=
  match scriptletCall? rule with
  | some r => [r]
  | none =>
    match snippets? rule with
    | some rs => rs
    | none =>
      match scriptContents? rule with
      | some rs => rs
      | none => (allTypes? rule).getD [rule]

end ContentBlocker.Dialect
