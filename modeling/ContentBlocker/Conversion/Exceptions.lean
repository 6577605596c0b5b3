import ContentBlocker.Blocker.Json
import ContentBlocker.Conversion.Diagnostics

/-!
# Exceptions of cosmetic rules and scripts

A content blocker cannot undo the hiding of single elements or single scripts.  The domains of such
an exception are moved into the rules that it is an exception of.

* `ExceptionKey` is what an exception and its rules have in common;
* `PayloadGroups` are the places of rules by what they have in common with exceptions;
* `Trigger.exclude` adds one domain to the trigger of a rule;
* `Exceptions.apply` moves the domains of all exceptions.
-/

namespace ContentBlocker

/-- What an exception and the rules that it undoes have in common. -/
inductive ExceptionKey where
  /-- The selector. -/
  | selector
  /-- The style or the extended selector, or else the selector. -/
  | css
  /-- The script. -/
  | script
  /-- The name of the scriptlet. -/
  | scriptlet
  deriving DecidableEq, Repr

namespace ExceptionKey

/-- What is compared. -/
def payload? (key : ExceptionKey) (a : Action) : Option Text :=
  match key with
  | selector => a.selector
  | css => a.css.or a.selector
  | script => a.script
  | scriptlet => a.scriptlet

/-- The name of a key. -/
def name : ExceptionKey → Text
  | selector => "selector"
  | css => "css"
  | script => "script"
  | scriptlet => "scriptlet"

end ExceptionKey

/-! ### Groups -/

/-- The places of rules in a list by their payload, each payload once. -/
abbrev PayloadGroups := List (Text × List Nat)

namespace PayloadGroups

/-- Add the place of a rule to the group of its payload. -/
def add (payload : Text) (place : Nat) : PayloadGroups → PayloadGroups
  | [] => [(payload, [place])]
  | (p, places) :: gs =>
    if p = payload then (p, places ++ [place]) :: gs else (p, places) :: add payload place gs

/-- Add a rule with its place, unless it has no payload. -/
def addRule (key : ExceptionKey) (gs : PayloadGroups) (r : BlockerRule × Nat) : PayloadGroups :=
  match key.payload? r.1.action with
  | some payload => gs.add payload r.2
  | none => gs

/-- The groups of some rules. -/
def ofRules (key : ExceptionKey) (rules : List BlockerRule) : PayloadGroups :=
  rules.zipIdx.foldl (addRule key) []

/-- The group of a payload, if some rule has it. -/
def places? (gs : PayloadGroups) (payload : Text) : Option (List Nat) := List.lookup payload gs

end PayloadGroups

/-! ### Moving domains -/

namespace Trigger

/-- An exception for the domain concerns the rule: the rule is for all domains, or for one that is
part of the domain. -/
def concerns (t : Trigger) (domain : Text) : Bool :=
  t.ifDomains.isEmpty || t.ifDomains.any (Text.has · domain)

/-- Exclude a domain from a rule that it concerns. -/
def exclude (t : Trigger) (domain : Text) : Trigger :=
  if t.concerns domain then { t with unlessDomain := some (t.unlessDomains ++ [domain]) } else t

end Trigger

/-- A rule with the domains of an exception excluded. -/
def BlockerRule.exclude (domains : List Text) (r : BlockerRule) : BlockerRule :=
  { r with trigger := domains.foldl Trigger.exclude r.trigger }

/-- What became of the exceptions. -/
structure ExceptionStats where
  /-- The exceptions that undo some rule. -/
  applied : Nat := 0
  /-- The rules that were left with both lists of domains. -/
  conflicts : Nat := 0
  deriving DecidableEq, Repr

namespace Exceptions

/-- The rules and the number of exceptions applied before and after one exception.  Only the rules
of its group change, each in its place. -/
def step (key : ExceptionKey) (groups : PayloadGroups) (s : Array BlockerRule × Nat)
    (e : BlockerRule) : Array BlockerRule × Nat :=
  match (key.payload? e.action).bind groups.places? with
  | none => s
  | some places =>
    (places.foldl (fun rules i => rules.modify i (.exclude e.trigger.ifDomains)) s.1, s.2 + 1)

/-- What is said of a rule that was left with both lists of domains. -/
def conflictNotes (r : BlockerRule) : Diagnostics :=
  [.debug "Safari does not support permitted and restricted domains in one rule",
    .debug r.toJson.compact]

/-- Move the domains of exceptions into the rules that they undo.  Rules that are left with both
lists of domains are dropped. -/
def apply (key : ExceptionKey) (rules exceptions : List BlockerRule) :
    List BlockerRule × ExceptionStats × Diagnostics :=
  let (changed, applied) :=
    exceptions.foldl (step key (.ofRules key rules)) (rules.toArray, 0)
  let (dropped, kept) := changed.toList.partition (·.trigger.hasConflict)
  let conflicts := dropped.length
  (kept, ⟨applied, conflicts⟩,
    Diagnostic.info ("Applying ".toList ++ Text.decimal exceptions.length ++ ' ' :: key.name ++
        " exceptions".toList) ::
      (dropped.flatMap conflictNotes ++
        [.info ("Exceptions ".toList ++ key.name ++ " applied: ".toList ++ Text.decimal applied),
          .info ("Exceptions ".toList ++ key.name ++ " errors: ".toList ++
            Text.decimal conflicts)]))

end Exceptions
end ContentBlocker
