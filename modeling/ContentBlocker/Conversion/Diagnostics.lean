import ContentBlocker.Text.Basic

/-!
# Diagnostics

The messages that a conversion leaves behind.  A function that has something to say returns its
messages, and its caller appends them to those before.
-/

namespace ContentBlocker

/-- The levels of messages. -/
inductive Level where
  | error
  | warn
  | info
  | debug
  | trace
  deriving DecidableEq, Repr

namespace Level

/-- The name of a level. -/
def name : Level → Text
  | error => "ERROR"
  | warn => "WARN"
  | info => "INFO"
  | debug => "DEBUG"
  | trace => "TRACE"

/-- All levels. -/
def all : List Level := [error, warn, info, debug, trace]

/-- The level with a name, in upper or lower case. -/
def ofName? (t : Text) : Option Level := all.find? fun l => l.name = t.map Char.toUpper

end Level

/-- A message. -/
structure Diagnostic where
  /-- How important the message is. -/
  level : Level
  /-- What it says. -/
  message : Text
  deriving DecidableEq, Repr

/-- Messages in the order they were recorded. -/
abbrev Diagnostics := List Diagnostic

namespace Diagnostic

/-- A message of level error. -/
def error (message : Text) : Diagnostic := ⟨.error, message⟩

/-- A message of level info. -/
def info (message : Text) : Diagnostic := ⟨.info, message⟩

/-- A message of level debug. -/
def debug (message : Text) : Diagnostic := ⟨.debug, message⟩

end Diagnostic

namespace Diagnostics

/-- Record a message. -/
def push (ds : Diagnostics) (level : Level) (message : Text) : Diagnostics :=
  ds ++ [⟨level, message⟩]

/-- The number of messages of a level. -/
def count (ds : Diagnostics) (level : Level) : Nat := ds.countP (·.level = level)

end Diagnostics
end ContentBlocker
