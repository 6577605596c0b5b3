import ContentBlocker.Conversion.Compaction
import ContentBlocker.Conversion.Exceptions
import ContentBlocker.Conversion.Job

/-!
# Results of conversions

When all rules are converted, the domains of exceptions are moved into the rules they undo, hiding
rules are compacted, and the rules are put in order for the two outputs.

* `Sections` are the converted rules after exceptions and compaction;
* `Sections.basic` and `Sections.advanced` are the rules of the two outputs in order;
* `Job.finish` runs a job to its end and makes the result.
-/

namespace ContentBlocker

variable [Externals]

/-- The converted rules of a job after exceptions and compaction. -/
structure Sections where
  /-- Hiding rules. -/
  css : CompactedCss
  /-- Hiding rules with extended selectors, and styles. -/
  extendedCss : CompactedCss
  /-- Scripts. -/
  script : List BlockerRule
  /-- Scriptlets. -/
  scriptlets : List BlockerRule
  deriving DecidableEq, Repr

/-- The result of a conversion. -/
structure ConversionResult where
  /-- The number of rules in the basic output before the limit. -/
  totalConvertedCount : Nat
  /-- The number of rules in the basic output. -/
  convertedCount : Nat
  /-- The number of errors. -/
  errorsCount : Nat
  /-- The limit was exceeded. -/
  overLimit : Bool
  /-- The basic output. -/
  converted : Text
  /-- The advanced output and the number of rules in it. -/
  advancedBlocking : Option (Text × Nat)
  /-- What went wrong. -/
  errors : List Text
  /-- The counters. -/
  stats : ConversionStats
  deriving DecidableEq, Repr

namespace ConversionStats

/-- Count exceptions. -/
def addExceptions (s : ConversionStats) (e : ExceptionStats) : ConversionStats :=
  { s with
    exceptionsApplied := s.exceptionsApplied + e.applied
    exceptionConflicts := s.exceptionConflicts + e.conflicts }

end ConversionStats

namespace CompactedCss

/-- Without the rules for all domains, if `drop` is set. -/
def withoutWide (drop : Bool) (c : CompactedCss) : CompactedCss :=
  if drop then { c with wide := [] } else c

end CompactedCss

namespace Sections

/-! ### Order of the outputs -/

/-- The rules of the basic output, in order. -/
def basic (s : Sections) (emitted : List Emitted) : List BlockerRule :=
  s.css.wide ++ s.css.generic ++ inBucket .generichideExceptions emitted ++ s.css.specific ++
    inBucket .elemhideExceptions emitted ++ inBucket .urlBlocking emitted ++
    inBucket .other emitted ++ inBucket .important emitted ++
    inBucket .importantExceptions emitted ++ inBucket .documentExceptions emitted

/-- The rules of the advanced output, in order. -/
def advanced (s : Sections) (emitted : List Emitted) : List BlockerRule :=
  s.script ++ s.scriptlets ++ inBucket .jsinjectExceptions emitted ++ s.extendedCss.wide ++
    s.extendedCss.generic ++ inBucket .generichideExceptions emitted ++ s.extendedCss.specific ++
    inBucket .elemhideExceptions emitted ++ inBucket .other emitted ++
    inBucket .importantExceptions emitted ++ inBucket .documentExceptions emitted

/-! ### Summary -/

/-- The numbers of rules by category, as the summary names them. -/
def counts (s : Sections) (emitted : List Emitted) : List (Text × Nat) :=
  [("Basic rules", (inBucket .urlBlocking emitted).length),
    ("Basic important rules", (inBucket .important emitted).length),
    ("Elemhide rules (wide)", s.css.wide.length),
    ("Elemhide rules (generic domain sensitive)", s.css.generic.length),
    ("Exceptions Elemhide (wide)", (inBucket .generichideExceptions emitted).length),
    ("Elemhide rules (domain-sensitive)", s.css.specific.length),
    ("Script rules", s.script.length),
    ("Scriptlets rules", s.scriptlets.length),
    ("Extended Css Elemhide rules (wide)", s.extendedCss.wide.length),
    ("Extended Css Elemhide rules (generic domain sensitive)", s.extendedCss.generic.length),
    ("Extended Css Elemhide rules (domain-sensitive)", s.extendedCss.specific.length),
    ("Exceptions (elemhide)", (inBucket .elemhideExceptions emitted).length),
    ("Exceptions (important)", (inBucket .importantExceptions emitted).length),
    ("Exceptions (document)", (inBucket .documentExceptions emitted).length),
    ("Exceptions (jsinject)", (inBucket .jsinjectExceptions emitted).length),
    ("Exceptions (other)", (inBucket .other emitted).length)]

/-- The summary of a job. -/
def summary (s : Sections) (j : Job) : Diagnostic :=
  .info ("Rules converted: ".toList ++ Text.decimal (j.inputLength - j.errors.length) ++
    " (".toList ++ Text.decimal j.errors.length ++ " errors)".toList ++
    (s.counts j.emitted).flatMap fun c => '\n' :: c.1 ++ ':' :: ' ' :: Text.decimal c.2)

end Sections

namespace Job

/-! ### Aggregation -/

/-- Apply the exceptions to the hiding rules and compact them. -/
def cssSection (j : Job) : CompactedCss × ExceptionStats × Diagnostics :=
  let (rules, stats, notes) := Exceptions.apply .selector (inBucket .cssBlocking j.emitted)
    (inBucket .cssExceptions j.emitted)
  let css := CompactedCss.ofRules true rules
  (css.withoutWide j.options.optimize, stats, notes ++ css.notes rules)

/-- The same for hiding rules with extended selectors and for styles, whose selectors are not
joined. -/
def extendedCssSection (j : Job) : CompactedCss × ExceptionStats × Diagnostics :=
  let (rules, stats, notes) := Exceptions.apply .css (inBucket .extendedCssBlocking j.emitted)
    (inBucket .cssExceptions j.emitted ++ inBucket .cosmeticCssExceptions j.emitted)
  let css := CompactedCss.ofRules false rules
  (css.withoutWide j.options.optimize, stats, notes ++ css.notes rules)

/-- The converted rules after exceptions and compaction, the job with its counters, and what is
said. -/
def aggregate (j : Job) : Sections × Job × Diagnostics :=
  let (css, cssStats, cssNotes) := j.cssSection
  let stats := j.stats.addExceptions cssStats
  if j.options.advancedBlocking then
    let (extendedCss, extendedStats, extendedNotes) := j.extendedCssSection
    let (script, scriptStats, scriptNotes) := Exceptions.apply .script
      (inBucket .script j.emitted) (inBucket .scriptExceptions j.emitted)
    let (scriptlets, scriptletStats, scriptletNotes) := Exceptions.apply .scriptlet
      (inBucket .scriptlets j.emitted) (inBucket .scriptletExceptions j.emitted)
    let sections : Sections := ⟨css, extendedCss, script, scriptlets⟩
    (sections,
      { j with
        stats := ((stats.addExceptions extendedStats).addExceptions scriptStats).addExceptions
          scriptletStats },
      cssNotes ++ extendedNotes ++ scriptNotes ++ scriptletNotes ++ [sections.summary j])
  else
    let sections : Sections := ⟨css, {}, [], []⟩
    (sections, { j with stats }, cssNotes ++ [sections.summary j])

/-! ### Results -/

/-- What is said when there are more rules than the limit. -/
def limitError (limit : Nat) : Text :=
  Text.decimal limit ++ " limit is achieved. Next rules will be ignored.".toList

/-- A list of rules up to a limit, where zero is no limit. -/
def truncate (limit : Nat) (rules : List BlockerRule) : List BlockerRule :=
  if limit = 0 then rules else rules.take limit

/-- There are more rules than the limit. -/
def isOverLimit (limit : Nat) (rules : List BlockerRule) : Bool :=
  0 < limit && limit < rules.length

/-- The rules of the basic output. -/
def basicRules (j : Job) (s : Sections) : List BlockerRule :=
  (truncate j.options.limit (s.basic j.emitted)).map BlockerRule.withWildcards

/-- The rules of the advanced output. -/
def advancedRules (j : Job) (s : Sections) : List BlockerRule :=
  (s.advanced j.emitted).map BlockerRule.withWildcards

/-- The result of a job whose rules are all converted. -/
def result (j : Job) (s : Sections) : ConversionResult × Diagnostics :=
  let all := s.basic j.emitted
  let isOver := isOverLimit j.options.limit all
  let overErrors := if isOver then [limitError j.options.limit] else []
  let basic := j.basicRules s
  let advanced := if j.options.advancedBlocking then some (j.advancedRules s) else none
  let errors := j.errors ++ overErrors
  ({ totalConvertedCount := all.length
     convertedCount := basic.length
     errorsCount := errors.length
     overLimit := isOver
     converted := BlockerRule.writeAll basic
     advancedBlocking := advanced.map fun rs => (BlockerRule.writeAll rs, rs.length)
     errors
     stats := j.stats },
    overErrors.map .error ++
      Diagnostic.info ("Content blocker length: ".toList ++ Text.decimal basic.length) ::
      (advanced.map fun rs =>
        Diagnostic.info ("Advanced Blocking length: ".toList ++ Text.decimal rs.length)).toList)

/-- Run a job to its end.  Nothing results from no lines. -/
def finish (j : Job) : Option ConversionResult × Diagnostics :=
  if j.inputLength = 0 then (none, [.info "No rules presented for conversion"])
  else
    let (last, notes) := j.run
    let (sections, last, more) := last.aggregate
    let (result, rest) := last.result sections
    (some result, notes ++ more ++ rest)

end Job

/-- Convert lines. -/
def convert (sources : List Source) (options : ConvertOptions) :
    Option ConversionResult × Diagnostics :=
  (Job.start sources options).finish

/-- Counters as a value. -/
def ConversionStats.toJson (s : ConversionStats) : Json :=
  .obj [("inputRules", .ofNat s.inputRules), ("parseErrors", .ofNat s.parseErrors),
    ("conversionErrors", .ofNat s.conversionErrors), ("badfilterRules", .ofNat s.badfilterRules),
    ("badfilteredRules", .ofNat s.badfilteredRules),
    ("exceptionsApplied", .ofNat s.exceptionsApplied),
    ("exceptionConflicts", .ofNat s.exceptionConflicts)]

namespace ConversionResult

/-- The fields of the advanced output, left out if there is none. -/
def advancedFields : Option (Text × Nat) → List (Text × Json)
  | some (text, count) =>
    [("advancedBlocking", .str text), ("advancedBlockingConvertedCount", .ofNat count)]
  | none => []

/-- A result as a value. -/
def toJson (r : ConversionResult) : Json :=
  let front : List (Text × Json) :=
    [("totalConvertedCount", .ofNat r.totalConvertedCount),
      ("convertedCount", .ofNat r.convertedCount), ("errorsCount", .ofNat r.errorsCount),
      ("overLimit", .bool r.overLimit), ("converted", .str r.converted)]
  let back : List (Text × Json) := [("errors", .ofTexts r.errors), ("stats", r.stats.toJson)]
  .obj (front ++ advancedFields r.advancedBlocking ++ back)

end ConversionResult
end ContentBlocker
