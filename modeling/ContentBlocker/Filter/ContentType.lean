import ContentBlocker.Text.Basic

/-!
# Content types and options

The modifiers of network rules come in two kinds: the types of content that a rule is for, and
options that change what it does.  Sets of either kind are kept as words with one bit for each
member.
-/

namespace ContentBlocker

/-! ### Content types -/

/-- The types of content that a network rule can name. -/
inductive ContentType where
  | other
  | script
  | image
  | stylesheet
  | object
  | subdocument
  | xmlHttpRequest
  | objectSubrequest
  | media
  | font
  | webSocket
  | webRtc
  | document
  deriving DecidableEq, Repr

/-- A set of content types. -/
abbrev TypeSet := BitVec 13

namespace ContentType

/-- The place of the bit of a content type. -/
def index : ContentType → Nat
  | other => 0
  | script => 1
  | image => 2
  | stylesheet => 3
  | object => 4
  | subdocument => 5
  | xmlHttpRequest => 6
  | objectSubrequest => 7
  | media => 8
  | font => 9
  | webSocket => 10
  | webRtc => 11
  | document => 12

/-- The content types in the order of their bits. -/
def all : List ContentType :=
  [other, script, image, stylesheet, object, subdocument, xmlHttpRequest, objectSubrequest, media,
    font, webSocket, webRtc, document]

/-- The set of one content type. -/
def single (t : ContentType) : TypeSet := BitVec.twoPow 13 t.index

/-- The names of the modifiers. -/
def names : List (Text × ContentType) :=
  [("other", other), ("script", script), ("image", image), ("stylesheet", stylesheet),
    ("object", object), ("subdocument", subdocument), ("xmlhttprequest", xmlHttpRequest),
    ("object-subrequest", objectSubrequest), ("object_subrequest", objectSubrequest),
    ("media", media), ("font", font), ("websocket", webSocket), ("webrtc", webRtc),
    ("document", document)]

/-- The content type that a modifier names. -/
def ofName? (name : Text) : Option ContentType := names.lookup name

end ContentType

namespace TypeSet

/-- No content type. -/
def empty : TypeSet := 0#13

/-- All content types. -/
def all : TypeSet := BitVec.allOnes 13

/-- The set holds a content type. -/
def has (s : TypeSet) (t : ContentType) : Bool := s.getLsbD t.index

end TypeSet

/-! ### Options -/

/-- The options of a network rule. -/
inductive RuleOption where
  /-- No element is hidden on the page. -/
  | elemhide
  /-- The rule is for loads from other sites. -/
  | thirdParty
  /-- No element is hidden on the page by rules for all domains. -/
  | generichide
  /-- Nothing is blocked on the page by rules for all domains. -/
  | genericblock
  /-- No script runs on the page. -/
  | jsinject
  /-- Nothing is blocked on the page. -/
  | urlblock
  /-- The text of the page is not filtered. -/
  | content
  /-- The rule closes windows that pop up. -/
  | popup
  /-- The rule answers with nothing. -/
  | emptyResponse
  /-- Upper and lower case differ. -/
  | matchCase
  /-- The rule sets a content security policy. -/
  | csp
  deriving DecidableEq, Repr

/-- A set of options. -/
abbrev OptionSet := BitVec 11

namespace RuleOption

/-- The place of the bit of an option. -/
def index : RuleOption → Nat
  | elemhide => 0
  | thirdParty => 1
  | generichide => 2
  | genericblock => 3
  | jsinject => 4
  | urlblock => 5
  | content => 6
  | popup => 7
  | emptyResponse => 8
  | matchCase => 9
  | csp => 10

/-- The options in the order of their bits. -/
def all : List RuleOption :=
  [elemhide, thirdParty, generichide, genericblock, jsinject, urlblock, content, popup,
    emptyResponse, matchCase, csp]

/-- The set of one option. -/
def single (o : RuleOption) : OptionSet := BitVec.twoPow 11 o.index

end RuleOption

namespace OptionSet

/-- No option. -/
def empty : OptionSet := 0#11

/-- The set of some options. -/
def ofList (os : List RuleOption) : OptionSet := os.foldl (fun s o => s ||| o.single) empty

/-- The set holds an option. -/
def has (s : OptionSet) (o : RuleOption) : Bool := s.getLsbD o.index

/-- The first set holds all of the second. -/
def contains (s t : OptionSet) : Bool := s &&& t = t

/-- The two sets have a common member. -/
def intersects (s t : OptionSet) : Bool := s &&& t ≠ empty

/-- What the modifier for documents sets. -/
def documentException : OptionSet := ofList [.elemhide, .urlblock, .jsinject, .content]

/-- What only exceptions may set. -/
def exceptionOnly : OptionSet :=
  ofList [.elemhide, .jsinject, .content, .generichide, .genericblock]

/-- What only other rules may set. -/
def blockingOnly : OptionSet := ofList [.emptyResponse]

/-- What makes a rule one for documents. -/
def documentLevel : OptionSet :=
  ofList [.jsinject, .elemhide, .content, .urlblock, .popup, .genericblock, .generichide]

end OptionSet
end ContentBlocker
