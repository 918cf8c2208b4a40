import EnvBootstrap.Log.Event
import EnvBootstrap.Log.Field

/-!
# Directives

A directive says how much is shown of the messages that it is about: of all, of those whose target
begins with a text, or of those inside certain spans or with certain fields.
-/

namespace EnvBootstrap.Log

inductive Verbosity where
  | off
  | error
  | warn
  | info
  | debug
  | trace
  deriving DecidableEq

namespace Verbosity

def rank : Verbosity → Nat
  | .off => 0
  | .error => 1
  | .warn => 2
  | .info => 3
  | .debug => 4
  | .trace => 5

def all : List Verbosity := [.off, .error, .warn, .info, .debug, .trace]

def name : Verbosity → String
  | .off => "off"
  | .error => "error"
  | .warn => "warn"
  | .info => "info"
  | .debug => "debug"
  | .trace => "trace"

def rankOf? (text : List Char) : Option Nat :=
  let digits := if text.head? = some '+' then text.tail else text
  if digits ≠ [] ∧ digits.all Char.isDigit then some (Nat.ofDigitChars 10 digits 0) else none

def ofText? (text : String) : Option Verbosity :=
  if text = "" then some .error
  else all.find? fun verbosity =>
    verbosity.name.toList = text.toList.map Char.toLower ||
      some verbosity.rank = rankOf? text.toList

def ofLevel : Level → Verbosity
  | .info => .info
  | .debug => .debug

end Verbosity

structure Directive where
  /-- What a target has to begin with; absent if every target is meant. -/
  target : Option String := none
  span : Option String := none
  fields : List FieldTest := []
  verbosity : Verbosity := .trace
  deriving DecidableEq

inductive DirectiveFault where
  | malformed
  | field (fault : Regex.Fault)
  | unknownLevel
  /-- A part of the directive would begin or end inside a character. -/
  | brokenCharacter
  deriving DecidableEq

def DirectiveFault.message : DirectiveFault → String
  | .malformed => "invalid filter directive"
  | .field .malformed => "invalid field filter: error building NFA"
  | .field .unicodeWords =>
    "invalid field filter: unsupported regex feature for DFAs: cannot build DFAs for regexes " ++
      "with Unicode word boundaries; switch to ASCII word boundaries, or heuristically enable " ++
      "Unicode word boundaries or use a different regex engine"
  | .brokenCharacter => "a part of the directive ends inside a character"
  | .unknownLevel =>
    "error parsing level filter: expected one of \"off\", \"error\", \"warn\", " ++
      "\"info\", \"debug\", \"trace\", or a number 0-5"

namespace Directive

inductive Stage where
  | start
  | levelOrTarget (start : Nat)
  | span (start : Nat)
  | field (start : Nat)
  | behindField
  | behindSpan
  | level (start : Nat)

def isBetween (text : Bytes) (position : Nat) : Bool :=
  text[position]?.all fun b => b < 0x80 || 0xC0 ≤ b

def cut (text : Bytes) (start stop : Nat) : Except DirectiveFault String :=
  if isBetween text start && isBetween text stop then
    .ok (Utf8.lossy ((text.take stop).drop start))
  else .error .brokenCharacter

/-- The verbosity behind an equals sign; nothing there means everything. -/
def levelOf (text : String) : Except DirectiveFault Verbosity :=
  if text = "" then .ok .trace
  else match Verbosity.ofText? text with
    | some verbosity => .ok verbosity
    | none => .error .unknownLevel

def fieldTest (text : String) : Except DirectiveFault FieldTest :=
  if text = "" then .error .malformed
  else match FieldTest.ofText text with
    | .ok test => .ok test
    | .error fault => .error (.field fault)

def begins (c : Char) : Bool := Text.isLetterOrDigit c || c = '-' || c = ':' || c = '_'

def step (text : Bytes) (directive : Directive) (position : Nat) (c : Char) :
    Stage → Except DirectiveFault (Directive × Stage)
  | .start =>
    if c = '[' then .ok (directive, .span (position + 1))
    else if begins c then .ok (directive, .levelOrTarget position)
    else .error .malformed
  | .levelOrTarget start =>
    if c = '=' || c = '[' then do
      let target := some (← cut text start position)
      let next := if c = '=' then Stage.level else Stage.span
      return ({ directive with target }, next (position + 1))
    else .ok (directive, .levelOrTarget start)
  | .span start =>
    if c = ']' then do
      return ({ directive with span := some (← cut text start position) }, .behindSpan)
    else if c = '\x7b' then do
      let name ← cut text start position
      let span := if name = "" then none else some name
      return ({ directive with span }, .field (position + 1))
    else .ok (directive, .span start)
  | .field start =>
    if c = '\x7d' then do
      let test ← fieldTest (← cut text start position)
      return ({ directive with fields := directive.fields ++ [test] }, .behindField)
    else .ok (directive, .field start)
  | .behindField => if c = ']' then .ok (directive, .behindSpan) else .error .malformed
  | .behindSpan => if c = '=' then .ok (directive, .level (position + 1)) else .error .malformed
  | .level start => .ok (directive, .level start)

def finish (text : Bytes) (directive : Directive) : Stage → Except DirectiveFault Directive
  | .levelOrTarget start => do
    let word ← cut text start text.length
    match Verbosity.ofText? word with
    | some verbosity => return { directive with verbosity }
    | none => return { directive with target := some word }
  | .level start => do
    return { directive with verbosity := ← levelOf (← cut text start text.length) }
  | .behindSpan => .ok directive
  | _ => .error .malformed

def readFrom (text : Bytes) : Directive → Stage → Nat → List Char → Except DirectiveFault Directive
  | directive, stage, _, [] => finish text directive stage
  | directive, stage, position, c :: rest => do
    let (directive, stage) ← step text directive position c stage
    readFrom text directive stage (position + c.utf8Size) rest

/-- The directive in a text.  Blanks at its ends are not read, but positions are counted without
them and texts are cut out with them. -/
def ofText (text : String) : Except DirectiveFault Directive :=
  readFrom (Utf8.encode text) {} .start 0 (Text.trimmed text).toList

def messageField : String := "message"

/-- Whether a directive is about a log message, which is in no span. -/
def applies (directive : Directive) (event : Event) : Bool :=
  directive.span.isNone && directive.fields.all (fun test => test = ⟨messageField, none⟩) &&
    (match directive.target with
      | none => true
      | some target => target.toList.isPrefixOf event.target.toList)

/-- The length of the target in bytes, a directive for every target being the least specific, and
the number of fields. -/
def specificity (directive : Directive) : Nat × Nat :=
  (match directive.target with
    | none => 0
    | some target => target.utf8ByteSize + 1,
    directive.fields.length)

/-- Whether a directive is at least as specific as another; fields count behind the target. -/
def covers (directive other : Directive) : Bool :=
  let (length, fields) := directive.specificity
  let (length', fields') := other.specificity
  length' < length || (length = length' && fields' ≤ fields)

end Directive

end EnvBootstrap.Log
