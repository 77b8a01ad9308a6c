/-
# Log filters

A filter is written as directives with commas between them.  A directive
gives a level to the targets that begin with a name, or to all targets if it
names none; it may be confined to a span and to events with a certain field,
in brackets after the name.

Events of this program lie outside of spans, and no field is known by its
value before it is logged.  So a directive with a span, or with a value for
its field, has no bearing on them.  Of the others that apply to an event the
closest counts: the one with the longest name, then one with a field before
one without, and of several alike the last one.  Where none applies, nothing
is logged.

The form of a directive is told without the blanks around it, but its parts
are cut from the text with them, at the same number of bytes from the start.
So a bare name keeps its blanks, and a level that has any is none.
-/
import DirectorySessions.Logging.Level
import DirectorySessions.Text.Alphanumeric
import DirectorySessions.Text.Blank
import DirectorySessions.Text.Bytes
import DirectorySessions.Text.Parts
import DirectorySessions.Text.Pattern

namespace DirectorySessions

/-- How talkative a target may be; nothing is logged without a level. -/
abbrev LogLimit := Option LogLevel

/-- A test for a field: that there is one of a name, or that its value is a
number, a truth value, or a text that a pattern describes. -/
structure FieldTest where
  name : String
  value : Option String
deriving DecidableEq

/-- A directive for the targets that begin with a name, or for all; in a span,
or anywhere; for events with a field, or for all. -/
structure Directive where
  target : Option String
  span : Option String
  field : Option FieldTest
  limit : LogLimit
deriving DecidableEq

/-- A filter: the directives that bear on events, in order. -/
abbrev LogFilter := List Directive

namespace FieldTest

/-- Is it a decimal number without a sign, perhaps with a point and an
exponent? -/
def isDecimal (cs : List Char) : Bool :=
  let whole := cs.takeWhile Char.isDigit
  let afterWhole := cs.dropWhile Char.isDigit
  let fraction := match afterWhole with
    | '.' :: ds => ds.takeWhile Char.isDigit
    | _ => []
  let rest := match afterWhole with
    | '.' :: ds => ds.dropWhile Char.isDigit
    | ds => ds
  let exponent (ds : List Char) : Bool := !ds.isEmpty && ds.all Char.isDigit
  !(whole ++ fraction).isEmpty && match rest with
    | [] => true
    | e :: '+' :: ds => (e = 'e' || e = 'E') && exponent ds
    | e :: '-' :: ds => (e = 'e' || e = 'E') && exponent ds
    | e :: ds => (e = 'e' || e = 'E') && exponent ds

/-- Is it a number with a plus sign?  Other numbers, and truth values, are
patterns too. -/
def isPlusNumber : List Char → Bool
  | '+' :: cs =>
    Text.lower (String.ofList cs) ∈ ["inf", "infinity", "nan"] || isDecimal cs
  | _ => false

/-- Read a test: a name, and perhaps a value after an equals sign; what comes
after another equals sign is of no account. -/
def read (cs : List Char) : Option FieldTest :=
  match Text.cutAt '=' cs with
  | [] => none
  | [name] => some ⟨String.ofList name, none⟩
  | name :: value :: _ =>
    if isPlusNumber value || Text.isPattern value then
      some ⟨String.ofList name, some (String.ofList value)⟩
    else none

end FieldTest

namespace Directive

/-! ## Reading -/

/-- What a directive may begin with: a letter, a digit, a dash, a colon or an
underscore. -/
def mayBegin (c : Char) : Bool :=
  c = '-' || c = ':' || c = '_' || Text.isAlphanumeric c

/-- Read a limit: a level, zero or "off". -/
def readLimit (s : String) : Option LogLimit :=
  match LogLevel.read s with
  | some l => some (some l)
  | none =>
    if Decimal.readWord 64 s = some 0 ∨ Text.lower s = "off" then some none else none

/-- Read the limit after an equals sign; a missing one is no limit. -/
def readLimitAfter (cs : List Char) : Option LogLimit :=
  if cs.isEmpty then some (some .trace) else readLimit (String.ofList cs)

def cut (text : List Char) (start bytes : Nat) : Option String :=
  (Text.sliceBytes start bytes text).map String.ofList

/-- Read what follows the brackets, which begins at a place in the text:
nothing, or a limit. -/
def readAfterBrackets (text : List Char) (start : Nat) : List Char → Option LogLimit
  | [] => some (some .trace)
  | '=' :: _ => (Text.dropBytes (start + 1) text).bind readLimitAfter
  | _ => none

/-- Read a field and what follows it; after the field come a closing brace and
a closing bracket. -/
def readField (text : List Char) (target span : Option String) (start : Nat)
    (cs : List Char) : Option Directive :=
  let field := cs.takeWhile fun c => c ≠ '\x7d'
  let stop := start + Text.byteLength field
  match cs.dropWhile fun c => c ≠ '\x7d' with
  | '\x7d' :: ']' :: rest =>
    if field.isEmpty then none
    else do
      let test ← (Text.sliceBytes start (Text.byteLength field) text).bind FieldTest.read
      return ⟨target, span, some test, ← readAfterBrackets text (stop + 2) rest⟩
  | _ => none

/-- Read a span, a field or both, and what follows, after the opening bracket. -/
def readBrackets (text : List Char) (target : Option String) (start : Nat)
    (cs : List Char) : Option Directive :=
  let name := cs.takeWhile fun c => c ≠ ']' && c ≠ '\x7b'
  let stop := start + Text.byteLength name
  match cs.dropWhile fun c => c ≠ ']' && c ≠ '\x7b' with
  | ']' :: rest => do
    let span ← cut text start (Text.byteLength name)
    return ⟨target, some span, none, ← readAfterBrackets text (stop + 1) rest⟩
  | '\x7b' :: rest =>
    if name.isEmpty then readField text target none (stop + 1) rest
    else do
      let span ← cut text start (Text.byteLength name)
      readField text target (some span) (stop + 1) rest
  | _ => none

/-- A directive without brackets and equals sign: a limit for all targets, or
a target without a limit. -/
def ofWord (s : String) : Directive :=
  match readLimit s with
  | some limit => ⟨none, none, none, limit⟩
  | none => ⟨some s, none, none, some .trace⟩

def read (text : List Char) : Option Directive :=
  match Text.trimChars text with
  | [] => none
  | '[' :: cs => readBrackets text none 1 cs
  | c :: cs =>
    if !mayBegin c then none
    else
      let name := (c :: cs).takeWhile fun x => x ≠ '=' && x ≠ '['
      let stop := Text.byteLength name
      match (c :: cs).dropWhile fun x => x ≠ '=' && x ≠ '[' with
      | [] => some (ofWord (String.ofList text))
      | '=' :: _ => do
        let target ← cut text 0 stop
        return ⟨some target, none, none, ← (Text.dropBytes (stop + 1) text).bind readLimitAfter⟩
      | _ :: rest => do
        let target ← cut text 0 stop
        readBrackets text (some target) (stop + 1) rest

/-! ## Which directive counts -/

/-- Does a directive bear on events outside of spans whose fields are known by
name only? -/
def bearsOnEvents (d : Directive) : Bool :=
  d.span.isNone && d.field.all fun f => f.value.isNone

/-- Does a directive apply to a target, and to events with fields such as these? -/
def applies (d : Directive) (target : String) (hasField : String → Bool) : Bool :=
  d.target.all (fun name => name.toList.isPrefixOf target.toList) &&
    d.field.all fun f => hasField f.name

/-- How closely a directive describes the targets to which it applies: naming
none is less than naming any. -/
def closeness (d : Directive) : Nat :=
  match d.target with
  | some name => name.utf8ByteSize + 1
  | none => 0

/-- Is a test for a field less close than another?  No test is less than any,
and names count in the order of their characters. -/
def fieldBelow (f g : Option FieldTest) : Bool :=
  match f, g with
  | none, some _ => true
  | some f, some g => f.name < g.name
  | _, none => false

/-- Is a directive less close than another? -/
def below (d e : Directive) : Bool :=
  d.closeness < e.closeness || (d.closeness = e.closeness && fieldBelow d.field e.field)

end Directive

namespace LogFilter

/-- The parts of a filter between commas, empty ones left out. -/
def parts (s : String) : List (List Char) :=
  (Text.cutAt ',' s.toList).filter fun p => !p.isEmpty

/-- Those directives that bear on events. -/
def ofDirectives (ds : List Directive) : LogFilter := ds.filter Directive.bearsOnEvents

def read (s : String) : Option LogFilter := ((parts s).mapM Directive.read).map ofDirectives

/-- Read a filter, leaving out what is not well written. -/
def readLoosely (s : String) : LogFilter := ofDirectives ((parts s).filterMap Directive.read)

/-- The closer of two directives; of two that are equally close, the second. -/
def closer (best : Option Directive) (d : Directive) : Option Directive :=
  match best with
  | some b => if d.below b then some b else some d
  | none => some d

/-- How talkative events of a target with fields such as these may be. -/
def limitFor (f : LogFilter) (target : String) (hasField : String → Bool) : LogLimit :=
  ((f.filter fun d => d.applies target hasField).foldl closer none).bind Directive.limit

/-- How talkative a target may be, if its events have all the fields that are
asked for. -/
def limit (f : LogFilter) (target : String) : LogLimit := f.limitFor target fun _ => true

/-- Is an event of a target and a level, with fields such as these, logged? -/
def passes (f : LogFilter) (target : String) (level : LogLevel) (hasField : String → Bool) :
    Bool :=
  match f.limitFor target hasField with
  | some l => decide (level.number ≤ l.number)
  | none => false

end LogFilter

end DirectorySessions
