/-
# Why a JSON text or value is refused

A text can be flawed as JSON, or it can be JSON that is not of the wanted
shape.  An error found in a text knows how many bytes had been read when it
was noticed, and its message ends in that place; an error found in a value
that was read before has no place.
-/
import DirectorySessions.Text.Quoted
import DirectorySessions.Decimal.Shortest

namespace DirectorySessions.Json

/-- What is wrong with a text as JSON. -/
inductive Flaw where
  | endInValue
  | endInString
  | endInList
  | endInObject
  | noValue
  | badWord
  | noColon
  | listEnd
  | objectEnd
  | trailingComma
  | trailingText
  | keyNotString
  | badNumber
  | badEscape
  | numberRange
  | control
  | loneSurrogate
  | unfinishedPair
  | tooDeep
deriving DecidableEq, Inhabited

def Flaw.message : Flaw → String
  | .endInValue => "EOF while parsing a value"
  | .endInString => "EOF while parsing a string"
  | .endInList => "EOF while parsing a list"
  | .endInObject => "EOF while parsing an object"
  | .noValue => "expected value"
  | .badWord => "expected ident"
  | .noColon => "expected `:`"
  | .listEnd => "expected `,` or `]`"
  | .objectEnd => "expected `,` or `\x7d`"
  | .trailingComma => "trailing comma"
  | .trailingText => "trailing characters"
  | .keyNotString => "key must be a string"
  | .badNumber => "invalid number"
  | .badEscape => "invalid escape"
  | .numberRange => "number out of range"
  | .control => "control character (\\u0000-\\u001F) found while parsing a string"
  | .loneSurrogate => "lone leading surrogate in hex escape"
  | .unfinishedPair => "unexpected end of hex escape"
  | .tooDeep => "recursion limit exceeded"

/-- Did the text end too early? -/
def Flaw.isEnd : Flaw → Bool
  | .endInValue | .endInString | .endInList | .endInObject => true
  | _ => false

/-- A flaw and the number of bytes read when it was noticed. -/
structure Fault where
  flaw : Flaw
  offset : Nat
deriving DecidableEq, Inhabited

/-- What was found where something else was wanted. -/
inductive Found where
  | null
  | bool (b : Bool)
  | integer (n : Int)
  | real (x : Float)
  | string (s : String)
  | sequence
  | map

def Found.message : Found → String
  | .null => "null"
  | .bool b => "boolean `" ++ (if b then "true" else "false") ++ "`"
  | .integer n => "integer `" ++ toString n ++ "`"
  | .real x => "floating point `" ++ Decimal.shortestText x ++ "`"
  | .string s => "string " ++ Text.quote s
  | .sequence => "sequence"
  | .map => "map"

/-- How JSON can differ from the wanted shape. -/
inductive Mismatch where
  | type (found : Found) (wanted : String)
  | value (found : Found) (wanted : String)
  | length (n : Nat) (wanted : String)
  | variant (name : String) (known : List String)
  | missing (field : String)
  | duplicate (field : String)

def ticked (s : String) : String := "`" ++ s ++ "`"

def choice : List String → String
  | [] => "there are no variants"
  | [a] => "expected " ++ ticked a
  | [a, b] => "expected " ++ ticked a ++ " or " ++ ticked b
  | names => "expected one of " ++ ", ".intercalate (names.map ticked)

def Mismatch.message : Mismatch → String
  | .type f w => "invalid type: " ++ f.message ++ ", expected " ++ w
  | .value f w => "invalid value: " ++ f.message ++ ", expected " ++ w
  | .length n w => "invalid length " ++ toString n ++ ", expected " ++ w
  | .variant name known => "unknown variant " ++ ticked name ++ ", " ++ choice known
  | .missing f => "missing field " ++ ticked f
  | .duplicate f => "duplicate field " ++ ticked f

/-- A flaw or a mismatch. -/
inductive Cause where
  | flaw (f : Flaw)
  | mismatch (m : Mismatch)

/-- The three kinds of error. -/
inductive Category where
  | malformed
  | data
  | early
deriving DecidableEq

def Cause.category : Cause → Category
  | .flaw f => if f.isEnd then .early else .malformed
  | .mismatch _ => .data

def Cause.message : Cause → String
  | .flaw f => f.message
  | .mismatch m => m.message

/-- Why reading failed, and how many bytes had been read, if a text was read. -/
structure Error where
  cause : Cause
  offset : Option Nat

def Error.ofFault (f : Fault) : Error := ⟨.flaw f.flaw, some f.offset⟩

/-- The same error without its place. -/
def Error.unplaced (e : Error) : Error := { e with offset := none }

/-- The same error at a place, unless it has one. -/
def Error.placed (e : Error) (offset : Nat) : Error :=
  { e with offset := e.offset <|> some offset }

/-- A line number and the bytes since the last line break. -/
structure Place where
  line : Nat
  column : Nat
deriving DecidableEq

/-- Walk over the characters before an offset; `pos` is where the first of
them begins and `start` where its line does. -/
def Place.walk (offset : Nat) : (pos start line : Nat) → List Char → Place
  | _, start, line, [] => ⟨line, offset - start⟩
  | pos, start, line, c :: cs =>
    if offset ≤ pos then ⟨line, offset - start⟩
    else if c = '\n' then Place.walk offset (pos + 1) (pos + 1) (line + 1) cs
    else Place.walk offset (pos + c.utf8Size) start line cs

/-- The place after so many bytes of a text. -/
def Place.at (text : String) (offset : Nat) : Place :=
  Place.walk offset 0 0 1 text.toList

/-- The message, with the place in the text that was read. -/
def Error.message (e : Error) (text : String) : String :=
  match e.offset with
  | none => e.cause.message
  | some o =>
    let p := Place.at text o
    e.cause.message ++ " at line " ++ toString p.line ++ " column " ++ toString p.column

end DirectorySessions.Json
