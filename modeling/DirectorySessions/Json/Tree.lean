/-
# The tree of a JSON text

A text is read as a tree before anyone asks what it means.  Whoever walks the
tree (`Json/Reader.lean`) does so in the order of the text and stops at the
first thing that does not suit him, so an error early in the text is found
before a flaw later on, and a flaw inside a member that nobody wants is
worded for a skipper.

A text that breaks off still has a tree: the place where it breaks is a
scalar that can neither be read nor skipped, or an ending that is not a
closing bracket, and the containers around it end there too.
-/
import DirectorySessions.Json.Token

namespace DirectorySessions.Json

/-- What a reader and a skipper report where a container breaks off. -/
structure Break where
  read : Fault
  skip : Fault

def Break.both (f : Fault) : Break := ⟨f, f⟩

/-- How a container ends. -/
inductive Ending where
  /-- With its closing bracket. -/
  | closed (start : Nat)
  /-- With a lexeme that cannot stand there.  `next` is where the first lexeme
  after the last whole item stands: this one, or the comma before it. -/
  | cut (next : Nat) (found : Lexeme) (b : Break)
  /-- The container was not read from a text, so nothing can follow its items. -/
  | whole

/-- A value in a text, with its places. -/
inductive Node where
  | scalar (t : Token)
  | array (start : Nat) (items : List Node) (ending : Ending)
  /-- A member is its key, the offsets of the lexemes before and after the key
  (the comma or brace, and what should be a colon), and its value. -/
  | object (start : Nat) (members : List ((Nat × Token × Lexeme) × Node)) (ending : Ending)

/-- A key in a text: where the comma before it stands, the key, and the lexeme after it. -/
abbrev KeySite := Nat × Token × Lexeme

def Node.start : Node → Nat
  | .scalar t => t.start
  | .array o _ _ => o
  | .object o _ _ => o

/-- One byte past the start of a node, or its start if the text ends there. -/
def Node.glance : Node → Nat
  | .scalar t => t.glance
  | .array o _ _ => o + 1
  | .object o _ _ => o + 1

/-- A container that is still open, with what it holds so far, last first. -/
inductive Open where
  | array (start : Nat) (items : List Node)
  | object (start : Nat) (members : List (KeySite × Node)) (site : KeySite)

/-- Close all open containers around a node after which the text breaks off.
Their endings repeat the break; no walker gets as far. -/
def sealBroken (b : Break) (found : Lexeme) : Node → List Open → Node
  | n, [] => n
  | n, .array o items :: up =>
    sealBroken b found (.array o (n :: items).reverse (.cut found.start found b)) up
  | n, .object o ms site :: up =>
    sealBroken b found (.object o ((site, n) :: ms).reverse (.cut found.start found b)) up

/-- A text as a tree, and the offset that a reader has reached who finds
something after the value. -/
structure Document where
  root : Node
  extra : Option Nat

/-- What may come next. -/
inductive Stage where
  /-- A value. -/
  | value
  /-- An item of the list that starts here, or its end. -/
  | item (start : Nat)
  /-- A key of the object that starts here, or, if it has no comma before it,
  the object's end. -/
  | key (start : Nat) (members : List (KeySite × Node)) (comma : Option Nat)
  /-- The colon after a key. -/
  | colon (start : Nat) (members : List (KeySite × Node)) (comma : Nat) (key : Token)
  /-- What follows a whole value. -/
  | after (n : Node)

/-- A value that cannot be read or skipped, for a key that no colon follows. -/
def missingColon (l : Lexeme) : Token :=
  Token.broken l.start .blocked
    (if l.isEnd then ⟨.endInObject, l.start⟩ else ⟨.noColon, l.glance⟩)

/-- What is reported where a key or the end of an object should stand. -/
def keyBreak (l : Lexeme) (comma : Option Nat) : Break :=
  if l.isEnd then
    ⟨⟨if comma.isSome then .endInValue else .endInObject, l.start⟩, ⟨.endInObject, l.start⟩⟩
  else match l, comma with
    | .mark .closeObject _, some _ => ⟨⟨.trailingComma, l.glance⟩, ⟨.keyNotString, l.glance⟩⟩
    | _, _ => .both ⟨.keyNotString, l.glance⟩

/-- A scalar where a value is expected: the text goes on after it if it can
be skipped. -/
def Token.goesOn (t : Token) : Bool :=
  match t.skip with
  | .ok _ => true
  | .error _ => false

/-- The break at a scalar that cannot be passed. -/
def Token.toBreak (t : Token) : Break :=
  let skip : Fault := match t.skip with
    | .error f => f
    | .ok o => ⟨.noValue, o⟩
  ⟨match t.read with
    | .error f => f
    | .ok _ => skip, skip⟩

/-- The document of a text that breaks off at a lexeme, where a value should stand. -/
def brokenValue (t : Token) (found : Lexeme) (stack : List Open) : Document :=
  ⟨sealBroken t.toBreak found (.scalar t) stack, none⟩

/-- A mark where a value should stand. -/
def Mark.asToken (start : Nat) : Token := Token.broken start .other ⟨.noValue, start + 1⟩

/-- Build the tree from the lexemes of a text.  `stack` holds the containers
that are open, innermost first. -/
def build : Stage → List Open → List Lexeme → Document
  -- the last lexeme of a text cannot be passed, so the list does not run out
  | .value, stack, [] => brokenValue (.absent 0) (.scalar (.absent 0)) stack
  | .item _, stack, [] => brokenValue (.absent 0) (.scalar (.absent 0)) stack
  | .key .., stack, [] => brokenValue (.absent 0) (.scalar (.absent 0)) stack
  | .colon .., stack, [] => brokenValue (.absent 0) (.scalar (.absent 0)) stack
  | .after n, stack, [] => ⟨sealBroken (.both ⟨.endInValue, 0⟩) (.scalar (.absent 0)) n stack, none⟩
  | .value, stack, l :: ls => match l with
    | .mark .openList o => build (.item o) stack ls
    | .mark .openObject o => build (.key o [] none) stack ls
    | .mark _ o => brokenValue (Mark.asToken o) l stack
    | .scalar t =>
      if t.goesOn then build (.after (.scalar t)) stack ls else brokenValue t l stack
  | .item start, stack, l :: ls => match l with
    | .mark .closeList o => build (.after (.array start [] (.closed o))) stack ls
    | .mark .openList o => build (.item o) (.array start [] :: stack) ls
    | .mark .openObject o => build (.key o [] none) (.array start [] :: stack) ls
    | .mark _ o => brokenValue (Mark.asToken o) l (.array start [] :: stack)
    | .scalar t =>
      if t.goesOn then build (.after (.scalar t)) (.array start [] :: stack) ls
      else if l.isEnd then
        let b : Break := .both ⟨.endInList, l.start⟩
        ⟨sealBroken b l (.array start [] (.cut l.start l b)) stack, none⟩
      else brokenValue t l (.array start [] :: stack)
  | .key start ms comma, stack, l :: ls =>
    let next := comma.getD l.start
    let cut : Document :=
      let b := keyBreak l comma
      ⟨sealBroken b l (.object start ms.reverse (.cut next l b)) stack, none⟩
    match l with
    | .mark .closeObject o =>
      if comma.isSome then cut
      else build (.after (.object start ms.reverse (.closed o))) stack ls
    | .mark _ _ => cut
    | .scalar t =>
      if t.lead = .quote then
        if t.goesOn then build (.colon start ms next t) stack ls
        else
          ⟨sealBroken t.toBreak l (.object start (((next, t, l), .scalar t) :: ms).reverse
            (.cut next l t.toBreak)) stack, none⟩
      else cut
  | .colon start ms comma key, stack, l :: ls => match l with
    | .mark .colon _ => build .value (.object start ms (comma, key, l) :: stack) ls
    | l =>
      let t := missingColon l
      ⟨sealBroken t.toBreak l (.object start (((comma, key, l), .scalar t) :: ms).reverse
        (.cut l.start l t.toBreak)) stack, none⟩
  | .after n, [], l :: _ => ⟨n, if l.isEnd then none else some l.glance⟩
  | .after n, .array start items :: stack, l :: ls => match l with
    | .mark .comma o => match ls with
      | .mark .closeList c :: _ =>
        let b : Break := ⟨⟨.trailingComma, c + 1⟩, ⟨.noValue, c + 1⟩⟩
        let close : Lexeme := .mark .closeList c
        ⟨sealBroken b close (.array start (n :: items).reverse (.cut o close b)) stack, none⟩
      | ls => build .value (.array start (n :: items) :: stack) ls
    | .mark .closeList o => build (.after (.array start (n :: items).reverse (.closed o))) stack ls
    | l =>
      let b : Break := .both (if l.isEnd then ⟨.endInList, l.start⟩ else ⟨.listEnd, l.glance⟩)
      ⟨sealBroken b l (.array start (n :: items).reverse (.cut l.start l b)) stack, none⟩
  | .after n, .object start ms site :: stack, l :: ls => match l with
    | .mark .comma o => build (.key start ((site, n) :: ms) (some o)) stack ls
    | .mark .closeObject o =>
      build (.after (.object start ((site, n) :: ms).reverse (.closed o))) stack ls
    | l =>
      let b : Break := .both (if l.isEnd then ⟨.endInObject, l.start⟩ else ⟨.objectEnd, l.glance⟩)
      ⟨sealBroken b l (.object start ((site, n) :: ms).reverse (.cut l.start l b)) stack, none⟩

def Document.ofText (text : String) : Document :=
  build .value [] (lexemes text.toList 0)

end DirectorySessions.Json
