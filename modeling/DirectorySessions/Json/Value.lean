/-
# JSON values

A value as programs hold it.  Numbers are whole when they were written as
whole numbers that fit 64 bits, and floating-point otherwise.  The members of
a free-form object are kept in ascending order of their keys, each key once;
values that a program builds itself keep the order in which it lists them.
-/

namespace DirectorySessions.Json

inductive Number where
  | integer (n : Int)
  | real (x : Float)
deriving BEq, Inhabited

inductive Value where
  | null
  | bool (b : Bool)
  | number (n : Number)
  | string (s : String)
  | array (items : List Value)
  | object (members : List (String × Value))
deriving BEq, Inhabited

/-- The members of an object, in order. -/
abbrev Members := List (String × Value)

namespace Members

def get? (ms : Members) (key : String) : Option Value :=
  match ms with
  | [] => none
  | (k, v) :: rest => if k = key then some v else get? rest key

/-- Put a value under a key, in its place among ascending keys, over the one
that may be there. -/
def insert (ms : Members) (key : String) (v : Value) : Members :=
  match ms with
  | [] => [(key, v)]
  | (k, w) :: rest =>
    if k = key then (key, v) :: rest
    else if key < k then (key, v) :: (k, w) :: rest
    else (k, w) :: insert rest key v

/-- Members as they come, a later one replacing an earlier one of the same key. -/
def ofList (ms : List (String × Value)) : Members :=
  ms.foldl (fun acc m => insert acc m.1 m.2) []

end Members

namespace Value

def ofInt (n : Int) : Value := .number (.integer n)

def ofNat (n : Nat) : Value := .number (.integer n)

def isNull : Value → Bool
  | .null => true
  | _ => false

end Value

end DirectorySessions.Json
