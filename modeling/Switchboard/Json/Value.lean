import Switchboard.Json.Error

/-!
# JSON values

Numbers keep their kind: an integer that fits 64 bits stays an integer, and everything else is a
double-precision number. The members of an object are in ascending order of their names, each name
once.
-/

namespace Switchboard.Json

inductive Number
  /-- Zero or more. -/
  | natural (n : UInt64)
  /-- Less than zero. -/
  | negative (n : Int64)
  | real (x : Float)

/-- How a diagnostic speaks of a number. -/
def Number.found : Number → Found
  | .natural n => .integer n.toNat
  | .negative n => .integer n.toInt
  | .real x => .real x

inductive Value
  | null
  | bool (b : Bool)
  | number (n : Number)
  | string (s : String)
  | list (items : List Value)
  | object (members : List (String × Value))

/-- A number below 2 ^ 64 as a value. -/
def Value.ofNat (n : Nat) : Value :=
  .number (.natural (UInt64.ofNat n))

/-- How a diagnostic speaks of a value. -/
def Value.found : Value → Found
  | .null => .null
  | .bool b => .bool b
  | .number n => n.found
  | .string s => .string s
  | .list _ => .list
  | .object _ => .object

/-- Puts a member among members in ascending order; a member of the same name is replaced. -/
def insertMember (name : String) (v : Value) : List (String × Value) → List (String × Value)
  | [] => [(name, v)]
  | (n, w) :: rest =>
    if name < n then (name, v) :: (n, w) :: rest
    else if name = n then (name, v) :: rest
    else (n, w) :: insertMember name v rest

/-- The object with the given members, the last one of each name. -/
def Value.ofMembers (members : List (String × Value)) : Value :=
  .object (members.foldl (fun ms m => insertMember m.1 m.2 ms) [])

/-- The member of an object with a given name. -/
def Value.member? (v : Value) (name : String) : Option Value :=
  match v with
  | .object members => members.lookup name
  | _ => none

end Switchboard.Json
