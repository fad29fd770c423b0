/-
JSON values that keep what their text shows.

Objects are lists of members in written order, and numbers remember whether they were written as an integer or with a
fraction or exponent. Equality of values (`Json.same`) ignores the order of members and tells the two classes of
numbers apart.
-/
import DocumentModels.Named
import DocumentModels.Numeric.Binary64

namespace DocumentModels

open Numeric

/-- a JSON number: an integer of at most 64 bits, or a binary64 number -/
inductive Number where
  | int (value : Int)
  | float (value : Binary64)
  deriving DecidableEq

namespace Number

instance : Inhabited Number := ⟨.int 0⟩

def toNat? : Number → Option Nat
  | .int (.ofNat n) => some n
  | _ => none

def toBinary64 : Number → Binary64
  | .int i => ((Binary64.ofNat? i.natAbs).getD .zero).withSign (decide (i < 0))
  | .float x => x

/-- equality within a class: integers by value, the others by numeric value -/
def same : Number → Number → Bool
  | .int i, .int j => i == j
  | .float x, .float y => x.same y
  | _, _ => false

/-- whether the number has no fractional part -/
def isIntegral : Number → Bool
  | .int _ => true
  | .float x => x.isIntegral

end Number

/-- a JSON value; an object keeps the order of its members -/
inductive Json where
  | null
  | bool (value : Bool)
  | number (value : Number)
  | string (value : String)
  | array (items : List Json)
  | object (members : List (String × Json))

/-- members of an object, in order -/
abbrev Members := List (String × Json)

namespace Members

/-- give all members of `more` their values, in order -/
def overlay (members more : Members) : Members :=
  more.foldl (fun acc member => upsert member.1 member.2 acc) members

def names (members : Members) : List String := members.map Prod.fst

end Members

namespace Json

instance : Inhabited Json := ⟨.null⟩

def ofNat (n : Nat) : Json := .number (.int n)

def isNull : Json → Bool
  | .null => true
  | _ => false

def asString? : Json → Option String
  | .string s => some s
  | _ => none

def asArray? : Json → Option (List Json)
  | .array items => some items
  | _ => none

def asObject? : Json → Option Members
  | .object members => some members
  | _ => none

def get? (value : Json) (name : String) : Option Json :=
  match value with
  | .object members => members.lookup name
  | _ => none

def kindName : Json → String
  | .null => "null"
  | .bool _ => "boolean"
  | .number _ => "number"
  | .string _ => "string"
  | .array _ => "array"
  | .object _ => "object"

mutual

/-- equality of values: member order is ignored, numbers are compared within their class -/
def same : Json → Json → Bool
  | .null, .null => true
  | .bool a, .bool b => a == b
  | .number m, .number n => m.same n
  | .string s, .string t => s == t
  | .array xs, .array ys => sameItems xs ys
  | .object ms, .object ns => ms.length == ns.length && sameMembers ms ns
  | _, _ => false

def sameItems : List Json → List Json → Bool
  | [], [] => true
  | x :: xs, y :: ys => same x y && sameItems xs ys
  | _, _ => false

/-- whether each member of the first list has an equal one in the second -/
def sameMembers : List (String × Json) → List (String × Json) → Bool
  | [], _ => true
  | (name, value) :: rest, ns =>
    (match ns.lookup name with
      | some other => same value other
      | none => false) && sameMembers rest ns

end

mutual

/-- whether the member names of every object in the value are distinct -/
def Distinct : Json → Prop
  | .array items => DistinctItems items
  | .object members => (members.map Prod.fst).Nodup ∧ DistinctMembers members
  | _ => True

/-- whether every item is distinct in the sense of `Distinct` -/
def DistinctItems : List Json → Prop
  | [] => True
  | item :: rest => item.Distinct ∧ DistinctItems rest

/-- whether every member's value is distinct in the sense of `Distinct` -/
def DistinctMembers : List (String × Json) → Prop
  | [] => True
  | (_, value) :: rest => value.Distinct ∧ DistinctMembers rest

end

/-- whether an equal value is in the list -/
def isIn (value : Json) (values : List Json) : Bool := values.any (same · value)

end Json

end DocumentModels
