/-
Reading a type node from its JSON form.

A node is an object with a string `type`. The faults of a node are looked for before those of the nodes in it, and the
nodes in it are read in file order, so the error is that of the first faulty node. Members that a kind does not use
are ignored.
-/
import DocumentModels.Definition.Node
import DocumentModels.Definition.Fault

namespace DocumentModels

namespace Node

/-- a check of a string or number node: its kind and its members -/
abbrev Check := String × Members

def checkOf : Json → Except NodeFault Check
  | .object members =>
    match (members.lookup "kind").bind Json.asString? with
    | some kind => .ok (kind, members)
    | none => .error .checkWithoutKind
  | _ => .error .checkNotObject

/-- the checks of a node, all of them looked at before any is evaluated -/
def checksOf (members : Members) : Except NodeFault (List Check) :=
  match members.lookup "checks" with
  | none => .ok []
  | some (.array items) => items.mapM checkOf
  | some _ => .error .checksNotArray

def checkNumber (check : Check) : Except NodeFault Number :=
  match check.2.lookup "value" with
  | some (.number n) => .ok n
  | _ => .error (.checkNotNumeric check.1)

def checkLength (check : Check) : Except NodeFault Nat := do
  let n ← checkNumber check
  match n.toNat? with
  | some length => .ok length
  | none => .error (.lengthNotNatural check.1)

/-- add a check to the rules of a string; an unknown check adds nothing -/
def addStringCheck (rules : StringRules) (check : Check) : Except NodeFault StringRules :=
  match check.1 with
  | "min" => do
    let length ← checkLength check
    return { rules with minLength := some length }
  | "max" => do
    let length ← checkLength check
    return { rules with maxLength := some length }
  | "length" => do
    let length ← checkLength check
    return { rules with minLength := some length, maxLength := some length }
  | "email" => return { rules with email := true }
  | "regex" =>
    match (check.2.lookup "regex").bind Json.asString? with
    | some pattern => return { rules with pattern := some pattern }
    | none => throw .noPattern
  | _ => return rules

/-- add a check to the rules of a number; an unknown check adds nothing -/
def addNumberCheck (rules : NumberRules) (check : Check) : Except NodeFault NumberRules :=
  match check.1 with
  | "min" => do
    let bound ← checkNumber check
    return { rules with min := some bound }
  | "max" => do
    let bound ← checkNumber check
    return { rules with max := some bound }
  | "int" => return { rules with integer := true }
  | _ => return rules

def stringRules (members : Members) : Except NodeFault StringRules := do
  (← checksOf members).foldlM addStringCheck {}

def numberRules (members : Members) : Except NodeFault NumberRules := do
  (← checksOf members).foldlM addNumberCheck {}

def enumMember (value : Json) : Except NodeFault String :=
  match value with
  | .string s => .ok s
  | _ => .error .memberNotString

/-- the members of an enum, given as a list or as the values of an object -/
def enumMembers (members : Members) : Except NodeFault (List String) :=
  match members.lookup "entries" with
  | some (.array items) => items.mapM enumMember
  | some (.object keyed) => (keyed.map Prod.snd).mapM enumMember
  | _ => .error .noEntries

def literalValue (members : Members) : Except NodeFault Json :=
  match members.lookup "value" with
  | none => .error .noLiteralValue
  | some (.array _) => .error .literalNotScalar
  | some (.object _) => .error .literalNotScalar
  | some value => .ok value

def located (path : String) (result : Except NodeFault α) : Except DefinitionError α :=
  result.mapError (.invalidNode path)

def failAt (path : String) (fault : NodeFault) : Except DefinitionError α := .error (.invalidNode path fault)

mutual

def decodeAt (path : String) : Json → Except DefinitionError Node
  | .object members =>
    match (members.lookup "type").bind Json.asString? with
    | none => failAt path .noType
    | some tag =>
      match NodeKind.ofName? tag with
      | none => .ok (.leaf (.unmodeled tag))
      | some .optional => (decodeInner path members).map (.modified .optional)
      | some .nullable => (decodeInner path members).map (.modified .nullable)
      | some .default =>
        match members.lookup "defaultValue" with
        | none => failAt path .noDefaultValue
        | some value => (decodeInner path members).map (.modified (.default value))
      | some .string => (located path (stringRules members)).map fun rules => .leaf (.string rules)
      | some .number => (located path (numberRules members)).map fun rules => .leaf (.number rules)
      | some .boolean => .ok (.leaf .boolean)
      | some .date => .ok (.leaf .date)
      | some .enum => (located path (enumMembers members)).map fun entries => .leaf (.enum entries)
      | some .literal => (located path (literalValue members)).map fun value => .leaf (.literal value)
      | some .array => (decodeElement path members).map .array
      | some .object => (decodeShape path members).map .object
      | some .union => (decodeOptions path members).map .union
  | _ => failAt path .notObject

/-- read the node under a modifier, which stands at the same path -/
def decodeInner (path : String) : List (String × Json) → Except DefinitionError Node
  | [] => failAt path .noInnerType
  | (name, value) :: rest => if name = "innerType" then decodeAt path value else decodeInner path rest

def decodeElement (path : String) : List (String × Json) → Except DefinitionError Node
  | [] => failAt path .noElement
  | (name, value) :: rest =>
    if name = "element" then decodeAt (path ++ ".element") value else decodeElement path rest

/-- read the shape of an object; a missing one is empty -/
def decodeShape (path : String) : List (String × Json) → Except DefinitionError (List (String × Node))
  | [] => .ok []
  | (name, value) :: rest =>
    if name = "shape" then
      match value with
      | .object fields => decodeFields path fields
      | _ => failAt path .shapeNotObject
    else decodeShape path rest

def decodeFields (path : String) : List (String × Json) → Except DefinitionError (List (String × Node))
  | [] => .ok []
  | (name, value) :: rest => do
    let node ← decodeAt (path ++ "." ++ name) value
    let fields ← decodeFields path rest
    return (name, node) :: fields

def decodeOptions (path : String) : List (String × Json) → Except DefinitionError (List Node)
  | [] => failAt path .noOptions
  | (name, value) :: rest =>
    if name = "options" then
      match value with
      | .array items => decodeItems path 0 items
      | _ => failAt path .noOptions
    else decodeOptions path rest

/-- read the items of a list of options, in order, the first of them numbered `index` -/
def decodeItems (path : String) (index : Nat) : List Json → Except DefinitionError (List Node)
  | [] => .ok []
  | value :: rest => do
    let node ← decodeAt (path ++ ".options[" ++ toString index ++ "]") value
    let nodes ← decodeItems path (index + 1) rest
    return node :: nodes

end

def decode (value : Json) : Except DefinitionError Node := decodeAt "$" value

/-- whether a JSON value looks like a node: it has a string `type` -/
def isNode (value : Json) : Bool := ((value.get? "type").bind Json.asString?).isSome

end Node

end DocumentModels
