/-
What the keywords of a `$jsonSchema` document mean.

`accepts` reads a schema as a JSON value, keyword by keyword, and knows nothing of how it was made. A keyword on values of
one kind holds of all other values, a property that is not listed may have any value, and an unknown keyword says nothing.
Patterns are matched and numbers compared as a model does.
- `acceptsAll_append`, `acceptsAll_option`, `acceptsMembers_iff`: schemas taken apart.
-/
import Mathlib.Tactic
import DocumentModels.Json.Basic
import DocumentModels.Pattern.Match

namespace DocumentModels.JsonSchema

/-! ## Keywords on one value -/

def typeName : Json → String
  | .null => "null"
  | .bool _ => "bool"
  | .number _ => "number"
  | .string _ => "string"
  | .array _ => "array"
  | .object _ => "object"

/-- `bsonType`: a name, or a list of names -/
def hasType (argument value : Json) : Bool :=
  match argument with
  | .string name => typeName value == name
  | .array names => names.any fun name => name.asString? == some (typeName value)
  | _ => false

/-- `required`: the names that an object has to have -/
def hasNames (argument value : Json) : Bool :=
  match value with
  | .object members =>
    (argument.asArray?.getD []).all fun name => name.asString?.any fun name => (members.lookup name).isSome
  | _ => true

/-- a keyword whose argument is a number, on numbers -/
def onNumber (holds : Number → Number → Bool) (argument value : Json) : Bool :=
  match argument, value with
  | .number bound, .number n => holds bound n
  | _, .number _ => false
  | _, _ => true

/-- a keyword whose argument is a length in characters, on strings -/
def onLength (holds : Nat → Nat → Bool) (argument value : Json) : Bool :=
  match argument, value with
  | .number bound, .string s => bound.toNat?.any fun bound => holds bound s.length
  | _, .string _ => false
  | _, _ => true

def isLike (argument value : Json) : Bool :=
  match argument, value with
  | .string pattern, .string s => (Pattern.parse? pattern).any (·.isMatch s)
  | _, .string _ => false
  | _, _ => true

/-- units of 2^-1074 in one -/
def unitsOfOne : Nat := 1 <<< Numeric.unitBits

/-- the magnitude of a number, in units of 2^-1074 -/
def units : Number → Nat
  | .int i => i.natAbs * unitsOfOne
  | .float x => x.units

/-- whether a keyword without schemas in it holds of a value -/
def holds (keyword : String) (argument value : Json) : Bool :=
  match keyword with
  | "bsonType" => hasType argument value
  | "required" => hasNames argument value
  | "enum" => value.isIn (argument.asArray?.getD [])
  | "minimum" => onNumber (fun min n => !n.toBinary64.lt min.toBinary64) argument value
  | "maximum" => onNumber (fun max n => !max.toBinary64.lt n.toBinary64) argument value
  | "multipleOf" => onNumber (fun step n => units n % units step == 0) argument value
  | "minLength" => onLength (fun min length => decide (min ≤ length)) argument value
  | "maxLength" => onLength (fun max length => decide (length ≤ max)) argument value
  | "pattern" => isLike argument value
  | _ => true

section Keywords

variable (argument value : Json)

@[simp] theorem holds_bsonType : holds "bsonType" argument value = hasType argument value := rfl

@[simp] theorem holds_required : holds "required" argument value = hasNames argument value := rfl

@[simp] theorem holds_enum : holds "enum" argument value = value.isIn (argument.asArray?.getD []) := rfl

@[simp] theorem holds_minimum :
    holds "minimum" argument value = onNumber (fun min n => !n.toBinary64.lt min.toBinary64) argument value := rfl

@[simp] theorem holds_maximum :
    holds "maximum" argument value = onNumber (fun max n => !max.toBinary64.lt n.toBinary64) argument value := rfl

@[simp] theorem holds_multipleOf :
    holds "multipleOf" argument value = onNumber (fun step n => units n % units step == 0) argument value := rfl

@[simp] theorem holds_minLength :
    holds "minLength" argument value = onLength (fun min length => decide (min ≤ length)) argument value := rfl

@[simp] theorem holds_maxLength :
    holds "maxLength" argument value = onLength (fun max length => decide (length ≤ max)) argument value := rfl

@[simp] theorem holds_pattern : holds "pattern" argument value = isLike argument value := rfl

end Keywords

/-! ## Schemas -/

mutual

/-- whether a schema accepts a value -/
def accepts : Json → Json → Bool
  | .object keywords, value => acceptsAll keywords value
  | _, _ => false
termination_by structural schema => schema

def acceptsAll : List (String × Json) → Json → Bool
  | [], _ => true
  | (keyword, argument) :: rest, value =>
    (if keyword = "items" then (value.asArray?.getD []).all fun item => accepts argument item
      else if keyword = "properties" then acceptsProperties argument value
      else holds keyword argument value) && acceptsAll rest value
termination_by structural keywords => keywords

/-- `properties`: schemas of members, by name -/
def acceptsProperties : Json → Json → Bool
  | .object properties, value => acceptsMembers properties value
  | _, _ => false
termination_by structural argument => argument

/-- whether every listed property that a value has is accepted -/
def acceptsMembers : List (String × Json) → Json → Bool
  | [], _ => true
  | (name, property) :: rest, value =>
    (match value.get? name with
      | some member => accepts property member
      | none => true) && acceptsMembers rest value
termination_by structural properties => properties

end

/-- whether a validator lets a document into its collection -/
def admits (validator document : Json) : Bool :=
  match validator.get? "$jsonSchema" with
  | some schema => accepts schema document
  | none => true

/-! ## Schemas taken apart -/

theorem acceptsAll_append (keywords more : Members) (value : Json) :
    acceptsAll (keywords ++ more) value = (acceptsAll keywords value && acceptsAll more value) := by
  induction keywords with
  | nil => rw [List.nil_append, acceptsAll, Bool.true_and]
  | cons member rest ih =>
    obtain ⟨keyword, argument⟩ := member
    rw [List.cons_append, acceptsAll, acceptsAll, ih, Bool.and_assoc]

/-- a keyword that need not be there -/
theorem acceptsAll_option {α : Type} (rule : Option α) (member : α → String × Json) (value : Json) :
    acceptsAll (rule.map member).toList value = true ↔ ∀ a ∈ rule, acceptsAll [member a] value = true := by
  cases rule with
  | none => simp [acceptsAll]
  | some a => simp

theorem acceptsMembers_iff (properties : Members) (value : Json) :
    acceptsMembers properties value = true ↔
      ∀ property ∈ properties, ∀ member, value.get? property.1 = some member → accepts property.2 member = true := by
  induction properties with
  | nil => simp [acceptsMembers]
  | cons property rest ih =>
    obtain ⟨name, schema⟩ := property
    rw [acceptsMembers, Bool.and_eq_true, ih, List.forall_mem_cons]
    apply and_congr_left'
    cases value.get? name with
    | none => simp
    | some member => simp

end DocumentModels.JsonSchema
