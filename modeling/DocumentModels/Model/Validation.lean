/-
Validation of documents against a schema.

Two functions go through schema and document side by side: `violations` lists every path at which a rule is broken, in
the order of the schema, and `normalize` gives the document as it is stored, with defaults filled in and undeclared
members left out. A document is accepted if no rule is broken.
-/
import DocumentModels.Schema.Spec
import DocumentModels.Pattern.Match
import DocumentModels.Model.Date

namespace DocumentModels

/-- which rule is broken -/
inductive Breach where
  | notObject (got : String)
  | missing
  | wrongType (expected got : String)
  | tooShort (min : Nat)
  | tooLong (max : Nat)
  | mismatch (pattern : String)
  | tooSmall (min : Number)
  | tooLarge (max : Number)
  | notInteger
  | notAdmitted (value : Json)
  | duplicateKey (value : Json)

/-- a broken rule and the path of the value that breaks it -/
structure Violation where
  path : String
  breach : Breach

/-- compiled patterns by their text -/
abbrev PatternTable := List (String × Pattern.Syntax)

namespace Breach

/-- wording of a broken rule -/
def message : Breach → String
  | notObject got => "expected object, got " ++ got
  | missing => "is required"
  | wrongType expected got => "expected " ++ expected ++ ", got " ++ got
  | tooShort min => "is shorter than the minimum allowed length (" ++ toString min ++ ")"
  | tooLong max => "is longer than the maximum allowed length (" ++ toString max ++ ")"
  | mismatch pattern => "does not match /" ++ pattern ++ "/"
  | tooSmall min => "is less than minimum allowed value (" ++ min.text ++ ")"
  | tooLarge max => "is more than maximum allowed value (" ++ max.text ++ ")"
  | notInteger => "is not an integer"
  | notAdmitted value => value.compact ++ " is not a valid enum value"
  | duplicateKey value => "duplicate key " ++ value.compact

end Breach

namespace Violation

def line (violation : Violation) : String := violation.path ++ ": " ++ violation.breach.message

end Violation

def fieldPath (parent name : String) : String := if parent.isEmpty then name else parent ++ "." ++ name

def itemPath (parent : String) (index : Nat) : String := parent ++ "." ++ toString index

/-! ## Rules on one value -/

namespace Rules

/-- broken rules on the length and form of a string; the length is counted in characters -/
def stringBreaches (rules : Rules) (patterns : PatternTable) (s : String) : List Breach :=
  let short := rules.minLength.filter (s.length < ·)
  let long := rules.maxLength.filter (· < s.length)
  let unlike := rules.pattern.filter fun p => (patterns.lookup p).any fun expr => !Pattern.Syntax.isMatch expr s
  (short.map .tooShort).toList ++ (long.map .tooLong).toList ++ (unlike.map .mismatch).toList

/-- broken rules on a number; bounds are compared as binary64 numbers -/
def numberBreaches (rules : Rules) (n : Number) : List Breach :=
  let small := rules.min.filter fun min => n.toBinary64.lt min.toBinary64
  let large := rules.max.filter fun max => max.toBinary64.lt n.toBinary64
  (small.map .tooSmall).toList ++ (large.map .tooLarge).toList
    ++ (if rules.integer && !n.isIntegral then [.notInteger] else [])

/-- whether the value is missing from the admitted ones -/
def enumBreaches (rules : Rules) (value : Json) : List Breach :=
  match rules.enumValues with
  | some values => if value.isIn values then [] else [.notAdmitted value]
  | none => []

/-- broken rules of a leaf; a value of another type is not looked at further -/
def leafBreaches (rules : Rules) (patterns : PatternTable) (type : BaseType) (value : Json) : List Breach :=
  match type, value with
  | .mixed, value => rules.enumBreaches value
  | .string, .string s => rules.stringBreaches patterns s ++ rules.enumBreaches value
  | .number, .number n => rules.numberBreaches n ++ rules.enumBreaches value
  | .boolean, .bool _ => rules.enumBreaches value
  | .date, value => if Model.isDate value then rules.enumBreaches value else [.wrongType type.tag value.kindName]
  | type, value => [.wrongType type.tag value.kindName]

end Rules

/-! ## Fields -/

/-- what a document gives for a field -/
inductive Given where
  /-- nothing, or nothing that counts, where a value is required -/
  | lacking
  | absent
  | null
  | value (value : Json)

namespace Spec

def isString : Spec → Bool
  | .leaf _ .string => true
  | _ => false

/-- read what a document gives for a field; where a value is required, null and an empty string do not count -/
def given (spec : Spec) (member : Option Json) : Given :=
  match member with
  | none => if spec.rules.required then .lacking else .absent
  | some .null => if spec.rules.required then .lacking else .null
  | some (.string s) => if s.isEmpty ∧ spec.rules.required ∧ spec.isString then .lacking else .value (.string s)
  | some value => .value value

mutual

/-- the broken rules of a value at a path -/
def violations (patterns : PatternTable) (path : String) : Spec → Json → List Violation
  | .leaf rules type, value => (rules.leafBreaches patterns type value).map (⟨path, ·⟩)
  | .array _ element, .array items =>
    (items.zipIdx.map fun item =>
      if item.1.isNull then [] else violations patterns (itemPath path item.2) element item.1).flatten
  | .object _ fields, .object members => fieldViolations patterns path fields members
  | spec, value => [⟨path, .wrongType spec.tag value.kindName⟩]

def fieldViolations (patterns : PatternTable) (parent : String) :
    List (String × Spec) → Members → List Violation
  | [], _ => []
  | (name, spec) :: rest, members =>
    (match spec.given (members.lookup name) with
      | .lacking => [⟨fieldPath parent name, .missing⟩]
      | .absent => []
      | .null => []
      | .value value => violations patterns (fieldPath parent name) spec value)
      ++ fieldViolations patterns parent rest members

end

mutual

/-- a value as it is stored -/
def normalize : Spec → Json → Json
  | .array _ element, .array items =>
    .array (items.map fun item => if item.isNull then .null else normalize element item)
  | .object _ fields, .object members => .object (Members.overlay [] (normalizeFields fields members))
  | _, value => value

/-- what is stored for the fields of an object, one after the other, defaults filled in -/
def normalizeFields : List (String × Spec) → Members → Members
  | [], _ => []
  | (name, spec) :: rest, members =>
    (match spec.given (members.lookup name) with
      | .lacking => []
      | .absent => (spec.rules.default.map fun value => (name, value)).toList
      | .null => [(name, .null)]
      | .value value => [(name, normalize spec value)])
      ++ normalizeFields rest members

end

end Spec

namespace Schema

def violations (schema : Schema) (patterns : PatternTable) : Json → List Violation
  | .object members => Spec.fieldViolations patterns "" schema.fields members
  | value => [⟨"$root", .notObject value.kindName⟩]

def normalize (schema : Schema) : Json → Members
  | .object members => Members.overlay [] (Spec.normalizeFields schema.fields members)
  | _ => []

/-- the stored form of a document, or all rules that it breaks -/
def validate (schema : Schema) (patterns : PatternTable) (document : Json) : Except (List Violation) Members :=
  match schema.violations patterns document with
  | [] => .ok (schema.normalize document)
  | violations => .error violations

end Schema

end DocumentModels
