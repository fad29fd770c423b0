/-
What a model stores for a document, the validator of its collection admits, null items apart.

A model takes null for every item of an array and keeps it; a validator asks of an item what it asks of a required field.
- `Spec.NullsFit`: the items of null in a value stand where the validator of the element takes null.
- `accepts_ruleMembers`, `accepts_null`: rules on one value, and null.
- `accepts_position_iff`, `acceptsMembers_iff_nullsFit`: a conforming value is accepted just when its nulls fit, by
  induction on the position.
- `validator_admits_iff`: so is what a model stores, where every default is null or settled and names are distinct.
- `null_item_refused`: an item of null can be refused, and so can a member whose name is declared twice.
-/
import Mathlib.Tactic
import DocumentModels.Emit.Validator
import DocumentModels.Proofs.Emit.Acceptance
import DocumentModels.Proofs.Model.Idempotence

namespace DocumentModels

namespace Spec

/-! ## Nulls and dates -/

/-- whether the validator of a required position takes null -/
def takesNull : Spec → Bool
  | .leaf rules .mixed => rules.enumValues.all (Json.null.isIn ·)
  | _ => false

mutual

/-- items of null stand only where their element takes null -/
def NullsFit : Spec → Json → Prop
  | .array _ element, .array items =>
    ∀ item ∈ items, if item.isNull then element.takesNull = true else NullsFit element item
  | .object _ fields, .object members => FieldNullsFit fields members
  | _, _ => True

def FieldNullsFit : List (String × Spec) → Members → Prop
  | [], _ => True
  | (name, spec) :: rest, members =>
    (∀ value ∈ members.lookup name, NullsFit spec value) ∧ FieldNullsFit rest members

end

mutual

/-- no part of a position is a date -/
def Undated : Spec → Prop
  | .leaf _ type => type ≠ .date
  | .array _ element => element.Undated
  | .object _ fields => FieldsUndated fields

def FieldsUndated : List (String × Spec) → Prop
  | [] => True
  | (_, spec) :: rest => spec.Undated ∧ FieldsUndated rest

end

theorem fieldsUndated_iff (fields : List (String × Spec)) :
    FieldsUndated fields ↔ ∀ field ∈ fields, field.2.Undated := by
  induction fields with
  | nil => simp [FieldsUndated]
  | cons field rest ih =>
    obtain ⟨name, spec⟩ := field
    rw [FieldsUndated, ih, List.forall_mem_cons]

theorem fieldNamesDistinct_iff (fields : List (String × Spec)) :
    FieldNamesDistinct fields ↔ ∀ field ∈ fields, field.2.NamesDistinct := by
  induction fields with
  | nil => simp [FieldNamesDistinct]
  | cons field rest ih =>
    obtain ⟨name, spec⟩ := field
    rw [FieldNamesDistinct, ih, List.forall_mem_cons]

theorem nullsFit_null (spec : Spec) : NullsFit spec .null := by
  cases spec <;> trivial

end Spec

namespace Emit

open JsonSchema

/-! ## Rules on one value -/

theorem acceptsAll_bsonType (name : String) (nullable : Bool) (value : Json) :
    acceptsAll (bsonType name nullable) value = (typeName value == name || nullable && typeName value == "null") := by
  cases nullable
  · simp [bsonType, acceptsAll, hasType]
  · simp [bsonType, acceptsAll, hasType, Json.asString?, Bool.beq_comm]

theorem units_integral {n : Number} (h : n.isIntegral = true) : units n % units (.int 1) = 0 := by
  have hone : units (.int 1) = unitsOfOne := by rw [units, Int.natAbs_one, one_mul]
  rw [hone]
  cases n with
  | int i => exact Nat.mul_mod_left i.natAbs unitsOfOne
  | float x => exact beq_iff_eq.1 h

theorem isIn_admitted {values : List Json} {value : Json} (h : value.isIn values = true) (nullable : Bool) :
    value.isIn (admitted values nullable) = true := by
  unfold admitted
  split_ifs
  · rw [Json.isIn, List.any_append, Bool.or_eq_true]
    exact Or.inl h
  · exact h

/-- **A value that obeys the rules is accepted by the keywords that state them.** -/
theorem accepts_ruleMembers {rules : Rules} {value : Json} (h : rules.Allow value) (nullable : Bool) :
    acceptsAll (ruleMembers rules nullable) value = true := by
  have hinteger : acceptsAll (if rules.integer then [("multipleOf", Json.ofNat 1)] else []) value = true := by
    split_ifs with hrule
    · cases value with
      | number n =>
        have hunits := units_integral ((h.number n rfl).integral hrule)
        simpa [acceptsAll, onNumber, Json.ofNat] using hunits
      | _ => rfl
    · rfl
  simp only [ruleMembers, acceptsAll_append, Bool.and_eq_true, acceptsAll_option, hinteger, and_true]
  refine ⟨⟨⟨⟨⟨?_, ?_⟩, ?_⟩, ?_⟩, ?_⟩, ?_⟩
  · intro values hvalues
    simpa [acceptsAll, Json.asArray?] using isIn_admitted (h.admitted values hvalues) nullable
  · intro min hmin
    cases value with
    | number n => simpa [acceptsAll, onNumber] using (h.number n rfl).atLeast min hmin
    | _ => rfl
  · intro max hmax
    cases value with
    | number n => simpa [acceptsAll, onNumber] using (h.number n rfl).atMost max hmax
    | _ => rfl
  · intro min hmin
    cases value with
    | string s => simpa [acceptsAll, onLength, Json.ofNat, Number.toNat?] using (h.string s rfl).atLeast min hmin
    | _ => rfl
  · intro max hmax
    cases value with
    | string s => simpa [acceptsAll, onLength, Json.ofNat, Number.toNat?] using (h.string s rfl).atMost max hmax
    | _ => rfl
  · intro pattern hpattern
    cases value with
    | string s =>
      obtain ⟨expr, hparse, hmatch⟩ := (h.string s rfl).alike pattern hpattern
      simp [acceptsAll, isLike, hparse, hmatch]
    | _ => rfl

theorem null_isIn_admitted (values : List Json) (nullable : Bool) :
    Json.null.isIn (admitted values nullable) = (nullable || Json.null.isIn values) := by
  have hadded : Json.null.isIn (values ++ [Json.null]) = true := by
    rw [Json.isIn, List.any_append, Bool.or_eq_true]
    exact Or.inr rfl
  unfold admitted
  cases nullable with
  | false => rfl
  | true => cases h : Json.null.isIn values <;> simp [h, hadded]

/-- of the keywords that state rules, only membership says something of null -/
theorem acceptsAll_ruleMembers_null (rules : Rules) (nullable : Bool) :
    acceptsAll (ruleMembers rules nullable) .null = (nullable || rules.enumValues.all (Json.null.isIn ·)) := by
  have hother : ∀ {α : Type} (rule : Option α) (keyword : String) (argument : α → Json),
      (∀ a, acceptsAll [(keyword, argument a)] .null = true) →
        acceptsAll (rule.map fun a => (keyword, argument a)).toList .null = true :=
    fun rule keyword argument h => (acceptsAll_option rule _ .null).2 fun a _ => h a
  have hinteger : acceptsAll (if rules.integer then [("multipleOf", Json.ofNat 1)] else []) .null = true := by
    split_ifs <;> rfl
  have henum : acceptsAll (rules.enumValues.map fun values => ("enum", Json.array (admitted values nullable))).toList .null
      = (nullable || rules.enumValues.all (Json.null.isIn ·)) := by
    cases rules.enumValues with
    | none => simp [acceptsAll]
    | some values => simp [acceptsAll, Json.asArray?, null_isIn_admitted]
  rw [ruleMembers]
  simp only [acceptsAll_append, henum, hinteger, hother rules.min "minimum" .number fun _ => rfl,
    hother rules.max "maximum" .number fun _ => rfl, hother rules.minLength "minLength" .ofNat fun _ => rfl,
    hother rules.maxLength "maxLength" .ofNat fun _ => rfl, hother rules.pattern "pattern" .string fun _ => rfl,
    Bool.and_true]

/-! ## Objects -/

theorem names_propertyMembers (fields : List (String × Spec)) :
    (propertyMembers fields).names = fields.map Prod.fst := by
  induction fields with
  | nil => rfl
  | cons field rest ih =>
    obtain ⟨name, spec⟩ := field
    rw [propertyMembers, List.map_cons, ← ih]
    rfl

/-- with distinct names, every field has its own validator -/
theorem overlay_propertyMembers {fields : List (String × Spec)} (h : (fields.map Prod.fst).Nodup) :
    Members.overlay [] (propertyMembers fields) = propertyMembers fields := by
  rw [← names_propertyMembers] at h
  exact Members.overlay_of_nodup h

theorem acceptsAll_requiredMember {fields : List (String × Spec)} {members : Members}
    (h : Spec.FieldsConform fields members) : acceptsAll (requiredMember fields) (.object members) = true := by
  have hnames : hasNames (.array ((requiredNames fields).map .string)) (.object members) = true := by
    simp only [hasNames, Json.asArray?, Option.getD_some, List.all_map, List.all_eq_true, requiredNames]
    intro field hfield
    obtain ⟨hfield, hrequired⟩ := List.mem_filter.1 hfield
    have hmember := h field hfield
    cases hlookup : members.lookup field.1 with
    | some value => simp [Json.asString?, hlookup]
    | none =>
      rw [hlookup] at hmember
      cases hmember with
      | absent hoptional => rw [hoptional] at hrequired; cases hrequired
  unfold requiredMember
  by_cases hempty : (requiredNames fields).isEmpty = true
  · simp [hempty, acceptsAll]
  · simpa [hempty, acceptsAll] using hnames

theorem acceptsAll_requiredMember_null (fields : List (String × Spec)) :
    acceptsAll (requiredMember fields) .null = true := by
  unfold requiredMember
  by_cases hempty : (requiredNames fields).isEmpty = true
  · simp [hempty, acceptsAll]
  · simp [hempty, acceptsAll, hasNames]

/-! ## Positions -/

/-- **The validator of a position takes null** if its field need not be there, or if its type is open. -/
theorem accepts_null (nullable : Bool) (spec : Spec) :
    accepts (.object (positionMembers nullable spec)) .null = (nullable || spec.takesNull) := by
  cases spec with
  | leaf rules type =>
    rw [accepts, positionMembers, acceptsAll_append, acceptsAll_ruleMembers_null]
    cases type <;> cases nullable <;>
      simp [bsonName?, acceptsAll_bsonType, typeName, Spec.takesNull, acceptsAll]
  | array rules element =>
    rw [accepts, positionMembers, acceptsAll_append, acceptsAll_append, acceptsAll_ruleMembers_null, acceptsAll_bsonType]
    cases nullable <;> simp [typeName, Spec.takesNull, acceptsAll, Json.asArray?]
  | object rules fields =>
    rw [accepts, positionMembers, acceptsAll_append, acceptsAll_append, acceptsAll_append, acceptsAll_ruleMembers_null,
      acceptsAll_bsonType, acceptsAll_requiredMember_null]
    have hproperties : acceptsMembers (Members.overlay [] (propertyMembers fields)) .null = true := by
      rw [acceptsMembers_iff]
      intro property _ member hmember
      cases hmember
    cases nullable <;> simp [typeName, Spec.takesNull, acceptsAll, acceptsProperties, hproperties]

theorem accepts_leaf {rules : Rules} {type : BaseType} {value : Json} (hundated : type ≠ .date) (hfits : type.Fits value)
    (hallow : rules.Allow value) (nullable : Bool) :
    accepts (.object (positionMembers nullable (.leaf rules type))) value = true := by
  rw [accepts, positionMembers, acceptsAll_append, accepts_ruleMembers hallow, Bool.and_true]
  cases type with
  | mixed => rfl
  | date => exact absurd rfl hundated
  | _ =>
    cases value <;> first
      | exact hfits.elim
      | simp [bsonName?, acceptsAll_bsonType, typeName]

theorem accepts_objectMembers {fields : List (String × Spec)} (hnames : (fields.map Prod.fst).Nodup) {members : Members}
    (h : Spec.FieldsConform fields members) (nullable : Bool) :
    acceptsAll (bsonType "object" nullable ++ requiredMember fields
        ++ [("properties", Json.object (Members.overlay [] (propertyMembers fields)))]) (.object members)
      = acceptsMembers (propertyMembers fields) (.object members) := by
  rw [overlay_propertyMembers hnames, acceptsAll_append, acceptsAll_append, acceptsAll_bsonType,
    acceptsAll_requiredMember h]
  simp [typeName, acceptsAll, acceptsProperties]

theorem accepts_member_iff {spec : Spec} {member : Json} (h : Spec.FieldConforms spec (some member))
    (hspec : ∀ nullable, spec.Conforms member →
      (accepts (.object (positionMembers nullable spec)) member = true ↔ spec.NullsFit member)) :
    accepts (.object (positionMembers (!spec.rules.required) spec)) member = true ↔ spec.NullsFit member := by
  cases h with
  | null hrequired => simp [accepts_null, hrequired, Spec.nullsFit_null]
  | value _ _ hmember => exact hspec _ hmember

mutual

/-- **A conforming value is accepted just when the nulls in it fit.** -/
theorem accepts_position_iff : ∀ (spec : Spec) (nullable : Bool) (value : Json), spec.NamesDistinct → spec.Undated →
    spec.Conforms value →
      (accepts (.object (positionMembers nullable spec)) value = true ↔ spec.NullsFit value)
  | .leaf rules type, nullable, value, _, hundated, h => by
    cases h with
    | leaf hfits hallow => simp [accepts_leaf hundated hfits hallow, Spec.NullsFit]
  | .array rules element, nullable, value, hnames, hundated, h => by
    cases h with
    | @array _ _ items hitems hallow =>
      have hitem : ∀ item ∈ items, accepts (.object (positionMembers false element)) item = true ↔
          if item.isNull then element.takesNull = true else element.NullsFit item := by
        intro item hmem
        cases hitems item hmem with
        | null => rw [accepts_null]; rfl
        | value hitem =>
          have hvalue := accepts_position_iff element false item hnames hundated hitem
          cases item with
          | null => rw [accepts_null]; rfl
          | _ => exact hvalue
      rw [accepts, positionMembers, acceptsAll_append, acceptsAll_append, acceptsAll_bsonType,
        accepts_ruleMembers hallow, Spec.NullsFit, ← forall₂_congr hitem]
      simp [typeName, acceptsAll, Json.asArray?]
  | .object rules fields, nullable, value, hnames, hundated, h => by
    cases h with
    | @object _ _ members hmembers hallow =>
      rw [accepts, positionMembers, acceptsAll_append, accepts_ruleMembers hallow, Bool.and_true,
        accepts_objectMembers hnames.1 hmembers, Spec.NullsFit]
      exact acceptsMembers_iff_nullsFit fields members hnames.2 hundated hmembers

theorem acceptsMembers_iff_nullsFit : ∀ (fields : List (String × Spec)) (members : Members),
    Spec.FieldNamesDistinct fields → Spec.FieldsUndated fields → Spec.FieldsConform fields members →
      (acceptsMembers (propertyMembers fields) (.object members) = true ↔ Spec.FieldNullsFit fields members)
  | [], _, _, _, _ => by simp [propertyMembers, acceptsMembers, Spec.FieldNullsFit]
  | (name, spec) :: rest, members, hnames, hundated, h => by
    have hfield : Spec.FieldConforms spec (members.lookup name) := h _ List.mem_cons_self
    have hrest := acceptsMembers_iff_nullsFit rest members hnames.2 hundated.2
      fun other hother => h other (List.mem_cons_of_mem _ hother)
    rw [propertyMembers, acceptsMembers, Bool.and_eq_true, hrest, Spec.FieldNullsFit, Json.get?]
    apply and_congr_left'
    cases hlookup : members.lookup name with
    | none => simp
    | some member =>
      rw [hlookup] at hfield
      have hmember := accepts_member_iff hfield fun nullable hvalue =>
        accepts_position_iff spec nullable member hnames.1 hundated.1 hvalue
      simpa using hmember

end

/-! ## Schemas -/

def unmanagedFields (schema : Schema) : List (String × Spec) :=
  schema.fields.filter fun field => !managedFields.contains field.1

/-- **What a model stores, the validator of its collection admits, just when the nulls in it fit.** In every later state of a
registered model whose schema is a translation without dates, with distinct names, and with each default null or settled. -/
theorem validator_admits_iff {registry registry' : Registry} {label : String} {entity : Entity} {indexes : List Index}
    {model : Collection} (h : registry.register label entity.schema indexes = .ok (registry', model))
    (hnames : entity.schema.NamesDistinct) (hundated : Spec.FieldsUndated entity.schema.fields)
    (hdefaults : Spec.FieldDefaultsHold (Spec.Settled model.patterns) entity.schema.fields) (inputs : List Input)
    {document : Json} {stored : Members} (hvalid : (model.insertAll inputs).validate document = .ok stored) :
    admits (validator entity.schema) (.object stored) = true ↔
      Spec.FieldNullsFit (unmanagedFields entity.schema) stored := by
  obtain ⟨hpatterns, hvalidate⟩ := Collection.validate_of_register h
  rw [hvalidate] at hvalid
  have hconforms := (Collection.stored_fixed hpatterns hnames hdefaults hvalid).1
  have hlisted : ∀ field ∈ unmanagedFields entity.schema, field ∈ entity.schema.fields :=
    fun field hfield => (List.mem_filter.1 hfield).1
  have hdistinct : ((unmanagedFields entity.schema).map Prod.fst).Nodup :=
    hnames.1.sublist ((List.filter_sublist).map Prod.fst)
  have hmembers : Spec.FieldsConform (unmanagedFields entity.schema) stored :=
    fun field hfield => hconforms field (hlisted field hfield)
  have hadmits : admits (validator entity.schema) (.object stored)
      = acceptsMembers (propertyMembers (unmanagedFields entity.schema)) (.object stored) :=
    accepts_objectMembers hdistinct hmembers false
  rw [hadmits]
  refine acceptsMembers_iff_nullsFit _ _ ?_ ?_ hmembers
  · rw [Spec.fieldNamesDistinct_iff]
    exact fun field hfield => (Spec.fieldNamesDistinct_iff _).1 hnames.2 field (hlisted field hfield)
  · rw [Spec.fieldsUndated_iff]
    exact fun field hfield => (Spec.fieldsUndated_iff _).1 hundated field (hlisted field hfield)

/-! ## Items of null -/

/-- an entity with a stamp, an array of objects, one of which has a default, and an array of an open type -/
def noteEntity : Entity :=
  ⟨"notes", [("title", .leaf {} (.string { minLength := some 1 })),
    ("updatedAt", .leaf {} .boolean),
    ("parts", .array {} (.object {} [("kind", .leaf { default := some (.string "plain") } (.enum ["plain", "fine"]))])),
    ("extras", .array { optional := true } (.union {} []))]⟩

def noteModel : Collection := .fresh (modelName "notes") "notes" noteEntity.schema [] false []

/-- an open type takes the item of null, and the default that is filled in is admitted -/
theorem note_admitted :
    Registry.register { timestamps := false } "notes" noteEntity.schema []
        = .ok ({ timestamps := false, models := [noteModel] }, noteModel) ∧
      noteEntity.schema.NamesDistinct ∧ Spec.FieldsUndated noteEntity.schema.fields ∧
      Spec.FieldDefaultsHold (Spec.Settled noteModel.patterns) noteEntity.schema.fields ∧
      (noteModel.insertAll []).validate (.object [("extras", .array [.null]), ("parts", .array [.object []]),
          ("updatedAt", .bool true), ("title", .string "T")])
        = .ok [("title", .string "T"), ("updatedAt", .bool true), ("parts", .array [.object [("kind", .string "plain")]]),
          ("extras", .array [.null])] ∧
      admits (validator noteEntity.schema) (.object [("title", .string "T"), ("updatedAt", .bool true),
        ("parts", .array [.object [("kind", .string "plain")]]), ("extras", .array [.null])]) = true := by
  have hregister : Registry.register { timestamps := false } "notes" noteEntity.schema []
      = .ok ({ timestamps := false, models := [noteModel] }, noteModel) := rfl
  have hnames : noteEntity.schema.NamesDistinct := by
    refine ⟨by decide, ?_⟩
    simp [noteEntity, Entity.schema, Field.specs, Field.spec, Leaf.spec, Spec.FieldNamesDistinct, Spec.NamesDistinct]
  have hundated : Spec.FieldsUndated noteEntity.schema.fields := by
    simp [noteEntity, Entity.schema, Field.specs, Field.spec, Leaf.spec, Spec.FieldsUndated, Spec.Undated]
  have hdefaults : Spec.FieldDefaultsHold (Spec.Settled noteModel.patterns) noteEntity.schema.fields := by
    have hplain : Spec.Settled noteModel.patterns
        (.leaf { required := false, default := some (.string "plain"), enumValues := some [.string "plain", .string "fine"] }
          .string) (.string "plain") := ⟨rfl, rfl⟩
    simpa [noteEntity, Entity.schema, Field.specs, Field.spec, Leaf.spec, Modifiers.rules, Modifiers.required, Spec.rules,
      Spec.FieldDefaultsHold, Spec.DefaultsHold] using hplain
  have hvalid : (noteModel.insertAll []).validate (.object [("extras", .array [.null]), ("parts", .array [.object []]),
      ("updatedAt", .bool true), ("title", .string "T")])
        = .ok [("title", .string "T"), ("updatedAt", .bool true), ("parts", .array [.object [("kind", .string "plain")]]),
          ("extras", .array [.null])] := rfl
  refine ⟨hregister, hnames, hundated, hdefaults, hvalid,
    (validator_admits_iff hregister hnames hundated hdefaults [] hvalid).2 ?_⟩
  simp [noteEntity, unmanagedFields, managedFields, Entity.schema, Field.specs, Field.spec, Leaf.spec, Modifiers.rules,
    Spec.FieldNullsFit, Spec.NullsFit, Spec.takesNull, Json.isNull, List.lookup_cons]

def taggedEntity : Entity := ⟨"tagged", [("tags", .array {} (.leaf {} (.string {})))]⟩

def taggedModel : Collection := .fresh (modelName "tagged") "tagged" taggedEntity.schema [] false []

def twiceEntity : Entity :=
  ⟨"twice", [("a", .leaf { default := some (.string "x") } (.string {})), ("a", .leaf { optional := true } (.number {}))]⟩

def twiceModel : Collection := .fresh (modelName "twice") "twice" twiceEntity.schema [] false []

/-- **What is stored can be refused:** an item of null that a model keeps, and, where a name is declared twice, the default
of the first field, which the validator of the second does not take. -/
theorem null_item_refused :
    (Registry.register { timestamps := false } "tagged" taggedEntity.schema []
        = .ok ({ timestamps := false, models := [taggedModel] }, taggedModel) ∧
      taggedEntity.schema.NamesDistinct ∧ Spec.FieldsUndated taggedEntity.schema.fields ∧
      Spec.FieldDefaultsHold (Spec.Settled taggedModel.patterns) taggedEntity.schema.fields ∧
      taggedModel.validate (.object [("tags", .array [.null])]) = .ok [("tags", .array [.null])] ∧
      admits (validator taggedEntity.schema) (.object [("tags", .array [.null])]) = false) ∧
    (Registry.register { timestamps := false } "twice" twiceEntity.schema []
        = .ok ({ timestamps := false, models := [twiceModel] }, twiceModel) ∧
      Spec.FieldsUndated twiceEntity.schema.fields ∧
      Spec.FieldDefaultsHold (Spec.Settled twiceModel.patterns) twiceEntity.schema.fields ∧
      twiceModel.validate (.object []) = .ok [("a", .string "x")] ∧
      admits (validator twiceEntity.schema) (.object [("a", .string "x")]) = false) := by
  have hx : Spec.Settled twiceModel.patterns (.leaf { required := false, default := some (.string "x") } .string)
      (.string "x") := ⟨rfl, rfl⟩
  refine ⟨⟨rfl, ⟨by decide, ?_⟩, ?_, ?_, rfl, rfl⟩, ⟨rfl, ?_, ?_, rfl, rfl⟩⟩
  · simp [taggedEntity, Entity.schema, Field.specs, Field.spec, Leaf.spec, Spec.FieldNamesDistinct, Spec.NamesDistinct]
  · simp [taggedEntity, Entity.schema, Field.specs, Field.spec, Leaf.spec, Spec.FieldsUndated, Spec.Undated]
  · simp [taggedEntity, Entity.schema, Field.specs, Field.spec, Leaf.spec, Modifiers.rules, Spec.rules,
      Spec.FieldDefaultsHold, Spec.DefaultsHold]
  · simp [twiceEntity, Entity.schema, Field.specs, Field.spec, Leaf.spec, Spec.FieldsUndated, Spec.Undated]
  · simpa [twiceEntity, Entity.schema, Field.specs, Field.spec, Leaf.spec, Modifiers.rules, Modifiers.required, Spec.rules,
      Spec.FieldDefaultsHold, Spec.DefaultsHold] using hx

end Emit

end DocumentModels
