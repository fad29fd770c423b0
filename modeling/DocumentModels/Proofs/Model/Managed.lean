/-
Managed fields: the key and the stamps that an insertion supplies.

An insertion gives a document a key and, if the model has stamps, the times at which it was made and last changed, unless
the document carries them; null does not count as carried. A schema may declare fields of the same names, and what these
make of a document comes first.
- `supply`, `lookup_managed`: what is stored under a managed name: what its fields store, else what is supplied.
- `Supplies`: a document is never turned away for lacking a managed field, and what is stored has them all.
- `supplies_of_undeclared`: so it is for a model without fields of these names, where its next key is free.
- `not_supplies_null`: a model with an optional field of such a name stores null there, if it stores anything.
- `not_supplies_taken`: and where the next key is taken, a document without a key is turned away.
- `supplies_iff_of_state`, `supplies_iff`: all of it, for one state and for every state of a registered model. The next key
  is free as long as the counter has room.
- `stamps_not_supplied`: a stamp of null that is stored, and a stamp without which a document is rejected.
-/
import Mathlib.Tactic
import DocumentModels.Emit.Validator
import DocumentModels.Proofs.Model.Counter
import DocumentModels.Proofs.Model.Locality

namespace DocumentModels

namespace Collection

open Emit (managedFields)

/-! ## What is supplied -/

/-- what an insertion supplies under a managed name, unless the document carries it -/
def supply (model : Collection) (input : Input) (name : String) : Json :=
  (carried? input.document name).getD (if name = idKey then .ofNat model.nextId.toNat else .string input.now)

/-- null is never supplied -/
theorem isNull_supply (model : Collection) (input : Input) (name : String) :
    (model.supply input name).isNull = false := by
  unfold supply
  cases hcarried : carried? input.document name with
  | some value =>
    have hpresent := (Option.filter_eq_some_iff.1 hcarried).2
    simpa using hpresent
  | none =>
    rw [Option.getD_none]
    split_ifs <;> rfl

/-- the stamps that are added are those that the fields do not store -/
theorem lookup_stampsFor {model : Collection} (htimestamps : model.timestamps = true) (input : Input) {fields : Members}
    {name : String} (hname : name ∈ stampKeys) (hnone : fields.lookup name = none) :
    (model.stampsFor input fields).lookup name = some (model.supply input name) := by
  rw [stampsFor, if_pos htimestamps]
  apply lookup_of_forall
  · rw [List.map_map, List.mem_map]
    exact ⟨name, List.mem_filter.2 ⟨hname, by simp [hnone]⟩, rfl⟩
  · intro stamp hstamp hsame
    obtain ⟨other, -, rfl⟩ := List.mem_map.1 hstamp
    obtain rfl : other = name := hsame
    simp [supply, ne_idKey_of_stamp hname]

/-- **What is stored under a managed name:** what its fields store, else what is supplied. -/
theorem lookup_managed {model : Collection} (htimestamps : model.timestamps = true) (input : Input) {fields : Members}
    (hnames : fields.names.Nodup) {name : String} (hname : name ∈ managedFields) :
    (model.storedMembers input fields).lookup name = some ((fields.lookup name).getD (model.supply input name)) := by
  rcases List.mem_cons.1 hname with rfl | hstamp
  · exact lookup_storedMembers model input hnames
  · rw [storedMembers_eq model input hnames, List.lookup_append, Members.lookup_overlay, lookup_reverse hnames,
      List.lookup_cons, beq_false_of_ne (ne_idKey_of_stamp hstamp), List.lookup_nil, Option.or_none]
    cases hfield : fields.lookup name with
    | some value => rfl
    | none => rw [lookup_stampsFor htimestamps input hstamp hfield, Option.none_or, Option.getD_none]

/-! ## Supplying managed fields -/

/-- **An insertion supplies what a document lacks.** No field of a managed name breaks anything because the document does
not carry it; a valid document without a key is not taken for a duplicate; and whatever is stored has a key and both
stamps, none of them null. -/
structure Supplies (model : Collection) (input : Input) : Prop where
  admitted : ∀ members, input.document = .object members → ∀ field ∈ model.schema.fields, field.1 ∈ managedFields →
    carried? input.document field.1 = none → field.2.ownFaults field.1 (members.lookup field.1) = []
  fresh : carried? input.document idKey = none → ∀ fields, model.validate input.document = .ok fields →
    ∃ stored, (model.call input).1 = .ok stored
  supplied : ∀ stored, (model.call input).1 = .ok stored → ∀ name ∈ managedFields,
    ∃ value, stored.get? name = some value ∧ value.isNull = false

/-- without fields of managed names, they are supplied as long as the next key is free -/
theorem supplies_of_undeclared {model : Collection} (htimestamps : model.timestamps = true)
    (hundeclared : ∀ field ∈ model.schema.fields, field.1 ∉ managedFields) (hfree : model.nextTaken = false)
    (input : Input) : model.Supplies input := by
  refine ⟨?_, ?_, ?_⟩
  · intro members _ field hfield hmanaged
    exact absurd hmanaged (hundeclared field hfield)
  · intro hcarried fields hvalid
    exact ⟨_, by rw [call_of_accepts (accepts_uncarried hfree hcarried hvalid)]⟩
  · intro stored hstored name hname
    rcases model.call_cases input with ⟨violations, hcall⟩ | ⟨fields, haccepts, hcall⟩
    · simp [hcall] at hstored
    · rw [hcall, Except.ok.injEq] at hstored
      subst hstored
      have hnone : fields.lookup name = none :=
        Schema.lookup_of_undeclared (fun field hfield hsame => hundeclared field hfield (hsame ▸ hname)) haccepts.valid
      refine ⟨_, lookup_managed htimestamps input (nodup_of_validate haccepts.valid) hname, ?_⟩
      rw [hnone, Option.getD_none, isNull_supply]

/-- what a document does not carry is no fault where the field is not required -/
theorem ownFaults_uncarried {spec : Spec} (hoptional : spec.rules.required = false) (path : String) {member : Option Json}
    (hmember : ∀ value ∈ member, value = .null) : spec.ownFaults path member = [] := by
  by_contra hfaults
  cases member with
  | none => simp [(spec.ownFaults_absent path).1 hfaults] at hoptional
  | some value =>
    rw [hmember value rfl] at hfaults
    simp [(spec.ownFaults_null path).1 hfaults] at hoptional

/-- and a model that accepts no document has nothing to store -/
theorem supplies_of_never {model : Collection}
    (hoptional : ∀ field ∈ model.schema.fields, field.1 ∈ managedFields → field.2.rules.required = false)
    (hnever : ∀ (input : Input) (stored : Members), model.validate input.document ≠ .ok stored) (input : Input) :
    model.Supplies input := by
  refine ⟨?_, ?_, ?_⟩
  · intro members hdocument field hfield hmanaged hcarried
    rw [hdocument] at hcarried
    exact ownFaults_uncarried (hoptional field hfield hmanaged) _ (null_of_uncarried hcarried)
  · intro _ fields hvalid
    exact absurd hvalid (hnever input fields)
  · intro stored hstored
    obtain ⟨fields, hvalid, -⟩ := stored_of_call hstored
    exact absurd hvalid (hnever input fields)

/-- a document carries no key once it is null -/
theorem carried?_upsert_null (members : Members) : carried? (.object (upsert idKey .null members)) idKey = none := by
  rw [carried?, Json.get?, lookup_upsert, if_pos rfl]
  rfl

/-- and none comes with another null -/
theorem carried?_of_upsert_null {members : Members} (name : String) (h : carried? (.object members) idKey = none) :
    carried? (.object (upsert name .null members)) idKey = none := by
  rw [carried?, Json.get?, lookup_upsert]
  split_ifs
  · rfl
  · exact h

section Refused

variable {model : Collection} {input : Input} {fields : Members}

/-- where a model that has optional fields of managed names accepts a document, it stores another with null there, or takes
that for a duplicate although it carries no key -/
theorem not_supplies_null (htimestamps : model.timestamps = true)
    (hoptional : ∀ field ∈ model.schema.fields, field.1 ∈ managedFields → field.2.rules.required = false) {name : String}
    (hname : name ∈ managedFields) (hmem : ∃ field ∈ model.schema.fields, field.1 = name)
    (hvalid : model.validate input.document = .ok fields) : ∃ input : Input, ¬model.Supplies input := by
  obtain ⟨members, hdocument, -⟩ := Schema.validate_ok.1 hvalid
  have hdistinct := input.distinct
  rw [hdocument] at hvalid hdistinct
  have hkeyless := validate_upsert_null hvalid
    fun field hfield (hsame : field.1 = idKey) => hoptional field hfield (by simp [hsame, managedFields, idKey])
  obtain ⟨stored, hstored, hnull⟩ := validate_null hkeyless
    (fun field hfield hsame => hoptional field hfield (hsame ▸ hname)) hmem
  have hnullDistinct : Json.null.Distinct := trivial
  obtain ⟨other, hother⟩ : ∃ other : Input, other.document = .object (upsert name .null (upsert idKey .null members)) :=
    ⟨⟨"", _, Json.distinct_upsert (Json.distinct_upsert hdistinct hnullDistinct) hnullDistinct⟩, rfl⟩
  have hcarried : carried? other.document idKey = none := by
    rw [hother]
    exact carried?_of_upsert_null name (carried?_upsert_null members)
  refine ⟨other, ?_⟩
  intro hsupplies
  rw [← hother] at hstored
  rcases model.call_cases other with ⟨violations, hrejected⟩ | ⟨fields', haccepts, haccepted⟩
  · obtain ⟨document, hcall⟩ := hsupplies.fresh hcarried stored hstored
    rw [hrejected] at hcall
    cases hcall
  · obtain ⟨value, hvalue, hpresent⟩ := hsupplies.supplied _ (by rw [haccepted]) name hname
    obtain rfl : stored = fields' := Except.ok.inj (hstored.symm.trans haccepts.valid)
    rw [Json.get?, lookup_managed htimestamps other (nodup_of_validate hstored) hname, hnull, Option.getD_some,
      Option.some.injEq] at hvalue
    subst hvalue
    simp [Json.isNull] at hpresent

/-- where the next key is taken, a model without a field of the key turns away a document that carries none -/
theorem not_supplies_taken (hkey : ∀ field ∈ model.schema.fields, field.1 ≠ idKey) (htaken : model.nextTaken = true)
    (hvalid : model.validate input.document = .ok fields) : ∃ input : Input, ¬model.Supplies input := by
  obtain ⟨members, hdocument, -⟩ := Schema.validate_ok.1 hvalid
  have hdistinct := input.distinct
  rw [hdocument] at hvalid hdistinct
  have hnullDistinct : Json.null.Distinct := trivial
  obtain ⟨other, hother⟩ : ∃ other : Input, other.document = .object (upsert idKey .null members) :=
    ⟨⟨"", _, Json.distinct_upsert hdistinct hnullDistinct⟩, rfl⟩
  have hvalid' : model.validate other.document = .ok fields := by
    rw [hother]
    exact (validate_upsert hkey _ members).trans hvalid
  have hcarried : carried? other.document idKey = none := by
    rw [hother]
    exact carried?_upsert_null members
  refine ⟨other, ?_⟩
  intro hsupplies
  obtain ⟨stored, hcall⟩ := hsupplies.fresh hcarried fields hvalid'
  rw [rejected_of_taken htaken hcarried hvalid'] at hcall
  cases hcall

end Refused

theorem ne_idKey_of_undeclared {fields : List (String × Spec)} (h : ∀ field ∈ fields, field.1 ∉ managedFields) :
    ∀ field ∈ fields, field.1 ≠ idKey := by
  intro field hfield hsame
  exact h field hfield (by simp [hsame, managedFields, idKey])

/-- the states in which managed fields are supplied for every document -/
theorem supplies_iff_of_state {model : Collection} (htimestamps : model.timestamps = true) :
    (∀ input, model.Supplies input) ↔
      ((∀ field ∈ model.schema.fields, field.1 ∉ managedFields) ∧ model.nextTaken = false) ∨
        ((∀ field ∈ model.schema.fields, field.1 ∈ managedFields → field.2.rules.required = false) ∧
          ∀ (input : Input) (stored : Members), model.validate input.document ≠ .ok stored) := by
  constructor
  · intro hsupplies
    have hoptional : ∀ field ∈ model.schema.fields, field.1 ∈ managedFields → field.2.rules.required = false := by
      intro field hfield hmanaged
      -- the empty document carries none of them
      have hadmitted := (hsupplies ⟨"", .object [], by simp [Json.Distinct, Json.DistinctMembers]⟩).admitted [] rfl field
        hfield hmanaged rfl
      exact not_required (by simp) hadmitted
    by_cases hnever : ∀ (input : Input) (stored : Members), model.validate input.document ≠ .ok stored
    · exact Or.inr ⟨hoptional, hnever⟩
    · left
      push Not at hnever
      obtain ⟨input, fields, hvalid⟩ := hnever
      have hundeclared : ∀ field ∈ model.schema.fields, field.1 ∉ managedFields := by
        intro field hfield hmanaged
        obtain ⟨other, hother⟩ := not_supplies_null htimestamps hoptional hmanaged ⟨field, hfield, rfl⟩ hvalid
        exact hother (hsupplies other)
      refine ⟨hundeclared, ?_⟩
      by_contra htaken
      rw [Bool.not_eq_false] at htaken
      obtain ⟨other, hother⟩ := not_supplies_taken (ne_idKey_of_undeclared hundeclared) htaken hvalid
      exact hother (hsupplies other)
  · rintro (⟨hundeclared, hfree⟩ | ⟨hoptional, hnever⟩) input
    · exact supplies_of_undeclared htimestamps hundeclared hfree input
    · exact supplies_of_never hoptional hnever input

/-- **When managed fields are supplied.** In every state of a registered model with stamps:
- they are supplied for every document just when the schema declares no field of their names and the key that is given next
  is free; unless the model accepts no document whatever, where it is enough that the declared ones are optional;
- where the schema declares no field of their names, the next key is free as long as the last number is no stored key. -/
theorem supplies_iff {registry next : Registry} {entity : String} {schema : Schema} {indexes : List Index}
    {model : Collection} (h : registry.register entity schema indexes = .ok (next, model))
    (htimestamps : registry.timestamps = true) (inputs : List Input) :
    ((∀ input, (model.insertAll inputs).Supplies input) ↔
      ((∀ field ∈ schema.fields, field.1 ∉ managedFields) ∧ (model.insertAll inputs).nextTaken = false) ∨
        ((∀ field ∈ schema.fields, field.1 ∈ managedFields → field.2.rules.required = false) ∧
          ∀ (input : Input) (stored : Members), model.validate input.document ≠ .ok stored)) ∧
    ((∀ field ∈ schema.fields, field.1 ∉ managedFields) → ¬(model.insertAll inputs).Exhausted →
      (model.insertAll inputs).nextTaken = false) := by
  obtain ⟨patterns, -, -, rfl⟩ := register_ok h
  set start := fresh (Emit.modelName entity) entity schema indexes registry.timestamps patterns
  have hconfig := insertAll_config start inputs
  have hschema : (start.insertAll inputs).schema = schema := hconfig.1
  have hstamps : (start.insertAll inputs).timestamps = true := hconfig.2.2.1.trans htimestamps
  refine ⟨?_, ?_⟩
  · rw [supplies_iff_of_state hstamps, hschema]
    simp only [hconfig.validate_eq]
  · intro hundeclared hroom
    exact nextTaken_eq_false
      (insertAll_keysBelow (ne_idKey_of_undeclared hundeclared) (keysBelow_of_empty rfl) hroom)

/-! ## Stamps that are not supplied -/

/-- a schema in which a stamp is optional -/
def visitSchema : Schema :=
  ⟨"visits", [("title", .leaf { required := true } .string), ("createdAt", .leaf { required := false } .date)]⟩

def visitModel : Collection := fresh (Emit.modelName "visits") "visits" visitSchema [] true []

/-- a document whose stamp is null -/
def unstampedVisit : Input where
  now := "monday"
  document := .object [("title", .string "A"), ("createdAt", .null)]
  distinct := by simp [Json.Distinct, Json.DistinctMembers]

/-- a model with an optional stamp does not supply it for every document -/
theorem visits_not_supplied :
    Registry.register {} "visits" visitSchema [] = .ok ({ models := [visitModel] }, visitModel) ∧
      ¬∀ input, (visitModel.insertAll [unstampedVisit]).Supplies input := by
  have hregister : Registry.register {} "visits" visitSchema [] = .ok ({ models := [visitModel] }, visitModel) := rfl
  refine ⟨hregister, ?_⟩
  rw [(supplies_iff hregister rfl [unstampedVisit]).1]
  rintro (⟨hundeclared, -⟩ | ⟨-, hnever⟩)
  · exact hundeclared ("createdAt", .leaf { required := false } .date) (by simp [visitSchema]) (by decide)
  · exact hnever unstampedVisit [("title", .string "A"), ("createdAt", .null)] rfl

/-- a model in which a stamp is required -/
def permitModel : Collection :=
  fresh (Emit.modelName "permits") "permits" ⟨"permits", [("createdAt", .leaf { required := true } .date)]⟩ [] true []

/-- a document without stamps -/
def emptyPermit : Input := ⟨"monday", .object [], by simp [Json.Distinct, Json.DistinctMembers]⟩

/-- **An optional stamp is stored as null,** while the other one is supplied; **and a required one is asked for.** -/
theorem stamps_not_supplied :
    ((visitModel.call unstampedVisit).1 = .ok (.object [("_id", .ofNat 1), ("title", .string "A"), ("createdAt", .null),
        ("updatedAt", .string "monday")]) ∧
      ¬visitModel.Supplies unstampedVisit) ∧
    (permitModel.call emptyPermit).1 = .error [⟨"createdAt", .missing⟩] ∧ ¬permitModel.Supplies emptyPermit := by
  have hstored : (visitModel.call unstampedVisit).1 = .ok (.object [("_id", .ofNat 1), ("title", .string "A"),
      ("createdAt", .null), ("updatedAt", .string "monday")]) := by
    have haccepts : visitModel.Accepts unstampedVisit [("title", .string "A"), ("createdAt", .null)] :=
      ⟨rfl, by simp [hasId, visitModel, fresh]⟩
    rw [call_of_accepts haccepts]
    rfl
  refine ⟨⟨hstored, ?_⟩, rfl, ?_⟩
  · intro hsupplies
    obtain ⟨value, hvalue, hpresent⟩ := hsupplies.supplied _ hstored "createdAt" (by decide)
    obtain rfl : Json.null = value := Option.some.inj hvalue
    simp [Json.isNull] at hpresent
  · intro hsupplies
    have hadmitted := hsupplies.admitted [] rfl _ List.mem_cons_self (by decide) rfl
    exact (Spec.ownFaults_absent _ _).2 rfl hadmitted

end Collection

end DocumentModels
