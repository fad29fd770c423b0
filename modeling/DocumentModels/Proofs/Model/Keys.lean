/-
Keys of stored documents.

An insertion looks for the key that the document carries, or else for the next key, among the stored keys. What is
stored is that key overlaid with the fields of the schema, and a schema may declare a field of the same name.
- `lookup_storedMembers`: the key of a stored document.
- `KeepsKeys`: what the schema stores as a key is equal to the key that the document carries.
- `insertAll_keysUnique`: then no two stored documents have equal keys, by induction on the run.
- `twice_stored`: else a document can be stored twice. If it carries no key, it is given a key of null first
  (`validate_null_key`): the counter never meets that one.
- `keysUnique_iff_keepsKeys`: the two together.
- `keepsKeys_of_undeclared`, `keepsKeys_of_required_leaf`: the ordinary cases.
-/
import Mathlib.Tactic
import DocumentModels.Proofs.Json.Equality
import DocumentModels.Proofs.Model.Normalize
import DocumentModels.Proofs.Model.Run

namespace DocumentModels

namespace Collection

/-- two documents have equal keys -/
def SameKey (a b : Json) : Prop := ∃ v w, a.get? idKey = some v ∧ b.get? idKey = some w ∧ v.same w = true

def KeysUnique (model : Collection) : Prop := model.documents.toList.Pairwise fun a b => ¬ SameKey a b

/-- what the schema stores as a key is equal to the key that the document carries -/
def KeepsKeys (model : Collection) : Prop :=
  ∀ (document : Json) (fields : Members), document.Distinct → model.validate document = .ok fields →
    ∀ w, fields.lookup idKey = some w → ∃ v, carried? document idKey = some v ∧ w.same v = true

/-! ## The key of a stored document -/

theorem lookup_stamp (now : String) (document : Json) (stored : Members) {key : String} (hkey : idKey ≠ key) :
    (stamp now document stored key).lookup idKey = stored.lookup idKey := by
  unfold stamp
  split_ifs
  · rfl
  · rw [List.lookup_append, List.lookup_cons, beq_false_of_ne hkey, List.lookup_nil, Option.or_none]

theorem lookup_storedMembers (model : Collection) (input : Input) {fields : Members} (hnames : fields.names.Nodup) :
    (model.storedMembers input fields).lookup idKey
      = some ((fields.lookup idKey).getD (model.idOf input.document)) := by
  have hkeyed : (Members.overlay [(idKey, model.idOf input.document)] fields).lookup idKey
      = some ((fields.lookup idKey).getD (model.idOf input.document)) := by
    rw [Members.lookup_overlay, lookup_reverse hnames]
    cases fields.lookup idKey with
    | none => simp
    | some w => simp
  unfold storedMembers storedForm
  split_ifs
  · rw [stampKeys, List.foldl_cons, List.foldl_cons, List.foldl_nil, lookup_stamp _ _ _ (by decide),
      lookup_stamp _ _ _ (by decide), hkeyed]
  · exact hkeyed

theorem nodup_of_validate {model : Collection} {document : Json} {fields : Members}
    (h : model.validate document = .ok fields) : fields.names.Nodup := by
  obtain ⟨members, -, -, rfl⟩ := Schema.validate_ok.1 h
  have hnil : (Members.names []).Nodup := List.nodup_nil
  exact Members.nodup_overlay hnil _

/-! ## Schemas that keep keys -/

theorem hasId_eq_false {model : Collection} {id : Json} :
    model.hasId id = false ↔
      ∀ document ∈ model.documents.toList, ∀ u, document.get? idKey = some u → u.same id = false := by
  rw [hasId, ← Array.any_toList, List.any_eq_false]
  apply forall₂_congr
  intro document _
  cases document.get? idKey with
  | none => simp
  | some u => simp

theorem grown_keysUnique {model : Collection} (hkeeps : model.KeepsKeys) {input : Input} {fields : Members}
    (haccepts : model.Accepts input fields) (h : model.KeysUnique) : (model.grown input fields).KeysUnique := by
  unfold KeysUnique grown
  rw [Array.toList_push, List.pairwise_append]
  refine ⟨h, List.pairwise_singleton _ _, ?_⟩
  rintro old hold new hnew ⟨u, k, hu, hk, hsame⟩
  rw [List.mem_singleton.1 hnew, Json.get?, lookup_storedMembers model input (nodup_of_validate haccepts.valid)] at hk
  have hfree := hasId_eq_false.1 haccepts.new old hold u hu
  cases hfields : fields.lookup idKey with
  | none =>
    rw [hfields, Option.getD_none, Option.some.injEq] at hk
    rw [hk, hsame] at hfree
    cases hfree
  | some w =>
    rw [hfields, Option.getD_some, Option.some.injEq] at hk
    obtain ⟨v, hcarried, hwv⟩ := hkeeps input.document fields input.distinct haccepts.valid w hfields
    -- the stored key is equal to the one that was looked for
    rw [idOf, hcarried, Option.getD_some, Json.same_trans u w v (by rw [hk]; exact hsame) hwv] at hfree
    cases hfree

/-- **Where the schema keeps keys, they stay unique.** -/
theorem insertAll_keysUnique {start : Collection} (hkeeps : start.KeepsKeys) (h : start.KeysUnique)
    (inputs : List Input) : (start.insertAll inputs).KeysUnique := by
  have hrun : SameConfig (start.insertAll inputs) start ∧ (start.insertAll inputs).KeysUnique := by
    apply insertAll_induction (P := fun model => SameConfig model start ∧ model.KeysUnique)
    · exact ⟨⟨rfl, rfl, rfl, rfl⟩, h⟩
    · rintro model input fields ⟨hconfig, hunique⟩ haccepts
      have hkeeps' : model.KeepsKeys := by
        intro document stored hdistinct hvalid
        rw [hconfig.validate_eq] at hvalid
        exact hkeeps document stored hdistinct hvalid
      exact ⟨hconfig, grown_keysUnique hkeeps' haccepts hunique⟩
  exact hrun.2

/-! ## Schemas that do not -/

/-- a document whose stored key is not the one that is looked for the second time is stored twice -/
theorem twice_stored {model : Collection} (hempty : model.documents = #[]) {input : Input} {fields : Members}
    (hvalid : model.validate input.document = .ok fields) {w : Json} (hw : fields.lookup idKey = some w)
    (hself : w.same w = true) (hnext : w.same ((model.grown input fields).idOf input.document) = false) :
    ¬ (model.insertAll [input, input]).KeysUnique := by
  have hnames := nodup_of_validate hvalid
  have hfirst : model.Accepts input fields := ⟨hvalid, by simp [hasId, hempty]⟩
  have hkey : ∀ model : Collection, (Json.object (model.storedMembers input fields)).get? idKey = some w := by
    intro model
    rw [Json.get?, lookup_storedMembers model input hnames, hw, Option.getD_some]
  have hdocuments : (model.grown input fields).documents.toList = [.object (model.storedMembers input fields)] := by
    rw [grown, hempty]
    rfl
  have hsecond : (model.grown input fields).Accepts input fields := by
    refine ⟨hvalid, hasId_eq_false.2 ?_⟩
    intro document hdocument u hu
    rw [hdocuments] at hdocument
    rw [List.mem_singleton.1 hdocument, hkey, Option.some.injEq] at hu
    rw [← hu]
    exact hnext
  have hrun : model.insertAll [input, input] = (model.grown input fields).grown input fields := by
    show (model.tryInsert input).tryInsert input = _
    rw [tryInsert_of_accepts hfirst, tryInsert_of_accepts hsecond]
  intro hunique
  rw [hrun] at hunique
  unfold KeysUnique grown at hunique
  rw [Array.toList_push, List.pairwise_append] at hunique
  have hnot := hunique.2.2 _ (by rw [Array.toList_push]; exact List.mem_append_right _ List.mem_cons_self) _
    List.mem_cons_self
  exact hnot ⟨w, w, hkey model, hkey _, hself⟩

theorem not_required {patterns : PatternTable} {path : String} {spec : Spec} {member : Option Json}
    (hmember : ∀ v ∈ member, v = .null) (h : spec.faults patterns path member = []) : spec.rules.required = false := by
  by_contra hrequired
  rw [Bool.not_eq_false] at hrequired
  have hlacking : spec.given member = .lacking := by
    cases member with
    | none => simp [Spec.given, hrequired]
    | some v =>
      rw [hmember v rfl]
      simp [Spec.given, hrequired]
  rw [Spec.faults, hlacking] at h
  cases h

theorem null_of_uncarried {members : Members} {name : String} (h : carried? (.object members) name = none) :
    ∀ v ∈ members.lookup name, v = .null := by
  intro v hv
  rw [carried?, Json.get?, Option.mem_def.1 hv] at h
  cases v with
  | null => rfl
  | _ => simp [Json.isNull] at h

theorem lookup_null {fields : List (String × Spec)} {members : Members} {name : String}
    (hoptional : ∀ field ∈ fields, field.1 = name → field.2.rules.required = false)
    (hmem : ∃ field ∈ fields, field.1 = name) :
    (Members.overlay [] (Spec.normalizeFields fields (upsert name .null members))).lookup name = some .null := by
  have hname : (upsert name .null members).lookup name = some .null := by
    rw [lookup_upsert, if_pos rfl]
  have hentry : ∀ field ∈ fields, field.1 = name →
      Spec.entry field.1 field.2 ((upsert name .null members).lookup field.1) = [(name, .null)] := by
    intro field hfield hsame
    rw [hsame, hname, Spec.entry, Spec.given_null (hoptional field hfield hsame)]
  rw [Members.lookup_overlay, List.lookup_nil, Option.or_none]
  apply lookup_of_forall
  · obtain ⟨field, hfield, hsame⟩ := hmem
    have hstored : (name, Json.null) ∈ Spec.normalizeFields fields (upsert name .null members) := by
      rw [Spec.normalizeFields_eq, List.mem_flatMap]
      exact ⟨field, hfield, by rw [hentry field hfield hsame]; exact List.mem_cons_self⟩
    exact List.mem_map_of_mem (f := Prod.fst) (List.mem_reverse.2 hstored)
  · intro member hmember hsame
    rw [List.mem_reverse, Spec.normalizeFields_eq, List.mem_flatMap] at hmember
    obtain ⟨field, hfield, hstored⟩ := hmember
    rw [hentry field hfield ((Spec.entry_name hstored).symm.trans hsame)] at hstored
    rw [List.mem_singleton.1 hstored]

/-- an accepted document is accepted with null in optional fields of a name too -/
theorem validate_upsert_null {schema : Schema} {patterns : PatternTable} {members fields : Members} {name : String}
    (hvalid : schema.validate patterns (.object members) = .ok fields)
    (hoptional : ∀ field ∈ schema.fields, field.1 = name → field.2.rules.required = false) :
    schema.validate patterns (.object (upsert name .null members))
      = .ok (Members.overlay [] (Spec.normalizeFields schema.fields (upsert name .null members))) := by
  obtain ⟨members', hmembers, hfaults, -⟩ := Schema.validate_ok.1 hvalid
  obtain rfl : members = members' := Json.object.inj hmembers
  rw [Spec.fieldViolations_eq, List.flatMap_eq_nil_iff] at hfaults
  refine Schema.validate_ok.2 ⟨_, rfl, ?_, rfl⟩
  rw [Spec.fieldViolations_eq, List.flatMap_eq_nil_iff]
  intro field hfield
  rw [lookup_upsert]
  by_cases hsame : field.1 = name
  · rw [if_pos hsame, Spec.faults, Spec.given_null (hoptional field hfield hsame)]
  · rw [if_neg hsame]
    exact hfaults field hfield

/-- and null is stored -/
theorem validate_null {schema : Schema} {patterns : PatternTable} {members fields : Members} {name : String}
    (hvalid : schema.validate patterns (.object members) = .ok fields)
    (hoptional : ∀ field ∈ schema.fields, field.1 = name → field.2.rules.required = false)
    (hmem : ∃ field ∈ schema.fields, field.1 = name) :
    ∃ stored, schema.validate patterns (.object (upsert name .null members)) = .ok stored ∧
      stored.lookup name = some .null :=
  ⟨_, validate_upsert_null hvalid hoptional, lookup_null hoptional hmem⟩

/-- what a document has under a name without a field does not matter -/
theorem validate_upsert {schema : Schema} {patterns : PatternTable} {name : String}
    (hundeclared : ∀ field ∈ schema.fields, field.1 ≠ name) (value : Json) (members : Members) :
    schema.validate patterns (.object (upsert name value members)) = schema.validate patterns (.object members) := by
  have hlookup : ∀ field ∈ schema.fields, (upsert name value members).lookup field.1 = members.lookup field.1 := by
    intro field hfield
    rw [lookup_upsert, if_neg (hundeclared field hfield)]
  have hviolations : Spec.fieldViolations patterns "" schema.fields (upsert name value members)
      = Spec.fieldViolations patterns "" schema.fields members := by
    rw [Spec.fieldViolations_eq, Spec.fieldViolations_eq]
    exact List.flatMap_congr fun field hfield => by rw [hlookup field hfield]
  have hstored : Spec.normalizeFields schema.fields (upsert name value members)
      = Spec.normalizeFields schema.fields members := by
    rw [Spec.normalizeFields_eq, Spec.normalizeFields_eq]
    exact List.flatMap_congr fun field hfield => by rw [hlookup field hfield]
  unfold Schema.validate Schema.violations Schema.normalize
  simp only [hviolations, hstored]

/-- where a field of a key fills in for a document that carries none, the document may carry a key of null instead -/
theorem validate_null_key {schema : Schema} {patterns : PatternTable} {members fields : Members} {w : Json}
    (hvalid : schema.validate patterns (.object members) = .ok fields)
    (hcarried : carried? (.object members) idKey = none) (hw : fields.lookup idKey = some w) :
    ∃ stored, schema.validate patterns (.object (upsert idKey .null members)) = .ok stored ∧
      stored.lookup idKey = some .null := by
  obtain ⟨members', hmembers, hfaults, rfl⟩ := Schema.validate_ok.1 hvalid
  obtain rfl : members = members' := Json.object.inj hmembers
  rw [Spec.fieldViolations_eq, List.flatMap_eq_nil_iff] at hfaults
  apply validate_null hvalid
  · intro field hfield hname
    have hfield := hfaults field hfield
    rw [hname] at hfield
    exact not_required (null_of_uncarried hcarried) hfield
  · rcases Members.mem_overlay (mem_of_lookup hw) with hmem | hmem
    · cases hmem
    · rw [Spec.normalizeFields_eq, List.mem_flatMap] at hmem
      obtain ⟨field, hfield, hstored⟩ := hmem
      exact ⟨field, hfield, (Spec.entry_name hstored).symm⟩

/-- **Keys are unique just where the schema keeps them.** No run of a registered model stores two documents with equal
keys, just when what the schema stores as a key is always equal to the key that the document carries. -/
theorem keysUnique_iff_keepsKeys {registry registry' : Registry} {entity : String} {schema : Schema}
    {indexes : List Index} {model : Collection} (h : registry.register entity schema indexes = .ok (registry', model))
    (hdefaults : Spec.FieldDefaultsDistinct schema.fields) :
    (∀ inputs, (model.insertAll inputs).KeysUnique) ↔ model.KeepsKeys := by
  obtain ⟨patterns, -, -, rfl⟩ := register_ok h
  constructor
  · intro hunique document fields hdistinct hvalid w hw
    have hself : w.same w = true :=
      Json.same_refl w (Spec.distinct_of_lookup (Schema.distinct_of_validate hdefaults hdistinct hvalid).2 hw)
    cases hcarried : carried? document idKey with
    | some v =>
      refine ⟨v, rfl, ?_⟩
      by_contra hsame
      rw [Bool.not_eq_true] at hsame
      obtain ⟨input, rfl⟩ : ∃ input : Input, input.document = document := ⟨⟨"", document, hdistinct⟩, rfl⟩
      have hnext : ∀ model : Collection, w.same (model.idOf input.document) = false := by
        intro model
        rw [idOf, hcarried, Option.getD_some, hsame]
      exact twice_stored rfl hvalid hw hself (hnext _) (hunique _)
    | none =>
      exfalso
      obtain ⟨members, rfl, -⟩ := Schema.validate_ok.1 hvalid
      obtain ⟨stored, hvalid', hnull⟩ := validate_null_key hvalid hcarried hw
      have hnullDistinct : Json.null.Distinct := trivial
      obtain ⟨input, hinput⟩ : ∃ input : Input, input.document = .object (upsert idKey .null members) :=
        ⟨⟨"", _, Json.distinct_upsert hdistinct hnullDistinct⟩, rfl⟩
      have hnext : ∀ model : Collection, Json.null.same (model.idOf input.document) = false := by
        intro model
        rw [idOf, hinput, carried?, Json.get?, lookup_upsert, if_pos rfl]
        rfl
      exact twice_stored rfl (by rw [hinput]; exact hvalid') hnull rfl (hnext _) (hunique _)
  · intro hkeeps inputs
    exact insertAll_keysUnique hkeeps List.Pairwise.nil inputs

/-! ## Ordinary schemas -/

theorem keepsKeys_of_undeclared {model : Collection} (h : ∀ field ∈ model.schema.fields, field.1 ≠ idKey) :
    model.KeepsKeys := by
  intro document fields _ hvalid w hw
  rw [Schema.lookup_of_undeclared h hvalid] at hw
  cases hw

theorem keepsKeys_of_required_leaf {model : Collection}
    (h : ∀ field ∈ model.schema.fields, field.1 = idKey →
      ∃ rules type, field.2 = .leaf rules type ∧ rules.required = true) : model.KeepsKeys := by
  intro document fields hdistinct hvalid w hw
  obtain ⟨members, rfl, -, rfl⟩ := Schema.validate_ok.1 hvalid
  rcases Members.mem_overlay (mem_of_lookup hw) with hmem | hmem
  · cases hmem
  · rw [Spec.normalizeFields_eq, List.mem_flatMap] at hmem
    obtain ⟨⟨name, spec⟩, hfield, hstored⟩ := hmem
    obtain rfl : idKey = name := Spec.entry_name hstored
    obtain ⟨rules, type, rfl, hrequired⟩ := h _ hfield rfl
    have hrule : (Spec.leaf rules type).rules.required = true := hrequired
    rcases Spec.given_of_required hrule (members.lookup idKey) with hlacking | ⟨v, hgiven, hmember, hnull⟩
    · rw [Spec.entry, hlacking] at hstored
      cases hstored
    · rw [Spec.entry, hgiven, List.mem_singleton, Prod.mk.injEq, Spec.normalize_leaf] at hstored
      refine ⟨v, ?_, ?_⟩
      · rw [carried?, Json.get?, hmember]
        simp [hnull]
      · rw [hstored.2]
        exact Json.same_refl v (Spec.distinct_of_lookup hdistinct.2 hmember)

/-! ## A key stored twice -/

def optionalKeySchema : Schema := ⟨"books", [("_id", .leaf { required := false } .string)]⟩

def bookModel : Collection := fresh (Emit.modelName "books") "books" optionalKeySchema [] false []

def nullKey : Input where
  now := ""
  document := .object [("_id", .null)]
  distinct := by simp [Json.Distinct, Json.DistinctMembers]

/-- two documents are stored under null -/
theorem null_key_stored_twice : ¬ (bookModel.insertAll [nullKey, nullKey]).KeysUnique := by
  have hvalid : bookModel.validate nullKey.document = .ok [("_id", .null)] := rfl
  exact twice_stored rfl hvalid rfl rfl rfl

/-- an optional key is not kept -/
theorem optional_key_not_kept :
    Registry.register { timestamps := false } "books" optionalKeySchema []
        = .ok ({ timestamps := false, models := [bookModel] }, bookModel) ∧
      Spec.FieldDefaultsDistinct optionalKeySchema.fields ∧ ¬ bookModel.KeepsKeys := by
  have hregister : Registry.register { timestamps := false } "books" optionalKeySchema []
      = .ok ({ timestamps := false, models := [bookModel] }, bookModel) := rfl
  have hdefaults : Spec.FieldDefaultsDistinct optionalKeySchema.fields := by
    simp [optionalKeySchema, Spec.FieldDefaultsDistinct, Spec.DefaultsDistinct]
  refine ⟨hregister, hdefaults, ?_⟩
  intro hkeeps
  have hunique := (keysUnique_iff_keepsKeys hregister hdefaults).2 hkeeps [nullKey, nullKey]
  have hvalid : bookModel.validate nullKey.document = .ok [("_id", .null)] := rfl
  exact twice_stored rfl hvalid rfl rfl rfl hunique

end Collection

end DocumentModels
