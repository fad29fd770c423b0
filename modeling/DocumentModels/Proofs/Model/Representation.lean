/-
What the position maps say of the stored documents.

- `Mapped`: the maps of a model list exactly the documents that have a text, in order and in range, and a lookup finds
  every stored document by each of its members.
- `distinct_storedMembers`, `insertAll_distinct`: stored documents have distinct names, so each member is equal to itself.
- `mapped_of_noted`: what the invariant `Noted` says, position by position.
- `insertAll_mapped`: a registered model is mapped after every run.
-/
import Mathlib
import DocumentModels.Proofs.Json.Equality
import DocumentModels.Proofs.Model.Normalize
import DocumentModels.Proofs.Model.Positions

namespace DocumentModels

namespace Collection

/-- the position maps of a model, seen from its documents -/
structure Mapped (model : Collection) : Prop where
  /-- there is a map just for the fields that have an index with a direction -/
  keyed : ∀ field, (model.positions.lookup field).isSome = true ↔
    ∃ index ∈ model.indexes, index.field = field ∧ (index.direction = .ascending ∨ index.direction = .descending)
  /-- the positions under a text are those of the documents whose member has the text -/
  listed : ∀ field map, model.positions.lookup field = some map → ∀ key position, position ∈ map.get key ↔
    ∃ document value, model.documents[position]? = some document ∧ document.get? field = some value ∧
      value.compact = key
  increasing : ∀ field map, model.positions.lookup field = some map → ∀ key, (map.get key).Pairwise (· < ·)
  inRange : ∀ field map, model.positions.lookup field = some map → ∀ key, ∀ position ∈ map.get key,
    position < model.documents.size
  /-- a lookup by a map gives the document at each position, and leaves none out -/
  fetched : ∀ field map, model.positions.lookup field = some map → ∀ value,
    (model.find field value).map some = (map.get value.compact).map fun position => model.documents[position]?
  /-- a stored document is found by each of its members -/
  found : ∀ document ∈ model.documents.toList, ∀ field value, document.get? field = some value →
    document ∈ model.find field value

/-! ## Stored documents have distinct names -/

theorem distinct_carried {document : Json} (h : document.Distinct) {name : String} {value : Json}
    (hvalue : carried? document name = some value) : value.Distinct := by
  obtain ⟨hfind, -⟩ := Option.filter_eq_some_iff.1 hvalue
  cases document with
  | object members => exact Spec.distinct_of_lookup h.2 hfind
  | _ => cases hfind

theorem stamp_eq (now : String) (document : Json) (stored : Members) (key : String) :
    stamp now document stored key = stored ∨
      stamp now document stored key = upsert key ((carried? document key).getD (.string now)) stored := by
  unfold stamp
  split_ifs with hkey
  · exact Or.inl rfl
  · right
    have hnone : stored.lookup key = none := Option.not_isSome_iff_eq_none.1 hkey
    rw [upsert_of_lookup_eq_none hnone]

theorem distinct_stamp (now : String) {document : Json} (hdocument : document.Distinct) {stored : Members}
    (h : (Json.object stored).Distinct) (key : String) : (Json.object (stamp now document stored key)).Distinct := by
  rcases stamp_eq now document stored key with hstamp | hstamp
  · rw [hstamp]
    exact h
  · rw [hstamp]
    apply Json.distinct_upsert h
    cases hcarried : carried? document key with
    | none => exact trivial
    | some value => exact distinct_carried hdocument hcarried

theorem distinct_idOf (model : Collection) {document : Json} (h : document.Distinct) : (model.idOf document).Distinct := by
  unfold idOf
  cases hcarried : carried? document idKey with
  | none => exact trivial
  | some value => exact distinct_carried h hcarried

theorem distinct_storedMembers {model : Collection} (hdefaults : Spec.FieldDefaultsDistinct model.schema.fields)
    {input : Input} {fields : Members} (hvalid : model.validate input.document = .ok fields) :
    (Json.object (model.storedMembers input fields)).Distinct := by
  have hfields : (Json.object fields).Distinct := Schema.distinct_of_validate hdefaults input.distinct hvalid
  have hgiven : ∀ member ∈ (idKey, model.idOf input.document) :: fields, member.2.Distinct := by
    intro member hmember
    rcases List.mem_cons.1 hmember with rfl | hmember
    · exact distinct_idOf model input.distinct
    · exact (Json.distinctMembers_iff fields).1 hfields.2 member hmember
  have hkeyed : (Json.object (Members.overlay [(idKey, model.idOf input.document)] fields)).Distinct :=
    Json.distinct_overlay hgiven
  unfold storedMembers storedForm
  split_ifs
  · exact distinct_stamp _ input.distinct (distinct_stamp _ input.distinct hkeyed _) _
  · exact hkeyed

/-- every document that a run stores has distinct names -/
theorem insertAll_distinct {start : Collection} (hdefaults : Spec.FieldDefaultsDistinct start.schema.fields)
    (hstart : ∀ document ∈ start.documents.toList, document.Distinct) (inputs : List Input) :
    ∀ document ∈ (start.insertAll inputs).documents.toList, document.Distinct := by
  have hrun : (start.insertAll inputs).schema = start.schema ∧
      ∀ document ∈ (start.insertAll inputs).documents.toList, document.Distinct := by
    apply insertAll_induction (P := fun model => model.schema = start.schema ∧
      ∀ document ∈ model.documents.toList, document.Distinct)
    · exact ⟨rfl, hstart⟩
    · rintro model input fields ⟨hschema, hmodel⟩ haccepts
      refine ⟨hschema, ?_⟩
      intro document hdocument
      rw [grown, Array.toList_push, List.mem_append, List.mem_singleton] at hdocument
      rcases hdocument with hdocument | rfl
      · exact hmodel document hdocument
      · exact distinct_storedMembers (by rw [hschema]; exact hdefaults) haccepts.valid
  exact hrun.2

/-! ## The invariant, position by position -/

theorem isIndexed_iff (indexes : List Index) (field : String) : isIndexed indexes field = true ↔
    ∃ index ∈ indexes, index.field = field ∧ (index.direction = .ascending ∨ index.direction = .descending) := by
  unfold isIndexed
  rw [List.any_eq_true]
  apply exists_congr
  intro index
  cases hdirection : index.direction <;> simp [Index.isText, hdirection]

theorem hasText_iff (field key : String) (document : Json) :
    hasText field key document = true ↔ ∃ value, document.get? field = some value ∧ value.compact = key := by
  unfold hasText
  cases document.get? field with
  | none => simp
  | some value => simp

theorem mem_positionsOf (documents : List Json) (field key : String) (position : Nat) :
    position ∈ positionsOf documents field key ↔
      ∃ document, documents[position]? = some document ∧ hasText field key document = true := by
  rw [positionsOf, List.mem_filter, List.mem_range]
  constructor
  · rintro ⟨hrange, htext⟩
    rw [List.getElem?_eq_getElem hrange, Option.any_some] at htext
    exact ⟨_, List.getElem?_eq_getElem hrange, htext⟩
  · rintro ⟨document, hdocument, htext⟩
    refine ⟨(List.getElem?_eq_some_iff.1 hdocument).1, ?_⟩
    rw [hdocument, Option.any_some]
    exact htext

theorem pairwise_positionsOf (documents : List Json) (field key : String) :
    (positionsOf documents field key).Pairwise (· < ·) :=
  List.pairwise_lt_range.filter _

theorem lt_of_mem_positionsOf {documents : List Json} {field key : String} {position : Nat}
    (h : position ∈ positionsOf documents field key) : position < documents.length :=
  List.mem_range.1 (List.mem_of_mem_filter h)

/-- **What the invariant says of each position.** -/
theorem mapped_of_noted {model : Collection} (h : model.Noted)
    (hdistinct : ∀ document ∈ model.documents.toList, document.Distinct) : model.Mapped where
  keyed field := by rw [h.keyed, isIndexed_iff]
  listed field map hmap key position := by
    rw [h.listed field map hmap, mem_positionsOf]
    simp only [hasText_iff, Array.getElem?_toList]
    constructor
    · rintro ⟨document, hdocument, value, hvalue, hkey⟩
      exact ⟨document, value, hdocument, hvalue, hkey⟩
    · rintro ⟨document, value, hdocument, hvalue, hkey⟩
      exact ⟨document, hdocument, value, hvalue, hkey⟩
  increasing field map hmap key := by
    rw [h.listed field map hmap]
    exact pairwise_positionsOf _ _ _
  inRange field map hmap key position hposition := by
    rw [h.listed field map hmap] at hposition
    exact lt_of_mem_positionsOf hposition
  fetched field map hmap value := by
    rw [find, hmap, List.map_filterMap]
    have hsome : ∀ position ∈ map.get value.compact,
        Option.map some model.documents[position]? = some model.documents[position]? := by
      intro position hposition
      rw [h.listed field map hmap] at hposition
      obtain ⟨document, hdocument, -⟩ := (mem_positionsOf _ _ _ _).1 hposition
      rw [Array.getElem?_toList] at hdocument
      rw [hdocument, Option.map_some]
    rw [List.filterMap_congr hsome, ← List.filterMap_eq_map]
    rfl
  found document hdocument field value hvalue := by
    cases hfield : isIndexed model.indexes field with
    | true =>
      rw [find_of_noted h hfield, List.mem_filter]
      exact ⟨hdocument, (hasText_iff _ _ _).2 ⟨value, hvalue, rfl⟩⟩
    | false =>
      rw [← h.keyed field, Option.isSome_eq_false_iff, Option.isNone_iff_eq_none] at hfield
      rw [find, hfield, List.mem_filter]
      refine ⟨hdocument, ?_⟩
      have hself : value.Distinct := by
        cases document with
        | object members => exact Spec.distinct_of_lookup (hdistinct _ hdocument).2 hvalue
        | _ => cases hvalue
      rw [hvalue, Option.any_some]
      exact Json.same_refl value hself

/-- **A registered model is mapped after every run.** -/
theorem insertAll_mapped {registry registry' : Registry} {entity : String} {schema : Schema} {indexes : List Index}
    {model : Collection} (h : registry.register entity schema indexes = .ok (registry', model))
    (hdefaults : Spec.FieldDefaultsDistinct schema.fields) (inputs : List Input) :
    (model.insertAll inputs).indexes = indexes ∧ (model.insertAll inputs).Mapped := by
  obtain ⟨patterns, -, -, rfl⟩ := register_ok h
  have hfresh := fresh_noted (Emit.modelName entity) entity schema indexes registry.timestamps patterns
  have hnone : ∀ document ∈ (fresh (Emit.modelName entity) entity schema indexes registry.timestamps
      patterns).documents.toList, document.Distinct := by
    intro document hdocument
    cases hdocument
  obtain ⟨-, hindexes, -⟩ :=
    insertAll_config (fresh (Emit.modelName entity) entity schema indexes registry.timestamps patterns) inputs
  exact ⟨hindexes, mapped_of_noted (insertAll_noted hfresh inputs) (insertAll_distinct hdefaults hnone inputs)⟩

/-! ## A run with a rejected document -/

/-- a schema with a default under an index -/
def loanSchema : Schema :=
  ⟨"loans", [("title", .leaf { required := true } .string),
    ("status", .leaf { required := false, default := some (.string "open") } .string)]⟩

def loanIndexes : List Index := [⟨"status", .descending⟩, ⟨"title", .text⟩]

def loanModel : Collection := fresh (Emit.modelName "loans") "loans" loanSchema loanIndexes false []

/-- a document without status, one without title, and one with both -/
def loanInputs : List Input :=
  [⟨"", .object [("title", .string "A")], by simp [Json.Distinct, Json.DistinctMembers]⟩,
    ⟨"", .object [("status", .string "lost")], by simp [Json.Distinct, Json.DistinctMembers]⟩,
    ⟨"", .object [("status", .string "lost"), ("title", .string "B")], by simp [Json.Distinct, Json.DistinctMembers]⟩]

/-- the rejected document leaves no position behind, and the default is listed -/
theorem loans_mapped :
    Registry.register { timestamps := false } "loans" loanSchema loanIndexes
        = .ok ({ timestamps := false, models := [loanModel] }, loanModel) ∧
      Spec.FieldDefaultsDistinct loanSchema.fields ∧ (loanModel.insertAll loanInputs).Mapped ∧
      (loanModel.insertAll loanInputs).positions = [("status", [("\"open\"", [0]), ("\"lost\"", [1])])] := by
  have hregister : Registry.register { timestamps := false } "loans" loanSchema loanIndexes
      = .ok ({ timestamps := false, models := [loanModel] }, loanModel) := rfl
  have hdefaults : Spec.FieldDefaultsDistinct loanSchema.fields := by
    simp [loanSchema, Spec.FieldDefaultsDistinct, Spec.DefaultsDistinct, Json.Distinct]
  have hpositions : (loanModel.insertAll loanInputs).positions
      = [("status", [("\"open\"", [0]), ("\"lost\"", [1])])] := by with_unfolding_all rfl
  exact ⟨hregister, hdefaults, (insertAll_mapped hregister hdefaults loanInputs).2, hpositions⟩

end Collection

end DocumentModels
