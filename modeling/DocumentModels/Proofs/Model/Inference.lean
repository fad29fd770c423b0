/-
Indexes that are inferred, and the models they are given to.

- `FirstMentions`: the present ones of a list of names, each once, in the order in which the list first mentions them.
- `addIfNew_text`, `FirstMentions.concat`: what one more mention adds, to the indexes and to the list of names.
- `infer_eq`: the indexes of a schema are the recognized ones on its fields, then one text index for each first mention.
- `isIndexed_infer`: of these, just the recognized ones have a direction.
- `inferred_registrable`: so no registration fails for the sake of inferred indexes, and a model that is registered with
  them keeps a map for just the recognized fields that it has.
-/
import Mathlib.Tactic
import DocumentModels.Proofs.Model.Positions
import DocumentModels.Proofs.Model.Registration

namespace DocumentModels

namespace Index

/-! ## First mentions -/

/-- **The present ones of the names that a list mentions,** each once, in the order of their first mention. -/
structure FirstMentions (present : String → Bool) (mentioned names : List String) : Prop where
  mem_iff : ∀ name, name ∈ names ↔ name ∈ mentioned ∧ present name = true
  inOrder : names.Pairwise fun a b => mentioned.idxOf a < mentioned.idxOf b

namespace FirstMentions

variable {present : String → Bool} {mentioned names : List String}

theorem nodup (h : FirstMentions present mentioned names) : names.Nodup :=
  h.inOrder.imp fun hlt heq => absurd (heq ▸ hlt) (lt_irrefl _)

theorem concat (h : FirstMentions present mentioned names) (name : String) :
    FirstMentions present (mentioned ++ [name])
      (if present name = true ∧ name ∉ names then names ++ [name] else names) := by
  have hold : ∀ other ∈ names, other ∈ mentioned := fun other hother => ((h.mem_iff other).1 hother).1
  have hkept : names.Pairwise fun a b => (mentioned ++ [name]).idxOf a < (mentioned ++ [name]).idxOf b := by
    refine h.inOrder.imp_of_mem ?_
    intro a b ha hb hlt
    rwa [List.idxOf_append_of_mem (hold a ha), List.idxOf_append_of_mem (hold b hb)]
  split_ifs with hnew
  · have hfirst : name ∉ mentioned := fun hmem => hnew.2 ((h.mem_iff name).2 ⟨hmem, hnew.1⟩)
    constructor
    · intro other
      simp only [List.mem_append, List.mem_singleton, h.mem_iff]
      constructor
      · rintro (⟨hother, hpresent⟩ | rfl)
        · exact ⟨Or.inl hother, hpresent⟩
        · exact ⟨Or.inr rfl, hnew.1⟩
      · rintro ⟨hother | rfl, hpresent⟩
        · exact Or.inl ⟨hother, hpresent⟩
        · exact Or.inr rfl
    · rw [List.pairwise_append]
      refine ⟨hkept, List.pairwise_singleton _ _, ?_⟩
      intro a ha b hb
      rw [List.mem_singleton.1 hb, List.idxOf_append_of_mem (hold a ha), List.idxOf_append_of_notMem hfirst]
      exact Nat.lt_add_right _ (List.idxOf_lt_length_iff.2 (hold a ha))
  · refine ⟨?_, hkept⟩
    intro other
    rw [h.mem_iff, List.mem_append, List.mem_singleton]
    constructor
    · exact fun hother => ⟨Or.inl hother.1, hother.2⟩
    · rintro ⟨hother | rfl, hpresent⟩
      · exact ⟨hother, hpresent⟩
      · -- a name that is present and not new has been mentioned
        exact (h.mem_iff other).1 (by_contra fun hmem => hnew ⟨hpresent, hmem⟩)

end FirstMentions

/-! ## The indexes of a schema -/

variable {schema : Schema}

theorem foldl_addIfNew_of_nodup {candidates indexes : List Index} (h : (indexes ++ candidates).Nodup) :
    candidates.foldl (addIfNew schema) indexes
      = indexes ++ candidates.filter fun index => schema.hasField index.field := by
  induction candidates generalizing indexes with
  | nil => simp
  | cons candidate candidates ih =>
    have hnew : candidate ∉ indexes := fun hmem => (List.nodup_append.1 h).2.2 _ hmem _ List.mem_cons_self rfl
    rw [List.foldl_cons, addIfNew, List.filter_cons]
    by_cases hfield : schema.hasField candidate.field = true
    · rw [if_pos ⟨hfield, hnew⟩, if_pos hfield, ih, List.append_assoc, List.singleton_append]
      rwa [List.append_assoc, List.singleton_append]
    · rw [if_neg fun hboth => hfield hboth.1, if_neg hfield, ih]
      exact h.sublist (List.Sublist.append_left (List.sublist_cons_self _ _) _)

theorem addIfNew_text {known : List Index} (hknown : ∀ index ∈ known, index.isText = false) (names : List String)
    (name : String) :
    addIfNew schema (known ++ names.map fun field => ⟨field, .text⟩) ⟨name, .text⟩
      = known ++ (if schema.hasField name = true ∧ name ∉ names then names ++ [name] else names).map
          fun field => ⟨field, .text⟩ := by
  have hmem : (⟨name, .text⟩ : Index) ∈ known ++ names.map (fun field => ⟨field, .text⟩) ↔ name ∈ names := by
    have hother : (⟨name, .text⟩ : Index) ∉ known := fun hindex => absurd (hknown _ hindex) (by simp [isText])
    simp [hother]
  rw [addIfNew]
  simp only [hmem]
  split_ifs <;> simp

/-- **The mentions of text fields add one text index for each first mention.** -/
theorem foldl_addIfNew_text {known : List Index} (hknown : ∀ index ∈ known, index.isText = false)
    (textFields : List String) :
    ∃ names, FirstMentions schema.hasField textFields names ∧
      (textFields.map fun field => Index.mk field .text).foldl (addIfNew schema) known
        = known ++ names.map fun field => ⟨field, .text⟩ := by
  induction textFields using List.reverseRecOn with
  | nil => exact ⟨[], ⟨by simp, List.Pairwise.nil⟩, by simp⟩
  | append_singleton textFields name ih =>
    obtain ⟨names, hnames, hfold⟩ := ih
    refine ⟨_, hnames.concat name, ?_⟩
    rw [List.map_append, List.foldl_append, hfold]
    exact addIfNew_text hknown names name

/-- **What is inferred:** the recognized indexes on fields of the schema, then the text indexes. -/
theorem infer_eq (schema : Schema) (textFields : List String) :
    ∃ names, FirstMentions schema.hasField textFields names ∧
      infer schema textFields = (recognized.filter fun index => schema.hasField index.field)
        ++ names.map fun field => ⟨field, .text⟩ := by
  have hrecognized : recognized.foldl (addIfNew schema) []
      = recognized.filter fun index => schema.hasField index.field :=
    foldl_addIfNew_of_nodup (by decide)
  have hknown : ∀ index ∈ recognized.filter fun index => schema.hasField index.field, index.isText = false := by
    intro index hindex
    have hall : ∀ index ∈ recognized, index.isText = false := by decide
    exact hall index (List.mem_of_mem_filter hindex)
  rw [infer, List.foldl_append, hrecognized]
  exact foldl_addIfNew_text hknown textFields

theorem nodup_infer (schema : Schema) (textFields : List String) : (infer schema textFields).Nodup := by
  obtain ⟨names, hnames, hinfer⟩ := infer_eq schema textFields
  rw [hinfer, List.nodup_append]
  refine ⟨List.Nodup.filter _ (by decide), hnames.nodup.map fun _ _ h => congrArg Index.field h, ?_⟩
  rintro index hindex _ htext rfl
  obtain ⟨name, -, rfl⟩ := List.mem_map.1 htext
  have hall : ∀ index ∈ recognized, index.direction ≠ .text := by decide
  exact hall _ (List.mem_of_mem_filter hindex) rfl

open Collection in
theorem isIndexed_infer (schema : Schema) (textFields : List String) (field : String) :
    isIndexed (infer schema textFields) field = true ↔
      ∃ index ∈ recognized, index.field = field ∧ schema.hasField field = true := by
  obtain ⟨names, -, hinfer⟩ := infer_eq schema textFields
  have hall : ∀ index ∈ recognized, (!index.isText) = true := by decide
  rw [isIndexed, hinfer, List.any_append, Bool.or_eq_true, List.any_eq_true, List.any_eq_true]
  constructor
  · rintro (⟨index, hindex, hfield⟩ | ⟨index, hindex, hfield⟩)
    · rw [List.mem_filter] at hindex
      rw [Bool.and_eq_true, beq_iff_eq] at hfield
      exact ⟨index, hindex.1, hfield.1, hfield.1 ▸ hindex.2⟩
    · obtain ⟨name, -, rfl⟩ := List.mem_map.1 hindex
      simp [isText] at hfield
  · rintro ⟨index, hindex, rfl, hfield⟩
    exact Or.inl ⟨index, List.mem_filter.2 ⟨hindex, hfield⟩, by simp [hall index hindex]⟩

end Index

/-! ## Registering with inferred indexes -/

namespace Registry

open Collection

/-- **Inferred indexes are exact and never stand in the way.** For every schema and every list of text fields:
- the recognized indexes whose field is one of the schema come first, in their fixed order and with their directions; then
  comes one text index for each name that is listed and a field of the schema, in the order of first mention;
- no index comes twice;
- a model is registered with them just when its name is new and no pattern of its schema fails;
- where it is not registered, its name is taken, or a pattern does not compile and the error names the place of it;
- where it is, it has after every run a map for just the recognized fields that are fields of the schema. -/
theorem inferred_registrable (schema : Schema) (textFields : List String) :
    (∃ names, Index.FirstMentions schema.hasField textFields names ∧
      Index.infer schema textFields = (Index.recognized.filter fun index => schema.hasField index.field)
        ++ names.map fun field => ⟨field, .text⟩) ∧
    (Index.infer schema textFields).Nodup ∧
    ∀ (registry : Registry) (entity : String),
      ((∃ next model, registry.register entity schema (Index.infer schema textFields) = .ok (next, model)) ↔
        Emit.modelName entity ∉ registry.names ∧ ¬schema.PatternFails) ∧
      (∀ error, registry.register entity schema (Index.infer schema textFields) = .error error →
        (error = .nameTaken ∧ Emit.modelName entity ∈ registry.names) ∨
        ∃ item ∈ Spec.fieldPatterns "" schema.fields, error = .badPattern item.1 ∧ Pattern.parse? item.2 = none) ∧
      ∀ next model, registry.register entity schema (Index.infer schema textFields) = .ok (next, model) →
        ∀ inputs field, ((model.insertAll inputs).positions.lookup field).isSome = true ↔
          ∃ index ∈ Index.recognized, index.field = field ∧ schema.hasField field = true := by
  have hdeclared := Index.infer_declared schema textFields
  refine ⟨Index.infer_eq schema textFields, Index.nodup_infer schema textFields, ?_⟩
  intro registry entity
  refine ⟨?_, ?_, ?_⟩
  · rw [registrable_iff]
    exact ⟨fun h => ⟨h.1, h.2.1⟩, fun h => ⟨h.1, h.2, hdeclared⟩⟩
  · intro error herror
    rcases register_error herror with hname | hpattern | ⟨index, hindex, -, hfield⟩
    · exact Or.inl hname
    · exact Or.inr hpattern
    · rw [hdeclared index hindex] at hfield
      cases hfield
  · intro next model hregister inputs field
    obtain ⟨patterns, -, -, rfl⟩ := register_ok hregister
    have hnoted := insertAll_noted (fresh_noted (Emit.modelName entity) entity schema (Index.infer schema textFields)
      registry.timestamps patterns) inputs
    rw [hnoted.keyed, (insertAll_config _ inputs).2.1]
    exact Index.isIndexed_infer schema textFields field

/-- fields that are recognized, in another order than that of recognition, and one of these names inside an object -/
def memberSchema : Schema :=
  ⟨"members", [("role", .leaf { required := true } .string), ("bio", .leaf { required := false } .string),
    ("contact", .object { required := true } [("status", .leaf { required := true } .string)]),
    ("email", .leaf { required := true } .string)]⟩

/-- a recognized field that is mentioned as a text field has two indexes, and one map -/
theorem members_inferred :
    Index.infer memberSchema ["role", "gone", "bio", "status", "role"]
        = [⟨"email", .ascending⟩, ⟨"role", .ascending⟩, ⟨"role", .text⟩, ⟨"bio", .text⟩] ∧
      ∃ next model, Registry.register {} "members" memberSchema
          (Index.infer memberSchema ["role", "gone", "bio", "status", "role"]) = .ok (next, model) ∧
        ∀ inputs, ((model.insertAll inputs).positions.lookup "role").isSome = true ∧
          ¬((model.insertAll inputs).positions.lookup "status").isSome = true := by
  have hinfer : Index.infer memberSchema ["role", "gone", "bio", "status", "role"]
      = [⟨"email", .ascending⟩, ⟨"role", .ascending⟩, ⟨"role", .text⟩, ⟨"bio", .text⟩] := by decide
  obtain ⟨-, -, hregistry⟩ := inferred_registrable memberSchema ["role", "gone", "bio", "status", "role"]
  obtain ⟨-, -, hmaps⟩ := hregistry {} "members"
  refine ⟨hinfer, _, _, rfl, ?_⟩
  intro inputs
  rw [hmaps _ _ rfl, hmaps _ _ rfl]
  decide

end Registry

end DocumentModels
