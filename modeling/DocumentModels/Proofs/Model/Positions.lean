/-
Position maps of a model.

- `Noted`: the invariant. There is one map for each field that has an index with a direction, and it lists under every
  text the positions of the documents whose member has that text.
- `fresh_noted`, `grown_noted`, `insertAll_noted`: it holds of a new model, is kept by an accepted insertion, and so
  holds after every run.
- `filterMap_positionsOf`, `find_of_noted`: the documents at these positions are those that have the text, in order.
-/
import Mathlib.Tactic
import DocumentModels.Proofs.Model.Run

namespace DocumentModels

namespace PositionMap

theorem get_push (map : PositionMap) (key other : String) (position : Nat) :
    (map.push key position).get other = if other = key then map.get other ++ [position] else map.get other := by
  induction map with
  | nil =>
    by_cases h : other = key
    · simp [push, get, h]
    · simp [push, get, h, List.lookup_cons, beq_false_of_ne h]
  | cons entry rest ih =>
    obtain ⟨first, list⟩ := entry
    rw [push]
    by_cases hfirst : first = key
    · subst hfirst
      by_cases h : other = first
      · simp [get, h]
      · simp [get, h, List.lookup_cons, beq_false_of_ne h]
    · rw [if_neg hfirst]
      by_cases h : other = first
      · subst h
        simp [get, hfirst]
      · simpa [get, List.lookup_cons, beq_false_of_ne h] using ih

end PositionMap

namespace Collection

/-! ## Positions of a text -/

def hasText (field key : String) (document : Json) : Bool := (document.get? field).any (·.compact == key)

/-- the positions of the documents whose member has a text, in order -/
def positionsOf (documents : List Json) (field key : String) : List Nat :=
  (List.range documents.length).filter fun position => documents[position]?.any (hasText field key)

theorem positionsOf_concat (documents : List Json) (document : Json) (field key : String) :
    positionsOf (documents ++ [document]) field key
      = positionsOf documents field key ++ if hasText field key document then [documents.length] else [] := by
  have hold : ∀ position ∈ List.range documents.length,
      (documents ++ [document])[position]?.any (hasText field key) = documents[position]?.any (hasText field key) := by
    intro position hposition
    rw [List.getElem?_append_left (List.mem_range.1 hposition)]
  have hnew : (documents ++ [document])[documents.length]? = some document := by simp
  rw [positionsOf, List.length_append, List.length_singleton, List.range_succ, List.filter_append,
    List.filter_congr hold, List.filter_singleton, hnew, Option.any_some, Bool.cond_eq_ite]
  rfl

theorem filterMap_positionsOf (documents : List Json) (field key : String) :
    (positionsOf documents field key).filterMap (fun position => documents[position]?)
      = documents.filter (hasText field key) := by
  induction documents using List.reverseRecOn with
  | nil => rfl
  | append_singleton documents document ih =>
    have hold : ∀ position ∈ positionsOf documents field key,
        (documents ++ [document])[position]? = documents[position]? := by
      intro position hposition
      exact List.getElem?_append_left (List.mem_range.1 (List.mem_of_mem_filter hposition))
    rw [positionsOf_concat, List.filterMap_append, List.filterMap_congr hold, ih, List.filter_append]
    by_cases h : hasText field key document = true
    · simp [h]
    · simp [h]

/-! ## The invariant -/

def isIndexed (indexes : List Index) (field : String) : Bool :=
  indexes.any fun index => index.field == field && !index.isText

structure Noted (model : Collection) : Prop where
  keyed : ∀ field, (model.positions.lookup field).isSome = isIndexed model.indexes field
  listed : ∀ field map, model.positions.lookup field = some map →
    ∀ key, map.get key = positionsOf model.documents.toList field key

theorem lookup_addMap (maps : List (String × PositionMap)) (index : Index) (field : String) :
    (addMap maps index).lookup field
      = (maps.lookup field).or (if index.field = field ∧ index.isText = false then some [] else none) := by
  unfold addMap
  split_ifs with hskip hindex hindex
  · rcases hskip with htext | hsome
    · rw [hindex.2] at htext
      cases htext
    · obtain ⟨map, hmap⟩ := Option.isSome_iff_exists.1 hsome
      rw [← hindex.1, hmap]
      rfl
  · simp
  · simp [List.lookup_append, hindex.1]
  · have hne : field ≠ index.field := by
      rintro rfl
      exact hindex ⟨rfl, by simpa using fun h => hskip (Or.inl h)⟩
    simp [List.lookup_append, List.lookup_cons, beq_false_of_ne hne]

theorem lookup_foldl_addMap (indexes : List Index) (maps : List (String × PositionMap)) (field : String) :
    (indexes.foldl addMap maps).lookup field
      = (maps.lookup field).or (if isIndexed indexes field then some [] else none) := by
  induction indexes generalizing maps with
  | nil => simp [isIndexed]
  | cons index indexes ih =>
    rw [List.foldl_cons, ih, lookup_addMap, Option.or_assoc]
    congr 1
    by_cases h : index.field = field ∧ index.isText = false
    · simp [isIndexed, h]
    · have hfalse : (index.field == field && !index.isText) = false := by
        simpa using h
      have htail : isIndexed (index :: indexes) field = isIndexed indexes field := by
        rw [isIndexed, List.any_cons, hfalse, Bool.false_or]
        rfl
      rw [htail, if_neg h, Option.none_or]

theorem fresh_noted (name entity : String) (schema : Schema) (indexes : List Index) (timestamps : Bool)
    (patterns : PatternTable) : (fresh name entity schema indexes timestamps patterns).Noted := by
  have hlookup : ∀ field, (fresh name entity schema indexes timestamps patterns).positions.lookup field
      = if isIndexed indexes field then some [] else none := by
    intro field
    rw [fresh, lookup_foldl_addMap]
    simp
  constructor
  · intro field
    rw [hlookup]
    show _ = isIndexed indexes field
    cases isIndexed indexes field <;> rfl
  · intro field map hmap key
    rw [hlookup] at hmap
    split_ifs at hmap
    cases hmap
    rfl

theorem lookup_note (maps : List (String × PositionMap)) (position : Nat) (stored : Members) (field : String) :
    (maps.map (note position stored)).lookup field
      = (maps.lookup field).map fun map => (note position stored (field, map)).2 := by
  induction maps with
  | nil => rfl
  | cons entry maps ih =>
    obtain ⟨first, map⟩ := entry
    have hname : ∀ map, (note position stored (first, map)).1 = first := by
      intro map
      unfold note
      split <;> rfl
    have hentry : note position stored (first, map) = (first, (note position stored (first, map)).2) :=
      Prod.ext (hname map) rfl
    rw [List.map_cons, hentry, List.lookup_cons, List.lookup_cons]
    by_cases h : field = first
    · simp [h]
    · simpa [beq_false_of_ne h] using ih

theorem get_note (position : Nat) (stored : Members) (field : String) (map : PositionMap) (key : String) :
    (note position stored (field, map)).2.get key
      = map.get key ++ if hasText field key (.object stored) then [position] else [] := by
  unfold note hasText
  rw [Json.get?]
  cases stored.lookup field with
  | none => simp
  | some value =>
    rw [Option.any_some, PositionMap.get_push]
    by_cases h : key = value.compact
    · simp [h]
    · have hne : (value.compact == key) = false := beq_false_of_ne (Ne.symm h)
      simp [h, hne]

theorem grown_noted {model : Collection} (input : Input) (fields : Members) (h : model.Noted) :
    (model.grown input fields).Noted := by
  constructor
  · intro field
    rw [grown, lookup_note, Option.isSome_map]
    exact h.keyed field
  · intro field map hmap key
    rw [grown, lookup_note] at hmap
    obtain ⟨old, hold, rfl⟩ := Option.map_eq_some_iff.1 hmap
    rw [get_note, h.listed field old hold, grown, Array.toList_push, positionsOf_concat, Array.length_toList]

/-- **The position maps are right after every run.** -/
theorem insertAll_noted {start : Collection} (h : start.Noted) (inputs : List Input) : (start.insertAll inputs).Noted :=
  insertAll_induction h (fun _ input fields hmodel _ => grown_noted input fields hmodel) inputs

/-! ## Finding by a map -/

theorem find_of_noted {model : Collection} (h : model.Noted) {field : String} (hfield : isIndexed model.indexes field = true)
    (value : Json) : model.find field value = model.documents.toList.filter (hasText field value.compact) := by
  rw [← h.keyed field] at hfield
  obtain ⟨map, hmap⟩ := Option.isSome_iff_exists.1 hfield
  rw [find, hmap, ← filterMap_positionsOf]
  simp only [h.listed field map hmap, Array.getElem?_toList]

end Collection

end DocumentModels
