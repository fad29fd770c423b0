/-
Index sections of emitted modules, as they are read.

A section is a sequence of statements. Each asks for paths of the schema and then declares keys; both name a field, but
paths are written between single quotes, keys as they are or between double quotes. `Declaration` is such a statement with
any paths and any keys, so that what is guarded by what has to be proved.
- `separated_cut`: items between separators are cut off one after the other, by induction on the items behind the first.
- `guard_cut`, `indexKey_cut`, `Declaration.text_cut`: a guard, a key, a statement is cut off the front of a text.
- `sectionText_injective`: a section is read as statements in one way only, whatever the names of the fields contain.
- `indexSection_eq`: the statements that are written for an index list (`declarations`).
- `declarations_eq_iff`: they tell the indexes with a direction and the text indexes, each in order, and nothing more.
- `indexes_told`: the three together, in the module of an entity.
-/
import Mathlib.Tactic
import DocumentModels.Emit.Module
import DocumentModels.Proofs.Emit.Literal
import DocumentModels.Proofs.Emit.Quoted

namespace DocumentModels.Emit

/-! ## Items between separators -/

section Separated

variable {α : Type} {item : α → String}

/-- what is written for an item is cut off the front of a text -/
def CutOff (item : α → String) : Prop :=
  ∀ a b r s, (item a).toList ++ r = (item b).toList ++ s → a = b ∧ r = s

def furtherItems (separator : List Char) (item : α → String) (items : List α) : List Char :=
  items.flatMap fun a => separator ++ (item a).toList

theorem toList_separated (separator : String) (first : α) (items : List α) :
    (separator.intercalate ((first :: items).map item)).toList
      = (item first).toList ++ furtherItems separator.toList item items := by
  induction items generalizing first with
  | nil => simp [furtherItems]
  | cons next items ih =>
    rw [List.map_cons, List.map_cons, String.intercalate_cons_cons, String.toList_append, String.toList_append,
      ← List.map_cons, ih]
    simp [furtherItems]

theorem furtherItems_cut (hitem : CutOff item) {separator close : List Char}
    (hclose : ∀ r s, separator ++ r ≠ close ++ s) {items others : List α} {r s : List Char}
    (h : furtherItems separator item items ++ (close ++ r) = furtherItems separator item others ++ (close ++ s)) :
    items = others ∧ r = s := by
  induction items generalizing others with
  | nil =>
    cases others with
    | nil => exact ⟨rfl, List.append_cancel_left h⟩
    | cons other others =>
      simp only [furtherItems, List.flatMap_nil, List.nil_append, List.flatMap_cons, List.append_assoc] at h
      exact absurd h.symm (hclose _ _)
  | cons next items ih =>
    cases others with
    | nil =>
      simp only [furtherItems, List.flatMap_nil, List.nil_append, List.flatMap_cons, List.append_assoc] at h
      exact absurd h (hclose _ _)
    | cons other others =>
      simp only [furtherItems, List.flatMap_cons, List.append_assoc] at h
      obtain ⟨rfl, hrest⟩ := hitem _ _ _ _ (List.append_cancel_left h)
      obtain ⟨rfl, hrs⟩ := ih hrest
      exact ⟨rfl, hrs⟩

/-- **Items between separators are cut off,** if one item is, and the separator is not taken for what closes the list. -/
theorem separated_cut (hitem : CutOff item) {separator : String} {close : List Char}
    (hclose : ∀ r s, separator.toList ++ r ≠ close ++ s) {items others : List α} (hitems : items ≠ [])
    (hothers : others ≠ []) {r s : List Char}
    (h : (separator.intercalate (items.map item)).toList ++ (close ++ r)
      = (separator.intercalate (others.map item)).toList ++ (close ++ s)) : items = others ∧ r = s := by
  obtain ⟨first, items, rfl⟩ := List.exists_cons_of_ne_nil hitems
  obtain ⟨other, others, rfl⟩ := List.exists_cons_of_ne_nil hothers
  rw [toList_separated, toList_separated, List.append_assoc, List.append_assoc] at h
  obtain ⟨rfl, hrest⟩ := hitem _ _ _ _ h
  obtain ⟨rfl, hrs⟩ := furtherItems_cut hitem hclose hrest
  exact ⟨rfl, hrs⟩

end Separated

/-! ## Statements -/

/-- a statement of an index section: it asks for the paths and, if all of them are there, declares an index over the keys -/
@[ext]
structure Declaration where
  paths : List String
  keys : List Index
  asks : paths ≠ []
  declares : keys ≠ []

/-- the test that a path is part of a schema -/
def guardText (ident path : String) : String := ident ++ ".path(" ++ singleQuoted path ++ ")"

namespace Declaration

def text (ident : String) (declaration : Declaration) : String :=
  "if (" ++ " && ".intercalate (declaration.paths.map (guardText ident)) ++ ") " ++ ident ++ ".index(\x7b "
    ++ ", ".intercalate (declaration.keys.map indexKey) ++ " \x7d);\n"

def ofIndexes (indexes : List Index) (h : indexes ≠ []) : Declaration where
  paths := indexes.map Index.field
  keys := indexes
  asks := by simpa using h
  declares := h

theorem text_ofIndexes (ident : String) (indexes : List Index) (h : indexes ≠ []) :
    (ofIndexes indexes h).text ident = indexStatement ident indexes := by
  rw [text, indexStatement, ofIndexes, List.map_map]
  rfl

end Declaration

theorem guard_cut (ident : String) : CutOff (guardText ident) := by
  intro a b r s h
  simp only [guardText, String.toList_append, List.append_assoc] at h
  obtain ⟨rfl, hrest⟩ := singleQuoted_cut (List.append_cancel_left (List.append_cancel_left h))
  exact ⟨rfl, List.append_cancel_left hrest⟩

theorem direction_of_first {a b : Direction} (h : a.keyLiteral.toList.head? = b.keyLiteral.toList.head?) : a = b := by
  revert h
  cases a <;> cases b <;> decide

theorem keyLiteral_cut : CutOff Direction.keyLiteral := by
  intro a b r s h
  have hfirst : ∀ (d : Direction) (t : List Char), (d.keyLiteral.toList ++ t).head? = d.keyLiteral.toList.head? := by
    intro d t
    cases d <;> rfl
  obtain rfl : a = b := direction_of_first (by rw [← hfirst a r, h, hfirst b s])
  exact ⟨rfl, List.append_cancel_left h⟩

theorem indexKey_cut : CutOff indexKey := by
  intro a b r s h
  have htext : ∀ index : Index, (indexKey index).toList
      = (objectKey index.field).toList ++ ':' :: ' ' :: index.direction.keyLiteral.toList := by
    intro index
    simp [indexKey]
  rw [htext, htext] at h
  simp only [List.append_assoc, List.cons_append] at h
  obtain ⟨hfield, hrest⟩ := objectKey_cut h
  obtain ⟨hdirection, hrs⟩ := keyLiteral_cut _ _ _ _ (List.cons.inj hrest).2
  cases a
  cases b
  cases hfield
  cases hdirection
  exact ⟨rfl, hrs⟩

/-- **A statement is cut off,** whatever follows and whatever its names contain. -/
theorem Declaration.text_cut (ident : String) : CutOff (Declaration.text ident) := by
  intro a b r s h
  simp only [Declaration.text, String.toList_append, List.append_assoc] at h
  obtain ⟨hpaths, hrest⟩ :=
    separated_cut (guard_cut ident) (by simp) a.asks b.asks (List.append_cancel_left h)
  obtain ⟨hkeys, hrs⟩ := separated_cut indexKey_cut (by simp) a.declares b.declares
    (List.append_cancel_left (List.append_cancel_left hrest))
  exact ⟨Declaration.ext hpaths hkeys, hrs⟩

/-! ## Sections -/

/-- the section that consists of statements -/
def sectionText (ident : String) (declarations : List Declaration) : String :=
  if declarations = [] then "" else "\n// Indexes\n" ++ String.join (declarations.map (Declaration.text ident))

theorem join_text_injective {ident : String} {a b : List Declaration}
    (h : (String.join (a.map (Declaration.text ident))).toList = (String.join (b.map (Declaration.text ident))).toList) :
    a = b := by
  have hnonempty : ∀ (d : Declaration) (rest : List Char), (d.text ident).toList ++ rest ≠ [] := by
    intro d rest
    simp [Declaration.text]
  induction a generalizing b with
  | nil =>
    cases b with
    | nil => rfl
    | cons d b =>
      rw [List.map_cons, String.join_cons, String.toList_append] at h
      exact absurd h.symm (hnonempty d _)
  | cons d a ih =>
    cases b with
    | nil =>
      rw [List.map_cons, String.join_cons, String.toList_append] at h
      exact absurd h (hnonempty d _)
    | cons e b =>
      simp only [List.map_cons, String.join_cons, String.toList_append] at h
      obtain ⟨rfl, hrest⟩ := Declaration.text_cut ident _ _ _ _ h
      rw [ih hrest]

/-- **A section is read as statements in one way.** -/
theorem sectionText_injective {ident : String} {a b : List Declaration} (h : sectionText ident a = sectionText ident b) :
    a = b := by
  unfold sectionText at h
  have hlist := congrArg String.toList h
  split_ifs at hlist with ha hb hb
  · rw [ha, hb]
  · simp at hlist
  · simp at hlist
  · rw [String.toList_append, String.toList_append] at hlist
    exact join_text_injective (List.append_cancel_left hlist)

/-! ## Statements of an index list -/

/-- the indexes with a direction -/
def keyed (indexes : List Index) : List Index := indexes.filter fun index => !index.isText

def textual (indexes : List Index) : List Index := indexes.filter fun index => index.isText

/-- the statements of an index list: one for each index with a direction, then one for all text indexes -/
def declarations (indexes : List Index) : List Declaration :=
  (keyed indexes).map (fun index => Declaration.ofIndexes [index] (by simp))
    ++ (if h : textual indexes = [] then [] else [Declaration.ofIndexes (textual indexes) h])

theorem keys_declarations (indexes : List Index) :
    (declarations indexes).map Declaration.keys
      = (keyed indexes).map (fun index => [index]) ++ (if textual indexes = [] then [] else [textual indexes]) := by
  rw [declarations, List.map_append, List.map_map]
  congr 1
  split_ifs <;> rfl

theorem paths_of_mem_declarations {indexes : List Index} {declaration : Declaration}
    (h : declaration ∈ declarations indexes) : declaration.paths = declaration.keys.map Index.field := by
  rcases List.mem_append.1 h with h | h
  · obtain ⟨index, -, rfl⟩ := List.mem_map.1 h
    rfl
  · split_ifs at h with htext
    · cases h
    · rw [List.mem_singleton.1 h]
      rfl

theorem flatten_keys_declarations (indexes : List Index) :
    ((declarations indexes).map Declaration.keys).flatten = keyed indexes ++ textual indexes := by
  rw [keys_declarations, List.flatten_append, ← List.flatMap_def, List.flatMap_singleton']
  split_ifs with h
  · simp [h]
  · simp

/-- **What the statements tell:** the indexes with a direction in order, and the text indexes in order. -/
theorem declarations_eq_iff {a b : List Index} :
    declarations a = declarations b ↔ keyed a = keyed b ∧ textual a = textual b := by
  constructor
  · intro h
    have hkeys : keyed a ++ textual a = keyed b ++ textual b := by
      rw [← flatten_keys_declarations, ← flatten_keys_declarations, h]
    have hkeyed : ∀ indexes, (keyed indexes ++ textual indexes).filter (fun index => !index.isText) = keyed indexes := by
      intro indexes
      simp [keyed, textual, List.filter_filter]
    have htextual : ∀ indexes, (keyed indexes ++ textual indexes).filter (fun index => index.isText) = textual indexes := by
      intro indexes
      simp [keyed, textual, List.filter_filter]
    exact ⟨by rw [← hkeyed a, hkeys, hkeyed b], by rw [← htextual a, hkeys, htextual b]⟩
  · rintro ⟨hkeyed, htextual⟩
    simp only [declarations, hkeyed, htextual]

theorem declarations_eq_nil {indexes : List Index} : declarations indexes = [] ↔ indexes = [] := by
  constructor
  · intro h
    have hnone : keyed indexes ++ textual indexes = [] := by rw [← flatten_keys_declarations, h]; rfl
    rw [List.append_eq_nil_iff, keyed, textual, List.filter_eq_nil_iff, List.filter_eq_nil_iff] at hnone
    rw [List.eq_nil_iff_forall_not_mem]
    intro index hindex
    have hkeyed := hnone.1 index hindex
    have htextual := hnone.2 index hindex
    simp_all
  · rintro rfl
    rfl

/-- **The section of an index list** is that of its statements. -/
theorem indexSection_eq (ident : String) (indexes : List Index) :
    indexSection ident indexes = sectionText ident (declarations indexes) := by
  have hstatements : indexStatements ident indexes
      = String.join ((declarations indexes).map (Declaration.text ident)) := by
    rw [declarations, List.map_append, List.map_map, String.join_append]
    have hkeyed : (Declaration.text ident ∘ fun index => Declaration.ofIndexes [index] (by simp))
        = fun index => indexStatement ident [index] := by
      funext index
      exact Declaration.text_ofIndexes ident [index] _
    rw [hkeyed, indexStatements]
    congr 1
    show (if (textual indexes).isEmpty = true then "" else indexStatement ident (textual indexes)) = _
    by_cases htext : textual indexes = []
    · rw [dif_pos htext, if_pos (List.isEmpty_iff.2 htext)]
      rfl
    · rw [dif_neg htext, if_neg (mt List.isEmpty_iff.1 htext), List.map_singleton, Declaration.text_ofIndexes]
      simp
  rw [indexSection, sectionText, hstatements]
  simp only [declarations_eq_nil, List.isEmpty_iff]

/-! ## Modules -/

/-- what a module says before its index section -/
def beforeIndexes (entity : String) (fields : List (String × Spec)) (timestamps : Bool) : String :=
  "const mongoose = require('mongoose');\n\n"
    ++ "const " ++ schemaIdentifier entity ++ " = new mongoose.Schema(" ++ braces 1 (fieldLines 1 fields) ++ ", \x7b\n"
    ++ indent 1 ++ "timestamps: " ++ toString timestamps ++ "\n\x7d);\n"

/-- what a module says after its index section -/
def afterIndexes (entity : String) : String :=
  "\nmodule.exports = mongoose.model(" ++ singleQuoted (modelName entity) ++ ", " ++ schemaIdentifier entity ++ ");\n"

theorem moduleText_around (entity : String) (fields : List (String × Spec)) (indexes : List Index) (timestamps : Bool) :
    moduleText entity fields indexes timestamps
      = beforeIndexes entity fields timestamps ++ sectionText (schemaIdentifier entity) (declarations indexes)
        ++ afterIndexes entity := by
  rw [← indexSection_eq]
  unfold moduleText beforeIndexes afterIndexes
  simp only [String.append_assoc]

/-- a section can be taken out of the text around it -/
theorem section_of_around {before a b after : String} (h : before ++ a ++ after = before ++ b ++ after) : a = b := by
  have hlist := congrArg String.toList h
  simp only [String.toList_append, List.append_assoc] at hlist
  exact String.toList_injective (List.append_cancel_right (List.append_cancel_left hlist))

/-- **A module tells the indexes of its entity.** Between two texts that do not depend on the indexes stand statements, and
the module can be read as such statements in one way only: one for each index with a direction, in the order of the list,
then one over all text indexes in order, if there is any. Each statement asks for the path of every field that it indexes.
Two index lists have the same module just when their indexes with a direction are the same, in order, and so are their text
indexes. -/
theorem indexes_told (entity : String) (fields : List (String × Spec)) (timestamps : Bool) (indexes : List Index) :
    (∃ statements : List Declaration,
      (∀ others, moduleText entity fields indexes timestamps
        = beforeIndexes entity fields timestamps ++ sectionText (schemaIdentifier entity) others ++ afterIndexes entity
          ↔ others = statements) ∧
      statements.map Declaration.keys
        = (keyed indexes).map (fun index => [index]) ++ (if textual indexes = [] then [] else [textual indexes]) ∧
      ∀ statement ∈ statements, statement.paths = statement.keys.map Index.field) ∧
    ∀ others, moduleText entity fields indexes timestamps = moduleText entity fields others timestamps
      ↔ keyed indexes = keyed others ∧ textual indexes = textual others := by
  refine ⟨⟨declarations indexes, ?_, keys_declarations indexes, fun _ => paths_of_mem_declarations⟩, ?_⟩
  · intro others
    rw [moduleText_around]
    constructor
    · intro h
      exact (sectionText_injective (section_of_around h)).symm
    · rintro rfl
      rfl
  · intro others
    rw [moduleText_around, moduleText_around, ← declarations_eq_iff]
    constructor
    · intro h
      exact sectionText_injective (section_of_around h)
    · intro h
      rw [h]

end DocumentModels.Emit
