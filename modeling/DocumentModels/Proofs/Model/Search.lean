/-
What a search finds.

A search lowers its term and every text of an indexed field, and looks for the one inside the other. So it finds a term in
spite of its case, but a term that stands in a text letter by letter only if lower case keeps it there.
- `occursIn_iff`: one text occurs inside another.
- `exists_positions`, `search_positions`: the results of a search by their positions among the stored documents.
- `Finds`: a search gives every document that has the term in it, letter by letter.
- `finds_of_steady`: it does so in every state, if the characters of the term settle its lower case.
- `note_missed`: and if they do not, one stored note is enough to miss it.
- `search_finds_iff`: the two together, for all states of registered models.
- `museum_missed`: a museum that is not found by the beginning of its name.
-/
import Mathlib.Tactic
import DocumentModels.Proofs.Model.Run
import DocumentModels.Proofs.Text.Lower

namespace DocumentModels

namespace Collection

open Text (lowerAfter Steady capitalSigma)

/-- the states that registered models come to -/
def Reachable (model : Collection) : Prop :=
  ∃ (registry next : Registry) (entity : String) (schema : Schema) (indexes : List Index) (start : Collection)
    (inputs : List Input), registry.register entity schema indexes = .ok (next, start) ∧ model = start.insertAll inputs

/-! ## Results by position -/

theorem occursIn_iff (part text : List Char) : occursIn part text = true ↔ part <:+: text := by
  induction text with
  | nil => simp [occursIn]
  | cons c text ih => rw [occursIn, Bool.or_eq_true, ih, List.isPrefixOf_iff_prefix, List.infix_cons_iff]

theorem exists_positions {α : Type} (items : List α) (keep : α → Bool) :
    ∃ positions : List ℕ, positions.Pairwise (· < ·) ∧
      (items.filter keep).map some = positions.map (fun position => items[position]?) ∧
      ∀ position item, items[position]? = some item → keep item = true → position ∈ positions := by
  refine ⟨(items.zipIdx.filter fun entry => keep entry.1).map Prod.snd, ?_, ?_, ?_⟩
  · have hall : (items.zipIdx.map Prod.snd).Pairwise (· < ·) := by
      rw [List.zipIdx_map_snd]
      exact List.pairwise_lt_range'
    exact hall.sublist (List.filter_sublist.map Prod.snd)
  · have hplace : ∀ entry ∈ items.zipIdx.filter fun entry => keep entry.1, items[entry.2]? = some entry.1 := by
      intro entry hentry
      exact List.mem_zipIdx_iff_getElem?.1 (List.mem_filter.1 hentry).1
    have hitems : items.filter keep = (items.zipIdx.filter fun entry => keep entry.1).map Prod.fst := by
      conv_lhs => rw [← List.zipIdx_map_fst 0 items, List.filter_map]
      rfl
    rw [hitems, List.map_map, List.map_map]
    exact (List.map_congr_left hplace).symm
  · intro position item hitem hkeep
    have hentry : (item, position) ∈ items.zipIdx := List.mem_zipIdx_iff_getElem?.2 hitem
    exact List.mem_map.2 ⟨_, List.mem_filter.2 ⟨hentry, hkeep⟩, rfl⟩

/-- the results of a search are the stored documents at these positions: in order, and each of them once -/
structure GivenAt (model : Collection) (term : String) (positions : List ℕ) : Prop where
  increasing : positions.Pairwise (· < ·)
  given : (model.search term).map some = positions.map fun position => model.documents[position]?

/-- whether a field with a text index has the lower case of the term in its own -/
def hasLowered (model : Collection) (term : String) (document : Json) : Bool :=
  model.textFields.any fun field =>
    ((document.get? field).bind Json.asString?).any fun text => occursIn (Text.lower term).toList (Text.lower text).toList

theorem lower_ne_empty {term : String} (h : term ≠ "") : (Text.lower term).isEmpty = false := by
  have hchars : lowerAfter [] term.toList ≠ [] := Text.lowerAfter_ne_nil fun hnil => h (by simpa using hnil)
  simpa [Text.lower] using hchars

theorem search_eq (model : Collection) {term : String} (h : term ≠ "") :
    model.search term = model.documents.toList.filter (model.hasLowered term) := by
  simp only [search, lower_ne_empty h, Bool.false_eq_true, if_false]
  rfl

/-- **The results of a search by position;** nothing that has the lower case of the term is left out. -/
theorem search_positions (model : Collection) {term : String} (h : term ≠ "") :
    ∃ positions, model.GivenAt term positions ∧
      ∀ position document, model.documents[position]? = some document → model.hasLowered term document = true →
        position ∈ positions := by
  obtain ⟨positions, hincreasing, hgiven, hall⟩ := exists_positions model.documents.toList (model.hasLowered term)
  simp only [Array.getElem?_toList] at hgiven hall
  exact ⟨positions, ⟨hincreasing, by rw [search_eq model h, hgiven]⟩, hall⟩

/-! ## Terms letter by letter -/

/-- a field with a text index has the term in its text, letter by letter -/
def HasVerbatim (model : Collection) (term : String) (document : Json) : Prop :=
  ∃ field ∈ model.textFields, ∃ text, document.get? field = some (.string text) ∧ term.toList <:+: text.toList

/-- **A search gives every stored document that has the term in it,** letter by letter. -/
def Finds (model : Collection) (term : String) : Prop :=
  ∃ positions, model.GivenAt term positions ∧
    ∀ position document, model.documents[position]? = some document → model.HasVerbatim term document →
      position ∈ positions

theorem hasLowered_iff (model : Collection) (term : String) (document : Json) :
    model.hasLowered term document = true ↔ ∃ field ∈ model.textFields, ∃ text, document.get? field = some (.string text) ∧
      lowerAfter [] term.toList <:+: lowerAfter [] text.toList := by
  simp only [hasLowered, List.any_eq_true, Option.any_eq_true, Option.bind_eq_some_iff, occursIn_iff, Text.lower,
    String.toList_ofList]
  apply exists_congr
  intro field
  apply and_congr_right
  intro _
  constructor
  · rintro ⟨text, ⟨value, hvalue, htext⟩, hlowered⟩
    cases value with
    | string s =>
      obtain rfl := Option.some.inj htext
      exact ⟨_, hvalue, hlowered⟩
    | _ => cases htext
  · rintro ⟨text, hvalue, hlowered⟩
    exact ⟨text, ⟨_, hvalue, rfl⟩, hlowered⟩

/-- **A steady term is found wherever it stands.** -/
theorem finds_of_steady (model : Collection) {term : String} (hterm : term ≠ "") (h : Steady term.toList) :
    model.Finds term := by
  obtain ⟨positions, hgiven, hall⟩ := search_positions model hterm
  refine ⟨positions, hgiven, ?_⟩
  intro position document hdocument hverbatim
  obtain ⟨field, hfield, text, htext, before, after, hstands⟩ := hverbatim
  refine hall position document hdocument ((hasLowered_iff model term document).2 ⟨field, hfield, text, htext, ?_⟩)
  rw [← hstands]
  exact Text.steady_iff.1 h before after

/-! ## A note that is missed -/

def noteSchema : Schema := ⟨"notes", [("body", .leaf { required := true } .string)]⟩

def noteIndexes : List Index := [⟨"body", .text⟩]

def noteModel : Collection := fresh (Emit.modelName "notes") "notes" noteSchema noteIndexes false []

def noteInput (body : String) : Input where
  now := ""
  document := .object [("body", .string body)]
  distinct := by simp [Json.Distinct, Json.DistinctMembers]

theorem register_notes : Registry.register { timestamps := false } "notes" noteSchema noteIndexes
    = .ok ({ timestamps := false, models := [noteModel] }, noteModel) := rfl

/-- a note that is not empty is stored -/
theorem documents_note {body : String} (h : body ≠ "") :
    (noteModel.insertAll [noteInput body]).documents = #[.object [("_id", .ofNat 1), ("body", .string body)]] := by
  have hviolations : noteSchema.violations [] (noteInput body).document = [] := by
    simp [noteSchema, noteInput, Schema.violations, Spec.fieldViolations, Spec.given, Spec.rules, h, Spec.violations,
      Rules.leafBreaches, Rules.stringBreaches, Rules.enumBreaches]
  have hstored : noteSchema.normalize (noteInput body).document = [("body", .string body)] := by
    simp [noteSchema, noteInput, Schema.normalize, Spec.normalizeFields, Spec.given, Spec.rules, h, Spec.normalize,
      Members.overlay, upsert]
  have haccepts : noteModel.Accepts (noteInput body) [("body", .string body)] := by
    refine ⟨?_, by simp [hasId, noteModel, fresh]⟩
    show noteSchema.validate [] (noteInput body).document = _
    rw [Schema.validate, hviolations, hstored]
  rw [insertAll, List.foldl_cons, List.foldl_nil, tryInsert_of_accepts haccepts]
  rfl

/-- **A term is missed in a note** in whose lower case its own does not occur. -/
theorem note_missed {term body : String} (hterm : term ≠ "") (hstands : term.toList <:+: body.toList)
    (hmissed : ¬lowerAfter [] term.toList <:+: lowerAfter [] body.toList) :
    (noteModel.insertAll [noteInput body]).search term = [] ∧ ¬(noteModel.insertAll [noteInput body]).Finds term := by
  have hbody : body ≠ "" := by
    rintro rfl
    exact hterm (by simpa using hstands)
  have hdocuments := documents_note hbody
  have hfields : (noteModel.insertAll [noteInput body]).textFields = ["body"] := by
    rw [textFields, (insertAll_config noteModel [noteInput body]).2.1]
    rfl
  have hsearch : (noteModel.insertAll [noteInput body]).search term = [] := by
    rw [search_eq _ hterm, hdocuments, List.filter_eq_nil_iff]
    intro document hdocument
    obtain rfl := List.mem_singleton.1 hdocument
    rw [hasLowered_iff, hfields]
    rintro ⟨field, hfield, text, htext, hlowered⟩
    obtain rfl := List.mem_singleton.1 hfield
    obtain rfl : body = text := by simpa [Json.get?, List.lookup_cons] using htext
    exact hmissed hlowered
  refine ⟨hsearch, ?_⟩
  intro hfinds
  obtain ⟨positions, hgiven, hall⟩ := hfinds
  have hverbatim : (noteModel.insertAll [noteInput body]).HasVerbatim term
      (.object [("_id", .ofNat 1), ("body", .string body)]) := by
    rw [HasVerbatim, hfields]
    exact ⟨"body", List.mem_singleton.2 rfl, body, rfl, hstands⟩
  have hposition := hall 0 _ (by rw [hdocuments]; rfl) hverbatim
  have hnone := hgiven.given
  rw [hsearch, List.map_nil, eq_comm, List.map_eq_nil_iff] at hnone
  rw [hnone] at hposition
  cases hposition

/-! ## All terms -/

/-- **What a search finds.** For every term that is not empty:
- in every state of a registered model, the results are a subsequence of the stored documents, given by increasing
  positions, so none of them is repeated;
- in every state of every registered model, a search finds all documents that have the term in a field with a text index,
  letter by letter, if and only if the characters of the term settle the form of each capital sigma in it;
- so it does for every term without a capital sigma. -/
theorem search_finds_iff {term : String} (hterm : term ≠ "") :
    (∀ model : Collection, model.Reachable → (model.search term).Sublist model.documents.toList ∧
      ∃ positions, model.GivenAt term positions) ∧
    ((∀ model : Collection, model.Reachable → model.Finds term) ↔ Steady term.toList) ∧
    (capitalSigma ∉ term.toList → ∀ model : Collection, model.Reachable → model.Finds term) := by
  refine ⟨?_, ⟨?_, ?_⟩, ?_⟩
  · intro model _
    obtain ⟨positions, hgiven, -⟩ := search_positions model hterm
    rw [search_eq model hterm]
    exact ⟨List.filter_sublist, positions, hgiven⟩
  · intro hfinds
    rw [Text.steady_iff]
    intro before after
    by_contra hmissed
    -- the surroundings in which the lower case is lost make a note
    have hstands : term.toList <:+: (String.ofList (before ++ term.toList ++ after)).toList := by
      rw [String.toList_ofList]
      exact List.infix_append before term.toList after
    rw [← String.toList_ofList (l := before ++ term.toList ++ after)] at hmissed
    exact (note_missed hterm hstands hmissed).2 (hfinds _ ⟨_, _, _, _, _, _, _, register_notes, rfl⟩)
  · intro hsteady model _
    exact finds_of_steady model hterm hsteady
  · intro hnone model _
    exact finds_of_steady model hterm (Text.steady_of_notMem hnone)

/-! ## A museum that is not found -/

/-- the beginning of a word that goes on is not steady: it ends in a sigma, which would be a final one -/
theorem museum_missed : "ΜΟΥΣ" ≠ "" ∧ ¬∀ model : Collection, model.Reachable → model.Finds "ΜΟΥΣ" := by
  have hterm : "ΜΟΥΣ" ≠ "" := by decide
  refine ⟨hterm, ?_⟩
  rw [(search_finds_iff hterm).2.1]
  intro hsteady
  have hopen : ¬Text.Settled ['Μ', 'Ο', 'Υ'].reverse [] := by
    unfold Text.Settled
    decide +kernel
  exact hopen (hsteady ['Μ', 'Ο', 'Υ'] [] rfl)

/-- **A museum is not found by the beginning of its name,** though the name has it letter by letter. -/
theorem museum_not_found :
    (noteModel.insertAll [noteInput "ΜΟΥΣΕΙΟ"]).documents.toList
        = [.object [("_id", .ofNat 1), ("body", .string "ΜΟΥΣΕΙΟ")]] ∧
      "ΜΟΥΣ".toList <:+: "ΜΟΥΣΕΙΟ".toList ∧ (noteModel.insertAll [noteInput "ΜΟΥΣΕΙΟ"]).search "ΜΟΥΣ" = [] := by
  have hstands : "ΜΟΥΣ".toList <:+: "ΜΟΥΣΕΙΟ".toList := by decide
  have hmissed : ¬lowerAfter [] "ΜΟΥΣ".toList <:+: lowerAfter [] "ΜΟΥΣΕΙΟ".toList := by decide +kernel
  exact ⟨by rw [documents_note (by decide)], hstands, (note_missed (by decide) hstands hmissed).1⟩

end Collection

end DocumentModels
