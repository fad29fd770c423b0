/-
Paths of findings: no two fields have the same.

The path of a field is the names on the way to it, joined: the first as it is, then a dot and a name for each field, and the
brackets alone for each element. Where no name is empty or has a dot or an opening bracket in it, and the names of an
object are distinct, such a path is read in one way only.
- `PlainName`, `Field.NamesPlain`: what is asked of the names, at every object that is reached.
- `toList_foldl_joinPath`: a path is its first name and, for each name behind it, a mark and the name (`marked`).
- `marked_cut`, `flatMap_marked_injective`: marked names are cut off one after the other, by induction on the names.
- `Field.trail_injective`: the names on the way to a field tell the steps to it, by induction on the steps.
- `Entity.paths_identify`: so a path tells the field or element that it belongs to, and a finding the one it is about.
-/
import Mathlib.Tactic
import DocumentModels.Proofs.Json.CompactText
import DocumentModels.Proofs.Schema.Findings

namespace DocumentModels

/-! ## Names in a path -/

/-- whether the character stands where a name begins -/
def isMark (c : Char) : Bool := c = '.' || c = '['

/-- a name that can be told from what is around it in a path -/
def PlainName (name : String) : Prop := name ≠ "" ∧ '.' ∉ name.toList ∧ '[' ∉ name.toList

instance (name : String) : Decidable (PlainName name) :=
  inferInstanceAs (Decidable (name ≠ "" ∧ '.' ∉ name.toList ∧ '[' ∉ name.toList))

theorem PlainName.unmarked {name : String} (h : PlainName name) : ∀ c ∈ name.toList, (!isMark c) = true := by
  obtain ⟨-, hdot, hbracket⟩ := h
  intro c hc
  have hne : c ≠ '.' ∧ c ≠ '[' := ⟨fun h => hdot (h ▸ hc), fun h => hbracket (h ▸ hc)⟩
  simp [isMark, hne]

/-- what is written for a name behind another -/
def marked (name : String) : List Char := if name.toList.head? = some '[' then name.toList else '.' :: name.toList

theorem marked_plain {name : String} (h : PlainName name) : marked name = '.' :: name.toList := by
  rw [marked, if_neg]
  intro hhead
  exact h.2.2 (List.mem_of_head? hhead)

theorem marked_element : marked elementName = ['[', ']'] := rfl

/-- **A name behind another is marked.** -/
theorem toList_joinPath {parent : String} (h : parent ≠ "") (name : String) :
    (joinPath parent name).toList = parent.toList ++ marked name := by
  have hparent : parent.isEmpty = false := by simpa using h
  rw [joinPath, marked, hparent]
  split_ifs <;> simp_all

theorem toList_foldl_joinPath {parent : String} (h : parent ≠ "") (names : List String) :
    (names.foldl joinPath parent).toList = parent.toList ++ names.flatMap marked := by
  induction names generalizing parent with
  | nil => simp
  | cons name names ih =>
    have hjoined : joinPath parent name ≠ "" := by
      intro hempty
      have hlist := toList_joinPath h name
      rw [hempty] at hlist
      simp_all
    rw [List.foldl_cons, ih hjoined, toList_joinPath h, List.flatMap_cons, List.append_assoc]

/-- a name on the way to a field: the brackets of an element, or plain -/
def OnTrail (name : String) : Prop := name = elementName ∨ PlainName name

theorem flatMap_marked_first {names : List String} (h : ∀ name ∈ names, OnTrail name) :
    ∀ c ∈ (names.flatMap marked).head?, (!isMark c) = false := by
  cases names with
  | nil => simp
  | cons name names =>
    rcases h name List.mem_cons_self with rfl | hplain
    · simp [marked_element, isMark]
    · simp [marked_plain hplain, isMark]

/-- **A marked name is cut off the front of a path.** -/
theorem marked_cut {a b : String} (ha : OnTrail a) (hb : OnTrail b) {r s : List Char}
    (hr : ∀ c ∈ r.head?, (!isMark c) = false) (hs : ∀ c ∈ s.head?, (!isMark c) = false)
    (h : marked a ++ r = marked b ++ s) : a = b ∧ r = s := by
  rcases ha with rfl | ha <;> rcases hb with rfl | hb
  · exact ⟨rfl, List.append_cancel_left h⟩
  · simp [marked_element, marked_plain hb] at h
  · simp [marked_element, marked_plain ha] at h
  · rw [marked_plain ha, marked_plain hb, List.cons_append, List.cons_append, List.cons.injEq] at h
    obtain ⟨hname, hrest⟩ := Json.cut_of_class ha.unmarked hb.unmarked hr hs h.2
    exact ⟨String.toList_injective hname, hrest⟩

/-- **Marked names are read in one way.** -/
theorem flatMap_marked_injective {left right : List String} (hleft : ∀ name ∈ left, OnTrail name)
    (hright : ∀ name ∈ right, OnTrail name) (h : left.flatMap marked = right.flatMap marked) : left = right := by
  have hne : ∀ name, marked name ≠ [] := by
    intro name
    rw [marked]
    split_ifs with hhead
    · intro hnil
      simp [hnil] at hhead
    · simp
  induction left generalizing right with
  | nil =>
    cases right with
    | nil => rfl
    | cons name right => exact absurd (List.append_eq_nil_iff.1 h.symm).1 (hne name)
  | cons name left ih =>
    cases right with
    | nil => exact absurd (List.append_eq_nil_iff.1 h).1 (hne name)
    | cons other right =>
      rw [List.forall_mem_cons] at hleft hright
      rw [List.flatMap_cons, List.flatMap_cons] at h
      obtain ⟨rfl, hrest⟩ := marked_cut hleft.1 hright.1 (flatMap_marked_first hleft.2) (flatMap_marked_first hright.2) h
      rw [ih hleft.2 hright.2 hrest]

/-! ## The way to a field -/

namespace Field

mutual

/-- at every object that is reached from a field, the names are plain and distinct -/
def NamesPlain : Field → Prop
  | .leaf _ _ => True
  | .union _ _ => True
  | .array _ element => element.NamesPlain
  | .object _ fields => (fields.map Prod.fst).Nodup ∧ PlainFields fields

/-- every field has a plain name, and so have those that are reached from it -/
def PlainFields : List (String × Field) → Prop
  | [] => True
  | (name, field) :: rest => PlainName name ∧ field.NamesPlain ∧ PlainFields rest

end

theorem plainFields_iff (fields : List (String × Field)) :
    PlainFields fields ↔ ∀ named ∈ fields, PlainName named.1 ∧ named.2.NamesPlain := by
  induction fields with
  | nil => simp [PlainFields]
  | cons named fields ih => rw [PlainFields, ih, List.forall_mem_cons, and_assoc]

theorem at?_cons {field part : Field} {step : Step} {rest : List Step} (h : field.at? (step :: rest) = some part) :
    (∃ modifiers fields index named, field = .object modifiers fields ∧ step = .field index ∧
      fields[index]? = some named ∧ named.2.at? rest = some part ∧
        field.trail (step :: rest) = named.1 :: named.2.trail rest) ∨
    ∃ modifiers element, field = .array modifiers element ∧ step = .element ∧ element.at? rest = some part ∧
      field.trail (step :: rest) = elementName :: element.trail rest := by
  cases field with
  | object modifiers fields =>
    cases step with
    | element => simp [at?] at h
    | field index =>
      obtain ⟨named, hnamed, hpart⟩ := Option.bind_eq_some_iff.1 h
      exact Or.inl ⟨modifiers, fields, index, named, rfl, rfl, hnamed, hpart, by rw [trail, hnamed]⟩
  | array modifiers element =>
    cases step with
    | field index => simp [at?] at h
    | element => exact Or.inr ⟨modifiers, element, rfl, rfl, h, rfl⟩
  | _ => cases step <;> simp [at?] at h

theorem onTrail_of_mem {steps : List Step} {field part : Field} (hplain : field.NamesPlain)
    (hpart : field.at? steps = some part) : ∀ name ∈ field.trail steps, OnTrail name := by
  induction steps generalizing field with
  | nil => simp [trail_nil]
  | cons step steps ih =>
    rcases at?_cons hpart with ⟨modifiers, fields, index, named, rfl, rfl, hnamed, hrest, htrail⟩ |
      ⟨modifiers, element, rfl, rfl, hrest, htrail⟩
    · have hfield := (plainFields_iff fields).1 hplain.2 named (List.mem_of_getElem? hnamed)
      rw [htrail, List.forall_mem_cons]
      exact ⟨Or.inr hfield.1, ih hfield.2 hrest⟩
    · rw [htrail, List.forall_mem_cons]
      exact ⟨Or.inl rfl, ih hplain hrest⟩

/-- where names are distinct, a name stands at one place -/
theorem place_unique {fields : List (String × Field)} (hnames : (fields.map Prod.fst).Nodup) {i j : ℕ}
    {a b : String × Field} (ha : fields[i]? = some a) (hb : fields[j]? = some b) (hname : a.1 = b.1) : i = j := by
  have hi : (fields.map Prod.fst)[i]? = some a.1 := by rw [List.getElem?_map, ha, Option.map_some]
  have hj : (fields.map Prod.fst)[j]? = some a.1 := by rw [List.getElem?_map, hb, Option.map_some, hname]
  exact (List.getElem?_inj (List.getElem?_eq_some_iff.1 hi).1 hnames).1 (hi.trans hj.symm)

/-- **The names on the way to a field tell the steps to it.** -/
theorem trail_injective {left right : List Step} {field a b : Field} (hplain : field.NamesPlain)
    (hleft : field.at? left = some a) (hright : field.at? right = some b) (h : field.trail left = field.trail right) :
    left = right := by
  induction left generalizing field right with
  | nil =>
    cases right with
    | nil => rfl
    | cons step right =>
      rcases at?_cons hright with ⟨_, _, _, _, -, -, -, -, htrail⟩ | ⟨_, _, -, -, -, htrail⟩ <;>
        simp [htrail, trail_nil] at h
  | cons step left ih =>
    cases right with
    | nil =>
      rcases at?_cons hleft with ⟨_, _, _, _, -, -, -, -, htrail⟩ | ⟨_, _, -, -, -, htrail⟩ <;>
        simp [htrail, trail_nil] at h
    | cons other right =>
      rcases at?_cons hleft with ⟨modifiers, fields, i, named, rfl, rfl, hnamed, hrest, htrail⟩ |
        ⟨modifiers, element, rfl, rfl, hrest, htrail⟩
      · rcases at?_cons hright with ⟨_, _, j, same, hsame, rfl, hother, hlast, hnames⟩ | ⟨_, _, hsame, -, -, -⟩
        · cases hsame
          rw [htrail, hnames, List.cons.injEq] at h
          obtain rfl := place_unique hplain.1 hnamed hother h.1
          obtain rfl : named = same := Option.some.inj (hnamed.symm.trans hother)
          have hfield := (plainFields_iff fields).1 hplain.2 named (List.mem_of_getElem? hnamed)
          rw [ih hfield.2 hrest hlast h.2]
        · cases hsame
      · rcases at?_cons hright with ⟨_, _, _, _, hsame, -⟩ | ⟨_, _, hsame, rfl, hlast, hnames⟩
        · cases hsame
        · cases hsame
          rw [htrail, hnames, List.cons.injEq] at h
          have helement : element.NamesPlain := hplain
          rw [ih helement hrest hlast h.2]

end Field

/-! ## Entities -/

namespace Entity

variable {entity : Entity}

/-- the path of a field is the name of a field at top level, and marked names behind it -/
theorem toList_pathTo (h : entity.root.NamesPlain) {steps : List Step} {field : Field} (hvisits : entity.Visits steps field) :
    ∃ first names, entity.root.trail steps = first :: names ∧ PlainName first ∧ (∀ name ∈ names, OnTrail name) ∧
      (entity.pathTo steps).toList = first.toList ++ names.flatMap marked := by
  obtain ⟨hsteps, hfield⟩ := hvisits
  obtain ⟨step, rest, rfl⟩ := List.exists_cons_of_ne_nil hsteps
  rcases Field.at?_cons hfield with ⟨modifiers, fields, index, named, hroot, rfl, hnamed, hrest, htrail⟩ |
    ⟨_, _, hroot, -⟩
  · rw [hroot] at h
    have hplain := (Field.plainFields_iff fields).1 h.2 named (List.mem_of_getElem? hnamed)
    have hfirst : joinPath "" named.1 = named.1 := rfl
    refine ⟨named.1, named.2.trail rest, htrail, hplain.1, Field.onTrail_of_mem hplain.2 hrest, ?_⟩
    rw [pathTo, htrail, List.foldl_cons, hfirst, toList_foldl_joinPath hplain.1.1]
  · cases hroot

theorem pathTo_injective (h : entity.root.NamesPlain) {left right : List Step} {a b : Field}
    (hleft : entity.Visits left a) (hright : entity.Visits right b) (hpath : entity.pathTo left = entity.pathTo right) :
    left = right := by
  obtain ⟨first, names, hnames, hfirst, htrail, htext⟩ := toList_pathTo h hleft
  obtain ⟨other, others, hothers, hother, htrail', htext'⟩ := toList_pathTo h hright
  rw [hpath, htext'] at htext
  obtain ⟨hname, hrest⟩ := Json.cut_of_class hother.unmarked hfirst.unmarked (flatMap_marked_first htrail')
    (flatMap_marked_first htrail) htext
  obtain rfl := String.toList_injective hname
  obtain rfl := flatMap_marked_injective htrail' htrail hrest
  exact Field.trail_injective h hleft.2 hright.2 (hnames.trans hothers.symm)

theorem visits_of_mem_diagnostics {item : Diagnostic} (h : item ∈ entity.translate.diagnostics) :
    ∃ steps field, entity.Visits steps field ∧ entity.pathTo steps = item.path ∧ field.Reports item.finding := by
  have hfields : entity.translate.diagnostics
      = (Field.fieldOrigins 0 entity.fields).map (Field.located entity.name "" entity.root) :=
    Field.diagnoseFields_eq entity.name {} [] entity.fields ""
  have hitem : item ∈ (Field.fieldOrigins 0 entity.fields).map (Field.located entity.name "" entity.root) := hfields ▸ h
  obtain ⟨origin, horigin, rfl⟩ := List.mem_map.1 hitem
  obtain ⟨index, named, hnamed, inner, hinner, rfl⟩ := Field.mem_fieldOrigins.1 horigin
  obtain ⟨part, hpart, hreports⟩ := (Field.mem_origins named.2 inner).1 hinner
  refine ⟨.field index :: inner.steps, part, ⟨List.cons_ne_nil _ _, ?_⟩, ?_, hreports⟩
  · exact Option.bind_eq_some_iff.2 ⟨named, hnamed, hpart⟩
  · rw [Field.located, Origin.under, Nat.zero_add]
    rfl

/-- **Paths identify fields.** Where at every object that is reached the names are distinct, not empty, and have neither a
dot nor an opening bracket in them, different fields and elements, at any depth, have different paths. So each finding is
about the one field or element of its path. -/
theorem paths_identify (entity : Entity) (h : entity.root.NamesPlain) :
    (∀ left right a b, entity.Visits left a → entity.Visits right b → left ≠ right →
      entity.pathTo left ≠ entity.pathTo right) ∧
    ∀ item ∈ entity.translate.diagnostics, ∃ steps field, entity.Visits steps field ∧
      entity.pathTo steps = item.path ∧ field.Reports item.finding ∧
        ∀ other part, entity.Visits other part → entity.pathTo other = item.path → other = steps ∧ part = field := by
  constructor
  · intro left right a b hleft hright hne hpath
    exact hne (pathTo_injective h hleft hright hpath)
  · intro item hitem
    obtain ⟨steps, field, hvisits, hpath, hreports⟩ := visits_of_mem_diagnostics hitem
    refine ⟨steps, field, hvisits, hpath, hreports, ?_⟩
    intro other part hother hsame
    obtain rfl := pathTo_injective h hother hvisits (hsame.trans hpath.symm)
    exact ⟨rfl, Option.some.inj (hother.2.symm.trans hvisits.2)⟩

/-- arrays of arrays of objects, and a field at top level with the name of one inside -/
def boards : Entity :=
  ⟨"boards", [("cells", .array {} (.array {} (.object {} [("kind", .leaf {} (.unmodeled "set")), ("cells", .leaf {} .date)]))),
    ("kind", .leaf {} (.unmodeled "map"))]⟩

/-- the kind of a cell is told from the kind of the board -/
theorem boards_identified :
    boards.root.NamesPlain ∧ boards.pathTo [.field 0, .element, .element, .field 0] ≠ boards.pathTo [.field 1] ∧
      ∃ steps field, boards.Visits steps field ∧ boards.pathTo steps = "cells[][].kind" ∧
        ∀ other part, boards.Visits other part → boards.pathTo other = "cells[][].kind" → other = steps ∧ part = field := by
  have hplain : boards.root.NamesPlain := by
    simp only [boards, root, Field.NamesPlain, Field.PlainFields, and_true]
    decide
  obtain ⟨hdiffer, hfindings⟩ := paths_identify boards hplain
  refine ⟨hplain, ?_, ?_⟩
  · refine hdiffer _ _ (.leaf {} (.unmodeled "set")) (.leaf {} (.unmodeled "map")) ⟨by simp, rfl⟩ ⟨by simp, rfl⟩ ?_
    simp
  · obtain ⟨steps, field, hvisits, hpath, -, hunique⟩ :=
      hfindings ⟨"boards", "cells[][].kind", .unhandledType "set"⟩ (by decide)
    exact ⟨steps, field, hvisits, hpath, hunique⟩

/-- a name with a dot in it is not told from a way through an object -/
example : pathTo ⟨"dots", [("a.b", .leaf {} .date), ("a", .object {} [("b", .leaf {} .date)])]⟩ [.field 0]
    = pathTo ⟨"dots", [("a.b", .leaf {} .date), ("a", .object {} [("b", .leaf {} .date)])]⟩ [.field 1, .field 0] := by
  decide

end Entity

end DocumentModels
