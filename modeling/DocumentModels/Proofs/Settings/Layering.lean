/-
What merged layers hold of one key in one section.

A layer is merged entry by entry, and so are the tables in it. For a single key most of this does not matter: what counts
is the order in which the layers mention it or its section.
- `lookup_overEntries`: a name has what its values leave when they are laid over one another.
- `mentions`: how a layer speaks of a key: its section as something other than a table, its section as a table, or itself.
- `held_eq_foldl`: what is held of the key is a fold over the mentions of all layers.
- `foldl_iff_setLast`: a property that each step sets, keeps or ends holds because of the last step that sets it.
- `held_iff_setLast`: so what is held goes back to one layer, read on its own, and the later ones keep it.
- `held_whole_iff`, `held_value_iff`, `held_some_iff`: this for a section that is no table, for a value, and for any value.
- `held_follows_told`: tables that say nothing of the key matter only where they take the place of a whole section.
-/
import Mathlib.Tactic
import DocumentModels.Proofs.Named
import DocumentModels.Settings.Layer

namespace DocumentModels.Settings

open Toml

/-! ## Values laid over one another -/

/-- whether the value is merged into what is there, entry by entry -/
def isTable : Value → Bool
  | .table _ => true
  | _ => false

/-- the values that entries give to a name, without case, in their order -/
def valuesAt (name : String) (entries : List (String × Value)) : List Value :=
  entries.filterMap fun entry => if Text.lower entry.1 = name then some entry.2 else none

/-- a value laid over what is there, if anything -/
def lay (below : Option Value) (value : Value) : Option Value := some (overValue value (below.getD (.table [])))

theorem valuesAt_append (name : String) (first second : List (String × Value)) :
    valuesAt name (first ++ second) = valuesAt name first ++ valuesAt name second :=
  List.filterMap_append

@[simp] theorem valuesAt_nil (name : String) : valuesAt name [] = [] := rfl

theorem valuesAt_cons (name key : String) (value : Value) (rest : List (String × Value)) :
    valuesAt name ((key, value) :: rest)
      = if Text.lower key = name then value :: valuesAt name rest else valuesAt name rest := by
  rw [valuesAt, List.filterMap_cons]
  by_cases hkey : Text.lower key = name
  · simp [hkey, valuesAt]
  · simp [hkey, valuesAt]

@[simp] theorem overValue_empty (below : Value) : overValue (.table []) below = below := by rw [overValue]

theorem overValue_of_not_table {value : Value} (h : isTable value = false) (below : Value) :
    overValue value below = value := by
  cases value with
  | table entries => cases h
  | _ => rw [overValue] <;> simp

theorem overValue_cons (entry : String × Value) (entries : List (String × Value)) (below : Value) :
    overValue (.table (entry :: entries)) below = .table (overEntries (entry :: entries) (tableEntries below)) := by
  rw [overValue]
  simp

/-- a value that is no table is there because it was laid, or because it was there and nothing was laid -/
theorem lay_eq_some_iff {value : Value} (hvalue : isTable value = false) (below : Option Value) (laid : Value) :
    lay below laid = some value ↔ laid = value ∨ below = some value ∧ laid = .table [] := by
  have hne : ∀ entries, Value.table entries ≠ value := by
    rintro entries rfl
    cases hvalue
  rw [lay, Option.some.injEq]
  cases laid with
  | table entries =>
    cases entries with
    | nil => cases below <;> simp [hne]
    | cons entry rest => simp [overValue_cons, hne]
  | _ =>
    rw [overValue_of_not_table rfl]
    simp

/-- **A name has what its values leave,** one laid over the other. -/
theorem lookup_overEntries (name : String) (entries : List (String × Value)) (below : Layer) :
    (overEntries entries below).lookup name = (valuesAt name entries).foldl lay (below.lookup name) := by
  induction entries generalizing below with
  | nil => rw [overEntries, valuesAt_nil, List.foldl_nil]
  | cons entry rest ih =>
    obtain ⟨key, value⟩ := entry
    rw [overEntries, ih, lookup_upsert, valuesAt_cons]
    by_cases hkey : Text.lower key = name
    · subst hkey
      simp [lay]
    · simp [hkey, Ne.symm hkey]

/-! ## Mentions -/

/-- what is held of a key in a section -/
inductive Held where
  /-- the section is something other than a table -/
  | whole (value : Value)
  /-- the section is a table or is not there, and this is under the key -/
  | part (value : Option Value)

/-- how a layer speaks of a key in a section -/
inductive Mention where
  /-- it gives the section as something other than a table -/
  | whole (value : Value)
  /-- it has a table of the section -/
  | opened
  /-- it gives the key a value -/
  | value (value : Value)

/-- what is held of a key in a section that is this -/
def heldIn (key : String) : Option Value → Held
  | none => .part none
  | some (.table entries) => .part (entries.lookup key)
  | some value => .whole value

def Held.after : Held → Mention → Held
  | _, .whole value => .whole value
  | .whole _, .opened => .part none
  | .part value, .opened => .part value
  | .whole _, .value value => .part (lay none value)
  | .part below, .value value => .part (lay below value)

/-- how a value of the section speaks of a key in it; a table without entries leaves everything as it is -/
def mentionsIn (key : String) : Value → List Mention
  | .table [] => []
  | .table entries => .opened :: (valuesAt key entries).map .value
  | value => [.whole value]

/-- how a layer speaks of a key in a section, in order -/
def mentions (name key : String) (layer : Layer) : List Mention :=
  (valuesAt name (layer.map unfoldName)).flatMap (mentionsIn key)

/-- what merged layers hold of a key in a section -/
def held (name key : String) (layers : List Layer) : Held := heldIn key ((mergeLayers layers).lookup name)

theorem foldl_after_values (values : List Value) (below : Option Value) :
    (values.map Mention.value).foldl Held.after (.part below) = .part (values.foldl lay below) := by
  induction values generalizing below with
  | nil => rfl
  | cons value rest ih => rw [List.map_cons, List.foldl_cons, Held.after, ih, List.foldl_cons]

/-- one value of the section -/
theorem heldIn_lay (key : String) (below : Option Value) (value : Value) :
    heldIn key (lay below value) = (mentionsIn key value).foldl Held.after (heldIn key below) := by
  have hwhole : isTable value = false → heldIn key (lay below value) = .whole value := by
    intro h
    rw [lay, overValue_of_not_table h]
    cases value <;> first | rfl | cases h
  cases value with
  | table entries =>
    cases entries with
    | nil => cases below <;> simp [lay, mentionsIn, heldIn]
    | cons entry rest =>
      have hopened : (heldIn key below).after .opened = .part ((tableEntries (below.getD (.table []))).lookup key) := by
        cases below with
        | none => rfl
        | some value => cases value <;> rfl
      rw [mentionsIn, List.foldl_cons, hopened, foldl_after_values, lay, overValue_cons, heldIn, lookup_overEntries]
      simp
  | _ => exact hwhole rfl

/-- values of the section, one after the other -/
theorem heldIn_foldl_lay (key : String) (below : Option Value) (values : List Value) :
    heldIn key (values.foldl lay below) = (values.flatMap (mentionsIn key)).foldl Held.after (heldIn key below) := by
  induction values generalizing below with
  | nil => rfl
  | cons value rest ih => rw [List.foldl_cons, ih, heldIn_lay, List.flatMap_cons, List.foldl_append]

/-- one layer -/
theorem heldIn_mergeLayer (name key : String) (below layer : Layer) :
    heldIn key ((mergeLayer below layer).lookup name)
      = (mentions name key layer).foldl Held.after (heldIn key (below.lookup name)) := by
  rw [mergeLayer, lookup_overEntries, heldIn_foldl_lay, mentions]

theorem held_concat (name key : String) (layers : List Layer) (layer : Layer) :
    held name key (layers ++ [layer]) = (mentions name key layer).foldl Held.after (held name key layers) := by
  rw [held, mergeLayers, List.foldl_append, List.foldl_cons, List.foldl_nil, heldIn_mergeLayer, held, mergeLayers]

@[simp] theorem held_nil (name key : String) : held name key [] = .part none := rfl

/-- **What is held of a key is a fold over its mentions** in all layers. -/
theorem held_append (name key : String) (first second : List Layer) :
    held name key (first ++ second)
      = (second.flatMap (mentions name key)).foldl Held.after (held name key first) := by
  induction second using List.reverseRecOn with
  | nil => simp
  | append_singleton rest layer ih =>
    rw [← List.append_assoc, held_concat, ih, List.flatMap_append, List.foldl_append, List.flatMap_singleton]

theorem held_eq_foldl (name key : String) (layers : List Layer) :
    held name key layers = (layers.flatMap (mentions name key)).foldl Held.after (.part none) :=
  held_append name key [] layers

theorem held_singleton (name key : String) (layer : Layer) :
    held name key [layer] = (mentions name key layer).foldl Held.after (.part none) :=
  held_concat name key [] layer

/-! ## The last mention that counts -/

/-- one event sets something and all later ones keep it -/
def SetLast {ε : Type*} (sets keeps : ε → Prop) (events : List ε) : Prop :=
  ∃ before event after, events = before ++ event :: after ∧ sets event ∧ ∀ later ∈ after, keeps later

theorem setLast_cons {ε : Type*} {sets keeps : ε → Prop} (event : ε) (rest : List ε) :
    SetLast sets keeps (event :: rest) ↔ SetLast sets keeps rest ∨ sets event ∧ ∀ later ∈ rest, keeps later := by
  constructor
  · rintro ⟨before, set, after, hsplit, hset, hkeeps⟩
    cases before with
    | nil =>
      obtain ⟨rfl, rfl⟩ := List.cons.inj hsplit
      exact Or.inr ⟨hset, hkeeps⟩
    | cons first before => exact Or.inl ⟨before, set, after, (List.cons.inj hsplit).2, hset, hkeeps⟩
  · rintro (⟨before, set, after, rfl, hset, hkeeps⟩ | ⟨hset, hkeeps⟩)
    · exact ⟨event :: before, set, after, rfl, hset, hkeeps⟩
    · exact ⟨[], event, rest, rfl, hset, hkeeps⟩

theorem not_setLast_iff {ε : Type*} {sets keeps : ε → Prop} {events : List ε} :
    ¬SetLast sets keeps events ↔
      ∀ before event after, events = before ++ event :: after → sets event → ∃ later ∈ after, ¬keeps later := by
  unfold SetLast
  push Not
  rfl

theorem setLast_exists_iff {ε β : Type*} {sets : β → ε → Prop} {keeps : ε → Prop} {events : List ε} :
    SetLast (fun event => ∃ b, sets b event) keeps events ↔ ∃ b, SetLast (sets b) keeps events := by
  constructor
  · rintro ⟨before, event, after, hsplit, ⟨b, hset⟩, hkeeps⟩
    exact ⟨b, before, event, after, hsplit, hset, hkeeps⟩
  · rintro ⟨b, before, event, after, hsplit, hset, hkeeps⟩
    exact ⟨before, event, after, hsplit, ⟨b, hset⟩, hkeeps⟩

/-- **What holds in the end goes back to one event,** if each event sets it, keeps it or ends it. -/
theorem foldl_iff_setLast {σ ε : Type*} {step : σ → ε → σ} {P : σ → Prop} {sets keeps : ε → Prop}
    (hstep : ∀ state event, P (step state event) ↔ sets event ∨ P state ∧ keeps event) (state : σ) (events : List ε) :
    P (events.foldl step state) ↔ SetLast sets keeps events ∨ P state ∧ ∀ event ∈ events, keeps event := by
  induction events generalizing state with
  | nil => simp [SetLast]
  | cons event rest ih =>
    rw [List.foldl_cons, ih, hstep, setLast_cons, List.forall_mem_cons]
    tauto

/-- **What is held goes back to one layer, read on its own,** and all later ones keep it. -/
theorem held_iff_setLast {P : Held → Prop} {sets keeps : Mention → Prop}
    (hstep : ∀ state mention, P (state.after mention) ↔ sets mention ∨ P state ∧ keeps mention)
    (hstart : ¬ P (.part none)) (name key : String) (layers : List Layer) :
    P (held name key layers) ↔
      SetLast (fun layer => P (held name key [layer])) (fun layer => ∀ mention ∈ mentions name key layer, keeps mention)
        layers := by
  -- a layer as one step
  have hlayer : ∀ state layer, P ((mentions name key layer).foldl Held.after state) ↔
      P (held name key [layer]) ∨ P state ∧ ∀ mention ∈ mentions name key layer, keeps mention := by
    intro state layer
    rw [held_singleton, foldl_iff_setLast hstep, foldl_iff_setLast hstep (.part none)]
    tauto
  rw [held_eq_foldl, List.foldl_flatMap, foldl_iff_setLast hlayer]
  tauto

/-- **A section that is no table:** some layer gives it on its own, and no later one mentions it. -/
theorem held_whole_iff {name key : String} {layers : List Layer} {value : Value} :
    held name key layers = .whole value ↔
      SetLast (fun layer => held name key [layer] = .whole value) (fun layer => mentions name key layer = []) layers := by
  have hstep : ∀ (state : Held) (mention : Mention),
      state.after mention = .whole value ↔ mention = .whole value ∨ state = .whole value ∧ False := by
    intro state mention
    cases mention <;> cases state <;> simp [Held.after]
  have hkeeps : (fun layer => mentions name key layer = []) = fun layer => ∀ mention ∈ mentions name key layer, False := by
    funext layer
    rw [List.eq_nil_iff_forall_not_mem]
  rw [hkeeps]
  exact held_iff_setLast (P := (· = .whole value)) hstep (by simp) name key layers

/-- what leaves a value under the key as it is: a table of the section, or an empty table under the key -/
def Mention.Leaves : Mention → Prop
  | .opened => True
  | .value (.table []) => True
  | _ => False

theorem Mention.leaves_value (value : Value) : (Mention.value value).Leaves ↔ value = .table [] := by
  cases value with
  | table entries => cases entries <;> simp [Leaves]
  | _ => simp [Leaves]

theorem Held.after_eq_value_iff {value : Value} (hvalue : isTable value = false) (state : Held) (mention : Mention) :
    state.after mention = .part (some value) ↔
      mention = .value value ∨ state = .part (some value) ∧ mention.Leaves := by
  cases mention with
  | whole other => simp [after, Mention.Leaves]
  | opened => cases state <;> simp [after, Mention.Leaves]
  | value other => cases state <;> simp [after, lay_eq_some_iff hvalue, Mention.leaves_value]

/-- **A value under the key:** some layer gives it on its own, and all later ones leave it. -/
theorem held_value_iff {name key : String} {layers : List Layer} {value : Value} (hvalue : isTable value = false) :
    held name key layers = .part (some value) ↔
      SetLast (fun layer => held name key [layer] = .part (some value))
        (fun layer => ∀ mention ∈ mentions name key layer, mention.Leaves) layers :=
  held_iff_setLast (P := (· = .part (some value))) (Held.after_eq_value_iff hvalue) (by simp) name key layers

theorem held_singleton_of_leaves {name key : String} {layer : Layer} {value : Value} (hvalue : isTable value = false)
    (h : ∀ mention ∈ mentions name key layer, mention.Leaves) : held name key [layer] ≠ .part (some value) := by
  intro hheld
  rw [held_singleton] at hheld
  have hlast := (foldl_iff_setLast (P := fun state => state = Held.part (some value))
    (Held.after_eq_value_iff hvalue) _ _).1 hheld
  rcases hlast with ⟨before, mention, after, hsplit, rfl, -⟩ | ⟨hnone, -⟩
  · have hleaves := h _ (hsplit ▸ List.mem_append_right _ List.mem_cons_self)
    rw [(Mention.leaves_value value).1 hleaves] at hvalue
    cases hvalue
  · cases hnone

/-- **Anything under the key:** some layer has something there on its own, and no later one gives the section as something
other than a table. -/
theorem held_some_iff {name key : String} {layers : List Layer} :
    (∃ value, held name key layers = .part (some value)) ↔
      SetLast (fun layer => ∃ value, held name key [layer] = .part (some value))
        (fun layer => ∀ value, Mention.whole value ∉ mentions name key layer) layers := by
  have hstep : ∀ (state : Held) (mention : Mention), (∃ value, state.after mention = .part (some value)) ↔
      (∃ value, mention = .value value) ∨ (∃ value, state = .part (some value)) ∧ ∀ value, .whole value ≠ mention := by
    intro state mention
    cases mention <;> cases state <;> simp [Held.after, lay]
  have hkeeps : (fun layer => ∀ value, Mention.whole value ∉ mentions name key layer)
      = fun layer => ∀ mention ∈ mentions name key layer, ∀ value, .whole value ≠ mention := by
    funext layer
    exact propext ⟨fun h mention hmem value hvalue => h value (hvalue ▸ hmem), fun h value hmem => h _ hmem value rfl⟩
  rw [hkeeps]
  exact held_iff_setLast (P := fun state => ∃ value, state = .part (some value)) hstep (by simp) name key layers

/-! ## What is told of a key -/

/-- a mention that says what the key or its section is -/
def Mention.isTold : Mention → Bool
  | .opened => false
  | _ => true

/-- what a layer says of a key, or of its section as something other than a table -/
def told (name key : String) (layer : Layer) : List Mention := (mentions name key layer).filter Mention.isTold

/-- the same is held, or a table without the key has taken the place of a whole section -/
def Held.Follows (state source : Held) : Prop := state = source ∨ state = .part none ∧ ∃ value, source = .whole value

/-- tables that say nothing of the key are one step of this -/
theorem Held.Follows.after {state source : Held} (h : state.Follows source) (mention : Mention) :
    (state.after mention).Follows (if mention.isTold then source.after mention else source) := by
  cases mention with
  | opened =>
    rcases h with rfl | ⟨rfl, value, rfl⟩
    · cases state with
      | whole value => exact Or.inr ⟨rfl, value, rfl⟩
      | part value => exact Or.inl rfl
    · exact Or.inr ⟨rfl, value, rfl⟩
  | whole value => exact Or.inl rfl
  | value value => rcases h with rfl | ⟨rfl, whole, rfl⟩ <;> exact Or.inl rfl

theorem Held.Follows.foldl {state source : Held} (h : state.Follows source) (events : List Mention) :
    (events.foldl Held.after state).Follows ((events.filter Mention.isTold).foldl Held.after source) := by
  induction events generalizing state source with
  | nil => exact h
  | cons mention rest ih =>
    have hnext := ih (h.after mention)
    cases htold : mention.isTold with
    | false =>
      rw [htold] at hnext
      rw [List.filter_cons_of_neg (by simp [htold])]
      exact hnext
    | true =>
      rw [htold] at hnext
      rw [List.filter_cons_of_pos htold]
      exact hnext

/-- **Tables that say nothing of a key matter only where they take the place of a whole section.** -/
theorem held_follows_told (name key : String) (layers : List Layer) :
    (held name key layers).Follows ((layers.flatMap (told name key)).foldl Held.after (.part none)) := by
  have htold : layers.flatMap (told name key) = (layers.flatMap (mentions name key)).filter Mention.isTold := by
    rw [List.filter_flatMap]
    rfl
  rw [held_eq_foldl, htold]
  exact Held.Follows.foldl (Or.inl rfl) _

theorem getLast?_of_foldl_eq_whole {events : List Mention} {value : Value}
    (h : events.foldl Held.after (.part none) = .whole value) : events.getLast? = some (.whole value) := by
  rcases List.eq_nil_or_concat events with rfl | ⟨rest, last, rfl⟩
  · cases h
  · rw [List.concat_eq_append] at h ⊢
    rw [List.foldl_append, List.foldl_cons, List.foldl_nil] at h
    rw [List.getLast?_concat]
    generalize rest.foldl Held.after (.part none) = state at h
    cases last <;> cases state <;> cases h
    all_goals rfl

end DocumentModels.Settings
