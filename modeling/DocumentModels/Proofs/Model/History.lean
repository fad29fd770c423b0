/-
Histories of a model: the answers that a run of calls gets, and the documents that it leaves.

An insertion is written here as a program that changes the model step by step. It can stop at two points: where the
document breaks a rule, and where its key is taken.
- `insertInPlace_run`: the program does what `insert` does, and where it stops nothing has been changed.
- `call_cases`, `calls_snd`: a call is rejected and leaves the model as it was, or the model grows.
- `getElem?_answers`: each answer of a run is given in the model that the calls before it leave.
- `calls_accepted`: without its rejected calls, a run gives the other answers and leaves the same model.
- `documents_calls`: a run adds the values that it returned to the documents, in order, and alters none.
- `storedMembers_eq`, `stored_of_call`: what is stored for a document, and returned, member by member.
- `rejected_without_trace`: the three together, for every run of a registered model.
-/
import Mathlib
import DocumentModels.Proofs.Model.Keys

namespace DocumentModels

namespace Collection

/-! ## One call, in place -/

/-- validate and store a document, changing the model step by step -/
def insertInPlace (now : String) (document : Json) : EStateM (List Violation) Collection Json := do
  let fields ← ofExcept ((← get).validate document)
  let id := (← get).idOf document
  if (← get).hasId id then throw [⟨idKey, .duplicateKey id⟩]
  modify fun model => { model with nextId := bumped model.nextId id }
  let stored := (← get).storedForm now document id fields
  modify fun model => { model with positions := model.positions.map (note model.documents.size stored) }
  modify fun model => { model with documents := model.documents.push (.object stored) }
  return .object stored

/-- **The program does what `insert` does.** Where it stops, the model is as it was. -/
theorem insertInPlace_run (model : Collection) (input : Input) :
    (insertInPlace input.now input.document).run model =
      match model.insert input.now input.document with
      | .ok (next, stored) => .ok stored next
      | .error violations => .error violations model := by
  cases hvalid : model.validate input.document with
  | error violations =>
    rw [insert_of_invalid hvalid]
    simp only [insertInPlace, EStateM.run_bind, EStateM.run_get, hvalid, ofExcept]
    rfl
  | ok fields =>
    cases hnew : model.hasId (model.idOf input.document) with
    | true =>
      rw [insert_of_taken hvalid hnew]
      simp only [insertInPlace, EStateM.run_bind, EStateM.run_get, hvalid, ofExcept, EStateM.run_pure, hnew, if_true]
      rfl
    | false =>
      have haccepts : model.Accepts input fields := ⟨hvalid, hnew⟩
      rw [insert_of_accepts haccepts]
      simp only [insertInPlace, EStateM.run_bind, EStateM.run_get, hvalid, ofExcept, EStateM.run_pure, hnew]
      rfl

/-- what a call returns: the stored document, or the rules that are broken -/
abbrev Answer := Except (List Violation) Json

/-- the answer of a call, and the model that it leaves -/
def call (model : Collection) (input : Input) : Answer × Collection :=
  match (insertInPlace input.now input.document).run model with
  | .ok stored next => (.ok stored, next)
  | .error violations next => (.error violations, next)

theorem call_of_accepts {model : Collection} {input : Input} {fields : Members} (h : model.Accepts input fields) :
    model.call input = (.ok (.object (model.storedMembers input fields)), model.grown input fields) := by
  rw [call, insertInPlace_run, insert_of_accepts h]

theorem call_of_error {model : Collection} {input : Input} {violations : List Violation}
    (h : model.insert input.now input.document = .error violations) : model.call input = (.error violations, model) := by
  rw [call, insertInPlace_run, h]

theorem call_cases (model : Collection) (input : Input) :
    (∃ violations, model.call input = (.error violations, model)) ∨
      ∃ fields, model.Accepts input fields ∧
        model.call input = (.ok (.object (model.storedMembers input fields)), model.grown input fields) := by
  cases hinsert : model.insert input.now input.document with
  | error violations => exact Or.inl ⟨violations, call_of_error hinsert⟩
  | ok result =>
    obtain ⟨next, stored⟩ := result
    obtain ⟨fields, haccepts, -⟩ := insert_ok.1 hinsert
    exact Or.inr ⟨fields, haccepts, call_of_accepts haccepts⟩

theorem call_snd (model : Collection) (input : Input) : (model.call input).2 = model.tryInsert input := by
  cases hinsert : model.insert input.now input.document with
  | error violations => rw [call_of_error hinsert, tryInsert, hinsert]
  | ok result =>
    obtain ⟨next, stored⟩ := result
    obtain ⟨fields, haccepts, -⟩ := insert_ok.1 hinsert
    rw [call_of_accepts haccepts, tryInsert_of_accepts haccepts]

/-! ## Runs of calls -/

def calls (model : Collection) : List Input → List Answer × Collection
  | [] => ([], model)
  | input :: rest =>
    let (answer, next) := model.call input
    let (answers, final) := next.calls rest
    (answer :: answers, final)

def answers (model : Collection) (inputs : List Input) : List Answer := (model.calls inputs).1

/-- the calls of a run that are accepted -/
def accepted (model : Collection) (inputs : List Input) : List Input :=
  ((inputs.zip (model.answers inputs)).filter fun call => call.2.isOk).map Prod.fst

theorem calls_cons (model : Collection) (input : Input) (rest : List Input) :
    model.calls (input :: rest)
      = ((model.call input).1 :: ((model.call input).2.calls rest).1, ((model.call input).2.calls rest).2) := rfl

theorem answers_cons (model : Collection) (input : Input) (rest : List Input) :
    model.answers (input :: rest) = (model.call input).1 :: (model.call input).2.answers rest := rfl

theorem accepted_cons (model : Collection) (input : Input) (rest : List Input) :
    model.accepted (input :: rest)
      = if (model.call input).1.isOk then input :: (model.call input).2.accepted rest
        else (model.call input).2.accepted rest := by
  rw [accepted, answers_cons, List.zip_cons_cons, List.filter_cons]
  split_ifs
  · rfl
  · rfl

/-- a run of calls leaves the model that the insertions give -/
theorem calls_snd (model : Collection) (inputs : List Input) : (model.calls inputs).2 = model.insertAll inputs := by
  induction inputs generalizing model with
  | nil => rfl
  | cons input rest ih =>
    rw [calls_cons, ih, call_snd]
    rfl

theorem calls_append (model : Collection) (inputs later : List Input) :
    model.calls (inputs ++ later)
      = (model.answers inputs ++ (model.calls inputs).2.answers later, ((model.calls inputs).2.calls later).2) := by
  induction inputs generalizing model with
  | nil => rfl
  | cons input rest ih =>
    rw [List.cons_append, calls_cons, ih, answers_cons, calls_cons, List.cons_append]

theorem getElem?_answers {model : Collection} {inputs : List Input} {i : Nat} {input : Input}
    (h : inputs[i]? = some input) :
    (model.answers inputs)[i]? = some ((model.calls (inputs.take i)).2.call input).1 := by
  induction inputs generalizing model i with
  | nil => cases h
  | cons first rest ih =>
    rw [answers_cons]
    cases i with
    | zero =>
      rw [List.getElem?_cons_zero, Option.some.injEq] at h
      rw [List.getElem?_cons_zero, h]
      rfl
    | succ i =>
      rw [List.getElem?_cons_succ] at h ⊢
      rw [ih h, List.take_succ_cons, calls_cons]

/-- **Rejected calls can be left out.** The other calls get the same answers, and the same model is left. -/
theorem calls_accepted (model : Collection) (inputs : List Input) :
    model.calls (model.accepted inputs) = ((model.answers inputs).filter (·.isOk), (model.calls inputs).2) := by
  induction inputs generalizing model with
  | nil => rfl
  | cons input rest ih =>
    rw [accepted_cons, answers_cons, calls_cons]
    rcases model.call_cases input with ⟨violations, hcall⟩ | ⟨fields, -, hcall⟩
    · rw [hcall]
      exact ih model
    · have hkept := ih (model.grown input fields)
      have hstored : (Except.ok (.object (model.storedMembers input fields)) : Answer).isOk = true := rfl
      rw [hcall, if_pos hstored, List.filter_cons_of_pos hstored, calls_cons, hcall, hkept]

/-! ## The documents of a run -/

/-- **A run adds what it returns.** The documents that were there stay as they are. -/
theorem documents_calls (model : Collection) (inputs : List Input) :
    (model.calls inputs).2.documents.toList
      = model.documents.toList ++ (model.answers inputs).filterMap Except.toOption := by
  induction inputs generalizing model with
  | nil => exact (List.append_nil _).symm
  | cons input rest ih =>
    rw [calls_cons, answers_cons, ih]
    rcases model.call_cases input with ⟨violations, hcall⟩ | ⟨fields, -, hcall⟩
    · rw [hcall]
      rfl
    · rw [hcall]
      show (model.documents.push _).toList ++ _ = _
      rw [Array.toList_push, List.append_assoc]
      rfl

/-! ## What is stored for a document -/

/-- the stamps that a document is stored with: none, or those that its fields lack -/
def stampsFor (model : Collection) (input : Input) (fields : Members) : Members :=
  if model.timestamps then
    (stampKeys.filter fun key => (fields.lookup key).isNone).map fun key =>
      (key, (carried? input.document key).getD (.string input.now))
  else []

/-- stamps with distinct names go to the end, each where its name is missing -/
theorem foldl_stamp (now : String) (document : Json) {keys : List String} (hkeys : keys.Nodup) (stored : Members) :
    keys.foldl (stamp now document) stored
      = stored ++ (keys.filter fun key => (stored.lookup key).isNone).map fun key =>
          (key, (carried? document key).getD (.string now)) := by
  induction keys generalizing stored with
  | nil => exact (List.append_nil _).symm
  | cons key keys ih =>
    obtain ⟨hkey, hkeys⟩ := List.nodup_cons.1 hkeys
    rw [List.foldl_cons, ih hkeys, List.filter_cons]
    cases hfind : stored.lookup key with
    | some value =>
      have hstamp : stamp now document stored key = stored := by rw [stamp, if_pos (by rw [hfind]; rfl)]
      rw [hstamp]
      rfl
    | none =>
      have hstamp : stamp now document stored key = stored ++ [(key, (carried? document key).getD (.string now))] := by
        rw [stamp, if_neg (by rw [hfind]; decide)]
      -- the new stamp hides none of the names that are still to come
      have hlater : ∀ other ∈ keys, (stamp now document stored key).lookup other = stored.lookup other := by
        intro other hother
        have hne : other ≠ key := fun h => hkey (h ▸ hother)
        rw [hstamp, List.lookup_append, List.lookup_cons, beq_false_of_ne hne, List.lookup_nil, Option.or_none]
      have hkept : (keys.filter fun other => ((stamp now document stored key).lookup other).isNone)
          = keys.filter fun other => (stored.lookup other).isNone :=
        List.filter_congr fun other hother => by rw [hlater other hother]
      rw [hkept, hstamp, List.append_assoc]
      rfl

theorem ne_idKey_of_stamp {name : String} (h : name ∈ stampKeys) : name ≠ idKey := by
  intro hkey
  subst hkey
  exact absurd h (by decide)

/-- **What is stored for a document:** its key, overlaid with its fields, and its stamps. -/
theorem storedMembers_eq (model : Collection) (input : Input) {fields : Members} (hnames : fields.names.Nodup) :
    model.storedMembers input fields
      = Members.overlay [(idKey, model.idOf input.document)] fields ++ model.stampsFor input fields := by
  have hlookup : ∀ key ∈ stampKeys,
      (Members.overlay [(idKey, model.idOf input.document)] fields).lookup key = fields.lookup key := by
    intro key hkey
    rw [Members.lookup_overlay, lookup_reverse hnames, List.lookup_cons, beq_false_of_ne (ne_idKey_of_stamp hkey),
      List.lookup_nil, Option.or_none]
  unfold storedMembers storedForm stampsFor
  split_ifs
  · rw [foldl_stamp _ _ (by decide), List.filter_congr fun key hkey => by rw [hlookup key hkey]]
  · rw [List.append_nil]

theorem stored_of_call {model : Collection} {input : Input} {stored : Json} (h : (model.call input).1 = .ok stored) :
    ∃ fields, model.validate input.document = .ok fields ∧
      stored = .object (Members.overlay [(idKey, model.idOf input.document)] fields ++ model.stampsFor input fields) := by
  rcases model.call_cases input with ⟨violations, hcall⟩ | ⟨fields, haccepts, hcall⟩
  · rw [hcall] at h
    cases h
  · rw [hcall, Except.ok.injEq] at h
    exact ⟨fields, haccepts.valid, by rw [← h, storedMembers_eq _ _ (nodup_of_validate haccepts.valid)]⟩

/-- **Rejected calls leave no trace, and documents are only added.** In every run of a registered model:
- without the rejected calls, the other answers and the model that is left are the same, so that nothing asked of it
  later tells the two runs apart;
- the documents are the values that the accepted calls returned, in order, and later calls put theirs after them;
- the value that a call returned is the normalized document laid over its key, with the stamps that it lacks. -/
theorem rejected_without_trace {registry registry' : Registry} {entity : String} {schema : Schema} {indexes : List Index}
    {model : Collection} (h : registry.register entity schema indexes = .ok (registry', model)) (inputs : List Input) :
    model.calls (model.accepted inputs) = ((model.answers inputs).filter (·.isOk), (model.calls inputs).2) ∧
    (model.calls inputs).2.documents.toList = (model.answers inputs).filterMap Except.toOption ∧
    (∀ later, (model.calls inputs).2.documents.toList <+: (model.calls (inputs ++ later)).2.documents.toList) ∧
    ∀ (i : Nat) input stored, inputs[i]? = some input → (model.answers inputs)[i]? = some (.ok stored) →
      ∃ fields, model.validate input.document = .ok fields ∧
        stored = .object (Members.overlay [(idKey, (model.calls (inputs.take i)).2.idOf input.document)] fields
          ++ model.stampsFor input fields) := by
  obtain ⟨patterns, -, -, rfl⟩ := register_ok h
  refine ⟨calls_accepted _ inputs, ?_, ?_, ?_⟩
  · rw [documents_calls]
    rfl
  · intro later
    rw [calls_append]
    show _ <+: ((calls _ inputs).2.calls later).2.documents.toList
    rw [documents_calls _ later]
    exact List.prefix_append _ _
  · intro i input stored hinput hstored
    rw [getElem?_answers hinput, Option.some.injEq] at hstored
    obtain ⟨fields, hvalid, rfl⟩ := stored_of_call hstored
    have hconfig := insertAll_config (fresh (Emit.modelName entity) entity schema indexes registry.timestamps patterns)
      (inputs.take i)
    rw [← calls_snd] at hconfig
    refine ⟨fields, hconfig.validate_eq _ ▸ hvalid, ?_⟩
    rw [stampsFor, stampsFor, hconfig.2.2.1]

/-! ## A run with two rejected calls -/

def ticketSchema : Schema := ⟨"tickets", [("title", .leaf { required := true } .string)]⟩

def ticketIndexes : List Index := [⟨"title", .ascending⟩]

def ticketModel : Collection := fresh (Emit.modelName "tickets") "tickets" ticketSchema ticketIndexes true []

def firstTicket : Input := ⟨"monday", .object [("title", .string "leak")], by simp [Json.Distinct, Json.DistinctMembers]⟩

def untitledTicket : Input :=
  ⟨"tuesday", .object [("_id", .ofNat 7)], by simp [Json.Distinct, Json.DistinctMembers, Json.ofNat]⟩

/-- a document that carries the key of the first one -/
def secondTicket : Input :=
  ⟨"tuesday", .object [("_id", .ofNat 1), ("title", .string "noise")],
    by simp [Json.Distinct, Json.DistinctMembers, Json.ofNat]⟩

/-- a document that carries a stamp -/
def thirdTicket : Input :=
  ⟨"friday", .object [("createdAt", .string "sunday"), ("title", .string "smell")],
    by simp [Json.Distinct, Json.DistinctMembers]⟩

def ticketInputs : List Input := [firstTicket, untitledTicket, secondTicket, thirdTicket]

/-- the two rejected calls leave no trace -/
theorem tickets_without_trace :
    Registry.register {} "tickets" ticketSchema ticketIndexes = .ok ({ models := [ticketModel] }, ticketModel) ∧
      ticketModel.accepted ticketInputs = [firstTicket, thirdTicket] ∧
      ticketModel.calls [firstTicket, thirdTicket]
        = ((ticketModel.answers ticketInputs).filter (·.isOk), (ticketModel.calls ticketInputs).2) := by
  have hregister : Registry.register {} "tickets" ticketSchema ticketIndexes
      = .ok ({ models := [ticketModel] }, ticketModel) := rfl
  have haccepted : ticketModel.accepted ticketInputs = [firstTicket, thirdTicket] := by with_unfolding_all rfl
  obtain ⟨hrun, -⟩ := rejected_without_trace hregister ticketInputs
  rw [haccepted] at hrun
  exact ⟨hregister, haccepted, hrun⟩

end Collection

end DocumentModels
