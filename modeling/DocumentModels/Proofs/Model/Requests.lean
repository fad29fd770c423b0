/-
Requests to a registry: registrations, and insertions into registered models, in any order.

Like an insertion, a registration is written here as a program that changes the registry step by step. It can stop at
three points: where the name is taken, at a pattern that does not compile, and at an index on a field that is not declared.
- `registerInPlace_run`: the program does what `register` does, and where it stops nothing has been changed.
- `serve_register`, `serve_insert`: what a request does to the models. An insertion changes the model of its name in its
  place, as long as names are distinct.
- `Consistent`: the invariant. Names are distinct, and each is the one that follows from the entity of its model.
- `serve_consistent`, `after_consistent`: every request keeps it, so it holds after every run of requests.
- `registrations_after`: the models of a run are those of its successful registrations, in order.
- `find?_after`: a model changes only by the insertions into it, whatever is asked in between.
- `requests_keep_registry`: the whole, for every run of requests to an empty registry.
-/
import Mathlib.Tactic
import DocumentModels.Proofs.Model.History
import DocumentModels.Proofs.Model.Registration

namespace DocumentModels

/-- what is registered: an entity with a schema and indexes -/
structure Registration where
  entity : String
  schema : Schema
  indexes : List Index

/-- a request to a registry: a registration, or an insertion into the model of a name -/
inductive Request where
  | register (registration : Registration)
  | insert (name : String) (input : Input)

/-- what a request returns; there may be no model to insert into -/
inductive Reply where
  | registered (outcome : Except ConstructionError Collection)
  | inserted (answer : Option Collection.Answer)

def Registration.modelName (registration : Registration) : String := Emit.modelName registration.entity

/-- what is inserted into the model of a name -/
def Request.inputFor? (name : String) : Request → Option Input
  | .register _ => none
  | .insert target input => if target = name then some input else none

namespace Collection

/-- what a model was registered with -/
def registration (model : Collection) : Registration := ⟨model.entity, model.schema, model.indexes⟩

/-- a run of insertions changes neither the name of a model nor what it was registered with -/
theorem insertAll_registration (start : Collection) (inputs : List Input) :
    (start.insertAll inputs).name = start.name ∧ (start.insertAll inputs).registration = start.registration := by
  apply insertAll_induction (P := fun model => model.name = start.name ∧ model.registration = start.registration)
  · exact ⟨rfl, rfl⟩
  · intro model input fields h _
    exact h

theorem call_registration (model : Collection) (input : Input) :
    (model.call input).2.name = model.name ∧ (model.call input).2.registration = model.registration := by
  rw [call_snd]
  exact insertAll_registration model [input]

end Collection

namespace Registry

open Collection

/-! ## Models by name -/

theorem name_of_find? {registry : Registry} {name : String} {model : Collection} (h : registry.find? name = some model) :
    model.name = name := by
  simpa using List.find?_some h

theorem find?_of_mem {registry : Registry} (hnames : registry.names.Nodup) {model : Collection}
    (h : model ∈ registry.models) : registry.find? model.name = some model := by
  have hsome : (registry.find? model.name).isSome = true := (isSome_find? registry _).2 (List.mem_map_of_mem h)
  obtain ⟨other, hother⟩ := Option.isSome_iff_exists.1 hsome
  rw [hother, List.inj_on_of_nodup_map hnames (List.mem_of_find?_eq_some hother) h (name_of_find? hother)]

theorem find?_replace (registry : Registry) (model : Collection) (name : String) :
    (registry.replace model).find? name
      = (registry.find? name).map fun old => if old.name = model.name then model else old := by
  have hname : ((fun other : Collection => other.name == name) ∘ fun old => if old.name = model.name then model else old)
      = fun other => other.name == name := by
    funext old
    by_cases h : old.name = model.name <;> simp [h]
  rw [replace, find?, List.find?_map, hname, find?]

theorem find?_push {registry : Registry} {name : String} {model : Collection} (h : registry.find? name = some model)
    (other : Collection) : (registry.push other).find? name = some model := by
  rw [find?] at h
  simp [push, find?, List.find?_append, h]

theorem find?_push_self {registry : Registry} {model : Collection} (h : model.name ∉ registry.names) :
    (registry.push model).find? model.name = some model := by
  have hnone : registry.find? model.name = none := by
    rw [← Option.not_isSome_iff_eq_none, isSome_find?]
    exact h
  rw [find?] at hnone
  simp [push, find?, List.find?_append, hnone]

/-! ## One request, in place -/

/-- make a model and register it, changing the registry step by step -/
def registerInPlace (registration : Registration) : EStateM ConstructionError Registry Collection := do
  if ((← get).find? registration.modelName).isSome then throw .nameTaken
  let timestamps := (← get).timestamps
  let model ← ofExcept (make registration.modelName registration.entity registration.schema registration.indexes timestamps)
  modify fun registry => registry.push model
  return model

/-- **The program does what `register` does.** Where it stops, the registry is as it was. -/
theorem registerInPlace_run (registry : Registry) (registration : Registration) :
    (registerInPlace registration).run registry =
      match registry.register registration.entity registration.schema registration.indexes with
      | .ok (next, model) => .ok model next
      | .error error => .error error registry := by
  cases htaken : (registry.find? (Emit.modelName registration.entity)).isSome with
  | true =>
    simp only [registerInPlace, register, Registration.modelName, EStateM.run_bind, EStateM.run_get, htaken, if_true]
    rfl
  | false =>
    cases hmake : make (Emit.modelName registration.entity) registration.entity registration.schema registration.indexes
        registry.timestamps with
    | error error =>
      simp only [registerInPlace, register, Registration.modelName, EStateM.run_bind, EStateM.run_get, htaken,
        Bool.false_eq_true, if_false, hmake, ofExcept]
      rfl
    | ok model =>
      simp only [registerInPlace, register, Registration.modelName, EStateM.run_bind, EStateM.run_get, htaken,
        Bool.false_eq_true, if_false, hmake, ofExcept]
      rfl

/-- the reply to a request, and the registry that it leaves -/
def serve (registry : Registry) : Request → Reply × Registry
  | .register registration =>
    match (registerInPlace registration).run registry with
    | .ok model next => (.registered (.ok model), next)
    | .error error next => (.registered (.error error), next)
  | .insert name input =>
    match registry.find? name with
    | some model => (.inserted (some (model.call input).1), registry.replace (model.call input).2)
    | none => (.inserted none, registry)

def after (start : Registry) (requests : List Request) : Registry :=
  requests.foldl (fun registry request => (registry.serve request).2) start

theorem serve_register_ok {registry : Registry} {registration : Registration} {model : Collection} :
    (registry.serve (.register registration)).1 = .registered (.ok model) ↔
      registry.register registration.entity registration.schema registration.indexes = .ok (registry.push model, model) := by
  rw [serve, registerInPlace_run]
  cases hregister : registry.register registration.entity registration.schema registration.indexes with
  | error error => simp
  | ok result =>
    obtain ⟨next, made⟩ := result
    obtain ⟨-, rfl, -⟩ := register_eq_ok.1 hregister
    simp only [Reply.registered.injEq, Except.ok.injEq, Prod.mk.injEq]
    exact ⟨fun h => ⟨by rw [h], h⟩, fun h => h.2⟩

/-- a registration adds a model at the end, or leaves the registry as it was -/
theorem serve_register (registry : Registry) (registration : Registration) :
    (∃ error, registry.serve (.register registration) = (.registered (.error error), registry)) ∨
      ∃ model, registry.serve (.register registration) = (.registered (.ok model), registry.push model) ∧
        registration.modelName ∉ registry.names ∧ model.name = registration.modelName ∧
          model.registration = registration := by
  simp only [serve, registerInPlace_run]
  cases hregister : registry.register registration.entity registration.schema registration.indexes with
  | error error => exact Or.inl ⟨error, rfl⟩
  | ok result =>
    obtain ⟨next, model⟩ := result
    obtain ⟨hnew, rfl, patterns, -, -, rfl⟩ := register_eq_ok.1 hregister
    exact Or.inr ⟨_, rfl, hnew, rfl, rfl⟩

/-- **An insertion changes the model of its name, in its place,** as long as names are distinct. -/
theorem serve_insert {registry : Registry} (hnames : registry.names.Nodup) (name : String) (input : Input) :
    (registry.serve (.insert name input)).2.models
      = registry.models.map fun model => if model.name = name then (model.call input).2 else model := by
  rw [serve]
  cases hfind : registry.find? name with
  | none =>
    have hother : ∀ model ∈ registry.models, (if model.name = name then (model.call input).2 else model) = model := by
      intro model hmodel
      have hne := List.find?_eq_none.1 hfind model hmodel
      simp_all
    rw [List.map_congr_left hother, List.map_id']
  | some found =>
    show registry.models.map _ = _
    apply List.map_congr_left
    intro model hmodel
    rw [(found.call_registration input).1, name_of_find? hfind]
    split_ifs with hname
    · -- a model of the name is the one that was found
      rw [← hname, find?_of_mem hnames hmodel] at hfind
      rw [Option.some.inj hfind]
    · rfl

/-! ## The invariant -/

/-- names are distinct, and each is the one that follows from the entity of its model -/
structure Consistent (registry : Registry) : Prop where
  distinct : registry.names.Nodup
  named : ∀ model ∈ registry.models, model.name = model.registration.modelName

def success? (registry : Registry) (request : Request) : Option Registration :=
  match request, (registry.serve request).1 with
  | .register registration, .registered (.ok _) => some registration
  | _, _ => none

/-- a request adds the model of a successful registration, and no other -/
theorem registrations_serve {registry : Registry} (h : registry.Consistent) (request : Request) :
    (registry.serve request).2.models.map registration
      = registry.models.map registration ++ (registry.success? request).toList := by
  cases request with
  | register asked =>
    rcases registry.serve_register asked with ⟨error, hserve⟩ | ⟨model, hserve, -, -, hmodel⟩
    · simp [success?, hserve]
    · simp [success?, hserve, push, hmodel]
  | insert name input =>
    have hkept : ∀ model ∈ registry.models,
        (registration ∘ fun model => if model.name = name then (model.call input).2 else model) model
          = model.registration := by
      intro model _
      by_cases hname : model.name = name <;> simp [hname, (model.call_registration input).2]
    have hnone : registry.success? (.insert name input) = none := rfl
    rw [serve_insert h.distinct, List.map_map, List.map_congr_left hkept, hnone, Option.toList_none, List.append_nil]

theorem serve_consistent {registry : Registry} (h : registry.Consistent) (request : Request) :
    (registry.serve request).2.Consistent := by
  cases request with
  | register asked =>
    rcases registry.serve_register asked with ⟨error, hserve⟩ | ⟨model, hserve, hnew, hname, hmodel⟩
    · rw [hserve]
      exact h
    · rw [hserve]
      refine ⟨?_, ?_⟩
      · rw [names_push, ← List.concat_eq_append, hname]
        exact h.distinct.concat hnew
      · intro other hother
        rcases List.mem_append.1 hother with hold | hadded
        · exact h.named other hold
        · rw [List.mem_singleton.1 hadded, hname, hmodel]
  | insert name input =>
    have hmodels := serve_insert h.distinct name input
    refine ⟨?_, ?_⟩
    · have hnames : (registry.serve (.insert name input)).2.names = registry.names := by
        rw [names, hmodels, List.map_map, names]
        apply List.map_congr_left
        intro model _
        by_cases hname : model.name = name <;> simp [hname, (model.call_registration input).1]
      rw [hnames]
      exact h.distinct
    · intro other hother
      rw [hmodels] at hother
      obtain ⟨model, hmodel, rfl⟩ := List.mem_map.1 hother
      have hold := h.named model hmodel
      split_ifs with hname
      · rw [(model.call_registration input).1, (model.call_registration input).2, hold]
      · exact hold

/-- **The invariant holds after every run of requests.** -/
theorem after_consistent {start : Registry} (h : start.Consistent) (requests : List Request) :
    (start.after requests).Consistent := by
  induction requests generalizing start with
  | nil => exact h
  | cons request requests ih => exact ih (serve_consistent h request)

/-! ## Runs of requests -/

/-- the registrations of a run that succeed, in order -/
def successes (registry : Registry) : List Request → List Registration
  | [] => []
  | request :: rest => (registry.success? request).toList ++ (registry.serve request).2.successes rest

/-- **The models of a run are those of its successful registrations, in order,** after those that were there. -/
theorem registrations_after {start : Registry} (h : start.Consistent) (requests : List Request) :
    (start.after requests).models.map registration = start.models.map registration ++ start.successes requests := by
  induction requests generalizing start with
  | nil => simp [after, successes]
  | cons request requests ih =>
    have hrest := ih (serve_consistent h request)
    rw [registrations_serve h, List.append_assoc] at hrest
    exact hrest

theorem names_eq {registry : Registry} (h : registry.Consistent) :
    registry.names = (registry.models.map registration).map Registration.modelName := by
  rw [names, List.map_map]
  exact List.map_congr_left h.named

theorem find?_serve {registry : Registry} {name : String} {model : Collection} (h : registry.find? name = some model)
    (request : Request) :
    (registry.serve request).2.find? name = some (model.insertAll (request.inputFor? name).toList) := by
  cases request with
  | register asked =>
    rcases registry.serve_register asked with ⟨error, hserve⟩ | ⟨other, hserve, -⟩
    · rw [hserve]
      exact h
    · rw [hserve]
      exact find?_push h other
  | insert target input =>
    have hname := name_of_find? h
    rw [serve, Request.inputFor?]
    by_cases htarget : target = name
    · subst htarget
      simp only [h, find?_replace, Option.map_some, (model.call_registration input).1, if_true]
      rw [model.call_snd]
      rfl
    · rw [if_neg htarget]
      cases hfind : registry.find? target with
      | none => exact h
      | some other =>
        have hne : ¬ model.name = (other.call input).2.name := by
          rw [(other.call_registration input).1, name_of_find? hfind, hname]
          exact fun heq => htarget heq.symm
        simp only [find?_replace, h, Option.map_some, if_neg hne]
        rfl

theorem after_append (start : Registry) (requests later : List Request) :
    start.after (requests ++ later) = (start.after requests).after later :=
  List.foldl_append

/-- **A model changes only by the insertions into it,** whatever is asked in between. -/
theorem find?_after {registry : Registry} {name : String} {model : Collection} (h : registry.find? name = some model)
    (requests : List Request) :
    (registry.after requests).find? name = some (model.insertAll (requests.filterMap (Request.inputFor? name))) := by
  induction requests generalizing registry model with
  | nil => exact h
  | cons request requests ih =>
    have hrest := ih (find?_serve h request)
    rw [insertAll, insertAll, ← List.foldl_append] at hrest
    have hinputs : (request :: requests).filterMap (Request.inputFor? name)
        = (request.inputFor? name).toList ++ requests.filterMap (Request.inputFor? name) := by
      rw [List.filterMap_cons]
      cases request.inputFor? name <;> rfl
    rw [hinputs]
    exact hrest

theorem serve_register_iff {registry : Registry} {asked : Registration} :
    (∃ model, (registry.serve (.register asked)).1 = .registered (.ok model)) ↔
      asked.modelName ∉ registry.names ∧ ¬asked.schema.PatternFails ∧
        ∀ index ∈ asked.indexes, asked.schema.hasField index.field = true := by
  rw [Registration.modelName, ← registrable_iff]
  refine ⟨?_, ?_⟩
  · intro ⟨model, hreply⟩
    exact ⟨_, _, serve_register_ok.1 hreply⟩
  · intro ⟨next, model, hregister⟩
    obtain ⟨-, rfl, -⟩ := register_eq_ok.1 hregister
    exact ⟨model, serve_register_ok.2 hregister⟩

/-- the model of a successful registration is found from then on, with the insertions into it -/
theorem find?_of_success {registry : Registry} {asked : Registration} {model : Collection}
    (hreply : (registry.serve (.register asked)).1 = .registered (.ok model)) (later : List Request) :
    ∃ now, (registry.after (.register asked :: later)).find? asked.modelName = some now ∧ now.entity = asked.entity ∧
      now = model.insertAll (later.filterMap (Request.inputFor? asked.modelName)) := by
  rcases registry.serve_register asked with ⟨error, hserve⟩ | ⟨made, hserve, hnew, hname, hmade⟩
  · simp [hserve] at hreply
  · simp only [hserve, Reply.registered.injEq, Except.ok.injEq] at hreply
    subst hreply
    have hfound : (registry.push made).find? asked.modelName = some made := by
      rw [← hname] at hnew ⊢
      exact find?_push_self hnew
    have hentity : (made.insertAll (later.filterMap (Request.inputFor? asked.modelName))).entity = asked.entity := by
      have hsame := (made.insertAll_registration (later.filterMap (Request.inputFor? asked.modelName))).2
      rw [hmade] at hsame
      exact congrArg Registration.entity hsame
    have hafter : registry.after (.register asked :: later) = (registry.push made).after later := by
      rw [after, List.foldl_cons, hserve, after]
    rw [hafter]
    exact ⟨_, find?_after hfound later, hentity, rfl⟩

/-- the registry that a run of requests makes of an empty one -/
def ofRequests (timestamps : Bool) (requests : List Request) : Registry := after { timestamps } requests

/-- **A registry stays in order, whatever is asked of it.** After every run of requests to an empty registry:
- names are distinct, the models are those of the successful registrations in their order, and so are the names;
- the name of each successful registration finds the model that it returned, of its entity, with the later insertions
  into that name and no other change;
- a registration succeeds just when its name is new, each pattern at any depth of its schema compiles, and every index is
  on a field at top level;
- one that fails leaves the registry as it was;
- an insertion changes the model of its name in its place, and no other. -/
theorem requests_keep_registry (timestamps : Bool) (requests : List Request) :
    (ofRequests timestamps requests).names.Nodup ∧
    (ofRequests timestamps requests).models.map registration = successes { timestamps } requests ∧
    (ofRequests timestamps requests).names = (successes { timestamps } requests).map Registration.modelName ∧
    (∀ before asked model later, requests = before ++ .register asked :: later →
      ((ofRequests timestamps before).serve (.register asked)).1 = .registered (.ok model) →
        ∃ now, (ofRequests timestamps requests).find? asked.modelName = some now ∧ now.entity = asked.entity ∧
          now = model.insertAll (later.filterMap (Request.inputFor? asked.modelName))) ∧
    (∀ asked, (∃ model, ((ofRequests timestamps requests).serve (.register asked)).1 = .registered (.ok model)) ↔
      asked.modelName ∉ (ofRequests timestamps requests).names ∧ ¬asked.schema.PatternFails ∧
        ∀ index ∈ asked.indexes, asked.schema.hasField index.field = true) ∧
    (∀ asked error, ((ofRequests timestamps requests).serve (.register asked)).1 = .registered (.error error) →
      ((ofRequests timestamps requests).serve (.register asked)).2 = ofRequests timestamps requests) ∧
    ∀ name input, ((ofRequests timestamps requests).serve (.insert name input)).2.models
      = (ofRequests timestamps requests).models.map fun model =>
          if model.name = name then (model.call input).2 else model := by
  have hempty : Consistent { timestamps } := ⟨List.nodup_nil, by simp⟩
  have hconsistent : (ofRequests timestamps requests).Consistent := after_consistent hempty requests
  have hmodels : (ofRequests timestamps requests).models.map registration = successes { timestamps } requests :=
    registrations_after hempty requests
  refine ⟨hconsistent.distinct, hmodels, by rw [names_eq hconsistent, hmodels], ?_, ?_, ?_,
    serve_insert hconsistent.distinct⟩
  · intro before asked model later hrequests hreply
    rw [hrequests, ofRequests, after_append]
    exact find?_of_success hreply later
  · exact fun asked => serve_register_iff
  · intro asked error hreply
    rcases serve_register (ofRequests timestamps requests) asked with ⟨other, hserve⟩ | ⟨model, hserve, -⟩
    · rw [hserve]
    · simp [hserve] at hreply

/-! ## Two entities of one name -/

/-- an entity, one whose model has the same name, two that cannot be registered, and insertions in between -/
def ticketRequests : List Request :=
  [.insert "Tickets" firstTicket, .register ⟨"tickets", ticketSchema, ticketIndexes⟩, .insert "Tickets" firstTicket,
    .register ⟨"Tickets", ticketSchema, []⟩, .register ⟨"notes", ticketSchema, []⟩, .insert "Notes" firstTicket,
    .register ⟨"codes", ⟨"codes", [("code", .leaf { required := true, pattern := some "([a-z]" } .string)]⟩, []⟩,
    .register ⟨"mails", ticketSchema, [⟨"email", .ascending⟩]⟩, .insert "Tickets" untitledTicket, .insert "Tickets" thirdTicket]

/-- the first entity keeps its model and the documents of it, and the second is turned away for good -/
theorem tickets_kept_apart :
    (ofRequests true ticketRequests).find? "Tickets"
        = some (ticketModel.insertAll [firstTicket, untitledTicket, thirdTicket]) ∧
      ¬∃ model, ((ofRequests true ticketRequests).serve (.register ⟨"Tickets", ticketSchema, []⟩)).1
        = .registered (.ok model) := by
  obtain ⟨-, -, -, hfound, hsucceeds, -⟩ := requests_keep_registry true ticketRequests
  have hreply : ((ofRequests true (ticketRequests.take 1)).serve (.register ⟨"tickets", ticketSchema, ticketIndexes⟩)).1
      = .registered (.ok ticketModel) := rfl
  obtain ⟨now, hnow, -, rfl⟩ := hfound (ticketRequests.take 1) _ _ (ticketRequests.drop 2) rfl hreply
  refine ⟨hnow, ?_⟩
  rw [hsucceeds]
  intro h
  exact h.1 ((isSome_find? _ _).1 (Option.isSome_iff_exists.2 ⟨_, hnow⟩))

end Registry

end DocumentModels
