/-
The counter of a model, and the keys that it gives.

The counter moves when it gives a key and when a document carries a number at or above it. Strings, negative numbers,
fractions and objects carried as keys leave it alone, and so does a rejected document. It has 64 bits: once their last
number is a key, it begins again at 0 and gives keys that may be taken.
- `KeysBelow`: the invariant. Every stored key that is a natural number lies below the counter.
- `Exhausted`: the last number is a stored key. The invariant does not hold then (`not_exhausted_of_keysBelow`).
- `grown_keysBelow`, `insertAll_keysBelow`: an accepted insertion keeps it as long as there is room, so it holds after every
  run that leaves the counter room.
- `nextTaken_eq_false`, `accepts_uncarried`: where it holds, a valid document without a key is not taken for a duplicate.
- `generatedKeys_increasing`: the keys that a run gives are numbers that increase.
- `not_exhausted_of_below`: a run that stays below the last number leaves room.
- `generated_keys_fresh`: all of it, for every run of a registered model whose schema has no field of the key.
- `rejected_after_last`: without room, such a document may be rejected.
-/
import Mathlib.Tactic
import DocumentModels.Proofs.Model.History

namespace DocumentModels

namespace Collection

/-! ## Moving the counter -/

/-- the largest number of 64 bits -/
def lastNumber : Nat := 2 ^ 64 - 1

theorem toNat_le_lastNumber (counter : UInt64) : counter.toNat ≤ lastNumber := Nat.le_pred_of_lt counter.toNat_lt

/-- a used number at or above the counter moves it to the next one, which wraps -/
theorem toNat_bumped (counter : UInt64) (used : Nat) :
    (bumped counter (Json.ofNat used)).toNat = if counter.toNat ≤ used then (used + 1) % 2 ^ 64 else counter.toNat := by
  show (if counter.toNat ≤ used then UInt64.ofNat used + 1 else counter).toNat = _
  split_ifs with hused
  · rw [UInt64.toNat_add, UInt64.toNat_ofNat', UInt64.toNat_one]
    omega
  · rfl

/-- below the last number nothing wraps -/
theorem bumped_ofNat {counter : UInt64} {used : Nat} (h : used < lastNumber) :
    (bumped counter (Json.ofNat used)).toNat = max counter.toNat (used + 1) := by
  have hroom : used + 1 < 2 ^ 64 := Nat.add_lt_of_lt_sub h
  rw [toNat_bumped]
  split_ifs with hused
  · rw [Nat.mod_eq_of_lt hroom]
    omega
  · omega

theorem bumped_lastNumber (counter : UInt64) : bumped counter (Json.ofNat lastNumber) = 0 := by
  rw [← UInt64.toNat_inj, toNat_bumped, if_pos (toNat_le_lastNumber counter)]
  rfl

theorem bumped_cases (counter : UInt64) (id : Json) : (∃ used, id = Json.ofNat used) ∨ bumped counter id = counter := by
  cases id with
  | number n =>
    cases n with
    | int i =>
      cases i with
      | ofNat used => exact Or.inl ⟨used, rfl⟩
      | negSucc i => exact Or.inr rfl
    | float x => exact Or.inr rfl
  | _ => exact Or.inr rfl

theorem le_bumped {counter : UInt64} {id : Json} (h : ∀ used, id = Json.ofNat used → used < lastNumber) :
    counter.toNat ≤ (bumped counter id).toNat := by
  rcases bumped_cases counter id with ⟨used, rfl⟩ | hsame
  · rw [bumped_ofNat (h used rfl)]
    exact le_max_left _ _
  · rw [hsame]

theorem eq_of_same_ofNat {value : Json} {n : Nat} (h : value.same (Json.ofNat n) = true) : value = Json.ofNat n := by
  cases value with
  | number m =>
    cases m with
    | int i =>
      have hequal : i = (n : Int) := by simpa [Json.same, Json.ofNat, Number.same] using h
      rw [hequal]
      rfl
    | float x => cases h
  | _ => cases h

theorem ofNat_injective {m n : Nat} (h : Json.ofNat m = Json.ofNat n) : m = n := by
  simpa [Json.ofNat] using h

/-! ## The invariant -/

/-- every stored key that is a natural number lies below the counter -/
def KeysBelow (model : Collection) : Prop :=
  ∀ document ∈ model.documents.toList, ∀ n : Nat, document.get? idKey = some (Json.ofNat n) → n < model.nextId.toNat

/-- the last number is a stored key -/
def Exhausted (model : Collection) : Prop :=
  ∃ document ∈ model.documents.toList, ∃ n : Nat, document.get? idKey = some (Json.ofNat n) ∧ lastNumber ≤ n

def nextTaken (model : Collection) : Bool := model.hasId (Json.ofNat model.nextId.toNat)

theorem keysBelow_of_empty {model : Collection} (hempty : model.documents = #[]) : model.KeysBelow := by
  intro document hdocument
  simp [hempty] at hdocument

/-- nothing lies above the last number -/
theorem not_exhausted_of_keysBelow {model : Collection} (h : model.KeysBelow) : ¬model.Exhausted := by
  rintro ⟨document, hdocument, n, hn, hlast⟩
  have hbelow := h document hdocument n hn
  have hcounter := toNat_le_lastNumber model.nextId
  omega

/-- stored documents stay -/
theorem Exhausted.insertAll {model : Collection} (h : model.Exhausted) (inputs : List Input) :
    (model.insertAll inputs).Exhausted := by
  apply insertAll_induction (P := Exhausted)
  · exact h
  · rintro model input fields ⟨document, hdocument, hlast⟩ _
    refine ⟨document, ?_, hlast⟩
    rw [grown, Array.toList_push]
    exact List.mem_append_left _ hdocument

theorem key_of_stored {model : Collection} (hkey : ∀ field ∈ model.schema.fields, field.1 ≠ idKey) {input : Input}
    {fields : Members} (hvalid : model.validate input.document = .ok fields) :
    (Json.object (model.storedMembers input fields)).get? idKey = some (model.idOf input.document) := by
  rw [Json.get?, lookup_storedMembers model input (nodup_of_validate hvalid), Schema.lookup_of_undeclared hkey hvalid,
    Option.getD_none]

section Step

variable {model : Collection} {input : Input} {fields : Members}

/-- the keys of a model after an accepted insertion are those that it had and the new one -/
theorem exhausted_grown (hkey : ∀ field ∈ model.schema.fields, field.1 ≠ idKey) (haccepts : model.Accepts input fields) :
    (model.grown input fields).Exhausted ↔
      model.Exhausted ∨ ∃ n : Nat, model.idOf input.document = Json.ofNat n ∧ lastNumber ≤ n := by
  have hstored := key_of_stored hkey haccepts.valid
  unfold Exhausted grown
  simp [or_and_right, exists_or, hstored]

theorem hasId_grown (hkey : ∀ field ∈ model.schema.fields, field.1 ≠ idKey) (haccepts : model.Accepts input fields)
    (id : Json) : (model.grown input fields).hasId id = (model.hasId id || (model.idOf input.document).same id) := by
  rw [hasId, grown, Array.any_push, key_of_stored hkey haccepts.valid]
  rfl

/-- an accepted insertion that leaves room has no key above the last number -/
theorem key_lt_lastNumber (hkey : ∀ field ∈ model.schema.fields, field.1 ≠ idKey) (haccepts : model.Accepts input fields)
    (hroom : ¬(model.grown input fields).Exhausted) {n : Nat} (hn : model.idOf input.document = Json.ofNat n) :
    n < lastNumber := by
  by_contra hlast
  exact hroom ((exhausted_grown hkey haccepts).2 (Or.inr ⟨n, hn, not_lt.1 hlast⟩))

/-- one accepted insertion that leaves room keeps the numbers below the counter -/
theorem grown_keysBelow (hkey : ∀ field ∈ model.schema.fields, field.1 ≠ idKey) (haccepts : model.Accepts input fields)
    (hroom : ¬(model.grown input fields).Exhausted) (h : model.KeysBelow) : (model.grown input fields).KeysBelow := by
  have hnew : ∀ n, model.idOf input.document = Json.ofNat n → n < lastNumber :=
    fun n => key_lt_lastNumber hkey haccepts hroom
  intro document hdocument n hn
  rw [grown, Array.toList_push, List.mem_append, List.mem_singleton] at hdocument
  show n < (bumped model.nextId (model.idOf input.document)).toNat
  rcases hdocument with hold | rfl
  · exact lt_of_lt_of_le (h document hold n hn) (le_bumped hnew)
  · rw [key_of_stored hkey haccepts.valid, Option.some.injEq] at hn
    rw [hn, bumped_ofNat (hnew n hn)]
    omega

/-- the key that is given next is free -/
theorem nextTaken_eq_false (h : model.KeysBelow) : model.nextTaken = false := by
  rw [nextTaken, hasId_eq_false]
  intro document hdocument u hu
  by_contra hsame
  have hequal : u = Json.ofNat model.nextId.toNat := eq_of_same_ofNat (Bool.not_eq_false _ ▸ hsame)
  rw [hequal] at hu
  exact lt_irrefl _ (h document hdocument _ hu)

/-- **A valid document without a key is not taken for a duplicate** where the next key is free. -/
theorem accepts_uncarried (hfree : model.nextTaken = false) (hcarried : carried? input.document idKey = none)
    (hvalid : model.validate input.document = .ok fields) : model.Accepts input fields := by
  refine ⟨hvalid, ?_⟩
  rw [idOf, hcarried, Option.getD_none]
  exact hfree

/-- and it is rejected where that key is taken -/
theorem rejected_of_taken (htaken : model.nextTaken = true) (hcarried : carried? input.document idKey = none)
    (hvalid : model.validate input.document = .ok fields) :
    (model.call input).1 = .error [⟨idKey, .duplicateKey (Json.ofNat model.nextId.toNat)⟩] := by
  have hid : model.idOf input.document = Json.ofNat model.nextId.toNat := by rw [idOf, hcarried, Option.getD_none]
  rw [call_of_error (insert_of_taken hvalid (hid ▸ htaken)), hid]

end Step

/-- **Numbers stay below the counter,** in every run that leaves it room. -/
theorem insertAll_keysBelow {start : Collection} (hkey : ∀ field ∈ start.schema.fields, field.1 ≠ idKey)
    (h : start.KeysBelow) {inputs : List Input} (hroom : ¬(start.insertAll inputs).Exhausted) :
    (start.insertAll inputs).KeysBelow := by
  have hrun : (start.insertAll inputs).schema = start.schema ∧
      (¬(start.insertAll inputs).Exhausted → (start.insertAll inputs).KeysBelow) := by
    apply insertAll_induction (P := fun model => model.schema = start.schema ∧ (¬model.Exhausted → model.KeysBelow))
    · exact ⟨rfl, fun _ => h⟩
    · rintro model input fields ⟨hschema, hbelow⟩ haccepts
      rw [← hschema] at hkey
      refine ⟨hschema, ?_⟩
      intro hlater
      have hearlier : ¬model.Exhausted := fun hlast => hlater ((exhausted_grown hkey haccepts).2 (Or.inl hlast))
      exact grown_keysBelow hkey haccepts hlater (hbelow hearlier)
  exact hrun.2 hroom

/-! ## Keys along a run -/

/-- the key that a call gives: that of the stored document, if the document came without one -/
def generatedKey? (call : Input × Answer) : Option Json :=
  match carried? call.1.document idKey, call.2 with
  | none, .ok stored => stored.get? idKey
  | _, _ => none

/-- the keys that a run gives, in order -/
def generatedKeys (model : Collection) (inputs : List Input) : List Json :=
  (inputs.zip (model.answers inputs)).filterMap generatedKey?

theorem generatedKeys_cons (model : Collection) (input : Input) (rest : List Input) :
    model.generatedKeys (input :: rest)
      = (generatedKey? (input, (model.call input).1)).toList ++ (model.call input).2.generatedKeys rest := by
  rw [generatedKeys, answers_cons, List.zip_cons_cons, List.filterMap_cons]
  cases generatedKey? (input, (model.call input).1) <;> rfl

/-- what a call that leaves room does to the counter: it gives the next number, or none and goes no way back -/
theorem call_counter {model : Collection} (hkey : ∀ field ∈ model.schema.fields, field.1 ≠ idKey) {input : Input}
    (hroom : ¬(model.call input).2.Exhausted) :
    (generatedKey? (input, (model.call input).1) = some (Json.ofNat model.nextId.toNat) ∧
        (model.call input).2.nextId.toNat = model.nextId.toNat + 1) ∨
      (generatedKey? (input, (model.call input).1) = none ∧
        model.nextId.toNat ≤ (model.call input).2.nextId.toNat) := by
  rcases model.call_cases input with ⟨violations, hcall⟩ | ⟨fields, haccepts, hcall⟩
  · right
    rw [hcall, generatedKey?]
    cases carried? input.document idKey <;> exact ⟨rfl, le_rfl⟩
  · have hid : (Json.object (model.storedMembers input fields)).get? idKey = some (model.idOf input.document) :=
      key_of_stored hkey haccepts.valid
    have hnext : (model.grown input fields).nextId = bumped model.nextId (model.idOf input.document) := rfl
    rw [hcall] at hroom ⊢
    have hnew : ∀ n, model.idOf input.document = Json.ofNat n → n < lastNumber :=
      fun n => key_lt_lastNumber hkey haccepts hroom
    rw [generatedKey?]
    simp only [hnext]
    cases hcarried : carried? input.document idKey with
    | none =>
      left
      rw [idOf, hcarried, Option.getD_none] at hid hnew ⊢
      refine ⟨hid, ?_⟩
      rw [bumped_ofNat (hnew _ rfl)]
      omega
    | some value => exact Or.inr ⟨rfl, le_bumped hnew⟩

/-- **The keys that a run gives increase,** if it leaves room. They start at the counter. -/
theorem generatedKeys_increasing {model : Collection} (hkey : ∀ field ∈ model.schema.fields, field.1 ≠ idKey)
    {inputs : List Input} (hroom : ¬(model.insertAll inputs).Exhausted) :
    ∃ keys : List Nat, model.generatedKeys inputs = keys.map Json.ofNat ∧ keys.Pairwise (· < ·) ∧
      ∀ key ∈ keys, model.nextId.toNat ≤ key := by
  induction inputs generalizing model with
  | nil => exact ⟨[], rfl, List.Pairwise.nil, by simp⟩
  | cons input rest ih =>
    have hrest : model.insertAll (input :: rest) = (model.call input).2.insertAll rest := by
      rw [call_snd]
      rfl
    have hschema : (model.call input).2.schema = model.schema := by
      rw [call_snd]
      exact (insertAll_config model [input]).1
    rw [hrest] at hroom
    obtain ⟨keys, hkeys, hincreasing, habove⟩ := ih (hschema ▸ hkey) hroom
    rw [generatedKeys_cons]
    rcases call_counter hkey (fun hlast => hroom (hlast.insertAll rest)) with ⟨hgiven, hnext⟩ | ⟨hnone, hnext⟩
    · refine ⟨model.nextId.toNat :: keys, ?_, List.pairwise_cons.2 ⟨?_, hincreasing⟩, ?_⟩
      · rw [hgiven, hkeys]
        rfl
      · intro key hmem
        have hkeyAbove := habove key hmem
        omega
      · intro key hmem
        rcases List.mem_cons.1 hmem with rfl | hmem
        · exact le_rfl
        · have hkeyAbove := habove key hmem
          omega
    · refine ⟨keys, ?_, hincreasing, fun key hmem => hnext.trans (habove key hmem)⟩
      rw [hnone, hkeys]
      rfl

/-! ## Room for keys -/

/-- **The counter keeps room** as long as it has stayed below the last number and no document carries that. -/
theorem not_exhausted_of_below {start : Collection} (hkey : ∀ field ∈ start.schema.fields, field.1 ≠ idKey)
    (hstart : ¬start.Exhausted) {inputs : List Input}
    (hcarried : ∀ input ∈ inputs, ∀ n, carried? input.document idKey = some (Json.ofNat n) → n < lastNumber)
    (hcounter : ∀ i < inputs.length, (start.insertAll (inputs.take i)).nextId.toNat < lastNumber) :
    ¬(start.insertAll inputs).Exhausted := by
  induction inputs using List.reverseRecOn with
  | nil => exact hstart
  | append_singleton earlier input ih =>
    have hearlier : ¬(start.insertAll earlier).Exhausted := by
      apply ih
      · intro other hother
        exact hcarried other (List.mem_append_left _ hother)
      · intro i hi
        have hbelow := hcounter i (by rw [List.length_append]; omega)
        rwa [List.take_append_of_le_length hi.le] at hbelow
    have hbelow := hcounter earlier.length (by simp)
    rw [List.take_left] at hbelow
    have hlater : start.insertAll (earlier ++ [input]) = (start.insertAll earlier).tryInsert input := by
      rw [insertAll, insertAll, List.foldl_append, List.foldl_cons, List.foldl_nil]
    rw [hlater]
    rcases (start.insertAll earlier).tryInsert_cases input with hsame | ⟨fields, haccepts, hgrown⟩
    · rw [hsame]
      exact hearlier
    · rw [← (insertAll_config start earlier).1] at hkey
      rw [hgrown, exhausted_grown hkey haccepts]
      rintro (hlast | ⟨n, hn, hlast⟩)
      · exact hearlier hlast
      · -- the new key is carried, or it is the counter
        rw [idOf] at hn
        cases hcase : carried? input.document idKey with
        | none =>
          rw [hcase, Option.getD_none] at hn
          have hequal := ofNat_injective hn
          omega
        | some value =>
          rw [hcase, Option.getD_some] at hn
          have hsmall := hcarried input (by simp) n (hn ▸ hcase)
          omega

/-! ## Without room -/

/-- a document with a key of its own -/
def withKey (n : Nat) (members : Members) (hdistinct : (Json.object members).Distinct) : Input where
  now := ""
  document := .object (upsert idKey (.ofNat n) members)
  distinct := Json.distinct_upsert hdistinct (by simp [Json.ofNat, Json.Distinct])

theorem idOf_withKey (model : Collection) (n : Nat) (members : Members) (hdistinct : (Json.object members).Distinct) :
    model.idOf (withKey n members hdistinct).document = Json.ofNat n := by
  rw [idOf, withKey, carried?, Json.get?, lookup_upsert, if_pos rfl]
  rfl

/-- **The counter begins again.** A model that has no field of the key and accepts some document can be brought to reject
the same document for lack of a key: after it is stored under 0 and under the last number. -/
theorem rejected_after_last {start : Collection} (hkey : ∀ field ∈ start.schema.fields, field.1 ≠ idKey)
    (hempty : start.documents = #[]) {members fields : Members} (hdistinct : (Json.object members).Distinct)
    (hvalid : start.validate (.object members) = .ok fields) {input : Input} (hinput : input.document = .object members)
    (hcarried : carried? input.document idKey = none) :
    ((start.insertAll [withKey 0 members hdistinct, withKey lastNumber members hdistinct]).call input).1
      = .error [⟨idKey, .duplicateKey (Json.ofNat 0)⟩] := by
  have hkeyed : ∀ n, start.validate (withKey n members hdistinct).document = .ok fields :=
    fun n => (validate_upsert hkey _ members).trans hvalid
  have hfirst : start.Accepts (withKey 0 members hdistinct) fields := ⟨hkeyed 0, by simp [hasId, hempty]⟩
  set first := start.grown (withKey 0 members hdistinct) fields
  have hids : ∀ id, first.hasId id = (Json.ofNat 0).same id := by
    intro id
    rw [hasId_grown hkey hfirst, idOf_withKey]
    simp [hasId, hempty]
  have hsecond : first.Accepts (withKey lastNumber members hdistinct) fields := by
    refine ⟨hkeyed lastNumber, ?_⟩
    rw [idOf_withKey, hids]
    decide
  set second := first.grown (withKey lastNumber members hdistinct) fields
  have hrun : start.insertAll [withKey 0 members hdistinct, withKey lastNumber members hdistinct] = second := by
    show (start.tryInsert _).tryInsert _ = _
    rw [tryInsert_of_accepts hfirst, tryInsert_of_accepts hsecond]
  have hnext : second.nextId = 0 := by
    show bumped first.nextId (first.idOf (withKey lastNumber members hdistinct).document) = 0
    rw [idOf_withKey, bumped_lastNumber]
  have hids' : ∀ id, second.hasId id = (first.hasId id || _) := hasId_grown hkey hsecond
  have htaken : second.nextTaken = true := by
    rw [nextTaken, hnext, hids', hids]
    rfl
  have hvalid' : second.validate input.document = .ok fields := by
    rw [hinput]
    exact hvalid
  rw [hrun, rejected_of_taken htaken hcarried hvalid', hnext]
  rfl

/-! ## Registered models -/

/-- **Generated keys are fresh.** In every run of a registered model whose schema has no field of the key:
- the counter keeps room, as long as it has stayed below the last number and no document carries that;
- as long as there is room, every stored key that is a natural number lies below the counter; so a valid document without a
  key is stored, with the counter as its key; and the keys that the run gives increase;
- without room, a stored key does not lie below the counter. -/
theorem generated_keys_fresh {registry registry' : Registry} {entity : String} {schema : Schema} {indexes : List Index}
    {model : Collection} (h : registry.register entity schema indexes = .ok (registry', model))
    (hkey : ∀ field ∈ schema.fields, field.1 ≠ idKey) (inputs : List Input) :
    ((∀ input ∈ inputs, ∀ n, carried? input.document idKey = some (Json.ofNat n) → n < lastNumber) →
      (∀ i < inputs.length, (model.insertAll (inputs.take i)).nextId.toNat < lastNumber) →
        ¬(model.insertAll inputs).Exhausted) ∧
    (¬(model.insertAll inputs).Exhausted →
      (model.insertAll inputs).KeysBelow ∧
      (∀ input fields, carried? input.document idKey = none →
        (model.insertAll inputs).validate input.document = .ok fields →
          ∃ stored, ((model.insertAll inputs).call input).1 = .ok stored ∧
            stored.get? idKey = some (Json.ofNat (model.insertAll inputs).nextId.toNat)) ∧
      ∃ keys : List Nat, model.generatedKeys inputs = keys.map Json.ofNat ∧ keys.Pairwise (· < ·)) ∧
    ((model.insertAll inputs).Exhausted → ¬(model.insertAll inputs).KeysBelow) := by
  obtain ⟨patterns, -, -, rfl⟩ := register_ok h
  have hnone := keysBelow_of_empty
    (rfl : (fresh (Emit.modelName entity) entity schema indexes registry.timestamps patterns).documents = #[])
  refine ⟨?_, ?_, fun hlast hbelow => not_exhausted_of_keysBelow hbelow hlast⟩
  · intro hcarried hcounter
    exact not_exhausted_of_below hkey (not_exhausted_of_keysBelow hnone) hcarried hcounter
  · intro hroom
    have hbelow := insertAll_keysBelow hkey hnone hroom
    have hfree := nextTaken_eq_false hbelow
    refine ⟨hbelow, ?_, ?_⟩
    · intro input fields hcarried hvalid
      obtain ⟨hschema, -⟩ :=
        insertAll_config (fresh (Emit.modelName entity) entity schema indexes registry.timestamps patterns) inputs
      refine ⟨_, congrArg Prod.fst (call_of_accepts (accepts_uncarried hfree hcarried hvalid)), ?_⟩
      rw [key_of_stored (by rw [hschema]; exact hkey) hvalid, idOf, hcarried, Option.getD_none]
    · obtain ⟨keys, hkeys, hincreasing, -⟩ := generatedKeys_increasing hkey hroom
      exact ⟨keys, hkeys, hincreasing⟩

/-! ## A run with carried keys -/

/-- a document that carries a key -/
def keyedTicket (key : Json) (hkey : key.Distinct) : Input :=
  ⟨"monday", .object [("_id", key), ("title", .string "leak")], by simp [Json.Distinct, Json.DistinctMembers, hkey]⟩

/-- keys of other kinds, a number, that number again, and documents without a key in between -/
def keyedTickets : List Input :=
  [firstTicket, keyedTicket (.string "x") (by simp [Json.Distinct]),
    keyedTicket (.ofNat 7) (by simp [Json.Distinct, Json.ofNat]), firstTicket,
    keyedTicket (.ofNat 7) (by simp [Json.Distinct, Json.ofNat]), keyedTicket .null (by simp [Json.Distinct])]

/-- the counter goes past a number that is carried, and past nothing else -/
theorem keyedTickets_fresh :
    ticketModel.generatedKeys keyedTickets = [1, 8, 9].map Json.ofNat ∧ (ticketModel.insertAll keyedTickets).KeysBelow ∧
      ¬(ticketModel.insertAll keyedTickets).Exhausted ∧
      ∃ stored, ((ticketModel.insertAll keyedTickets).call firstTicket).1 = .ok stored ∧
        stored.get? idKey = some (Json.ofNat 10) := by
  have hregister : Registry.register {} "tickets" ticketSchema ticketIndexes
      = .ok ({ models := [ticketModel] }, ticketModel) := rfl
  obtain ⟨hroom, hfresh, -⟩ := generated_keys_fresh hregister (by decide) keyedTickets
  have hcarried : ∀ input ∈ keyedTickets, ∀ n, carried? input.document idKey = some (Json.ofNat n) → n < lastNumber := by
    have hall : keyedTickets.map (fun input => carried? input.document idKey)
        = [none, some (.string "x"), some (.ofNat 7), none, some (.ofNat 7), none] := by rfl
    intro input hinput n hn
    have hmem := List.mem_map_of_mem (f := fun input : Input => carried? input.document idKey) hinput
    simp only [hall, hn, List.mem_cons, List.not_mem_nil, Option.some.injEq, reduceCtorEq, or_false, false_or] at hmem
    have hseven : n = 7 := by
      rcases hmem with hstring | hseven | hseven
      · cases hstring
      · exact ofNat_injective hseven
      · exact ofNat_injective hseven
    rw [hseven]
    decide
  have hcounter : ∀ i < keyedTickets.length, (ticketModel.insertAll (keyedTickets.take i)).nextId.toNat < lastNumber := by
    have hall : (List.range keyedTickets.length).map (fun i => (ticketModel.insertAll (keyedTickets.take i)).nextId.toNat)
        = [1, 2, 2, 8, 9, 9] := by with_unfolding_all rfl
    have hsmall : ∀ counter ∈ [1, 2, 2, 8, 9, 9], counter < lastNumber := by decide
    intro i hi
    have hmem := List.mem_map_of_mem (f := fun i => (ticketModel.insertAll (keyedTickets.take i)).nextId.toNat)
      (List.mem_range.2 hi)
    rw [hall] at hmem
    exact hsmall _ hmem
  obtain ⟨hbelow, hstored, -⟩ := hfresh (hroom hcarried hcounter)
  refine ⟨by with_unfolding_all rfl, hbelow, hroom hcarried hcounter, ?_⟩
  have hnext : (ticketModel.insertAll keyedTickets).nextId.toNat = 10 := by with_unfolding_all rfl
  rw [← hnext]
  have hvalid : ticketModel.validate firstTicket.document = .ok [("title", .string "leak")] := by rfl
  rw [← (insertAll_config ticketModel keyedTickets).validate_eq] at hvalid
  exact hstored firstTicket _ rfl hvalid

end Collection

end DocumentModels
