/-
Lookup with and without an index.

`scan` is what a lookup should find: the stored documents whose member is equal to the value, in order.
- `find_of_unindexed`: without an index, that is what `find` gives.
- `find_of_indexed`: with an index, `find` gives the documents whose member is written like the value. Texts tell values
  apart, so these are the documents whose member is the very same value, member order and sign of zero included.
- `find_eq_scan_iff`: the two agree just where no stored member is equal to the value without being that value.
- `negative_zero_missed`: they do not always agree.
-/
import Mathlib.Tactic
import DocumentModels.Proofs.Json.CompactText
import DocumentModels.Proofs.Json.Equality
import DocumentModels.Proofs.Model.Positions

namespace DocumentModels

namespace Collection

/-- the stored documents whose member is equal to a value, in order -/
def scan (model : Collection) (field : String) (value : Json) : List Json :=
  model.documents.toList.filter fun document => (document.get? field).any (·.same value)

/-- two filters of a list agree just when they agree on its elements -/
theorem filter_eq_filter_iff {α : Type} {p q : α → Bool} {l : List α} :
    l.filter p = l.filter q ↔ ∀ x ∈ l, p x = q x := by
  constructor
  · intro h x hx
    have hmem : p x = true ↔ q x = true := by
      have hp : x ∈ l.filter p ↔ p x = true := by simp [hx]
      have hq : x ∈ l.filter q ↔ q x = true := by simp [hx]
      rw [← hp, ← hq, h]
    exact Bool.eq_iff_iff.2 hmem
  · intro h
    exact List.filter_congr h

theorem hasText_compact (field : String) (value document : Json) :
    hasText field value.compact document = true ↔ document.get? field = some value := by
  unfold hasText
  cases document.get? field with
  | none => simp
  | some member =>
    rw [Option.any_some, beq_iff_eq, Option.some.injEq]
    exact ⟨Json.compact_injective, fun h => by rw [h]⟩

/-- **Without an index, a lookup finds the documents whose member is equal to the value.** -/
theorem find_of_unindexed {model : Collection} (h : model.Noted) {field : String}
    (hfield : isIndexed model.indexes field = false) (value : Json) :
    model.find field value = model.scan field value := by
  rw [← h.keyed field, Option.isSome_eq_false_iff, Option.isNone_iff_eq_none] at hfield
  rw [find, hfield, scan]

/-- **With an index, a lookup finds the documents whose member is the value itself.** -/
theorem find_of_indexed {model : Collection} (h : model.Noted) {field : String}
    (hfield : isIndexed model.indexes field = true) {value document : Json} :
    document ∈ model.find field value ↔ document ∈ model.documents.toList ∧ document.get? field = some value := by
  rw [find_of_noted h hfield, List.mem_filter, hasText_compact]

/-- equality is all that a lookup by text misses -/
theorem find_eq_scan_of_indexed {model : Collection} (h : model.Noted) {field : String}
    (hfield : isIndexed model.indexes field = true) {value : Json} (hvalue : value.Distinct) :
    model.find field value = model.scan field value ↔
      ∀ document ∈ model.documents.toList, ∀ member, document.get? field = some member →
        member.same value = true → member = value := by
  rw [find_of_noted h hfield, scan, filter_eq_filter_iff]
  apply forall₂_congr
  intro document _
  rw [Bool.eq_iff_iff, hasText_compact]
  constructor
  · intro hagree member hmember hsame
    have hany : (document.get? field).any (·.same value) = true := by rw [hmember, Option.any_some, hsame]
    exact Option.some.inj (hmember.symm.trans (hagree.2 hany))
  · intro hrigid
    constructor
    · intro hmember
      rw [hmember, Option.any_some]
      exact Json.same_refl value hvalue
    · intro hany
      cases hmember : document.get? field with
      | none =>
        rw [hmember] at hany
        cases hany
      | some member =>
        rw [hmember, Option.any_some] at hany
        rw [hrigid member hmember hany]

/-- **Indexed and unindexed lookup agree just where equal members are the same.** After any run of a registered model, a
lookup finds the documents whose member is equal to the value, each once and in order, just when the field has no index
with a direction, or no stored member is equal to the value without being that value. -/
theorem find_eq_scan_iff {registry registry' : Registry} {entity : String} {schema : Schema} {indexes : List Index}
    {model : Collection} (h : registry.register entity schema indexes = .ok (registry', model)) (inputs : List Input)
    (field : String) {value : Json} (hvalue : value.Distinct) :
    (model.insertAll inputs).find field value = (model.insertAll inputs).scan field value ↔
      (∀ index ∈ indexes, index.field = field → index.isText = true) ∨
        ∀ document ∈ (model.insertAll inputs).documents.toList, ∀ member, document.get? field = some member →
          member.same value = true → member = value := by
  obtain ⟨patterns, -, -, rfl⟩ := register_ok h
  have hfresh := fresh_noted (Emit.modelName entity) entity schema indexes registry.timestamps patterns
  have hnoted := insertAll_noted hfresh inputs
  obtain ⟨-, hindexes, -⟩ :=
    insertAll_config (fresh (Emit.modelName entity) entity schema indexes registry.timestamps patterns) inputs
  have hunindexed : isIndexed indexes field = false ↔ ∀ index ∈ indexes, index.field = field → index.isText = true := by
    simp [isIndexed]
  rw [← hunindexed]
  cases hfield : isIndexed indexes field with
  | false =>
    have hfind := find_of_unindexed hnoted (by rw [hindexes]; exact hfield) value
    simp [hfind]
  | true =>
    rw [find_eq_scan_of_indexed hnoted (by rw [hindexes]; exact hfield) hvalue]
    simp

/-! ## A lookup that misses -/

/-- a schema whose one field takes any value -/
def anySchema : Schema := ⟨"prices", [("amount", .leaf { required := true } .mixed)]⟩

/-- a model of that schema with an index on the field -/
def priceModel : Collection :=
  fresh (Emit.modelName "prices") "prices" anySchema [⟨"amount", .ascending⟩] false []

def zeroPrice : Input where
  now := ""
  document := .object [("amount", .number (.float .zero))]
  distinct := by simp [Json.Distinct, Json.DistinctMembers]

def negativeZero : Json := .number (.float Numeric.Binary64.zero.neg)

/-- with an index, zero is not found by negative zero, which is equal to it -/
theorem negative_zero_missed :
    Registry.register { timestamps := false } "prices" anySchema [⟨"amount", .ascending⟩]
        = .ok ({ timestamps := false, models := [priceModel] }, priceModel) ∧ negativeZero.Distinct ∧
      (priceModel.insertAll [zeroPrice]).find "amount" negativeZero
        ≠ (priceModel.insertAll [zeroPrice]).scan "amount" negativeZero := by
  have hregister : Registry.register { timestamps := false } "prices" anySchema [⟨"amount", .ascending⟩]
      = .ok ({ timestamps := false, models := [priceModel] }, priceModel) := rfl
  have hvalue : negativeZero.Distinct := trivial
  refine ⟨hregister, hvalue, ?_⟩
  intro hfind
  have hstored : (priceModel.insertAll [zeroPrice]).documents.toList
      = [.object [("_id", .ofNat 1), ("amount", .number (.float .zero))]] := by
    have haccepts : priceModel.Accepts zeroPrice [("amount", .number (.float .zero))] :=
      ⟨rfl, by simp [hasId, priceModel, fresh]⟩
    show (priceModel.tryInsert zeroPrice).documents.toList = _
    rw [tryInsert_of_accepts haccepts]
    rfl
  rcases (find_eq_scan_iff hregister [zeroPrice] "amount" hvalue).1 hfind with htext | hrigid
  · exact absurd (htext _ List.mem_cons_self rfl) (by decide)
  · rw [hstored] at hrigid
    have hequal : Json.number (.float .zero) = negativeZero :=
      hrigid _ List.mem_cons_self (.number (.float .zero)) rfl (by decide)
    simp [negativeZero, Numeric.Binary64.zero, Numeric.Binary64.neg] at hequal

end Collection

end DocumentModels
