/-
Laws of the equality of values.

`same` compares the members of objects by name, so its laws follow from what a lookup finds.
- `sameMembers_iff`: each member of one object is found in the other with an equal value.
- `same_refl`: where the names of every object are distinct, a value is equal to itself.
- `same_trans`: equality is transitive, of any values.
-/
import Mathlib.Tactic
import DocumentModels.Proofs.Json.Members

namespace DocumentModels

namespace Number

theorem same_refl (n : Number) : n.same n = true := by
  cases n with
  | int i => simp [same]
  | float x => simp [same, Numeric.Binary64.same]

theorem same_trans {m n p : Number} (hmn : m.same n = true) (hnp : n.same p = true) : m.same p = true := by
  cases m <;> cases n <;> cases p <;> simp_all [same, Numeric.Binary64.same]

end Number

namespace Json

theorem sameMembers_iff (ms ns : Members) :
    sameMembers ms ns = true ↔ ∀ item ∈ ms, ∃ other, ns.lookup item.1 = some other ∧ item.2.same other = true := by
  induction ms with
  | nil => simp [sameMembers]
  | cons member ms ih =>
    obtain ⟨name, value⟩ := member
    rw [sameMembers, Bool.and_eq_true, ih, List.forall_mem_cons]
    apply and_congr_left'
    cases hfind : ns.lookup name with
    | none => simp
    | some other => simp

mutual

/-- **A value with distinct names is equal to itself.** -/
theorem same_refl : ∀ v : Json, v.Distinct → v.same v = true
  | .null, _ => rfl
  | .bool _, _ => by simp [same]
  | .number n, _ => n.same_refl
  | .string _, _ => by simp [same]
  | .array items, h => by
    rw [same]
    exact sameItems_refl items h
  | .object members, h => by
    rw [same, Bool.and_eq_true]
    refine ⟨by simp, (sameMembers_iff _ _).2 ?_⟩
    intro item hitem
    exact ⟨item.2, lookup_of_mem h.1 hitem, members_refl members h.2 item hitem⟩

theorem sameItems_refl : ∀ items : List Json, DistinctItems items → sameItems items items = true
  | [], _ => rfl
  | item :: items, h => by
    rw [sameItems, Bool.and_eq_true]
    exact ⟨same_refl item h.1, sameItems_refl items h.2⟩

theorem members_refl : ∀ members : List (String × Json), DistinctMembers members →
    ∀ item ∈ members, item.2.same item.2 = true
  | [], _, _, hitem => by cases hitem
  | (name, value) :: members, h, item, hitem => by
    rcases List.mem_cons.1 hitem with rfl | hitem
    · exact same_refl value h.1
    · exact members_refl members h.2 item hitem

end

mutual

/-- **Equality of values is transitive.** -/
theorem same_trans : ∀ u v w : Json, u.same v = true → v.same w = true → u.same w = true
  | .null, v, w, huv, hvw => by
    cases v with
    | null => exact hvw
    | _ => cases huv
  | .bool a, v, w, huv, hvw => by
    cases v with
    | bool b =>
      obtain rfl : a = b := by simpa [same] using huv
      exact hvw
    | _ => cases huv
  | .number m, v, w, huv, hvw => by
    cases v with
    | number n =>
      cases w with
      | number p => exact Number.same_trans huv hvw
      | _ => cases hvw
    | _ => cases huv
  | .string s, v, w, huv, hvw => by
    cases v with
    | string t =>
      obtain rfl : s = t := by simpa [same] using huv
      exact hvw
    | _ => cases huv
  | .array xs, v, w, huv, hvw => by
    cases v with
    | array ys =>
      cases w with
      | array zs =>
        rw [same] at huv hvw ⊢
        exact sameItems_trans xs ys zs huv hvw
      | _ => cases hvw
    | _ => cases huv
  | .object ms, v, w, huv, hvw => by
    cases v with
    | object ns =>
      cases w with
      | object ps =>
        rw [same, Bool.and_eq_true, beq_iff_eq] at huv hvw ⊢
        refine ⟨huv.1.trans hvw.1, (sameMembers_iff _ _).2 ?_⟩
        intro item hitem
        obtain ⟨other, hfind, hsame⟩ := (sameMembers_iff _ _).1 huv.2 item hitem
        obtain ⟨third, hthird, hsame'⟩ := (sameMembers_iff _ _).1 hvw.2 _ (mem_of_lookup hfind)
        exact ⟨third, hthird, members_trans ms item hitem other third hsame hsame'⟩
      | _ => cases hvw
    | _ => cases huv

theorem sameItems_trans : ∀ xs ys zs : List Json, sameItems xs ys = true → sameItems ys zs = true →
    sameItems xs zs = true
  | [], ys, zs, hxy, hyz => by
    cases ys with
    | nil => exact hyz
    | cons y ys => cases hxy
  | x :: xs, ys, zs, hxy, hyz => by
    cases ys with
    | nil => cases hxy
    | cons y ys =>
      cases zs with
      | nil => cases hyz
      | cons z zs =>
        rw [sameItems, Bool.and_eq_true] at hxy hyz ⊢
        exact ⟨same_trans x y z hxy.1 hyz.1, sameItems_trans xs ys zs hxy.2 hyz.2⟩

theorem members_trans : ∀ ms : List (String × Json), ∀ item ∈ ms, ∀ v w : Json, item.2.same v = true →
    v.same w = true → item.2.same w = true
  | [], _, hitem, _, _, _, _ => by cases hitem
  | (name, value) :: ms, item, hitem, v, w, huv, hvw => by
    rcases List.mem_cons.1 hitem with rfl | hitem
    · exact same_trans value v w huv hvw
    · exact members_trans ms item hitem v w huv hvw

end

end Json

end DocumentModels
