/-
Shortest decimals, read back.

- `nearestPlace_of_ratio_eq`, `ofDecimal?_of_value_eq`: reading a decimal rounds its value, however the value is split
  into digits and an exponent.
- `exactDecimal_readsBackTo`: the exact expansion of a number reads back to it.
- `shortest_readsBackTo`: so does the shortest decimal, whether a short one was found or the exact one stands in. That
  seventeen digits suffice is not needed.
-/
import Mathlib.Tactic
import DocumentModels.Numeric.Shortest

namespace DocumentModels.Numeric

/-! ## Rounding looks at the ratio only -/

theorem roundHalfEven_scale (num den k : Nat) (hk : 0 < k) :
    roundHalfEven (num * k) (den * k) = roundHalfEven num den := by
  have hlow : 2 * (num % den * k) < den * k ↔ 2 * (num % den) < den := by
    rw [← mul_assoc]; exact Nat.mul_lt_mul_right hk
  have hhigh : den * k < 2 * (num % den * k) ↔ den < 2 * (num % den) := by
    rw [← mul_assoc]; exact Nat.mul_lt_mul_right hk
  simp only [roundHalfEven, Nat.mul_div_mul_right _ _ hk, Nat.mul_mod_mul_right, hlow, hhigh]

/-- the place of a ratio, for an arbitrary number of units in one -/
def placeIn (unit num den : Nat) : Nat :=
  let whole := num * unit / den
  let scale := if whole < 2 ^ 53 then 0 else Nat.log2 whole - 52
  scale * 2 ^ 52 + roundHalfEven (num * unit) (den * 2 ^ scale)

theorem nearestPlace_eq_placeIn (num den : Nat) : nearestPlace num den = placeIn (2 ^ unitBits) num den := by
  simp only [nearestPlace, placeIn, Nat.shiftLeft_eq, one_mul]

theorem placeIn_scale (unit num den k : Nat) (hk : 0 < k) :
    placeIn unit (num * k) (den * k) = placeIn unit num den := by
  unfold placeIn
  have hwhole : num * k * unit / (den * k) = num * unit / den := by
    rw [mul_right_comm, Nat.mul_div_mul_right _ _ hk]
  simp only [hwhole]
  rw [mul_right_comm num k, mul_right_comm den k, roundHalfEven_scale _ _ k hk]

/-- **The nearest place depends on the ratio only.** -/
theorem nearestPlace_of_ratio_eq {num den num' den' : Nat} (hd : 0 < den) (hd' : 0 < den')
    (h : num * den' = num' * den) : nearestPlace num den = nearestPlace num' den' := by
  simp only [nearestPlace_eq_placeIn]
  rw [← placeIn_scale _ num den den' hd', ← placeIn_scale _ num' den' den hd, h, mul_comm den den']

/-! ## Values of decimals -/

namespace Decimal

def value (d : Decimal) : ℚ := d.digits * 10 ^ d.exponent

theorem value_eq_ratio (d : Decimal) :
    d.value = ((d.digits * 10 ^ d.exponent.toNat : ℕ) : ℚ) / ((10 ^ (-d.exponent).toNat : ℕ) : ℚ) := by
  obtain ⟨n, hn | hn⟩ := Int.eq_nat_or_neg d.exponent
  · simp [value, hn]
  · simp [value, hn, div_eq_mul_inv]

end Decimal

namespace Binary64

theorem ofDecimal?_eq_ofRatio? (negative : Bool) (d : Decimal) :
    ofDecimal? negative d.digits d.exponent
      = ofRatio? negative (d.digits * 10 ^ d.exponent.toNat) (10 ^ (-d.exponent).toNat) := by
  unfold ofDecimal?
  split_ifs with h
  · rw [Int.toNat_of_nonpos (by omega : -d.exponent ≤ 0), pow_zero, Nat.pow_eq]
  · rw [Int.toNat_of_nonpos (by omega : d.exponent ≤ 0), pow_zero, mul_one, Nat.pow_eq]

/-- **Reading depends on the value of a decimal only.** -/
theorem ofDecimal?_of_value_eq {d e : Decimal} (negative : Bool) (h : d.value = e.value) :
    ofDecimal? negative d.digits d.exponent = ofDecimal? negative e.digits e.exponent := by
  have hd : 0 < 10 ^ (-d.exponent).toNat := by positivity
  have he : 0 < 10 ^ (-e.exponent).toNat := by positivity
  rw [d.value_eq_ratio, e.value_eq_ratio, div_eq_div_iff (by positivity) (by positivity)] at h
  rw [ofDecimal?_eq_ofRatio?, ofDecimal?_eq_ofRatio?, ofRatio?, ofRatio?,
    nearestPlace_of_ratio_eq hd he (by exact_mod_cast h)]

end Binary64

theorem Decimal.readsBackTo_iff {d : Decimal} {x : Binary64} :
    d.readsBackTo x = true ↔ Binary64.ofDecimal? x.negative d.digits d.exponent = some x := by
  unfold Decimal.readsBackTo
  split
  · rename_i y hy
    simp [hy]
  · rename_i hy
    simp [hy]

theorem Decimal.readsBackTo_of_value_eq {d e : Decimal} {x : Binary64} (h : d.value = e.value)
    (hd : d.readsBackTo x = true) : e.readsBackTo x = true := by
  rw [readsBackTo_iff] at hd ⊢
  rw [← Binary64.ofDecimal?_of_value_eq _ h, hd]

theorem Decimal.value_trimZeros (fuel : Nat) (d : Decimal) : (trimZeros fuel d).value = d.value := by
  induction fuel generalizing d with
  | zero => rfl
  | succ fuel ih =>
    unfold trimZeros
    split_ifs with h
    · rw [ih]
      have hd : d.digits = d.digits / 10 * 10 := by omega
      have hcast : (d.digits : ℚ) = ((d.digits / 10 : ℕ) : ℚ) * 10 := by exact_mod_cast hd
      simp only [value]
      rw [hcast, zpow_add_one₀ (by norm_num)]
      ring
    · rfl

/-! ## The exact expansion -/

namespace Binary64

variable (x : Binary64)

theorem units_eq : x.units = x.significand * 2 ^ x.scale := by
  rw [units, Nat.shiftLeft_eq]

theorem place_eq : x.place = x.scale * 2 ^ 52 + x.significand := by
  have hle : x.scale * 2 ^ 52 ≤ x.place := by
    unfold scale; omega
  unfold significand; omega

theorem significand_lt : x.significand < 2 ^ 53 := by
  unfold significand scale; omega

theorem le_significand (h : x.scale ≠ 0) : 2 ^ 52 ≤ x.significand := by
  unfold significand
  unfold scale at h ⊢
  omega

/-- the number of doublings can be read off the magnitude -/
theorem scale_eq : x.scale = if x.units < 2 ^ 53 then 0 else Nat.log2 x.units - 52 := by
  have hlt := x.significand_lt
  rcases Nat.eq_zero_or_pos x.scale with h0 | hpos
  · have hsmall : x.units < 2 ^ 53 := by
      rw [units_eq, h0, pow_zero, mul_one]
      exact hlt
    rw [if_pos hsmall, h0]
  · have hge := x.le_significand (by omega)
    have hlog : Nat.log2 x.units = 52 + x.scale := by
      have hunits : 0 < x.significand * 2 ^ x.scale := Nat.mul_pos (by omega) (Nat.two_pow_pos _)
      rw [units_eq, Nat.log2_eq_iff hunits.ne', pow_add, show 52 + x.scale + 1 = 53 + x.scale by omega, pow_add]
      exact ⟨Nat.mul_le_mul_right _ hge, Nat.mul_lt_mul_of_pos_right hlt (by positivity)⟩
    have hbig : ¬ x.units < 2 ^ 53 := by
      have h1 : 2 ^ 1 ≤ 2 ^ x.scale := Nat.pow_le_pow_right (by norm_num) hpos
      have h2 : 2 ^ 52 * 2 ^ 1 ≤ x.units := by
        rw [units_eq]
        exact Nat.mul_le_mul hge h1
      omega
    rw [if_neg hbig, hlog]; omega

end Binary64

theorem roundHalfEven_mul (n den : Nat) (hd : 0 < den) : roundHalfEven (n * den) den = n := by
  unfold roundHalfEven
  simp [Nat.mul_div_cancel _ hd, hd]

namespace Binary64

theorem placeIn_units (x : Binary64) {unit : Nat} (hu : 0 < unit) : placeIn unit x.units unit = x.place := by
  unfold placeIn
  simp only [Nat.mul_div_cancel _ hu, ← scale_eq]
  rw [show x.units * unit = x.significand * (unit * 2 ^ x.scale) by rw [units_eq]; ring,
    roundHalfEven_mul _ _ (by positivity), ← place_eq]

theorem exactDecimal_readsBackTo (x : Binary64) : x.exactDecimal.readsBackTo x = true := by
  have h : nearestPlace (x.units * 5 ^ unitBits) (10 ^ unitBits) = x.place := by
    rw [nearestPlace_eq_placeIn, show (10 : ℕ) = 2 * 5 from rfl, mul_pow, placeIn_scale _ _ _ _ (by positivity),
      placeIn_units x (by positivity)]
  have hdigits : x.exactDecimal.digits = x.units * 5 ^ unitBits := by rw [exactDecimal, Nat.pow_eq]
  have hexp : x.exactDecimal.exponent = -(unitBits : ℤ) := rfl
  rw [Decimal.readsBackTo_iff, ofDecimal?_eq_ofRatio?, hdigits, hexp, Int.toNat_neg_natCast, neg_neg, Int.toNat_natCast,
    pow_zero, mul_one, ofRatio?, h, ofPlace?, dif_pos x.place_lt]

theorem zero_readsBackTo (x : Binary64) (hx : x.place = 0) : Decimal.readsBackTo ⟨0, 0⟩ x = true := by
  have hplace : nearestPlace 0 1 = x.place := by
    simp [nearestPlace_eq_placeIn, placeIn, roundHalfEven, hx]
  have hratio : ofRatio? x.negative 0 1 = some x := by
    rw [ofRatio?, hplace, ofPlace?, dif_pos x.place_lt]
  rw [Decimal.readsBackTo_iff, ofDecimal?_eq_ofRatio?]
  simpa using hratio

/-- **The shortest decimal of a number reads back.** -/
theorem shortest_readsBackTo (x : Binary64) (hx : x.place ≠ 0) : x.shortest.readsBackTo x = true := by
  unfold shortest
  rw [if_neg hx]
  refine Decimal.readsBackTo_of_value_eq (Decimal.value_trimZeros _ _).symm ?_
  cases hfound : (List.range 17).findSome? fun i => x.shortestOf? x.leadingExponent (i + 1) with
  | none => exact x.exactDecimal_readsBackTo
  | some d =>
    obtain ⟨i, -, hi⟩ := List.exists_of_findSome?_eq_some hfound
    unfold shortestOf? at hi
    simpa using List.find?_some hi

end Binary64

end DocumentModels.Numeric
