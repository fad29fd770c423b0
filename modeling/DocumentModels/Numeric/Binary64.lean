/-
Finite binary64 numbers, exactly.

The nonnegative finite binary64 numbers form one increasing list: place 0 is zero, place 1 the least positive
number 2^-1074, place 2^52 the least normal one. A number is a sign and a place, so the order of magnitudes is the
order of places, and every operation here is exact arithmetic on naturals followed by one rounding to the nearest
place, ties going to the even significand. There is no infinity and no NaN: an operation that leaves the finite
range returns `none`.
-/
namespace DocumentModels.Numeric

/-- a finite binary64 number: its sign and the place of its magnitude -/
structure Binary64 where
  negative : Bool
  place : Nat
  place_lt : place < 2047 <<< 52
  deriving DecidableEq

/-- one is 2 to this power in units of the least positive number -/
def unitBits : Nat := 1074

/-- nearest integer to `num / den`, a tie going to the even one -/
def roundHalfEven (num den : Nat) : Nat :=
  let q := num / den
  let r := num % den
  if 2 * r < den then q
  else if den < 2 * r then q + 1
  else q + q % 2

/-- place of the binary64 magnitude nearest to `num / den`; it may lie past the last finite place -/
def nearestPlace (num den : Nat) : Nat :=
  let units := num <<< unitBits
  let whole := units / den
  let scale := if whole < 1 <<< 53 then 0 else Nat.log2 whole - 52
  scale <<< 52 + roundHalfEven units (den <<< scale)

namespace Binary64

def zero : Binary64 := ⟨false, 0, by decide⟩

instance : Inhabited Binary64 := ⟨zero⟩

/-- the finite number of a sign and a place, if the place is finite -/
def ofPlace? (negative : Bool) (place : Nat) : Option Binary64 :=
  if h : place < 2047 <<< 52 then some ⟨negative, place, h⟩ else none

/-- nearest finite number to `num / den` with a sign; `none` past the finite range -/
def ofRatio? (negative : Bool) (num den : Nat) : Option Binary64 :=
  ofPlace? negative (nearestPlace num den)

def ofDecimal? (negative : Bool) (digits : Nat) (exponent : Int) : Option Binary64 :=
  if 0 ≤ exponent then ofRatio? negative (digits * Nat.pow 10 exponent.toNat) 1
  else ofRatio? negative digits (Nat.pow 10 (-exponent).toNat)

/-- number of doublings that separate the significand from units of 2^-1074 -/
def scale (x : Binary64) : Nat := x.place >>> 52 - 1

/-- the integer significand, below 2^53 -/
def significand (x : Binary64) : Nat := x.place - x.scale <<< 52

/-- magnitude in units of 2^-1074 -/
def units (x : Binary64) : Nat := x.significand <<< x.scale

/-- position in the numeric order; both zeros have rank 0 -/
def rank (x : Binary64) : Int := if x.negative then -(x.place : Int) else x.place

def lt (x y : Binary64) : Bool := decide (x.rank < y.rank)

/-- numeric equality; it identifies the two zeros -/
def same (x y : Binary64) : Bool := x.rank == y.rank

def isIntegral (x : Binary64) : Bool := x.units % (1 <<< unitBits) == 0

/-- the same magnitude with the other sign -/
def neg (x : Binary64) : Binary64 := { x with negative := !x.negative }

def withSign (negative : Bool) (x : Binary64) : Binary64 := { x with negative := negative }

def ofNat? (n : Nat) : Option Binary64 := ofRatio? false n 1

/-- rounded product of two magnitudes -/
def mulMagnitude? (x y : Binary64) : Option Binary64 :=
  ofRatio? false (x.units * y.units) (1 <<< (2 * unitBits))

def divMagnitude? (x y : Binary64) : Option Binary64 :=
  ofRatio? false x.units y.units

end Binary64

end DocumentModels.Numeric
