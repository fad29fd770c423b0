/-
Shortest decimal digits of a binary64 number.

For one digit, two digits and so on, the two decimals of that many digits on either side of the exact value are
tried; the first number of digits for which one of them rounds back to the number wins, and of two that do the nearer
is taken. Seventeen digits always suffice.
-/
import DocumentModels.Numeric.Binary64

namespace DocumentModels.Numeric

/-- a decimal `digits * 10 ^ exponent` -/
structure Decimal where
  digits : Nat
  exponent : Int
  deriving DecidableEq, Repr

/-- number of decimal digits of a natural; zero has one -/
def digitCount (n : Nat) : Nat := (Nat.toDigits 10 n).length

namespace Decimal

/-- drop the trailing zeros of the digits, at most `fuel` of them -/
def trimZeros : Nat → Decimal → Decimal
  | 0, d => d
  | fuel + 1, d => if d.digits ≠ 0 ∧ d.digits % 10 = 0 then trimZeros fuel ⟨d.digits / 10, d.exponent + 1⟩ else d

def readsBackTo (d : Decimal) (x : Binary64) : Bool :=
  match Binary64.ofDecimal? x.negative d.digits d.exponent with
  | some y => decide (y = x)
  | none => false

end Decimal

namespace Binary64

/-- power of ten of the leading digit of a nonzero number -/
def leadingExponent (x : Binary64) : Int :=
  let whole := x.units >>> unitBits
  if whole ≠ 0 then (digitCount whole : Int) - 1
  else -(digitCount ((1 <<< unitBits - 1) / x.units) : Int)

/-- the nearer of the two `count`-digit decimals around `x` that reads back, if one does -/
def shortestOf? (x : Binary64) (lead : Int) (count : Nat) : Option Decimal :=
  let exponent := lead - (count : Int) + 1
  let num := if 0 ≤ exponent then x.units else x.units * Nat.pow 10 (-exponent).toNat
  let den := if 0 ≤ exponent then Nat.pow 10 exponent.toNat <<< unitBits else 1 <<< unitBits
  let below : Decimal := ⟨num / den, exponent⟩
  let above : Decimal := ⟨num / den + 1, exponent⟩
  let nearerIsBelow := 2 * (num % den) < den || (2 * (num % den) == den && num / den % 2 == 0)
  let candidates := if nearerIsBelow then [below, above] else [above, below]
  candidates.find? (·.readsBackTo x)

def exactDecimal (x : Binary64) : Decimal := ⟨x.units * Nat.pow 5 unitBits, -unitBits⟩

/-- the shortest decimal that reads back, the nearest one of them -/
def shortest (x : Binary64) : Decimal :=
  if x.place = 0 then ⟨0, 0⟩
  else
    let lead := x.leadingExponent
    let found := (List.range 17).findSome? fun i => x.shortestOf? lead (i + 1)
    Decimal.trimZeros 1100 (found.getD x.exactDecimal)

end Binary64

/-- how a decimal is laid out as text -/
structure DecimalLayout where
  /-- least place of the decimal point, counted from the first digit, that is written without exponent -/
  lowestPoint : Int
  /-- greatest such place -/
  highestPoint : Int
  /-- whether a number without fraction ends in `.0` -/
  keepsPoint : Bool

namespace DecimalLayout

/-- digits with the decimal point after `point` of them -/
def positional (layout : DecimalLayout) (digits : String) (point : Int) : String :=
  let count := digits.length
  if point ≤ 0 then "0." ++ "".pushn '0' (-point).toNat ++ digits
  else if count ≤ point.toNat then
    digits ++ "".pushn '0' (point.toNat - count) ++ (if layout.keepsPoint then ".0" else "")
  else String.ofList (digits.toList.take point.toNat) ++ "." ++ String.ofList (digits.toList.drop point.toNat)

/-- one digit before the point and a signed exponent -/
def scientific (digits : String) (point : Int) : String :=
  let rest := digits.toList.drop 1
  let fraction := if rest.isEmpty then "" else "." ++ String.ofList rest
  let exponent := point - 1
  let sign := if exponent < 0 then "-" else "+"
  String.ofList (digits.toList.take 1) ++ fraction ++ "e" ++ sign ++ toString exponent.natAbs

def text (layout : DecimalLayout) (x : Binary64) : String :=
  let sign := if x.negative then "-" else ""
  if x.place = 0 then sign ++ (if layout.keepsPoint then "0.0" else "0")
  else
    let d := x.shortest
    let digits := toString d.digits
    let point := (digits.length : Int) + d.exponent
    if layout.lowestPoint ≤ point ∧ point ≤ layout.highestPoint then sign ++ layout.positional digits point
    else sign ++ scientific digits point

end DecimalLayout

end DocumentModels.Numeric
