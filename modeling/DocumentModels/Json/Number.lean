/-
JSON numbers as text.

An integer literal that fits 64 bits is an integer; a negative zero, a longer integer and every literal with a
fraction or an exponent is a binary64 number. Reading keeps at most the digits that fit an unsigned 64-bit
significand: later digits of the integer part only raise the exponent, later digits of the fraction are dropped. The
significand is rounded once, then multiplied or divided by a rounded power of ten.
-/
import DocumentModels.Json.Basic
import DocumentModels.Numeric.Shortest

namespace DocumentModels

open Numeric

def digitValue (c : Char) : Nat := c.toNat - '0'.toNat

def isDigit (c : Char) : Bool := '0' ≤ c && c ≤ '9'

def natOfDigits (digits : List Char) : Nat :=
  digits.foldl (fun n c => n * 10 + digitValue c) 0

structure NumberLiteral where
  negative : Bool
  whole : List Char
  fraction : Option (List Char)
  /-- sign and digits of the exponent -/
  exponent : Option (Bool × List Char)

namespace NumberLiteral

/-- cut the exponent part off; nothing may follow it -/
def exponentOf? : List Char → Option (Option (Bool × List Char))
  | [] => some none
  | c :: rest =>
    if c = 'e' ∨ c = 'E' then
      let (negative, digits) :=
        match rest with
        | '+' :: digits => (false, digits)
        | '-' :: digits => (true, digits)
        | digits => (false, digits)
      if digits ≠ [] ∧ digits.all isDigit then some (some (negative, digits)) else none
    else none

/-- read the parts of a whole literal -/
def ofChars? (chars : List Char) : Option NumberLiteral := do
  let (negative, body) :=
    match chars with
    | '-' :: rest => (true, rest)
    | rest => (false, rest)
  let whole := body.takeWhile isDigit
  let rest := body.dropWhile isDigit
  guard (whole ≠ [] ∧ (whole.length = 1 ∨ whole.head? ≠ some '0'))
  match rest with
  | '.' :: rest =>
    let fraction := rest.takeWhile isDigit
    guard (fraction ≠ [])
    let exponent ← exponentOf? (rest.dropWhile isDigit)
    return ⟨negative, whole, some fraction, exponent⟩
  | rest =>
    let exponent ← exponentOf? rest
    return ⟨negative, whole, none, exponent⟩

/-- digits kept in a 64-bit significand, with the number of digits counted after them -/
structure Kept where
  significand : Nat
  counted : Nat
  full : Bool

namespace Kept

/-- keep a digit of the integer part, or count it once the significand is full -/
def wholeDigit (kept : Kept) (c : Char) : Kept :=
  let next := kept.significand * 10 + digitValue c
  if kept.full ∨ 1 <<< 64 ≤ next then { kept with counted := kept.counted + 1, full := true }
  else { kept with significand := next }

/-- keep and count a digit of the fraction, or drop it once the significand is full -/
def fractionDigit (kept : Kept) (c : Char) : Kept :=
  let next := kept.significand * 10 + digitValue c
  if kept.full ∨ 1 <<< 64 ≤ next then { kept with full := true }
  else { kept with significand := next, counted := kept.counted + 1 }

end Kept

/-- the rounded power of ten, of an exponent of at most 308 -/
def powerOfTen (exponent : Nat) : Binary64 := (Binary64.ofDecimal? false 1 exponent).getD .zero

/-- divide by a power of ten, in steps of at most 10^308 -/
def scaleDown (x : Binary64) (exponent : Nat) : Option Binary64 :=
  if exponent ≤ 308 then x.divMagnitude? (powerOfTen exponent)
  else if x.place = 0 then some x
  else do scaleDown (← x.divMagnitude? (powerOfTen 308)) (exponent - 308)
termination_by exponent

def scaled? (negative : Bool) (significand : Nat) (exponent : Int) : Option Binary64 := do
  let x ← Binary64.ofNat? significand
  let y ←
    if 0 ≤ exponent then
      if exponent ≤ 308 then x.mulMagnitude? (powerOfTen exponent.toNat)
      else if x.place = 0 then some x
      else none
    else scaleDown x (-exponent).toNat
  return y.withSign negative

def value? (literal : NumberLiteral) : Option Number := do
  let whole := literal.whole.foldl Kept.wholeDigit ⟨0, 0, false⟩
  if literal.fraction = none ∧ literal.exponent = none ∧ whole.full = false then
    if literal.negative then
      if 0 < whole.significand ∧ whole.significand ≤ 1 <<< 63 then return .int (-(whole.significand : Int))
      else return .float ((← Binary64.ofNat? whole.significand).withSign true)
    else return .int whole.significand
  else
    let all := (literal.fraction.getD []).foldl Kept.fractionDigit ⟨whole.significand, 0, false⟩
    let start : Int := (whole.counted : Int) - all.counted
    match literal.exponent with
    | none => return .float (← scaled? literal.negative all.significand start)
    | some (down, digits) =>
      let exponent := natOfDigits digits
      if 1 <<< 31 ≤ exponent then
        if all.significand ≠ 0 ∧ down = false then none
        else return .float (Binary64.zero.withSign literal.negative)
      else
        let exponent : Int := if down then start - exponent else start + exponent
        return .float (← scaled? literal.negative all.significand exponent)

end NumberLiteral

namespace Number

def ofChars? (chars : List Char) : Option Number := NumberLiteral.ofChars? chars >>= NumberLiteral.value?

/-- binary64 numbers from 10^-5 up to 10^16 are written without exponent, and always with a point -/
def layout : DecimalLayout := ⟨-4, 16, true⟩

def text : Number → String
  | .int i => toString i
  | .float x => layout.text x

end Number

end DocumentModels
