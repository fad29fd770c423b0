/-
TOML values.
-/
import DocumentModels.Numeric.Shortest

namespace DocumentModels.Toml

open Numeric

/-- a binary64 number that may also be infinite or no number -/
inductive FloatValue where
  | finite (value : Binary64)
  | infinite (negative : Bool)
  | nan
  deriving DecidableEq

namespace FloatValue

/-- the nearest number to `digits * 10 ^ exponent`; beyond the finite range an infinity -/
def ofDecimal (negative : Bool) (digits : Nat) (exponent : Int) : FloatValue :=
  let magnitude := (digitCount digits : Int) + exponent
  if digits = 0 ∨ magnitude < -330 then .finite (Binary64.zero.withSign negative)
  else if 330 < magnitude then .infinite negative
  else
    match Binary64.ofDecimal? negative digits exponent with
    | some x => .finite x
    | none => .infinite negative

/-- text without exponent, and without a point if there is no fraction -/
def text : FloatValue → String
  | .finite x => DecimalLayout.text ⟨-400, 400, false⟩ x
  | .infinite true => "-inf"
  | .infinite false => "inf"
  | .nan => "NaN"

def isZero : FloatValue → Bool
  | .finite x => x.place = 0
  | _ => false

end FloatValue

/-- a TOML value; dates and times are kept as their text -/
inductive Value where
  | string (text : String)
  | integer (value : Int)
  | float (value : FloatValue)
  | boolean (value : Bool)
  | array (items : List Value)
  | table (entries : List (String × Value))

end DocumentModels.Toml
