/-
Patterns: regular expressions over characters, without look-around and without back references.
-/
import DocumentModels.Pattern.CharSet

namespace DocumentModels.Pattern

/-- a test of the place between two characters -/
inductive Look where
  | textStart
  | textEnd
  | lineStart (crlf : Bool)
  | lineEnd (crlf : Bool)
  | wordBoundary (ascii : Bool)
  | notWordBoundary (ascii : Bool)
  | wordStart (ascii : Bool)
  | wordEnd (ascii : Bool)
  /-- what stands before is no part of a word -/
  | wordStartHalf (ascii : Bool)
  /-- what stands after is no part of a word -/
  | wordEndHalf (ascii : Bool)
  deriving DecidableEq

/-- a regular expression over tests of one character and tests of a place -/
inductive Expr (σ τ : Type) where
  | empty
  | set (chars : σ)
  | look (test : τ)
  | seq (first second : Expr σ τ)
  | alt (first second : Expr σ τ)
  /-- at least `min` times, and at most `max` times if it is given -/
  | repeat (body : Expr σ τ) (min : Nat) (max : Option Nat)

namespace Expr

/-- replace the tests of characters and of places -/
def map (f : σ → σ') (g : τ → τ') : Expr σ τ → Expr σ' τ'
  | .empty => .empty
  | .set chars => .set (f chars)
  | .look test => .look (g test)
  | .seq first second => .seq (first.map f g) (second.map f g)
  | .alt first second => .alt (first.map f g) (second.map f g)
  | .repeat body min max => .repeat (body.map f g) min max

/-- whether the expression takes no character, whatever it matches -/
def takesNothing : Expr σ τ → Bool
  | .empty => true
  | .set _ => false
  | .look _ => true
  | .seq first second => first.takesNothing && second.takesNothing
  | .alt first second => first.takesNothing && second.takesNothing
  | .repeat body _ max => body.takesNothing || max == some 0

end Expr

/-- a regular expression over sets of characters -/
abbrev Syntax := Expr CharSet Look

/-- number of bytes that the states of a set are counted with: one state for ASCII characters in a row, else about two
states for every run of characters -/
def CharSet.cost : CharSet → Nat
  | .ranges [range] => if range.last < 128 then 32 else 96
  | .compl set => 900 + 64 * CodeRange.runCount set.leaves
  | set =>
    let runs := CodeRange.runCount set.leaves
    if set.leaves.all (·.last < 128) then 64 + 8 * runs else 64 * (1 + runs)

/-- number of bytes that the states of an expression are counted with: repeated parts in full, unless they take no
character -/
def Expr.cost : Syntax → Nat
  | .empty => 32
  | .set chars => chars.cost
  | .look _ => 32
  | .seq first second => cost first + cost second
  | .alt first second => cost first + cost second + 64
  | .repeat body min max =>
    if body.takesNothing then cost body + 64
    else
      match max with
      | none => Nat.max min 1 * cost body + 64
      | some max => min * cost body + (max - min) * (cost body + 32) + 32

/-- most bytes that an expression may be counted with -/
def costLimit : Nat := 10 <<< 20

end DocumentModels.Pattern
