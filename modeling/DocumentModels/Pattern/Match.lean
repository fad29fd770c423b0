/-
Matching.

The places of a text are numbered from its start, and a set of places is a natural whose bits say which places are in
it. Before a search every test of an expression is replaced by the set of places of this text at which it holds; an
expression then maps the places where a match may begin to those where it may end.
-/
import DocumentModels.Pattern.Reader

namespace DocumentModels.Pattern

/-- a set of places of a text -/
abbrev Places := Nat

def placesBefore (test : Char → Bool) : List Char → Places
  | [] => 0
  | c :: rest => (if test c then 1 else 0) + 2 * placesBefore test rest

/-- the places at which a test of the neighbours holds, given the character before the text -/
def placesBetween (test : Option Char → Option Char → Bool) (before : Option Char) : List Char → Places
  | [] => if test before none then 1 else 0
  | c :: rest => (if test before (some c) then 1 else 0) + 2 * placesBetween test (some c) rest

def inWord (ascii : Bool) (c : Option Char) : Bool :=
  match c with
  | some c => if ascii || c.toNat < 128 then asciiWord.contains c.toNat else anyWord.contains c.toNat
  | none => false

/-- whether a test holds between two characters, of which either may be missing -/
def Look.holds (look : Look) (before after : Option Char) : Bool :=
  match look with
  | .textStart => before.isNone
  | .textEnd => after.isNone
  | .lineStart false => before.isNone || before == some '\n'
  | .lineEnd false => after.isNone || after == some '\n'
  | .lineStart true => before.isNone || before == some '\n' || (before == some '\r' && after != some '\n')
  | .lineEnd true => after.isNone || after == some '\r' || (after == some '\n' && before != some '\r')
  | .wordBoundary ascii => inWord ascii before != inWord ascii after
  | .notWordBoundary ascii => inWord ascii before == inWord ascii after
  | .wordStart ascii => !inWord ascii before && inWord ascii after
  | .wordEnd ascii => inWord ascii before && !inWord ascii after
  | .wordStartHalf ascii => !inWord ascii before
  | .wordEndHalf ascii => !inWord ascii after

/-- an expression whose tests are sets of places of one text -/
abbrev Placed := Expr Places Places

def Syntax.place (expr : Syntax) (text : List Char) : Placed :=
  expr.map (fun set => placesBefore (fun c => set.contains c.toNat) text)
    (fun look => placesBetween look.holds none text)

/-- apply a step `count` times, and stop early once it changes nothing -/
def iterate (step : Places → Places) : Nat → Places → Places
  | 0, places => places
  | count + 1, places =>
    let next := step places
    if next = places then places else iterate step count next

/-- the places reached by up to `count` steps, and stop early once a step reaches nothing new -/
def reach (step : Places → Places) : Nat → Places → Places
  | 0, places => places
  | count + 1, places =>
    let next := places ||| step places
    if next = places then places else reach step count next

/-- from the places where a match may begin to those where it may end, in a text of a given length -/
def Expr.ends (length : Nat) : Placed → Places → Places
  | .empty, places => places
  | .set before, places => (places &&& before) <<< 1
  | .look here, places => places &&& here
  | .seq first second, places => ends length second (ends length first places)
  | .alt first second, places => ends length first places ||| ends length second places
  | .repeat body min none, places => reach (ends length body) (length + 1) (iterate (ends length body) min places)
  | .repeat body min (some max), places =>
    reach (ends length body) (max - min) (iterate (ends length body) min places)

/-- whether the expression matches somewhere in the text -/
def Syntax.isMatch (expr : Syntax) (text : String) : Bool :=
  let chars := text.toList
  let length := chars.length
  Expr.ends length (Syntax.place expr chars) (1 <<< (length + 1) - 1) ≠ 0

end DocumentModels.Pattern
