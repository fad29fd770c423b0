/-
Sets between square brackets.

A bracket holds characters, ranges, class escapes, POSIX classes and further brackets, which are united, and the
operators `&&`, `--` and `~~`, which bind less tightly and from left to right. The reader keeps a stack of what is open.
-/
import DocumentModels.Pattern.Escape

namespace DocumentModels.Pattern.Bracket

/-- a part of a set, and how many levels of nesting it counts as -/
structure Part where
  set : CharSet
  depth : Nat := 0

inductive Operator where
  | inter
  | diff
  | symmetricDiff

/-- what is open: a bracket with the parts before it, or an operator with its left side -/
inductive Frame where
  | opened (before : List Part) (negated : Bool)
  | operator (op : Operator) (left : Part)

/-- what is left to read, the parts read last in reverse, and what is open -/
structure State where
  rest : List Char
  parts : List Part
  frames : List Frame

def posixClass? : String → Option CharSet
  | "alnum" => some (.ranges [⟨0x30, 0x39, 1⟩, ⟨0x41, 0x5A, 1⟩, ⟨0x61, 0x7A, 1⟩])
  | "alpha" => some (.ranges [⟨0x41, 0x5A, 1⟩, ⟨0x61, 0x7A, 1⟩])
  | "ascii" => some (.range 0 0x7F)
  | "blank" => some (.ranges [⟨0x09, 0x09, 1⟩, ⟨0x20, 0x20, 1⟩])
  | "cntrl" => some (.ranges [⟨0, 0x1F, 1⟩, ⟨0x7F, 0x7F, 1⟩])
  | "digit" => some asciiDigit
  | "graph" => some (.range 0x21 0x7E)
  | "lower" => some (.range 0x61 0x7A)
  | "print" => some (.range 0x20 0x7E)
  | "punct" => some (.ranges [⟨0x21, 0x2F, 1⟩, ⟨0x3A, 0x40, 1⟩, ⟨0x5B, 0x60, 1⟩, ⟨0x7B, 0x7E, 1⟩])
  | "space" => some asciiBlank
  | "upper" => some (.range 0x41 0x5A)
  | "word" => some asciiWord
  | "xdigit" => some (.ranges [⟨0x30, 0x39, 1⟩, ⟨0x41, 0x46, 1⟩, ⟨0x61, 0x66, 1⟩])
  | _ => none

/-- a POSIX class after its opening bracket, and whether its complement is meant -/
def posix? : List Char → Option (CharSet × Bool × List Char)
  | ':' :: chars =>
    let (negated, chars) :=
      match chars with
      | '^' :: chars => (true, chars)
      | chars => (false, chars)
    match chars.dropWhile (· ≠ ':') with
    | ':' :: ']' :: rest => do
      let set ← posixClass? (String.ofList (chars.takeWhile (· ≠ ':')))
      return (set, negated, rest)
    | _ => none
  | _ => none

def unite : List Part → Part
  | [] => ⟨.nothing, 0⟩
  | [part] => part
  | parts => ⟨.anyOf (parts.map Part.set), 1 + (parts.map Part.depth).foldl Nat.max 0⟩

/-- result of an operator; case variants are added to both sides first -/
def combine (flags : Flags) (op : Operator) (left right : Part) : Part :=
  let a := flags.fold left.set
  let b := flags.fold right.set
  let set :=
    match op with
    | .inter => .inter a b
    | .diff => .diff a b
    | .symmetricDiff => CharSet.symmetricDiff a b
  ⟨set, 1 + Nat.max left.depth right.depth⟩

/-- finish the operator that waits for its right side, if one does -/
def settle (flags : Flags) (parts : List Part) (frames : List Frame) : Part × List Frame :=
  match frames with
  | .operator op left :: outer => (combine flags op left (unite parts), outer)
  | _ => (unite parts, frames)

/-- open a bracket, after its `[`: a caret negates, and leading hyphens and a first `]` stand for themselves -/
def open? (flags : Flags) (before : List Part) (frames : List Frame) (chars : List Char) : Option State := do
  let chars := flags.skip chars
  let (negated, chars) :=
    match chars with
    | '^' :: chars => (true, flags.skip chars)
    | chars => (false, chars)
  let hyphens := (chars.takeWhile (· = '-')).map fun c => Part.mk (.single c) 0
  let chars := flags.skip (chars.dropWhile (· = '-'))
  let (parts, chars) :=
    match hyphens, chars with
    | [], ']' :: chars => ([Part.mk (.single ']') 0], flags.skip chars)
    | _, chars => (hyphens, chars)
  guard (chars ≠ [])
  return ⟨chars, parts, .opened before negated :: frames⟩

/-- a single character or class inside a bracket -/
def atom? (flags : Flags) : List Char → Option (Atom × List Char)
  | [] => none
  | '\\' :: rest => escape? flags rest
  | c :: rest => some (.char c false, rest)

/-- the character of an atom, which outside Unicode mode has to be ASCII -/
def charOfAtom? (flags : Flags) : Atom → Option Char
  | .char c _ => if flags.unicode || c.toNat < 128 then some c else none
  | _ => none

def setOfAtom? (flags : Flags) : Atom → Option CharSet
  | .set set => some set
  | .look _ => none
  | atom => (charOfAtom? flags atom).map .single

/-- read an atom or a range of characters -/
def range? (flags : Flags) (chars : List Char) : Option (CharSet × List Char) := do
  let (first, rest) ← atom? flags chars
  let rest := flags.skip rest
  let single := do some (← setOfAtom? flags first, rest)
  match rest with
  | [] => none
  | '-' :: after =>
    match flags.skip after with
    | ']' :: _ => single
    | '-' :: _ => single
    | after => do
      let (last, rest) ← atom? flags after
      let a ← charOfAtom? flags first
      let b ← charOfAtom? flags last
      guard (a ≤ b)
      return (.range a.toNat b.toNat, rest)
  | _ => single

/-- the set that is read, with what follows it, or the next state -/
abbrev Outcome := (Part × List Char) ⊕ State

/-- read one thing inside a bracket -/
def step? (flags : Flags) (state : State) : List Char → Option Outcome
  | [] => none
  | '&' :: '&' :: rest => operator state .inter rest
  | '-' :: '-' :: rest => operator state .diff rest
  | '~' :: '~' :: rest => operator state .symmetricDiff rest
  | '[' :: rest =>
    match posix? rest with
    | some (set, negated, rest) => do
      let set ← flags.negate? negated (flags.fold set)
      return .inr { state with rest := rest, parts := ⟨set, 0⟩ :: state.parts }
    | none => (open? flags state.parts state.frames rest).map .inr
  | ']' :: rest => do
    let (inner, frames) := settle flags state.parts state.frames
    match frames with
    | .opened before negated :: outer =>
      let part : Part := ⟨← flags.negate? negated (flags.fold inner.set), 1 + inner.depth⟩
      if outer.isEmpty then return .inl (part, rest)
      else return .inr ⟨rest, part :: before, outer⟩
    | _ => none
  | chars => do
    let (set, rest) ← range? flags chars
    return .inr { state with rest := rest, parts := ⟨set, 0⟩ :: state.parts }
where
  /-- an operator, whose left side is what stands before it -/
  operator (state : State) (op : Operator) (rest : List Char) : Option Outcome :=
    let (left, frames) := settle flags state.parts state.frames
    some (.inr ⟨rest, [], .operator op left :: frames⟩)

/-- read up to the end of the outermost bracket; every step takes at least one character -/
def run? (flags : Flags) (state : State) : Option (Part × List Char) :=
  match step? flags state (flags.skip state.rest) with
  | none => none
  | some (.inl done) => some done
  | some (.inr next) => if next.rest.length < state.rest.length then run? flags next else none
termination_by state.rest.length

/-- read a set, after its opening bracket -/
def read? (flags : Flags) (chars : List Char) : Option (Part × List Char) := do
  run? flags (← open? flags [] [] chars)

end DocumentModels.Pattern.Bracket
