/-
Reading patterns.

The reader goes through the text once. It keeps the items of the current sequence, the alternatives before it and what
is open around it; groups restore the modes that were set inside them. Look-around, back references and repetition of
nothing are refused, and so is an expression that is nested too deeply or grows too large when its repetitions are
written out.
-/
import DocumentModels.Pattern.Bracket

namespace DocumentModels.Pattern

/-- a part of an expression, how many levels of nesting it counts as, and whether it can be repeated -/
structure Item where
  expr : Syntax
  depth : Nat := 0
  repeatable : Bool := true

/-- what is around an open group -/
structure GroupFrame where
  flags : Flags
  items : List Item
  branches : List Item

/-- what is left to read, and what is read so far; lists are in reverse -/
structure ReadState where
  rest : List Char
  flags : Flags := {}
  items : List Item := []
  branches : List Item := []
  frames : List GroupFrame := []
  names : List (List Char) := []

namespace Item

/-- the items of a sequence, given in reverse -/
def sequence : List Item → Item
  | [] => ⟨.empty, 0, false⟩
  | [item] => item
  | items =>
    ⟨items.foldl (fun after item => .seq item.expr after) .empty, 1 + (items.map Item.depth).foldl Nat.max 0, true⟩

/-- alternatives, given in reverse -/
def alternatives : List Item → Item
  | [] => ⟨.empty, 0, false⟩
  | [item] => item
  | last :: before =>
    ⟨before.foldl (fun after item => .alt item.expr after) last.expr,
      1 + ((last :: before).map Item.depth).foldl Nat.max 0, true⟩

end Item

namespace ReadState

def push (state : ReadState) (item : Item) (rest : List Char) : ReadState :=
  { state with items := item :: state.items, rest := rest }

/-- everything read since the last open group -/
def gathered (state : ReadState) : Item := Item.alternatives (Item.sequence state.items :: state.branches)

/-- open a group in which the given modes hold -/
def openGroup (state : ReadState) (flags : Flags) (rest : List Char) : ReadState :=
  { state with
    rest := rest, flags := flags, items := [], branches := []
    frames := ⟨state.flags, state.items, state.branches⟩ :: state.frames }

/-- close the innermost group -/
def closeGroup? (state : ReadState) (rest : List Char) : Option ReadState :=
  match state.frames with
  | [] => none
  | frame :: outer =>
    let inner := state.gathered
    some { state with
      rest := rest, flags := frame.flags, branches := frame.branches, frames := outer
      items := ⟨inner.expr, 1 + inner.depth, true⟩ :: frame.items }

/-- repeat the last item; a question mark after the operator only asks for fewer repetitions first -/
def repeatLast? (state : ReadState) (min : Nat) (max : Option Nat) (rest : List Char) : Option ReadState :=
  match state.items with
  | item :: before =>
    if item.repeatable then
      let rest :=
        match rest with
        | '?' :: rest => rest
        | rest => rest
      some { state with items := ⟨.repeat item.expr min max, 1 + item.depth, true⟩ :: before, rest := rest }
    else none
  | [] => none

end ReadState

/-! ## Groups -/

def Flags.set? (flags : Flags) (value : Bool) : Char → Option Flags
  | 'i' => some { flags with caseless := value }
  | 'm' => some { flags with multiLine := value }
  | 's' => some { flags with dotAll := value }
  | 'U' => some { flags with swapGreed := value }
  | 'u' => some { flags with unicode := value }
  | 'R' => some { flags with crlf := value }
  | 'x' => some { flags with verbose := value }
  | _ => none

/-- read mode letters up to a colon or a parenthesis, which is returned with what follows it; `seen` are the letters
so far, last first -/
def modes? (flags : Flags) (seen : List Char) : List Char → Option (Flags × List Char × Char × List Char)
  | [] => none
  | c :: rest =>
    if c = ':' ∨ c = ')' then
      if seen.head? = some '-' then none else some (flags, seen, c, rest)
    else if seen.contains c then none
    else if c = '-' then modes? flags (c :: seen) rest
    else do modes? (← flags.set? (!seen.contains '-') c) (c :: seen) rest

def isNameChar (c : Char) (first : Bool) : Bool :=
  c = '_' || alphabetic.contains c.toNat
    || (!first && (c = '.' || c = '[' || c = ']' || (categories ["nd", "nl", "no"]).contains c.toNat))

def isGroupName : List Char → Bool
  | [] => false
  | c :: rest => isNameChar c true && rest.all (isNameChar · false)

/-- open a named group, after its opening angle; names may not be repeated -/
def namedGroup? (state : ReadState) (chars : List Char) : Option ReadState :=
  let name := chars.takeWhile (· ≠ '>')
  match chars.dropWhile (· ≠ '>') with
  | [] => none
  | _ :: rest =>
    if isGroupName name ∧ name ∉ state.names then
      some { state.openGroup state.flags rest with names := name :: state.names }
    else none

/-- what stands after an opening parenthesis -/
def group? (state : ReadState) (chars : List Char) : Option ReadState :=
  match chars with
  | '?' :: '=' :: _ | '?' :: '!' :: _ | '?' :: '<' :: '=' :: _ | '?' :: '<' :: '!' :: _ => none
  | '?' :: 'P' :: '<' :: rest => namedGroup? state rest
  | '?' :: '<' :: rest => namedGroup? state rest
  | '?' :: rest => do
    let (flags, seen, mark, rest) ← modes? state.flags [] rest
    if mark = ':' then return state.openGroup flags rest
    else if seen.isEmpty then none
    else return { state.push ⟨.empty, 0, false⟩ rest with flags := flags }
  | rest => some (state.openGroup state.flags rest)

/-! ## Repetition -/

/-- read a decimal number with blanks around it; none if there are no digits or too many -/
def decimal? (flags : Flags) (chars : List Char) : Option Nat × List Char :=
  let chars := chars.dropWhile isSpace
  let inNumber (c : Char) : Bool := c.isDigit || (flags.verbose && isSpace c)
  let digits := (chars.takeWhile inNumber).filter Char.isDigit
  let rest := flags.skip ((chars.dropWhile inNumber).dropWhile isSpace)
  let value := digits.foldl (fun n c => n * 10 + (c.toNat - '0'.toNat)) 0
  (if digits = [] ∨ 1 <<< 32 ≤ value then none else some value, rest)

/-- read the bounds of a repetition, after the opening brace -/
def bounds? (flags : Flags) (chars : List Char) : Option (Nat × Option Nat × List Char) := do
  let chars := flags.skip chars
  guard (chars ≠ [])
  let (min, chars) := decimal? flags chars
  let min ← min
  match chars with
  | '\x7d' :: rest => return (min, some min, flags.skip rest)
  | ',' :: chars =>
    match flags.skip chars with
    | '\x7d' :: rest => return (min, none, flags.skip rest)
    | chars =>
      let (max, chars) := decimal? flags chars
      let max ← max
      match chars with
      | '\x7d' :: rest => if min ≤ max then return (min, some max, flags.skip rest) else none
      | _ => none
  | _ => none

/-! ## Items -/

def charExpr? (flags : Flags) (c : Char) (byte : Bool) : Option Syntax :=
  if !flags.unicode && byte && 128 ≤ c.toNat then none
  else if flags.unicode || c.toNat < 128 then some (.set (flags.fold (.single c)))
  else some (.set (.single c))

def atomExpr? (flags : Flags) : Atom → Option Syntax
  | .char c byte => charExpr? flags c byte
  | .set set => some (.set set)
  | .look test => some (.look test)

/-- the set of a dot, which outside Unicode mode could leave ASCII -/
def dot? (flags : Flags) : Option CharSet :=
  if !flags.unicode then none
  else if flags.dotAll then some (.compl .nothing)
  else if flags.crlf then some (.compl (.union (.single '\n') (.single '\r')))
  else some (.compl (.single '\n'))

def step? (state : ReadState) (c : Char) (rest : List Char) : Option ReadState :=
  let flags := state.flags
  match c with
  | '(' => group? state (flags.skip rest)
  | ')' => state.closeGroup? rest
  | '|' => some { state with rest := rest, items := [], branches := Item.sequence state.items :: state.branches }
  | '[' => do
    let (part, rest) ← Bracket.read? flags rest
    return state.push ⟨.set part.set, part.depth, true⟩ rest
  | '?' => state.repeatLast? 0 (some 1) rest
  | '*' => state.repeatLast? 0 none rest
  | '+' => state.repeatLast? 1 none rest
  | '\x7b' => do
    let (min, max, rest) ← bounds? flags rest
    state.repeatLast? min max rest
  | '\\' => do
    let (atom, rest) ← escape? flags rest
    return state.push ⟨← atomExpr? flags atom, 0, true⟩ rest
  | '.' => do return state.push ⟨.set (← dot? flags), 0, true⟩ rest
  | '^' =>
    some (state.push ⟨.look (if flags.multiLine then .lineStart flags.crlf else .textStart), 0, true⟩ rest)
  | '$' =>
    some (state.push ⟨.look (if flags.multiLine then .lineEnd flags.crlf else .textEnd), 0, true⟩ rest)
  | c => do return state.push ⟨← charExpr? flags c false, 0, true⟩ rest

def nestLimit : Nat := 250

/-- read to the end; every step takes at least one character -/
def run? (state : ReadState) : Option Item :=
  match state.flags.skip state.rest with
  | [] => if state.frames.isEmpty then some state.gathered else none
  | c :: rest =>
    match step? state c rest with
    | none => none
    | some next => if next.rest.length < state.rest.length then run? next else none
termination_by state.rest.length

def parse? (pattern : String) : Option Syntax := do
  let item ← run? { rest := pattern.toList }
  guard (item.depth ≤ nestLimit ∧ item.expr.cost ≤ costLimit)
  return item.expr

end DocumentModels.Pattern
