/-
Reading JSON text.

The reader is a machine that takes one character at a time. It holds the containers that are open, innermost first,
and what it is in the middle of. A text is a value if the machine takes every character and ends with a finished value
and nothing open. The grammar is strict: no blank but space, tab, line feed and carriage return, no lone surrogate, no
control character inside a string, at most 127 containers inside one another. A repeated member name keeps its first
place and takes its last value.
-/
import DocumentModels.Json.Number

namespace DocumentModels.Json.Reader

/-- an open container: what it holds so far, and for an object the name whose value comes next -/
inductive Frame where
  | array (reversed : List Json)
  | object (members : Members) (name : String)

/-- where the reader is inside an escape sequence -/
inductive Escape where
  | none
  | backslash
  /-- after `\u`: digits read and their value, and a high surrogate that waits for its partner -/
  | hex (count value : Nat) (high : Option Nat)
  /-- after a high surrogate: the backslash of the low one comes next -/
  | lowBackslash (high : Nat)
  /-- after a high surrogate and a backslash: the `u` comes next -/
  | lowMark (high : Nat)

/-- what the reader expects next -/
inductive Mode where
  /-- a value; a closing bracket is allowed right after the opening one -/
  | value (mayClose : Bool)
  /-- a member name in an object with these members; a closing brace is allowed right after the opening one -/
  | name (members : Members) (mayClose : Bool)
  | colon (members : Members) (name : String)
  /-- a comma or a closing bracket, or only blanks at the outermost level -/
  | after (value : Json)
  /-- inside a string; a member name if the members so far are given -/
  | text (reversed : List Char) (escape : Escape) (members : Option Members)
  | number (reversed : List Char)
  /-- the rest of a word, and what it stands for -/
  | word (rest : List Char) (value : Json)

structure State where
  frames : List Frame
  mode : Mode

/-- most containers inside one another -/
def depthLimit : Nat := 127

def isBlank (c : Char) : Bool := c = ' ' || c = '\n' || c = '\t' || c = '\r'

def hexValue? (c : Char) : Option Nat :=
  if '0' ≤ c ∧ c ≤ '9' then some (c.toNat - '0'.toNat)
  else if 'a' ≤ c ∧ c ≤ 'f' then some (c.toNat - 'a'.toNat + 10)
  else if 'A' ≤ c ∧ c ≤ 'F' then some (c.toNat - 'A'.toNat + 10)
  else none

/-- character of a one-letter escape -/
def shortEscape? (c : Char) : Option Char :=
  if c = '"' ∨ c = '\\' ∨ c = '/' then some c
  else if c = 'b' then some '\x08'
  else if c = 'f' then some '\x0c'
  else if c = 'n' then some '\n'
  else if c = 'r' then some '\r'
  else if c = 't' then some '\t'
  else none

/-- open a container, if the limit allows -/
def push? (frames : List Frame) (frame : Frame) (mode : Mode) : Option State :=
  if frames.length < depthLimit then some ⟨frame :: frames, mode⟩ else none

/-- the first character of a value -/
def start? (frames : List Frame) (c : Char) : Option State :=
  if c = '"' then some ⟨frames, .text [] .none none⟩
  else if c = '[' then push? frames (.array []) (.value true)
  else if c = '\x7b' then push? frames (.object [] "") (.name [] true)
  else if c = 'n' then some ⟨frames, .word ['u', 'l', 'l'] .null⟩
  else if c = 't' then some ⟨frames, .word ['r', 'u', 'e'] (.bool true)⟩
  else if c = 'f' then some ⟨frames, .word ['a', 'l', 's', 'e'] (.bool false)⟩
  else if c = '-' ∨ isDigit c then some ⟨frames, .number [c]⟩
  else none

def after? (frames : List Frame) (value : Json) (c : Char) : Option State :=
  if isBlank c then some ⟨frames, .after value⟩
  else
    match frames with
    | [] => none
    | .array reversed :: outer =>
      if c = ',' then some ⟨.array (value :: reversed) :: outer, .value false⟩
      else if c = ']' then some ⟨outer, .after (.array (value :: reversed).reverse)⟩
      else none
    | .object members name :: outer =>
      let members := upsert name value members
      if c = ',' then some ⟨.object members "" :: outer, .name members false⟩
      else if c = '\x7d' then some ⟨outer, .after (.object members)⟩
      else none

/-- the end of a string: a value, or a member name -/
def closeText (frames : List Frame) (reversed : List Char) : Option Members → State
  | none => ⟨frames, .after (.string (String.ofList reversed.reverse))⟩
  | some members => ⟨frames, .colon members (String.ofList reversed.reverse)⟩

/-- a character inside a string -/
def text? (frames : List Frame) (reversed : List Char) (members : Option Members) (c : Char) : Escape → Option State
  | .none =>
    if c = '"' then some (closeText frames reversed members)
    else if c = '\\' then some ⟨frames, .text reversed .backslash members⟩
    else if c.toNat < 32 then none
    else some ⟨frames, .text (c :: reversed) .none members⟩
  | .backslash =>
    if c = 'u' then some ⟨frames, .text reversed (.hex 0 0 none) members⟩
    else (shortEscape? c).map fun d => ⟨frames, .text (d :: reversed) .none members⟩
  | .hex count value high => do
    let value := value * 16 + (← hexValue? c)
    if count < 3 then some ⟨frames, .text reversed (.hex (count + 1) value high) members⟩
    else
      match high with
      | some first =>
        if 0xDC00 ≤ value ∧ value < 0xE000 then
          let code := 0x10000 + (first - 0xD800) * 0x400 + (value - 0xDC00)
          some ⟨frames, .text (Char.ofNat code :: reversed) .none members⟩
        else none
      | none =>
        if 0xD800 ≤ value ∧ value < 0xDC00 then some ⟨frames, .text reversed (.lowBackslash value) members⟩
        else if 0xDC00 ≤ value ∧ value < 0xE000 then none
        else some ⟨frames, .text (Char.ofNat value :: reversed) .none members⟩
  | .lowBackslash high => if c = '\\' then some ⟨frames, .text reversed (.lowMark high) members⟩ else none
  | .lowMark high => if c = 'u' then some ⟨frames, .text reversed (.hex 0 0 (some high)) members⟩ else none

def inNumber (c : Char) : Bool :=
  isDigit c || c = '+' || c = '-' || c = '.' || c = 'e' || c = 'E'

/-- the value of the number literal read so far -/
def number? (reversed : List Char) : Option Json := (Number.ofChars? reversed.reverse).map .number

/-- take one character -/
def step? (state : State) (c : Char) : Option State :=
  let frames := state.frames
  match state.mode with
  | .value mayClose =>
    if isBlank c then some state
    else if c = ']' ∧ mayClose then
      match frames with
      | .array _ :: outer => some ⟨outer, .after (.array [])⟩
      | _ => none
    else start? frames c
  | .name members mayClose =>
    if isBlank c then some state
    else if c = '\x7d' ∧ mayClose then
      match frames with
      | .object _ _ :: outer => some ⟨outer, .after (.object [])⟩
      | _ => none
    else if c = '"' then some ⟨frames, .text [] .none (some members)⟩
    else none
  | .colon members name =>
    if isBlank c then some state
    else if c = ':' then
      match frames with
      | .object _ _ :: outer => some ⟨.object members name :: outer, .value false⟩
      | _ => none
    else none
  | .after value => after? frames value c
  | .text reversed escape members => text? frames reversed members c escape
  | .number reversed =>
    if inNumber c then some ⟨frames, .number (c :: reversed)⟩
    else do after? frames (← number? reversed) c
  | .word (d :: rest) value =>
    if c ≠ d then none
    else if rest.isEmpty then some ⟨frames, .after value⟩
    else some ⟨frames, .word rest value⟩
  | .word [] _ => none

/-- the value that is finished at the end of the text -/
def finish? (state : State) : Option Json :=
  if state.frames.isEmpty then
    match state.mode with
    | .after value => some value
    | .number reversed => number? reversed
    | _ => none
  else none

def initial : State := ⟨[], .value false⟩

end DocumentModels.Json.Reader

namespace DocumentModels.Json

def read? (text : String) : Option Json :=
  text.toList.foldlM Reader.step? Reader.initial >>= Reader.finish?

end DocumentModels.Json
