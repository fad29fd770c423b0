/-
Command lines: what can be asked for, and how it is read from words.

Words are taken one at a time by `Reading.step`, which knows the command named so far and what was given to it. A command
is named by one word or by two; its options may stand anywhere after it, the option for a settings file anywhere. After
two dashes every word is an operand. Asking for help is left out: words that do so are no command line here.
-/
namespace DocumentModels.CommandLine

/-- how an inspection is printed -/
inductive Format where
  | text
  | json
  deriving DecidableEq

/-- what is asked for -/
inductive Command where
  /-- write the modules, with other directories than those in the settings -/
  | generate (input output : Option String)
  /-- compare the modules with what would be written -/
  | check (verbose : Bool)
  /-- show the document model of an entity -/
  | inspect (entity : String) (format : Format)
  /-- show the validator of an entity's collection -/
  | validator (entity : String)
  /-- show the settings -/
  | showSettings
  /-- write a settings file -/
  | initSettings (path : String)
  deriving DecidableEq

/-- a command and the settings file it is to be run with -/
structure Invocation where
  settingsFile : Option String
  command : Command
  deriving DecidableEq

/-! ## Commands and options -/

/-- a place in the tree of commands -/
inductive Verb where
  | program
  | generate
  | check
  | inspect
  | validator
  | settings
  | showSettings
  | initSettings
  deriving DecidableEq

/-- what an option or operand holds -/
inductive Kind where
  | flag
  | text
  | path
  deriving DecidableEq

/-- an option with its long and short name -/
structure Switch where
  name : String
  letter : Char
  kind : Kind
  deriving DecidableEq

/-- whether the text can be the value; only a path has to say something -/
def Kind.admits (kind : Kind) (value : String) : Bool := kind ≠ .path || !value.isEmpty

/-- the option for a settings file -/
def settingsSwitch : Switch := ⟨"config", 'c', .text⟩

namespace Verb

/-- the commands below, by the word that names them -/
def children : Verb → List (String × Verb)
  | program =>
    [("generate", generate), ("check", check), ("inspect", inspect), ("validator", validator), ("config", settings)]
  | settings => [("show", showSettings), ("init", initSettings)]
  | _ => []

def switches (verb : Verb) : List Switch :=
  let own : List Switch :=
    match verb with
    | generate => [⟨"input", 'i', .path⟩, ⟨"output", 'o', .path⟩]
    | check => [⟨"verbose", 'v', .flag⟩]
    | inspect => [⟨"format", 'f', .text⟩]
    | _ => []
  settingsSwitch :: own

def operand? : Verb → Option Kind
  | inspect | validator => some .text
  | initSettings => some .path
  | _ => none

end Verb

/-! ## Reading words -/

/-- what is known after some words -/
structure Reading where
  verb : Verb := .program
  /-- settings file given to a command further up -/
  outerFile : Option String := none
  /-- options given to the command, with their values -/
  given : List (String × String) := []
  /-- operand given to the command -/
  operand : Option String := none
  /-- an option whose value is the next word -/
  pending : Option Switch := none
  /-- whether all further words are operands -/
  operandsOnly : Bool := false

namespace Reading

/-- the settings file given so far; the innermost one counts -/
def settingsFile (reading : Reading) : Option String :=
  (reading.given.lookup settingsSwitch.name).or reading.outerFile

/-- take the value of an option, which may be given once -/
def give (reading : Reading) (switch : Switch) (value : String) : Option Reading :=
  if (reading.given.lookup switch.name).isSome || !switch.kind.admits value then none
  else some { reading with given := (switch.name, value) :: reading.given, pending := none }

/-- take an operand, which may be given once -/
def takeOperand (reading : Reading) (word : String) : Option Reading :=
  match reading.operand, reading.verb.operand? with
  | none, some kind => if kind.admits word then some { reading with operand := some word } else none
  | _, _ => none

/-- go on to a command below -/
def enter (reading : Reading) (verb : Verb) : Reading := { verb, outerFile := reading.settingsFile }

/-- take an option by its long name; a value may follow an equals sign -/
def takeName (reading : Reading) (word : List Char) : Option Reading := do
  let name := word.takeWhile (· ≠ '=')
  let switch ← reading.verb.switches.find? (·.name = String.ofList name)
  match switch.kind, word.drop name.length with
  | .flag, [] => reading.give switch ""
  | .flag, _ :: _ => none
  | _, [] => some { reading with pending := some switch }
  | _, _ :: value => reading.give switch (String.ofList value)

/-- take options by their letters; the rest of the word is the value of the first one that has a value -/
def takeLetters (reading : Reading) : List Char → Option Reading
  | [] => some reading
  | letter :: rest => do
    let switch ← reading.verb.switches.find? (·.letter = letter)
    match switch.kind, rest with
    | .flag, rest => (← reading.give switch "").takeLetters rest
    | _, [] => some { reading with pending := some switch }
    | _, '=' :: value => reading.give switch (String.ofList value)
    | _, value => reading.give switch (String.ofList value)

/-- take a word; a word that begins like an option is no value of the option before it -/
def step (reading : Reading) (word : String) : Option Reading :=
  if reading.operandsOnly then reading.takeOperand word
  else
    match reading.pending, word.toList with
    | some _, '-' :: _ :: _ => none
    | some switch, _ => reading.give switch word
    | none, ['-', '-'] => some { reading with operandsOnly := true }
    | none, '-' :: '-' :: name => reading.takeName name
    | none, '-' :: letter :: letters => reading.takeLetters (letter :: letters)
    | none, _ =>
      match reading.verb.children.lookup word with
      | some verb => some (reading.enter verb)
      | none => reading.takeOperand word

def command? (reading : Reading) : Option Command :=
  match reading.pending, reading.verb, reading.operand with
  | some _, _, _ => none
  | none, .generate, _ => some (.generate (reading.given.lookup "input") (reading.given.lookup "output"))
  | none, .check, _ => some (.check (reading.given.lookup "verbose").isSome)
  | none, .inspect, some entity =>
    some (.inspect entity (if reading.given.lookup "format" = some "json" then .json else .text))
  | none, .validator, some entity => some (.validator entity)
  | none, .showSettings, _ => some .showSettings
  | none, .initSettings, some path => some (.initSettings path)
  | none, _, _ => none

end Reading

def Invocation.read? (words : List String) : Option Invocation := do
  let reading ← words.foldlM Reading.step {}
  return ⟨reading.settingsFile, ← reading.command?⟩

end DocumentModels.CommandLine
