/-
Layers of settings.

A layer is a table of sections, from a file or from the environment. Layers are merged table by table: a later value
replaces an earlier one, a list as a whole, and keys are compared without case. The settings are read from what is left:
scalars are taken for each other where that makes sense, and unknown keys are ignored.

The key of an entry of a whole layer may be a dotted name. Its parts are made of letters, digits, `_` and `-`; parts with a
subscript, such as `a[0]`, or with spaces are left out, and a key that has one is taken as it stands.
-/
import DocumentModels.Settings.Basic
import DocumentModels.Toml.Table

namespace DocumentModels.Settings

open Toml

/-- entries of a table, by lower-case key -/
abbrev Layer := List (String × Value)

/-- the entries of a table; anything else has none -/
def tableEntries : Value → Layer
  | .table entries => entries
  | _ => []

mutual

/-- a value laid over another: the entries of a table are merged into it, anything else replaces it -/
def overValue : Value → Value → Value
  | .table [], below => below
  | .table entries, below => .table (overEntries entries (tableEntries below))
  | value, _ => value

/-- entries laid over others, one after the other -/
def overEntries : List (String × Value) → Layer → Layer
  | [], below => below
  | (key, value) :: rest, below =>
    let key := Text.lower key
    overEntries rest (upsert key (overValue value ((below.lookup key).getD (.table []))) below)

end

/-- whether the text can be one part of a dotted name -/
def isNamePart (part : List Char) : Bool := part ≠ [] && part.all fun c => c.isAlphanum || c = '_' || c = '-'

/-- a value under the parts of a name, the outermost first -/
def nest : List String → Value → Value
  | [], value => value
  | part :: rest, value => .table [(part, nest rest value)]

/-- an entry of a whole layer, whose key may be a dotted name that leads into tables -/
def unfoldName (entry : String × Value) : String × Value :=
  let parts := Files.Path.splitChars '.' entry.1.toList
  match parts.map String.ofList with
  | first :: rest => if parts.all isNamePart then (first, nest rest entry.2) else entry
  | [] => entry

/-- a layer laid over what is merged so far -/
def mergeLayer (below layer : Layer) : Layer := overEntries (layer.map unfoldName) below

/-- all layers merged, earliest first -/
def mergeLayers (layers : List Layer) : Layer := layers.foldl mergeLayer []

/-! ## Reading settings -/

def asText? : Value → Option String
  | .string s => some s
  | .integer i => some (toString i)
  | .float x => some x.text
  | .boolean b => some (toString b)
  | _ => none

/-- a scalar as a flag: a number that is not zero, or one of a few words -/
def asFlag? : Value → Option Bool
  | .boolean b => some b
  | .integer i => some (i ≠ 0)
  | .float x => some (!x.isZero)
  | .string s =>
    let word := Text.lower s
    if ["1", "true", "on", "yes"].contains word then some true
    else if ["0", "false", "off", "no"].contains word then some false
    else none
  | _ => none

def asTexts? : Value → Option (List String)
  | .array items => items.mapM asText?
  | _ => none

/-- the values of a section under its keys: a table by name, an array by position -/
def section? (layer : Layer) (name : String) (keys : List String) : Option Layer :=
  match layer.lookup name with
  | none => some []
  | some (.table entries) => some entries
  | some (.array items) => some (keys.zip items)
  | some _ => none

def read? (layer : Layer) (key : String) (reader : Value → Option α) (missing : α) : Option α :=
  match layer.lookup key with
  | some value => reader value
  | none => some missing

def ofLayer? (layer : Layer) : Option Settings := do
  let base : Settings := {}
  let input ← section? layer "input" ["dir", "suffix"]
  let output ← section? layer "output" ["dir", "suffix", "timestamps"]
  let indexes ← section? layer "indexes" ["text_fields"]
  return {
    inputDir := ← read? input "dir" asText? base.inputDir
    inputSuffix := ← read? input "suffix" asText? base.inputSuffix
    outputDir := ← read? output "dir" asText? base.outputDir
    outputSuffix := ← read? output "suffix" asText? base.outputSuffix
    timestamps := ← read? output "timestamps" asFlag? base.timestamps
    textFields := ← read? indexes "text_fields" asTexts? base.textFields }

end DocumentModels.Settings
