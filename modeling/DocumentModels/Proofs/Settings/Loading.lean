/-
Settings are loaded from files and the environment, layered one by one.

- `Origin.load?_eq_some_iff`: loading succeeds just when the sources can be read and decide every setting.
- `Origin.load_by_setting`: each setting has the value of the last source that gives it; what comes before that source does
  not matter, and a change of one setting leaves the others.
- `Origin.suffix_lost`: this is so only as long as sections are given as tables. A source may replace a section as a whole,
  and then a table may replace that in turn.
-/
import Mathlib.Tactic
import DocumentModels.Proofs.Settings.Decision
import DocumentModels.Settings.Load

namespace DocumentModels.Settings

open Files Toml

/-! ## Where settings come from -/

/-- what settings are loaded from -/
structure Origin where
  files : FileTree
  /-- the user's directory of settings -/
  userDir : Option String := none
  environment : List (String × String) := []
  /-- a file that has to be there -/
  path : Option String := none

namespace Origin

def load? (origin : Origin) : Option Settings :=
  Settings.load? origin.files origin.userDir origin.environment origin.path

/-- the layers of the files: those of fixed places, the user's one if it is there, and the one that has to be there -/
def fileLayers? (origin : Origin) : Option (List Layer) := do
  let user := (origin.userDir.map fun dir => Path.join dir userFile).filter origin.files.contains
  let optional ← (localFiles ++ user.toList).mapM (fileLayer? origin.files false)
  let required ← origin.path.toList.mapM (fileLayer? origin.files true)
  return optional ++ required

/-- all layers in order, the environment last -/
def sources? (origin : Origin) : Option (List Layer) :=
  origin.fileLayers?.map (· ++ [environmentLayer origin.environment])

theorem load?_eq (origin : Origin) :
    origin.load? = origin.sources?.bind fun sources => ofLayer? (mergeLayers sources) := by
  rw [load?, Settings.load?, sources?, fileLayers?]
  simp only [Option.bind_eq_bind, Option.map_bind, Option.bind_assoc, Function.comp_def]
  rfl

/-- **Settings are loaded just when the sources can be read and decide every setting,** and these are the values. -/
theorem load?_eq_some_iff {origin : Origin} {settings : Settings} :
    origin.load? = some settings ↔
      ∃ sources, origin.sources? = some sources ∧
        ∀ {α : Type} (setting : Setting α), setting.Decided sources (setting.get settings) := by
  rw [load?_eq, Option.bind_eq_some_iff]
  simp only [ofLayer?_eq_some_iff, Setting.decided_iff]

theorem find?_of_load? {origin : Origin} {settings : Settings} (h : origin.load? = some settings) {sources : List Layer}
    (hsources : origin.sources? = some sources) {α : Type} (setting : Setting α) :
    setting.find? (mergeLayers sources) = some (setting.get settings) := by
  rw [load?_eq, hsources] at h
  exact ofLayer?_eq_some_iff.1 h setting

/-- **Settings are layered one by one.** They are loaded just when the sources, files in their order and then the
environment, can be read and decide each of the six settings. Then a setting has the value of the last source that gives
it, and its default if none does, as long as no source gives its section as something other than a table.
If settings are also loaded from elsewhere:
- a setting comes out the same if both have a source that gives it, and the same sources after it, whatever is before;
- if the sources differ in one setting only, all others come out the same, but for another one of the same section, and
  only where the last that the sources say of that one is a list for the section. -/
theorem load_by_setting (origin : Origin) :
    (∀ settings, origin.load? = some settings ↔
      ∃ sources, origin.sources? = some sources ∧
        ∀ {α : Type} (setting : Setting α), setting.Decided sources (setting.get settings)) ∧
    ∀ settings sources, origin.load? = some settings → origin.sources? = some sources →
      (∀ {α : Type} (setting : Setting α),
        (∀ source ∈ sources, ∀ value, Mention.whole value ∉ setting.mentions source) →
          setting.last? sources = some (setting.get settings)) ∧
      ∀ (origin' : Origin) settings' sources', origin'.load? = some settings' → origin'.sources? = some sources' →
        (∀ {α : Type} (setting : Setting α) (before before' after : List Layer) (source : Layer) (value : Value),
          sources = before ++ source :: after → sources' = before' ++ source :: after →
            setting.given? source = some value → setting.get settings' = setting.get settings) ∧
        ∀ {α β : Type} (setting : Setting α) (other : Setting β), setting.DiffersOnly sources sources' →
          (other.home, other.key) ≠ (setting.home, setting.key) →
            other.get settings' = other.get settings ∨
              other.home = setting.home ∧
                ∃ items, (sources.flatMap other.told).getLast? = some (.whole (.array items)) := by
  refine ⟨fun settings => load?_eq_some_iff, ?_⟩
  intro settings sources h hsources
  have hfind : ∀ {α : Type} (setting : Setting α), setting.find? (mergeLayers sources) = some (setting.get settings) :=
    fun setting => find?_of_load? h hsources setting
  refine ⟨fun setting => (Setting.decided_iff.1 (hfind setting)).last?_eq, ?_⟩
  intro origin' settings' sources' h' hsources'
  have hfind' : ∀ {α : Type} (setting : Setting α), setting.find? (mergeLayers sources') = some (setting.get settings') :=
    fun setting => find?_of_load? h' hsources' setting
  constructor
  · rintro α setting before before' after source value rfl rfl hgiven
    have hsame := hfind setting
    rw [Setting.find?_of_given hgiven before before', hfind' setting, Option.some.injEq] at hsame
    exact hsame
  · intro α β setting other hdiffers hne
    exact hdiffers.find? hne (hfind other) (hfind' other)

/-! ## Sections that are no tables -/

/-- three files: the first one gives a suffix, the second one replaces its section by a number, and the third one has a
table again -/
def replaced : Origin where
  files :=
    { root := .directory [("modelgen.toml", .file "[output]\nsuffix = \".a.js\"\n".toUTF8),
        (".modelgen.toml", .file "output = 5\n".toUTF8),
        ("config", .directory [("modelgen.toml", .file "[output]\ndir = \"x\"\n".toUTF8)])] }

/-- a file that gives a directory and a suffix as a list -/
def listed : Origin where
  files := { root := .directory [("modelgen.toml", .file "output = [\"d\", \".a.js\"]\n".toUTF8)] }

def directoryVariable : List (String × String) := [("MODELGEN__OUTPUT__DIR", "x")]

/-- **A setting can be lost with its section.** The suffix of the first file is gone once the second file replaces the
section, though no later source gives one; and where a list gives the suffix, a variable for the directory resets it. -/
theorem suffix_lost :
    (replaced.load? = some { outputDir := "x" } ∧ replaced.sources?.bind Setting.outputSuffix.last? = some ".a.js") ∧
      listed.load? = some { outputDir := "d", outputSuffix := ".a.js" } ∧
      { listed with environment := directoryVariable }.load? = some { outputDir := "x" } ∧
      Setting.outputDir.DiffersOnly [environmentLayer []] [environmentLayer directoryVariable] := by
  refine ⟨⟨?_, ?_⟩, ?_, ?_, ?_⟩
  · decide +kernel
  · decide +kernel
  · decide +kernel
  · decide +kernel
  · exact Setting.differsOnly_variable (by decide +kernel) "x" [] []

/-! ## A file and the environment -/

/-- a file gives a suffix and turns stamps off, and a variable gives another suffix -/
def layered : Origin where
  files := { root := .directory [("modelgen.toml", .file "[output]\nsuffix = \".a.js\"\ntimestamps = \"off\"\n".toUTF8)] }
  environment := [("MODELGEN__OUTPUT__SUFFIX", ".b.js")]

/-- and one more variable gives a directory -/
def moved : Origin := { layered with environment := layered.environment ++ [("MODELGEN__INPUT__DIR", "defs")] }

/-- the variable goes before the file, what only the file gives stays, and one more variable changes no other section -/
theorem suffix_layered :
    ∃ sources, layered.sources? = some sources ∧ Setting.outputSuffix.Decided sources ".b.js" ∧
      Setting.timestamps.Decided sources false ∧ Setting.inputDir.Decided sources "schema" ∧
      ∃ settings, moved.load? = some settings ∧ settings.inputDir = "defs" ∧
        ∀ {α : Type} (other : Setting α), other.home ≠ "input" →
          other.get settings = other.get { outputSuffix := ".b.js", timestamps := false } := by
  have hlayered : layered.load? = some { outputSuffix := ".b.js", timestamps := false } := by decide +kernel
  have hmoved : moved.load? = some { inputDir := "defs", outputSuffix := ".b.js", timestamps := false } := by
    decide +kernel
  obtain ⟨hloads, hruns⟩ := load_by_setting layered
  obtain ⟨sources, hsources, hdecided⟩ := (hloads _).1 hlayered
  obtain ⟨-, hothers⟩ := hruns _ sources hlayered hsources
  refine ⟨sources, hsources, hdecided .outputSuffix, hdecided .timestamps, hdecided .inputDir, _, hmoved, rfl, ?_⟩
  intro α other hhome
  obtain ⟨files, hfiles, rfl⟩ := Option.map_eq_some_iff.1 hsources
  have hfiles' : moved.fileLayers? = some files := hfiles
  have hsources' : moved.sources? = some (files ++ [environmentLayer moved.environment]) := by
    rw [sources?, hfiles', Option.map_some]
  have hvariable : variableName? "MODELGEN__INPUT__DIR" = some Setting.inputDir.name := by decide +kernel
  have hchanged : Setting.inputDir.DiffersOnly [environmentLayer layered.environment]
      [environmentLayer moved.environment] := by
    have hinsert := Setting.differsOnly_variable hvariable "defs" layered.environment []
    rwa [List.append_nil] at hinsert
  have hdiffers := hchanged.within files []
  rw [List.append_nil, List.append_nil] at hdiffers
  have hne : (other.home, other.key) ≠ (Setting.inputDir.home, Setting.inputDir.key) := fun h => hhome (Prod.mk.inj h).1
  obtain ⟨-, hframe⟩ := hothers moved _ _ hmoved hsources'
  rcases hframe .inputDir other hdiffers hne with hsame | ⟨hsection, -⟩
  · exact hsame
  · exact absurd hsection hhome

end Origin

end DocumentModels.Settings
