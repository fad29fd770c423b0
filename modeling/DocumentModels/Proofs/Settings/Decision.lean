/-
One setting and its sources.

The settings of a merged layer are read one by one, and each of them goes back to the sources that speak of it.
- `ofLayer?_eq_some_iff`: reading all settings is reading each.
- `Setting.Decided`: the value of a setting by its sources. A source gives it by name, or gives its section as a list, or
  nothing is left of what sources say.
- `Setting.held_none_iff`: when nothing is left.
- `Setting.decided_iff`: what is read from the merged sources is what they decide, and it is read just when they do.
- `Setting.Decided.last?_eq`: where no source gives the section as something other than a table, this is the value of the
  last source that gives the setting, and its default if none does.
- `Setting.find?_of_given`: what comes before a source that gives the setting does not matter.
- `Setting.find?_of_told`: a setting depends on what is said of it, unless the last of that is a list for its section.
- `Setting.DiffersOnly.find?`: so a change of one setting in one source leaves the others.
- `Setting.differsOnly_table`, `Setting.differsOnly_insert`, `Setting.differsOnly_variable`: changes of one setting, in a
  table, by an entry, and by a variable.
-/
import Mathlib.Tactic
import DocumentModels.Proofs.Settings.Layering
import DocumentModels.Settings.Load

namespace DocumentModels.Settings

open Files Toml

/-! ## One setting -/

/-- a setting, by the type of its values -/
inductive Setting : Type → Type
  | inputDir : Setting String
  | inputSuffix : Setting String
  | outputDir : Setting String
  | outputSuffix : Setting String
  | timestamps : Setting Bool
  | textFields : Setting (List String)

namespace Setting

variable {α : Type}

def home : Setting α → String
  | inputDir | inputSuffix => "input"
  | outputDir | outputSuffix | timestamps => "output"
  | textFields => "indexes"

def key : Setting α → String
  | inputDir | outputDir => "dir"
  | inputSuffix | outputSuffix => "suffix"
  | timestamps => "timestamps"
  | textFields => "text_fields"

def keys : Setting α → List String
  | inputDir | inputSuffix => ["dir", "suffix"]
  | outputDir | outputSuffix | timestamps => ["dir", "suffix", "timestamps"]
  | textFields => ["text_fields"]

/-- how values of the setting are taken for each other -/
def reader : Setting α → Value → Option α
  | inputDir | inputSuffix | outputDir | outputSuffix => asText?
  | timestamps => asFlag?
  | textFields => asTexts?

def get : Setting α → Settings → α
  | inputDir, settings => settings.inputDir
  | inputSuffix, settings => settings.inputSuffix
  | outputDir, settings => settings.outputDir
  | outputSuffix, settings => settings.outputSuffix
  | timestamps, settings => settings.timestamps
  | textFields, settings => settings.textFields

/-- what the setting is when nothing sets it -/
def missing (setting : Setting α) : α := setting.get {}

def find? (setting : Setting α) (layer : Layer) : Option α := do
  let entries ← section? layer setting.home setting.keys
  read? entries setting.key setting.reader setting.missing

theorem find?_of_section (setting : Setting α) {layer entries : Layer}
    (h : section? layer setting.home setting.keys = some entries) :
    setting.find? layer = read? entries setting.key setting.reader setting.missing := by
  rw [find?, h]
  rfl

end Setting

/-- **The settings of a layer are read one by one.** -/
theorem ofLayer?_eq_some_iff {layer : Layer} {settings : Settings} :
    ofLayer? layer = some settings ↔
      ∀ {α : Type} (setting : Setting α), setting.find? layer = some (setting.get settings) := by
  constructor
  · intro h α setting
    simp only [ofLayer?, Option.bind_eq_bind, Option.bind_eq_some_iff, Option.pure_def] at h
    obtain ⟨input, hinput, output, houtput, indexes, hindexes, inputDir, h₁, inputSuffix, h₂, outputDir, h₃,
      outputSuffix, h₄, timestamps, h₅, textFields, h₆, h⟩ := h
    cases h
    cases setting <;> rw [Setting.find?, Option.bind_eq_bind, Option.bind_eq_some_iff]
    · exact ⟨input, hinput, h₁⟩
    · exact ⟨input, hinput, h₂⟩
    · exact ⟨output, houtput, h₃⟩
    · exact ⟨output, houtput, h₄⟩
    · exact ⟨output, houtput, h₅⟩
    · exact ⟨indexes, hindexes, h₆⟩
  · intro h
    obtain ⟨input, hinput, -⟩ := Option.bind_eq_some_iff.1 (h .inputDir)
    obtain ⟨output, houtput, -⟩ := Option.bind_eq_some_iff.1 (h .outputDir)
    obtain ⟨indexes, hindexes, -⟩ := Option.bind_eq_some_iff.1 (h .textFields)
    have h₁ := (Setting.find?_of_section .inputDir hinput).symm.trans (h _)
    have h₂ := (Setting.find?_of_section .inputSuffix hinput).symm.trans (h _)
    have h₃ := (Setting.find?_of_section .outputDir houtput).symm.trans (h _)
    have h₄ := (Setting.find?_of_section .outputSuffix houtput).symm.trans (h _)
    have h₅ := (Setting.find?_of_section .timestamps houtput).symm.trans (h _)
    have h₆ := (Setting.find?_of_section .textFields hindexes).symm.trans (h _)
    simp only [Setting.home, Setting.keys, Setting.key, Setting.reader, Setting.missing, Setting.get] at *
    simp only [ofLayer?, Option.bind_eq_bind, hinput, houtput, hindexes, Option.bind_some, h₁, h₂, h₃, h₄, h₅, h₆]
    rfl

namespace Setting

variable {α : Type} (setting : Setting α)

/-! ## What sources say of a setting -/

def held (sources : List Layer) : Held := Settings.held setting.home setting.key sources

/-- how a source speaks of a setting -/
def mentions (source : Layer) : List Mention := Settings.mentions setting.home setting.key source

/-- what a source says of a setting, or of its section as something other than a table -/
def told (source : Layer) : List Mention := Settings.told setting.home setting.key source

/-- the value that a source, read on its own, gives to a setting by name -/
def given? (source : Layer) : Option Value :=
  match setting.held [source] with
  | .part (some value) => if isTable value then none else some value
  | _ => none

/-- the list that a source, read on its own, gives for the section of a setting -/
def list? (source : Layer) : Option (List Value) :=
  match setting.held [source] with
  | .whole (.array items) => some items
  | _ => none

/-- the setting by its place in a list -/
def item? (items : List Value) : Option α := read? (setting.keys.zip items) setting.key setting.reader setting.missing

/-- **The value of a setting by its sources,** earliest first. -/
inductive Decided : List Layer → α → Prop
  /-- a source gives it, and all later ones leave it -/
  | given {before after : List Layer} {source : Layer} {value : Value} {x : α} :
    setting.given? source = some value → (∀ later ∈ after, ∀ mention ∈ setting.mentions later, mention.Leaves) →
      setting.reader value = some x → Decided (before ++ source :: after) x
  /-- a source gives the section as a list, and no later one mentions the section -/
  | listed {before after : List Layer} {source : Layer} {items : List Value} {x : α} :
    setting.list? source = some items → (∀ later ∈ after, setting.mentions later = []) →
      setting.item? items = some x → Decided (before ++ source :: after) x
  /-- the section of each source that has anything for it is replaced later on, and the section is not left as a whole -/
  | unset {sources : List Layer} :
    (∀ before source after, sources = before ++ source :: after → (∃ value, setting.held [source] = .part (some value)) →
      ∃ later ∈ after, ∃ value, Mention.whole value ∈ setting.mentions later) →
    (∀ before source after, sources = before ++ source :: after → (∃ value, setting.held [source] = .whole value) →
      ∃ later ∈ after, setting.mentions later ≠ []) →
    Decided sources setting.missing

def ofHeld? : Held → Option α
  | .whole (.array items) => setting.item? items
  | .whole _ => none
  | .part none => some setting.missing
  | .part (some value) => setting.reader value

theorem find?_eq (sources : List Layer) : setting.find? (mergeLayers sources) = setting.ofHeld? (setting.held sources) := by
  rw [held, Settings.held, find?, section?]
  cases (mergeLayers sources).lookup setting.home with
  | none => rfl
  | some value =>
    cases value with
    | table entries =>
      simp only [heldIn, read?, Option.bind_eq_bind, Option.bind_some]
      cases entries.lookup setting.key <;> rfl
    | _ => rfl

theorem held_follows (sources : List Layer) :
    (setting.held sources).Follows ((sources.flatMap setting.told).foldl Held.after (.part none)) :=
  held_follows_told setting.home setting.key sources

/-- a section that is no table can only be read if it is a list -/
theorem array_of_ofHeld? {value : Value} {x : α} (h : setting.ofHeld? (.whole value) = some x) :
    ∃ items, value = .array items := by
  cases value with
  | array items => exact ⟨items, rfl⟩
  | _ => cases h

theorem reader_table (entries : List (String × Value)) : setting.reader (.table entries) = none := by
  cases setting <;> rfl

variable {setting}

theorem given?_eq_some_iff {source : Layer} {value : Value} :
    setting.given? source = some value ↔ setting.held [source] = .part (some value) ∧ isTable value = false := by
  rw [given?]
  cases setting.held [source] with
  | whole value => simp
  | part there =>
    cases there with
    | none => simp
    | some there =>
      simp only [Option.ite_none_left_eq_some, Option.some.injEq, Held.part.injEq, Bool.not_eq_true]
      constructor
      · rintro ⟨htable, rfl⟩
        exact ⟨rfl, htable⟩
      · rintro ⟨rfl, htable⟩
        exact ⟨htable, rfl⟩

theorem list?_eq_some_iff {source : Layer} {items : List Value} :
    setting.list? source = some items ↔ setting.held [source] = .whole (.array items) := by
  rw [list?]
  cases setting.held [source] with
  | whole value => cases value <;> simp
  | part there => simp

theorem isTable_of_reader {value : Value} {x : α} (h : setting.reader value = some x) : isTable value = false := by
  cases value with
  | table entries =>
    rw [reader_table] at h
    cases h
  | _ => rfl

/-- **Nothing is held of a setting** just when the section of each source that has anything for it is replaced later on,
and the section is not left as a whole. -/
theorem held_none_iff {sources : List Layer} :
    setting.held sources = .part none ↔
      (∀ before source after, sources = before ++ source :: after → (∃ value, setting.held [source] = .part (some value)) →
        ∃ later ∈ after, ∃ value, Mention.whole value ∈ setting.mentions later) ∧
      ∀ before source after, sources = before ++ source :: after → (∃ value, setting.held [source] = .whole value) →
        ∃ later ∈ after, setting.mentions later ≠ [] := by
  have hsome : (¬∃ value, setting.held sources = .part (some value)) ↔ _ := held_some_iff.not.trans not_setLast_iff
  have hwhole : (¬∃ value, setting.held sources = .whole value) ↔ _ :=
    ((exists_congr fun _ => held_whole_iff).trans setLast_exists_iff.symm).not.trans not_setLast_iff
  simp only [not_forall, not_not] at hsome
  refine Iff.trans ?_ (and_congr hsome hwhole)
  rcases setting.held sources with value | _ | value <;> simp

/-- **A setting has a value just when its sources decide it,** and then this is the value. -/
theorem decided_iff {sources : List Layer} {x : α} :
    setting.find? (mergeLayers sources) = some x ↔ setting.Decided sources x := by
  rw [find?_eq]
  constructor
  · intro h
    cases hheld : setting.held sources with
    | whole value =>
      obtain ⟨before, source, after, rfl, hsource, hlater⟩ := held_whole_iff.1 hheld
      rw [hheld] at h
      obtain ⟨items, rfl⟩ := array_of_ofHeld? _ h
      exact .listed (list?_eq_some_iff.2 hsource) hlater h
    | part there =>
      rw [hheld] at h
      cases there with
      | some value =>
        have htable := isTable_of_reader h
        obtain ⟨before, source, after, rfl, hsource, hlater⟩ := (held_value_iff htable).1 hheld
        exact .given (given?_eq_some_iff.2 ⟨hsource, htable⟩) hlater h
      | none =>
        cases h
        obtain ⟨hgivers, hwhole⟩ := held_none_iff.1 hheld
        exact .unset hgivers hwhole
  · intro h
    cases h with
    | given hgiven hlater hread =>
      obtain ⟨hsource, htable⟩ := given?_eq_some_iff.1 hgiven
      rw [held, (held_value_iff htable).2 ⟨_, _, _, rfl, hsource, hlater⟩]
      exact hread
    | listed hlist hlater hitem =>
      rw [held, held_whole_iff.2 ⟨_, _, _, rfl, list?_eq_some_iff.1 hlist, hlater⟩]
      exact hitem
    | unset hgivers hwhole =>
      rw [held_none_iff.2 ⟨hgivers, hwhole⟩]
      rfl

/-! ## The last source -/

/-- the setting by the last source that gives it by name, and its default if none does -/
def last? (setting : Setting α) (sources : List Layer) : Option α :=
  match sources.reverse.findSome? setting.given? with
  | some value => setting.reader value
  | none => some setting.missing

/-- **The last source that gives a setting decides it,** if no source gives its section as something other than a table. -/
theorem Decided.last?_eq {sources : List Layer} {x : α} (h : setting.Decided sources x)
    (hplain : ∀ source ∈ sources, ∀ value, Mention.whole value ∉ setting.mentions source) :
    setting.last? sources = some x := by
  rw [last?]
  cases h with
  | @given before after source value x hgiven hlater hread =>
    have hnone : after.reverse.findSome? setting.given? = none := by
      rw [List.findSome?_eq_none_iff]
      intro later hmem
      by_contra hsome
      obtain ⟨other, hother⟩ := Option.ne_none_iff_exists'.1 hsome
      obtain ⟨hheld, htable⟩ := given?_eq_some_iff.1 hother
      exact held_singleton_of_leaves htable (hlater later (List.mem_reverse.1 hmem)) hheld
    simp [hnone, hgiven, hread]
  | @listed before after source items x hlist hlater hitem =>
    have hwhole := list?_eq_some_iff.1 hlist
    rw [held, held_singleton] at hwhole
    exact absurd (List.mem_of_getLast? (getLast?_of_foldl_eq_whole hwhole)) (hplain source (by simp) _)
  | unset hgivers hwhole =>
    have hnone : sources.reverse.findSome? setting.given? = none := by
      rw [List.findSome?_eq_none_iff]
      intro source hmem
      by_contra hsome
      obtain ⟨value, hvalue⟩ := Option.ne_none_iff_exists'.1 hsome
      obtain ⟨before, after, hsplit⟩ := List.append_of_mem (List.mem_reverse.1 hmem)
      obtain ⟨later, hlater, whole, hmention⟩ := hgivers before source after hsplit ⟨value, (given?_eq_some_iff.1 hvalue).1⟩
      exact hplain later (hsplit ▸ List.mem_append_right _ (List.mem_cons_of_mem _ hlater)) whole hmention
    simp [hnone]

/-! ## What does not matter -/

/-- **What comes before a source that gives the setting does not matter.** -/
theorem find?_of_given {source : Layer} {value : Value} (h : setting.given? source = some value)
    (before before' after : List Layer) :
    setting.find? (mergeLayers (before ++ source :: after)) = setting.find? (mergeLayers (before' ++ source :: after)) := by
  obtain ⟨hsource, htable⟩ := given?_eq_some_iff.1 h
  -- up to the source, whatever is before it
  have hvalue : ∀ earlier, Settings.held setting.home setting.key (earlier ++ [source]) = .part (some value) :=
    fun earlier => (held_value_iff htable).2 ⟨earlier, source, [], rfl, hsource, by simp⟩
  rw [find?_eq, find?_eq, List.append_cons, List.append_cons before', held, held, held_append _ _ (before ++ [source]),
    held_append _ _ (before' ++ [source]), hvalue, hvalue]

/-- **A setting depends only on what is said of it,** unless the last that is said of it is a list for its section. -/
theorem find?_of_told {sources sources' : List Layer} {x x' : α} (h : setting.find? (mergeLayers sources) = some x)
    (h' : setting.find? (mergeLayers sources') = some x')
    (htold : sources.flatMap setting.told = sources'.flatMap setting.told) :
    x' = x ∨ ∃ items, (sources.flatMap setting.told).getLast? = some (.whole (.array items)) := by
  rw [find?_eq] at h h'
  have hfollows := setting.held_follows sources
  have hfollows' := setting.held_follows sources'
  rw [← htold] at hfollows'
  by_cases hheld : setting.held sources' = setting.held sources
  · left
    rwa [hheld, h, Option.some.injEq, eq_comm] at h'
  · right
    -- what is said leaves a section as a whole, and a table is laid over it on one side only
    rcases hfollows with hstate | ⟨hstate, value, hwhole⟩ <;> rcases hfollows' with hstate' | ⟨hstate', value', hwhole'⟩
    · exact absurd (hstate'.trans hstate.symm) hheld
    · rw [hstate, hwhole'] at h
      obtain ⟨items, rfl⟩ := setting.array_of_ofHeld? h
      exact ⟨items, getLast?_of_foldl_eq_whole hwhole'⟩
    · rw [hstate', hwhole] at h'
      obtain ⟨items, rfl⟩ := setting.array_of_ofHeld? h'
      exact ⟨items, getLast?_of_foldl_eq_whole hwhole⟩
    · exact absurd (hstate'.trans hstate.symm) hheld

/-! ## Sources that differ in one setting -/

/-- sources differ in one setting only -/
structure DiffersOnly (setting : Setting α) (sources sources' : List Layer) : Prop where
  /-- all other sections are given the same values -/
  sections : ∀ name ≠ setting.home, sources.flatMap (fun source => valuesAt name (source.map unfoldName))
    = sources'.flatMap fun source => valuesAt name (source.map unfoldName)
  /-- and the same is said of all other keys in its section -/
  keys : ∀ key ≠ setting.key,
    sources.flatMap (Settings.told setting.home key) = sources'.flatMap (Settings.told setting.home key)

/-- a change in the midst of other sources -/
theorem DiffersOnly.within {changed changed' : List Layer} (h : setting.DiffersOnly changed changed')
    (before after : List Layer) : setting.DiffersOnly (before ++ changed ++ after) (before ++ changed' ++ after) := by
  constructor
  · intro name hname
    simp only [List.flatMap_append, h.sections name hname]
  · intro key hkey
    simp only [List.flatMap_append, h.keys key hkey]

/-- **If sources differ in one setting only, every other setting comes out the same,** unless it has the same section and
the last that is said of it is a list for that. -/
theorem DiffersOnly.find? {β : Type} {sources sources' : List Layer} (h : setting.DiffersOnly sources sources')
    {other : Setting β} (hne : (other.home, other.key) ≠ (setting.home, setting.key)) {x x' : β}
    (hfind : other.find? (mergeLayers sources) = some x) (hfind' : other.find? (mergeLayers sources') = some x') :
    x' = x ∨ other.home = setting.home ∧ ∃ items, (sources.flatMap other.told).getLast? = some (.whole (.array items)) := by
  by_cases hhome : other.home = setting.home
  · have hkey : other.key ≠ setting.key := fun hkey => hne (by rw [hhome, hkey])
    have htold : sources.flatMap other.told = sources'.flatMap other.told := by
      unfold told
      rw [hhome, h.keys _ hkey]
    exact (find?_of_told hfind hfind' htold).imp_right fun hlist => ⟨hhome, hlist⟩
  · have hheld : other.held sources = other.held sources' := by
      have hmentions : ∀ layers : List Layer, layers.flatMap (Settings.mentions other.home other.key)
          = (layers.flatMap fun source => valuesAt other.home (source.map unfoldName)).flatMap (mentionsIn other.key) := by
        intro layers
        rw [List.flatMap_assoc]
        rfl
      rw [held, held, held_eq_foldl, held_eq_foldl, hmentions, hmentions, h.sections _ hhome]
    rw [find?_eq, hheld, ← find?_eq, hfind', Option.some.injEq] at hfind
    exact Or.inl hfind

theorem unfoldName_of_parts {key first : String} (rest : List String)
    (hparts : Path.splitChars '.' key.toList = (first :: rest).map String.toList)
    (hplain : ((first :: rest).map String.toList).all isNamePart = true) (value : Value) :
    unfoldName (key, value) = (first, nest rest value) := by
  have hnames : ((first :: rest).map String.toList).map String.ofList = first :: rest := by
    simp [Function.comp_def]
  simp only [unfoldName, hparts, hnames, hplain, if_true]

theorem unfoldName_home (setting : Setting α) (value : Value) : unfoldName (setting.home, value) = (setting.home, value) :=
  unfoldName_of_parts [] (by cases setting <;> decide +kernel) (by cases setting <;> decide +kernel) value

def name (setting : Setting α) : String := setting.home ++ "." ++ setting.key

theorem unfoldName_name (setting : Setting α) (value : Value) :
    unfoldName (setting.name, value) = (setting.home, .table [(setting.key, value)]) :=
  unfoldName_of_parts [setting.key] (by cases setting <;> decide +kernel) (by cases setting <;> decide +kernel)
    value

@[simp] theorem lower_home (setting : Setting α) : Text.lower setting.home = setting.home := by
  cases setting <;> decide +kernel

@[simp] theorem lower_key (setting : Setting α) : Text.lower setting.key = setting.key := by
  cases setting <;> decide +kernel

theorem filter_isTold_mentionsIn (key : String) (entries : List (String × Value)) :
    (mentionsIn key (.table entries)).filter Mention.isTold = (valuesAt key entries).map .value := by
  cases entries with
  | nil => rfl
  | cons entry rest =>
    rw [mentionsIn, List.filter_cons_of_neg (by simp [Mention.isTold]), List.filter_eq_self]
    · intro mention hmem
      obtain ⟨value, -, rfl⟩ := List.mem_map.1 hmem
      rfl
    · simp

/-- **Another table of the section,** with the same values for all other keys. -/
theorem differsOnly_table {entries entries' : List (String × Value)}
    (h : ∀ key ≠ setting.key, valuesAt key entries = valuesAt key entries') (before after : Layer) :
    setting.DiffersOnly [before ++ (setting.home, .table entries) :: after]
      [before ++ (setting.home, .table entries') :: after] := by
  constructor
  · intro name hname
    simp [valuesAt_append, valuesAt_cons, unfoldName_home, hname.symm]
  · intro key hkey
    simp [Settings.told, Settings.mentions, valuesAt_append, valuesAt_cons, unfoldName_home, filter_isTold_mentionsIn,
      h key hkey]

/-- **One more entry under the name of the setting.** -/
theorem differsOnly_insert (setting : Setting α) (value : Value) (before after : Layer) :
    setting.DiffersOnly [before ++ after] [before ++ (setting.name, value) :: after] := by
  constructor
  · intro name hname
    simp [valuesAt_append, valuesAt_cons, unfoldName_name, hname.symm]
  · intro key hkey
    simp [Settings.told, Settings.mentions, valuesAt_append, valuesAt_cons, unfoldName_name, filter_isTold_mentionsIn,
      hkey.symm]

/-- **One more variable for the setting.** -/
theorem differsOnly_variable {named : String} (h : variableName? named = some setting.name) (text : String)
    (before after : List (String × String)) :
    setting.DiffersOnly [environmentLayer (before ++ after)] [environmentLayer (before ++ (named, text) :: after)] := by
  have hlayer : environmentLayer (before ++ (named, text) :: after)
      = environmentLayer before ++ (setting.name, variableValue setting.name text) :: environmentLayer after := by
    simp [environmentLayer, h]
  have hbefore : environmentLayer (before ++ after) = environmentLayer before ++ environmentLayer after :=
    List.filterMap_append
  rw [hlayer, hbefore]
  exact setting.differsOnly_insert _ _ _

end Setting

end DocumentModels.Settings
