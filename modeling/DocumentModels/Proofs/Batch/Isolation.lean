/-
One definition file and its siblings.

- `nodup_discover`: every source of a run has an entity of its own.
- `loadFile_name`: what a source yields bears the name of its entity.
- `discover_apart`: trees that differ at one definition file have the same other sources.
- `load_apart`: and the same comes of them, in the same order.
- `load_write`: so it does when the file is written over, whatever it holds then.
- `load_remove`: when the file is taken away, just what came of it is gone.
-/
import Mathlib.Tactic
import DocumentModels.Proofs.Batch.Source
import DocumentModels.Proofs.Files.Erase
import DocumentModels.Proofs.Schema.Positions

namespace DocumentModels.Batch

open Files Entry

/-! ## The entity of a source -/

theorem names_sourcesOf (directory suffix : String) (names : List String) :
    (sourcesOf directory suffix names).map Prod.fst = names.filterMap (entityOfName? suffix) := by
  rw [sourcesOf, List.map_filterMap]
  refine List.filterMap_congr ?_
  intro name _
  cases entityOfName? suffix name <;> rfl

/-- **Every source has an entity of its own.** -/
theorem nodup_discover {files : FileTree} (hfiles : files.WellFormed) {directory suffix : String}
    {sources : List (String × String)} (h : discover files directory suffix = .ok sources) :
    (sources.map Prod.fst).Nodup := by
  obtain ⟨place, children, hdir⟩ := directory_of_discover h
  rw [discover_ok hdir, Except.ok.injEq] at h
  rw [← h, names_sourcesOf]
  refine List.Nodup.filterMap ?_ (sourceNames_nodup (distinct_of_locate hfiles hdir))
  intro a b entity ha hb
  rw [eq_of_entityOfName? ha, eq_of_entityOfName? hb]

/-- what a source yields bears the name of its entity -/
theorem loadFile_name {files : FileTree} {entity path : String} {loaded : Entity}
    (h : loadFile files entity path = .ok loaded) : loaded.name = entity := by
  obtain ⟨cause, hfails⟩ | ⟨what, cause, hfails⟩ | ⟨definition, found, hentity, hloads⟩ :=
    loadFile_cases files entity path
  · rw [hfails] at h
    cases h
  · rw [hfails] at h
    cases h
  · rw [hloads, Except.ok.injEq] at h
    subst h
    obtain ⟨tree, -, hnode⟩ := Entity.ofDefinition_eq_ok hentity
    obtain ⟨shape, -, rfl⟩ := Entity.ofNode_eq_ok hnode
    rfl

/-! ## All sources but one -/

/-- what was loaded, but for the entity of one source -/
def Loaded.without (loaded : Loaded) (entity : String) : Loaded :=
  ⟨loaded.entities.filter fun item => item.name ≠ entity, loaded.failures.filter fun item => item.entity ≠ entity⟩

/-- what the sources but one yield -/
theorem without_filterMap (files : FileTree) (sources : List (String × String)) (entity : String) :
    Loaded.without ⟨sources.filterMap (entityOfSource? files), sources.filterMap (failureOf? files)⟩ entity
      = ⟨(sources.filter fun source => source.1 ≠ entity).filterMap (entityOfSource? files),
          (sources.filter fun source => source.1 ≠ entity).filterMap (failureOf? files)⟩ := by
  rw [Loaded.without, List.filter_filterMap, List.filter_filterMap, List.filterMap_filter, List.filterMap_filter]
  congr 1
  · refine List.filterMap_congr ?_
    intro source _
    rw [entityOfSource?]
    cases hload : loadFile files source.1 source.2 with
    | error failure => simp [Except.toOption]
    | ok loaded =>
      have hname := loadFile_name hload
      simp only [Except.toOption, Option.filter_some, hname]
  · refine List.filterMap_congr ?_
    intro source _
    rw [failureOf?]
    cases hload : loadFile files source.1 source.2 with
    | ok loaded => simp
    | error failure => simp only [Option.filter_some]

theorem filter_sourcesOf (directory suffix : String) (names : List String) (entity : String) :
    ((sourcesOf directory suffix names).filter fun source => source.1 ≠ entity)
      = sourcesOf directory suffix (names.filter fun name => name ≠ entity ++ suffix) := by
  rw [sourcesOf, sourcesOf, List.filter_filterMap, List.filterMap_filter]
  refine List.filterMap_congr ?_
  intro name _
  cases hname : entityOfName? suffix name with
  | none => simp
  | some found =>
    have hfound := eq_of_entityOfName? hname
    by_cases hsame : found = entity
    · simp [hsame, hfound]
    · have hother : found ++ suffix ≠ entity ++ suffix := by
        intro h
        exact hsame (String.append_left_inj suffix |>.1 h)
      simp [hsame, hfound, hother]

section Apart

variable {files after : FileTree} {directory suffix entity : String} {place : List String}
  {children : List (String × Entry)}

/-- **The other sources stay.** -/
theorem discover_apart (hfiles : files.WellFormed)
    (hdir : files.locate directory = .ok ⟨place, some (.directory children)⟩)
    (hdiffers : FileTree.DiffersAt files after (place ++ [entity ++ suffix])) {sources : List (String × String)}
    (h : discover files directory suffix = .ok sources) :
    ∃ sources', discover after directory suffix = .ok sources' ∧
      (sources'.filter fun source => source.1 ≠ entity) = sources.filter fun source => source.1 ≠ entity := by
  obtain ⟨children', hdir'⟩ := hdiffers.locate_directory hdir
  refine ⟨_, discover_ok hdir' suffix, ?_⟩
  rw [discover_ok hdir, Except.ok.injEq] at h
  rw [← h, filter_sourcesOf, filter_sourcesOf]
  congr 1
  refine filter_sourceNames_congr (distinct_of_locate hdiffers.wellFormed hdir') (distinct_of_locate hfiles hdir) _ ?_
  intro name hname _
  have hplace : place ++ [name] ≠ place ++ [entity ++ suffix] := by simpa using hname
  refine exists_congr fun bytes => ?_
  rw [← lookup_file_iff hdir', ← lookup_file_iff hdir, hdiffers.elsewhere _ hplace]

theorem readText_apart (hfiles : files.WellFormed)
    (hdir : files.locate directory = .ok ⟨place, some (.directory children)⟩)
    (hdiffers : FileTree.DiffersAt files after (place ++ [entity ++ suffix])) {sources : List (String × String)}
    (h : discover files directory suffix = .ok sources) {source : String × String} (hsource : source ∈ sources)
    (hother : source.1 ≠ entity) : after.readText source.2 = files.readText source.2 := by
  obtain ⟨children', hdir'⟩ := hdiffers.locate_directory hdir
  obtain ⟨name, bytes, hname, hpath, hlookup⟩ := (mem_discover hfiles hdir h).1 hsource
  have hplace : place ++ [name] ≠ place ++ [entity ++ suffix] := by
    rw [eq_of_entityOfName? hname]
    intro hsame
    have hnames : source.1 ++ suffix = entity ++ suffix := by simpa using hsame
    exact hother (String.append_left_inj suffix |>.1 hnames)
  have hlookup' : children'.lookup name = some (.file bytes) := by
    rw [← lookup_file_iff hdir', hdiffers.elsewhere _ hplace, lookup_file_iff hdir, hlookup]
  rw [hpath, FileTree.readText_eq (FileTree.locate_join hfiles hdir hlookup),
    FileTree.readText_eq (FileTree.locate_join hdiffers.wellFormed hdir' hlookup')]

/-- **The same comes of the other sources,** in the same order. -/
theorem load_apart (hfiles : files.WellFormed)
    (hdir : files.locate directory = .ok ⟨place, some (.directory children)⟩)
    (hdiffers : FileTree.DiffersAt files after (place ++ [entity ++ suffix])) {loaded : Loaded}
    (h : load files directory suffix = .ok loaded) :
    ∃ loaded', load after directory suffix = .ok loaded' ∧ loaded'.without entity = loaded.without entity := by
  obtain ⟨sources, hsources, rfl⟩ := load_ok.1 h
  obtain ⟨sources', hsources', hothers⟩ := discover_apart hfiles hdir hdiffers hsources
  refine ⟨_, load_ok.2 ⟨sources', hsources', rfl⟩, ?_⟩
  rw [without_filterMap, without_filterMap, hothers]
  refine loaded_congr ?_
  intro source hsource
  obtain ⟨hmem, hother⟩ := List.mem_filter.1 hsource
  exact readText_apart hfiles hdir hdiffers hsources hmem (by simpa using hother)

end Apart

/-! ## One file changed, one file taken away -/

section Change

variable {files : FileTree} {directory suffix : String} {sources : List (String × String)} {loaded : Loaded}
  {source : String × String}

/-- **Whatever one file holds, its siblings load the same,** in the same order. -/
theorem load_write (hfiles : files.WellFormed) (hsources : discover files directory suffix = .ok sources)
    (hload : load files directory suffix = .ok loaded) (hsource : source ∈ sources) (bytes : ByteArray) :
    ∃ next loaded', files.write source.2 bytes = .ok next ∧ load next directory suffix = .ok loaded' ∧
      loaded'.without source.1 = loaded.without source.1 := by
  obtain ⟨place, children, hdir⟩ := directory_of_discover hsources
  obtain ⟨old, hfile⟩ := locate_source hfiles hdir hsources hsource
  obtain ⟨next, hwrite, hdiffers⟩ := FileTree.differsAt_write hfiles hfile bytes
  obtain ⟨loaded', hload', hsame⟩ := load_apart hfiles hdir hdiffers hload
  exact ⟨next, loaded', hwrite, hload', hsame⟩

/-- nothing comes of a source that is not there -/
theorem without_absent (hload : load files directory suffix = .ok loaded)
    (hsources : discover files directory suffix = .ok sources) {entity : String} (h : entity ∉ sources.map Prod.fst) :
    loaded.without entity = loaded := by
  obtain ⟨sources', hsources', rfl⟩ := load_ok.1 hload
  rw [hsources, Except.ok.injEq] at hsources'
  subst hsources'
  have hall : (sources.filter fun source => source.1 ≠ entity) = sources := by
    rw [List.filter_eq_self]
    intro source hsource
    rw [decide_eq_true_eq]
    rintro rfl
    exact h (List.mem_map_of_mem hsource)
  rw [without_filterMap, hall]

/-- **Without a file, just what came of it is gone.** -/
theorem load_remove (hfiles : files.WellFormed) (hsources : discover files directory suffix = .ok sources)
    (hload : load files directory suffix = .ok loaded) (hsource : source ∈ sources) :
    load (files.remove source.2) directory suffix = .ok (loaded.without source.1) := by
  obtain ⟨place, children, hdir⟩ := directory_of_discover hsources
  obtain ⟨old, hfile⟩ := locate_source hfiles hdir hsources hsource
  obtain ⟨hdiffers, hgone⟩ := FileTree.differsAt_remove hfiles hfile
  obtain ⟨loaded', hload', hsame⟩ := load_apart hfiles hdir hdiffers hload
  obtain ⟨children', hdir'⟩ := hdiffers.locate_directory hdir
  obtain ⟨sources', hsources', -⟩ := load_ok.1 hload'
  have habsent : source.1 ∉ sources'.map Prod.fst := by
    intro hthere
    obtain ⟨⟨entity, path⟩, hmem, rfl⟩ := List.mem_map.1 hthere
    obtain ⟨name, bytes, hname, -, hlookup⟩ := (mem_discover hdiffers.wellFormed hdir' hsources').1 hmem
    have hstands := (lookup_file_iff hdir' name bytes).2 hlookup
    rw [eq_of_entityOfName? hname, hgone] at hstands
    cases hstands
  rw [hload', ← hsame, without_absent hload' hsources' habsent]

end Change

end DocumentModels.Batch
