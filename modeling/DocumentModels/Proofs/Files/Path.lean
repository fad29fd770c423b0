/-
Names on a path.

- `PathName`, `ProperName`: what can stand on a path, and what in a directory.
- `pathName_of_mem_names`: what stands on a path between slashes is a name.
- `names_join`, `isAbsolute_join`, `endsInDirectory_join`: the path of a name inside a directory.
-/
import Mathlib.Tactic
import DocumentModels.Files.Path

namespace DocumentModels.Files

structure PathName (name : String) : Prop where
  nonempty : name ≠ ""
  noSlash : '/' ∉ name.toList
  noNul : '\x00' ∉ name.toList
  notDot : name ≠ "."

/-- a name that can stand in a directory -/
structure ProperName (name : String) : Prop extends PathName name where
  notDots : name ≠ ".."
  short : name.utf8ByteSize ≤ 255

instance : DecidablePred ProperName := fun name =>
  decidable_of_iff (name ≠ "" ∧ '/' ∉ name.toList ∧ '\x00' ∉ name.toList ∧ name ≠ "." ∧ name ≠ ".." ∧
      name.utf8ByteSize ≤ 255)
    ⟨fun ⟨hempty, hslash, hnul, hdot, hdots, hshort⟩ => ⟨⟨hempty, hslash, hnul, hdot⟩, hdots, hshort⟩,
      fun h => ⟨h.nonempty, h.noSlash, h.noNul, h.notDot, h.notDots, h.short⟩⟩

namespace Path

/-! ## Pieces -/

theorem splitChars_ne_nil (separator : Char) (cs : List Char) : splitChars separator cs ≠ [] := by
  cases cs with
  | nil => simp [splitChars]
  | cons c cs =>
    rw [splitChars]
    split_ifs
    · simp
    · split <;> simp

theorem splitChars_append (separator : Char) (cs ds : List Char) :
    splitChars separator (cs ++ separator :: ds) = splitChars separator cs ++ splitChars separator ds := by
  induction cs with
  | nil => simp [splitChars]
  | cons c cs ih =>
    rw [List.cons_append, splitChars, splitChars, ih]
    split_ifs with hc
    · rfl
    · cases hpieces : splitChars separator cs with
      | nil => exact absurd hpieces (splitChars_ne_nil separator cs)
      | cons piece pieces => rfl

theorem splitChars_of_notMem {separator : Char} {cs : List Char} (h : separator ∉ cs) :
    splitChars separator cs = [cs] := by
  induction cs with
  | nil => rfl
  | cons c cs ih =>
    simp only [List.mem_cons, not_or] at h
    rw [splitChars, if_neg (Ne.symm h.1), ih h.2]

theorem mem_splitChars {separator : Char} {cs piece : List Char} (h : piece ∈ splitChars separator cs) :
    separator ∉ piece ∧ ∀ c ∈ piece, c ∈ cs := by
  induction cs generalizing piece with
  | nil =>
    rw [List.mem_singleton.1 h]
    simp
  | cons c cs ih =>
    rw [splitChars] at h
    split_ifs at h with hc
    · rcases List.mem_cons.1 h with rfl | h
      · simp
      · obtain ⟨hseparator, hchars⟩ := ih h
        exact ⟨hseparator, fun d hd => List.mem_cons_of_mem _ (hchars d hd)⟩
    · cases hpieces : splitChars separator cs with
      | nil => exact absurd hpieces (splitChars_ne_nil separator cs)
      | cons first pieces =>
        rw [hpieces] at h ih
        rcases List.mem_cons.1 h with rfl | h
        · obtain ⟨hseparator, hchars⟩ := ih List.mem_cons_self
          refine ⟨?_, ?_⟩
          · simp only [List.mem_cons, not_or]
            exact ⟨Ne.symm hc, hseparator⟩
          · intro d hd
            rcases List.mem_cons.1 hd with rfl | hd
            · exact List.mem_cons_self
            · exact List.mem_cons_of_mem _ (hchars d hd)
        · obtain ⟨hseparator, hchars⟩ := ih (List.mem_cons_of_mem _ h)
          exact ⟨hseparator, fun d hd => List.mem_cons_of_mem _ (hchars d hd)⟩

/-! ## Names -/

theorem pathName_of_mem_names {path name : String} (hnul : '\x00' ∉ path.toList) (h : name ∈ names path) :
    PathName name := by
  obtain ⟨piece, hpiece, rfl⟩ := List.mem_map.1 h
  obtain ⟨hpiece, hkept⟩ := List.mem_filter.1 hpiece
  obtain ⟨hslash, hchars⟩ := mem_splitChars hpiece
  simp only [decide_eq_true_eq] at hkept
  constructor
  · intro hempty
    exact hkept.1 (by simpa using congrArg String.toList hempty)
  · simpa using hslash
  · intro hmem
    exact hnul (hchars _ (by simpa using hmem))
  · intro hdot
    exact hkept.2 (by simpa using congrArg String.toList hdot)

theorem names_append (path rest : List Char) :
    names (String.ofList (path ++ '/' :: rest)) = names (String.ofList path) ++ names (String.ofList rest) := by
  simp only [names, String.toList_ofList, splitChars_append, List.filter_append, List.map_append]

theorem names_of_pathName {name : String} (h : PathName name) : names name = [name] := by
  have hempty : name.toList ≠ [] := by
    intro hnil
    exact h.nonempty (String.toList_injective hnil)
  have hdot : name.toList ≠ ['.'] := by
    intro hdot
    exact h.notDot (String.toList_injective hdot)
  rw [names, splitChars_of_notMem h.noSlash]
  simp [hempty, hdot]

theorem isAbsolute_of_noSlash {name : String} (h : '/' ∉ name.toList) : isAbsolute name = false := by
  rw [isAbsolute, decide_eq_false_iff_not]
  intro hfirst
  exact h (List.mem_of_head? hfirst)

/-- a path inside a directory: the directory's text, a slash if there is none yet, and the name -/
theorem toList_join {directory name : String} (hdirectory : directory ≠ "") (h : '/' ∉ name.toList) :
    ∃ front, (join directory name).toList = front ++ '/' :: name.toList ∧
      (directory.toList = front ∨ directory.toList = front ++ ['/']) := by
  have hnonempty : directory.isEmpty = false := by simpa [String.isEmpty_iff] using hdirectory
  unfold join
  rw [isAbsolute_of_noSlash h, if_neg (by decide), hnonempty]
  by_cases hlast : directory.toList.getLast? = some '/'
  · obtain ⟨front, hfront⟩ := List.getLast?_eq_some_iff.1 hlast
    refine ⟨front, ?_, Or.inr hfront⟩
    rw [if_pos (Or.inr hlast), String.toList_append, hfront]
    simp
  · refine ⟨directory.toList, ?_, Or.inl rfl⟩
    rw [if_neg (by simp [hlast])]
    simp

theorem names_join {directory name : String} (hdirectory : directory ≠ "") (h : PathName name) :
    names (join directory name) = names directory ++ [name] := by
  obtain ⟨front, hjoin, hfront⟩ := toList_join hdirectory h.noSlash
  have hpath : join directory name = String.ofList (front ++ '/' :: name.toList) := by
    rw [← hjoin, String.ofList_toList]
  rw [hpath, names_append, String.ofList_toList, names_of_pathName h]
  congr 1
  rcases hfront with hfront | hfront
  · rw [← hfront, String.ofList_toList]
  · have hdir : directory = String.ofList (front ++ '/' :: []) := by
      rw [← hfront, String.ofList_toList]
    rw [hdir, names_append]
    simp [names, splitChars]

theorem isAbsolute_join {directory name : String} (hdirectory : directory ≠ "") (h : PathName name) :
    isAbsolute (join directory name) = isAbsolute directory := by
  obtain ⟨front, hjoin, hfront⟩ := toList_join hdirectory h.noSlash
  rw [isAbsolute, isAbsolute, hjoin]
  cases front with
  | nil =>
    rcases hfront with hfront | hfront
    · exact absurd (String.toList_injective hfront) hdirectory
    · simp [hfront]
  | cons c front =>
    rcases hfront with hfront | hfront
    · simp [hfront]
    · simp [hfront]

theorem endsInDirectory_join {directory name : String} (hdirectory : directory ≠ "") (h : PathName name) :
    endsInDirectory (join directory name) = false := by
  obtain ⟨front, hjoin, -⟩ := toList_join hdirectory h.noSlash
  rw [endsInDirectory, hjoin, List.reverse_append, List.reverse_cons]
  cases hname : name.toList.reverse with
  | nil => exact absurd (String.toList_injective (List.reverse_eq_nil_iff.1 hname)) h.nonempty
  | cons c rest =>
    have hslash : ∀ d ∈ c :: rest, d ≠ '/' := by
      rintro d hd rfl
      rw [← hname, List.mem_reverse] at hd
      exact h.noSlash hd
    cases rest with
    | nil =>
      -- the name is one character, and that is no dot
      have hdot : c ≠ '.' := by
        rintro rfl
        exact h.notDot (String.toList_injective (by simpa using congrArg List.reverse hname))
      simp [hslash c List.mem_cons_self, hdot]
    | cons d rest => simp [hslash c List.mem_cons_self, hslash d (by simp)]

theorem noNul_join {directory name : String} (hdirectory : directory ≠ "") (h : PathName name)
    (hnul : '\x00' ∉ directory.toList) : '\x00' ∉ (join directory name).toList := by
  obtain ⟨front, hjoin, hfront⟩ := toList_join hdirectory h.noSlash
  rw [hjoin]
  have hclean : '\x00' ∉ front := by
    rcases hfront with hfront | hfront
    · rwa [hfront] at hnul
    · rw [hfront, List.mem_append, not_or] at hnul
      exact hnul.1
  simp [hclean, h.noNul]

theorem join_nonempty {directory name : String} (hdirectory : directory ≠ "") (h : PathName name) :
    join directory name ≠ "" := by
  obtain ⟨front, hjoin, -⟩ := toList_join hdirectory h.noSlash
  intro hempty
  rw [hempty] at hjoin
  simp at hjoin

/-- what stands last on the path of a file, and has no slash in it, is a name -/
theorem pathName_of_join {directory name : String} (hdirectory : directory ≠ "") (hname : name ≠ "")
    (hslash : '/' ∉ name.toList) (hnul : '\x00' ∉ (join directory name).toList)
    (hends : endsInDirectory (join directory name) = false) : PathName name := by
  obtain ⟨front, hjoin, -⟩ := toList_join hdirectory hslash
  refine ⟨hname, hslash, ?_, ?_⟩
  · intro hmem
    rw [hjoin] at hnul
    exact hnul (List.mem_append_right _ (List.mem_cons_of_mem _ hmem))
  · rintro rfl
    rw [endsInDirectory, hjoin] at hends
    simp at hends

theorem noNul_of_join {directory name : String} (hdirectory : directory ≠ "") (hslash : '/' ∉ name.toList)
    (hnul : '\x00' ∉ (join directory name).toList) : '\x00' ∉ directory.toList := by
  obtain ⟨front, hjoin, hfront⟩ := toList_join hdirectory hslash
  rw [hjoin, List.mem_append, not_or] at hnul
  rcases hfront with hfront | hfront
  · rw [hfront]
    exact hnul.1
  · rw [hfront]
    simp [hnul.1]

end Path

end DocumentModels.Files
