/-
A line of an index holds the path of a file as the build used it, from the directory that the build ran
in. Whoever includes the index takes a path that does not start at the top from the directory of the
index. Both agree for paths that start at the top, and for others exactly if the names lead to one place
from both directories.
-/
import RecordMapper.Proofs.Builds
import RecordMapper.Proofs.IndexLines
import Mathlib.Data.List.DropRight

namespace RecordMapper

open Files

namespace Files

/-! ## Directories of paths -/

/-- The directory part of a path: all up to its last slash. -/
def PathName.directory (path : PathName) : PathName :=
  ⟨String.ofList (path.text.toList.rdropWhile (· ≠ '/'))⟩

/-- The path that an `include!` in a file stands for: as it is if it starts at the top, and from the
directory of the file otherwise. -/
def includedFrom (file path : PathName) : PathName :=
  file.directory.join path

namespace PathName

variable {path directory name : PathName}

theorem join_of_isAbsolute (h : name.isAbsolute = true) : directory.join name = name := by
  rw [join, h, Bool.true_or, if_pos rfl]

theorem isAbsolute_join (h : directory.isAbsolute = true) : (directory.join name).isAbsolute = true := by
  have first : directory.text.toList.head? = some '/' := by simpa [isAbsolute] using h
  have more : ∀ rest, (directory.text.toList ++ rest).head? = some '/' := by
    intro rest
    rw [List.head?_append, first]
    rfl
  have nonempty : directory.text ≠ "" := by
    intro empty
    rw [empty] at first
    cases first
  unfold join
  split
  · next h' =>
    simp only [Bool.or_eq_true, decide_eq_true_eq, nonempty, or_false] at h'
    exact h'
  · split
    · simp [isAbsolute, more]
    · simp [isAbsolute, more]

/-- A directory part is nothing or ends in a slash. -/
theorem directory_text (path : PathName) :
    path.directory.text = "" ∨ ∃ front, path.directory.text.toList = front ++ ['/'] := by
  have last := List.rdropWhile_last_not (· ≠ '/') path.text.toList
  unfold directory
  generalize path.text.toList.rdropWhile (· ≠ '/') = front at last ⊢
  cases front using List.reverseRecOn with
  | nil => exact .inl rfl
  | append_singleton front c =>
    obtain rfl : c = '/' := by simpa using last
    exact .inr ⟨front, String.toList_ofList⟩

theorem text_directory_join (below : name.isAbsolute = false) :
    (path.directory.join name).text = path.directory.text ++ name.text := by
  unfold join
  obtain none | ⟨front, text⟩ := path.directory_text
  · simp [none]
  · have slash : path.directory.endsInSlash = true := by simp [endsInSlash, text]
    have some_text : path.directory.text ≠ "" := by
      intro none
      rw [none] at text
      simp at text
    simp [below, slash, some_text]

/-- A path is its directory part with a name after it. -/
theorem exists_directory_join (nonempty : path.text ≠ "") (noSlash : path.endsInSlash = false) :
    ∃ last : PathName, '/' ∉ last.text.toList ∧ last.text ≠ "" ∧ path = path.directory.join last := by
  have whole : path.directory.text.toList ++ path.text.toList.rtakeWhile (· ≠ '/') =
      path.text.toList := by
    rw [directory, String.toList_ofList]
    exact List.rdropWhile_append_rtakeWhile
  generalize hlast : path.text.toList.rtakeWhile (· ≠ '/') = last at whole
  have plain : '/' ∉ last := by
    intro inside
    rw [← hlast] at inside
    simpa using List.mem_rtakeWhile_imp inside
  have more : last ≠ [] := by
    rintro rfl
    rw [List.append_nil] at whole
    obtain none | ⟨front, text⟩ := path.directory_text
    · rw [none] at whole
      exact nonempty (String.toList_injective whole.symm)
    · have slash : path.endsInSlash = true := by simp [endsInSlash, ← whole, text]
      rw [slash] at noSlash
      cases noSlash
  have below : isAbsolute ⟨String.ofList last⟩ = false := by
    rw [isAbsolute, decide_eq_false_iff_not, String.toList_ofList]
    exact fun first => plain (List.mem_of_mem_head? first)
  refine ⟨⟨String.ofList last⟩, by rwa [String.toList_ofList], by simpa using more, ?_⟩
  have text : path.text = (path.directory.join ⟨String.ofList last⟩).text := by
    rw [text_directory_join below]
    exact String.toList_injective (by rw [String.toList_append, String.toList_ofList, whole])
  cases path
  exact congrArg PathName.mk text

/-- The names of a path are those of its directory part and one more. -/
theorem exists_names_directory (nonempty : path.text ≠ "") (noSlash : path.endsInSlash = false) :
    ∃ last, path.names = path.directory.names ++ [last] := by
  obtain ⟨last, plain, nonempty, whole⟩ := exists_directory_join nonempty noSlash
  exact ⟨last.text, by rw [← names_join plain nonempty, ← whole]⟩

/-- Names are put behind a directory part. -/
theorem names_directory_join (below : name.isAbsolute = false) :
    (path.directory.join name).names = path.directory.names ++ name.names := by
  unfold names
  rw [text_directory_join below, String.toList_append]
  obtain none | ⟨front, text⟩ := path.directory_text
  · simp [none, splitAtSlashes]
  · simp [text, splitAtSlashes_append, splitAtSlashes]

/-- A path that starts below has a name, unless it is empty. -/
theorem names_ne_nil (below : name.isAbsolute = false) (nonempty : name.text ≠ "") :
    name.names ≠ [] := by
  unfold names
  cases text : name.text.toList with
  | nil => exact absurd (String.toList_injective text) nonempty
  | cons c cs =>
    have plain : c ≠ '/' := by simpa [isAbsolute, text] using below
    rw [splitAtSlashes, if_neg plain]
    split <;> simp

end PathName

namespace FileTree

variable {tree : FileTree} {path : PathName} {start home place : Location}
  {front names : List String}

/-! ## Places from a directory -/

/-- The place of names from a directory; the last may not exist yet. -/
def placeFrom (tree : FileTree) (start : Location) (names : List String) : Except FileError Location :=
  match names.getLast? with
  | none => .ok start
  | some last => do
    let directory ← names.dropLast.foldlM tree.enter start
    if isDots last then tree.enter directory last else .ok (directory ++ [last])

/-- Only a path with a text leads anywhere. -/
theorem text_ne_empty_of_locate (located : tree.locate path = .ok place) : path.text ≠ "" := by
  intro empty
  rw [locate, if_pos empty] at located
  cases located

theorem placeFrom_top (located : tree.locate path = .ok place) :
    tree.placeFrom [] path.names = .ok place := by
  rwa [locate, if_neg (text_ne_empty_of_locate located)] at located

theorem placeOf_append (walked : tree.walk front = .ok home) (some_names : names ≠ []) :
    tree.placeOf (front ++ names) = tree.placeFrom home names := by
  have last : names.getLast? = some (names.getLast some_names) := List.getLast?_eq_some_getLast _
  unfold walk at walked
  simp only [placeOf, placeFrom, List.getLast?_append, List.dropLast_append_of_ne_nil some_names, last,
    Option.some_or, walk, List.foldlM_append, walked]
  rfl

theorem foldlM_enter_eq (up : ".." ∉ names) (h : names.foldlM tree.enter start = .ok place) :
    place = start ++ names.filter (· ≠ ".") := by
  induction names generalizing start with
  | nil =>
    cases h
    simp
  | cons name names ih =>
    rw [List.foldlM_cons, bind_eq_ok] at h
    obtain ⟨next, entered, h⟩ := h
    simp only [List.mem_cons, not_or] at up
    have down : next = start ++ [name].filter (· ≠ ".") := by
      unfold enter at entered
      by_cases same : name = "."
      · rw [if_pos same] at entered
        cases entered
        simp [same]
      · rw [if_neg same, if_neg (Ne.symm up.1)] at entered
        split at entered
        · cases entered
          simp [same]
        · cases entered
        · cases entered
    rw [ih up.2 h, down, List.append_assoc, ← List.filter_append, List.singleton_append]

/-- Names that never lead up lead straight down. -/
theorem placeFrom_eq (up : ".." ∉ names) (h : tree.placeFrom start names = .ok place) :
    place = start ++ names.filter (· ≠ ".") := by
  cases names using List.reverseRecOn with
  | nil =>
    cases h
    simp
  | append_singleton front last =>
    simp only [placeFrom, List.getLast?_concat, List.dropLast_concat, bind_eq_ok] at h
    obtain ⟨directory, walked, h⟩ := h
    by_cases dots : isDots last = true
    · rw [if_pos dots] at h
      have whole : (front ++ [last]).foldlM tree.enter start = .ok place := by
        rw [List.foldlM_append, bind_eq_ok]
        refine ⟨directory, walked, ?_⟩
        rw [List.foldlM_cons, bind_eq_ok]
        exact ⟨place, h, rfl⟩
      exact foldlM_enter_eq up whole
    · rw [if_neg dots] at h
      cases h
      have own : last ≠ "." := by
        rintro rfl
        exact dots rfl
      rw [foldlM_enter_eq (fun inside => up (List.mem_append_left _ inside)) walked,
        List.filter_append]
      simp [own]

end FileTree

end Files

/-! ## Lines of an index -/

section Index

variable {tree : FileTree} {index file : PathName} {home place : Location}

/-- The directory of a file that can be reached can be reached. -/
theorem exists_walk_directory (located : tree.locate index = .ok place)
    (noSlash : index.endsInSlash = false) :
    ∃ home, tree.walk index.directory.names = .ok home := by
  have nonempty := FileTree.text_ne_empty_of_locate located
  obtain ⟨last, names⟩ := PathName.exists_names_directory nonempty noSlash
  rw [FileTree.locate, if_neg nonempty, names, FileTree.placeOf, List.getLast?_concat] at located
  simp only [List.dropLast_concat, bind_eq_ok] at located
  obtain ⟨home, walked, -⟩ := located
  exact ⟨home, walked⟩

variable (walked : tree.walk index.directory.names = .ok home) (below : file.isAbsolute = false)
  (located : tree.locate file = .ok place)

include walked below located

/-- A line with a path that starts below leads where its names lead from the directory of the index. -/
theorem locate_includedFrom :
    tree.locate (includedFrom index file) = tree.placeFrom home file.names := by
  have nonempty := FileTree.text_ne_empty_of_locate located
  have some_text : (includedFrom index file).text ≠ "" := PathName.text_join_ne_empty nonempty
  rw [FileTree.locate, if_neg some_text, includedFrom, PathName.names_directory_join below,
    FileTree.placeOf_append walked (PathName.names_ne_nil below nonempty)]

theorem locate_includedFrom_top (top : home = []) :
    tree.locate (includedFrom index file) = .ok place := by
  rw [locate_includedFrom walked below located, top]
  exact FileTree.placeFrom_top located

/-- If the names never lead up, the line leads to the file only if the index is at the top. -/
theorem locate_includedFrom_eq_iff (up : ".." ∉ file.names) :
    tree.locate (includedFrom index file) = .ok place ↔ home = [] := by
  refine ⟨fun found => ?_, locate_includedFrom_top walked below located⟩
  rw [locate_includedFrom walked below located] at found
  have fromTop := FileTree.placeFrom_eq up (FileTree.placeFrom_top located)
  have same := fromTop.symm.trans (FileTree.placeFrom_eq up found)
  exact (List.append_cancel_right same).symm

end Index

/-- **What the index of a successful build includes.** Read back, the index gives the reported files in
order, and each line holds the path that was reported. A path that starts at the top is included as it is,
and all do if the output directory does. Any other is taken from the directory of the index: it leads where
its names lead from there. So it leads to the reported file if the index is at the top, where the build
ran, and without a `..` in it only then. -/
theorem build_includes {settings : BuildSettings} {environment : BuildEnvironment} {tree : FileTree}
    {report : BuildReport} (h : (build settings environment tree).result = .ok report) :
    let after := (build settings environment tree).tree
    (∃ text, after.read report.index = .ok text ∧ readIndex? text = some report.files) ∧
    (∀ outDir, settings.outDir?.or environment.outDir? = some outDir → outDir.isAbsolute = true →
      ∀ file ∈ report.files, file.isAbsolute = true) ∧
    ∃ home, after.walk report.index.directory.names = .ok home ∧
      ∀ file ∈ report.files, ∃ place, after.locate file = .ok place ∧
        (file.isAbsolute = true → includedFrom report.index file = file) ∧
        (file.isAbsolute = false →
          after.locate (includedFrom report.index file) = after.placeFrom home file.names ∧
          (home = [] → after.locate (includedFrom report.index file) = .ok place) ∧
          (".." ∉ file.names →
            (after.locate (includedFrom report.index file) = .ok place ↔ home = []))) := by
  intro after
  have ends : Ends settings environment tree (build settings environment tree).result after
      (build settings environment tree).written := build_ends settings environment tree
  rw [h] at ends
  obtain ⟨outDir, generation, writing, accepted, -, wrote, rfl, afterwards, -⟩ := ends.of_ok
  obtain ⟨outputs, renders, leaves⟩ := exists_leaves_writeOutput wrote
  rw [← afterwards] at leaves
  simp only [← map_path_of_rendersTo renders]
  have read : after.read (outDir.join settings.indexName) = .ok _ := read_last leaves
  obtain ⟨noSlash, _, located⟩ := leaves.placed ⟨outDir.join settings.indexName, _⟩
    (List.mem_append_right _ (List.mem_singleton_self _))
  obtain ⟨home, walked⟩ := exists_walk_directory located noSlash
  refine ⟨⟨_, read, readIndex?_indexText _⟩, ?_, home, walked, ?_⟩
  · intro outDir' same absolute file hm
    obtain rfl : outDir' = outDir := Option.some.inj (same.symm.trans accepted.outDir)
    obtain ⟨output, ho, rfl⟩ := List.mem_map.mp hm
    obtain ⟨module, -, rendered⟩ := exists_module_of_mem renders ho
    rw [rendered.path]
    exact PathName.isAbsolute_join absolute
  · intro file hm
    obtain ⟨output, ho, rfl⟩ := List.mem_map.mp hm
    obtain ⟨-, place, located⟩ := leaves.placed output (List.mem_append_left _ ho)
    exact ⟨place, located, PathName.join_of_isAbsolute, fun below =>
      ⟨locate_includedFrom walked below located, locate_includedFrom_top walked below located,
        locate_includedFrom_eq_iff walked below located⟩⟩

/-- With the relative directory `out`, the line of the index leads from `out` to `out`, where nothing is,
and not to the reported file. -/
theorem exists_include_elsewhere :
    let outcome := build (buildOne ⟨"mappers.rs"⟩) ⟨none, none⟩ oneMapping
    ∃ report file, outcome.result = .ok report ∧ report.files = [file] ∧
      outcome.tree.locate (includedFrom report.index file) ≠ outcome.tree.locate file := by
  intro outcome
  have reported : outcome.result.toOption.map (fun report => (report.files, report.index)) =
      some ([⟨"out/o_mapper.rs"⟩], ⟨"out/mappers.rs"⟩) := by decide +kernel
  obtain ⟨report, succeeded⟩ : ∃ report, outcome.result = .ok report := by
    cases result : outcome.result with
    | ok report => exact ⟨report, rfl⟩
    | error error =>
      rw [result] at reported
      cases reported
  rw [succeeded] at reported
  obtain ⟨files, index⟩ := Prod.mk.inj (Option.some.inj reported)
  refine ⟨report, ⟨"out/o_mapper.rs"⟩, succeeded, files, ?_⟩
  obtain ⟨-, -, home, walked, lines⟩ := build_includes succeeded
  rw [index] at walked lines ⊢
  obtain ⟨place, located, -, below⟩ := lines ⟨"out/o_mapper.rs"⟩ (by rw [files]; exact List.mem_cons_self)
  obtain ⟨-, -, same⟩ := below (by decide +kernel)
  have there : (outcome.tree.walk (PathName.directory ⟨"out/mappers.rs"⟩).names).toOption = some ["out"] := by
    decide +kernel
  rw [located]
  intro found
  rw [(same (by decide +kernel)).mp found] at walked
  rw [walked] at there
  cases there

end RecordMapper
