/-
A build that has succeeded succeeds again in the files it left. It finds its directory made, reads the
sources as they were, since it has written to none of them, and puts the same texts at the same paths. So
it is only left to ask whether a file holds its text by then: it does where nothing else was put at its
place, and a file that is put twice with different texts is written twice again.
-/
import RecordMapper.Proofs.Builds

namespace RecordMapper

open Files

/-! ## Directories that are there -/

namespace Files.FileTree

variable {tree before after : FileTree} {names : List String}

theorem AddsDirectories.stay (h : AddsDirectories before after) : DirectoriesStay before after := by
  intro place found
  rcases h place with same | ⟨nothing, -⟩
  · rw [same, found]
  · rw [found] at nothing
    cases nothing

theorem isDirectory_iff : tree.isDirectory names = true ↔
    ∃ place, tree.placeOf names = .ok place ∧ tree.entry? place = some .directory := by
  unfold isDirectory
  cases tree.placeOf names <;> simp

theorem DirectoriesStay.isDirectory (stay : DirectoriesStay before after)
    (h : before.isDirectory names = true) : after.isDirectory names = true := by
  obtain ⟨place, leads, found⟩ := isDirectory_iff.mp h
  exact isDirectory_iff.mpr ⟨place, stay.placeOf leads, stay place found⟩

theorem isDirectory_of_makeDirectory (h : tree.makeDirectory names = .ok after) :
    after.isDirectory names = true := by
  have stay := (makeDirectory_adds h).stay
  unfold makeDirectory at h
  obtain ⟨place, leads, h⟩ := bind_eq_ok.mp h
  split at h
  · cases h
  · next free =>
    cases h
    have top : place ≠ [] := by
      rintro rfl
      exact free (by rw [entry?_nil]; rfl)
    exact isDirectory_iff.mpr ⟨place, stay.placeOf leads, by rw [entry?_put top, if_pos rfl]⟩

/-- Directories that were made without an error are there. -/
theorem isDirectory_of_makeDirectories (h : tree.makeDirectories names = (after, none)) :
    names = [] ∨ after.isDirectory names = true := by
  by_cases empty : names = []
  · exact .inl empty
  refine .inr ?_
  rw [makeDirectories, dif_neg empty] at h
  split at h
  · next made =>
    cases h
    exact isDirectory_of_makeDirectory made
  · split at h
    · cases h
    · split at h
      · next made =>
        cases h
        exact isDirectory_of_makeDirectory made
      · split at h
        · next found =>
          cases h
          exact found
        · cases h
  · split at h
    · next found =>
      cases h
      exact found
    · cases h

/-- Directories that are there need not be made. -/
theorem makeDirectories_of_isDirectory (h : names = [] ∨ tree.isDirectory names = true) :
    tree.makeDirectories names = (tree, none) := by
  rw [makeDirectories]
  by_cases empty : names = []
  · rw [dif_pos empty]
  rw [dif_neg empty]
  have found := h.resolve_left empty
  obtain ⟨place, leads, directory⟩ := isDirectory_iff.mp found
  have exists_already : tree.makeDirectory names = .error .alreadyExists := by
    rw [makeDirectory, leads]
    simp [bind, Except.bind, directory]
  rw [exists_already]
  simp [found]

end Files.FileTree

/-! ## Writing -/

/-- What a run of writes keeps: which places are directories, and everything if it writes nothing. -/
structure Writing.Goes (writing done : Writing) : Prop where
  directories : ∀ place, done.tree.entry? place = some .directory ↔
    writing.tree.entry? place = some .directory
  unwritten : ∃ more, done.written = writing.written ++ more ∧ (more = [] → done.tree = writing.tree)

namespace Writing.Goes

variable {writing between done : Writing} {path : PathName} {place : Location}

theorem refl (writing : Writing) : writing.Goes writing where
  directories _ := Iff.rfl
  unwritten := ⟨[], (List.append_nil _).symm, fun _ => rfl⟩

theorem trans (first : writing.Goes between) (second : between.Goes done) : writing.Goes done where
  directories place := (second.directories place).trans (first.directories place)
  unwritten := by
    obtain ⟨more, written, same⟩ := first.unwritten
    obtain ⟨later, written', same'⟩ := second.unwritten
    refine ⟨more ++ later, by rw [written', written, List.append_assoc], fun empty => ?_⟩
    obtain ⟨rfl, rfl⟩ := List.append_eq_nil_iff.mp empty
    rw [same' rfl, same rfl]

theorem of_put {text : String} (h : writing.put path text = .ok done) : writing.Goes done := by
  obtain ⟨place, -, -, free, result⟩ := put_eq_ok.mp h
  split at result
  · rw [result]
    exact refl writing
  · rw [result]
    exact ⟨fun _ => FileTree.directory_put_file free, [place], rfl, nofun⟩

/-- Also when it stops. -/
theorem of_writeModules {outDir : PathName} (writing : Writing) (modules : List MapperModule) :
    writing.Goes (writeModules outDir writing modules).1 := by
  induction modules generalizing writing with
  | nil => exact refl writing
  | cons module modules ih =>
    rw [writeModules_cons]
    split
    · exact refl writing
    · split
      · exact refl writing
      · next put => exact (of_put put).trans (ih _)

theorem stay (h : writing.Goes done) : FileTree.DirectoriesStay writing.tree done.tree :=
  fun place => (h.directories place).mpr

theorem locate_iff (h : writing.Goes done) :
    done.tree.locate path = .ok place ↔ writing.tree.locate path = .ok place :=
  ⟨FileTree.DirectoriesStay.locate fun place => (h.directories place).mp, h.stay.locate⟩

end Writing.Goes

/-- A text can be put at a path: it leads to a place that is no directory. -/
structure Takes (tree : FileTree) (path : PathName) : Prop where
  noSlash : path.endsInSlash = false
  leads : ∃ place, tree.locate path = .ok place ∧ tree.entry? place ≠ some .directory

section Takes

variable {writing done : Writing} {path : PathName}

theorem Takes.of_goes (h : Takes writing.tree path) (goes : writing.Goes done) : Takes done.tree path where
  noSlash := h.noSlash
  leads := by
    obtain ⟨place, located, free⟩ := h.leads
    exact ⟨place, goes.stay.locate located, fun found => free ((goes.directories place).mp found)⟩

theorem Takes.exists_put (h : Takes writing.tree path) (text : String) :
    ∃ done, writing.put path text = .ok done := by
  obtain ⟨place, located, free⟩ := h.leads
  by_cases held : writing.tree.entry? place = some (.file (.text text))
  · exact ⟨writing, put_eq_ok.mpr ⟨place, located, h.noSlash, free, by rw [if_pos held]⟩⟩
  · exact ⟨_, put_eq_ok.mpr ⟨place, located, h.noSlash, free, by rw [if_neg held]⟩⟩

/-- Modules that can be rendered are written wherever their paths take a text. -/
theorem writeModules_eq {outDir : PathName} {modules : List MapperModule} {outputs : List Output}
    (renders : List.Forall₂ (MapperModule.RendersTo outDir) modules outputs)
    (takes : ∀ output ∈ outputs, Takes writing.tree output.path) :
    (writeModules outDir writing modules).2 = none := by
  induction renders generalizing writing with
  | nil => rfl
  | @cons module output modules outputs first _ ih =>
    obtain ⟨next, put⟩ := (takes output List.mem_cons_self).exists_put output.text
    have goes := Writing.Goes.of_put put
    rw [first.path] at put
    rw [writeModules_cons, first.text]
    simp only [put]
    exact ih fun other hm => (takes other (List.mem_cons_of_mem _ hm)).of_goes goes

end Takes

/-! ## Writing the same again -/

theorem rendersTo_unique {outDir : PathName} : Relator.RightUnique (MapperModule.RendersTo outDir) := by
  intro module output other renders renders'
  have text := Except.ok.inj (renders.text.symm.trans renders'.text)
  exact congrArg₂ Output.mk (renders.path.trans renders'.path.symm) text

section Output

variable {outDir index : PathName} {modules : List MapperModule} {outputs : List Output} {tree : FileTree}
  {writing : Writing}

/-- What is a directory stays one, and the directory of the output is one afterwards. -/
theorem directories_of_writeOutput (h : writeOutput outDir index modules tree = (writing, none)) :
    FileTree.DirectoriesStay tree writing.tree ∧
      (outDir.names = [] ∨ writing.tree.isDirectory outDir.names = true) := by
  have adds := FileTree.makeDirectories_adds tree outDir.names
  unfold writeOutput at h
  rcases making : tree.makeDirectories outDir.names with ⟨made, _ | cause⟩
  · rw [making] at h adds
    have goes : (Writing.mk made []).Goes (writeModules outDir ⟨made, []⟩ modules).1 :=
      .of_writeModules _ modules
    rcases wrote : writeModules outDir ⟨made, []⟩ modules with ⟨between, _ | error⟩
    · rw [wrote] at goes
      simp only [wrote] at h
      split at h
      · cases h
      · next put =>
        cases h
        have goes := goes.trans (.of_put put)
        exact ⟨fun place found => goes.stay place (adds.stay place found),
          (FileTree.isDirectory_of_makeDirectories making).imp_right goes.stay.isDirectory⟩
    · simp only [wrote] at h
      cases h
  · rw [making] at h
    cases h

/-- The output can be written to a tree that has the directory and whose paths take texts. -/
theorem exists_writeOutput (renders : List.Forall₂ (MapperModule.RendersTo outDir) modules outputs)
    (made : outDir.names = [] ∨ tree.isDirectory outDir.names = true)
    (takes : ∀ output ∈ outputs, Takes tree output.path) (last : Takes tree index) :
    ∃ writing, writeOutput outDir index modules tree = (writing, none) ∧
      (Writing.mk tree []).Goes writing := by
  have goes : (Writing.mk tree []).Goes (writeModules outDir ⟨tree, []⟩ modules).1 :=
    .of_writeModules _ modules
  have wrote : (writeModules outDir ⟨tree, []⟩ modules).2 = none := writeModules_eq renders takes
  obtain ⟨done, put⟩ := (last.of_goes goes).exists_put
    (indexText (modules.map fun module => outDir.join ⟨module.origin.moduleFileName⟩))
  refine ⟨done, ?_, goes.trans (.of_put put)⟩
  rcases between : writeModules outDir ⟨tree, []⟩ modules with ⟨writing, error?⟩
  rw [between] at wrote put
  obtain rfl : error? = none := wrote
  unfold writeOutput
  rw [FileTree.makeDirectories_of_isDirectory made]
  simp only [between, put]

namespace Leaves

variable {before after : FileTree} {written : List Location} {output : Output}

/-- Where something was put a file stands. -/
theorem takes (h : Leaves outputs before after written) (hm : output ∈ outputs) :
    Takes after output.path := by
  obtain ⟨noSlash, place, located⟩ := h.placed output hm
  obtain ⟨last, found⟩ := exists_lastAt? hm located
  exact ⟨noSlash, place, located, by rw [h.stands place last found]; simp⟩

/-- A file that nothing was put at is read as before. -/
theorem read_of_apart (h : Leaves outputs before after written)
    (stay : FileTree.DirectoriesStay before after) {path : PathName} {text : String}
    (read : before.read path = .ok text)
    (apart : ∀ output ∈ outputs, after.locate path ≠ after.locate output.path) :
    after.read path = .ok text := by
  obtain ⟨place, located, noSlash, found⟩ := FileTree.read_eq_ok.mp read
  have located' := stay.locate located
  refine FileTree.read_eq_ok.mpr ⟨place, located', noSlash, ?_⟩
  have untouched : lastAt? after outputs place = none := by
    cases last : lastAt? after outputs place with
    | none => rfl
    | some output =>
      obtain ⟨hm, same⟩ := lastAt?_eq_some last
      exact absurd (located'.trans same.symm) (apart output hm)
  rcases h.elsewhere place untouched with same | ⟨nothing, -⟩
  · rw [same, found]
  · rw [found] at nothing
    cases nothing

variable {again : Writing}

/-- The same outputs once more leave everything as it stands. -/
theorem entry?_again (h : Leaves outputs before after written)
    (h' : Leaves outputs after again.tree again.written) (goes : (Writing.mk after []).Goes again)
    (place : Location) : again.tree.entry? place = after.entry? place := by
  have same : lastAt? again.tree outputs place = lastAt? after outputs place :=
    lastAt?_congr fun path => goes.locate_iff
  cases last : lastAt? after outputs place with
  | some output => rw [h'.stands place output (same.trans last), h.stands place output last]
  | none =>
    rcases h'.elsewhere place (same.trans last) with unchanged | ⟨nothing, made⟩
    · exact unchanged
    · have found := (goes.directories place).mp made
      rw [nothing] at found
      cases found

/-- Nothing is written again exactly if every file holds its text. -/
theorem written_again_iff (h : Leaves outputs before after written)
    (h' : Leaves outputs after again.tree again.written) (goes : (Writing.mk after []).Goes again) :
    again.written = [] ↔ ∀ output ∈ outputs, after.read output.path = .ok output.text := by
  rw [List.eq_nil_iff_forall_not_mem]
  constructor
  · intro unwritten output hm
    obtain ⟨noSlash, place, located⟩ := h.placed output hm
    refine FileTree.read_eq_ok.mpr ⟨place, located, noSlash, ?_⟩
    by_contra differs
    exact unwritten place ((h'.mem_written place).mpr ⟨output, hm, goes.locate_iff.mpr located, differs⟩)
  · intro held place hw
    obtain ⟨output, hm, located, differs⟩ := (h'.mem_written place).mp hw
    obtain ⟨place', located', -, found⟩ := FileTree.read_eq_ok.mp (held output hm)
    obtain rfl : place' = place := Except.ok.inj (located'.symm.trans (goes.locate_iff.mp located))
    exact differs found

end Leaves

/-- Output that was written can be written again, and the same is put at the same paths. -/
theorem exists_writeOutput_again (wrote : writeOutput outDir index modules tree = (writing, none))
    (renders : List.Forall₂ (MapperModule.RendersTo outDir) modules outputs)
    (leaves : Leaves (outputs ++ [⟨index, indexText (outputs.map (·.path))⟩]) tree writing.tree
      writing.written) :
    ∃ again, writeOutput outDir index modules writing.tree = (again, none) ∧
      (Writing.mk writing.tree []).Goes again ∧
      Leaves (outputs ++ [⟨index, indexText (outputs.map (·.path))⟩]) writing.tree again.tree
        again.written := by
  obtain ⟨again, wrote', goes⟩ := exists_writeOutput renders (directories_of_writeOutput wrote).2
    (fun output hm => leaves.takes (List.mem_append_left _ hm))
    (leaves.takes (List.mem_append_right _ (List.mem_singleton_self _)))
  obtain ⟨outputs', renders', leaves'⟩ := exists_leaves_writeOutput wrote'
  obtain rfl : outputs = outputs' := List.right_unique_forall₂' rendersTo_unique renders renders'
  exact ⟨again, wrote', goes, leaves'⟩

end Output

/-! ## Reading and building again -/

section Again

variable {settings : BuildSettings} {environment : BuildEnvironment} {tree other : FileTree}
  {sources : List Source}

/-- What sources ask for depends on nothing but their texts. -/
theorem readSources_congr (same : ∀ source ∈ sources,
      tree.read (environment.sourcePath source.path) = other.read (environment.sourcePath source.path)) :
    readSources settings environment tree sources = readSources settings environment other sources := by
  induction sources with
  | nil => rfl
  | cons source sources ih =>
    have items : readItems tree (environment.sourcePath source.path) =
        readItems other (environment.sourcePath source.path) := by
      unfold readItems
      rw [same source List.mem_cons_self]
    rw [readSources, readSources, items, ih fun source hm => same source (List.mem_cons_of_mem _ hm)]

/-- Sources that ask for something have been read. -/
theorem exists_read_of_readSources {directives : List Directive}
    (h : (readSources settings environment tree sources).result = .ok directives) :
    ∀ source ∈ sources, ∃ text, tree.read (environment.sourcePath source.path) = .ok text := by
  induction sources generalizing directives with
  | nil => exact nofun
  | cons source sources ih =>
    cases read : tree.read (environment.sourcePath source.path) with
    | error cause =>
      have items : readItems tree (environment.sourcePath source.path) =
          .error (.file (environment.sourcePath source.path) cause) := by
        rw [readItems, read]
      rw [readSources, items] at h
      cases h
    | ok text =>
      obtain ⟨later, rest⟩ : ∃ later, (readSources settings environment tree sources).result = .ok later := by
        rw [readSources] at h
        cases rest : (readSources settings environment tree sources).result with
        | ok later => exact ⟨later, rfl⟩
        | error error =>
          dsimp only at h
          split at h
          · cases h
          · split at h
            · cases h
            · rw [rest] at h
              cases h
      intro other hm
      rcases List.mem_cons.mp hm with rfl | hm
      · exact ⟨text, read⟩
      · exact ih rest other hm

/-- A pass is accepted in any files in which its sources read the same. -/
theorem Accepted.of_reads {outDir : PathName} {generation : Generation}
    (accepted : Accepted settings environment tree outDir generation)
    (same : ∀ source ∈ settings.sources, ∀ text,
      tree.read (environment.sourcePath source.path) = .ok text →
      other.read (environment.sourcePath source.path) = .ok text) :
    Accepted settings environment other outDir generation := by
  obtain ⟨directives, read, made⟩ := accepted.pass
  refine ⟨accepted.outDir, ⟨directives, ?_, made⟩, accepted.clean⟩
  rw [← read, readSources_congr fun source hm => ?_]
  obtain ⟨text, read⟩ := exists_read_of_readSources read source hm
  rw [read, same source hm text read]

/-- An accepted pass whose output can be written ends the build well. -/
theorem Accepted.finishes {outDir : PathName} {generation : Generation} {writing : Writing}
    (accepted : Accepted settings environment tree outDir generation)
    (nodup : (generation.filled.map (·.origin.moduleFileName)).Nodup)
    (wrote : writeOutput outDir (outDir.join settings.indexName) generation.filled tree = (writing, none)) :
    (build settings environment tree).result =
        .ok ⟨generation.filled.map fun module => outDir.join ⟨module.origin.moduleFileName⟩,
          outDir.join settings.indexName, generation.diagnostics⟩ ∧
      (build settings environment tree).tree = writing.tree ∧
      (build settings environment tree).written = writing.written := by
  have ends := build_ends settings environment tree
  obtain ⟨directives, read, made⟩ := accepted.pass
  generalize (build settings environment tree).result = result at ends ⊢
  generalize (build settings environment tree).tree = after at ends ⊢
  generalize (build settings environment tree).written = written at ends ⊢
  cases ends with
  | nowhere out => cases out.symm.trans accepted.outDir
  | unread unread => cases unread.symm.trans read
  | denied read' denies unclean =>
    obtain rfl := Except.ok.inj (read.symm.trans read')
    rw [← made, accepted.clean denies] at unclean
    cases unclean
  | clashed accepted' clash =>
    obtain ⟨-, rfl⟩ := accepted.unique accepted'
    exact absurd nodup clash.not_nodup
  | stopped accepted' _ wrote' =>
    obtain ⟨rfl, rfl⟩ := accepted.unique accepted'
    cases wrote.symm.trans wrote'
  | finished accepted' _ wrote' =>
    obtain ⟨rfl, rfl⟩ := accepted.unique accepted'
    cases wrote.symm.trans wrote'
    exact ⟨rfl, rfl, rfl⟩

/-- **Building again.** A build that has succeeded, and has written to none of its sources, succeeds again
in the files it left, with the same report, and every place holds what it held. It writes nothing exactly
if every file of a module holds the rendering of its module, and then the files are left as they are. They
do if the files and the index are at different places, which the files are where no name leads out of the
directory. -/
theorem build_again {report : BuildReport} (h : (build settings environment tree).result = .ok report)
    (apart : ∀ source ∈ settings.sources, ∀ file ∈ report.files ++ [report.index],
      (build settings environment tree).tree.locate (environment.sourcePath source.path) ≠
        (build settings environment tree).tree.locate file) :
    let first := build settings environment tree
    let second := build settings environment first.tree
    second.result = .ok report ∧
      (∀ place, second.tree.entry? place = first.tree.entry? place) ∧
      (second.written = [] → second.tree = first.tree) ∧
      ∃ outDir generation outputs, Accepted settings environment tree outDir generation ∧
        List.Forall₂ (MapperModule.RendersTo outDir) generation.filled outputs ∧
        report.files = outputs.map (·.path) ∧
        (second.written = [] ↔ ∀ output ∈ outputs, first.tree.read output.path = .ok output.text) ∧
        ((∀ file ∈ report.files, first.tree.locate report.index ≠ first.tree.locate file) →
          (report.files.map first.tree.locate).Nodup → second.written = []) ∧
        ((∀ module ∈ generation.filled, '/' ∉ module.origin.moduleFileName.toList) →
          (report.files.map first.tree.locate).Nodup) := by
  intro first second
  have ends : Ends settings environment tree first.result first.tree first.written :=
    build_ends settings environment tree
  rw [show first.result = .ok report from h] at ends
  obtain ⟨outDir, generation, writing, accepted, nodup, wrote, rfl, afterwards, places⟩ := ends.of_ok
  obtain ⟨outputs, renders, leaves⟩ := exists_leaves_writeOutput wrote
  obtain ⟨again, wrote', goes, leaves'⟩ := exists_writeOutput_again wrote renders leaves
  have stay := (directories_of_writeOutput wrote).1
  have files := map_path_of_rendersTo renders
  rw [← afterwards] at leaves wrote' goes leaves' stay
  have accepted' : Accepted settings environment first.tree outDir generation := by
    refine accepted.of_reads fun source hm text read => ?_
    refine leaves.read_of_apart stay read fun output ho => apart source hm output.path ?_
    rw [← files]
    simpa using List.mem_map_of_mem (f := Output.path) ho
  obtain ⟨result, tree', written'⟩ := accepted'.finishes nodup wrote'
  rw [show second.result = _ from result, show second.tree = _ from tree', show second.written = _ from written']
  have written_iff : again.written = [] ↔ ∀ output ∈ outputs, first.tree.read output.path = .ok output.text := by
    rw [leaves.written_again_iff leaves' goes]
    constructor
    · exact fun held output hm => held output (List.mem_append_left _ hm)
    · intro held output hm
      rcases List.mem_append.mp hm with hm | hm
      · exact held output hm
      · obtain rfl := List.mem_singleton.mp hm
        exact read_last leaves
  refine ⟨rfl, leaves.entry?_again leaves' goes, ?_, outDir, generation, outputs, accepted, renders,
    files.symm, written_iff, ?_, ?_⟩
  · intro unwritten
    obtain ⟨more, written, same⟩ := goes.unwritten
    exact same (by simpa [unwritten] using written.symm)
  · intro index places
    rw [← files, List.map_map] at places
    refine written_iff.mpr fun output hm => ?_
    obtain ⟨module, -, rendered⟩ := exists_module_of_mem renders hm
    refine (read_eq_ok_iff_apart leaves places hm (indexText_ne_rendering rendered.text)).mpr ?_
    exact index output.path (by rw [← files]; exact List.mem_map_of_mem hm)
  · intro plain
    rw [← files, List.map_map]
    exact nodup_places renders nodup plain fun output hm =>
      (leaves.placed output (List.mem_append_left _ hm)).2

/-- One source, compiled as two modules. The comments in their paths make one file of two names. -/
def sharedFile : BuildSettings where
  sources := [⟨⟨"m.rs"⟩, "crate::a/*/../../o*/"⟩, ⟨⟨"m.rs"⟩, "crate::b/*/../../o*/"⟩]
  outDir? := some ⟨"out"⟩

/-- The source, and the directories that the names lead through. -/
def sharedFileTree : FileTree :=
  ⟨[(["m.rs"], .file (.text "#[mapper(T)] struct O; struct T;")), (["out"], .directory),
    (["out", "a"], .directory), (["out", "a", "*"], .directory), (["out", "b"], .directory),
    (["out", "b", "*"], .directory), (["out", "o*"], .directory)]⟩

/-- The file of both modules, by its two names. -/
def sharedFileNames : List PathName :=
  [⟨"out/a/*/../../o*/_o_mapper.rs"⟩, ⟨"out/b/*/../../o*/_o_mapper.rs"⟩]

/-- The build writes to no source, and its index is no file of a module. It succeeds again with the same
report and the same files, but it writes the file of both modules again, once for each. -/
theorem exists_file_written_again :
    let first := build sharedFile ⟨none, none⟩ sharedFileTree
    let second := build sharedFile ⟨none, none⟩ first.tree
    ∃ report, first.result = .ok report ∧
      (∀ source ∈ sharedFile.sources, ∀ file ∈ report.files ++ [report.index],
        first.tree.locate (BuildEnvironment.sourcePath ⟨none, none⟩ source.path) ≠ first.tree.locate file) ∧
      (∀ file ∈ report.files, first.tree.locate report.index ≠ first.tree.locate file) ∧
      second.result = .ok report ∧ (∀ place, second.tree.entry? place = first.tree.entry? place) ∧
      second.written = [["out", "o*", "_o_mapper.rs"], ["out", "o*", "_o_mapper.rs"]] := by
  have evaluated :
      (build sharedFile ⟨none, none⟩ sharedFileTree).result =
        .ok ⟨sharedFileNames, ⟨"out/mappers.rs"⟩, []⟩ ∧
      (∀ source ∈ sharedFile.sources, ∀ file ∈ sharedFileNames ++ [⟨"out/mappers.rs"⟩],
        (build sharedFile ⟨none, none⟩ sharedFileTree).tree.locate
          (BuildEnvironment.sourcePath ⟨none, none⟩ source.path) ≠
            (build sharedFile ⟨none, none⟩ sharedFileTree).tree.locate file) ∧
      (∀ file ∈ sharedFileNames,
        (build sharedFile ⟨none, none⟩ sharedFileTree).tree.locate ⟨"out/mappers.rs"⟩ ≠
          (build sharedFile ⟨none, none⟩ sharedFileTree).tree.locate file) ∧
      (build sharedFile ⟨none, none⟩ (build sharedFile ⟨none, none⟩ sharedFileTree).tree).written =
        [["out", "o*", "_o_mapper.rs"], ["out", "o*", "_o_mapper.rs"]] := by
    decide +kernel
  obtain ⟨succeeded, sources, index, written⟩ := evaluated
  obtain ⟨again, same, -⟩ := build_again succeeded sources
  exact ⟨_, succeeded, sources, index, again, same, written⟩

end Again

end RecordMapper
