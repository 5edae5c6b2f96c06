/-
How a build can end, and what it has done to the files by then. Until the pass is accepted nothing is
touched. After that the files of the modules are written in order and the index comes last, so that a
build that fails has written the files of the first modules, and one that succeeds all of them.

That two modules never share a file is checked by the names of their files. The check does not look at
where the names lead, and the name of the index is not among them; so a file is known to hold the
rendering of its module only where nothing was put at its place later.
-/
import RecordMapper.Proofs.Correspondence
import RecordMapper.Proofs.Outputs

namespace RecordMapper

open Files

/-! ## Names of files -/

/-- The first module whose file name is taken is `second`, and it was taken by `first`. -/
def Clash (modules : List MapperModule) (first second : MapperModule) : Prop :=
  ∃ earlier later, modules = earlier ++ second :: later ∧ first ∈ earlier ∧
    first.origin.moduleFileName = second.origin.moduleFileName ∧
    (earlier.map (·.origin.moduleFileName)).Nodup

section Names

variable {modules earlier later : List MapperModule} {first second : MapperModule}

theorem not_nodup_of_taken (hm : first ∈ earlier)
    (same : first.origin.moduleFileName = second.origin.moduleFileName) :
    ¬((earlier ++ second :: later).map (·.origin.moduleFileName)).Nodup := by
  intro nodup
  rw [List.map_append, List.map_cons] at nodup
  have apart := (List.nodup_append.mp nodup).2.2 _ (List.mem_map_of_mem hm) _ List.mem_cons_self
  exact apart same

namespace Clash

theorem not_nodup (h : Clash modules first second) :
    ¬(modules.map (·.origin.moduleFileName)).Nodup := by
  obtain ⟨earlier, later, rfl, hm, same, -⟩ := h
  exact not_nodup_of_taken hm same

/-- The names before a cut differ, so of two cuts neither can be before the other. -/
theorem unique {first' second' : MapperModule} (h : Clash modules first second)
    (h' : Clash modules first' second') : first = first' ∧ second = second' := by
  obtain ⟨earlier, later, rfl, hm, same, nodup⟩ := h
  obtain ⟨earlier', later', split, hm', same', nodup'⟩ := h'
  obtain ⟨rfl, rfl⟩ : earlier = earlier' ∧ second = second' := by
    rcases List.append_eq_append_iff.mp split with ⟨between, rfl, cut⟩ | ⟨between, rfl, cut⟩
    · cases between with
      | nil => exact ⟨(List.append_nil _).symm, (List.cons.inj cut).1⟩
      | cons middle between =>
        obtain ⟨rfl, -⟩ := List.cons.inj cut
        exact absurd nodup' (not_nodup_of_taken hm same)
    · cases between with
      | nil => exact ⟨List.append_nil _, (List.cons.inj cut).1.symm⟩
      | cons middle between =>
        obtain ⟨rfl, -⟩ := List.cons.inj cut
        exact absurd nodup (not_nodup_of_taken hm' same')
  exact ⟨List.inj_on_of_nodup_map nodup hm hm' (same.trans same'.symm), rfl⟩

end Clash

/-- The search for a taken name, after modules whose names differ. -/
theorem firstCollision?_spec {taken : List (String × Identity)}
    (records : ∀ pair, pair ∈ taken ↔
      ∃ module ∈ earlier, pair = (module.origin.moduleFileName, module.origin))
    (nodup : (earlier.map (·.origin.moduleFileName)).Nodup) :
    match firstCollision? taken later with
    | none => ((earlier ++ later).map (·.origin.moduleFileName)).Nodup
    | some error => ∃ first second, Clash (earlier ++ later) first second ∧
        error = .outputCollision second.origin.moduleFileName first.origin second.origin := by
  induction later generalizing taken earlier with
  | nil => simpa [firstCollision?] using nodup
  | cons module later ih =>
    cases found : taken.find? fun pair => decide (pair.1 = module.origin.moduleFileName) with
    | some pair =>
      simp only [firstCollision?, found]
      obtain ⟨first, hm, rfl⟩ := (records pair).mp (List.mem_of_find?_eq_some found)
      have same : first.origin.moduleFileName = module.origin.moduleFileName := by
        simpa using List.find?_some found
      exact ⟨first, module, ⟨earlier, later, rfl, hm, same, nodup⟩, rfl⟩
    | none =>
      simp only [firstCollision?, found]
      have fresh : module.origin.moduleFileName ∉ earlier.map (·.origin.moduleFileName) := by
        intro listed
        obtain ⟨first, hm, same⟩ := List.mem_map.mp listed
        have := List.find?_eq_none.mp found _ ((records _).mpr ⟨first, hm, rfl⟩)
        simp [same] at this
      have next := @ih (earlier ++ [module])
        ((module.origin.moduleFileName, module.origin) :: taken) ?_ ?_
      · simpa only [List.append_assoc, List.singleton_append] using next
      · intro pair
        simp only [List.mem_cons, List.mem_append, records, List.not_mem_nil, or_false]
        constructor
        · rintro (rfl | ⟨first, hm, rfl⟩)
          · exact ⟨module, .inr rfl, rfl⟩
          · exact ⟨first, .inl hm, rfl⟩
        · rintro ⟨first, hm | rfl, rfl⟩
          · exact .inr ⟨first, hm, rfl⟩
          · exact .inl rfl
      · rw [List.map_append]
        exact List.nodup_append.mpr ⟨nodup, by simp, by
          rintro _ hm _ last rfl
          simp at last
          exact fresh (last ▸ hm)⟩

theorem firstCollision?_eq_none :
    firstCollision? [] modules = none ↔ (modules.map (·.origin.moduleFileName)).Nodup := by
  have spec := @firstCollision?_spec [] modules [] (by simp) (by simp)
  cases found : firstCollision? [] modules with
  | none =>
    rw [found] at spec
    exact ⟨fun _ => spec, fun _ => rfl⟩
  | some error =>
    rw [found] at spec
    obtain ⟨first, second, clash, -⟩ := spec
    constructor
    · intro h
      cases h
    · exact fun nodup => absurd nodup clash.not_nodup

theorem firstCollision?_eq_some {error : BuildError} :
    firstCollision? [] modules = some error ↔ ∃ first second, Clash modules first second ∧
      error = .outputCollision second.origin.moduleFileName first.origin second.origin := by
  have spec := @firstCollision?_spec [] modules [] (by simp) (by simp)
  cases found : firstCollision? [] modules with
  | none =>
    rw [found] at spec
    constructor
    · intro h
      cases h
    · intro ⟨first, second, clash, _⟩
      exact absurd spec clash.not_nodup
  | some other =>
    rw [found] at spec
    obtain ⟨first, second, clash, rfl⟩ := spec
    constructor
    · intro h
      cases h
      exact ⟨first, second, clash, rfl⟩
    · rintro ⟨first', second', clash', rfl⟩
      obtain ⟨rfl, rfl⟩ := clash.unique clash'
      rfl

theorem length_moduleFileName_ge (identity : Identity) : 10 ≤ identity.moduleFileName.length := by
  have suffix : "_mapper.rs".length = 10 := rfl
  rw [Identity.moduleFileName, String.length_append, suffix]
  exact Nat.le_add_left _ _

theorem moduleFileName_ne_empty (identity : Identity) : identity.moduleFileName ≠ "" := by
  intro empty
  have long := length_moduleFileName_ge identity
  rw [empty] at long
  exact absurd long (by decide)

theorem isDots_moduleFileName (identity : Identity) :
    FileTree.isDots identity.moduleFileName = false := by
  have long := length_moduleFileName_ge identity
  rw [FileTree.isDots, Bool.or_eq_false_iff, decide_eq_false_iff_not, decide_eq_false_iff_not]
  constructor
  · intro dot
    rw [dot] at long
    exact absurd long (by decide)
  · intro dots
    rw [dots] at long
    exact absurd long (by decide)

end Names

/-! ## Where files of modules are put -/

section Places

variable {outDir : PathName} {modules : List MapperModule} {outputs : List Output}

theorem map_path_of_rendersTo (h : List.Forall₂ (MapperModule.RendersTo outDir) modules outputs) :
    outputs.map (·.path) = modules.map fun module => outDir.join ⟨module.origin.moduleFileName⟩ := by
  induction h with
  | nil => rfl
  | cons renders _ ih => rw [List.map_cons, List.map_cons, renders.path, ih]

theorem exists_module_of_mem (h : List.Forall₂ (MapperModule.RendersTo outDir) modules outputs)
    {output : Output} (hm : output ∈ outputs) :
    ∃ module ∈ modules, module.RendersTo outDir output :=
  exists_of_forall₂ h.flip hm

theorem exists_only_output (h : List.Forall₂ (MapperModule.RendersTo outDir) modules outputs)
    {name : String} (names : modules.map (·.origin.moduleFileName) = [name]) :
    ∃ module output, modules = [module] ∧ outputs = [output] ∧ module.RendersTo outDir output ∧
      module.origin.moduleFileName = name := by
  cases h with
  | nil => cases names
  | @cons module output modules outputs renders more =>
    rw [List.map_cons, List.cons.injEq, List.map_eq_nil_iff] at names
    obtain ⟨name, rfl⟩ := names
    cases more
    exact ⟨module, output, rfl, rfl, renders, name⟩

/-- Different names below the directory, or different ones from the top, give different paths. -/
theorem nodup_paths (h : List.Forall₂ (MapperModule.RendersTo outDir) modules outputs)
    (nodup : (modules.map (·.origin.moduleFileName)).Nodup)
    (below : ∀ module ∈ modules, PathName.isAbsolute ⟨module.origin.moduleFileName⟩ = false) :
    (outputs.map (·.path)).Nodup := by
  have joined : outputs.map (·.path) =
      (modules.map (·.origin.moduleFileName)).map fun name => outDir.join ⟨name⟩ := by
    simp only [map_path_of_rendersTo h, List.map_map, Function.comp_def]
  rw [joined]
  refine nodup.map_on ?_
  simp only [List.forall_mem_map]
  intro module hm other ho same
  have absolute := (below module hm).trans (below other ho).symm
  exact PathName.mk.inj (PathName.join_injective absolute same)

/-- A name without a slash leads to one place in the directory, so different ones lead to different
places. -/
theorem nodup_places {tree : FileTree}
    (h : List.Forall₂ (MapperModule.RendersTo outDir) modules outputs)
    (nodup : (modules.map (·.origin.moduleFileName)).Nodup)
    (plain : ∀ module ∈ modules, '/' ∉ module.origin.moduleFileName.toList)
    (placed : ∀ output ∈ outputs, ∃ place, tree.locate output.path = .ok place) :
    (outputs.map fun output => tree.locate output.path).Nodup := by
  have joined : (outputs.map fun output => tree.locate output.path) =
      (modules.map (·.origin.moduleFileName)).map fun name => tree.locate (outDir.join ⟨name⟩) := by
    have paths := congrArg (List.map tree.locate) (map_path_of_rendersTo h)
    simpa only [List.map_map, Function.comp_def] using paths
  rw [joined]
  refine nodup.map_on ?_
  simp only [List.forall_mem_map]
  intro module hm other ho same
  have located : ∀ {module : MapperModule}, module ∈ modules → ∀ {place : Location},
      tree.locate (outDir.join ⟨module.origin.moduleFileName⟩) = .ok place →
      ∃ home, tree.walk outDir.names = .ok home ∧ place = home ++ [module.origin.moduleFileName] :=
    fun hm _ => (FileTree.locate_join (plain _ hm) (moduleFileName_ne_empty _)
      (isDots_moduleFileName _)).mp
  obtain ⟨place, at_place⟩ : ∃ place,
      tree.locate (outDir.join ⟨module.origin.moduleFileName⟩) = .ok place := by
    have listed : outDir.join ⟨module.origin.moduleFileName⟩ ∈ outputs.map (·.path) := by
      rw [map_path_of_rendersTo h]
      exact List.mem_map_of_mem hm
    obtain ⟨output, hm, path⟩ := List.mem_map.mp listed
    rw [← path]
    exact placed output hm
  -- both names stand in one directory, so the places differ in their last names
  obtain ⟨home, walked, rfl⟩ := located hm at_place
  obtain ⟨home', walked', equal⟩ := located ho (same.symm.trans at_place)
  obtain rfl : home = home' := Except.ok.inj (walked.symm.trans walked')
  simpa using equal

end Places

/-! ## How a build ends -/

/-- The modules of a pass that have functions. -/
def Generation.filled (generation : Generation) : List MapperModule :=
  generation.modules.filter (!·.isEmpty)

/-- The pass of a build has run, and its diagnostics do not keep the build from writing. -/
structure Accepted (settings : BuildSettings) (environment : BuildEnvironment) (tree : FileTree)
    (outDir : PathName) (generation : Generation) : Prop where
  outDir : settings.outDir?.or environment.outDir? = some outDir
  pass : ∃ directives, (readSources settings environment tree settings.sources).result =
    .ok directives ∧ generation = generate directives
  clean : settings.deniesDiagnostics = true → generation.isClean = true

/-- The ways in which a build can end: its result, its files and the places it has written. -/
inductive Ends (settings : BuildSettings) (environment : BuildEnvironment) (tree : FileTree) :
    Except BuildError BuildReport → FileTree → List Location → Prop
  | nowhere : settings.outDir?.or environment.outDir? = none →
      Ends settings environment tree (.error .missingOutDir) tree []
  | unread {error : BuildError} :
      (readSources settings environment tree settings.sources).result = .error error →
      Ends settings environment tree (.error error) tree []
  | denied {directives : List Directive} :
      (readSources settings environment tree settings.sources).result = .ok directives →
      settings.deniesDiagnostics = true →
      (generate directives).isClean = false →
      Ends settings environment tree (.error (.diagnostics (generate directives).diagnostics)) tree []
  | clashed {outDir : PathName} {generation : Generation} {first second : MapperModule} :
      Accepted settings environment tree outDir generation →
      Clash generation.filled first second →
      Ends settings environment tree
        (.error (.outputCollision second.origin.moduleFileName first.origin second.origin)) tree []
  | stopped {outDir : PathName} {generation : Generation} {writing : Writing} {error : BuildError} :
      Accepted settings environment tree outDir generation →
      (generation.filled.map (·.origin.moduleFileName)).Nodup →
      writeOutput outDir (outDir.join settings.indexName) generation.filled tree =
        (writing, some error) →
      Ends settings environment tree (.error error) writing.tree writing.written
  | finished {outDir : PathName} {generation : Generation} {writing : Writing} :
      Accepted settings environment tree outDir generation →
      (generation.filled.map (·.origin.moduleFileName)).Nodup →
      writeOutput outDir (outDir.join settings.indexName) generation.filled tree = (writing, none) →
      Ends settings environment tree
        (.ok ⟨generation.filled.map fun module => outDir.join ⟨module.origin.moduleFileName⟩,
          outDir.join settings.indexName, generation.diagnostics⟩) writing.tree writing.written

theorem build_ends (settings : BuildSettings) (environment : BuildEnvironment) (tree : FileTree) :
    Ends settings environment tree (build settings environment tree).result
      (build settings environment tree).tree (build settings environment tree).written := by
  unfold build
  cases out : settings.outDir?.or environment.outDir? with
  | none => exact .nowhere out
  | some outDir =>
    cases read : (readSources settings environment tree settings.sources).result with
    | error error =>
      simp only [read]
      exact .unread read
    | ok directives =>
      simp only [read]
      by_cases denied : (settings.deniesDiagnostics && !(generate directives).isClean) = true
      · simp only [refusal?, denied, if_true]
        rw [Bool.and_eq_true, Bool.not_eq_true'] at denied
        exact .denied read denied.1 denied.2
      have accepted : Accepted settings environment tree outDir (generate directives) :=
        ⟨out, ⟨directives, read, rfl⟩, by simpa using denied⟩
      have filled : (generate directives).modules.filter (!·.isEmpty) =
        (generate directives).filled := rfl
      simp only [refusal?, denied, Bool.false_eq_true, if_false, filled]
      cases clash : firstCollision? [] (generate directives).filled with
      | some error =>
        obtain ⟨first, second, found, rfl⟩ := firstCollision?_eq_some.mp clash
        exact .clashed accepted found
      | none =>
        have nodup := firstCollision?_eq_none.mp clash
        cases wrote : writeOutput outDir (outDir.join settings.indexName)
            (generate directives).filled tree with
        | mk writing error? =>
          cases error? with
          | some error => exact .stopped accepted nodup wrote
          | none => exact .finished accepted nodup wrote

/-! ## Writing -/

/-- Where the writing of files and index has stopped, after the files of some modules. -/
inductive StoppedBy (outDir index : PathName) (files : List PathName) (before : FileTree)
    (writing : Writing) : (done rest : List MapperModule) → BuildError → Prop
  /-- The directory cannot be made. -/
  | directory {rest : List MapperModule} {cause : FileError} :
      before.makeDirectories outDir.names = (writing.tree, some cause) →
      StoppedBy outDir index files before writing [] rest (.file outDir cause)
  /-- The next module cannot be rendered or its file not be written. -/
  | module {done later : List MapperModule} {module : MapperModule} {error : BuildError} :
      module.StopsAt outDir writing error →
      StoppedBy outDir index files before writing done (module :: later) error
  /-- All modules have their files, and the index cannot be written. -/
  | index {done : List MapperModule} {error : BuildError} :
      writing.put index (indexText files) = .error error →
      StoppedBy outDir index files before writing done [] error

section Output

variable {outDir index : PathName} {modules : List MapperModule} {tree : FileTree} {writing : Writing}

/-- A run of the writing part that reaches its end has left every file and the index. -/
theorem exists_leaves_writeOutput (h : writeOutput outDir index modules tree = (writing, none)) :
    ∃ outputs, List.Forall₂ (MapperModule.RendersTo outDir) modules outputs ∧
      Leaves (outputs ++ [⟨index, indexText (outputs.map (·.path))⟩]) tree writing.tree
        writing.written := by
  have adds := FileTree.makeDirectories_adds tree outDir.names
  unfold writeOutput at h
  rcases making : tree.makeDirectories outDir.names with ⟨made, _ | cause⟩
  · rw [making] at h adds
    obtain ⟨done, rest, outputs, split, renders, leaves, stops⟩ :=
      exists_leaves_writeModules outDir ⟨made, []⟩ modules (Leaves.nil adds)
    rcases wrote : writeModules outDir ⟨made, []⟩ modules with ⟨between, _ | error⟩
    · rw [wrote] at leaves stops
      obtain rfl : rest = [] := stops
      obtain rfl : modules = done := by rw [split, List.append_nil]
      simp only [wrote, ← map_path_of_rendersTo renders] at h
      cases put : between.put index (indexText (outputs.map (·.path))) with
      | error error =>
        rw [put] at h
        cases h
      | ok last =>
        rw [put] at h
        cases h
        exact ⟨outputs, renders, leaves.concat put⟩
    · simp only [wrote] at h
      cases h
  · rw [making] at h
    cases h

/-- A run that stops has left the files of the modules before. -/
theorem exists_stoppedBy {error : BuildError}
    (h : writeOutput outDir index modules tree = (writing, some error)) :
    ∃ done rest outputs, modules = done ++ rest ∧
      List.Forall₂ (MapperModule.RendersTo outDir) done outputs ∧
      Leaves outputs tree writing.tree writing.written ∧
      StoppedBy outDir index (modules.map fun module => outDir.join ⟨module.origin.moduleFileName⟩)
        tree writing done rest error := by
  have adds := FileTree.makeDirectories_adds tree outDir.names
  unfold writeOutput at h
  rcases making : tree.makeDirectories outDir.names with ⟨made, _ | cause⟩
  · rw [making] at h adds
    obtain ⟨done, rest, outputs, split, renders, leaves, stops⟩ :=
      exists_leaves_writeModules outDir ⟨made, []⟩ modules (Leaves.nil adds)
    rcases wrote : writeModules outDir ⟨made, []⟩ modules with ⟨between, _ | error'⟩
    · rw [wrote] at leaves stops
      obtain rfl : rest = [] := stops
      simp only [wrote] at h
      split at h
      · next put =>
        cases h
        exact ⟨done, [], outputs, split, renders, leaves, .index put⟩
      · cases h
    · rw [wrote] at leaves stops
      simp only [wrote] at h
      cases h
      obtain ⟨module, later, rfl, stop⟩ := stops
      exact ⟨done, module :: later, outputs, split, renders, leaves, .module stop⟩
  · rw [making] at h adds
    cases h
    exact ⟨[], modules, [], rfl, .nil, Leaves.nil adds, .directory making⟩

theorem exists_cause_of_put {path : PathName} {text : String} {error : BuildError}
    (h : writing.put path text = .error error) : ∃ cause, error = .file path cause := by
  unfold Writing.put at h
  split at h
  · cases h
  · split at h
    · next cause _ =>
      cases h
      exact ⟨cause, rfl⟩
    · cases h

end Output

/-- Whether an error is found before a build touches any file, whatever it is about. -/
def BuildError.isEarly : BuildError → Bool
  | .missingOutDir | .parse _ | .attribute .. | .diagnostics _ | .outputCollision .. => true
  | .file .. | .emit _ => false

theorem isEarly_of_stoppedBy {outDir index : PathName} {files : List PathName} {before : FileTree}
    {writing : Writing} {done rest : List MapperModule} {error : BuildError}
    (h : StoppedBy outDir index files before writing done rest error) : error.isEarly = false := by
  cases h with
  | directory _ => rfl
  | module stop =>
    cases stop with
    | emission _ => rfl
    | file _ failed =>
      obtain ⟨cause, rfl⟩ := exists_cause_of_put failed
      rfl
  | index failed =>
    obtain ⟨cause, rfl⟩ := exists_cause_of_put failed
    rfl

/-- An error about a file names the directory, the file of the next module, or the index when no module
is left. -/
theorem StoppedBy.path_of_file {outDir index path : PathName} {files : List PathName}
    {before : FileTree} {writing : Writing} {done rest : List MapperModule} {cause : FileError}
    (h : StoppedBy outDir index files before writing done rest (.file path cause)) :
    path = outDir ∨ (∃ module ∈ rest.head?, path = outDir.join ⟨module.origin.moduleFileName⟩) ∨
      (rest = [] ∧ path = index) := by
  generalize about : BuildError.file path cause = error at h
  cases h with
  | directory _ =>
    cases about
    exact .inl rfl
  | @module _ later module _ stop =>
    cases stop with
    | emission _ => cases about
    | file _ failed =>
      obtain ⟨cause', rfl⟩ := exists_cause_of_put failed
      cases about
      exact .inr (.inl ⟨module, rfl, rfl⟩)
  | index failed =>
    obtain ⟨cause', rfl⟩ := exists_cause_of_put failed
    cases about
    exact .inr (.inr ⟨rfl, rfl⟩)

/-! ## What a build has done -/

/-- What was put last where an output leads is the output's own text. -/
def Output.Kept (tree : FileTree) (outputs : List Output) (output : Output) : Prop :=
  ∃ place last, tree.locate output.path = .ok place ∧ lastAt? tree outputs place = some last ∧
    last.text = output.text

theorem Accepted.unique {settings : BuildSettings} {environment : BuildEnvironment} {tree : FileTree}
    {outDir outDir' : PathName} {generation generation' : Generation}
    (h : Accepted settings environment tree outDir generation)
    (h' : Accepted settings environment tree outDir' generation') :
    outDir = outDir' ∧ generation = generation' := by
  obtain ⟨out, ⟨directives, read, rfl⟩, -⟩ := h
  obtain ⟨out', ⟨directives', read', rfl⟩, -⟩ := h'
  rw [out, Option.some.injEq] at out'
  rw [read, Except.ok.injEq] at read'
  exact ⟨out', congrArg generate read'⟩

/-- After the header a rendering goes on with an empty line, and an index does not. -/
theorem indexText_ne_rendering {files : List PathName} {modules : List MapperModule} {text : String}
    (h : render modules = .ok text) : indexText files ≠ text := by
  unfold render at h
  rw [bind_eq_ok] at h
  obtain ⟨impls, -, h⟩ := h
  split at h
  · cases h
    rw [indexText, String.append_assoc]
    intro same
    have rest := congrArg (·.toList.head?) ((String.append_right_inj _).mp same)
    cases files with
    | nil => simp at rest
    | cons file files => simp [includeLine, String.toList_join] at rest
  · cases h

section Builds

variable {settings : BuildSettings} {environment : BuildEnvironment} {tree after : FileTree}
  {written : List Location}

theorem Ends.of_ok {report : BuildReport} (h : Ends settings environment tree (.ok report) after written) :
    ∃ outDir generation writing, Accepted settings environment tree outDir generation ∧
      (generation.filled.map (·.origin.moduleFileName)).Nodup ∧
      writeOutput outDir (outDir.join settings.indexName) generation.filled tree = (writing, none) ∧
      report = ⟨generation.filled.map fun module => outDir.join ⟨module.origin.moduleFileName⟩,
        outDir.join settings.indexName, generation.diagnostics⟩ ∧
      after = writing.tree ∧ written = writing.written := by
  cases h with
  | finished accepted nodup wrote => exact ⟨_, _, _, accepted, nodup, wrote, rfl, rfl, rfl⟩

/-- What is put last stays. -/
theorem read_last {outputs : List Output} {last : Output}
    (h : Leaves (outputs ++ [last]) tree after written) : after.read last.path = .ok last.text := by
  have hm : last ∈ outputs ++ [last] := List.mem_append_right _ (List.mem_singleton_self last)
  obtain ⟨-, place, located⟩ := h.placed last hm
  exact (h.read_eq_ok_iff hm).mpr ⟨place, last, located, by rw [lastAt?_concat, if_pos located], rfl⟩

/-- An output that is put at a place of its own is kept unless the last one is put there too. -/
theorem read_eq_ok_iff_apart {outputs : List Output} {output last : Output}
    (h : Leaves (outputs ++ [last]) tree after written)
    (apart : (outputs.map fun output => after.locate output.path).Nodup) (hm : output ∈ outputs)
    (differs : last.text ≠ output.text) :
    after.read output.path = .ok output.text ↔ after.locate last.path ≠ after.locate output.path := by
  have hm' : output ∈ outputs ++ [last] := List.mem_append_left _ hm
  obtain ⟨-, place, located⟩ := h.placed output hm'
  rw [h.read_eq_ok_iff hm']
  constructor
  · rintro ⟨place', found, located', lastAt, text⟩ same
    rw [lastAt?_concat, if_pos (same.trans located'), Option.some.injEq] at lastAt
    exact differs (by rw [lastAt, text])
  · intro elsewhere
    obtain ⟨found, lastAt⟩ := exists_lastAt? hm located
    obtain ⟨hf, same⟩ := lastAt?_eq_some lastAt
    obtain rfl : found = output := List.inj_on_of_nodup_map apart hf hm (same.trans located.symm)
    rw [located] at elsewhere
    exact ⟨place, found, located, by rw [lastAt?_concat, if_neg elsewhere, lastAt], rfl⟩

/-- **What a successful build has done.** It has put the rendering of each module that has functions at a
file of its own name, in the order of the pass, and then the index; it reports these files, and no other
file is different. The index holds what it should. The file of a module does exactly if nothing else was
put at its place later, which only the index can have been if the names stay in the directory. -/
theorem build_succeeds {report : BuildReport}
    (h : (build settings environment tree).result = .ok report) :
    let outcome := build settings environment tree
    ∃ outDir generation outputs, Accepted settings environment tree outDir generation ∧
      List.Forall₂ (MapperModule.RendersTo outDir) generation.filled outputs ∧
      report = ⟨outputs.map (·.path), outDir.join settings.indexName, generation.diagnostics⟩ ∧
      (generation.filled.map (·.origin.moduleFileName)).Nodup ∧
      ((∀ module ∈ generation.filled, PathName.isAbsolute ⟨module.origin.moduleFileName⟩ = false) →
        report.files.Nodup) ∧
      Leaves (outputs ++ [⟨report.index, indexText report.files⟩]) tree outcome.tree outcome.written ∧
      outcome.tree.read report.index = .ok (indexText report.files) ∧
      (∀ output ∈ outputs, outcome.tree.read output.path = .ok output.text ↔
        output.Kept outcome.tree (outputs ++ [⟨report.index, indexText report.files⟩])) ∧
      ((∀ module ∈ generation.filled, '/' ∉ module.origin.moduleFileName.toList) →
        ∀ output ∈ outputs, outcome.tree.read output.path = .ok output.text ↔
          outcome.tree.locate report.index ≠ outcome.tree.locate output.path) := by
  intro outcome
  have ends : Ends settings environment tree outcome.result outcome.tree outcome.written :=
    build_ends settings environment tree
  rw [h] at ends
  obtain ⟨outDir, generation, writing, accepted, nodup, wrote, rfl, afterwards, places⟩ := ends.of_ok
  obtain ⟨outputs, renders, leaves⟩ := exists_leaves_writeOutput wrote
  rw [← afterwards, ← places] at leaves
  refine ⟨outDir, generation, outputs, accepted, renders, ?_, nodup, ?_, ?_, ?_, ?_, ?_⟩
  all_goals simp only [← map_path_of_rendersTo renders]
  · exact nodup_paths renders nodup
  · exact leaves
  · exact read_last leaves
  · exact fun output hm => leaves.read_eq_ok_iff (List.mem_append_left _ hm)
  · intro plain output hm
    have placed : ∀ output ∈ outputs, ∃ place, outcome.tree.locate output.path = .ok place :=
      fun output hm => (leaves.placed output (List.mem_append_left _ hm)).2
    obtain ⟨module, -, rendered⟩ := exists_module_of_mem renders hm
    exact read_eq_ok_iff_apart leaves (nodup_places renders nodup plain placed) hm
      (indexText_ne_rendering rendered.text)

/-- A source that asks for one mapper. -/
def oneMapping : FileTree :=
  ⟨[(["m.rs"], .file (.text "#[mapper(T)] struct O { id: u8 } struct T { id: u8 }"))]⟩

/-- A build of that source, with its index at some name in the directory `out`. -/
def buildOne (indexName : PathName) : BuildSettings where
  sources := [⟨⟨"m.rs"⟩, "crate"⟩]
  outDir? := some ⟨"out"⟩
  indexName := indexName

/-- The build succeeds, and the reported file of its only module holds the index. -/
theorem exists_file_overwritten_by_index :
    let outcome := build (buildOne ⟨"o_mapper.rs"⟩) ⟨none, none⟩ oneMapping
    ∃ report, outcome.result = .ok report ∧
      ∃ (module : MapperModule) (output : Output), module.RendersTo ⟨"out"⟩ output ∧
        report.files = [output.path] ∧ outcome.tree.read output.path ≠ .ok output.text := by
  intro outcome
  obtain ⟨report, succeeded⟩ : ∃ report, outcome.result = .ok report := by
    have ok : outcome.result.isOk = true := by decide +kernel
    cases result : outcome.result with
    | ok report => exact ⟨report, rfl⟩
    | error error =>
      rw [result] at ok
      cases ok
  refine ⟨report, succeeded, ?_⟩
  obtain ⟨outDir, generation, outputs, accepted, renders, rfl, -, -, -, -, -, kept⟩ :=
    build_succeeds succeeded
  obtain rfl : (⟨"out"⟩ : PathName) = outDir := Option.some.inj accepted.outDir
  obtain ⟨directives, read, rfl⟩ := accepted.pass
  have names : (readSources (buildOne ⟨"o_mapper.rs"⟩) ⟨none, none⟩ oneMapping
      (buildOne ⟨"o_mapper.rs"⟩).sources).result.toOption.map (fun directives =>
        (generate directives).filled.map (·.origin.moduleFileName)) = some ["o_mapper.rs"] := by
    decide +kernel
  rw [read] at names
  obtain ⟨module, output, filled, rfl, rendered, name⟩ :=
    exists_only_output renders (Option.some.inj names)
  refine ⟨module, output, rendered, rfl, fun own => ?_⟩
  have plain : ∀ other ∈ (generate directives).filled, '/' ∉ other.origin.moduleFileName.toList := by
    simp only [filled, List.mem_singleton, forall_eq, name]
    decide
  refine (kept plain output List.mem_cons_self).mp own ?_
  rw [rendered.path, name]
  rfl

/-- A build that fails has touched nothing or was writing already. -/
theorem Ends.of_error {error : BuildError} (h : Ends settings environment tree (.error error) after written) :
    (after = tree ∧ written = [] ∧ (error.isEarly = true ∨
      (readSources settings environment tree settings.sources).result = .error error)) ∨
    ∃ outDir generation writing, Accepted settings environment tree outDir generation ∧
      (generation.filled.map (·.origin.moduleFileName)).Nodup ∧
      writeOutput outDir (outDir.join settings.indexName) generation.filled tree =
        (writing, some error) ∧
      after = writing.tree ∧ written = writing.written := by
  cases h with
  | nowhere => exact .inl ⟨rfl, rfl, .inl rfl⟩
  | unread read => exact .inl ⟨rfl, rfl, .inr read⟩
  | denied => exact .inl ⟨rfl, rfl, .inl rfl⟩
  | clashed => exact .inl ⟨rfl, rfl, .inl rfl⟩
  | stopped accepted nodup wrote => exact .inr ⟨_, _, _, accepted, nodup, wrote, rfl, rfl⟩

/-- Of an accepted pass, a taken file name decides the result, and nothing else gives this error. -/
theorem Ends.collision_iff {result : Except BuildError BuildReport} {outDir : PathName}
    {generation : Generation} {name : String} {first second : Identity}
    (h : Ends settings environment tree result after written)
    (accepted : Accepted settings environment tree outDir generation) :
    result = .error (.outputCollision name first second) ↔
      ∃ a b, Clash generation.filled a b ∧ name = b.origin.moduleFileName ∧ first = a.origin ∧
        second = b.origin := by
  cases h with
  | nowhere out =>
    rw [accepted.outDir] at out
    cases out
  | unread read =>
    obtain ⟨directives, read', -⟩ := accepted.pass
    rw [read] at read'
    cases read'
  | denied read denies unclean =>
    obtain ⟨directives, read', rfl⟩ := accepted.pass
    obtain rfl := Except.ok.inj (read.symm.trans read')
    rw [accepted.clean denies] at unclean
    cases unclean
  | clashed accepted' clash =>
    obtain ⟨-, rfl⟩ := accepted.unique accepted'
    constructor
    · intro same
      cases same
      exact ⟨_, _, clash, rfl, rfl, rfl⟩
    · rintro ⟨a, b, clash', rfl, rfl, rfl⟩
      obtain ⟨rfl, rfl⟩ := clash.unique clash'
      rfl
  | stopped accepted' nodup wrote =>
    obtain ⟨-, rfl⟩ := accepted.unique accepted'
    constructor
    · intro same
      cases same
      obtain ⟨_, _, _, _, _, _, stop⟩ := exists_stoppedBy wrote
      cases isEarly_of_stoppedBy stop
    · rintro ⟨a, b, clash, -⟩
      exact absurd nodup clash.not_nodup
  | finished accepted' nodup wrote =>
    obtain ⟨-, rfl⟩ := accepted.unique accepted'
    constructor
    · intro same
      cases same
    · rintro ⟨a, b, clash, -⟩
      exact absurd nodup clash.not_nodup

theorem not_nodup_iff_exists_clash {modules : List MapperModule} :
    ¬(modules.map (·.origin.moduleFileName)).Nodup ↔ ∃ first second, Clash modules first second := by
  constructor
  · intro repeated
    cases found : firstCollision? [] modules with
    | none => exact absurd (firstCollision?_eq_none.mp found) repeated
    | some error =>
      obtain ⟨first, second, clash, -⟩ := firstCollision?_eq_some.mp found
      exact ⟨first, second, clash⟩
  · rintro ⟨first, second, clash⟩
    exact clash.not_nodup

/-- **What a failed build has done.** Before the pass is accepted it has touched nothing. Afterwards it
stops at the directory, at a module or at the index, and it has put the renderings of the modules before
that, of which each stays if the names stay in the directory. A taken file name is the only reason for a
collision, which names the first module whose name is taken and the one that took it. -/
theorem build_fails (settings : BuildSettings) (environment : BuildEnvironment) (tree : FileTree) :
    let outcome := build settings environment tree
    let read := (readSources settings environment tree settings.sources).result
    (∀ error, outcome.result = .error error →
      (error.isEarly = true ∨ read = .error error → outcome.tree = tree ∧ outcome.written = []) ∧
      (error.isEarly = false → read ≠ .error error →
        ∃ outDir generation done rest outputs, Accepted settings environment tree outDir generation ∧
          (generation.filled.map (·.origin.moduleFileName)).Nodup ∧
          generation.filled = done ++ rest ∧
          List.Forall₂ (MapperModule.RendersTo outDir) done outputs ∧
          Leaves outputs tree outcome.tree outcome.written ∧
          StoppedBy outDir (outDir.join settings.indexName)
            (generation.filled.map fun module => outDir.join ⟨module.origin.moduleFileName⟩) tree
            ⟨outcome.tree, outcome.written⟩ done rest error ∧
          (∀ output ∈ outputs, outcome.tree.read output.path = .ok output.text ↔
            output.Kept outcome.tree outputs) ∧
          ((∀ module ∈ done, '/' ∉ module.origin.moduleFileName.toList) →
            ∀ output ∈ outputs, outcome.tree.read output.path = .ok output.text))) ∧
    ∀ outDir generation, Accepted settings environment tree outDir generation →
      ((∃ name first second, outcome.result = .error (.outputCollision name first second)) ↔
        ¬(generation.filled.map (·.origin.moduleFileName)).Nodup) ∧
      ∀ name first second, outcome.result = .error (.outputCollision name first second) ↔
        ∃ a b, Clash generation.filled a b ∧ name = b.origin.moduleFileName ∧ first = a.origin ∧
          second = b.origin := by
  intro outcome read
  have ends : Ends settings environment tree outcome.result outcome.tree outcome.written :=
    build_ends settings environment tree
  refine ⟨fun error failed => ?_, fun outDir generation accepted => ⟨?_, fun name first second =>
    ends.collision_iff accepted⟩⟩
  · rw [failed] at ends
    rcases ends.of_error with ⟨untouched, unwritten, early⟩ |
      ⟨outDir, generation, writing, accepted, nodup, wrote, afterwards, places⟩
    · refine ⟨fun _ => ⟨untouched, unwritten⟩, fun late readable => ?_⟩
      rcases early with early | unreadable
      · rw [early] at late
        cases late
      · exact absurd unreadable readable
    · obtain ⟨done, rest, outputs, split, renders, leaves, stop⟩ := exists_stoppedBy wrote
      constructor
      · rintro (early | unreadable)
        · rw [isEarly_of_stoppedBy stop] at early
          cases early
        · obtain ⟨directives, readable, -⟩ := accepted.pass
          cases unreadable.symm.trans readable
      · intro _ _
        obtain rfl : writing = ⟨outcome.tree, outcome.written⟩ := by rw [afterwards, places]
        refine ⟨outDir, generation, done, rest, outputs, accepted, nodup, split, renders, leaves, stop,
          fun output hm => leaves.read_eq_ok_iff hm, fun plain output hm => ?_⟩
        rw [split, List.map_append] at nodup
        have apart := nodup_places renders (List.nodup_append.mp nodup).1 plain
          fun output hm => (leaves.placed output hm).2
        exact leaves.read_of_nodup apart hm
  · rw [not_nodup_iff_exists_clash]
    simp only [ends.collision_iff accepted]
    constructor
    · rintro ⟨_, _, _, first, second, clash, -⟩
      exact ⟨first, second, clash⟩
    · rintro ⟨first, second, clash⟩
      exact ⟨_, _, _, first, second, clash, rfl, rfl, rfl⟩

/-- The source of one mapper, and a directory where the index is to be. -/
def indexIsDirectory : FileTree :=
  ⟨oneMapping.entries ++ [(["out"], .directory), (["out", "mappers.rs"], .directory)]⟩

/-- The build fails at its index and leaves the rendering of its only module. -/
theorem exists_file_left_without_index :
    let outcome := build (buildOne ⟨"mappers.rs"⟩) ⟨none, none⟩ indexIsDirectory
    outcome.result = .error (.file ⟨"out/mappers.rs"⟩ .isDirectory) ∧
      ∃ (module : MapperModule) (output : Output), module.RendersTo ⟨"out"⟩ output ∧
        output.path = ⟨"out/o_mapper.rs"⟩ ∧ outcome.tree.read output.path = .ok output.text := by
  intro outcome
  have failed : outcome.result = .error (.file ⟨"out/mappers.rs"⟩ .isDirectory) := by decide +kernel
  have names : (readSources (buildOne ⟨"mappers.rs"⟩) ⟨none, none⟩ indexIsDirectory
      (buildOne ⟨"mappers.rs"⟩).sources).result.toOption.map (fun directives =>
        (generate directives).filled.map (·.origin.moduleFileName)) = some ["o_mapper.rs"] := by
    decide +kernel
  refine ⟨failed, ?_⟩
  obtain ⟨outDir, generation, done, rest, outputs, accepted, -, split, renders, -, stop, -, kept⟩ :=
    ((build_fails (buildOne ⟨"mappers.rs"⟩) ⟨none, none⟩ indexIsDirectory).1 _ failed).2 rfl
      fun unread => by
        rw [unread] at names
        cases names
  obtain rfl : (⟨"out"⟩ : PathName) = outDir := Option.some.inj accepted.outDir
  obtain ⟨directives, read, rfl⟩ := accepted.pass
  rw [read] at names
  have listed : (generate directives).filled.map (·.origin.moduleFileName) = ["o_mapper.rs"] :=
    Option.some.inj names
  rw [split, List.map_append] at listed
  -- the error is about the index, so no module is left
  obtain rfl : rest = [] := by
    rcases stop.path_of_file with path | ⟨module, first, path⟩ | ⟨last, -⟩
    · exact absurd path (by decide)
    · have named : module.origin.moduleFileName ∈ ["o_mapper.rs"] := by
        rw [← listed]
        exact List.mem_append_right _ (List.mem_map_of_mem (List.mem_of_head? first))
      rw [List.mem_singleton.mp named] at path
      exact absurd path (by decide)
    · exact last
  rw [List.map_nil, List.append_nil] at listed
  obtain ⟨module, output, rfl, rfl, rendered, name⟩ := exists_only_output renders listed
  have plain : ∀ other ∈ [module], '/' ∉ other.origin.moduleFileName.toList := by
    simp only [List.mem_singleton, forall_eq, name]
    decide
  refine ⟨module, output, rendered, ?_, kept plain output List.mem_cons_self⟩
  rw [rendered.path, name]
  decide

end Builds

end RecordMapper
