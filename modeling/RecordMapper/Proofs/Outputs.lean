/-
A build puts texts at paths, one after the other. Nothing keeps two of these paths from leading to one
place, so what stands at a place afterwards is what was put there last; everything else about the
files is as one would wish, and is carried through the run by `Leaves`: no other file is different,
and a file is written only if it did not hold its text.
-/
import RecordMapper.Build
import RecordMapper.Proofs.FileChanges
import Mathlib.Data.List.Forall2
import Mathlib.Data.List.Nodup

namespace RecordMapper

open Files

/-- A text and the path that it is put at. -/
structure Output where
  path : PathName
  text : String

/-- What is put last at a place. -/
def lastAt? (tree : FileTree) (outputs : List Output) (place : Location) : Option Output :=
  outputs.reverse.find? fun output => decide (tree.locate output.path = .ok place)

/-- What has become of a tree after outputs were put into it, and which places were written. -/
structure Leaves (outputs : List Output) (before after : FileTree) (written : List Location) :
    Prop where
  /-- The path of each output leads to a place. -/
  placed : ∀ output ∈ outputs, output.path.endsInSlash = false ∧
    ∃ place, after.locate output.path = .ok place
  /-- Where outputs were put, the last of them stands. -/
  stands : ∀ place output, lastAt? after outputs place = some output →
    after.entry? place = some (.file (.text output.text))
  /-- Elsewhere nothing is different but for directories that were made. -/
  elsewhere : ∀ place, lastAt? after outputs place = none →
    after.entry? place = before.entry? place ∨
      (before.entry? place = none ∧ after.entry? place = some .directory)
  /-- A place was written if its file did not hold a text that was put there. -/
  mem_written : ∀ place, place ∈ written ↔ ∃ output ∈ outputs,
    after.locate output.path = .ok place ∧ before.entry? place ≠ some (.file (.text output.text))

/-! ## One output -/

section One

variable {tree : FileTree} {outputs : List Output} {output : Output} {place : Location}

theorem lastAt?_concat : lastAt? tree (outputs ++ [output]) place =
    if tree.locate output.path = .ok place then some output else lastAt? tree outputs place := by
  simp only [lastAt?, List.reverse_append, List.reverse_singleton, List.singleton_append,
    List.find?_cons]
  split <;> simp_all

theorem lastAt?_congr {other : FileTree}
    (same : ∀ path, other.locate path = .ok place ↔ tree.locate path = .ok place) :
    lastAt? other outputs place = lastAt? tree outputs place := by
  simp only [lastAt?, same]

theorem lastAt?_eq_some (h : lastAt? tree outputs place = some output) :
    output ∈ outputs ∧ tree.locate output.path = .ok place := by
  refine ⟨List.mem_reverse.mp (List.mem_of_find?_eq_some h), ?_⟩
  simpa using List.find?_some h

theorem exists_lastAt? (hm : output ∈ outputs) (h : tree.locate output.path = .ok place) :
    ∃ last, lastAt? tree outputs place = some last := by
  cases found : lastAt? tree outputs place with
  | some last => exact ⟨last, rfl⟩
  | none =>
    have := List.find?_eq_none.mp found output (List.mem_reverse.mpr hm)
    simp [h] at this

theorem holds_iff {path : PathName} {text : String} :
    holds tree path text = true ↔ tree.read path = .ok text := by
  unfold holds
  cases tree.read path <;> simp

/-- What putting a text at a path does. -/
theorem put_eq_ok {path : PathName} {text : String} {writing done : Writing} :
    writing.put path text = .ok done ↔
      ∃ place, writing.tree.locate path = .ok place ∧ path.endsInSlash = false ∧
        writing.tree.entry? place ≠ some .directory ∧
        if writing.tree.entry? place = some (.file (.text text)) then done = writing
        else done = ⟨writing.tree.put place (.file (.text text)), writing.written ++ [place]⟩ := by
  unfold Writing.put
  by_cases held : holds writing.tree path text = true
  · rw [if_pos held]
    obtain ⟨place, located, noSlash, found⟩ := FileTree.read_eq_ok.mp (holds_iff.mp held)
    constructor
    · intro h
      cases h
      exact ⟨place, located, noSlash, by simp [found], by simp [found]⟩
    · rintro ⟨place', located', -, -, h⟩
      obtain rfl : place = place' := Except.ok.inj (located.symm.trans located')
      rw [if_pos found] at h
      rw [h]
  · rw [if_neg held]
    have differs : ∀ place, writing.tree.locate path = .ok place →
        path.endsInSlash = false →
        writing.tree.entry? place ≠ some (.file (.text text)) :=
      fun place located noSlash found =>
        held (holds_iff.mpr (FileTree.read_eq_ok.mpr ⟨place, located, noSlash, found⟩))
    constructor
    · intro h
      split at h
      · cases h
      · next after place wrote =>
        cases h
        obtain ⟨located, noSlash, free, rfl⟩ := FileTree.write_eq_ok.mp wrote
        exact ⟨place, located, noSlash, free, by rw [if_neg (differs place located noSlash)]⟩
    · rintro ⟨place, located, noSlash, free, h⟩
      rw [if_neg (differs place located noSlash)] at h
      rw [FileTree.write_eq_ok.mpr ⟨located, noSlash, free, rfl⟩, h]

end One

/-! ## All outputs -/

namespace Leaves

variable {outputs : List Output} {output : Output} {before after : FileTree}
  {written : List Location} {writing done : Writing} {place : Location}

/-- Making directories leaves no output. -/
theorem nil (h : FileTree.AddsDirectories before after) : Leaves [] before after [] where
  placed := by simp
  stands := by simp [lastAt?]
  elsewhere := fun place _ => h place
  mem_written := by simp

/-- Where a file is different, something was put that it did not hold. -/
theorem exists_differing (h : Leaves outputs before after written)
    (changed : after.entry? place ≠ before.entry? place)
    (present : before.entry? place ≠ none ∨ after.entry? place ≠ some .directory) :
    ∃ output ∈ outputs, after.locate output.path = .ok place ∧
      before.entry? place ≠ some (.file (.text output.text)) := by
  cases last : lastAt? after outputs place with
  | none =>
    rcases h.elsewhere place last with same | ⟨nothing, made⟩
    · exact absurd same changed
    · rcases present with present | present
      · exact absurd nothing present
      · exact absurd made present
  | some output =>
    obtain ⟨hm, located⟩ := lastAt?_eq_some last
    refine ⟨output, hm, located, fun same => changed ?_⟩
    rw [h.stands place output last, same]

theorem placed_concat (h : Leaves outputs before after written)
    (located : after.locate output.path = .ok place) (noSlash : output.path.endsInSlash = false) :
    ∀ other ∈ outputs ++ [output], other.path.endsInSlash = false ∧
      ∃ place, after.locate other.path = .ok place := by
  intro other hm
  rcases List.mem_append.mp hm with hm | hm
  · exact h.placed other hm
  · obtain rfl := List.mem_singleton.mp hm
    exact ⟨noSlash, place, located⟩

/-- An output that the file already holds changes nothing. -/
theorem concat_held (h : Leaves outputs before after written)
    (located : after.locate output.path = .ok place) (noSlash : output.path.endsInSlash = false)
    (held : after.entry? place = some (.file (.text output.text))) :
    Leaves (outputs ++ [output]) before after written where
  placed := h.placed_concat located noSlash
  stands := by
    intro other last hl
    rw [lastAt?_concat] at hl
    split at hl
    · next same =>
      cases hl
      obtain rfl : place = other := Except.ok.inj (located.symm.trans same)
      exact held
    · exact h.stands other last hl
  elsewhere := by
    intro other hl
    rw [lastAt?_concat] at hl
    split at hl
    · cases hl
    · exact h.elsewhere other hl
  mem_written := by
    intro other
    rw [h.mem_written]
    constructor
    · rintro ⟨earlier, hm, rest⟩
      exact ⟨earlier, List.mem_append_left _ hm, rest⟩
    · rintro ⟨earlier, hm, at_other, differs⟩
      rcases List.mem_append.mp hm with hm | hm
      · exact ⟨earlier, hm, at_other, differs⟩
      · obtain rfl := List.mem_singleton.mp hm
        obtain rfl : place = other := Except.ok.inj (located.symm.trans at_other)
        rw [← held] at differs
        exact h.exists_differing (Ne.symm differs) (.inr (by simp [held]))

/-- An output that is written stands where its path leads, and all else stays. -/
theorem concat_written (h : Leaves outputs before after written)
    (located : after.locate output.path = .ok place) (noSlash : output.path.endsInSlash = false)
    (free : after.entry? place ≠ some .directory)
    (differs : after.entry? place ≠ some (.file (.text output.text))) :
    Leaves (outputs ++ [output]) before (after.put place (.file (.text output.text)))
      (written ++ [place]) := by
  -- paths lead where they led before the write, so what is last at a place is said of either tree
  have leads : ∀ {path : PathName} {other : Location},
      (after.put place (.file (.text output.text))).locate path = .ok other ↔
        after.locate path = .ok other := FileTree.locate_put_file free
  have entry : ∀ other, FileTree.entry? (after.put place (.file (.text output.text))) other =
      if other = place then some (.file (.text output.text)) else after.entry? other :=
    fun other => FileTree.entry?_put (FileTree.ne_nil_of_no_directory free)
  have last : ∀ other, lastAt? (after.put place (.file (.text output.text))) (outputs ++ [output])
      other = if other = place then some output else lastAt? after outputs other := by
    intro other
    rw [lastAt?_congr fun path => leads, lastAt?_concat, located]
    simp only [Except.ok.injEq, eq_comm]
  constructor
  · intro other hm
    obtain ⟨noSlash', place', located'⟩ := h.placed_concat located noSlash other hm
    exact ⟨noSlash', place', leads.mpr located'⟩
  · intro other found hl
    rw [last] at hl
    rw [entry]
    split at hl
    · next same =>
      cases hl
      rw [if_pos same]
    · next apart =>
      rw [if_neg apart]
      exact h.stands other found hl
  · intro other hl
    rw [last] at hl
    rw [entry]
    split at hl
    · cases hl
    · next apart =>
      rw [if_neg apart]
      exact h.elsewhere other hl
  · intro other
    simp only [List.mem_append, List.mem_singleton, leads, h.mem_written]
    constructor
    · rintro (⟨earlier, hm, rest⟩ | rfl)
      · exact ⟨earlier, .inl hm, rest⟩
      · by_cases held : before.entry? other = some (.file (.text output.text))
        · rw [← held] at differs
          obtain ⟨earlier, hm, rest⟩ := h.exists_differing differs (.inl (by simp [held]))
          exact ⟨earlier, .inl hm, rest⟩
        · exact ⟨output, .inr rfl, located, held⟩
    · rintro ⟨earlier, hm | rfl, at_other, rest⟩
      · exact .inl ⟨earlier, hm, at_other, rest⟩
      · exact .inr (Except.ok.inj (at_other.symm.trans located))

/-- One output more. -/
theorem concat {path : PathName} {text : String}
    (h : Leaves outputs before writing.tree writing.written)
    (ok : writing.put path text = .ok done) :
    Leaves (outputs ++ [⟨path, text⟩]) before done.tree done.written := by
  obtain ⟨place, located, noSlash, free, result⟩ := put_eq_ok.mp ok
  by_cases held : writing.tree.entry? place = some (.file (.text text))
  · rw [if_pos held] at result
    rw [result]
    exact h.concat_held located noSlash held
  · rw [if_neg held] at result
    rw [result]
    exact h.concat_written located noSlash free held

/-- What is read at the path of an output is what was put last where it leads. -/
theorem read_eq_ok_iff (h : Leaves outputs before after written) (hm : output ∈ outputs)
    {text : String} :
    after.read output.path = .ok text ↔ ∃ place last, after.locate output.path = .ok place ∧
      lastAt? after outputs place = some last ∧ last.text = text := by
  obtain ⟨noSlash, place, located⟩ := h.placed output hm
  obtain ⟨last, found⟩ := exists_lastAt? hm located
  rw [FileTree.read_eq_ok]
  constructor
  · rintro ⟨place', located', -, stands⟩
    obtain rfl : place = place' := Except.ok.inj (located.symm.trans located')
    rw [h.stands place last found] at stands
    exact ⟨place, last, located, found, by simpa using stands⟩
  · rintro ⟨place', last', located', found', rfl⟩
    exact ⟨place', located', noSlash, h.stands place' last' found'⟩

/-- Where no two outputs are put at one place, each stands at its own. -/
theorem read_of_nodup (h : Leaves outputs before after written)
    (apart : (outputs.map fun output => after.locate output.path).Nodup) (hm : output ∈ outputs) :
    after.read output.path = .ok output.text := by
  obtain ⟨-, place, located⟩ := h.placed output hm
  obtain ⟨last, found⟩ := exists_lastAt? hm located
  obtain ⟨hl, same⟩ := lastAt?_eq_some found
  obtain rfl : last = output := List.inj_on_of_nodup_map apart hl hm (same.trans located.symm)
  exact (h.read_eq_ok_iff hm).mpr ⟨place, last, located, found, rfl⟩

end Leaves

/-! ## The files of modules -/

/-- The file of a module is to hold the rendering of this module alone. -/
structure MapperModule.RendersTo (outDir : PathName) (module : MapperModule) (output : Output) :
    Prop where
  path : output.path = outDir.join ⟨module.origin.moduleFileName⟩
  text : render [module] = .ok output.text

/-- Why the file of a module cannot be written. -/
inductive MapperModule.StopsAt (outDir : PathName) (writing : Writing) (module : MapperModule) :
    BuildError → Prop
  | emission {error : EmitError} :
      render [module] = .error error → StopsAt outDir writing module (.emit error)
  | file {text : String} {error : BuildError} :
      render [module] = .ok text →
      writing.put (outDir.join ⟨module.origin.moduleFileName⟩) text = .error error →
      StopsAt outDir writing module error

section Modules

variable {outDir : PathName} {writing : Writing} {module : MapperModule} {modules : List MapperModule}

theorem rendersTo {text : String} (h : render [module] = .ok text) :
    module.RendersTo outDir ⟨outDir.join ⟨module.origin.moduleFileName⟩, text⟩ where
  path := by simp only
  text := h

-- unfolding would look into the paths of a write that is not known yet
seal Writing.put in
theorem writeModules_cons : writeModules outDir writing (module :: modules) =
    match render [module] with
    | .error error => (writing, some (.emit error))
    | .ok text =>
      match writing.put (outDir.join ⟨module.origin.moduleFileName⟩) text with
      | .error error => (writing, some error)
      | .ok writing => writeModules outDir writing modules := rfl

end Modules

/-- The files of modules are written from the first to the last, or to the one before the module that
stops the writing. -/
theorem exists_leaves_writeModules (outDir : PathName) {before : FileTree} (writing : Writing)
    (modules : List MapperModule) {earlier : List Output}
    (h : Leaves earlier before writing.tree writing.written) :
    ∃ done rest outputs, modules = done ++ rest ∧
      List.Forall₂ (MapperModule.RendersTo outDir) done outputs ∧
      Leaves (earlier ++ outputs) before (writeModules outDir writing modules).1.tree
        (writeModules outDir writing modules).1.written ∧
      match (writeModules outDir writing modules).2 with
      | none => rest = []
      | some error => ∃ module later, rest = module :: later ∧
          module.StopsAt outDir (writeModules outDir writing modules).1 error := by
  induction modules generalizing writing earlier with
  | nil =>
    rw [← List.append_nil earlier] at h
    exact ⟨[], [], [], rfl, .nil, h, rfl⟩
  | cons module modules ih =>
    have none_put : Leaves (earlier ++ []) before writing.tree writing.written := by
      rwa [List.append_nil]
    cases rendered : render [module] with
    | error error =>
      simp only [writeModules_cons, rendered]
      exact ⟨[], module :: modules, [], rfl, .nil, none_put, module, modules, rfl,
        .emission rendered⟩
    | ok text =>
      cases wrote : writing.put (outDir.join ⟨module.origin.moduleFileName⟩) text with
      | error error =>
        simp only [writeModules_cons, rendered, wrote]
        exact ⟨[], module :: modules, [], rfl, .nil, none_put, module, modules, rfl,
          .file rendered wrote⟩
      | ok next =>
        obtain ⟨done, rest, outputs, split, renders, leaves, stops⟩ := ih next (h.concat wrote)
        rw [List.append_assoc, List.singleton_append] at leaves
        simp only [writeModules_cons, rendered, wrote]
        exact ⟨module :: done, rest, ⟨outDir.join ⟨module.origin.moduleFileName⟩, text⟩ :: outputs,
          congrArg (module :: ·) split, .cons (rendersTo rendered) renders, leaves, stops⟩

end RecordMapper
