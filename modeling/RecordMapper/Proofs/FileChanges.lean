/-
Reading, writing and making directories, said by what stands at which place. Where a path leads
depends on the directories alone, and a file is only ever written where there is none, so paths keep
leading to the same places however much is written.
-/
import RecordMapper.Files.FileTree
import Mathlib.Data.List.Basic

namespace RecordMapper

/-- A step after another answers only if both do. -/
theorem bind_eq_ok {ε α β : Type} {first : Except ε α} {next : α → Except ε β} {answer : β} :
    (first >>= next) = .ok answer ↔ ∃ found, first = .ok found ∧ next found = .ok answer := by
  cases first with
  | error cause =>
    constructor
    · intro h
      cases h
    · rintro ⟨_, h, -⟩
      cases h
  | ok found =>
    constructor
    · exact fun h => ⟨found, rfl, h⟩
    · rintro ⟨_, h, h'⟩
      cases h
      exact h'

namespace Files

/-! ## Names along a path -/

theorem splitAtSlashes_ne_nil (cs : List Char) : splitAtSlashes cs ≠ [] := by
  cases cs with
  | nil => simp [splitAtSlashes]
  | cons c cs =>
    unfold splitAtSlashes
    split
    · simp
    · split <;> simp

theorem splitAtSlashes_append (front back : List Char) :
    splitAtSlashes (front ++ '/' :: back) = splitAtSlashes front ++ splitAtSlashes back := by
  induction front with
  | nil => simp [splitAtSlashes]
  | cons c front ih =>
    simp only [List.cons_append, splitAtSlashes, ih]
    by_cases slash : c = '/'
    · rw [if_pos slash, if_pos slash, List.cons_append]
    · rw [if_neg slash, if_neg slash]
      cases pieces : splitAtSlashes front with
      | nil => exact absurd pieces (splitAtSlashes_ne_nil front)
      | cons piece pieces => rfl

theorem splitAtSlashes_plain {cs : List Char} (plain : '/' ∉ cs) : splitAtSlashes cs = [cs] := by
  induction cs with
  | nil => rfl
  | cons c cs ih =>
    simp only [List.mem_cons, not_or] at plain
    rw [splitAtSlashes, if_neg (Ne.symm plain.1), ih plain.2]

namespace PathName

variable {directory name : PathName}

/-- A name without a slash is the last of the names that lead to it. -/
theorem names_join (plain : '/' ∉ name.text.toList) (nonempty : name.text ≠ "") :
    (directory.join name).names = directory.names ++ [name.text] := by
  have kept : name.text.toList ≠ [] := by simpa using nonempty
  have below : name.isAbsolute = false := by
    rw [isAbsolute, decide_eq_false_iff_not]
    exact fun first => plain (List.mem_of_mem_head? first)
  unfold join
  by_cases empty : directory.text = ""
  · simp [empty, names, splitAtSlashes_plain plain, kept, splitAtSlashes]
  by_cases slash : directory.endsInSlash = true
  · obtain ⟨front, text⟩ : ∃ front, directory.text.toList = front ++ ['/'] :=
      List.getLast?_eq_some_iff.mp (by simpa [endsInSlash] using slash)
    have whole : (directory.text ++ name.text).toList = front ++ '/' :: name.text.toList := by
      simp [text]
    simp [below, empty, slash, names, whole, text, splitAtSlashes_append,
      splitAtSlashes_plain plain, kept, splitAtSlashes]
  · have whole : (directory.text ++ "/" ++ name.text).toList =
        directory.text.toList ++ '/' :: name.text.toList := by
      simp
    simp [below, empty, slash, names, whole, splitAtSlashes_append, splitAtSlashes_plain plain, kept]

theorem text_join_ne_empty (nonempty : name.text ≠ "") : (directory.join name).text ≠ "" := by
  unfold join
  split
  · exact nonempty
  · split <;> simp [nonempty]

/-- Names that are both below the directory, or both not, give different paths. -/
theorem join_injective {other : PathName} (same : name.isAbsolute = other.isAbsolute)
    (h : directory.join name = directory.join other) : name = other := by
  unfold join at h
  rw [← same] at h
  split at h
  · exact h
  · split at h
    · exact congrArg mk (String.append_right_inj _ |>.mp (mk.inj h))
    · exact congrArg mk (String.append_right_inj _ |>.mp (mk.inj h))

end PathName

namespace FileTree

variable {tree before after : FileTree} {path : PathName} {place other : Location} {entry : Entry}

/-! ## Entries -/

theorem entry?_nil : tree.entry? [] = some .directory := if_pos rfl

theorem entry?_put (h : place ≠ []) :
    entry? (tree.put place entry) other = if other = place then some entry else tree.entry? other := by
  by_cases top : other = []
  · rw [top, entry?_nil, if_neg (Ne.symm h), entry?_nil]
  unfold entry? put
  simp only [if_neg top]
  split
  · next listed =>
    -- an entry keeps its place, so what is found at a place is found there after the change
    have keeps : (fun found : Location × Entry => decide (found.1 = other)) ∘
        (fun (place', old) => if place' = place then (place', entry) else (place', old)) =
        fun found => decide (found.1 = other) := by
      funext ⟨place', old⟩
      by_cases same : place' = place <;> simp [same]
    rw [List.find?_map, keeps]
    cases found : tree.entries.find? fun found => decide (found.1 = other) with
    | none =>
      have absent : other ≠ place := by
        rintro rfl
        obtain ⟨_, hm, at_place⟩ := List.any_eq_true.mp listed
        exact absurd at_place (List.find?_eq_none.mp found _ hm)
      simp [absent]
    | some pair =>
      obtain ⟨place', old⟩ := pair
      obtain rfl : place' = other := by simpa using List.find?_some found
      by_cases same : place' = place <;> simp [same]
  · next unlisted =>
    rw [List.find?_append]
    cases found : tree.entries.find? fun found => decide (found.1 = other) with
    | none => by_cases same : other = place <;> simp [same, Ne.symm, eq_comm]
    | some pair =>
      have present : other ≠ place := by
        rintro rfl
        exact unlisted (List.any_eq_true.mpr
          ⟨pair, List.mem_of_find?_eq_some found, by simpa using List.find?_some found⟩)
      simp [present]

/-! ## Where paths lead -/

/-- What is a directory stays one. -/
def DirectoriesStay (before after : FileTree) : Prop :=
  ∀ place, before.entry? place = some .directory → after.entry? place = some .directory

namespace DirectoriesStay

variable (stay : DirectoriesStay before after)

include stay

theorem enter {name : String} (h : before.enter place name = .ok other) :
    after.enter place name = .ok other := by
  unfold FileTree.enter at h ⊢
  by_cases same : name = "."
  · rwa [if_pos same] at h ⊢
  by_cases up : name = ".."
  · rwa [if_neg same, if_pos up] at h ⊢
  rw [if_neg same, if_neg up] at h ⊢
  split at h
  · next found =>
    rw [stay _ found]
    exact h
  · cases h
  · cases h

theorem foldlM_enter {names : List String} {start : Location}
    (h : names.foldlM before.enter start = .ok place) :
    names.foldlM after.enter start = .ok place := by
  induction names generalizing start with
  | nil => exact h
  | cons name names ih =>
    rw [List.foldlM_cons, bind_eq_ok] at h ⊢
    obtain ⟨next, entered, rest⟩ := h
    exact ⟨next, stay.enter entered, ih rest⟩

theorem placeOf {names : List String} (h : before.placeOf names = .ok place) :
    after.placeOf names = .ok place := by
  unfold FileTree.placeOf at h ⊢
  split at h
  · exact h
  · next last _ =>
    rw [bind_eq_ok] at h ⊢
    obtain ⟨directory, walked, h⟩ := h
    refine ⟨directory, stay.foldlM_enter walked, ?_⟩
    by_cases dots : isDots last = true
    · rw [if_pos dots] at h ⊢
      exact stay.enter h
    · rw [if_neg dots] at h ⊢
      exact h

/-- A path that leads somewhere keeps leading there. -/
theorem locate (h : before.locate path = .ok place) : after.locate path = .ok place := by
  unfold FileTree.locate at h ⊢
  by_cases empty : path.text = ""
  · rw [if_pos empty] at h
    cases h
  · rw [if_neg empty] at h ⊢
    exact stay.placeOf h

end DirectoriesStay

/-! ## Reading and writing -/

theorem read_eq_ok {text : String} :
    tree.read path = .ok text ↔ ∃ place, tree.locate path = .ok place ∧
      path.endsInSlash = false ∧ tree.entry? place = some (.file (.text text)) := by
  unfold read
  rw [bind_eq_ok]
  refine exists_congr fun place => and_congr_right fun _ => ?_
  cases tree.entry? place with
  | none => simp
  | some entry =>
    cases entry with
    | directory => simp
    | file content =>
      cases path.endsInSlash with
      | true => simp
      | false => cases content <;> simp

theorem write_eq_ok {content : Content} :
    tree.write path content = .ok (after, place) ↔ tree.locate path = .ok place ∧
      path.endsInSlash = false ∧ tree.entry? place ≠ some .directory ∧
      after = tree.put place (.file content) := by
  unfold write
  rw [bind_eq_ok]
  constructor
  · rintro ⟨found, located, h⟩
    split at h
    · cases h
    · next free =>
      cases h
      simp only [Bool.or_eq_true, decide_eq_true_eq, not_or, Bool.not_eq_true] at free
      exact ⟨located, free.1, free.2, rfl⟩
  · rintro ⟨located, noSlash, free, rfl⟩
    exact ⟨place, located, by simp [noSlash, free]⟩

theorem ne_nil_of_no_directory (h : tree.entry? place ≠ some .directory) : place ≠ [] := by
  rintro rfl
  exact h entry?_nil

theorem directory_put_file {content : Content} (free : tree.entry? place ≠ some .directory) :
    entry? (tree.put place (.file content)) other = some .directory ↔
      tree.entry? other = some .directory := by
  rw [entry?_put (ne_nil_of_no_directory free)]
  by_cases same : other = place
  · rw [if_pos same, same]
    simp [free]
  · rw [if_neg same]

/-- Where a path leads is decided by directories, so writing a file changes no path. -/
theorem locate_put_file {content : Content} (free : tree.entry? place ≠ some .directory) :
    (tree.put place (.file content)).locate path = .ok other ↔ tree.locate path = .ok other := by
  constructor
  · exact DirectoriesStay.locate fun _ => (directory_put_file free).mp
  · exact DirectoriesStay.locate fun _ => (directory_put_file free).mpr

theorem locate_join {directory name : PathName} (plain : '/' ∉ name.text.toList)
    (nonempty : name.text ≠ "") (noDots : isDots name.text = false) :
    tree.locate (directory.join name) = .ok place ↔
      ∃ home, tree.walk directory.names = .ok home ∧ place = home ++ [name.text] := by
  rw [locate, if_neg (PathName.text_join_ne_empty nonempty), PathName.names_join plain nonempty,
    placeOf, List.getLast?_concat]
  simp only [List.dropLast_concat, noDots, bind_eq_ok]
  simp [eq_comm]

/-! ## Making directories -/

/-- Directories were added, each where nothing stood, and nothing else is different. -/
def AddsDirectories (before after : FileTree) : Prop :=
  ∀ place, after.entry? place = before.entry? place ∨
    (before.entry? place = none ∧ after.entry? place = some .directory)

namespace AddsDirectories

theorem refl (tree : FileTree) : AddsDirectories tree tree := fun _ => .inl rfl

theorem trans {a b c : FileTree} (first : AddsDirectories a b) (second : AddsDirectories b c) :
    AddsDirectories a c := by
  intro place
  rcases second place with same | ⟨nothing, made⟩
  · rw [same]
    exact first place
  · rcases first place with same | ⟨-, made'⟩
    · exact .inr ⟨same ▸ nothing, made⟩
    · rw [nothing] at made'
      cases made'

theorem put (h : tree.entry? place = none) : AddsDirectories tree (tree.put place .directory) := by
  intro other
  have free : tree.entry? place ≠ some .directory := by simp [h]
  rw [entry?_put (ne_nil_of_no_directory free)]
  by_cases same : other = place
  · rw [if_pos same, same]
    exact .inr ⟨h, rfl⟩
  · exact .inl (if_neg same)

end AddsDirectories

theorem makeDirectory_adds {names : List String} (h : tree.makeDirectory names = .ok after) :
    AddsDirectories tree after := by
  unfold makeDirectory at h
  rw [bind_eq_ok] at h
  obtain ⟨place, -, h⟩ := h
  split at h
  · cases h
  · next free =>
    cases h
    exact .put (by simpa using free)

/-- Making directories adds directories, also when it fails. -/
theorem makeDirectories_adds (tree : FileTree) (names : List String) :
    AddsDirectories tree (tree.makeDirectories names).1 := by
  fun_induction makeDirectories tree names with
  | case1 => exact .refl _
  | case2 names _ made h => exact makeDirectory_adds h
  | case3 names _ _ made error h ih => rwa [h] at ih
  | case4 names _ _ made h whole h' ih =>
    rw [h] at ih
    exact ih.trans (makeDirectory_adds h')
  | case5 names _ _ made h error h' ih => rwa [h] at ih
  | case6 => exact .refl _

end FileTree

end Files

end RecordMapper
