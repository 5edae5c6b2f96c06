/-
Files and directories, each at its place below a common top directory. The top is its own parent, and
paths that start at the top and paths that start nowhere lead to the same places.
-/
import RecordMapper.Files.PathName

namespace RecordMapper.Files

/-- Why a path could not be used. -/
inductive FileError where
  | notFound
  | isDirectory
  | alreadyExists
  | notDirectory
  /-- The content of the file is no text. -/
  | notText
  deriving DecidableEq, Repr

/-- The wording of a file error. -/
def FileError.message : FileError → String
  | .notFound => "No such file or directory (os error 2)"
  | .isDirectory => "Is a directory (os error 21)"
  | .alreadyExists => "File exists (os error 17)"
  | .notDirectory => "Not a directory (os error 20)"
  | .notText => "stream did not contain valid UTF-8"

/-- What a file holds. -/
inductive Content where
  | text (text : String)
  /-- Bytes that are not the encoding of any text. -/
  | binary (bytes : List UInt8)
  deriving DecidableEq, Repr

/-- What bytes hold. -/
def Content.ofBytes (bytes : List UInt8) : Content :=
  match String.fromUTF8? ⟨bytes.toArray⟩ with
  | some s => .text s
  | none => .binary bytes

/-- What stands at a place. -/
inductive Entry where
  | directory
  | file (content : Content)
  deriving DecidableEq, Repr

/-- A place: the names that lead to it from the top. -/
abbrev Location := List String

/-- The entries below the top, each with its place. -/
structure FileTree where
  entries : List (Location × Entry)
  deriving DecidableEq, Repr

namespace FileTree

/-- The tree of the top alone. -/
def empty : FileTree := ⟨[]⟩

/-- What stands at a place. -/
def entry? (tree : FileTree) (place : Location) : Option Entry :=
  if place = [] then some .directory
  else (tree.entries.find? (·.1 = place)).map (·.2)

/-- Puts an entry at a place. -/
def put (tree : FileTree) (place : Location) (entry : Entry) : FileTree :=
  if tree.entries.any (·.1 = place) then
    ⟨tree.entries.map fun (other, old) => if other = place then (other, entry) else (other, old)⟩
  else ⟨tree.entries ++ [(place, entry)]⟩

/-- The tree without the entry at a place. -/
def erase (tree : FileTree) (place : Location) : FileTree :=
  ⟨tree.entries.filter (·.1 ≠ place)⟩

/-! ## Following paths -/

/-- The directory that a name leads to from a directory. -/
def enter (tree : FileTree) (place : Location) (name : String) : Except FileError Location :=
  if name = "." then .ok place
  else if name = ".." then .ok place.dropLast
  else
    match tree.entry? (place ++ [name]) with
    | some .directory => .ok (place ++ [name])
    | some (.file _) => .error .notDirectory
    | none => .error .notFound

/-- The directory that names lead to from the top. -/
def walk (tree : FileTree) (names : List String) : Except FileError Location :=
  names.foldlM tree.enter []

/-- Whether a name does not say what it stands for. -/
def isDots (name : String) : Bool := name = "." || name = ".."

/-- The place of names whose last may not exist yet. -/
def placeOf (tree : FileTree) (names : List String) : Except FileError Location :=
  match names.getLast? with
  | none => .ok []
  | some last => do
    let directory ← tree.walk names.dropLast
    if isDots last then tree.enter directory last else .ok (directory ++ [last])

/-- The place that a path leads to, whether or not something stands there. No place has the empty
name. -/
def locate (tree : FileTree) (path : PathName) : Except FileError Location :=
  if path.text = "" then .error .notFound else tree.placeOf path.names

/-! ## Reading and writing -/

/-- The text of the file at a path. -/
def read (tree : FileTree) (path : PathName) : Except FileError String := do
  let place ← tree.locate path
  match tree.entry? place with
  | none => .error .notFound
  | some .directory => .error .isDirectory
  | some (.file content) =>
    if path.endsInSlash then .error .notDirectory
    else
      match content with
      | .text text => .ok text
      | .binary _ => .error .notText

/-- The tree after writing a file, and the place of the file. -/
def write (tree : FileTree) (path : PathName) (content : Content) :
    Except FileError (FileTree × Location) := do
  let place ← tree.locate path
  if path.endsInSlash || tree.entry? place = some .directory then .error .isDirectory
  else .ok (tree.put place (.file content), place)

/-! ## Directories -/

/-- The tree after making the directory that names lead to. -/
def makeDirectory (tree : FileTree) (names : List String) : Except FileError FileTree := do
  let place ← tree.placeOf names
  if (tree.entry? place).isSome then .error .alreadyExists
  else .ok (tree.put place .directory)

/-- Whether names lead to a directory. -/
def isDirectory (tree : FileTree) (names : List String) : Bool :=
  match tree.placeOf names with
  | .ok place => tree.entry? place = some .directory
  | .error _ => false

/-- Names without those at the end that stand for the same directory. A single name stays. -/
def dropSame (names : List String) : List String :=
  if names.length ≤ 1 then names
  else if names.getLast? = some "." then dropSame names.dropLast
  else names
termination_by names.length
decreasing_by simp only [List.length_dropLast]; omega

/-- The names of the directory that holds the one that names lead to. -/
def holder (names : List String) : List String := (dropSame names).dropLast

theorem length_dropSame_le (names : List String) : (dropSame names).length ≤ names.length := by
  fun_induction dropSame names with
  | case1 => exact Nat.le_refl _
  | case2 names _ _ ih => exact Nat.le_trans ih (by simp)
  | case3 => exact Nat.le_refl _

theorem length_holder_lt {names : List String} (h : names ≠ []) :
    (holder names).length < names.length := by
  have := length_dropSame_le names
  have := List.length_pos_iff.mpr h
  simp only [holder, List.length_dropLast]
  omega

/-- Makes the directory that names lead to, with those above it that do not exist, and says what went
wrong; what was made before that stays. -/
def makeDirectories (tree : FileTree) (names : List String) : FileTree × Option FileError :=
  if _h : names = [] then (tree, none)
  else
    match tree.makeDirectory names with
    | .ok made => (made, none)
    | .error .notFound =>
      match makeDirectories tree (holder names) with
      | (made, some error) => (made, some error)
      | (made, none) =>
        match made.makeDirectory names with
        | .ok whole => (whole, none)
        | .error error => (made, if made.isDirectory names then none else some error)
    | .error error => (tree, if tree.isDirectory names then none else some error)
termination_by names.length
decreasing_by exact length_holder_lt _h

/-! ## Listing -/

/-- Whether the first of two places is listed no later than the second. Names count one after the
other, so that what a directory holds stays together. -/
def listedBy : Location → Location → Bool
  | [], _ => true
  | _ :: _, [] => false
  | a :: as, b :: bs => a < b || (a = b && listedBy as bs)

/-- The places of the files, in the order of their names. -/
def files (tree : FileTree) : List Location :=
  (tree.entries.filterMap fun (place, entry) =>
    match entry with
    | .file _ => some place
    | .directory => none).mergeSort listedBy

end FileTree

/-- A place as a path from the top. -/
def Location.path (place : Location) : PathName := ⟨String.intercalate "/" place⟩

end RecordMapper.Files
