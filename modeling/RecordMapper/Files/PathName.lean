/-
A path name is the text that a program uses for a file. It is never tidied, because it is shown and
written as it is; what it leads to is decided name by name in a tree of files.
-/

namespace RecordMapper.Files

/-- The name of a path. -/
structure PathName where
  text : String
  deriving DecidableEq, Repr

/-- The pieces between slashes. -/
def splitAtSlashes : List Char → List (List Char)
  | [] => [[]]
  | c :: rest =>
    if c = '/' then [] :: splitAtSlashes rest
    else
      match splitAtSlashes rest with
      | [] => [[c]]
      | piece :: pieces => (c :: piece) :: pieces

namespace PathName

/-- Whether a path starts at the top. -/
def isAbsolute (path : PathName) : Bool := path.text.toList.head? = some '/'

/-- Whether a path can only lead to a directory, because it ends in a slash. -/
def endsInSlash (path : PathName) : Bool := path.text.toList.getLast? = some '/'

/-- The names that lead along a path; `.` and `..` are among them. -/
def names (path : PathName) : List String :=
  ((splitAtSlashes path.text.toList).filter (· ≠ [])).map String.ofList

/-- A path from a directory. One that starts at the top is not from any directory. -/
def join (directory name : PathName) : PathName :=
  if name.isAbsolute || directory.text = "" then name
  else if directory.endsInSlash then ⟨directory.text ++ name.text⟩
  else ⟨directory.text ++ "/" ++ name.text⟩

end PathName

end RecordMapper.Files
