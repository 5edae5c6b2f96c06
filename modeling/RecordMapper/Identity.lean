/-
A record is named by a path of segments separated by `::`. The segments are found by cutting from the
left; the last name and what encloses it are found from the right. The two differ where more than
two colons stand in a row.
-/
import RecordMapper.Text.Casing
import RecordMapper.Text.SnakeCase

namespace RecordMapper

/-- The full name of a record. -/
structure Identity where
  text : String
  deriving DecidableEq, Repr, Inhabited

/-- The pieces between the separators `::`, which are found from the left. -/
def splitAtSeparators : List Char → List (List Char)
  | [] => [[]]
  | ':' :: ':' :: rest => [] :: splitAtSeparators rest
  | c :: rest =>
    match splitAtSeparators rest with
    | [] => [[c]]
    | piece :: pieces => (c :: piece) :: pieces

/-- What stands before and after the last separator `::`. -/
def splitAtLastSeparator? : List Char → Option (List Char × List Char)
  | [] => none
  | c :: rest =>
    match splitAtLastSeparator? rest with
    | some (before, after) => some (c :: before, after)
    | none =>
      match c, rest with
      | ':', ':' :: after => some ([], after)
      | _, _ => none

/-- A name without one leading `r#`, which marks a keyword used as a name. -/
def dropRawMark : List Char → List Char
  | 'r' :: '#' :: rest => rest
  | name => name

/-- A name without any leading `r#`, however often repeated. -/
def dropRawMarks : List Char → List Char
  | 'r' :: '#' :: rest => dropRawMarks rest
  | name => name

namespace Identity

/-- The identity of a path, whose empty segments are dropped. -/
def ofSegments (segments : List String) : Identity :=
  ⟨String.intercalate "::" (segments.filter (· ≠ ""))⟩

/-- The segments of an identity, without empty ones. -/
def segments (identity : Identity) : List String :=
  ((splitAtSeparators identity.text.toList).map String.ofList).filter (· ≠ "")

/-- The last name, without one mark of a raw name. -/
def simpleName (identity : Identity) : String :=
  let last :=
    match splitAtLastSeparator? identity.text.toList with
    | some (_, after) => after
    | none => identity.text.toList
  String.ofList (dropRawMark last)

/-- Everything before the last separator, if there is one. -/
def enclosing? (identity : Identity) : Option String :=
  (splitAtLastSeparator? identity.text.toList).map fun (before, _) => String.ofList before

/-- The name of the function that maps to this record: `mapTo` and the simple name with its first
character in upper case. -/
def mapperName (target : Identity) : String :=
  match target.simpleName.toList with
  | [] => "mapTo"
  | c :: rest => "mapTo" ++ String.ofList (Text.upperChar c ++ rest)

/-- The name of the file that holds the mappers of this record: its segments other than `crate` in
snake case, joined by `_`. -/
def moduleFileName (origin : Identity) : String :=
  let stems := (origin.segments.filter (· ≠ "crate")).map fun segment =>
    Text.snakeCase (String.ofList (dropRawMarks segment.toList))
  String.intercalate "_" stems ++ "_mapper.rs"

end Identity

end RecordMapper
