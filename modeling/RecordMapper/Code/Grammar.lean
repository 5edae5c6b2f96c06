/-
The rules of the grammar are tied together by nesting: a reader that allows one level more uses readers
that allow one level less. A level either takes a tree or is one of a few that lead to the next, so that the
number of trees bounds the levels that are needed.
-/
import RecordMapper.Code.Grammar.Items

namespace RecordMapper.Code

namespace Grammar

/-- What each part of the grammar is, in terms of the parts inside it. -/
def rule (self : Readers) : Readers
  | .type plus => type self plus
  | .bound => bound self
  | .genericArgument => genericArgument self
  | .expression records => expression self records
  | .operand records => operand self records
  | .atom => atom self true
  | .pattern alternatives => pattern self alternatives
  | .block => block self
  | .item => item self
  | .useTree roots => useTree self roots

/-- Readers for sources that nest at most `levels` deep. -/
def readers : Nat → Readers
  | 0 => fun _ => Read.fail
  | levels + 1 => rule (readers levels)

end Grammar

namespace Tree

mutual

/-- How many tokens and groups a tree has. -/
def size : Tree → Nat
  | token .. => 1
  | group _ _ _ inner => sizeOfAll inner + 1
  | node _ parts => sizeOfAll parts + 1

/-- How many tokens and groups several trees have. -/
def sizeOfAll : List Tree → Nat
  | [] => 0
  | tree :: rest => size tree + sizeOfAll rest

end

end Tree

/-- Readers for a list of trees. -/
def readersFor (trees : List Tree) : Readers :=
  Grammar.readers (4 * Tree.sizeOfAll trees + 8)

/-- All of a list of trees as one part of the grammar. -/
def readAll? (part : Nonterminal) (trees : List Tree) : Option Tree :=
  Read.all? (readersFor trees part) trees

/-! ## Texts -/

/-- A text as a type. -/
def typeOfText? (text : String) : Option Tree :=
  (Tree.ofText? text).bind (readAll? (.type true))

/-- A text as a path of a type. -/
def pathOfText? (text : String) : Option Tree :=
  (Tree.ofText? text).bind fun trees =>
    Read.all? (Grammar.path (readersFor trees) .inType) trees

/-- A text as a name. -/
def nameOfText? (text : String) : Option Tree :=
  (Tree.ofText? text).bind (Read.all? Read.name)

/-! ## Files -/

/-- A source file: the attributes of the file itself, and its items. -/
structure File where
  attributes : List Tree
  items : List Tree

namespace File

/-- The trees of a file. -/
def trees (file : File) : List Tree := file.attributes ++ file.items

/-- The file of source trees. -/
def ofTrees? (trees : List Tree) : Option File :=
  let self := readersFor trees
  Read.all? (do
    let attributes ← Grammar.enclosedAttributes self
    let items ← Read.repeatUntil atEnd (do return [← self .item])
    return ⟨attributes, items⟩) trees

/-- Whether the characters after `#!` are those of an attribute and not of an interpreter's name. -/
def opensAttribute : Nat → List Char → Bool
  | 0, _ => false
  | _ + 1, [] => false
  | steps + 1, c :: cs =>
    if isBlank c then opensAttribute steps cs
    else
      match scanPlainComment (c :: cs) with
      | some (_, rest) => opensAttribute steps rest
      | none => c = '['

/-- A source text without the line that names an interpreter; its line feed stays. -/
def dropInterpreter : List Char → List Char
  | '#' :: '!' :: rest =>
    if opensAttribute rest.length rest then '#' :: '!' :: rest
    else rest.dropWhile (· ≠ '\n')
  | cs => cs

/-- The file of a source text. -/
def ofText? (text : String) : Option File :=
  (Tree.ofChars? .start (Tree.dropByteOrderMark
    (dropInterpreter (Tree.dropByteOrderMark text.toList)))).bind ofTrees?

end File

end RecordMapper.Code
