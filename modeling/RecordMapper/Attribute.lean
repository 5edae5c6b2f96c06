/-
A record asks for mapper functions by `#[mapper(Target, path::Target, ..)]`, also written with the
crate's name before it. The targets are plain paths: they neither start with `::` nor take arguments.
-/
import RecordMapper.Code.Grammar
import RecordMapper.Code.Path

namespace RecordMapper

open Code

/-- Something wrong in the source text, and where. -/
structure SourceError where
  message : String
  span : Span
  deriving DecidableEq, Repr

/-! ## Attributes -/

/-- What follows the path of an attribute. -/
inductive AttributeArguments where
  | none
  /-- Trees in a group, whose closing bracket is at `closing`. -/
  | list (closing : Span) (trees : List Tree)
  | value

/-- An attribute: its path, what follows it, and the span between its brackets. -/
structure Attribute where
  path : Tree
  arguments : AttributeArguments
  span : Span

namespace Attribute

/-- The attribute of the trees between its brackets. -/
def ofInside? (inside : List Tree) : Option Attribute :=
  let path : Read Tree := do
    if ← Read.sees (isWord "unsafe") then return .node .path [.node .segment [← Read.anyWord]]
    Grammar.plainPath
  match path inside with
  | none => none
  | some (path, rest) =>
    let arguments :=
      match rest with
      | [] => .none
      | .group _ _ closing inner :: _ => .list closing inner
      | _ => .value
    some ⟨path, arguments, Tree.spanOf inside⟩

/-- The attribute of a tree, if it is one that stands before what it belongs to. -/
def ofTree? : Tree → Option Attribute
  | .node (.attribute false) parts =>
    match parts.getLast? with
    | some (.group _ _ _ inside) => ofInside? inside
    | _ => none
  | _ => none

/-- Whether the attribute asks for mapper functions. -/
def isMapper (attr : Attribute) : Bool :=
  let names := attr.path.pathNames
  names = ["fieldmapper", "mapper"] ||
    (names = ["mapper"] && attr.path.leadingColons?.isNone)

end Attribute

/-! ## Target lists -/

/-- Where an error about the front of a list of trees is reported: the end of the list is at `stop`,
a group is represented by its opening bracket and a lifetime by its quote. -/
def frontSpan (stop : Span) : List Tree → Span
  | [] => stop
  | .token (.lifetime _) span :: _ => ⟨span.first, ⟨span.first.line, span.first.column + 1⟩⟩
  | .group _ opening _ _ :: _ => opening
  | tree :: _ => tree.span

/-- An error about the front of a list of trees that lacks something. -/
def expected (what : String) (stop : Span) (trees : List Tree) : SourceError :=
  let lead := if trees.isEmpty then "unexpected end of input, " else ""
  ⟨lead ++ "expected " ++ what, frontSpan stop trees⟩

/-- What a type can start with, as an error names it. -/
def typeStarts : String :=
  "one of: `for`, parentheses, `fn`, `unsafe`, `extern`, identifier, `::`, `<`, `dyn`, " ++
    "square brackets, `*`, `&`, `!`, `impl`, `_`, lifetime"

/-- Why arguments between angle brackets cannot be read, after the opening bracket and in at most
`limit` arguments. -/
def argumentsError (self : Readers) (stop : Span) : Nat → List Tree → SourceError
  | 0, trees => expected typeStarts stop trees
  | limit + 1, trees =>
    match self .genericArgument trees with
    | none => expected typeStarts stop trees
    | some (_, rest) =>
      if isOp "," rest then argumentsError self stop limit (rest.drop 1)
      else expected "`,`" stop rest

/-- Why a segment of a path cannot be read. -/
def segmentError (self : Readers) (stop : Span) (trees : List Tree) : SourceError :=
  match trees with
  | .token (.word name) span :: rest =>
    if isKeyword name && name != "Self" then
      ⟨"expected identifier, found keyword `" ++ name ++ "`", span⟩
    else
      let rest := if isOp "::" rest then rest.drop 2 else rest
      argumentsError self stop rest.length (rest.drop 1)
  | trees => expected "identifier" stop trees

/-- Why a path cannot be read, which has at most `limit` segments. -/
def pathError (self : Readers) (stop : Span) : Nat → List Tree → SourceError
  | 0, trees => segmentError self stop trees
  | limit + 1, trees =>
    match Grammar.segment self .inType trees with
    | some (_, rest) => pathError self stop limit (rest.drop 2)
    | none => segmentError self stop trees

/-- Reads a path from the front of a list of trees. -/
def readPath (self : Readers) (stop : Span) (trees : List Tree) :
    Except SourceError (Tree × List Tree) :=
  match Grammar.path self .inType trees with
  | some answer => .ok answer
  | none =>
    .error (pathError self stop trees.length (if isOp "::" trees then trees.drop 2 else trees))

/-- Reads paths with commas between them, and perhaps after the last; at most `limit` of them. -/
def readPaths (self : Readers) (stop : Span) : Nat → List Tree → Except SourceError (List Tree)
  | _, [] => .ok []
  | 0, trees => .error (expected "`,`" stop trees)
  | limit + 1, trees =>
    match readPath self stop trees with
    | .error error => .error error
    | .ok (path, []) => .ok [path]
    | .ok (path, rest) =>
      if isOp "," rest then (readPaths self stop limit (rest.drop 1)).map (path :: ·)
      else .error (expected "`,`" stop rest)

/-- Why a path cannot be a target: `::` at its start is named before arguments. -/
def targetError? (path : Tree) : Option SourceError :=
  match path.leadingColons? with
  | some colons => some ⟨"absolute paths are not supported as mapping targets", colons.span⟩
  | none =>
    match path.segments.find? (!·.segmentArguments.isEmpty) with
    | some segment =>
      some ⟨"generic arguments are not supported in mapping targets", segment.span⟩
    | none => none

/-- The targets that a list of trees names, which ends at `stop`. The whole list is read before any
of its paths is looked at. -/
def targetsOf (stop : Span) (trees : List Tree) : Except SourceError (List Tree) :=
  match readPaths (readersFor trees) stop trees.length trees with
  | .error error => .error error
  | .ok [] => .error (expected "at least one target type" stop [])
  | .ok paths =>
    match paths.findSome? targetError? with
    | some error => .error error
    | none => .ok paths

/-- The targets that an attribute names. -/
def Attribute.targets (attr : Attribute) : Except SourceError (List Tree) :=
  match attr.arguments with
  | .list closing trees => targetsOf closing trees
  | _ => .error ⟨"expected `#[mapper(Target, ..)]`", attr.span⟩

/-- The targets of a list that is a text of its own. -/
def targetsOfText (text : String) : Except SourceError (List Tree) :=
  match Tree.ofText? text with
  | some trees => targetsOf .none trees
  | none => .error ⟨"cannot parse string into token stream", .none⟩

/-- The attributes of a text that holds nothing else. -/
def attributesOfText? (text : String) : Option (List Attribute) :=
  (Tree.ofText? text).bind fun trees =>
    (Read.all? (Grammar.outerAttributes (readersFor trees)) trees).map
      (·.filterMap Attribute.ofTree?)

/-! ## Removing mapping attributes -/

/-- Whether a tree is an attribute that asks for mapper functions. -/
def isMapperTree (tree : Tree) : Bool :=
  match Attribute.ofTree? tree with
  | some attr => attr.isMapper
  | none => false

/-- Whether mapping attributes are removed from items of this kind. -/
def Code.ItemKind.losesMappers : ItemKind → Bool
  | .record | .enumeration | .union => true
  | _ => false

mutual

/-- A tree without the mapping attributes of its structs, enums and unions, wherever they stand. What
stands inside an attribute is left as it is. -/
def withoutMappers : Tree → Tree
  | .token t span => .token t span
  | .group delimiter opening closing inner =>
    .group delimiter opening closing (withoutMappersAll inner)
  | .node (.item kind) parts =>
    let parts := withoutMappersAll parts
    .node (.item kind) (if kind.losesMappers then parts.filter (!isMapperTree ·) else parts)
  | .node (.attribute inner) parts => .node (.attribute inner) parts
  | .node role parts => .node role (withoutMappersAll parts)

/-- Several trees without the mapping attributes of their structs, enums and unions. -/
def withoutMappersAll : List Tree → List Tree
  | [] => []
  | tree :: rest => withoutMappers tree :: withoutMappersAll rest

end

end RecordMapper
