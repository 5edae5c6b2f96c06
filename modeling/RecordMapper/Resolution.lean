/-
A path is resolved from the module it is written in, without regard to imports: `self` is that module,
`super` the one around it, `crate` the root. Types that name a declaration are changed to its full
identity, so that they can be compared and used from any module.
-/
import RecordMapper.Declaration

namespace RecordMapper

open Code

/-- Goes up a module for each `super` in front. The root has nothing above it. -/
def climb (modules : List String) : List String → Option (List String × List String)
  | "super" :: rest =>
    match modules.getLast? with
    | none => none
    | some "crate" => none
    | some _ => climb modules.dropLast rest
  | names => some (modules, names)

/-- The identity that a path names in the module `home`; none if it leads out of the scanned
modules. -/
def resolve (home : Home) (path : Tree) : Option Identity :=
  if path.leadingColons?.isSome then none
  else
    let names := path.pathNames
    let start := if names.head? = some "crate" then [] else home.names
    let names := if names.head? = some "self" then names.drop 1 else names
    (climb start names).map fun (modules, names) => .ofSegments (modules ++ names)

/-- The path of the declaration that a path names in the module `home`, with the arguments that the
last segment was written with. -/
def qualifiedPath? (declarations : List Declaration) (home : Home) (path : Tree) :
    Option Tree :=
  match resolve home path with
  | none => none
  | some identity =>
    match lookUp declarations identity with
    | none => none
    | some _ => (pathOfText? identity.text).map (·.withLastArguments path.lastArguments)

mutual

/-- A tree with the paths of its types replaced, inner ones first. A type that is a member of another
type is left alone. -/
def mapTypePaths (replace : Tree → Option Tree) : Tree → Tree
  | .token t span => .token t span
  | .group delimiter opening closing inner =>
    .group delimiter opening closing (mapTypePathsAll replace inner)
  | .node role parts =>
    match role, mapTypePathsAll replace parts with
    | .typePath, [path] => .node .typePath [(replace path).getD path]
    | role, parts => .node role parts

/-- Several trees with the paths of their types replaced. -/
def mapTypePathsAll (replace : Tree → Option Tree) : List Tree → List Tree
  | [] => []
  | tree :: rest => mapTypePaths replace tree :: mapTypePathsAll replace rest

end

/-- A type written in the module `home`, by full identities. -/
def qualifyType (declarations : List Declaration) (home : Home) (type : Tree) : Tree :=
  mapTypePaths (qualifiedPath? declarations home) type

end RecordMapper
