/-
Structs, enums, unions and type aliases are what a mapping may name. They are found in the items of a
file and of its modules, in the order in which they are written; what stands inside functions is not
looked at.
-/
import RecordMapper.Attribute
import RecordMapper.Identity

namespace RecordMapper

open Code

/-- The fields of a struct: named, in order, or none, or by position. -/
inductive RecordBody where
  | named (fields : List (String × Tree))
  | unit
  | positional

/-- What is declared. -/
inductive DeclarationKind where
  /-- A struct; `generic` if it has parameters. -/
  | record (generic : Bool) (body : RecordBody)
  | enumeration
  | union
  | alias

/-- The words for a kind that is not a struct. -/
def DeclarationKind.words : DeclarationKind → String
  | .record .. => "a struct"
  | .enumeration => "an enum"
  | .union => "a union"
  | .alias => "a type alias"

/-- Where items stand: the module that a scan starts in, and the modules that were walked into from there,
from the outside in. -/
structure Home where
  root : List String
  modules : List String
  deriving DecidableEq

namespace Home

/-- Where a scan starts. -/
def top (root : List String) : Home := ⟨root, []⟩

/-- The module of a name. -/
def inside (home : Home) (name : String) : Home := { home with modules := home.modules ++ [name] }

/-- The names of the modules from the outside in. -/
def names (home : Home) : List String := home.root ++ home.modules

@[simp] theorem names_top (root : List String) : (top root).names = root :=
  List.append_nil root

@[simp] theorem names_inside (home : Home) (name : String) :
    (home.inside name).names = home.names ++ [name] :=
  (List.append_assoc ..).symm

end Home

/-- A declared name. -/
structure Declaration where
  identity : Identity
  home : Home
  attributes : List Attribute
  nameSpan : Span
  kind : DeclarationKind

/-! ## Reading item nodes -/

/-- The declared name of an item or a field. -/
def declaredName? (parts : List Tree) : Option (String × Span) :=
  parts.findSome? fun part =>
    match part with
    | .node .name [.token (.word name) span] => some (name, span)
    | _ => none

/-- The name and the type of a field. -/
def fieldOfTree? : Tree → Option (String × Tree)
  | .node .field parts =>
    match declaredName? parts, parts.getLast? with
    | some (name, _), some type => some (name, type)
    | _, _ => none
  | _ => none

/-- The fields of a struct. -/
def recordBody (parts : List Tree) : RecordBody :=
  match parts.find? fun part => isGroup .brace [part] || isGroup .paren [part] with
  | some (.group .brace _ _ inner) => .named (inner.filterMap fieldOfTree?)
  | some _ => .positional
  | none => .unit

/-- Whether an item has parameters. -/
def isGeneric (parts : List Tree) : Bool :=
  parts.any fun part =>
    match part with
    | .node .generics _ => true
    | _ => false

/-- What an item of some kind declares. -/
def declarationKind? (kind : ItemKind) (parts : List Tree) : Option DeclarationKind :=
  match kind with
  | .record => some (.record (isGeneric parts) (recordBody parts))
  | .enumeration => some .enumeration
  | .union => some .union
  | .alias => some .alias
  | _ => none

/-- The declaration of an item in the module `home`. -/
def declarationOf? (home : Home) (kind : ItemKind) (parts : List Tree) :
    Option Declaration :=
  match declarationKind? kind parts, declaredName? parts with
  | some declared, some (name, span) => some {
      identity := .ofSegments (home.names ++ [name])
      home
      attributes := parts.filterMap Attribute.ofTree?
      nameSpan := span
      kind := declared }
  | _, _ => none

/-! ## Walking over items -/

mutual

/-- The declarations of an item in the module `home`. -/
def declarationsOf (home : Home) : Tree → List Declaration
  | .node (.item .module) parts =>
    match declaredName? parts with
    | some (name, _) => declarationsInBody (home.inside name) parts
    | none => []
  | .node (.item kind) parts => (declarationOf? home kind parts).toList
  | _ => []

/-- The declarations in the braces of a module. -/
def declarationsInBody (home : Home) : List Tree → List Declaration
  | [] => []
  | .group .brace _ _ inner :: rest => declarationsIn home inner ++ declarationsInBody home rest
  | _ :: rest => declarationsInBody home rest

/-- The declarations of several items in the module `home`. -/
def declarationsIn (home : Home) : List Tree → List Declaration
  | [] => []
  | tree :: rest => declarationsOf home tree ++ declarationsIn home rest

end

/-- The last declaration of an identity. -/
def lookUp (declarations : List Declaration) (identity : Identity) : Option Declaration :=
  declarations.reverse.find? (·.identity = identity)

end RecordMapper
