/-
The functions of an origin become methods in an `impl` block. There are no default arguments, so a
parameter with a default is taken as an `Option`, and `None` is replaced by a clone of the receiver's
field before the record is built.
-/
import RecordMapper.Code.Grammar
import RecordMapper.MapperModule

namespace RecordMapper

open Code

/-- Why a module cannot be written as Rust. -/
inductive EmitError where
  | invalidPath (identity : Identity)
  | invalidType (type : TypeText)
  | invalidName (name : String)
  /-- The parts are valid and their assembly is not. -/
  | invalidOutput
  deriving DecidableEq, Repr

/-- The wording of an emission error. -/
def EmitError.message : EmitError → String
  | .invalidPath identity => "`" ++ identity.text ++ "` is not a valid Rust path"
  | .invalidType type => "`" ++ type.text ++ "` is not a valid Rust type"
  | .invalidName name => "`" ++ name ++ "` is not a valid Rust identifier"
  | .invalidOutput => "Generated code is invalid"

/-- An identity as a path. -/
def Identity.toPath (identity : Identity) : Except EmitError Tree :=
  match pathOfText? identity.text with
  | some path => .ok path
  | none => .error (.invalidPath identity)

/-- A type as source. -/
def TypeText.toType (type : TypeText) : Except EmitError Tree :=
  match typeOfText? type.text with
  | some tree => .ok tree
  | none => .error (.invalidType type)

/-- A field or parameter name as source. -/
def nameTree (name : String) : Except EmitError Tree :=
  match nameOfText? name with
  | some tree => .ok tree
  | none => .error (.invalidName name)

/-! ## Methods -/

/-- A parameter of a method. -/
structure MethodParameter where
  name : Tree
  type : Tree
  /-- The receiver's field that stands in for a missing argument; the argument is optional then. -/
  fallback? : Option Tree

/-- A field of the built record, with the variable that gives its value if its name differs. -/
structure MethodInit where
  field : Tree
  value? : Option Tree

/-- A mapper function whose names, types and paths are source trees. -/
structure Method where
  doc : String
  name : Tree
  parameters : List MethodParameter
  returns : Tree
  inits : List MethodInit

/-- The methods of an origin. -/
structure ImplBlock where
  origin : Tree
  methods : List Method

/-- The documentation of a mapper function. -/
def Mapper.doc (mapper : Mapper) : String :=
  " Maps this `" ++ mapper.receiver.simpleName ++ "` into a `" ++ mapper.returns.simpleName ++
    "`. Optional arguments left as `None` reuse the field of the same name."

/-- A parameter as source: its name, then its type, then the field of its default. -/
def Parameter.toSource (parameter : Parameter) : Except EmitError MethodParameter := do
  let name ← nameTree parameter.name
  let type ← parameter.ty.toType
  match parameter.default? with
  | none => .ok ⟨name, type, none⟩
  | some field => .ok ⟨name, type, some (← nameTree field)⟩

/-- A field of the built record as source. -/
def FieldInit.toSource (init : FieldInit) : Except EmitError MethodInit := do
  let field ← nameTree init.field
  if init.field = init.parameter then .ok ⟨field, none⟩
  else .ok ⟨field, some (← nameTree init.parameter)⟩

/-- A mapper function as source. The first part that is no Rust is reported: the name, the result,
the parameters in order, the fields in order. -/
def Mapper.toMethod (mapper : Mapper) : Except EmitError Method := do
  let name ← nameTree mapper.name
  let returns ← mapper.returns.toPath
  let parameters ← mapper.parameters.mapM Parameter.toSource
  let inits ← mapper.inits.mapM FieldInit.toSource
  .ok ⟨mapper.doc, name, parameters, returns, inits⟩

/-- A module as source; a module without functions is nothing. The origin's path is looked at before
the functions. -/
def MapperModule.toImpl? (module : MapperModule) : Except EmitError (Option ImplBlock) :=
  if module.isEmpty then .ok none
  else do
    let origin ← module.origin.toPath
    let methods ← module.functions.mapM Mapper.toMethod
    .ok (some ⟨origin, methods⟩)

/-! ## Tokens -/

/-- A word that no source text holds. -/
def wordTree (name : String) : Tree := .token (.word name) .none

/-- An operator that no source text holds. -/
def opTree (text : String) : Tree := .token (.punct text false) .none

/-- A group that no source text holds. -/
def groupTree (delimiter : Delimiter) (inner : List Tree) : Tree := .group delimiter .none .none inner

/-- A path from the root of all crates. -/
def rootedPath (names : List String) : List Tree :=
  names.flatMap fun name => [opTree "::", wordTree name]

/-- Trees with commas between them. -/
def commaSeparated (trees : List (List Tree)) : List Tree :=
  (trees.intersperse [opTree ","]).flatten

/-- An attribute. -/
def attributeTrees (inside : List Tree) : List Tree :=
  [opTree "#", groupTree .bracket inside]

namespace MethodParameter

/-- The type that callers see. -/
def seenType (parameter : MethodParameter) : List Tree :=
  match parameter.fallback? with
  | none => [parameter.type]
  | some _ => rootedPath ["core", "option", "Option"] ++ [opTree "<", parameter.type, opTree ">"]

/-- A parameter in the list of parameters. -/
def trees (parameter : MethodParameter) : List Tree :=
  parameter.name :: opTree ":" :: parameter.seenType

/-- The statement that replaces a missing argument. -/
def fallbackTrees (parameter : MethodParameter) : List Tree :=
  match parameter.fallback? with
  | none => []
  | some field =>
    [wordTree "let", parameter.name, opTree "=", parameter.name, opTree ".",
      wordTree "unwrap_or_else",
      groupTree .paren (opTree "||" :: rootedPath ["core", "clone", "Clone", "clone"] ++
        [groupTree .paren [opTree "&", wordTree "self", opTree ".", field]]),
      opTree ";"]

end MethodParameter

/-- A field in the built record. -/
def MethodInit.trees (init : MethodInit) : List Tree :=
  match init.value? with
  | none => [init.field]
  | some name => [init.field, opTree ":", name]

namespace Method

/-- What `allow` permits in a method. -/
def allowed : List Tree :=
  [wordTree "non_snake_case", opTree ",", wordTree "clippy", opTree "::",
    wordTree "too_many_arguments"]

/-- A method as source. -/
def trees (method : Method) : List Tree :=
  attributeTrees [wordTree "doc", opTree "=",
      .token (Tree.literalOfText method.doc.toList) .none] ++
    attributeTrees [wordTree "allow", groupTree .paren allowed] ++
    [wordTree "pub", wordTree "fn", method.name,
      groupTree .paren ([opTree "&", wordTree "self", opTree ","] ++
        commaSeparated (method.parameters.map MethodParameter.trees)),
      opTree "->", method.returns,
      groupTree .brace (method.parameters.flatMap MethodParameter.fallbackTrees ++
        [method.returns,
          groupTree .brace (commaSeparated (method.inits.map MethodInit.trees))])]

end Method

/-- An `impl` block as source. -/
def ImplBlock.trees (block : ImplBlock) : List Tree :=
  attributeTrees [wordTree "automatically_derived"] ++
    [wordTree "impl", block.origin, groupTree .brace (block.methods.flatMap Method.trees)]

/-- A module as source. -/
def MapperModule.trees (module : MapperModule) : Except EmitError (List Tree) := do
  match ← module.toImpl? with
  | none => .ok []
  | some block => .ok block.trees

/-- Modules as `impl` blocks; those without functions vanish. -/
def implBlocks (modules : List MapperModule) : Except EmitError (List ImplBlock) := do
  .ok ((← modules.mapM MapperModule.toImpl?).filterMap id)

end RecordMapper
