/-
Types and the bounds of type variables. A path with arguments in parentheses is a bound and no type.
-/
import RecordMapper.Code.Grammar.Path

namespace RecordMapper.Code.Grammar

open Read

/-! ## Bounds -/

/-- The lifetimes of `for<..>`. -/
def binder : Read Tree := do
  let forWord ← word "for"
  let opening ← op "<"
  let parameter : Read Tree := do
    let lifetime ← lifetime
    if ← sees (isOp ":") then
      let colon ← op ":"
      let stop := fun trees => isOp "," trees || isOp ">" trees
      let bounds ← separatedUntil stop "+" Read.lifetime
      return .node .phrase (lifetime :: (if bounds.isEmpty then [] else colon :: bounds))
    return lifetime
  let parameters ← separatedUntil (isOp ">") "," parameter
  let closing ← op ">"
  return .node .binder (forWord :: opening :: parameters ++ [closing])

/-- `for<..>` if it stands at the front. -/
def binderIf : Read (List Tree) := whenSees (isWord "for") binder

/-- The result type after an arrow, if there is one. -/
def resultType (self : Readers) (plus : Bool) : Read (List Tree) := do
  if ← sees (isOp "->") then return [← op "->", ← self (.type plus)]
  return []

/-- Types in parentheses and a result type, as the arguments of a trait of functions. -/
def callArguments (self : Readers) : Read Tree := do
  let colons ← opIf "::"
  let inputs ← group .paren (separatedUntil atEnd "," (self (.type true)))
  let result ← resultType self false
  return .node .callArguments (colons ++ inputs :: result)

/-- Gives the last segment of a path without arguments those of a trait of functions. -/
def withCallArguments (arguments : Tree) : List Tree → List Tree
  | [] => []
  | [.node .segment parts] => [.node .segment (parts ++ [arguments])]
  | part :: rest => part :: withCallArguments arguments rest

/-- Whether the last segment of a path has no arguments. -/
def endsPlain (parts : List Tree) : Bool :=
  match parts.getLast? with
  | some (.node .segment [_]) => true
  | _ => false

/-- The path of a bound. -/
def boundPath (self : Readers) : Read Tree := do
  let parts ← pathParts self .inType
  let seesCall := fun trees =>
    isGroup .paren trees || (isOp "::" trees && isGroup .paren (trees.drop 2))
  if endsPlain parts && (← sees seesCall) then
    return .node .path (withCallArguments (← callArguments self) parts)
  return .node .path parts

/-- A bound by a trait, outside of parentheses. -/
def traitBound (self : Readers) : Read (List Tree) := do
  let binder ← binderIf
  let constant ←
    if ← sees (isOp "~") then pure [← op "~", ← word "const"] else wordIf "const"
  let maybe ← opIf "?"
  let later ← if binder.isEmpty && !maybe.isEmpty then binderIf else pure []
  return binder ++ constant ++ maybe ++ later ++ [← boundPath self]

/-- One bound: a lifetime, captured parameters, or a trait, perhaps in parentheses. -/
def bound (self : Readers) : Read Tree := do
  if ← sees isLifetime then lifetime
  else if ← sees (isWord "use") then
    let useWord ← word "use"
    let opening ← op "<"
    let captured ← separatedUntil (isOp ">") "," (nextIf fun trees => isLifetime trees || isAnyWord trees)
    return .node .bound (useWord :: opening :: captured ++ [← op ">"])
  else if ← sees (isGroup .paren) then
    return .node .bound [← group .paren (traitBound self)]
  else return .node .bound (← traitBound self)

/-- Whether a further bound follows a `+`. -/
def seesBound (trees : List Tree) : Bool :=
  isAnyWord trees || isOp "::" trees || isOp "?" trees || isLifetime trees || isGroup .paren trees ||
    isOp "~" trees

/-- Bounds joined by `+` after `dyn` or `impl`; only one if not `plus`. -/
def boundList (self : Readers) (plus : Bool) : Read (List Tree) :=
  if plus then separatedWhile "+" seesBound (self .bound) else do return [← self .bound]

/-- Bounds joined by `+` up to where the front passes a test; there may be none. -/
def boundsUntil (self : Readers) (stop : List Tree → Bool) : Read (List Tree) :=
  separatedUntil stop "+" (self .bound)

/-- Whether one of several bounds is a trait. -/
def hasTrait (bounds : List Tree) : Bool :=
  bounds.any fun bound =>
    match bound with
    | .node .bound _ => true
    | _ => false

/-! ## Generic arguments -/

/-- A value as a generic argument: a literal or a block. -/
def constArgument (self : Readers) : Read Tree := do
  if ← sees isLiteral then return .node .constArgument [← literal]
  return .node .constArgument [← self .block]

/-- Whether a value stands at the front as a generic argument. -/
def seesConst (trees : List Tree) : Bool :=
  isLiteral trees || isGroup .brace trees

/-- The parts of a type that is a single name, perhaps with arguments between angle brackets. -/
def singleName? : Tree → Option (List Tree)
  | .node .typePath [.node .path [.node .segment parts]] => some parts
  | _ => none

/-- One argument between angle brackets. -/
def genericArgument (self : Readers) : Read Tree := do
  let loneLifetime := fun (trees : List Tree) => isLifetime trees && !isOp "+" (trees.drop 1)
  if ← sees loneLifetime then lifetime
  else if ← sees seesConst then constArgument self
  else
    let type ← self (.type true)
    match singleName? type with
    | none => return type
    | some named =>
      if ← sees (isOp "=") then
        let equals ← op "="
        let value ← if ← sees seesConst then constArgument self else self (.type true)
        return .node .assocArgument (named ++ [equals, value])
      else if ← sees (isOp ":") then
        let colon ← op ":"
        let stop := fun trees => isOp "," trees || isOp ">" trees
        let bounds ← boundsUntil self stop
        return .node .boundArgument (named ++ colon :: bounds)
      else return type

/-! ## Types -/

/-- The tokens after the name of a macro: `!` and a group. -/
def macroTail : Read (List Tree) := do
  return [← op "!", ← anyGroup]

/-- Whether a macro's `!` follows. -/
def seesBang (trees : List Tree) : Bool :=
  isOp "!" trees && !isOp "!=" trees

/-- The name of a foreign calling convention. -/
def callingConvention : Read (List Tree) := do
  let external ← word "extern"
  let isText : List Tree → Bool := fun trees =>
    match trees with
    | .token (.literal .text _) _ :: _ => true
    | _ => false
  return external :: (← whenSees isText next)

/-- Attributes before something, each as it stands. -/
def attributes : Read (List Tree) :=
  repeatWhile (isOp "#") do
    let hash ← op "#"
    return [.node (.attribute false) [hash, ← nextIf (isGroup .bracket)]]

/-- A parameter of a function type. -/
def functionTypeParameter (self : Readers) : Read Tree := do
  let attributes ← attributes
  if ← sees (isOp "...") then
    return .node .functionTypeParameter (attributes ++ [← op "..."])
  let named := fun (trees : List Tree) =>
    (isName trees || isWordOf ["_", "self"] trees) && isOp ":" (trees.drop 1) &&
      !isOp "::" (trees.drop 1)
  let label ← if ← sees named then pure [← anyWord, ← op ":"] else pure []
  if ← sees (isOp "...") then
    return .node .functionTypeParameter (attributes ++ label ++ [← op "..."])
  return .node .functionTypeParameter (attributes ++ label ++ [← self (.type true)])

/-- A function type without its binder. -/
def functionType (self : Readers) : Read (List Tree) := do
  let isUnsafe ← wordIf "unsafe"
  let convention ← if ← sees (isWord "extern") then callingConvention else pure []
  let fnWord ← word "fn"
  let inputs ← group .paren (separatedUntil atEnd "," (functionTypeParameter self))
  let result ← resultType self false
  return isUnsafe ++ convention ++ fnWord :: inputs :: result

/-- What stands in parentheses as a type: a tuple, or a type or a bound on its own. -/
def parenthesized (self : Readers) : Read (Role × List Tree) := do
  if ← sees atEnd then return (.tuple, [])
  if ← sees isLifetime then
    let bounds ← boundList self true
    if hasTrait bounds then return (.paren, [.node .bounds bounds]) else fail
  if ← sees (isOp "?") then return (.bound, ← traitBound self)
  let first ← self (.type true)
  if ← sees (isOp ",") then
    let comma ← op ","
    let rest ← separatedUntil atEnd "," (self (.type true))
    return (.tuple, first :: comma :: rest)
  return (.paren, [first])

/-- The path of a type on its own, or a single bound, as a bound in parentheses. -/
def asBound? : Tree → Option (List Tree)
  | .node .typePath [path] => some [path]
  | .node .bounds [.node .bound parts] => some parts
  | _ => none

/-- A type that starts with a parenthesis. -/
def parenType (self : Readers) (plus : Bool) : Read Tree := fun trees =>
  match trees with
  | .group .paren opening closing inner :: rest =>
    match parenthesized self inner with
    | some ((role, parts), []) =>
      let group : Tree := .group .paren opening closing parts
      let furtherBounds : Read (List Tree) := do
        return (← op "+") :: (← boundList self true)
      match role with
      | .bound =>
        if isOp "+" rest then
          (furtherBounds rest).map fun (more, rest) =>
            (.node .bounds (.node .bound [group] :: more), rest)
        else some (.node .bounds [.node .bound [group]], rest)
      | .paren =>
        match plus && isOp "+" rest, parts.head?.bind asBound? with
        | true, some bound =>
          let group : Tree := .group .paren opening closing bound
          (furtherBounds rest).map fun (more, rest) =>
            (.node .bounds (.node .bound [group] :: more), rest)
        | _, _ => some (.node .paren [group], rest)
      | role => some (.node role [group], rest)
    | _ => none
  | _ => none

/-- A type that starts with a path. -/
def pathType (self : Readers) (plus : Bool) (binder : List Tree) : Read Tree := do
  match ← qualifiedPath self .inType with
  | [path] =>
    if isPlainPath path && (← sees seesBang) then
      return .node .macroCall (path :: (← macroTail))
    else if !binder.isEmpty || (plus && (← sees (isOp "+"))) then
      let first : Tree := .node .bound (binder ++ [path])
      if plus && (← sees (isOp "+")) then
        let operator ← op "+"
        let more ← if ← sees seesBound then boundList self true else pure []
        return .node .bounds (first :: operator :: more)
      return .node .bounds [first]
    else return .node .typePath [path]
  | parts => return .node .typePath parts

/-- A type in brackets. -/
def bracketType (self : Readers) : Read Tree := fun trees =>
  match trees with
  | .group .bracket opening closing inner :: rest =>
    let inside : Read (Role × List Tree) := do
      let element ← self (.type true)
      if ← sees (isOp ";") then
        return (.array, [element, ← op ";", ← self (.expression true)])
      return (.slice, [element])
    match inside inner with
    | some ((role, parts), []) => some (.node role [.group .bracket opening closing parts], rest)
    | _ => none
  | _ => none

/-- Whether a path that may start a type stands at the front. -/
def seesTypePath (trees : List Tree) : Bool :=
  isName trees || isWordOf ["super", "self", "Self", "crate"] trees || isOp "::" trees ||
    isOp "<" trees

/-- A type. -/
def type (self : Readers) (plus : Bool) : Read Tree := do
  let seesFunction := isWordOf ["fn", "unsafe", "extern"]
  if ← sees (isWord "for") then
    let binder ← binder
    if ← sees seesFunction then
      return .node .functionType (binder :: (← functionType self))
    if ← sees (fun trees => isName trees || isWordOf ["super", "self", "Self", "crate"] trees) then
      return ← pathType self plus [binder]
    fail
  else if ← sees (isGroup .paren) then parenType self plus
  else if ← sees seesFunction then return .node .functionType (← functionType self)
  else if ← sees seesTypePath then pathType self plus []
  else if ← sees (isWord "dyn") then
    let dynWord ← word "dyn"
    let bounds ← boundList self plus
    if hasTrait bounds then return .node .bounds (dynWord :: bounds) else fail
  else if ← sees (isGroup .bracket) then bracketType self
  else if ← sees (isOp "*") then
    let star ← op "*"
    let mutability ← if ← sees (isWord "const") then word "const" else word "mut"
    return .node .pointer [star, mutability, ← self (.type false)]
  else if ← sees (isOp "&") then
    let ampersand ← op "&"
    let lifetime ← whenSees isLifetime lifetime
    let mutability ← wordIf "mut"
    return .node .reference (ampersand :: lifetime ++ mutability ++ [← self (.type false)])
  else if ← sees (fun trees => isOp "!" trees && !isOp "!=" trees) then op "!"
  else if ← sees (isWord "impl") then
    let implWord ← word "impl"
    let bounds ← boundList self plus
    if hasTrait bounds then return .node .bounds (implWord :: bounds) else fail
  else if ← sees (isWord "_") then word "_"
  else if ← sees isLifetime then
    let bounds ← boundList self plus
    if hasTrait bounds then return .node .bounds bounds else fail
  else fail

end RecordMapper.Code.Grammar
