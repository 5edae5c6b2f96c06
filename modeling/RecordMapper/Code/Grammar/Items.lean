/-
Structs, enums, unions, type aliases and modules get roles of their own; other items are read for
what they contain. Some forms are checked and then kept as they are written, so that nothing inside
them is told apart: an item without a meaning of its own, such as a function without a body, may be
what a macro wants to see.
-/
import RecordMapper.Code.Grammar.Values

namespace RecordMapper.Code.Grammar

open Read

/-! ## Attributes and visibility -/

/-- What an attribute says, after its path. -/
inductive AttributeBody where
  | none
  | list (opening closing : Span) (arguments : List Tree)
  | value (value : List Tree)

/-- The path of an attribute and what follows it. Only whole attributes are read. -/
def attributeMeta (self : Readers) : Read (Tree × AttributeBody) := do
  let path ←
    if ← sees (isWord "unsafe") then pure (.node .path [.node .segment [← anyWord]]) else plainPath
  match ← get with
  | .group _ opening closing inner :: rest =>
    set rest
    return (path, .list opening closing inner)
  | trees =>
    if isOp "=" trees && !isOp "==" trees && !isOp "=>" trees then
      let equals ← op "="
      return (path, .value [equals, ← self (.expression true)])
    return (path, .none)

/-- Whether the inside of an attribute's brackets can be read. -/
def isAttribute (self : Readers) : Tree → Bool
  | .node (.attribute _) parts =>
    match parts.getLast? with
    | some (.group _ _ _ inner) => (all? (attributeMeta self) inner).isSome
    | _ => false
  | _ => true

/-- Attributes before something, checked. -/
def outerAttributes (self : Readers) : Read (List Tree) := do
  let found ← attributes
  if found.all (isAttribute self) then return found else fail

/-- Attributes of what encloses them, checked. -/
def enclosedAttributes (self : Readers) : Read (List Tree) := do
  let found ← innerAttributes
  if found.all (isAttribute self) then return found else fail

/-- Whether the inside of parentheses restricts a visibility. -/
def restrictsVisibility (inner : List Tree) : Bool :=
  match inner with
  | [_] => isWordOf ["crate", "self", "super"] inner
  | _ => isWord "in" inner

/-- Who may use an item: nothing, `pub`, or `pub` with a restriction. -/
def visibility : Read (List Tree) := do
  if ← sees (isWord "pub") then
    let pubWord ← word "pub"
    match ← get with
    | .group .paren opening closing inner :: rest =>
      if restrictsVisibility inner then
        set rest
        if isWord "in" inner && (all? plainPath (inner.drop 1)).isNone then fail
        return [.node .phrase [pubWord, .group .paren opening closing inner]]
      return [.node .phrase [pubWord]]
    | _ => return [.node .phrase [pubWord]]
  return []

/-- The name that an item declares. -/
def declaredName : Read Tree := do
  return .node .name [← name]

/-! ## Generic parameters -/

/-- A parameter of a generic item. -/
def genericParameter (self : Readers) : Read Tree := do
  let attributes ← outerAttributes self
  let stop := fun trees => isOp "," trees || isOp ">" trees || isOp "=" trees
  if ← sees isLifetime then
    let lifetime ← lifetime
    let bounds ←
      if ← sees (isOp ":") then
        let colon ← op ":"
        let bounds ← separatedUntil stop "+" Read.lifetime
        pure (if bounds.isEmpty then [] else colon :: bounds)
      else pure []
    if attributes.isEmpty && bounds.isEmpty then return lifetime
    return .node .phrase (attributes ++ lifetime :: bounds)
  else if ← sees (isWord "const") then
    let constWord ← word "const"
    let name ← name
    let colon ← op ":"
    let type ← self (.type true)
    let default ←
      if ← sees (isOp "=") then
        let equals ← op "="
        pure [equals, ← if ← sees isName then Read.name else constArgument self]
      else pure []
    return .node .phrase (attributes ++ constWord :: name :: colon :: type :: default)
  else
    let name ← if ← sees (isWord "_") then anyWord else name
    let bounds ←
      if ← sees (isOp ":") then
        let colon ← op ":"
        let bounds ← boundsUntil self stop
        pure (if bounds.isEmpty then [] else colon :: bounds)
      else pure []
    let default ←
      if ← sees (isOp "=") then pure [← op "=", ← self (.type true)] else pure []
    return .node .phrase (attributes ++ name :: bounds ++ default)

/-- Parameters between angle brackets, lifetimes first; nothing if there are none. -/
def generics (self : Readers) : Read (List Tree) := do
  if ← sees (isOp "<") then
    let opening ← op "<"
    let parameters ← argumentsAtMost (genericParameter self) ((← get).length + 1)
    let closing ← op ">"
    if parameters.isEmpty then return []
    return [.node .generics (opening :: lifetimesFirst parameters ++ [closing])]
  return []

/-- What ends the conditions of a generic item. -/
def endsConditions (trees : List Tree) : Bool :=
  atEnd trees || isGroup .brace trees || isOp "," trees || isOp ";" trees ||
    (isOp ":" trees && !isOp "::" trees) || isOp "=" trees

/-- One condition on the parameters of a generic item. -/
def condition (self : Readers) : Read Tree := do
  let lifetimeFirst := fun (trees : List Tree) => isLifetime trees && isOp ":" (trees.drop 1)
  if ← sees lifetimeFirst then
    let lifetime ← lifetime
    let colon ← op ":"
    let bounds ← separatedUntil endsConditions "+" Read.lifetime
    return .node .phrase (lifetime :: colon :: bounds)
  let binder ← binderIf
  let type ← self (.type true)
  let colon ← op ":"
  return .node .phrase (binder ++ type :: colon :: (← boundsUntil self endsConditions))

/-- The conditions after `where`; nothing if there are none. -/
def conditions (self : Readers) : Read (List Tree) := do
  if ← sees (isWord "where") then
    let whereWord ← word "where"
    if ← sees endsConditions then return []
    let more := fun trees => !endsConditions trees
    return [.node .phrase (whereWord :: (← separatedWhile "," more (condition self)))]
  return []

/-! ## Records, enums and unions -/

/-- A field with a name. The name may be `_`, and then the type may be a nameless record. -/
def namedField (self : Readers) : Read Tree := do
  let attributes ← outerAttributes self
  let visibility ← visibility
  let unnamed ← sees (isWord "_")
  let name ← if unnamed then anyWord else name
  let colon ← op ":"
  let nameless := fun (trees : List Tree) =>
    isWord "struct" trees || (isWord "union" trees && isGroup .brace (trees.drop 1))
  let type ←
    if unnamed && (← sees nameless) then
      pure (.node .phrase [← anyWord, ← nextIf (isGroup .brace)])
    else self (.type true)
  return .node .field (attributes ++ visibility ++ [.node .name [name], colon, type])

/-- Fields with names, in braces. -/
def namedFields (self : Readers) : Read Tree :=
  group .brace (separatedUntil atEnd "," (namedField self))

/-- A field without a name. -/
def positionalField (self : Readers) : Read Tree := do
  let attributes ← outerAttributes self
  let visibility ← visibility
  return .node .phrase (attributes ++ visibility ++ [← self (.type true)])

/-- Fields without names, in parentheses. -/
def positionalFields (self : Readers) : Read Tree :=
  group .paren (separatedUntil atEnd "," (positionalField self))

/-- What follows the name and parameters of a record. -/
def recordBody (self : Readers) : Read (List Tree) := do
  let before ← conditions self
  if before.isEmpty && (← sees (isGroup .paren)) then
    let fields ← positionalFields self
    let after ← conditions self
    return fields :: after ++ [← op ";"]
  else if ← sees (isGroup .brace) then return before ++ [← namedFields self]
  else return before ++ [← op ";"]

/-- A variant of an enum. It may be written with a visibility, which says nothing. -/
def variant (self : Readers) : Read Tree := do
  let attributes ← outerAttributes self
  let _ ← visibility
  let name ← name
  let fields ←
    if ← sees (isGroup .brace) then pure [← namedFields self]
    else if ← sees (isGroup .paren) then pure [← positionalFields self]
    else pure []
  let number ←
    if ← sees (isOp "=") then pure [← op "=", ← self (.expression true)] else pure []
  return .node .phrase (attributes ++ name :: fields ++ number)

/-! ## Functions -/

/-- What may stand before `fn`; a `safe` only if `safe`. -/
def functionQualifiers (safe : Bool) : Read (List Tree) := do
  let constant ← wordIf "const"
  let isAsync ← wordIf "async"
  let safety ← whenSees (fun trees => isWord "unsafe" trees || (safe && isWord "safe" trees)) anyWord
  let convention ← if ← sees (isWord "extern") then callingConvention else pure []
  return constant ++ isAsync ++ safety ++ convention

/-- Whether a function follows. -/
def seesFunction (safe : Bool) (trees : List Tree) : Bool :=
  match functionQualifiers safe trees with
  | some (_, rest) => isWord "fn" rest
  | none => false

/-- Whether a receiver follows, perhaps after attributes: `self`, perhaps by reference. -/
def seesReceiver (trees : List Tree) : Bool :=
  let trees := afterAttributes trees
  let trees := if isOp "&" trees then trees.drop 1 else trees
  let trees := if isLifetime trees then trees.drop 1 else trees
  let trees := if isWord "mut" trees then trees.drop 1 else trees
  isWord "self" trees && !isOp "::" (trees.drop 1)

/-- The receiver of a method. -/
def receiver (self : Readers) : Read Tree := do
  let attributes ← outerAttributes self
  let ampersand ← opIf "&"
  let lifetime ← whenSees isLifetime lifetime
  let mutability ← wordIf "mut"
  let selfWord ← word "self"
  let type ←
    if ampersand.isEmpty && (← sees (isOp ":")) then pure [← op ":", ← self (.type true)]
    else pure []
  return .node .phrase (attributes ++ ampersand ++ lifetime ++ mutability ++ selfWord :: type)

/-- The dots of further parameters, which only a comma may follow. -/
def furtherParameters : Read Tree := do
  let dots ← op "..."
  if ← sees fun trees => atEnd trees || (isOp "," trees && trees.length = 1) then return dots
  else fail

/-- A parameter of a function. A type with arguments may stand alone, as that of a parameter without
a name. -/
def parameter (self : Readers) : Read Tree := do
  if ← sees seesReceiver then fail
  let attributes ← outerAttributes self
  if ← sees (isOp "...") then return .node .phrase (attributes ++ [← furtherParameters])
  if ← sees fun trees => isName trees && isOp "<" (trees.drop 1) then
    let type ← self (.type true)
    let unnamed : List Tree := [.token (.word "_") .none, .token (.punct ":" false) .none]
    return .node .phrase (attributes ++ unnamed ++ [type])
  let shape ← singlePattern self
  let colon ← op ":"
  let type ← if ← sees (isOp "...") then furtherParameters else self (.type true)
  return .node .phrase (attributes ++ [shape, colon, type])

/-- The parameters of a function, of which only the first may be a receiver. -/
def parameters (self : Readers) : Read (List Tree) := do
  if ← sees seesReceiver then
    let receiver ← receiver self
    if ← sees atEnd then return [receiver]
    let comma ← op ","
    return receiver :: comma :: (← separatedUntil atEnd "," (parameter self))
  separatedUntil atEnd "," (parameter self)

/-- A function up to its body. -/
def signature (self : Readers) (safe : Bool) : Read (List Tree) := do
  let qualifiers ← functionQualifiers safe
  let fnWord ← word "fn"
  let name ← declaredName
  let generics ← generics self
  let parameters ← group .paren (parameters self)
  let result ← resultType self true
  return qualifiers ++ fnWord :: name :: generics ++ parameters :: result ++ (← conditions self)

/-- A function; there is no reading of one without a body. -/
def function (self : Readers) : Read (Option (List Tree)) := do
  let signature ← signature self false
  if ← sees (isOp ";") then
    let _ ← op ";"
    return none
  return some (signature ++ [← self .block])

/-! ## Constants and types -/

/-- The value after `=`, if there is one. -/
def valueIf (self : Readers) : Read (List Tree) := do
  if ← sees (isOp "=") then return [← op "=", ← self (.expression true)]
  return []

/-- A constant. There is no reading of one that has parameters or conditions, or lacks a value that it
needs. -/
def constant (self : Readers) (needsValue : Bool) : Read (Option (List Tree)) := do
  let constWord ← word "const"
  let name ← nextIf fun trees => isName trees || isWord "_" trees
  let hasParameters ← sees (isOp "<")
  let _ ← generics self
  let colon ← op ":"
  let type ← self (.type true)
  let value ← valueIf self
  let hasConditions ← sees (isWord "where")
  let _ ← conditions self
  let stop ← op ";"
  if hasParameters || hasConditions || (needsValue && value.isEmpty) then return none
  return some (constWord :: name :: colon :: type :: value ++ [stop])

/-- A static. There is no reading of one without a type or without a value. -/
def staticItem (self : Readers) : Read (Option (List Tree)) := do
  let staticWord ← word "static"
  let mutability ← wordIf "mut"
  let name ← declaredName
  let type ← if ← sees (isOp ":") then pure [← op ":", ← self (.type true)] else pure []
  let value ←
    if type.isEmpty || !(← sees (isOp ";")) then pure [← op "=", ← self (.expression true)]
    else pure []
  let stop ← op ";"
  if type.isEmpty || value.isEmpty then return none
  return some (staticWord :: mutability ++ name :: type ++ value ++ [stop])

/-- Where the conditions of a type alias may stand. -/
inductive ConditionsPlace where
  | beforeType
  | afterType
  | either
  deriving DecidableEq

/-- A type alias as it is read. -/
structure TypeAlias where
  parts : List Tree
  /-- Whether there is a colon for bounds. -/
  isBounded : Bool
  hasType : Bool

/-- The bounds of a type alias; nothing if there are none. -/
def aliasBounds (self : Readers) : Read (List Tree) := do
  if ← sees (isOp ":") then
    let colon ← op ":"
    let bounds ← boundsUntil self fun trees =>
      isWord "where" trees || isOp "=" trees || isOp ";" trees
    return if bounds.isEmpty then [] else colon :: bounds
  return []

/-- The type after `=`, if there is one. -/
def typeIf (self : Readers) : Read (List Tree) := do
  if ← sees (isOp "=") then return [← op "=", ← self (.type true)]
  return []

/-- A type alias, with or without bounds and a type. -/
def typeAlias (self : Readers) (place : ConditionsPlace) : Read TypeAlias := do
  let typeWord ← word "type"
  let name ← declaredName
  let generics ← generics self
  let isBounded ← sees (isOp ":")
  let bounds ← aliasBounds self
  let early ← sees fun trees => place ≠ .afterType && isWord "where" trees
  let before ← if early then conditions self else pure []
  let type ← typeIf self
  let after ← if early || place = .beforeType then pure [] else conditions self
  let stop ← op ";"
  return {
    parts := typeWord :: name :: generics ++ bounds ++ before ++ type ++ after ++ [stop]
    isBounded
    hasType := !type.isEmpty }

/-! ## What a `use` names -/

/-- What a `use` names. -/
def useTree (self : Readers) (roots : Bool) : Read Tree := do
  if ← sees (isOp "*") then return .node .phrase [← op "*"]
  if ← sees (isGroup .brace) then
    let part : Read Tree := do
      if ← sees fun trees => roots && isOp "::" trees then
        return .node .phrase [← op "::", ← self (.useTree false)]
      self (.useTree roots)
    return ← group .brace (separatedUntil atEnd "," part)
  let seesStart := fun trees => isName trees || isWordOf ["self", "super", "crate", "try"] trees
  let first ← nextIf seesStart
  if ← sees (isOp "::") then
    return .node .phrase [first, ← op "::", ← self (.useTree false)]
  if ← sees (isWord "as") then
    let asWord ← word "as"
    return .node .phrase [first, asWord, ← nextIf fun trees => isName trees || isWord "_" trees]
  return .node .phrase [first]

mutual

/-- Whether something in the braces of a `use` starts at the root. -/
def startsAtRoot : Tree → Bool
  | .node .phrase (.token (.punct "::" _) _ :: _) => true
  | .group _ _ _ inner => startsAtRootAny inner
  | _ => false

/-- Whether one of several parts of a `use` starts at the root. -/
def startsAtRootAny : List Tree → Bool
  | [] => false
  | tree :: rest => startsAtRoot tree || startsAtRootAny rest

end

/-- A `use`. There is no reading of one in whose braces something starts at the root. -/
def useItem (self : Readers) : Read (Option (List Tree)) := do
  let useWord ← word "use"
  let lead ← opIf "::"
  let named ← self (.useTree lead.isEmpty)
  let stop ← op ";"
  if startsAtRoot named then return none
  return some (useWord :: lead ++ [named, stop])

/-! ## Macro calls -/

/-- Whether a macro call follows in the place of an item. -/
def seesMacroCall (trees : List Tree) : Bool :=
  isName trees || isWordOf ["self", "super", "crate"] trees || isOp "::" trees

/-- A macro call in the place of an item or, if not `named`, of a member, which declares no name. -/
def macroItem (named : Bool) : Read (List Tree) := do
  if !(← sees seesMacroCall) then fail
  let path ← plainPath
  let bang ← op "!"
  let name ← whenSees (fun trees => named && (isName trees || isWord "try" trees)) anyWord
  let body ← anyGroup
  let stop ← if isGroup .brace [body] then pure [] else pure [← op ";"]
  return path :: bang :: name ++ body :: stop

/-- The definition of a macro by parameters and a body, which are not looked into. -/
def macroDefinition : Read Unit := do
  let _ ← word "macro"
  let _ ← name
  let _ ← whenSees (isGroup .paren) next
  let _ ← nextIf (isGroup .brace)

/-! ## Members -/

/-- What stands in the braces of an item: parts, after the attributes that enclose them. -/
def braced (self : Readers) (part : Read Tree) : Read Tree :=
  group .brace do
    let attributes ← enclosedAttributes self
    return attributes ++ (← repeatUntil atEnd (do return [← part]))

/-- A member of an item, after attributes and what else stands in front. `body` is told whether nothing
else does. -/
def memberItem (self : Readers) (front : Read (List Tree)) (body : Bool → Read (Option (List Tree))) :
    Read Tree :=
  orWritten .phrase do
    let attributes ← outerAttributes self
    let front ← front
    let parts? ← body front.isEmpty
    return parts?.map fun parts => .node .phrase (attributes ++ front ++ parts)

/-- A member of an implementation: a function, a constant, a type or a macro call. -/
def implementationMember (self : Readers) : Read Tree :=
  let front : Read (List Tree) := do
    let visibility ← visibility
    let isDefault := fun trees => isWord "default" trees && !isOp "!" (trees.drop 1)
    return visibility ++ (← whenSees isDefault anyWord)
  memberItem self front fun alone => do
    let trees ← get
    if seesFunction false trees then function self
    else if isWord "const" trees then constant self true
    else if isWord "type" trees then
      let type ← typeAlias self .afterType
      return if type.isBounded || !type.hasType then none else some type.parts
    else if alone then return some (← macroItem false)
    else fail

/-- A member of a trait. There is no reading of one with a visibility or a `default`. -/
def traitMember (self : Readers) : Read Tree :=
  let front : Read (List Tree) := do return (← visibility) ++ (← wordIf "default")
  memberItem self front fun alone => do
    let trees ← get
    let parts? ←
      if seesFunction false trees then
        let signature ← signature self false
        let body ← if ← sees (isOp ";") then op ";" else self .block
        pure (some (signature ++ [body]))
      else if isWord "const" trees then constant self false
      else if isWord "type" trees then pure (some (← typeAlias self .afterType).parts)
      else if alone then pure (some (← macroItem false))
      else fail
    return if alone then parts? else none

/-- A member of a foreign module. There is no reading of one with a `safe`, a body, a value or a type of
its own. -/
def foreignMember (self : Readers) : Read Tree :=
  memberItem self visibility fun alone => do
    let trees ← get
    let safety := isWordOf ["unsafe", "safe"]
    if seesFunction true trees then
      let signature ← signature self true
      let hasBody ← sees (isGroup .brace)
      let body ← if hasBody then self .block else op ";"
      let isSafe := signature.any fun part => isWord "safe" [part]
      return if hasBody || isSafe then none else some (signature ++ [body])
    else if isWord "static" trees || (safety trees && isWord "static" (trees.drop 1)) then
      let safety ← whenSees safety anyWord
      let staticWord ← word "static"
      let mutability ← wordIf "mut"
      let name ← declaredName
      let colon ← op ":"
      let type ← self (.type true)
      let value ← valueIf self
      let stop ← op ";"
      return if safety.isEmpty && value.isEmpty then
        some (staticWord :: mutability ++ [name, colon, type, stop])
      else none
    else if isWord "type" trees then
      let type ← typeAlias self .either
      return if type.isBounded || type.hasType then none else some type.parts
    else if alone then return some (← macroItem false)
    else fail

/-! ## Items with members -/

/-- A foreign module. -/
def foreignModule (self : Readers) : Read (List Tree) := do
  let isUnsafe ← wordIf "unsafe"
  let convention ← callingConvention
  return isUnsafe ++ convention ++ [← braced self (foreignMember self)]

/-- Whether the parameters of an implementation follow. -/
def seesImplParameters (trees : List Tree) : Bool :=
  let second := trees.drop 1
  let third := trees.drop 2
  isOp "<" trees && (isOp ">" second || isOp "#" second || isWord "const" second ||
    ((isName second || isLifetime second) &&
      (isOp ":" third || isOp "," third || isOp ">" third || isOp "=" third)))

/-- A `const` before what is implemented. -/
def implConst : Read (List Tree) := do
  if ← sees fun trees => isWord "const" trees || (isOp "?" trees && isWord "const" (trees.drop 1)) then
    return (← opIf "?") ++ [← word "const"]
  return []

/-- The first type of an implementation, perhaps negated. -/
def subject (self : Readers) : Read (List Tree) := do
  let negative ← whenSees (fun trees => isOp "!" trees && !isGroup .brace (trees.drop 1)) (op "!")
  return negative ++ [← self (.type true)]

/-- Whether the first type of an implementation may be that of a trait: it is a path. -/
def mayBeTrait (subject : List Tree) : Bool :=
  match subject.getLast? with
  | some (.node .typePath [_]) => true
  | _ => false

/-- An implementation. There is no reading of one with a visibility or a `const`, or of no trait for a
type; and what is negated without being a trait is kept as it is written. -/
def implementation (self : Readers) (isPublic : Bool) : Read (Option (List Tree)) := do
  let isDefault ← wordIf "default"
  let isUnsafe ← wordIf "unsafe"
  let implWord ← word "impl"
  let generics ← if ← sees seesImplParameters then generics self else pure []
  let constant ← implConst
  let subject ← written (subject self)
  let forType ←
    if ← sees (isWord "for") then pure [← word "for", ← self (.type true)] else pure []
  let conditions ← conditions self
  let members ← braced self (implementationMember self)
  if isPublic || !constant.isEmpty || (!forType.isEmpty && !mayBeTrait subject.1) then return none
  let implemented := if forType.isEmpty && subject.1.length = 2 then subject.2 else subject.1
  return some (isDefault ++ isUnsafe ++ implWord :: generics ++ implemented ++ forType ++ conditions ++
    [members])

/-- A trait, or a name for bounds. -/
def traitItem (self : Readers) : Read (List Tree) := do
  let isUnsafe ← wordIf "unsafe"
  let isAuto ← wordIf "auto"
  let traitWord ← word "trait"
  let name ← declaredName
  let generics ← generics self
  let front := isUnsafe ++ isAuto ++ traitWord :: name :: generics
  let mayBeName := isUnsafe.isEmpty && isAuto.isEmpty
  if ← sees fun trees => mayBeName && isOp "=" trees then
    let equals ← op "="
    let bounds ← boundsUntil self fun trees => isWord "where" trees || isOp ";" trees
    let conditions ← conditions self
    return front ++ equals :: bounds ++ conditions ++ [← op ";"]
  let bounds ←
    if ← sees (isOp ":") then
      let colon ← op ":"
      let bounds ← boundsUntil self fun trees => isWord "where" trees || isGroup .brace trees
      pure (if bounds.isEmpty then [] else colon :: bounds)
    else pure []
  let conditions ← conditions self
  return front ++ bounds ++ conditions ++ [← braced self (traitMember self)]

/-! ## Items -/

/-- A module: with its items, or a reference to another file. -/
def moduleItem (self : Readers) : Read (ItemKind × List Tree) := do
  let isUnsafe ← wordIf "unsafe"
  let modWord ← word "mod"
  let name : Tree := .node .name [← if ← sees (isWord "try") then anyWord else name]
  let front := isUnsafe ++ [modWord, name]
  if ← sees (isOp ";") then return (.other, front ++ [← op ";"])
  return (.module, front ++ [← braced self (self .item)])

/-- The crate that an `extern crate` names, perhaps by another name. -/
def externCrate : Read (List Tree) := do
  let externWord ← word "extern"
  let crateWord ← word "crate"
  let name ← nextIf fun trees => isName trees || isWord "self" trees
  let renamed ←
    if ← sees (isWord "as") then
      pure [← word "as", ← nextIf fun trees => isName trees || isWord "_" trees]
    else pure []
  return externWord :: crateWord :: name :: renamed ++ [← op ";"]

/-- The kind and the parts of an item after its attributes and visibility, unless it is kept as it is
written. `isPublic` says whether a visibility was written. -/
def itemBody (self : Readers) (isPublic : Bool) : Read (Option (ItemKind × List Tree)) := do
  let trees ← get
  let after := trees.drop 1
  let other := fun (parts : List Tree) => (ItemKind.other, parts)
  if seesFunction false trees then return (← function self).map other
  else if isWord "extern" trees && isWord "crate" after then return some (other (← externCrate))
  else if isWord "extern" trees || (isWord "unsafe" trees && isWord "extern" after) then
    if isPublic then fail
    return some (other (← foreignModule self))
  else if isWord "use" trees then return (← useItem self).map other
  else if isWord "static" trees then return (← staticItem self).map other
  else if isWord "const" trees then return (← constant self true).map other
  else if isWord "mod" trees || (isWord "unsafe" trees && isWord "mod" after) then
    return some (← moduleItem self)
  else if isWord "type" trees then
    let type ← typeAlias self .beforeType
    return if type.isBounded || !type.hasType then none else some (.alias, type.parts)
  else if isWord "struct" trees then
    let structWord ← word "struct"
    let name ← declaredName
    let generics ← generics self
    return some (.record, structWord :: name :: generics ++ (← recordBody self))
  else if isWord "enum" trees then
    let enumWord ← word "enum"
    let name ← declaredName
    let generics ← generics self
    let conditions ← conditions self
    let variants ← group .brace (separatedUntil atEnd "," (variant self))
    return some (.enumeration, enumWord :: name :: generics ++ conditions ++ [variants])
  else if isWord "union" trees && isName after then
    let unionWord ← word "union"
    let name ← declaredName
    let generics ← generics self
    let conditions ← conditions self
    return some (.union, unionWord :: name :: generics ++ conditions ++ [← namedFields self])
  else if isWord "trait" trees || (isWord "auto" trees && isWord "trait" after) ||
      (isWord "unsafe" trees && isWordOf ["trait", "auto"] after) then
    return some (other (← traitItem self))
  else if isWord "impl" trees || (isWord "unsafe" trees && isWord "impl" after) ||
      (isWord "default" trees && !isOp "!" after) then
    return (← implementation self isPublic).map other
  else if isWord "macro" trees then
    macroDefinition
    return none
  else if isPublic then fail
  else return some (other (← macroItem true))

/-- An item. -/
def item (self : Readers) : Read Tree :=
  orWritten (.item .other) do
    let attributes ← outerAttributes self
    let visibility ← visibility
    let found? ← itemBody self (!visibility.isEmpty)
    return found?.map fun (kind, parts) => .node (.item kind) (attributes ++ visibility ++ parts)

end RecordMapper.Code.Grammar
