/-
A path is names joined by `::`, with arguments between angle brackets. Inside an expression `<` compares,
so there arguments need `::` before them.
-/
import RecordMapper.Code.Read

namespace RecordMapper.Code

/-- The parts of the grammar that contain each other. -/
inductive Nonterminal where
  /-- A type; bounds joined by `+` only if `plus`. -/
  | type (plus : Bool)
  | bound
  | genericArgument
  /-- An expression; a name before a brace starts a value of a record only if `records`. -/
  | expression (records : Bool)
  | operand (records : Bool)
  /-- An expression that nothing follows as part of it. -/
  | atom
  /-- A pattern; several alternatives only if `alternatives`. -/
  | pattern (alternatives : Bool)
  | block
  | item
  /-- What a `use` names; what stands in its braces may start at the root only if `roots`. -/
  | useTree (roots : Bool)
  deriving DecidableEq, Repr

/-- Readers of the parts of the grammar. -/
abbrev Readers := Nonterminal → Read Tree

/-- Where a path stands. -/
inductive PathPlace where
  | inType
  | inExpression
  deriving DecidableEq, Repr

namespace Grammar

open Read

/-- Whether an argument or a parameter is a lifetime, perhaps with attributes or bounds. -/
def isLifetimeArgument : Tree → Bool
  | .token (.lifetime _) _ => true
  | .node .phrase parts =>
    isLifetime <| parts.dropWhile fun part =>
      match part with
      | .node (.attribute _) _ => true
      | _ => false
  | _ => false

/-- Puts the lifetimes among written arguments first. Each argument comes with the comma after it, if
it has one; a comma is supplied where a lifetime without one moves to the front. -/
def lifetimesFirst (arguments : List (Tree × List Tree)) : List Tree :=
  let lifetimes := arguments.filter (isLifetimeArgument ·.1)
  let others := arguments.filter (!isLifetimeArgument ·.1)
  let flat := fun (argument, comma) => argument :: comma
  let supplied : List Tree :=
    match lifetimes.getLast?, others with
    | some (_, []), _ :: _ => [.token (.punct "," false) .none]
    | _, _ => []
  lifetimes.flatMap flat ++ supplied ++ others.flatMap flat

/-- At most `limit` arguments up to a closing angle bracket, each with the comma after it. -/
def argumentsAtMost (argument : Read Tree) : Nat → Read (List (Tree × List Tree))
  | 0 => fail
  | limit + 1 => do
    if ← sees (isOp ">") then return []
    let first ← argument
    if ← sees (isOp ">") then return [(first, [])]
    let comma ← op ","
    return (first, [comma]) :: (← argumentsAtMost argument limit)

/-- Arguments between angle brackets, lifetimes first. -/
def angleArguments (self : Readers) : Read Tree := do
  let colons ← opIf "::"
  let opening ← op "<"
  let arguments ← argumentsAtMost (self .genericArgument) ((← get).length + 1)
  let closing ← op ">"
  return .node .angleArguments (colons ++ opening :: lifetimesFirst arguments ++ [closing])

/-- Whether angle arguments follow the name of a segment. -/
def seesArguments (place : PathPlace) (trees : List Tree) : Bool :=
  (place = .inType && isOp "<" trees && !isOp "<=" trees) ||
    (isOp "::" trees && isOp "<" (trees.drop 2))

/-- One name of a path, with its arguments. The words that stand for modules take none. -/
def segment (self : Readers) (place : PathPlace) : Read Tree := do
  if ← sees (isWordOf ["super", "self", "crate", "try"]) then return .node .segment [← anyWord]
  let name ← if ← sees (isWord "Self") then anyWord else name
  if ← sees (seesArguments place) then
    return .node .segment [name, ← angleArguments self]
  return .node .segment [name]

/-- Whether a further segment follows. -/
def seesSegment (trees : List Tree) : Bool :=
  isOp "::" trees && !isGroup .paren (trees.drop 2)

/-- The parts of a path. -/
def pathParts (self : Readers) (place : PathPlace) : Read (List Tree) := do
  let lead ← opIf "::"
  let first ← segment self place
  let rest ← repeatWhile seesSegment do
    return [← op "::", ← segment self place]
  return lead ++ first :: rest

/-- A path. -/
def path (self : Readers) (place : PathPlace) : Read Tree := do
  return .node .path (← pathParts self place)

/-- A path, or a path of a type: `<T>::X`, `<T as Trait>::X`. The parts are the type, if there is
one, and the path. -/
def qualifiedPath (self : Readers) (place : PathPlace) : Read (List Tree) := do
  if ← sees (isOp "<") then
    let opening ← op "<"
    let type ← self (.type true)
    let asTrait ←
      if ← sees (isWord "as") then
        pure [← word "as", ← path self .inType]
      else pure []
    let closing ← op ">"
    let colons ← op "::"
    let first ← segment self place
    let rest ← repeatWhile (isOp "::") do
      return [← op "::", ← segment self place]
    return [.node .qualifiedSelf (opening :: type :: asTrait ++ [closing]),
      .node .path (colons :: first :: rest)]
  return [← path self place]

/-- Names joined by `::`, keywords included, without arguments. -/
def plainPath : Read Tree := do
  let lead ← opIf "::"
  let isStart := fun trees => isName trees || isWordOf ["super", "self", "Self", "crate"] trees
  let segment : Read Tree := do return .node .segment [← nextIf isStart]
  let first ← segment
  let rest ← repeatWhile (isOp "::") do
    return [← op "::", ← segment]
  return .node .path (lead ++ first :: rest)

/-- Whether no segment of a path has arguments. -/
def isPlainPath : Tree → Bool
  | .node .path parts => parts.all fun part =>
    match part with
    | .node .segment [_] => true
    | .node .segment _ => false
    | _ => true
  | _ => false

end Grammar

end RecordMapper.Code
