/-
Only what can stand inside a type is told apart by roles; everything else is read to find the types
and the items in it, and to refuse what is no Rust. What is checked but kept as it is written is not told
apart either.
-/
import RecordMapper.Code.Grammar.Types

namespace RecordMapper.Code.Grammar

open Read

/-! ## Attributes -/

/-- Attributes of what encloses them, as they stand. -/
def innerAttributes : Read (List Tree) :=
  repeatWhile (fun trees => isOp "#" trees && isOp "!" (trees.drop 1) && isGroup .bracket (trees.drop 2)) do
    let hash ← op "#"
    let bang ← op "!"
    return [.node (.attribute true) [hash, bang, ← nextIf (isGroup .bracket)]]

/-! ## Patterns -/

/-- Whether a range operator follows. -/
def seesRange (trees : List Tree) : Bool :=
  isOp ".." trees

/-- Takes a range operator. -/
def rangeOperator : Read Tree := do
  if ← sees (isOp "..=") then op "..=" else if ← sees (isOp "...") then op "..." else op ".."

/-- Whether the end of a range of patterns follows. -/
def seesRangeEnd (trees : List Tree) : Bool :=
  !(atEnd trees || isOp "|" trees || isOp "=" trees || (isOp ":" trees && !isOp "::" trees) ||
    isOp "," trees || isOp ";" trees || isWord "if" trees)

/-- The bound of a range of patterns. -/
def patternBound (self : Readers) : Read (List Tree) := do
  if ← sees isLiteral then return [← literal]
  else if ← sees (isWord "const") then return [← word "const", ← self .block]
  else return [.node .pathValue (← qualifiedPath self .inExpression)]

/-- The rest of a range of patterns after its first bound. -/
def patternRange (self : Readers) : Read (List Tree) := do
  if ← sees seesRange then
    let operator ← rangeOperator
    if ← sees seesRangeEnd then return operator :: (← patternBound self)
    return [operator]
  return []

/-- A field of a record pattern. -/
def fieldPattern (self : Readers) : Read Tree := do
  let attributes ← attributes
  if ← sees (isOp "..") then return .node .phrase (attributes ++ [← op ".."])
  let labelled := fun (trees : List Tree) =>
    (isAnyWord trees || isNumber trees) && isOp ":" (trees.drop 1)
  if ← sees labelled then
    return .node .phrase (attributes ++ [← next, ← op ":", ← self (.pattern true)])
  let box ← wordIf "box"
  let byReference ← wordIf "ref"
  let mutability ← wordIf "mut"
  return .node .phrase (attributes ++ box ++ byReference ++ mutability ++ [← name])

/-- Whether a pattern by path follows: a name that goes on as a path, a macro, a record, a tuple or
the start of a range. -/
def seesPathPattern (trees : List Tree) : Bool :=
  let after := trees.drop 1
  (isName trees && (isOp "::" after || isOp "!" after || isGroup .brace after ||
      isGroup .paren after || isOp ".." after)) ||
    (isWord "self" trees && isOp "::" after) || isOp "::" trees || isOp "<" trees ||
    isWordOf ["Self", "super", "crate"] trees

/-- A pattern without alternatives. -/
def singlePattern (self : Readers) : Read Tree := do
  if ← sees seesPathPattern then
    let parts ← qualifiedPath self .inExpression
    let plain := match parts with
      | [path] => isPlainPath path
      | _ => false
    if plain && (← sees seesBang) then return .node .macroCall (parts ++ (← macroTail))
    let path : Tree := .node .pathValue parts
    if ← sees (isGroup .brace) then
      return .node .phrase [path, ← group .brace (separatedUntil atEnd "," (fieldPattern self))]
    if ← sees (isGroup .paren) then
      return .node .phrase [path, ← group .paren (separatedUntil atEnd "," (self (.pattern true)))]
    return .node .phrase (path :: (← patternRange self))
  else if ← sees (isWord "_") then word "_"
  else if ← sees (isWord "box") then
    return .node .phrase (← written do return (← word "box", ← self (.pattern false))).2
  else if ← sees (fun trees => isLiteral trees || isWord "const" trees) then
    return .node .phrase ((← patternBound self) ++ (← patternRange self))
  else if ← sees (fun trees => isWordOf ["ref", "mut", "self"] trees || isName trees) then
    let byReference ← wordIf "ref"
    let mutability ← wordIf "mut"
    let name ← if ← sees (isWord "self") then anyWord else name
    let whole ← if ← sees (isOp "@") then pure [← op "@", ← self (.pattern false)] else pure []
    return .node .phrase (byReference ++ mutability ++ name :: whole)
  else if ← sees (isOp "&") then
    let ampersand ← op "&"
    let mutability ← wordIf "mut"
    return .node .phrase (ampersand :: mutability ++ [← self (.pattern false)])
  else if ← sees (isGroup .paren) then group .paren (separatedUntil atEnd "," (self (.pattern true)))
  else if ← sees (isGroup .bracket) then group .bracket (separatedUntil atEnd "," (self (.pattern true)))
  else if ← sees (isOp "..") then return .node .phrase (← patternRange self)
  else fail

/-- Whether a further alternative follows. -/
def seesAlternative (trees : List Tree) : Bool :=
  isOp "|" trees && !isOp "||" trees && !isOp "|=" trees

/-- A pattern, perhaps of several alternatives if these are allowed. -/
def pattern (self : Readers) (alternatives : Bool) : Read Tree := do
  if !alternatives then return ← singlePattern self
  let lead ← whenSees seesAlternative (op "|")
  let first ← singlePattern self
  let rest ← repeatWhile seesAlternative do
    return [← op "|", ← singlePattern self]
  return .node .phrase (lead ++ first :: rest)

/-! ## Expressions -/

/-- The binary operators, longer ones before those they start with. -/
def binaryOperators : List String := [
  "<<=", ">>=", "+=", "-=", "*=", "/=", "%=", "^=", "&=", "|=", "&&", "||", "<<", ">>", "==", "<=",
  "!=", ">=", "+", "-", "*", "/", "%", "^", "&", "|", "<", ">", "="]

/-- The binary operator at the front, which is no arrow of a match arm. -/
def binaryOperator? (trees : List Tree) : Option String :=
  if isOp "=>" trees then none else binaryOperators.find? (isOp · trees)

/-- Whether an expression can follow an operator that may also stand last. -/
def seesOperand (records : Bool) (trees : List Tree) : Bool :=
  !(atEnd trees || isOp "," trees || isOp ";" trees || (isOp "." trees && !isOp ".." trees) ||
    isOp "?" trees || isOp "=>" trees || (!records && isGroup .brace trees) || isWord "as" trees)

/-- A value for a field, or a field named by a variable, or the record to take the rest from. -/
def fieldValue (self : Readers) : Read Tree := do
  let attributes ← attributes
  if ← sees (isOp "..") then
    let dots ← op ".."
    let base ← whenSees (!atEnd ·) (self (.expression true))
    return .node .phrase (attributes ++ dots :: base)
  let labelled := fun (trees : List Tree) =>
    (isAnyWord trees || isNumber trees) && isOp ":" (trees.drop 1) && !isOp "::" (trees.drop 1)
  if ← sees labelled then
    return .node .phrase (attributes ++ [← next, ← op ":", ← self (.expression true)])
  return .node .phrase (attributes ++ [← name])

/-- A value named by a path, a macro call, or a value of a record. -/
def pathExpression (self : Readers) (records : Bool) : Read Tree := do
  let parts ← qualifiedPath self .inExpression
  let plain := match parts with
    | [path] => isPlainPath path
    | _ => false
  if plain && (← sees seesBang) then return .node .macroCall (parts ++ (← macroTail))
  let path : Tree := .node .pathValue parts
  if records && (← sees (isGroup .brace)) then
    return .node .phrase [path, ← group .brace (separatedUntil atEnd "," (fieldValue self))]
  return path

/-- A function without a name. -/
def closure (self : Readers) (records : Bool) : Read Tree := do
  let binder ← binderIf
  let constant ← wordIf "const"
  let isStatic ← wordIf "static"
  let isAsync ← wordIf "async"
  let isMove ← wordIf "move"
  let opening ← op "|"
  let parameter : Read Tree := do
    let attributes ← attributes
    let shape ← singlePattern self
    let type ← if ← sees (isOp ":") then pure [← op ":", ← self (.type true)] else pure []
    return .node .phrase (attributes ++ shape :: type)
  let parameters ← separatedUntil (isOp "|") "," parameter
  let closing ← op "|"
  let body ←
    if ← sees (isOp "->") then pure [← op "->", ← self (.type true), ← self .block]
    else pure [← self (.expression records)]
  return .node .phrase (binder ++ constant ++ isStatic ++ isAsync ++ isMove ++
    opening :: parameters ++ closing :: body)

/-- Whether a function without a name follows. -/
def seesClosure (trees : List Tree) : Bool :=
  let bar := fun trees => isOp "|" trees || isWord "move" trees
  bar trees ||
    (isWord "async" trees && bar (trees.drop 1)) ||
    (isWord "static" trees && (bar (trees.drop 1) || isWord "async" (trees.drop 1))) ||
    (isWord "const" trees && (bar (trees.drop 1) || isWordOf ["static", "async"] (trees.drop 1))) ||
    (isWord "for" trees && isOp "<" (trees.drop 1))

/-- `if`, with a condition and the branches. -/
def conditional (self : Readers) : Read Tree := do
  let ifWord ← word "if"
  let condition ← self (.expression false)
  let body ← self .block
  let otherwise ←
    if ← sees (isWord "else") then
      let elseWord ← word "else"
      if ← sees (isWord "if") then pure [elseWord, ← self .atom]
      else pure [elseWord, ← self .block]
    else pure []
  return .node .phrase (ifWord :: condition :: body :: otherwise)

/-- Whether an expression that ends with its block follows. -/
def seesBlockLike (trees : List Tree) : Bool :=
  isWordOf ["if", "while", "loop", "match"] trees ||
    (isWord "for" trees && !isOp "<" (trees.drop 1)) ||
    (isWordOf ["unsafe", "try"] trees && isGroup .brace (trees.drop 1)) ||
    (isWord "const" trees && isGroup .brace (trees.drop 1)) ||
    isGroup .brace trees || (isLifetime trees && isOp ":" (trees.drop 1))

/-- Whether a trailer follows an expression that could end with its block. -/
def seesTrailerAfterBlock (trees : List Tree) : Bool :=
  (isOp "." trees && !isOp ".." trees) || isOp "?" trees

/-- An expression that ends early if it ends with its block, as in a statement. -/
def earlyExpression (self : Readers) : Read (Tree × Bool) := do
  if ← sees seesBlockLike then
    let trees ← get
    let first ← self .atom
    if ← sees seesTrailerAfterBlock then
      set trees
      return (← self (.expression true), false)
    return (first, true)
  return (← self (.expression true), false)

/-- An arm of a match, with the comma after it. -/
def matchArm (self : Readers) : Read (List Tree) := do
  let attributes ← attributes
  let shape ← self (.pattern true)
  let guard ← if ← sees (isWord "if") then pure [← word "if", ← self (.expression true)] else pure []
  let arrow ← op "=>"
  let (body, ended) ← earlyExpression self
  let comma ←
    if ended then opIf ","
    else if ← sees atEnd then pure []
    else pure [← op ","]
  return [.node .phrase (attributes ++ shape :: guard ++ arrow :: body :: comma)]

/-- `match`, with its arms. -/
def matchExpression (self : Readers) : Read Tree := do
  let matchWord ← word "match"
  let subject ← self (.expression false)
  let arms ← group .brace do
    let attributes ← innerAttributes
    return attributes ++ (← repeatUntil atEnd (matchArm self))
  return .node .phrase [matchWord, subject, arms]

/-- What stands in parentheses as an expression. -/
def parenExpression (self : Readers) : Read Tree := do
  let inside ← group .paren do
    let attributes ← innerAttributes
    return attributes ++ (← separatedUntil atEnd "," (self (.expression true)))
  match inside with
  | .group _ _ _ [_] => return .node .paren [inside]
  | _ => return .node .tuple [inside]

/-- What stands in brackets as an expression: values, or one value and a count. -/
def bracketExpression (self : Readers) : Read Tree :=
  group .bracket do
    if ← sees atEnd then return []
    let first ← self (.expression true)
    if ← sees (isOp ";") then return [first, ← op ";", ← self (.expression true)]
    if ← sees atEnd then return [first]
    let comma ← op ","
    return first :: comma :: (← separatedUntil atEnd "," (self (.expression true)))

/-- `break`, `return` and the like, with the value they may take. A `become` is kept as it is written. -/
def jump (self : Readers) (records : Bool) : Read Tree := do
  if ← sees (isWord "become") then
    return .node .phrase (← written do return (← anyWord, ← self (.expression true))).2
  let keyword ← anyWord
  let label ←
    if isWord "break" [keyword] || isWord "continue" [keyword] then whenSees isLifetime lifetime
    else pure []
  let value ←
    if isWord "continue" [keyword] then pure []
    else
      whenSees (fun trees => seesOperand records trees && (binaryOperator? trees).isNone ||
        isOp "&" trees || isOp "*" trees || isOp "-" trees || isOp "<" trees || isOp "|" trees)
        (self (.expression records))
  return .node .phrase (keyword :: label ++ value)

/-- The smallest expressions. -/
def atom (self : Readers) (records : Bool) : Read Tree := do
  if ← sees (fun trees => !isOp "-" trees && isLiteral trees) then literal
  else if ← sees (fun trees => isWord "async" trees &&
      (isGroup .brace (trees.drop 1) || (isWord "move" (trees.drop 1) && isGroup .brace (trees.drop 2)))) then
    let asyncWord ← word "async"
    let isMove ← wordIf "move"
    return .node .phrase (asyncWord :: isMove ++ [← self .block])
  else if ← sees (fun trees => isWordOf ["try", "unsafe", "const"] trees && isGroup .brace (trees.drop 1)) then
    return .node .phrase [← anyWord, ← self .block]
  else if ← sees seesClosure then closure self records
  else if ← sees (fun trees => isName trees || isOp "::" trees || isOp "<" trees ||
      isWordOf ["self", "Self", "super", "crate", "try"] trees) then pathExpression self records
  else if ← sees (isGroup .paren) then parenExpression self
  else if ← sees (isGroup .bracket) then bracketExpression self
  else if ← sees (isGroup .brace) then self .block
  else if ← sees (isWordOf ["break", "continue", "return", "yield", "become"]) then jump self records
  else if ← sees (isWord "let") then
    let letWord ← word "let"
    let shape ← self (.pattern true)
    let equals ← op "="
    return .node .phrase [letWord, shape, equals, ← self (.operand false)]
  else if ← sees (isWord "if") then conditional self
  else if ← sees (isWord "while") then
    return .node .phrase [← word "while", ← self (.expression false), ← self .block]
  else if ← sees (isWord "for") then
    return .node .phrase [← word "for", ← self (.pattern true), ← word "in", ← self (.expression false),
      ← self .block]
  else if ← sees (isWord "loop") then return .node .phrase [← word "loop", ← self .block]
  else if ← sees (isWord "match") then matchExpression self
  else if ← sees (isWord "_") then word "_"
  else if ← sees isLifetime then
    return .node .phrase [← lifetime, ← op ":", ← self .atom]
  else fail

/-- What can follow an expression to make it a larger one. -/
def seesTrailer (trees : List Tree) : Bool :=
  isGroup .paren trees || isGroup .bracket trees || seesTrailerAfterBlock trees

/-- The numbers that a number after a dot stands for: one with a point names a member of a member. -/
def numberedMembers : Tree → List Tree
  | .token (.literal kind spelling) span =>
    let digits := spelling.toList
    if kind = .float && digits.contains '.' then
      let first := String.ofList (digits.takeWhile (· ≠ '.'))
      let second := String.ofList ((digits.dropWhile (· ≠ '.')).drop 1)
      [.token (.literal .integer first) span, .token (.punct "." false) span] ++
        (if second.isEmpty then [] else [.token (.literal .integer second) span])
    else [.token (.literal kind spelling) span]
  | tree => [tree]

/-- The parts of a member after a dot: a name, perhaps with arguments, or a number. -/
def member (self : Readers) : Read (List Tree) := do
  if ← sees isNumber then return numberedMembers (← next)
  let name ← if ← sees (isWord "await") then anyWord else name
  let arguments ← if ← sees (isOp "::") then pure [← angleArguments self] else pure []
  return name :: arguments

/-- An expression with its calls, members and questions. -/
def trailers (self : Readers) (first : Tree) : Nat → Read Tree
  | 0 => fail
  | limit + 1 => do
    if ← sees (isGroup .paren) then
      let inputs ← group .paren (separatedUntil atEnd "," (self (.expression true)))
      trailers self (.node .call [first, inputs]) limit
    else if ← sees (isGroup .bracket) then
      let place ← group .bracket (do return [← self (.expression true)])
      trailers self (.node .phrase [first, place]) limit
    else if ← sees (isOp "?") then
      trailers self (.node .phrase [first, ← op "?"]) limit
    else if ← sees (fun trees => isOp "." trees && !isOp ".." trees) then
      let dot ← op "."
      trailers self (.node .phrase (first :: dot :: (← member self))) limit
    else return first

/-- An expression without binary operators. -/
def operand (self : Readers) (records : Bool) : Read Tree := do
  let attributes ← attributes
  if !attributes.isEmpty then
    return .node .phrase (attributes ++ [← self (.operand records)])
  if ← sees (isOp "&") then
    let ampersand ← op "&"
    let raw ←
      if ← sees (fun trees => isWord "raw" trees && isWordOf ["const", "mut"] (trees.drop 1)) then
        pure [← anyWord, ← anyWord]
      else wordIf "mut"
    return .node .prefixed (ampersand :: raw ++ [← self (.operand records)])
  else if ← sees (fun trees => isOp "*" trees || isOp "!" trees || isOp "-" trees) then
    let operator ← next
    let operator : Tree := match operator with
      | .token (.punct text _) span => .token (.punct text false) span
      | other => other
    return .node .prefixed [operator, ← self (.operand records)]
  else trailers self (← atom self records) ((← get).length + 1)

/-- What follows an operand: operators and operands, casts and ranges. -/
def operationRest (self : Readers) (records : Bool) : Nat → Read (List Tree)
  | 0 => fail
  | limit + 1 => do
    if ← sees (isOp "..") then
      let operator ← rangeOperator
      if ← sees (seesOperand records) then
        let next ← self (.operand records)
        return operator :: next :: (← operationRest self records limit)
      return [operator]
    else if ← sees (isWord "as") then
      let cast ← word "as"
      let type ← self (.type false)
      return cast :: type :: (← operationRest self records limit)
    else
      match binaryOperator? (← get) with
      | some text =>
        let operator ← op text
        let next ←
          if ← sees (isOp "..") then self (.expression records) else self (.operand records)
        return operator :: next :: (← operationRest self records limit)
      | none => return []

/-- The operators that compare. -/
def comparisons : List String := ["==", "!=", "<", ">", "<=", ">="]

/-- The operators that bind less tightly than a comparison. -/
def looseOperators : List String := [
  "&&", "||", "=", "..", "..=", "...", "+=", "-=", "*=", "/=", "%=", "^=", "&=", "|=", "<<=", ">>="]

/-- Whether a comparison is compared again, given whether one is open. -/
def chainsComparisons (comparing : Bool) : List Tree → Bool
  | [] => false
  | .token (.punct text _) _ :: rest =>
    if comparisons.contains text then comparing || chainsComparisons true rest
    else chainsComparisons (comparing && !looseOperators.contains text) rest
  | _ :: rest => chainsComparisons comparing rest

/-- An expression. Comparisons cannot be chained. -/
def expression (self : Readers) (records : Bool) : Read Tree := do
  let limit := (← get).length + 1
  if ← sees (isOp "..") then return .node .phrase (← operationRest self records limit)
  let first ← self (.operand records)
  let rest ← operationRest self records limit
  if rest.isEmpty then return first
  if chainsComparisons false rest then fail
  return .node .operation (first :: rest)

/-! ## Statements -/

/-- Whether an item follows, in the place of a statement. -/
def seesItem (trees : List Tree) : Bool :=
  let after := trees.drop 1
  let third := trees.drop 2
  isWordOf ["pub", "extern", "use", "fn", "mod", "type", "struct", "enum", "trait", "impl",
      "macro"] trees ||
    (isWord "crate" trees && !isOp "::" after) ||
    (isWord "static" trees && (isWord "mut" after || (isName after))) ||
    (isWord "const" trees && !(isGroup .brace after || isWord "static" after ||
      (isWord "async" after && !isWordOf ["unsafe", "extern", "fn"] third) ||
      isWord "move" after || isOp "|" after)) ||
    (isWord "unsafe" trees && !isGroup .brace after) ||
    (isWord "async" trees && isWordOf ["unsafe", "extern", "fn"] after) ||
    (isWord "union" trees && isName after) ||
    (isWord "auto" trees && isWord "trait" after) ||
    (isWord "default" trees && isWordOf ["unsafe", "impl"] after)

/-- The trees after the attributes at the front. -/
def afterAttributes : List Tree → List Tree
  | .token (.punct "#" _) _ :: .group .bracket _ _ _ :: rest => afterAttributes rest
  | trees => trees

/-- `let`, with what it binds. -/
def localBinding (self : Readers) : Read Tree := do
  let attributes ← attributes
  let letWord ← word "let"
  let shape ← self (.pattern false)
  let type ← if ← sees (isOp ":") then pure [← op ":", ← self (.type true)] else pure []
  let value ←
    if ← sees (isOp "=") then
      let equals ← op "="
      let value ← self (.expression true)
      let otherwise ←
        if ← sees (isWord "else") then pure [← word "else", ← self .block] else pure []
      pure (equals :: value :: otherwise)
    else pure []
  return .node .phrase (attributes ++ letWord :: shape :: type ++ value ++ [← op ";"])

/-- The path, `!` and what follows of a macro at the front. -/
def afterMacroBang? (trees : List Tree) : Option (List Tree) :=
  match plainPath trees with
  | some (_, rest) => if seesBang rest then some (rest.drop 1) else none
  | none => none

/-- One statement. It needs a semicolon, or to be the last, unless it is an item, a `let`, or ends
with its block. -/
def statement (self : Readers) : Read (List Tree) := do
  if ← sees (isOp ";") then return [← op ";"]
  let trees ← get
  let front := afterAttributes trees
  match afterMacroBang? front with
  | some after =>
    if isName after || isWord "try" after then return [← self .item]
    if isGroup .brace after && !(isOp "." (after.drop 1) || isOp "?" (after.drop 1)) then
      let attributes ← attributes
      let path ← plainPath
      return .node .macroCall (attributes ++ path :: (← macroTail)) :: (← opIf ";")
  | none => pure ()
  if isWord "let" front then return [← localBinding self]
  if seesItem front then return [← self .item]
  let attributes ← attributes
  let (value, ended) ← earlyExpression self
  if ← sees (isOp ";") then return attributes ++ [value, ← op ";"]
  if ended || (← sees atEnd) then return attributes ++ [value]
  fail

/-- Statements in braces. -/
def block (self : Readers) : Read Tree := do
  let inside ← group .brace do
    let attributes ← innerAttributes
    return attributes ++ (← repeatUntil atEnd (statement self))
  return .node .block [inside]

end RecordMapper.Code.Grammar
