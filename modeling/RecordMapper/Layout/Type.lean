/-
A type is laid out from its tree alone, however its source was spaced. Only arguments and the items
of brackets have gaps; they are the parts that can be long.
-/
import RecordMapper.Code.Grammar.Path
import RecordMapper.Layout.Macro

namespace RecordMapper.Layout

open Code Document

/-- Whether a tree only separates or encloses items. -/
def isSeparator : Tree → Bool
  | .token (.punct op _) _ => ["::", "<", ">", ",", "+"].contains op
  | _ => false

/-- The text of a token in a node of a role, with the blanks that go with it there. -/
def spell (role : Role) (token : Token) : String :=
  match role, token with
  | .reference, .lifetime name => "'" ++ name ++ " "
  | .reference, .word "mut" => "mut "
  | .pointer, .word name => if name = "_" then name else name ++ " "
  | .functionType, .word "fn" => "fn"
  | .functionType, .word "_" => "_"
  | .functionType, .word name => name ++ " "
  | .functionType, .literal _ spelling => spelling ++ " "
  | .qualifiedSelf, .word "as" => " as "
  | .prefixed, .word name => name ++ " "
  | .bound, .word "const" => "const "
  | _, .punct "->" _ => " -> "
  | _, .punct "=" _ => " = "
  | .phrase, .punct ";" _ => ";"
  | _, .punct ";" _ => "; "
  | _, .punct ":" _ => ": "
  | _, .punct "+" _ => " + "
  | .bound, .punct "," _ => ", "
  | _, token => token.spelling

/-- Whether a part of a phrase stands off from what is before it. -/
def standsOff : Tree → Bool
  | .node .block _ => true
  | .token (.word name) _ => ["else", "in", "if"].contains name
  | _ => false

/-- Whether what follows a part of a phrase stands off from it. -/
def leavesBlank : Tree → Bool
  | .token (.word name) _ => isKeyword name && name ≠ "await"
  | .token (.punct "," _) _ => true
  | _ => false

/-- What closes the parameters of a function type: no comma follows when the last stands for any
number of them. -/
def closingOf (parameters : List Tree) : List Document :=
  match parameters.getLast? with
  | some (.node .functionTypeParameter parts) =>
    match parts.getLast? with
    | some (.token (.punct "..." _) _) => [zero]
    | _ => [trailingComma]
  | _ => [trailingComma]

/-- Whether a value has brackets of its own, so that it needs no box as the only argument. -/
def isBracketed : Tree → Bool
  | .node .block _ | .node .tuple _ | .group .bracket .. => true
  | _ => false

/-- A macro call, given its path: contents in parentheses or brackets may stay on the line. -/
def macroDocuments (path : String) (delimiter : Delimiter) (inner : List Tree) : List Document :=
  let opener := if delimiter = .brace then " " ++ delimiter.opener else delimiter.opener
  let edge := if delimiter = .brace then hard else zero
  let contents :=
    if inner.isEmpty then []
    else
      [block indentStep
        (edge :: fill 0 (macroContents .other true inner) :: outdentLast [edge])]
  .text (path ++ "!" ++ opener) :: contents ++ [.text delimiter.closer]

/-- The path of a macro: its names. -/
def macroPath : List Tree → String
  | [] => ""
  | .token token _ :: rest => token.spelling ++ macroPath rest
  | .node .segment [.token token _] :: rest => token.spelling ++ macroPath rest
  | _ :: rest => macroPath rest

mutual

/-- A part of a type or of a value; `place` says whether a path names a type or a value. -/
def ofTree (place : PathPlace) : Tree → List Document
  | .token token _ => [.text token.spelling]
  | .group delimiter _ _ inner =>
    .text delimiter.opener :: commaBox (items inner) ++ [.text delimiter.closer]
  | .node .typePath parts => ofParts .typePath .inType parts
  | .node .pathValue parts => ofParts .pathValue .inExpression parts
  | .node .path parts => ofParts .path place parts
  | .node .segment parts => ofParts .segment place parts
  | .node .angleArguments parts =>
    let arguments := items parts
    if arguments.isEmpty then []
    else
      .text (if place = .inExpression then "::<" else "<") :: commaBox arguments ++ [.text ">"]
  | .node .callArguments parts => [block indentStep (callParts parts)]
  | .node .tuple [.group _ _ _ inner] =>
    let closing :=
      match items inner with
      | [_] => [.text ",", zero]
      | _ => [trailingComma]
    .text "(" :: commaBoxClosing closing (items inner) ++ [.text ")"]
  | .node .paren [.group _ _ _ inner] => .text "(" :: ofParts .paren .inType inner ++ [.text ")"]
  | .node .array [.group _ _ _ inner] => .text "[" :: ofParts .array .inType inner ++ [.text "]"]
  | .node .slice [.group _ _ _ inner] => .text "[" :: ofParts .slice .inType inner ++ [.text "]"]
  | .node .functionType parts => functionParts parts
  | .node .bounds (.token (.word word) _ :: parts) =>
    .text (word ++ " ") :: joined " + " (items parts)
  | .node .bounds parts => .text "dyn " :: joined " + " (items parts)
  | .node .bound [.group _ _ _ inner] => .text "(" :: ofParts .bound .inType inner ++ [.text ")"]
  | .node .boundArgument parts => boundArgument parts
  | .node .binder (_ :: parts) => .text "for<" :: joined ", " (items parts) ++ [.text "> "]
  | .node .macroCall (path :: _ :: .group delimiter _ _ inner :: _) =>
    let names := match path with
      | .node _ parts => macroPath parts
      | _ => ""
    macroDocuments names delimiter inner
  | .node .operation (first :: rest) => operation (ofTree .inExpression first) rest
  | .node .call [function, .group _ _ _ [argument]] =>
    let inside := ofTree .inExpression argument
    ofTree .inExpression function ++ .text "(" ::
      (if isBracketed argument then inside else commaBox [inside]) ++ [.text ")"]
  | .node .call parts => ofParts .call .inExpression parts
  | .node .block [.group _ _ _ []] => [.text "\x7b\x7d"]
  | .node .block [.group _ _ _ [value]] =>
    [block indentStep ([.text "\x7b", space, fill 0 (ofTree .inExpression value)] ++
      outdentLast [space] ++ [.text "\x7d"])]
  | .node .block [.group _ _ _ inner] =>
    [block indentStep (.text "\x7b" :: space :: outdentLast (statements inner) ++ [.text "\x7d"])]
  | .node .phrase parts => phraseParts true parts
  | .node role parts => ofParts role .inType parts

/-- The parts of a node, one after the other. -/
def ofParts (role : Role) (place : PathPlace) : List Tree → List Document
  | [] => []
  | .token token _ :: rest => .text (spell role token) :: ofParts role place rest
  | part :: rest => ofTree place part ++ ofParts role place rest

/-- The parts of a phrase; `near` if the first has a blank before it or needs none. -/
def phraseParts (near : Bool) : List Tree → List Document
  | [] => []
  | part :: rest =>
    let blank (wanted : Bool) : List Document := if wanted then [.text " "] else []
    let inside :=
      match part with
      | .token token _ => [.text (spell .phrase token)]
      | part => ofTree .inExpression part
    blank (!near && standsOff part) ++ inside ++ blank (leavesBlank part && !rest.isEmpty) ++
      phraseParts (leavesBlank part) rest

/-- The items of a list without what separates them. -/
def items : List Tree → List (List Document)
  | [] => []
  | part :: rest => if isSeparator part then items rest else ofTree .inType part :: items rest

/-- Arguments in parentheses and their result, in one box. -/
def callParts : List Tree → List Document
  | [] => []
  | .group _ _ _ inner :: rest =>
    let arguments := items inner
    let inside := if arguments.isEmpty then outdentLast [zero] else zero :: commaItems [trailingComma] arguments
    .text "(" :: inside ++ .text ")" :: callParts rest
  | .token (.punct "->" _) _ :: rest => .text " -> " :: callParts rest
  | part :: rest => if isSeparator part then callParts rest else ofTree .inType part ++ callParts rest

/-- A function type: what is before its parameters, the parameters, and its result. -/
def functionParts : List Tree → List Document
  | [] => []
  | .group _ _ _ inner :: rest =>
    .text "(" :: commaBoxClosing (closingOf inner) (items inner) ++ .text ")" :: functionParts rest
  | .token token _ :: rest => .text (spell .functionType token) :: functionParts rest
  | part :: rest => ofTree .inType part ++ functionParts rest

/-- An argument by bounds: its name, then a box with the bounds. -/
def boundArgument : List Tree → List Document
  | [] => []
  | .token (.punct ":" _) _ :: bounds => [fill indentStep (boundItems true bounds)]
  | .token token _ :: rest => .text token.spelling :: boundArgument rest
  | part :: rest => ofTree .inType part ++ boundArgument rest

/-- Bounds, each but the first after a gap and `+`. -/
def boundItems (first : Bool) : List Tree → List Document
  | [] => []
  | part :: rest =>
    if isSeparator part then boundItems first rest
    else
      (if first then [.text ": "] else [space, .text "+ "]) ++ ofTree .inType part ++
        boundItems false rest

/-- Operators and operands after a first operand; a line may end before an operator. -/
def operation (before : List Document) : List Tree → List Document
  | [] => before
  | [operator] => before ++ ofTree .inExpression operator
  | operator :: operand :: rest =>
    let right := ofTree .inExpression operand
    let op := match operator with
      | .token token _ => token.spelling
      | _ => ""
    if op.startsWith ".." then operation (before ++ .text op :: right) rest
    else
      operation [fill indentStep (fill (-indentStep) before :: space :: .text (op ++ " ") :: right)]
        rest

/-- The statements of a block, each on its line. -/
def statements : List Tree → List Document
  | [] => []
  | statement :: .token (.punct ";" _) _ :: rest =>
    fill 0 (ofTree .inExpression statement) :: .text ";" :: hard :: statements rest
  | statement :: rest => fill 0 (ofTree .inExpression statement) :: hard :: statements rest

end

end RecordMapper.Layout
