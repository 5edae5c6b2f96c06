/-
An `impl` block and everything in it as a document. Statements stand on lines of their own; the
parameters, the fallbacks and the built record are boxes that break when they have to.
-/
import RecordMapper.Emission
import RecordMapper.Layout.Type

namespace RecordMapper

open Code Layout Layout.Document

/-! ## Documentation -/

/-- Whether a text can stand between `/*` and `*/`: comments inside it are closed in turn. -/
def fitsBlockComment (depth : Nat) : List Char → Bool
  | '/' :: '*' :: rest => fitsBlockComment (depth + 1) rest
  | '*' :: '/' :: rest => depth ≠ 0 && fitsBlockComment (depth - 1) rest
  | _ :: rest => fitsBlockComment depth rest
  | [] => depth = 0

/-- A text without blanks at its end. -/
def trimBlanks (cs : List Char) : List Char :=
  (cs.reverse.dropWhile (· = ' ')).reverse

/-- A text without blanks before its line feeds. -/
def trimLines (cs : List Char) : List Char :=
  cs.foldr (fun c rest => if c = ' ' && rest.head? = some '\n' then rest else c :: rest) []

/-- A documentation text as a comment, or as an attribute if no comment can hold it. -/
def docDocuments (doc : String) : List Document :=
  let cs := doc.toList
  if !cs.contains '\n' then [.text ("///" ++ String.ofList (trimBlanks cs)), hard]
  else if fitsBlockComment 0 cs && cs.getLast? ≠ some '/' then
    [.text ("/**" ++ String.ofList (trimLines cs) ++ "*/"), hard]
  else [.text ("#[doc = " ++ (Tree.literalOfText cs).spelling ++ "]"), space]

/-! ## Methods -/

/-- A type. -/
def typeDocuments (type : Tree) : List Document := ofTree .inType type

/-- A parameter in the list of parameters. -/
def MethodParameter.documents (parameter : MethodParameter) : List Document :=
  let type := typeDocuments parameter.type
  let seen :=
    match parameter.fallback? with
    | none => type
    | some _ => .text "::core::option::Option<" :: commaBox [type] ++ [.text ">"]
  .text (parameter.name.text ++ ": ") :: seen

/-- The clone of a field of the receiver. -/
def cloneDocuments (field : Tree) : List Document :=
  let member := block indentStep [.text "self", zero, .text ("." ++ field.text)]
  .text "::core::clone::Clone::clone(" :: commaBox [[.text "&", member]] ++ [.text ")"]

/-- The statement that replaces a missing argument. -/
def MethodParameter.fallbackDocuments (parameter : MethodParameter) : List Document :=
  match parameter.fallback? with
  | none => []
  | some field =>
    let name := parameter.name.text
    let closure := fill 0 (.text "|| " :: never :: cloneDocuments field)
    let call := block 0 [.text "(", closure, .text ")"]
    [fill 0 [.text ("let " ++ name ++ " = "), never,
        block indentStep [.text name, zero, .text ".unwrap_or_else", call]],
      .text ";", hard]

/-- A field of the built record. -/
def MethodInit.documents (init : MethodInit) : List Document :=
  match init.value? with
  | none => [.text init.field.text]
  | some name => [.text (init.field.text ++ ": " ++ name.text)]

namespace Method

/-- The columns that a record on one line has. -/
def recordLimit : Nat := 34

/-- Fields with commas between them; the last is followed by a gap that writes a comma when the line
ends there. -/
def fieldItems : List (List Document) → List Document
  | [] => []
  | [item] => item ++ outdentLast [.gap { blanks := 1, comma := true }]
  | item :: rest => item ++ [.text ",", space] ++ fieldItems rest

/-- The built record. -/
def recordDocument (method : Method) : Document :=
  let head := [fill (-indentStep) (ofTree .inExpression method.returns), .text " \x7b"]
  let fields :=
    match method.inits with
    | [] => outdentLast [.gap { blanks := 1, optional := true }]
    | inits => space :: fieldItems (inits.map MethodInit.documents)
  let box := { breaks := .all, indent := indentStep, limit? := some recordLimit }
  fill 0 [.boxed box (head ++ fields), .text "\x7d"]

/-- The name, the parameters, the result and the body of a method. -/
def documents (method : Method) : List Document :=
  let parameters := [.text "&self"] :: method.parameters.map MethodParameter.documents
  let result := block (-indentStep) (.text " -> " :: typeDocuments method.returns)
  let fallbacks := method.parameters.flatMap MethodParameter.fallbackDocuments
  let body := hard :: fallbacks ++ method.recordDocument :: outdentLast [hard]
  docDocuments method.doc ++
    [.text "#[allow(non_snake_case, clippy::too_many_arguments)]", space,
      block indentStep ([.text ("pub fn " ++ method.name.text ++ "("), never,
        block 0 (zero :: commaItems [trailingComma] parameters),
        .text ")", result, .text " \x7b"] ++ body),
      .text "\x7d", hard]

end Method

/-- An `impl` block. -/
def ImplBlock.documents (impl : ImplBlock) : List Document :=
  let methods := outdentLast (impl.methods.flatMap Method.documents)
  [.text "#[automatically_derived]", space,
    block indentStep ([fill (-indentStep) (.text "impl " :: typeDocuments impl.origin),
      .text " \x7b", hard] ++ methods),
    .text "\x7d", hard]

/-- `impl` blocks as the text of a file. -/
def implText (impls : List ImplBlock) : String :=
  (block 0 (impls.flatMap ImplBlock.documents)).toText

end RecordMapper
