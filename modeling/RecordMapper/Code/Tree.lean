/-
A tree holds every token of a source text, in order, with its span. Groups are what brackets enclose;
nodes are what the grammar has recognised, and their roles say as what. A tree without nodes is what a
source text is before the grammar looks at it, and forgetting the nodes gives it back, so that no pass
over trees can lose or reorder tokens unseen.
-/
import RecordMapper.Code.Lexeme

namespace RecordMapper.Code

/-- The kinds of items that the mapping of records tells apart. -/
inductive ItemKind where
  | record
  | enumeration
  | union
  | alias
  | module
  | other
  deriving DecidableEq, Repr

/-- What a node is in the grammar. -/
inductive Role where
  /-- Parts that belong together, with no reading of their own. -/
  | phrase
  | item (kind : ItemKind)
  | attribute (inner : Bool)
  /-- The name that an item or a field declares. -/
  | name
  /-- The parameters of a generic item; there is at least one. -/
  | generics
  | field
  /-- A type named by a path, which stands after a `qualifiedSelf` if there is one. -/
  | typePath
  | qualifiedSelf
  | path
  | segment
  /-- Arguments between `<` and `>`. -/
  | angleArguments
  /-- Arguments between parentheses, with the result type. -/
  | callArguments
  /-- A value as a generic argument. -/
  | constArgument
  /-- An argument `Item = T`. -/
  | assocArgument
  /-- An argument `Item: Bound`. -/
  | boundArgument
  | tuple
  | paren
  | array
  | slice
  | reference
  | pointer
  | functionType
  | functionTypeParameter
  /-- The lifetimes of a `for`. -/
  | binder
  /-- Bounds after `dyn`, after `impl` or alone. -/
  | bounds
  | bound
  | macroCall
  | pathValue
  | negative
  | prefixed
  | operation
  | call
  | block
  deriving DecidableEq, Repr

/-- A source tree. -/
inductive Tree where
  | token (token : Token) (span : Span)
  | group (delimiter : Delimiter) (opening closing : Span) (inner : List Tree)
  | node (role : Role) (parts : List Tree)
  deriving Repr

namespace Tree

/-! ## Spans -/

mutual

/-- The span of the first token. -/
def firstSpan? : Tree → Option Span
  | token _ span => some span
  | group _ opening _ _ => some opening
  | node _ parts => firstSpanOf? parts

/-- The span of the first token of several trees. -/
def firstSpanOf? : List Tree → Option Span
  | [] => none
  | tree :: rest => (firstSpan? tree).or (firstSpanOf? rest)

end

mutual

/-- The span of the last token. -/
def lastSpan? : Tree → Option Span
  | token _ span => some span
  | group _ _ closing _ => some closing
  | node _ parts => lastSpanOf? parts

/-- The span of the last token of several trees. -/
def lastSpanOf? : List Tree → Option Span
  | [] => none
  | tree :: rest => (lastSpanOf? rest).or (lastSpan? tree)

end

/-- The stretch that trees cover, from their first to their last token. -/
def spanOf (trees : List Tree) : Span :=
  match firstSpanOf? trees, lastSpanOf? trees with
  | some first, some last => first.join last
  | _, _ => .none

/-- The stretch that a tree covers. -/
def span (tree : Tree) : Span := spanOf [tree]

/-! ## Tokens -/

/-- The single characters of an operator as tokens; only the last may be followed by a blank. -/
def characters (span : Span) (joint : Bool) : List Char → List Tree
  | [] => []
  | [c] => [.token (.punct (String.singleton c) joint) span]
  | c :: rest => .token (.punct (String.singleton c) true) span :: characters span joint rest

mutual

/-- The tokens of a tree: its nodes forgotten and its operators as single characters. -/
def tokens : Tree → List Tree
  | token (.punct text joint) span => characters span joint text.toList
  | token t span => [.token t span]
  | group delimiter opening closing inner =>
    [.group delimiter opening closing (tokensOf inner)]
  | node _ parts => tokensOf parts

/-- The tokens of several trees. -/
def tokensOf : List Tree → List Tree
  | [] => []
  | tree :: rest => tokens tree ++ tokensOf rest

end

/-! ## Text -/

/-- A text without a blank at its end. -/
def dropLastBlank (cs : List Char) : List Char :=
  if cs.getLast? = some ' ' then cs.dropLast else cs

mutual

/-- The text of a tree, with a blank after each token that is not joint to the next. -/
def spaced : Tree → List Char
  | token t _ => t.spelling.toList ++ (if t.isJoint then [] else [' '])
  | group delimiter _ _ inner =>
    let body := dropLastBlank (spacedOf inner)
    let body := if delimiter = .brace ∧ !body.isEmpty then body ++ [' '] else body
    delimiter.opened ++ body ++ delimiter.closed ++ [' ']
  | node _ parts => spacedOf parts

/-- The text of several trees, with a blank after each token that is not joint to the next. -/
def spacedOf : List Tree → List Char
  | [] => []
  | tree :: rest => spaced tree ++ spacedOf rest

end

/-- The text of trees: their tokens with single blanks between them. -/
def textOf (trees : List Tree) : String :=
  String.ofList (dropLastBlank (spacedOf trees))

/-- The text of a tree. -/
def text (tree : Tree) : String := textOf [tree]

/-! ## From lexemes -/

/-- A literal that denotes a text. -/
def literalOfText (text : List Char) : Token :=
  .literal .text (String.ofList ('"' :: escapeAll text ++ ['"']))
where
  /-- Characters inside a literal; a null before an octal digit is written out in full. -/
  escapeAll : List Char → List Char
    | [] => []
    | '\x00' :: rest =>
      let octalNext := (rest.head?.map fun c => '0' ≤ c && c ≤ '7').getD false
      (if octalNext then ['\\', 'x', '0', '0'] else ['\\', '0']) ++ escapeAll rest
    | c :: rest => Text.Quoted.escape c ++ escapeAll rest

/-- A documentation comment as the attribute that it stands for. -/
def ofDoc (inner : Bool) (text : List Char) (span : Span) : List Tree :=
  let punct (text : String) : Tree := .token (.punct text false) span
  punct "#" :: (if inner then [punct "!"] else []) ++
    [.group .bracket span span
      [.token (.word "doc") span, punct "=", .token (literalOfText text) span]]

/-- An open group: its bracket and the trees before it, last first. -/
structure Opened where
  delimiter : Delimiter
  opening : Span
  before : List Tree

/-- The trees of lexemes, given the open groups, innermost first, and the trees of the current
group, last first. Brackets have to match. -/
def assemble (opened : List Opened) (current : List Tree) :
    List (Lexeme × Span) → Option (List Tree)
  | [] =>
    match opened with
    | [] => some current.reverse
    | _ :: _ => none
  | (lexeme, span) :: rest =>
    match lexeme with
    | .opening delimiter => assemble (⟨delimiter, span, current⟩ :: opened) [] rest
    | .closing delimiter =>
      match opened with
      | [] => none
      | inner :: outer =>
        if inner.delimiter = delimiter then
          let group := .group delimiter inner.opening span current.reverse
          assemble outer (group :: inner.before) rest
        else none
    | .token leaf => assemble opened (.token leaf span :: current) rest
    | .doc isInner text =>
      assemble opened ((ofDoc isInner text span).reverse ++ current) rest

/-- The trees of a source text that starts at a place. -/
def ofChars? (place : Place) (cs : List Char) : Option (List Tree) :=
  (lexemes place cs).bind (assemble [] [])

/-- A text without a byte order mark. -/
def dropByteOrderMark : List Char → List Char
  | c :: rest => if c.toNat = 0xFEFF then rest else c :: rest
  | [] => []

/-- The trees of a source text. -/
def ofText? (text : String) : Option (List Tree) :=
  ofChars? .start (dropByteOrderMark text.toList)

end Tree

end RecordMapper.Code
