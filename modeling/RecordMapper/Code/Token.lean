/-
A punctuation token holds one character when it comes from a source text; a token that the grammar
has recognised may hold a whole operator.
-/

namespace RecordMapper.Code

/-- The brackets that form a group. -/
inductive Delimiter where
  | paren
  | bracket
  | brace
  deriving DecidableEq, Repr

/-- The opening bracket in the text of a group: braces stand off from what they enclose. -/
def Delimiter.opened : Delimiter → List Char
  | paren => ['(']
  | bracket => ['[']
  | brace => ['\x7b', ' ']

/-- The closing bracket in the text of a group. -/
def Delimiter.closed : Delimiter → List Char
  | paren => [')']
  | bracket => [']']
  | brace => ['\x7d']

/-- The opening bracket on its own. -/
def Delimiter.opener : Delimiter → String
  | paren => "("
  | bracket => "["
  | brace => "\x7b"

/-- The closing bracket on its own. -/
def Delimiter.closer (delimiter : Delimiter) : String := String.ofList delimiter.closed

/-- What a literal denotes. -/
inductive LiteralKind where
  | text
  | bytes
  | cText
  | byte
  | char
  | float
  | integer
  deriving DecidableEq, Repr

/-- A token. Words include keywords and keep the mark `r#`; a lifetime's name is kept without its
quote. -/
inductive Token where
  | word (name : String)
  | lifetime (name : String)
  | literal (kind : LiteralKind) (spelling : String)
  /-- Punctuation; `joint` says that no blank may follow, because more of it does. -/
  | punct (text : String) (joint : Bool)
  deriving DecidableEq, Repr

/-- The spelling of a token. -/
def Token.spelling : Token → String
  | word name => name
  | lifetime name => "'" ++ name
  | literal _ spelling => spelling
  | punct text _ => text

/-- Whether the next token follows without a blank. -/
def Token.isJoint : Token → Bool
  | punct _ joint => joint
  | _ => false

/-- Words that cannot be names unless marked as raw. -/
def keywords : List String := [
  "abstract", "as", "async", "await", "become", "box", "break", "const", "continue", "crate", "do",
  "dyn", "else", "enum", "extern", "false", "final", "fn", "for", "if", "impl", "in", "let", "loop",
  "macro", "match", "mod", "move", "mut", "override", "priv", "pub", "ref", "return", "Self", "self",
  "static", "struct", "super", "trait", "true", "try", "type", "typeof", "unsafe", "unsized", "use",
  "virtual", "where", "while", "yield", "_"]

/-- Whether a word cannot be a name. -/
def isKeyword (name : String) : Bool :=
  keywords.contains name

end RecordMapper.Code
