/-
What a macro is called with has no grammar, so the blanks between its tokens follow from neighbouring
tokens alone: what the last few were decides whether the next one stands off.
-/
import RecordMapper.Code.Tree
import RecordMapper.Layout.Document

namespace RecordMapper.Layout

open Code

/-- A token inside a macro call, as the rules for blanks see it. -/
inductive MacroToken where
  | word (name : String)
  | literal
  | punct (char : String) (joint : Bool)
  | group (delimiter : Delimiter)
  deriving DecidableEq, Repr

/-- What stands before a token. -/
inductive MacroState where
  | other
  | dollar
  | dollarParen
  | dollarParenSeparator
  | pound
  | poundBang
  | dot
  | colon
  | colonColon
  | name
  | nameBang
  | closed
  deriving DecidableEq, Repr

/-- Words after which a group does not belong to a name. -/
def macroKeywords : List String := [
  "as", "async", "await", "box", "break", "const", "continue", "crate", "dyn", "else", "enum", "extern",
  "fn", "for", "if", "impl", "in", "let", "loop", "macro", "match", "mod", "move", "mut", "pub", "ref",
  "return", "static", "struct", "trait", "type", "unsafe", "use", "where", "while", "yield"]

/-- Whether a group is in parentheses or brackets. -/
def MacroToken.isRound : MacroToken → Bool
  | .group .paren | .group .bracket => true
  | _ => false

/-- Whether a token stands off from what is before it, and what it is for the next one. -/
def MacroState.next (state : MacroState) (token : MacroToken) : Bool × MacroState :=
  match state, token with
  | .dollar, .word _ => (false, .other)
  | .dollar, .group .paren => (false, .dollarParen)
  | .dollarParen, .punct "+" false => (false, .other)
  | .dollarParen, .punct "*" false => (false, .other)
  | .dollarParen, .punct "?" false => (false, .other)
  | .dollarParen, .word _ => (false, .dollarParenSeparator)
  | .dollarParen, .literal => (false, .dollarParenSeparator)
  | .dollarParen, .punct _ true => (false, .dollarParen)
  | .dollarParen, .punct _ false => (false, .dollarParenSeparator)
  | .dollarParenSeparator, .punct "+" _ => (false, .other)
  | .dollarParenSeparator, .punct "*" _ => (false, .other)
  | .pound, .punct "!" _ => (false, .poundBang)
  | .pound, .group .bracket => (false, .other)
  | .poundBang, .group .bracket => (false, .other)
  | .name, .punct "!" false => (false, .nameBang)
  | .colon, .punct ":" _ => (false, .colonColon)
  | _, .group .brace => (true, .other)
  | _, .group _ =>
    if state = .name then (false, .closed)
    else if state = .nameBang then (false, .other)
    else (true, .closed)
  | _, .word text =>
    if macroKeywords.contains text then (true, .other)
    else (state ≠ .dot && state ≠ .colonColon, .name)
  | _, .literal => (state ≠ .dot, .name)
  | _, .punct "," _ => (false, .other)
  | _, .punct ";" _ => (false, .other)
  | _, .punct "." _ => (state ≠ .name && state ≠ .closed, .dot)
  | _, .punct ":" true => (state ≠ .name, .colon)
  | _, .punct "$" _ => (true, .dollar)
  | _, .punct "#" _ => (true, .pound)
  | _, .punct .. => (true, .other)

/-- The gap before a token: none at the start and after a token that it belongs to, none that shows
before a dot. -/
def macroGap (joint standsOff : Bool) (token : MacroToken) : List Document :=
  if joint then []
  else if standsOff then [.space]
  else if token = .punct "." false || token = .punct "." true then [.zero]
  else []

/-- Whether nothing may stand between a token and the next. -/
def MacroToken.isJoint : MacroToken → Bool
  | .punct char joint => joint || char = "$"
  | _ => false

/-- How a token is seen. A lifetime is a quote and a word. -/
def MacroToken.ofToken : Token → MacroToken
  | .word name => .word name
  | .lifetime _ => .punct "'" true
  | .literal _ _ => .literal
  | .punct char joint => .punct char joint

/-- The state after a token. -/
def MacroState.after (state : MacroState) : Token → MacroState
  | .lifetime text => ((state.next (.punct "'" true)).2.next (.word text)).2
  | token => (state.next (.ofToken token)).2

/-- Whether nothing may stand between a token and the next; a lifetime ends with a word. -/
def endsJoint : Token → Bool
  | .lifetime _ => false
  | token => (MacroToken.ofToken token).isJoint

/-- A group inside a macro call: braces stand off from what they enclose. -/
def macroGroup (delimiter : Delimiter) (contents : List Document) : List Document :=
  let aside : List Document := if delimiter = .brace && !contents.isEmpty then [.space] else []
  .text delimiter.opener :: aside ++ contents ++ aside ++ [.text delimiter.closer]

mutual

/-- A token or group of a macro call. -/
def macroDocument : Tree → List Document
  | .token token _ => [.text token.spelling]
  | .group delimiter _ _ inner => macroGroup delimiter (macroContents .other true inner)
  | .node _ parts => macroContents .other true parts

/-- The contents of a macro call, after what `state` says; `joint` if no blank may follow that. -/
def macroContents (state : MacroState) (joint : Bool) : List Tree → List Document
  | [] => []
  | tree :: rest =>
    match tree with
    | .token token _ =>
      let seen := MacroToken.ofToken token
      macroGap joint (state.next seen).1 seen ++ macroDocument tree ++
        macroContents (state.after token) (endsJoint token) rest
    | .group delimiter .. =>
      let seen := MacroToken.group delimiter
      macroGap joint (state.next seen).1 seen ++ macroDocument tree ++
        macroContents (state.next seen).2 false rest
    | .node .. => macroDocument tree ++ macroContents state joint rest

end

end RecordMapper.Layout
