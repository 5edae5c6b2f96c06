/-
A reader takes trees from the front of a list and answers what they are, or nothing if the front has
another form. What stands at the front is looked at first, so that a reader that has started does not
go back.
-/
import RecordMapper.Code.Tree

namespace RecordMapper.Code

/-- A reader of the trees at the front of a list. -/
abbrev Read := StateT (List Tree) Option

/-! ## Looking ahead -/

/-- Whether the operator of these characters stands at the front. -/
def startsOperator : List Char → List Tree → Bool
  | [], _ => true
  | [c], .token (.punct text _) _ :: _ => text = String.singleton c
  | c :: more, .token (.punct text true) _ :: rest =>
    text = String.singleton c && startsOperator more rest
  | _, _ => false

/-- Whether an operator stands at the front, possibly as the start of a longer one. -/
def isOp (op : String) (trees : List Tree) : Bool :=
  startsOperator op.toList trees

/-- Whether a given word stands at the front. -/
def isWord (word : String) : List Tree → Bool
  | .token (.word name) _ :: _ => name = word
  | _ => false

/-- Whether one of some words stands at the front. -/
def isWordOf (words : List String) : List Tree → Bool
  | .token (.word name) _ :: _ => words.contains name
  | _ => false

/-- Whether any word stands at the front. -/
def isAnyWord : List Tree → Bool
  | .token (.word _) _ :: _ => true
  | _ => false

/-- Whether a word that may be a name stands at the front. -/
def isName : List Tree → Bool
  | .token (.word name) _ :: _ => !isKeyword name
  | _ => false

/-- Whether a lifetime stands at the front. -/
def isLifetime : List Tree → Bool
  | .token (.lifetime _) _ :: _ => true
  | _ => false

/-- Whether a group stands at the front. -/
def isGroup (delimiter : Delimiter) : List Tree → Bool
  | .group found _ _ _ :: _ => found = delimiter
  | _ => false

/-- Whether a number stands at the front. -/
def isNumber : List Tree → Bool
  | .token (.literal kind _) _ :: _ => kind = .integer || kind = .float
  | _ => false

/-- Whether a literal stands at the front: a literal token, a truth value or a negative number. -/
def isLiteral (trees : List Tree) : Bool :=
  match trees with
  | .token (.literal ..) _ :: _ => true
  | _ => isWordOf ["true", "false"] trees || (isOp "-" trees && isNumber (trees.drop 1))

/-- Whether nothing is left. -/
def atEnd (trees : List Tree) : Bool := trees.isEmpty

namespace Read

/-! ## Taking what stands at the front -/

/-- The reader of nothing that exists. -/
def fail {α : Type} : Read α := fun _ => none

/-- Whether what stands at the front passes a test. -/
def sees (test : List Tree → Bool) : Read Bool := do
  return test (← get)

/-- Takes the first tree. -/
def next : Read Tree := fun trees =>
  match trees with
  | tree :: rest => some (tree, rest)
  | [] => none

/-- Takes the first tree if the front passes a test. -/
def nextIf (test : List Tree → Bool) : Read Tree := do
  if ← sees test then next else fail

/-- Takes the given operator as one token. -/
def op (text : String) : Read Tree := fun trees =>
  if isOp text trees then
    let taken := trees.take text.length
    some (.token (.punct text false) (Tree.spanOf taken), trees.drop text.length)
  else none

/-- Takes the given word. -/
def word (text : String) : Read Tree := nextIf (isWord text)

/-- Takes any word. -/
def anyWord : Read Tree := nextIf isAnyWord

/-- Takes a word that may be a name. -/
def name : Read Tree := nextIf isName

/-- Takes a lifetime. -/
def lifetime : Read Tree := nextIf isLifetime

/-- Takes a group as it is. -/
def anyGroup : Read Tree :=
  nextIf fun trees => isGroup .paren trees || isGroup .bracket trees || isGroup .brace trees

/-- Takes a literal; a negative number is a node of its sign and its digits. -/
def literal : Read Tree := do
  if ← sees (isOp "-") then
    let sign ← op "-"
    let digits ← nextIf isNumber
    return .node .negative [sign, digits]
  else nextIf isLiteral

/-- Takes a group whose inside is all read by `inside`. -/
def group (delimiter : Delimiter) (inside : Read (List Tree)) : Read Tree := fun trees =>
  match trees with
  | .group found opening closing inner :: rest =>
    if found = delimiter then
      match inside inner with
      | some (parts, []) => some (.group delimiter opening closing parts, rest)
      | _ => none
    else none
  | _ => none

/-! ## Putting readers together -/

/-- What a reader takes if the front passes a test, else nothing. -/
def whenSees (test : List Tree → Bool) (reader : Read Tree) : Read (List Tree) := do
  if ← sees test then return [← reader] else return []

/-- An operator if it stands at the front. -/
def opIf (text : String) : Read (List Tree) := whenSees (isOp text) (op text)

/-- A word if it stands at the front. -/
def wordIf (text : String) : Read (List Tree) := whenSees (isWord text) (word text)

/-- Repeats a reader until the front passes a test, at most `limit` times. -/
def repeatAtMost (stop : List Tree → Bool) (reader : Read (List Tree)) : Nat → Read (List Tree)
  | 0 => do
    if ← sees stop then return [] else fail
  | limit + 1 => do
    if ← sees stop then return []
    let parts ← reader
    return parts ++ (← repeatAtMost stop reader limit)

/-- Repeats a reader until the front passes a test. A reader that takes something each time runs out
of trees before the limit. -/
def repeatUntil (stop : List Tree → Bool) (reader : Read (List Tree)) : Read (List Tree) := do
  repeatAtMost stop reader ((← get).length + 1)

/-- Repeats a reader while the front passes a test. -/
def repeatWhile (more : List Tree → Bool) (reader : Read (List Tree)) : Read (List Tree) :=
  repeatUntil (fun trees => !more trees) reader

/-- Parts with an operator between them, and perhaps after the last, up to where the front passes a
test. -/
def separatedUntil (stop : List Tree → Bool) (separator : String) (part : Read Tree) :
    Read (List Tree) :=
  repeatUntil stop do
    let first ← part
    if ← sees stop then return [first]
    return [first, ← op separator]

/-- At most `limit` parts with an operator between them. -/
def separatedAtMost (separator : String) (more : List Tree → Bool) (part : Read Tree) :
    Nat → Read (List Tree)
  | 0 => fail
  | limit + 1 => do
    let first ← part
    if ← sees (isOp separator) then
      let operator ← op separator
      if ← sees more then
        return first :: operator :: (← separatedAtMost separator more part limit)
      return [first, operator]
    return [first]

/-- Parts with an operator between them. The operator ends the list where `more` does not hold after
it. -/
def separatedWhile (separator : String) (more : List Tree → Bool) (part : Read Tree) :
    Read (List Tree) := do
  separatedAtMost separator more part ((← get).length + 1)

/-- What a reader answers, and the trees that it takes, as they are written. -/
def written {α : Type} (reader : Read α) : Read (α × List Tree) := do
  let before ← get
  let answer ← reader
  return (answer, before.take (before.length - (← get).length))

/-- What a reader answers. What it has no answer for becomes a node of the trees that it takes, in which
nothing is told apart. -/
def orWritten (role : Role) (reader : Read (Option Tree)) : Read Tree := do
  let (answer?, taken) ← written reader
  return answer?.getD (.node role taken)

/-- Reads all of a list of trees. -/
def all? {α : Type} (reader : Read α) (trees : List Tree) : Option α :=
  match reader trees with
  | some (answer, []) => some answer
  | _ => none

end Read

end RecordMapper.Code
