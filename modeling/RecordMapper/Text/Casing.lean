/-
Case mappings of single characters are full: one character may become several. Lower-casing a text
differs from lower-casing its characters in one place, the sigma that ends a word.
-/
import RecordMapper.Text.CaseTable

namespace RecordMapper.Text

/-- The mapping of `code` by the first run that lists it. -/
def CaseRun.map? (run : CaseRun) (code : Nat) : Option Nat :=
  if run.first ≤ code ∧ code ≤ run.last ∧ (code - run.first) % run.step = 0 then
    some (Int.toNat (code + run.offset))
  else none

/-- The mapping of a character by a table of several-character mappings and a table of runs; a
character in neither is mapped to itself. -/
def mapCase (special : List (Nat × List Nat)) (runs : Array CaseRun) (c : Char) : List Char :=
  match special.lookup c.toNat with
  | some codes => codes.map Char.ofNat
  | none =>
    match runs.findSome? (·.map? c.toNat) with
    | some code => [Char.ofNat code]
    | none => [c]

/-- The upper case of one character. -/
def upperChar (c : Char) : List Char :=
  if c.toNat < 0x80 then [c.toUpper] else mapCase upperSpecial upperRuns c

/-- The lower case of one character, away from any word. -/
def lowerChar (c : Char) : List Char :=
  if c.toNat < 0x80 then [c.toLower] else mapCase lowerSpecial lowerRuns c

/-- Upper case, character by character. -/
def upper (cs : List Char) : List Char :=
  cs.flatMap upperChar

/-- Whether the first character that case does not ignore has a case. -/
def meetsCased (cs : List Char) : Bool :=
  match cs.dropWhile (caseIgnorable.holds ·) with
  | [] => false
  | c :: _ => cased.holds c

/-- Lower case of the rest of a text, given the reversed part before it: a capital sigma is written
in its final form when a letter precedes it and none follows. -/
def lowerFrom (before : List Char) : List Char → List Char
  | [] => []
  | c :: rest =>
    let mapped :=
      if c = 'Σ' then [if meetsCased before && !meetsCased rest then 'ς' else 'σ'] else lowerChar c
    mapped ++ lowerFrom (c :: before) rest

/-- Lower case of a text. -/
def lower (cs : List Char) : List Char :=
  lowerFrom [] cs

end RecordMapper.Text
