/-
The reader of JSON is strict: no comments, no trailing commas, no leading zeros, no bare controls in texts.
-/
import RecordMapper.Json.Value

namespace RecordMapper.JsonValue

/-- Whether `c` is blank between the parts of a value. -/
def isBlank (c : Char) : Bool :=
  c = ' ' || c = '\n' || c = '\t' || c = '\r'

/-- The input without leading blanks. -/
def skipBlank (cs : List Char) : List Char :=
  cs.dropWhile isBlank

/-- The value of a hexadecimal digit. -/
def hexValue? (c : Char) : Option Nat :=
  if '0' ≤ c ∧ c ≤ '9' then some (c.toNat - 48)
  else if 'a' ≤ c ∧ c ≤ 'f' then some (c.toNat - 87)
  else if 'A' ≤ c ∧ c ≤ 'F' then some (c.toNat - 55)
  else none

/-- Puts an escaped code unit before the code points that follow: a leading and a trailing surrogate
join to one code point. -/
def consUnit (unit : Nat) : List Nat → List Nat
  | [] => [unit]
  | next :: rest =>
    if 0xD800 ≤ unit ∧ unit ≤ 0xDBFF ∧ 0xDC00 ≤ next ∧ next ≤ 0xDFFF then
      (0x10000 + (unit - 0xD800) * 0x400 + (next - 0xDC00)) :: rest
    else unit :: next :: rest

/-- The code point of a one-letter escape. -/
def shortEscape? : Char → Option Nat
  | '"' => some 34
  | '\\' => some 92
  | '/' => some 47
  | 'b' => some 8
  | 'f' => some 12
  | 'n' => some 10
  | 'r' => some 13
  | 't' => some 9
  | _ => none

/-- Reads a text up to and with its closing quote, after the opening one. -/
def readText : List Char → Option (List Nat × List Char)
  | [] => none
  | '"' :: rest => some ([], rest)
  | '\\' :: 'u' :: a :: b :: c :: d :: rest => do
    let unit := 4096 * (← hexValue? a) + 256 * (← hexValue? b) + 16 * (← hexValue? c) +
      (← hexValue? d)
    let (codes, rest) ← readText rest
    some (consUnit unit codes, rest)
  | '\\' :: letter :: rest => do
    let code ← shortEscape? letter
    let (codes, rest) ← readText rest
    some (code :: codes, rest)
  | c :: rest =>
    if c.toNat < 0x20 ∨ c = '\\' then none
    else do
      let (codes, rest) ← readText rest
      some (c.toNat :: codes, rest)

/-- At least one digit, and what follows. -/
def readDigits? (cs : List Char) : Option (List Char × List Char) :=
  match cs.takeWhile (·.isDigit) with
  | [] => none
  | digits => some (digits, cs.dropWhile (·.isDigit))

/-- The digits before the point: a zero stands alone. -/
def readWhole? : List Char → Option (List Char × List Char)
  | '0' :: rest =>
    match rest with
    | c :: _ => if c.isDigit then none else some (['0'], rest)
    | [] => some (['0'], rest)
  | cs => readDigits? cs

/-- The part of a number after a point, if there is a point. -/
def readFraction? : List Char → Option (List Char × List Char)
  | '.' :: rest => (readDigits? rest).map fun (digits, rest) => ('.' :: digits, rest)
  | cs => some ([], cs)

/-- The exponent of a number, if there is one. -/
def readExponent? : List Char → Option (List Char × List Char)
  | e :: rest =>
    if e = 'e' ∨ e = 'E' then
      match rest with
      | '+' :: rest => (readDigits? rest).map fun (digits, rest) => (e :: '+' :: digits, rest)
      | '-' :: rest => (readDigits? rest).map fun (digits, rest) => (e :: '-' :: digits, rest)
      | rest => (readDigits? rest).map fun (digits, rest) => (e :: digits, rest)
    else some ([], e :: rest)
  | [] => some ([], [])

/-- A number and what follows. -/
def readNumber? (cs : List Char) : Option (List Char × List Char) := do
  let (sign, cs) :=
    match cs with
    | '-' :: rest => (['-'], rest)
    | cs => ([], cs)
  let (whole, cs) ← readWhole? cs
  let (fraction, cs) ← readFraction? cs
  let (exponent, cs) ← readExponent? cs
  some (sign ++ whole ++ fraction ++ exponent, cs)

mutual

/-- Reads a value that starts at the first character, if it nests less than `depth` parts. -/
def readValue : Nat → List Char → Option (JsonValue × List Char)
  | 0, _ => none
  | _ + 1, [] => none
  | depth + 1, c :: rest =>
    match c with
    | 'n' => match rest with
      | 'u' :: 'l' :: 'l' :: rest => some (.null, rest)
      | _ => none
    | 't' => match rest with
      | 'r' :: 'u' :: 'e' :: rest => some (.bool true, rest)
      | _ => none
    | 'f' => match rest with
      | 'a' :: 'l' :: 's' :: 'e' :: rest => some (.bool false, rest)
      | _ => none
    | '"' => (readText rest).map fun (codes, rest) => (.text codes, rest)
    | '[' =>
      match skipBlank rest with
      | ']' :: rest => some (.array [], rest)
      | rest => (readItems depth rest).map fun (items, rest) => (.array items, rest)
    | '\x7b' =>
      match skipBlank rest with
      | '\x7d' :: rest => some (.object [], rest)
      | rest => (readMembers depth rest).map fun (members, rest) => (.object members, rest)
    | c => (readNumber? (c :: rest)).map fun (spelling, rest) => (.number spelling, rest)

/-- Reads the items of an array that has at least one, with its closing bracket. -/
def readItems : Nat → List Char → Option (List JsonValue × List Char)
  | 0, _ => none
  | depth + 1, cs => do
    let (item, cs) ← readValue depth cs
    match skipBlank cs with
    | ',' :: cs =>
      let (items, cs) ← readItems depth (skipBlank cs)
      some (item :: items, cs)
    | ']' :: cs => some ([item], cs)
    | _ => none

/-- Reads the members of an object that has at least one, with its closing brace. -/
def readMembers : Nat → List Char → Option (List (List Nat × JsonValue) × List Char)
  | 0, _ => none
  | depth + 1, '"' :: cs => do
    let (key, cs) ← readText cs
    match skipBlank cs with
    | ':' :: cs =>
      let (value, cs) ← readValue depth (skipBlank cs)
      match skipBlank cs with
      | ',' :: cs =>
        let (members, cs) ← readMembers depth (skipBlank cs)
        some ((key, value) :: members, cs)
      | '\x7d' :: cs => some ([(key, value)], cs)
      | _ => none
    | _ => none
  | _ + 1, _ => none

end

/-- Reads the first value of a text and answers what follows it. Every part of a value takes a
character, so the length of the text bounds their number. -/
def readFirst (text : String) : Option (JsonValue × List Char) :=
  let cs := skipBlank text.toList
  readValue (cs.length + 1) cs

end RecordMapper.JsonValue
