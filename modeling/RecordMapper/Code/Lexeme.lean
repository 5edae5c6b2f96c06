/-
A source text is cut into words, literals, punctuation, brackets and documentation comments. Blanks
and other comments vanish. Every scanner answers what it takes from the front of the text and what it
leaves, or nothing if the front has another form.
-/
import RecordMapper.Code.Span
import RecordMapper.Code.Token
import RecordMapper.Text.IdentifierClass
import RecordMapper.Text.Quoted

namespace RecordMapper.Code

/-- What a scanner takes and what it leaves. -/
abbrev Scan := Option (List Char × List Char)

/-- A smallest unit of source text with a meaning. -/
inductive Lexeme where
  | opening (delimiter : Delimiter)
  | closing (delimiter : Delimiter)
  | token (token : Token)
  /-- A documentation comment, `inner` if it belongs to what encloses it. -/
  | doc (inner : Bool) (text : List Char)
  deriving DecidableEq, Repr

/-! ## Blanks and comments -/

/-- Whether `c` is blank between lexemes. -/
def isBlank (c : Char) : Bool :=
  let n := c.toNat
  c = ' ' || (0x09 ≤ n && n ≤ 0x0d) || n = 0x85 || n = 0xa0 || n = 0x1680 ||
    (0x2000 ≤ n && n ≤ 0x200a) || n = 0x200e || n = 0x200f || n = 0x2028 || n = 0x2029 ||
    n = 0x202f || n = 0x205f || n = 0x3000

/-- The rest of a line. A carriage return before the line feed is taken but does not belong to the
line, which is answered apart. -/
def scanLine : List Char → List Char × List Char × List Char
  | [] => ([], [], [])
  | '\n' :: rest => ([], [], '\n' :: rest)
  | '\r' :: '\n' :: rest => ([], ['\r'], '\n' :: rest)
  | c :: rest =>
    let (line, taken, rest) := scanLine rest
    (c :: line, c :: taken, rest)

/-- A block comment inside `depth` open ones, up to the end of the outermost. -/
def scanBlock : Nat → List Char → Scan
  | depth, '/' :: '*' :: rest =>
    (scanBlock (depth + 1) rest).map fun (taken, rest) => ('/' :: '*' :: taken, rest)
  | depth, '*' :: '/' :: rest =>
    if depth ≤ 1 then some (['*', '/'], rest)
    else (scanBlock (depth - 1) rest).map fun (taken, rest) => ('*' :: '/' :: taken, rest)
  | depth, c :: rest => (scanBlock depth rest).map fun (taken, rest) => (c :: taken, rest)
  | _, [] => none

/-- A comment that is not documentation. -/
def scanPlainComment : List Char → Scan
  | '/' :: '/' :: rest =>
    let plain :=
      match rest with
      | '/' :: '/' :: _ => true
      | '/' :: _ => false
      | '!' :: _ => false
      | _ => true
    if plain then
      let (_, taken, rest) := scanLine rest
      some ('/' :: '/' :: taken, rest)
    else none
  | '/' :: '*' :: rest =>
    let plain :=
      match rest with
      | '*' :: '/' :: _ => true
      | '*' :: '*' :: _ => true
      | '*' :: _ => false
      | '!' :: _ => false
      | _ => true
    if plain then scanBlock 0 ('/' :: '*' :: rest) else none
  | _ => none

/-- Whether every carriage return is followed by a line feed. -/
def returnsPaired : List Char → Bool
  | [] => true
  | '\r' :: '\n' :: rest => returnsPaired rest
  | '\r' :: _ => false
  | _ :: rest => returnsPaired rest

/-- The text of a block comment without its marks, of which the opening one has three characters. -/
def blockText (comment : List Char) : List Char :=
  (comment.drop 3).take (comment.length - 5)

/-- A documentation comment: its kind, its text, what it takes and what it leaves. -/
def scanDoc (cs : List Char) : Option (Bool × List Char × List Char × List Char) := do
  let (inner, text, taken, rest) ←
    match cs with
    | '/' :: '/' :: '!' :: rest =>
      let (line, taken, rest) := scanLine rest
      some (true, line, '/' :: '/' :: '!' :: taken, rest)
    | '/' :: '/' :: '/' :: rest =>
      let (line, taken, rest) := scanLine rest
      some (false, line, '/' :: '/' :: '/' :: taken, rest)
    | '/' :: '*' :: '!' :: _ =>
      (scanBlock 0 cs).map fun (taken, rest) => (true, blockText taken, taken, rest)
    | '/' :: '*' :: '*' :: _ =>
      (scanBlock 0 cs).map fun (taken, rest) => (false, blockText taken, taken, rest)
    | _ => none
  if returnsPaired text then some (inner, text, taken, rest) else none

/-! ## Words -/

/-- A name without a mark. -/
def scanName : List Char → Scan
  | [] => none
  | c :: rest =>
    if Text.startsIdentifier c then
      some (c :: rest.takeWhile Text.continuesIdentifier, rest.dropWhile Text.continuesIdentifier)
    else none

/-- Names that have no raw form. -/
def neverRaw : List (List Char) :=
  ["_", "super", "self", "Self", "crate"].map String.toList

/-- A name, possibly marked as raw. -/
def scanWord : List Char → Scan
  | 'r' :: '#' :: rest =>
    (scanName rest).bind fun (name, rest) =>
      if name ∈ neverRaw then none else some ('r' :: '#' :: name, rest)
  | cs => scanName cs

/-! ## Literals in quotes -/

/-- What an escape or a character may be in a literal. -/
structure QuoteStyle where
  /-- Whether characters beyond ASCII and escapes by code point are allowed. -/
  unicode : Bool
  /-- Whether a hexadecimal escape may go beyond ASCII. -/
  highHex : Bool
  /-- Whether the null character is allowed. -/
  null : Bool

/-- The literals that denote texts. -/
def QuoteStyle.text : QuoteStyle := ⟨true, false, true⟩

/-- The literals that denote bytes. -/
def QuoteStyle.bytes : QuoteStyle := ⟨false, true, true⟩

/-- The literals that denote texts without a null. -/
def QuoteStyle.cText : QuoteStyle := ⟨true, true, false⟩

/-- Whether `c` is a hexadecimal digit. -/
def isHexDigit (c : Char) : Bool :=
  c.isDigit || ('a' ≤ c && c ≤ 'f') || ('A' ≤ c && c ≤ 'F')

/-- The value of a hexadecimal digit. -/
def hexValue (c : Char) : Nat :=
  if c.isDigit then c.toNat - 48 else if c.toNat < 97 then c.toNat - 55 else c.toNat - 87

/-- Where a scanner stands inside a quoted literal. -/
inductive QuoteState where
  | plain
  /-- After a carriage return, which needs a line feed. -/
  | carriage
  | escape
  | hex
  | hexEnd (first : Char)
  | codeStart
  | code (digits value : Nat)
  /-- In the blanks after an escaped end of line. -/
  | continued
  | continuedCarriage

/-- One character of a quoted literal: the next state, or `none` if the literal is malformed. -/
def QuoteState.step (style : QuoteStyle) (state : QuoteState) (c : Char) : Option QuoteState :=
  let ordinary : Option QuoteState :=
    if c = '\\' then some .escape
    else if c = '\r' then some .carriage
    else if c.toNat = 0 && !style.null then none
    else if c.toNat ≥ 0x80 && !style.unicode then none
    else some .plain
  match state with
  | .plain => ordinary
  | .carriage => if c = '\n' then some .plain else none
  | .escape =>
    if c = 'n' || c = 'r' || c = 't' || c = '\\' || c = '\'' || c = '"' then some .plain
    else if c = '0' then (if style.null then some .plain else none)
    else if c = 'x' then some .hex
    else if c = 'u' then (if style.unicode then some .codeStart else none)
    else if c = '\n' then some .continued
    else if c = '\r' then some .continuedCarriage
    else none
  | .hex =>
    if style.highHex then (if isHexDigit c then some (.hexEnd c) else none)
    else if '0' ≤ c && c ≤ '7' then some (.hexEnd c) else none
  | .hexEnd first =>
    if isHexDigit c && (style.null || first != '0' || c != '0') then some .plain else none
  | .codeStart => if c = '\x7b' then some (.code 0 0) else none
  | .code digits value =>
    if isHexDigit c then
      if digits < 6 then some (.code (digits + 1) (value * 16 + hexValue c)) else none
    else if digits = 0 then none
    else if c = '_' then some (.code digits value)
    else if c = '\x7d' && value.isValidChar && (style.null || value != 0) then some .plain
    else none
  | .continued =>
    if c = ' ' || c = '\t' || c = '\n' then some .continued
    else if c = '\r' then some .continuedCarriage
    else ordinary
  | .continuedCarriage => if c = '\n' then some .continued else none

/-- Whether a quote ends the literal in this state. -/
def QuoteState.mayEnd : QuoteState → Bool
  | .plain | .continued => true
  | _ => false

/-- The rest of a quoted literal, with the closing quote. -/
def scanQuoted (style : QuoteStyle) (state : QuoteState) : List Char → Scan
  | [] => none
  | c :: rest =>
    if c = '"' && state.mayEnd then some (['"'], rest)
    else do
      let state ← state.step style c
      let (taken, rest) ← scanQuoted style state rest
      some (c :: taken, rest)

/-- The rest of a raw literal, which ends with a quote and `hashes` hash signs. -/
def scanRawBody (style : QuoteStyle) (hashes : Nat) : List Char → Scan
  | [] => none
  | c :: rest =>
    if c = '"' && rest.take hashes == List.replicate hashes '#' then
      some ('"' :: rest.take hashes, rest.drop hashes)
    else if c.toNat = 0 && !style.null then none
    else if c.toNat ≥ 0x80 && !style.unicode then none
    else if c = '\r' && rest.head? != some '\n' then none
    else (scanRawBody style hashes rest).map fun (taken, rest) => (c :: taken, rest)

/-- A raw literal after its `r`. -/
def scanRaw (style : QuoteStyle) (cs : List Char) : Scan :=
  let hashes := cs.takeWhile (· = '#')
  match cs.dropWhile (· = '#') with
  | '"' :: rest =>
    if hashes.length > 255 then none
    else (scanRawBody style hashes.length rest).map fun (taken, rest) =>
      (hashes ++ '"' :: taken, rest)
  | _ => none

/-- A literal with the name that may follow it as a suffix. -/
def withSuffix (scan : Scan) : Scan :=
  scan.map fun (taken, rest) =>
    match scanName rest with
    | some (suffix, rest) => (taken ++ suffix, rest)
    | none => (taken, rest)

/-- Puts characters already taken before those a scanner takes. -/
def afterTaking (front : List Char) (scan : Scan) : Scan :=
  scan.map fun (taken, rest) => (front ++ taken, rest)

/-- A literal in double quotes, with its kind. -/
def scanString : List Char → Option (LiteralKind × List Char × List Char)
  | '"' :: rest => (afterTaking ['"'] (scanQuoted .text .plain rest)).map (.text, ·)
  | 'b' :: '"' :: rest => (afterTaking ['b', '"'] (scanQuoted .bytes .plain rest)).map (.bytes, ·)
  | 'b' :: 'r' :: rest => (afterTaking ['b', 'r'] (scanRaw .bytes rest)).map (.bytes, ·)
  | 'c' :: '"' :: rest => (afterTaking ['c', '"'] (scanQuoted .cText .plain rest)).map (.cText, ·)
  | 'c' :: 'r' :: rest => (afterTaking ['c', 'r'] (scanRaw .cText rest)).map (.cText, ·)
  | 'r' :: rest => (afterTaking ['r'] (scanRaw .text rest)).map (.text, ·)
  | _ => none

/-- Takes characters while a quoted literal's escape is open. -/
def scanEscape (style : QuoteStyle) (state : QuoteState) : List Char → Scan
  | [] => none
  | c :: rest =>
    match state.step style c with
    | none => none
    | some .plain => some ([c], rest)
    | some .continued => none
    | some .continuedCarriage => none
    | some state => (scanEscape style state rest).map fun (taken, rest) => (c :: taken, rest)

/-- One character or escape and a closing quote. -/
def scanSingle (style : QuoteStyle) : List Char → Scan
  | '\\' :: rest =>
    (scanEscape style .escape rest).bind fun (taken, rest) =>
      match rest with
      | '\'' :: rest => some ('\\' :: taken ++ ['\''], rest)
      | _ => none
  | c :: '\'' :: rest => some ([c, '\''], rest)
  | _ => none

/-- A literal in single quotes, with its kind. -/
def scanCharacter : List Char → Option (LiteralKind × List Char × List Char)
  | 'b' :: '\'' :: rest => (afterTaking ['b', '\''] (scanSingle .bytes rest)).map (.byte, ·)
  | '\'' :: rest => (afterTaking ['\''] (scanSingle .text rest)).map (.char, ·)
  | _ => none

/-! ## Numbers -/

/-- A number with its suffix; none if more of a name follows. -/
def numberWithSuffix (scan : Scan) : Scan :=
  (withSuffix scan).bind fun (taken, rest) =>
    match rest with
    | c :: _ => if Text.continuesIdentifier c then none else some (taken, rest)
    | [] => some (taken, rest)

/-- Digits and underscores. -/
def isDigitOrRule (c : Char) : Bool :=
  c.isDigit || c = '_'

/-- The sign and digits after the mark of an exponent; at least one digit. -/
def scanExponent (cs : List Char) : Scan :=
  let lead := cs.takeWhile (· = '_')
  let (sign, rest) :=
    match cs.dropWhile (· = '_') with
    | '+' :: rest => (['+'], rest)
    | '-' :: rest => (['-'], rest)
    | rest => ([], rest)
  let digits := rest.takeWhile isDigitOrRule
  if digits.any (·.isDigit) then some (lead ++ sign ++ digits, rest.dropWhile isDigitOrRule)
  else none

/-- The digits of a number that has a point or an exponent. -/
def scanFloatDigits (cs : List Char) : Scan := do
  guard ((cs.head?.map (·.isDigit)).getD false)
  let whole := cs.takeWhile isDigitOrRule
  let rest := cs.dropWhile isDigitOrRule
  let (point, hasPoint, rest) ←
    match rest with
    | '.' :: rest =>
      match rest with
      | c :: _ =>
        if c = '.' || Text.startsIdentifier c then none
        else some ('.' :: rest.takeWhile isDigitOrRule, true, rest.dropWhile isDigitOrRule)
      | [] => some (['.'], true, [])
    | rest => some ([], false, rest)
  match rest with
  | e :: after =>
    if e = 'e' || e = 'E' then
      match scanExponent after with
      | some (exponent, rest) => some (whole ++ point ++ e :: exponent, rest)
      | none => if hasPoint then some (whole ++ point, rest) else none
    else if hasPoint then some (whole ++ point, rest) else none
  | [] => if hasPoint then some (whole ++ point, []) else none

/-- The digits of a whole number in a base; none if a decimal digit is too large for it. -/
def scanDigits (base : Nat) : List Char → Scan
  | [] => some ([], [])
  | c :: rest =>
    if c = '_' then afterTaking [c] (scanDigits base rest)
    else if c.isDigit then
      if c.toNat - 48 < base then afterTaking [c] (scanDigits base rest) else none
    else if isHexDigit c && hexValue c < base then afterTaking [c] (scanDigits base rest)
    else some ([], c :: rest)

/-- A whole number without its suffix. -/
def scanWhole (cs : List Char) : Scan :=
  let based (mark : List Char) (base : Nat) (rest : List Char) : Scan :=
    (scanDigits base rest).bind fun (digits, rest) =>
      if digits.all (· = '_') then none else some (mark ++ digits, rest)
  match cs with
  | '0' :: 'x' :: rest => based ['0', 'x'] 16 rest
  | '0' :: 'o' :: rest => based ['0', 'o'] 8 rest
  | '0' :: 'b' :: rest => based ['0', 'b'] 2 rest
  | '_' :: _ => none
  | cs => based [] 10 cs

/-- A number, with its kind. -/
def scanNumber (cs : List Char) : Option (LiteralKind × List Char × List Char) :=
  match numberWithSuffix (scanFloatDigits cs) with
  | some scan => some (.float, scan)
  | none => (numberWithSuffix (scanWhole cs)).map (.integer, ·)

/-! ## All lexemes -/

/-- A literal, with its kind. -/
def scanLiteral (cs : List Char) : Option (LiteralKind × List Char × List Char) :=
  match scanString cs with
  | some (kind, taken, rest) => (withSuffix (some (taken, rest))).map (kind, ·)
  | none =>
    match scanCharacter cs with
    | some (kind, taken, rest) => (withSuffix (some (taken, rest))).map (kind, ·)
    | none => scanNumber cs

/-- The characters of punctuation. -/
def punctuation : List Char := "~!@#$%^&*-=+|;:,<.>/?'".toList

/-- Whether punctuation, and no comment, starts here. -/
def startsPunctuation : List Char → Bool
  | '/' :: '/' :: _ => false
  | '/' :: '*' :: _ => false
  | c :: _ => punctuation.contains c
  | [] => false

/-- A lifetime: a quote and a name that no quote or hash sign follows. -/
def scanLifetime : List Char → Scan
  | '\'' :: rest =>
    (scanWord rest).bind fun (name, after) =>
      match after with
      | '\'' :: _ => none
      | '#' :: _ => if rest.take 2 = ['r', '#'] then some (name, after) else none
      | _ => some (name, after)
  | _ => none

/-- Whether a word here would be the start of a malformed literal. -/
def startsLikeLiteral (cs : List Char) : Bool :=
  ["r\"", "r#\"", "r##", "b\"", "b'", "br\"", "br#", "c\"", "cr\"", "cr#"].any fun mark =>
    mark.toList.isPrefixOf cs

/-- The lexeme at the front of a text without blanks in front, what it takes and what it leaves. -/
def scanLexeme (cs : List Char) : Option (Lexeme × List Char × List Char) :=
  match scanDoc cs with
  | some (inner, text, taken, rest) => some (.doc inner text, taken, rest)
  | none =>
    match cs with
    | [] => none
    | '(' :: rest => some (.opening .paren, ['('], rest)
    | '[' :: rest => some (.opening .bracket, ['['], rest)
    | '\x7b' :: rest => some (.opening .brace, ['\x7b'], rest)
    | ')' :: rest => some (.closing .paren, [')'], rest)
    | ']' :: rest => some (.closing .bracket, [']'], rest)
    | '\x7d' :: rest => some (.closing .brace, ['\x7d'], rest)
    | c :: rest =>
      match scanLiteral cs with
      | some (kind, taken, rest) =>
        some (.token (.literal kind (String.ofList taken)), taken, rest)
      | none =>
        if c = '\'' then
          (scanLifetime cs).map fun (name, rest) =>
            (.token (.lifetime (String.ofList name)), '\'' :: name, rest)
        else if startsPunctuation cs then
          some (.token (.punct (String.singleton c) (startsPunctuation rest)), [c], rest)
        else if startsLikeLiteral cs then none
        else
          (scanWord cs).map fun (name, rest) =>
            (.token (.word (String.ofList name)), name, rest)

/-- The lexemes of a text from a place on, with their spans, in at most `steps` steps. -/
def lexemesFrom : Nat → Place → List Char → Option (List (Lexeme × Span))
  | _, _, [] => some []
  | 0, _, _ :: _ => none
  | steps + 1, place, c :: cs =>
    if isBlank c then lexemesFrom steps (place.next c) cs
    else
      match scanPlainComment (c :: cs) with
      | some (taken, rest) => lexemesFrom steps (place.after taken) rest
      | none => do
        let (lexeme, taken, rest) ← scanLexeme (c :: cs)
        let stop := place.after taken
        let lexemes ← lexemesFrom steps stop rest
        some ((lexeme, ⟨place, stop⟩) :: lexemes)

/-- The lexemes of a text. Every step takes a character, so the length of the text bounds their
number. -/
def lexemes (place : Place) (cs : List Char) : Option (List (Lexeme × Span)) :=
  lexemesFrom cs.length place cs

end RecordMapper.Code
