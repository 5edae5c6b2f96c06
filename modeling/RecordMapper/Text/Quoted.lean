/-
A text is written between double quotes. Quotes, backslashes and the common controls get a short
escape; every other character that would not show is written by its number.
-/
import RecordMapper.Text.PrintableTable

namespace RecordMapper.Text.Quoted

/-- The digit of a number below sixteen, in lower case. -/
def hexDigit (n : Nat) : Char :=
  if n < 10 then Char.ofNat (48 + n) else Char.ofNat (87 + n)

/-- The hexadecimal digits of a number, most significant first and at least one. -/
def hexDigits (n : Nat) : List Char :=
  if _h : n < 16 then [hexDigit n] else hexDigits (n / 16) ++ [hexDigit (n % 16)]
termination_by n
decreasing_by omega

/-- Whether `c` shows in a text without changing the look of the character before it. -/
def shows (c : Char) : Bool :=
  c = ' ' || (!unprintable.holds c && !graphemeExtend.holds c)

/-- One character inside a literal. -/
def escape (c : Char) : List Char :=
  match c with
  | '\x00' => ['\\', '0']
  | '\t' => ['\\', 't']
  | '\r' => ['\\', 'r']
  | '\n' => ['\\', 'n']
  | '"' => ['\\', '"']
  | '\\' => ['\\', '\\']
  | c => if shows c then [c] else ['\\', 'u', '\x7b'] ++ hexDigits c.toNat ++ ['\x7d']

/-- A text as a literal. -/
def encode (s : String) : String :=
  String.ofList ('"' :: s.toList.flatMap escape ++ ['"'])

end RecordMapper.Text.Quoted
