/-
An identifier starts with a letter or `_` and goes on with letters, marks, digits and `_`.
-/
import RecordMapper.Text.IdentifierTable

namespace RecordMapper.Text

/-- Whether an identifier may start with `c`. -/
def startsIdentifier (c : Char) : Bool :=
  if c.toNat < 0x80 then c.isAlpha || c = '_' else identifierStart.holds c

/-- Whether `c` may follow the first character of an identifier. -/
def continuesIdentifier (c : Char) : Bool :=
  if c.toNat < 0x80 then c.isAlphanum || c = '_' else identifierContinue.holds c

end RecordMapper.Text
