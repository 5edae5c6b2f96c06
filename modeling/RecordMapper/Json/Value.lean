/-
A text is kept as the list of its code points, because an escape may name half of a surrogate pair,
which no text of characters can hold.
-/

namespace RecordMapper

/-- A JSON value; the members of an object stay in the order of the source, repeated ones too. -/
inductive JsonValue where
  | null
  | bool (b : Bool)
  /-- A number, by its spelling. -/
  | number (spelling : List Char)
  /-- A text, by its code points. -/
  | text (codes : List Nat)
  | array (items : List JsonValue)
  | object (members : List (List Nat × JsonValue))
  deriving Repr, Inhabited

/-- Whether a code point is one half of a surrogate pair. -/
def isSurrogate (code : Nat) : Bool :=
  0xD800 ≤ code && code ≤ 0xDFFF

/-- The text of a list of code points; there is none when a surrogate is left over. -/
def textOfCodes? (codes : List Nat) : Option String :=
  if codes.any isSurrogate then none else some (String.ofList (codes.map Char.ofNat))

end RecordMapper
