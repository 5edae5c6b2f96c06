/-
Places in a source text. Lines count from one and columns from zero, in characters; a line ends with its
line feed.
-/

namespace RecordMapper.Code

/-- A place between two characters of a source text. -/
structure Place where
  line : Nat
  column : Nat
  deriving DecidableEq, Repr, Inhabited

/-- The place before the first character. -/
def Place.start : Place := ⟨1, 0⟩

/-- The place after one more character. -/
def Place.next (place : Place) (c : Char) : Place :=
  if c = '\n' then ⟨place.line + 1, 0⟩ else ⟨place.line, place.column + 1⟩

/-- The place after a run of characters. -/
def Place.after (place : Place) (cs : List Char) : Place :=
  cs.foldl Place.next place

/-- A stretch of a source text, from its first place up to the place after it. -/
structure Span where
  first : Place
  last : Place
  deriving DecidableEq, Repr, Inhabited

/-- The stretch from the start of `a` to the end of `b`. -/
def Span.join (a b : Span) : Span := ⟨a.first, b.last⟩

/-- The span of what no source text holds. -/
def Span.none : Span := ⟨⟨0, 0⟩, ⟨0, 0⟩⟩

end RecordMapper.Code
