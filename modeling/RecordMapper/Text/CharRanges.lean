/-
A property of characters is given by the inclusive ranges of code points that have it, in ascending
order; membership is decided by halving.
-/

namespace RecordMapper.Text

/-- Inclusive ranges of code points, ascending and apart. -/
abbrev CharRanges := Array (Nat × Nat)

namespace CharRanges

/-- Whether one of the ranges from place `lo` up to, but not at, place `hi` holds `code`. -/
def holdsBetween (ranges : CharRanges) (code lo hi : Nat) : Bool :=
  if _h : lo < hi then
    match ranges[(lo + hi) / 2]? with
    | none => false
    | some (first, last) =>
      if code < first then holdsBetween ranges code lo ((lo + hi) / 2)
      else if last < code then holdsBetween ranges code ((lo + hi) / 2 + 1) hi
      else true
  else false
termination_by hi - lo

/-- Whether `c` lies in one of the ranges. -/
def holds (ranges : CharRanges) (c : Char) : Bool :=
  ranges.holdsBetween c.toNat 0 ranges.size

end CharRanges

end RecordMapper.Text
