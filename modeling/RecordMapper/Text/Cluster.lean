/-
A combining mark belongs to the character before it, so that letter and mark are read as one. The
joinings of scripts without case (syllable blocks, emoji sequences) are not needed here: they never
part a letter, a digit or a separator from its marks.
-/
import RecordMapper.Text.ClusterTable

namespace RecordMapper.Text

/-- Whether no cluster boundary lies between two neighbouring characters. -/
def joinsCluster (a b : Char) : Bool :=
  !clusterControl.holds a && !clusterControl.holds b &&
    (clusterTrailing.holds b || clusterLeading.holds a)

/-- A text as the list of its clusters, in order. -/
def clusters : List Char → List (List Char)
  | [] => []
  | c :: rest =>
    match clusters rest with
    | (d :: ds) :: more => if joinsCluster c d then (c :: d :: ds) :: more else [c] :: (d :: ds) :: more
    | other => [c] :: other

end RecordMapper.Text
