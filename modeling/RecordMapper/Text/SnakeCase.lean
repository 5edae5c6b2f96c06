/-
A name is cut into words at separators and where the case of its letters or the kind of its
characters changes; the words are lower-cased and joined by `_`.
-/
import RecordMapper.Text.Casing
import RecordMapper.Text.Cluster

namespace RecordMapper.Text

/-- What a cluster is to the cutting of words. -/
inductive ClusterKind where
  | separator
  | upper
  | lower
  | digit
  | other
  deriving DecidableEq, Repr

/-- The kind of a cluster. A cluster has a case when its two casings differ and it equals one. -/
def ClusterKind.of (cluster : List Char) : ClusterKind :=
  if cluster = ['_'] ∨ cluster = ['-'] ∨ cluster = [' '] then .separator
  else if cluster.length = 1 ∧ cluster.all (·.isDigit) then .digit
  else
    let up := Text.upper cluster
    let low := Text.lower cluster
    if up = low then .other
    else if cluster = up then .upper
    else if cluster = low then .lower
    else .other

/-- Whether a word ends between two clusters, given the kinds of both and of the one after. -/
def ClusterKind.parts (left right : ClusterKind) (next : Option ClusterKind) : Bool :=
  match left, right with
  | .lower, .upper => true
  | .upper, .digit => true
  | .digit, .upper => true
  | .digit, .lower => true
  | .lower, .digit => true
  | .upper, .upper => next == some .lower
  | _, _ => false

/-- The words of a text given as clusters with their kinds. The first word of the answer is the one
that is still open at the head, and is empty when the head is a separator. -/
def wordsOfClusters : List (List Char × ClusterKind) → List (List Char)
  | [] => [[]]
  | (cluster, kind) :: rest =>
    match kind, wordsOfClusters rest with
    | .separator, words => [] :: words
    | _, [] => [cluster]
    | _, word :: words =>
      match rest with
      | [] => (cluster ++ word) :: words
      | (_, right) :: more =>
        if kind.parts right (more.head?.map (·.2)) then cluster :: word :: words
        else (cluster ++ word) :: words

/-- The words of a name, without empty ones. -/
def words (cs : List Char) : List (List Char) :=
  (wordsOfClusters ((clusters cs).map fun cluster => (cluster, .of cluster))).filter (!·.isEmpty)

/-- The snake case of a name. -/
def snakeCase (name : String) : String :=
  String.intercalate "_" ((words name.toList).map fun word => String.ofList (lower word))

end RecordMapper.Text
