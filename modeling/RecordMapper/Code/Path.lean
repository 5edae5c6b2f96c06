/-
What a path node says, apart from its spans: whether it starts at the root of all crates, and the
names of its segments.
-/
import RecordMapper.Code.Tree

namespace RecordMapper.Code.Tree

/-- The name of a segment. -/
def segmentName? : Tree → Option String
  | node .segment (token (.word name) _ :: _) => some name
  | _ => none

/-- The parts of a segment after its name. -/
def segmentArguments : Tree → List Tree
  | node .segment (_ :: arguments) => arguments
  | _ => []

/-- The segments of a path. -/
def segments : Tree → List Tree
  | node .path parts => parts.filter fun part => (segmentName? part).isSome
  | _ => []

/-- The names of a path's segments. -/
def pathNames (path : Tree) : List String :=
  (segments path).filterMap segmentName?

/-- The `::` that a path starts with. -/
def leadingColons? : Tree → Option Tree
  | node .path (token (.punct "::" joint) span :: _) => some (token (.punct "::" joint) span)
  | _ => none

/-- The arguments of a path's last segment. -/
def lastArguments (path : Tree) : List Tree :=
  ((segments path).getLast?.map segmentArguments).getD []

/-- Segments joined by `::` with other arguments for the last. -/
def replaceLastArguments (arguments : List Tree) : List Tree → List Tree
  | [] => []
  | [node .segment (name :: _)] => [node .segment (name :: arguments)]
  | part :: rest => part :: replaceLastArguments arguments rest

/-- A path with other arguments for its last segment. -/
def withLastArguments (arguments : List Tree) : Tree → Tree
  | node .path parts => node .path (replaceLastArguments arguments parts)
  | tree => tree

end RecordMapper.Code.Tree
