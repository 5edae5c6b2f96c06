/-
A directive names one origin and the records it is to be mapped to, of which there is at least one.
-/
import RecordMapper.Schema

namespace RecordMapper

/-- A request for mapper functions from one origin to each of several targets. -/
structure Directive where
  origin : Schema
  targets : List Schema
  targets_ne_nil : targets ≠ []
  deriving DecidableEq

namespace Directive

/-- A directive with a list of targets; an empty list is refused. -/
def ofTargets (origin : Schema) (targets : List Schema) : Except SchemaError Directive :=
  if h : targets = [] then .error (.emptyDirective origin.identity) else .ok ⟨origin, targets, h⟩

/-- A directive with one target. -/
def single (origin target : Schema) : Directive :=
  ⟨origin, [target], List.cons_ne_nil _ _⟩

end Directive

end RecordMapper
