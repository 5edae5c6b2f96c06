/-
For every field of a target, in order, where its value comes from: an origin field of the same name
and type, or the caller.
-/
import RecordMapper.Schema

namespace RecordMapper

/-- How a field of the target gets its value. -/
inductive Binding where
  /-- The caller supplies the value. -/
  | explicit
  /-- The value defaults to the origin field of this name. -/
  | defaulted (originField : String)
  deriving DecidableEq, Repr

/-- A field of the target with its binding. -/
structure FieldBinding where
  field : Field
  binding : Binding
  deriving DecidableEq, Repr

/-- Whether the field has a default. -/
def FieldBinding.isDefaulted (bound : FieldBinding) : Bool :=
  match bound.binding with
  | .explicit => false
  | .defaulted _ => true

/-- The bindings of every field of a target, in the order of the target. -/
structure Plan where
  origin : Identity
  target : Identity
  bindings : List FieldBinding
  deriving DecidableEq, Repr

namespace Plan

/-- The fields that the caller has to supply. -/
def explicit (plan : Plan) : List FieldBinding :=
  plan.bindings.filter (!·.isDefaulted)

/-- The fields that have a default. -/
def defaulted (plan : Plan) : List FieldBinding :=
  plan.bindings.filter (·.isDefaulted)

end Plan

/-- The binding of one target field: the first origin field that agrees with it, else none. -/
def Field.bindingIn (originFields : List Field) (field : Field) : Binding :=
  match originFields.find? (·.agrees field) with
  | some origin => .defaulted origin.name
  | none => .explicit

/-- The plan from an origin to a target. Unknown origin fields match nothing, and an unknown target
has no bindings. -/
def plan (origin target : Schema) : Plan where
  origin := origin.identity
  target := target.identity
  bindings := (target.fields?.getD []).map fun field =>
    ⟨field, field.bindingIn (origin.fields?.getD [])⟩

end RecordMapper
