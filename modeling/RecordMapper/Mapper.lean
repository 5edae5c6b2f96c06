/-
A mapper function is a method of the origin that builds the target: the fields that need a value from
the caller are its first parameters, those with a default follow, and its body names every field of
the target once.
-/
import RecordMapper.Diagnostic
import RecordMapper.Plan

namespace RecordMapper

/-- A parameter of a mapper function; `default?` names the origin field used when it is left out. -/
structure Parameter where
  name : String
  ty : TypeText
  default? : Option String
  deriving DecidableEq, Repr

/-- Whether the caller has to supply the parameter. -/
def Parameter.isRequired (parameter : Parameter) : Bool :=
  parameter.default?.isNone

/-- A field of the built record and the parameter that gives its value. -/
structure FieldInit where
  field : String
  parameter : String
  deriving DecidableEq, Repr

/-- A function from a receiver and arguments to a target record. -/
structure Mapper where
  name : String
  receiver : Identity
  returns : Identity
  parameters : List Parameter
  /-- The record that the body builds. -/
  record : Identity
  inits : List FieldInit
  deriving DecidableEq, Repr

namespace Mapper

/-- The parameter of a name. -/
def parameter? (mapper : Mapper) (name : String) : Option Parameter :=
  mapper.parameters.find? (·.name = name)

end Mapper

/-- The parameter that a binding asks for. -/
def FieldBinding.parameter (bound : FieldBinding) : Parameter where
  name := bound.field.name
  ty := bound.field.ty
  default? :=
    match bound.binding with
    | .explicit => none
    | .defaulted originField => some originField

/-- The diagnostic for a record without a field list in a directive on `origin`. -/
def Schema.malformedIn (schema : Schema) (origin : Identity) : Diagnostic :=
  .malformedSchema origin schema.identity
    (schema.unresolvedReason?.getD "field list unavailable")

/-- The mapper function of a plan. It fails only when the origin or, after it, the target has no
field list. -/
def synthesize (origin target : Schema) (plan : Plan) : Except Diagnostic Mapper :=
  match origin.fields?, target.fields? with
  | none, _ => .error (origin.malformedIn origin.identity)
  | some _, none => .error (target.malformedIn origin.identity)
  | some _, some fields => .ok {
      name := target.identity.mapperName
      receiver := origin.identity
      returns := target.identity
      parameters := (plan.explicit ++ plan.defaulted).map FieldBinding.parameter
      record := target.identity
      inits := fields.map fun field => ⟨field.name, field.name⟩ }

end RecordMapper
