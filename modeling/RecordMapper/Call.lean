/-
What a mapper function answers for a receiver and arguments. The parameters are variables. Before the
record is built, the missing ones get the receiver's fields, one after the other, and each replaces
the variable it was read from. The method that the function is written as is given its meaning apart:
its variables and fields are known by the words of the source.
-/
import RecordMapper.Emission

namespace RecordMapper

open Code

/-- The values of a record's fields. -/
abbrev FieldValues (α : Type) := List (String × α)

/-- The value of a field. -/
def FieldValues.value? {α : Type} (values : FieldValues α) (field : String) : Option α :=
  values.lookup field

/-- What a variable of a mapper function holds: a value, or a value that may be missing. -/
inductive Argument (α : Type) where
  | value (a : α)
  | optional (a? : Option α)
  deriving DecidableEq, Repr

/-- The variables of a mapper function, the latest first. -/
abbrev Variables (α : Type) := List (String × Argument α)

variable {α : Type}

/-- Whether an argument is of the kind that a parameter takes. -/
def Parameter.takes (parameter : Parameter) : Argument α → Bool
  | .value _ => parameter.isRequired
  | .optional _ => !parameter.isRequired

/-- The variables of parameters and their arguments in order, if these are as many and of the right
kinds. -/
def bindArguments : List Parameter → List (Argument α) → Option (Variables α)
  | [], [] => some []
  | parameter :: parameters, argument :: arguments =>
    if parameter.takes argument then
      (bindArguments parameters arguments).map ((parameter.name, argument) :: ·)
    else none
  | _, _ => none

/-- The variables after the fallback of a parameter: its value, or the field of the receiver. -/
def Parameter.fallBack (receiver : FieldValues α) (scope : Variables α)
    (parameter : Parameter) : Option (Variables α) :=
  match parameter.default? with
  | none => some scope
  | some field =>
    match scope.lookup parameter.name with
    | some (.optional (some a)) => some ((parameter.name, .value a) :: scope)
    | some (.optional none) =>
      (receiver.value? field).map fun a => (parameter.name, .value a) :: scope
    | _ => none

/-- A field of the built record with its value. -/
def FieldInit.build (scope : Variables α) (init : FieldInit) : Option (String × α) :=
  match scope.lookup init.parameter with
  | some (.value a) => some (init.field, a)
  | _ => none

/-- The record that a mapper function builds from a receiver and arguments. There is none if the
arguments are not those that the parameters take, or the receiver lacks a field. -/
def Mapper.call? (mapper : Mapper) (receiver : FieldValues α) (arguments : List (Argument α)) :
    Option (FieldValues α) := do
  let scope ← bindArguments mapper.parameters arguments
  let scope ← mapper.parameters.foldlM (Parameter.fallBack receiver) scope
  mapper.inits.mapM (FieldInit.build scope)

/-! ## Methods -/

/-- Whether an argument is of the type that callers see: an `Option` where a field stands in. -/
def MethodParameter.takes (parameter : MethodParameter) : Argument α → Bool
  | .value _ => parameter.fallback?.isNone
  | .optional _ => parameter.fallback?.isSome

/-- The variables after the statement that replaces a missing argument. The variable on its right
side is the one declared last, and the new one comes before it. -/
def MethodParameter.fallBack (receiver : FieldValues α) (scope : Variables α)
    (parameter : MethodParameter) : Option (Variables α) :=
  match parameter.fallback? with
  | none => some scope
  | some field =>
    match scope.lookup parameter.name.text with
    | some (.optional a?) =>
      (a?.or (receiver.value? field.text)).map fun a => (parameter.name.text, .value a) :: scope
    | _ => none

/-- The name of the variable that a field of the built record is read from. -/
def MethodInit.valueTree (init : MethodInit) : Tree :=
  init.value?.getD init.field

/-- A field of the built record with its value. -/
def MethodInit.build (scope : Variables α) (init : MethodInit) : Option (String × α) :=
  match scope.lookup init.valueTree.text with
  | some (.value a) => some (init.field.text, a)
  | _ => none

namespace Method

/-- Whether arguments are as many as the parameters, and of the types that callers see. -/
def Fits (method : Method) (arguments : List (Argument α)) : Prop :=
  method.parameters.length = arguments.length ∧
    ∀ pair ∈ method.parameters.zip arguments, pair.1.takes pair.2 = true

instance (method : Method) (arguments : List (Argument α)) : Decidable (method.Fits arguments) :=
  inferInstanceAs (Decidable (_ ∧ _))

/-- The record that a method answers. There is none for arguments that do not fit. -/
def call? (method : Method) (receiver : FieldValues α) (arguments : List (Argument α)) :
    Option (FieldValues α) :=
  if method.Fits arguments then do
    let bound := (method.parameters.map (·.name.text)).zip arguments
    let scope ← method.parameters.foldlM (MethodParameter.fallBack receiver) bound
    method.inits.mapM (MethodInit.build scope)
  else none

end Method

end RecordMapper
