/-
What goes wrong in a pass is reported and does not end it. A diagnostic concerns either a whole directive or one of its targets.
-/
import RecordMapper.Identity

namespace RecordMapper

/-- What went wrong with a directive or with one of its targets. -/
inductive Diagnostic where
  /-- The record `identity` has no field list. -/
  | malformedSchema (origin identity : Identity) (reason : String)
  /-- The target was already named in the same directive. -/
  | duplicateTarget (origin target : Identity)
  /-- The target's function would have the name of the function to `first`. -/
  | nameCollision (origin : Identity) (name : String) (first target : Identity)
  /-- The origin already has a module. -/
  | duplicateOrigin (origin : Identity)
  deriving DecidableEq, Repr

namespace Diagnostic

/-- The wording of a diagnostic. -/
def message : Diagnostic → String
  | malformedSchema _ identity reason =>
    "`" ++ identity.text ++ "` has no accessible field list: " ++ reason
  | duplicateTarget origin target =>
    "`" ++ target.text ++ "` appears more than once in the targets of `" ++ origin.text ++ "`"
  | nameCollision origin name first target =>
    "`" ++ target.text ++ "` and `" ++ first.text ++ "` both generate `" ++ origin.text ++ "::" ++
      name ++ "`"
  | duplicateOrigin origin =>
    "`" ++ origin.text ++ "` is declared as a mapping origin more than once"

/-- The origin of the directive concerned. -/
def origin : Diagnostic → Identity
  | malformedSchema origin _ _ => origin
  | duplicateTarget origin _ => origin
  | nameCollision origin _ _ _ => origin
  | duplicateOrigin origin => origin

/-- The target concerned, if the diagnostic is about one target. A missing field list is laid to the
directive when it is the origin's own. -/
def target? : Diagnostic → Option Identity
  | malformedSchema origin identity _ => if identity = origin then none else some identity
  | duplicateTarget _ target => some target
  | nameCollision _ _ _ target => some target
  | duplicateOrigin _ => none

end Diagnostic

end RecordMapper
