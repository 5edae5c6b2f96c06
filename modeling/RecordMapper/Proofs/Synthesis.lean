/-
A schema has known fields or a reason for having none, and `synthesize` looks at nothing else: it
fails exactly when the origin or the target has no fields, and otherwise its answer is named after the
target and returns it.
-/
import RecordMapper.Mapper

namespace RecordMapper

namespace Schema

theorem fields?_isSome_iff {schema : Schema} :
    schema.fields?.isSome = true ↔ schema.unresolvedReason? = none := by
  unfold fields? unresolvedReason?
  cases schema.fieldList <;> simp

theorem fields?_eq_none_of_reason {schema : Schema} {reason : String}
    (h : schema.unresolvedReason? = some reason) : schema.fields? = none := by
  unfold unresolvedReason? at h
  unfold fields?
  cases hl : schema.fieldList with
  | resolved fields distinct => simp [hl] at h
  | unresolved reason => rfl

theorem exists_fields_of_reason_none {schema : Schema} (h : schema.unresolvedReason? = none) :
    ∃ fields, schema.fields? = some fields :=
  Option.isSome_iff_exists.mp (fields?_isSome_iff.mpr h)

/-- The known fields of a record have different names. -/
theorem nodup_fields {schema : Schema} {fields : List Field} (h : schema.fields? = some fields) :
    (fields.map Field.name).Nodup := by
  unfold fields? at h
  cases hl : schema.fieldList with
  | resolved known distinct =>
    simp only [hl, Option.some.injEq] at h
    subst h
    exact distinct
  | unresolved reason => simp [hl] at h

theorem malformedIn_of_reason {schema : Schema} {reason : String} {origin : Identity}
    (h : schema.unresolvedReason? = some reason) :
    schema.malformedIn origin = .malformedSchema origin schema.identity reason := by
  simp [malformedIn, h]

end Schema

/-- The mapper function of a plan between records whose fields are known. -/
def mapperOf (origin target : Schema) (plan : Plan) (fields : List Field) : Mapper where
  name := target.identity.mapperName
  receiver := origin.identity
  returns := target.identity
  parameters := (plan.explicit ++ plan.defaulted).map FieldBinding.parameter
  record := target.identity
  inits := fields.map fun field => ⟨field.name, field.name⟩

variable {origin target : Schema} {plan : Plan}

theorem synthesize_of_fields {known fields : List Field} (ho : origin.fields? = some known)
    (ht : target.fields? = some fields) :
    synthesize origin target plan = .ok (mapperOf origin target plan fields) := by
  simp [synthesize, ho, ht, mapperOf]

theorem synthesize_of_reason {known : List Field} {reason : String}
    (ho : origin.fields? = some known) (ht : target.unresolvedReason? = some reason) :
    synthesize origin target plan =
      .error (.malformedSchema origin.identity target.identity reason) := by
  simp [synthesize, ho, Schema.fields?_eq_none_of_reason ht, Schema.malformedIn_of_reason ht]

theorem exists_fields_of_synthesize {function : Mapper}
    (h : synthesize origin target plan = .ok function) :
    ∃ known fields, origin.fields? = some known ∧ target.fields? = some fields ∧
      function = mapperOf origin target plan fields := by
  cases ho : origin.fields? with
  | none => simp [synthesize, ho] at h
  | some known =>
    cases ht : target.fields? with
    | none => simp [synthesize, ho, ht] at h
    | some fields =>
      rw [synthesize_of_fields ho ht, Except.ok.injEq] at h
      exact ⟨known, fields, rfl, rfl, h.symm⟩

theorem name_of_synthesize {function : Mapper} (h : synthesize origin target plan = .ok function) :
    function.name = target.identity.mapperName := by
  obtain ⟨_, _, -, -, rfl⟩ := exists_fields_of_synthesize h
  rfl

theorem returns_of_synthesize {function : Mapper}
    (h : synthesize origin target plan = .ok function) : function.returns = target.identity := by
  obtain ⟨_, _, -, -, rfl⟩ := exists_fields_of_synthesize h
  rfl

end RecordMapper
