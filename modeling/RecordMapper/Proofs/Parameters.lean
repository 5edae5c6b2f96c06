/-
The function that a plan gives asks for every field of the target once: first for those that the origin
cannot supply, then for the others, and otherwise in the order of the target. Its parameters are made from
the plan and its body from the target, and both name the same fields.
-/
import RecordMapper.Proofs.Planning

namespace RecordMapper

/-- The field that a parameter asks for. -/
def Parameter.field (parameter : Parameter) : Field := ⟨parameter.name, parameter.ty⟩

/-- A function that takes the fields of an origin over into a target, and asks for the rest. -/
structure Mapper.Completes (mapper : Mapper) (origin target : Schema) (known fields : List Field) :
    Prop where
  name : mapper.name = target.identity.mapperName
  receiver : mapper.receiver = origin.identity
  returns : mapper.returns = target.identity
  /-- Every field of the target is asked for once. -/
  once : (mapper.parameters.map Parameter.field).Perm fields
  /-- The required ones come first, and both parts keep the order of the target. -/
  order :
    let inOrder := fields.map (Field.parameterIn known)
    mapper.parameters = inOrder.filter (·.isRequired) ++ inOrder.filter (!·.isRequired)
  /-- A parameter has a default exactly if the origin has its field, and the default is that field. -/
  default : ∀ parameter ∈ mapper.parameters, ∀ name, parameter.default? = some name ↔
    name = parameter.name ∧ origin.field? name = some parameter.field
  record : mapper.record = target.identity
  /-- The body gives every field of the target in order, each by the parameter of its name. -/
  inits : mapper.inits = fields.map fun field => ⟨field.name, field.name⟩
  bound : ∀ init ∈ mapper.inits, ∃ parameter ∈ mapper.parameters, parameter.name = init.parameter

section Fields

variable {origin target : Schema} {known fields : List Field}

theorem Field.isRequired_parameterIn (known : List Field) (field : Field) :
    (field.parameterIn known).isRequired = !decide (field ∈ known) := by
  by_cases h : field ∈ known
  · simp [parameterIn, Parameter.isRequired, h]
  · simp [parameterIn, Parameter.isRequired, h]

/-- A record is found to have a field exactly if it lists it. -/
theorem Schema.field?_eq_some_iff (ho : origin.fields? = some known) {field : Field} :
    origin.field? field.name = some field ↔ field ∈ known := by
  rw [field?, ho, Option.bind_some]
  constructor
  · exact List.mem_of_find?_eq_some
  · exact find?_key_of_mem (nodup_fields ho)

theorem completes_plannedMapper (ho : origin.fields? = some known) (ht : target.fields? = some fields) :
    (plannedMapper origin target fields).Completes origin target known fields where
  name := rfl
  receiver := rfl
  returns := rfl
  once := by
    have same : Parameter.field ∘ Field.parameterIn known = id := rfl
    have perm := (perm_parameters ho ht).map Parameter.field
    rwa [List.map_map, same, List.map_id] at perm
  order := by
    simp only [parameters_plannedMapper ho ht, List.filter_map, List.map_append, Function.comp_def,
      Field.isRequired_parameterIn, Bool.not_not]
  default := by
    intro parameter hp name
    obtain ⟨field, -, rfl⟩ := (mem_parameters_iff ho ht).mp hp
    by_cases shared : field ∈ known
    · have found := (Schema.field?_eq_some_iff ho).mpr shared
      simp only [Field.parameterIn, if_pos shared, Option.some.injEq, Parameter.field]
      constructor
      · rintro rfl
        exact ⟨rfl, found⟩
      · exact fun h => h.1.symm
    · simp only [Field.parameterIn, if_neg shared, Parameter.field]
      constructor
      · intro h
        cases h
      · rintro ⟨rfl, found⟩
        exact absurd ((Schema.field?_eq_some_iff ho).mp found) shared
  record := rfl
  inits := rfl
  bound := by
    intro init hi
    obtain ⟨field, hf, rfl⟩ := List.mem_map.mp hi
    exact ⟨field.parameterIn known, (mem_parameters_iff ho ht).mpr ⟨field, hf, rfl⟩, rfl⟩

end Fields

/-- **Planning and synthesis together.** Between records of known fields they give a function that completes
the origin to the target. Otherwise they fail for want of fields, and say so of the origin before the
target. -/
theorem synthesize_plan (origin target : Schema) :
    match origin.fieldList, target.fieldList with
    | .resolved known _, .resolved fields _ =>
      ∃ mapper, synthesize origin target (plan origin target) = .ok mapper ∧
        mapper.Completes origin target known fields
    | .unresolved reason, _ =>
      synthesize origin target (plan origin target) =
        .error (.malformedSchema origin.identity origin.identity reason)
    | .resolved .., .unresolved reason =>
      synthesize origin target (plan origin target) =
        .error (.malformedSchema origin.identity target.identity reason) := by
  obtain ⟨identity, _ | reason⟩ := origin
  · obtain ⟨identity', _ | reason'⟩ := target
    · exact ⟨_, synthesize_of_fields rfl rfl, completes_plannedMapper rfl rfl⟩
    · exact synthesize_of_reason rfl rfl
  · rfl

end RecordMapper
