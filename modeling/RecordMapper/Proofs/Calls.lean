/-
The parameters of a mapper function are the target's fields reordered, and the record is built in the
order of the target, so nothing lines up by position: everything here goes by name. The fallbacks
shadow the variables they read, and what makes the run harmless is that parameters have different
names, so that a fallback changes no variable but its own.
-/
import RecordMapper.Call
import RecordMapper.Proofs.Planning
import RecordMapper.Proofs.WrittenNames
import RecordMapper.Samples

namespace RecordMapper

open Code

variable {α : Type}

namespace FieldValues

/-- The values are those of a record with these fields, in their order. -/
def OfFields (values : FieldValues α) (fields : List Field) : Prop :=
  values.map Prod.fst = fields.map Field.name

variable {values others : FieldValues α} {fields : List Field}

theorem OfFields.exists_value (h : values.OfFields fields) {field : Field} (hm : field ∈ fields) :
    ∃ value, values.value? field.name = some value := by
  refine exists_lookup_of_mem ?_
  rw [show values.map Prod.fst = fields.map Field.name from h]
  exact List.mem_map_of_mem hm

end FieldValues

/-! ## Arguments -/

/-- The value that an argument supplies. -/
def Argument.given? : Argument α → Option α
  | .value a => some a
  | .optional a? => a?

/-- The value of a parameter: what its argument supplies, else the receiver's field. -/
def Parameter.settle? (receiver : FieldValues α) (parameter : Parameter) (argument : Argument α) :
    Option α :=
  argument.given?.or (parameter.default?.bind receiver.value?)

namespace Mapper

/-- Arguments that fit the parameters of a function: as many, and each of the kind its parameter
takes. -/
structure Accepts (mapper : Mapper) (arguments : List (Argument α)) : Prop where
  length_eq : mapper.parameters.length = arguments.length
  takes : ∀ pair ∈ mapper.parameters.zip arguments, pair.1.takes pair.2 = true

/-- The value that the arguments supply for a field of the target. -/
def supplied? (mapper : Mapper) (arguments : List (Argument α)) (field : String) : Option α :=
  (((mapper.parameters.map Parameter.name).zip arguments).lookup field).bind Argument.given?

end Mapper

/-- Fitting arguments are bound to the names of their parameters. -/
theorem bindArguments_eq_zip {parameters : List Parameter} {arguments : List (Argument α)}
    (length_eq : parameters.length = arguments.length)
    (takes : ∀ pair ∈ parameters.zip arguments, pair.1.takes pair.2 = true) :
    bindArguments parameters arguments = some ((parameters.map Parameter.name).zip arguments) := by
  induction parameters generalizing arguments with
  | nil =>
    cases arguments with
    | nil => rfl
    | cons argument arguments => cases length_eq
  | cons parameter parameters ih =>
    cases arguments with
    | nil => cases length_eq
    | cons argument arguments =>
      have first : parameter.takes argument = true := takes (parameter, argument) (by simp)
      have rest := ih (Nat.succ.inj length_eq) fun pair hm => takes pair (by simp [hm])
      simp [bindArguments, first, rest]

/-- A fallback settles its own variable and leaves every other one alone. -/
theorem Parameter.fallBack_eq {receiver : FieldValues α} {scope : Variables α}
    {parameter : Parameter} {argument : Argument α} {value : α}
    (bound : scope.lookup parameter.name = some argument) (takes : parameter.takes argument = true)
    (settled : parameter.settle? receiver argument = some value) :
    ∃ next, parameter.fallBack receiver scope = some next ∧
      next.lookup parameter.name = some (.value value) ∧
      ∀ name, name ≠ parameter.name → next.lookup name = scope.lookup name := by
  unfold fallBack
  cases hd : parameter.default? with
  | none =>
    cases argument with
    | value a =>
      refine ⟨scope, rfl, ?_, fun _ _ => rfl⟩
      have : a = value := by simpa [settle?, Argument.given?] using settled
      rw [bound, this]
    | optional a? => simp [Parameter.takes, isRequired, hd] at takes
  | some field =>
    have shadow : ∀ name, name ≠ parameter.name →
        List.lookup name ((parameter.name, .value value) :: scope) = scope.lookup name := by
      intro name apart
      rw [List.lookup_cons, beq_false_of_ne apart]
    cases argument with
    | value a => simp [Parameter.takes, isRequired, hd] at takes
    | optional a? =>
      cases a? with
      | some a =>
        have : a = value := by simpa [settle?, Argument.given?] using settled
        subst this
        exact ⟨(parameter.name, .value a) :: scope, by simp [bound], by simp, shadow⟩
      | none =>
        have found : receiver.value? field = some value := by
          simpa [settle?, Argument.given?, hd] using settled
        exact ⟨(parameter.name, .value value) :: scope, by simp [bound, found], by simp, shadow⟩

/-- The fallbacks of parameters with different names, one after the other. The induction carries a
scope in which the parameters still to come are untouched. -/
theorem foldlM_fallBack {receiver : FieldValues α} {pairs : List (Parameter × Argument α)}
    {scope : Variables α} (nodup : (pairs.map fun pair => pair.1.name).Nodup)
    (bound : ∀ pair ∈ pairs, scope.lookup pair.1.name = some pair.2)
    (takes : ∀ pair ∈ pairs, pair.1.takes pair.2 = true)
    (settled : ∀ pair ∈ pairs, ∃ value, pair.1.settle? receiver pair.2 = some value) :
    ∃ last, (pairs.map Prod.fst).foldlM (Parameter.fallBack receiver) scope = some last ∧
      (∀ pair ∈ pairs, last.lookup pair.1.name = (pair.1.settle? receiver pair.2).map .value) ∧
      ∀ name ∉ pairs.map (fun pair => pair.1.name), last.lookup name = scope.lookup name := by
  induction pairs generalizing scope with
  | nil => exact ⟨scope, rfl, by simp, fun _ _ => rfl⟩
  | cons pair pairs ih =>
    rw [List.map_cons, List.nodup_cons] at nodup
    obtain ⟨value, hvalue⟩ := settled pair (by simp)
    obtain ⟨next, step, own, others⟩ :=
      Parameter.fallBack_eq (bound pair (by simp)) (takes pair (by simp)) hvalue
    have apart : ∀ other ∈ pairs, other.1.name ≠ pair.1.name := by
      intro other hm same
      exact nodup.1 (List.mem_map.mpr ⟨other, hm, same⟩)
    obtain ⟨last, run, settles, frame⟩ := ih nodup.2
      (fun other hm => (others _ (apart other hm)).trans (bound other (List.mem_cons_of_mem _ hm)))
      (fun other hm => takes other (List.mem_cons_of_mem _ hm))
      (fun other hm => settled other (List.mem_cons_of_mem _ hm))
    refine ⟨last, by simp [step, run], fun other hm => ?_, fun name hn => ?_⟩
    · rcases List.mem_cons.mp hm with rfl | later
      · rw [frame _ nodup.1, own, hvalue, Option.map_some]
      · exact settles other later
    · rw [List.map_cons, List.mem_cons, not_or] at hn
      rw [frame name hn.2, others name hn.1]

/-! ## Records -/

/-- The record built from variables that hold values has the target's fields in order. -/
theorem mapM_build {scope : Variables α} {fields : List Field}
    (nodup : (fields.map Field.name).Nodup)
    (h : ∀ field ∈ fields, ∃ value, scope.lookup field.name = some (.value value)) :
    ∃ values : FieldValues α,
      (fields.map fun field => FieldInit.mk field.name field.name).mapM (FieldInit.build scope) =
        some values ∧
      values.OfFields fields ∧
      ∀ field ∈ fields,
        values.value? field.name = (scope.lookup field.name).bind Argument.given? := by
  induction fields with
  | nil => exact ⟨[], rfl, rfl, by simp⟩
  | cons field fields ih =>
    rw [List.map_cons, List.nodup_cons] at nodup
    obtain ⟨value, hvalue⟩ := h field (by simp)
    obtain ⟨values, built, names, found⟩ :=
      ih nodup.2 fun other hm => h other (List.mem_cons_of_mem _ hm)
    refine ⟨(field.name, value) :: values, ?_, ?_, fun other hm => ?_⟩
    · simp [FieldInit.build, hvalue, built]
    · exact congrArg (field.name :: ·) names
    · rcases List.mem_cons.mp hm with rfl | later
      · simp [FieldValues.value?, hvalue, Argument.given?]
      · have apart : other.name ≠ field.name := by
          intro same
          exact nodup.1 (same ▸ List.mem_map_of_mem later)
        rw [FieldValues.value?, List.lookup_cons, beq_false_of_ne apart]
        exact found other later

/-! ## Calls -/

namespace Mapper

variable {mapper : Mapper} {arguments : List (Argument α)} {receiver : FieldValues α}

theorem zip_names (mapper : Mapper) (arguments : List (Argument α)) :
    (mapper.parameters.map Parameter.name).zip arguments =
      (mapper.parameters.zip arguments).map fun pair => (pair.1.name, pair.2) := by
  rw [List.zip_map_left]
  rfl

theorem Accepts.map_fst (h : mapper.Accepts arguments) :
    (mapper.parameters.zip arguments).map Prod.fst = mapper.parameters :=
  List.map_fst_zip (Nat.le_of_eq h.length_eq)

theorem Accepts.map_name (h : mapper.Accepts arguments) :
    (mapper.parameters.zip arguments).map (fun pair => pair.1.name) =
      mapper.parameters.map Parameter.name :=
  List.map_map.symm.trans (congrArg (List.map Parameter.name) h.map_fst)

theorem Accepts.exists_argument (h : mapper.Accepts arguments) {parameter : Parameter}
    (hm : parameter ∈ mapper.parameters) :
    ∃ argument, (parameter, argument) ∈ mapper.parameters.zip arguments := by
  rw [← h.map_fst, List.mem_map] at hm
  obtain ⟨⟨_, argument⟩, hp, rfl⟩ := hm
  exact ⟨argument, hp⟩

/-- The scope of bound arguments, looked up by the name of a parameter. -/
theorem Accepts.lookup (h : mapper.Accepts arguments)
    (nodup : (mapper.parameters.map Parameter.name).Nodup) {parameter : Parameter}
    {argument : Argument α} (hp : (parameter, argument) ∈ mapper.parameters.zip arguments) :
    ((mapper.parameters.map Parameter.name).zip arguments).lookup parameter.name =
      some argument := by
  rw [zip_names]
  refine lookup_of_mem ?_ (List.mem_map.mpr ⟨_, hp, rfl⟩)
  rw [List.map_map]
  exact h.map_name ▸ nodup

theorem Accepts.supplied?_eq (h : mapper.Accepts arguments)
    (nodup : (mapper.parameters.map Parameter.name).Nodup) {parameter : Parameter}
    {argument : Argument α} (hp : (parameter, argument) ∈ mapper.parameters.zip arguments) :
    mapper.supplied? arguments parameter.name = argument.given? := by
  rw [supplied?, h.lookup nodup hp, Option.bind_some]

end Mapper

/-! ## Methods as they are written -/

/-- A parameter of a method goes by the names of a parameter. -/
structure Parameter.WrittenAs (parameter : Parameter) (written : MethodParameter) : Prop where
  name : written.name.text = parameter.name
  fallback? : written.fallback?.map Tree.text = parameter.default?

/-- A field of the record that a method builds goes by the names of a field. -/
structure FieldInit.WrittenAs (init : FieldInit) (written : MethodInit) : Prop where
  field : written.field.text = init.field
  valueTree : written.valueTree.text = init.parameter

namespace Parameter.WrittenAs

variable {parameter : Parameter} {written : MethodParameter}

theorem fallBack_eq (h : parameter.WrittenAs written) (receiver : FieldValues α) (scope : Variables α) :
    written.fallBack receiver scope = parameter.fallBack receiver scope := by
  unfold MethodParameter.fallBack Parameter.fallBack
  rw [← h.fallback?, h.name]
  cases written.fallback? with
  | none => rfl
  | some field =>
    dsimp only [Option.map_some]
    rcases scope.lookup parameter.name with _ | _ | _ | a <;> rfl

end Parameter.WrittenAs

section Laws

variable {origin target : Schema} {known fields : List Field} {receiver : FieldValues α}
  {arguments : List (Argument α)}

/-- What a call answers once every parameter gets a value. -/
theorem exists_call (ho : origin.fields? = some known) (ht : target.fields? = some fields)
    (accepts : (plannedMapper origin target fields).Accepts arguments)
    (settled : ∀ pair ∈ (plannedMapper origin target fields).parameters.zip arguments,
      ∃ value, pair.1.settle? receiver pair.2 = some value) :
    ∃ values, (plannedMapper origin target fields).call? receiver arguments =
        some values ∧
      values.OfFields fields ∧
      ∀ field ∈ fields, values.value? field.name =
        ((plannedMapper origin target fields).supplied? arguments field.name).or
          (if field ∈ known then receiver.value? field.name else none) := by
  have nodup := nodup_parameters ho ht
  have mem : ∀ field ∈ fields,
      field.parameterIn known ∈ (plannedMapper origin target fields).parameters :=
    fun field hm => (mem_parameters_iff ho ht).mpr ⟨field, hm, rfl⟩
  generalize hmapper : plannedMapper origin target fields = mapper at *
  have bound := bindArguments_eq_zip accepts.length_eq accepts.takes
  obtain ⟨last, run, settles, -⟩ := foldlM_fallBack (accepts.map_name ▸ nodup)
    (fun _ hp => accepts.lookup nodup hp) accepts.takes settled
  rw [accepts.map_fst] at run
  have holds : ∀ field ∈ fields, ∃ value, last.lookup field.name = some (.value value) ∧
      some value = (mapper.supplied? arguments field.name).or
        (if field ∈ known then receiver.value? field.name else none) := by
    intro field hm
    obtain ⟨argument, hp⟩ := accepts.exists_argument (mem field hm)
    obtain ⟨value, hvalue⟩ := settled _ hp
    have given : mapper.supplied? arguments field.name = argument.given? :=
      accepts.supplied?_eq nodup hp
    have settled_value := settles _ hp
    rw [hvalue] at settled_value
    refine ⟨value, settled_value, ?_⟩
    rw [given, ← hvalue, Parameter.settle?]
    by_cases hk : field ∈ known
    · simp [Field.parameterIn, hk]
    · simp [Field.parameterIn, hk]
  obtain ⟨values, built, names, found⟩ := mapM_build (Schema.nodup_fields ht) fun field hm => by
    obtain ⟨value, hl, -⟩ := holds field hm
    exact ⟨value, hl⟩
  refine ⟨values, ?_, names, fun field hm => ?_⟩
  · have inits : mapper.inits = fields.map fun field => ⟨field.name, field.name⟩ := by
      rw [← hmapper]
      rfl
    simp [Mapper.call?, bound, run, inits, built, -List.mapM_map]
  · obtain ⟨value, hl, hvalue⟩ := holds field hm
    rw [found field hm, hl, ← hvalue]
    rfl

/-- A receiver with the fields of the origin settles every parameter. -/
theorem exists_settled_of_receiver (ho : origin.fields? = some known)
    (ht : target.fields? = some fields) (hr : receiver.OfFields known)
    (accepts : (plannedMapper origin target fields).Accepts arguments) :
    ∀ pair ∈ (plannedMapper origin target fields).parameters.zip arguments,
      ∃ value, pair.1.settle? receiver pair.2 = some value := by
  rintro ⟨parameter, argument⟩ hp
  obtain ⟨field, hm, rfl⟩ := (mem_parameters_iff ho ht).mp (List.of_mem_zip hp).1
  have takes := accepts.takes _ hp
  by_cases hk : field ∈ known
  · obtain ⟨value, hvalue⟩ := hr.exists_value hk
    cases hg : argument.given? with
    | some given => exact ⟨given, by simp [Parameter.settle?, hg]⟩
    | none => exact ⟨value, by simp [Parameter.settle?, hg, Field.parameterIn, hk, hvalue]⟩
  · -- A required parameter takes a value and nothing else.
    cases argument with
    | value given => exact ⟨given, rfl⟩
    | optional a? => simp [Parameter.takes, Parameter.isRequired, Field.parameterIn, hk] at takes

end Laws

/-- A function builds a record of some fields from one of others: every field holds the argument supplied for
it, else the receiver's field of its name and type. -/
def Mapper.Maps (mapper : Mapper) (known fields : List Field) : Prop :=
  ∀ {α : Type} (receiver : FieldValues α) (arguments : List (Argument α)),
    receiver.OfFields known → mapper.Accepts arguments →
    ∃ values, mapper.call? receiver arguments = some values ∧ values.OfFields fields ∧
      ∀ field ∈ fields, values.value? field.name =
        (mapper.supplied? arguments field.name).or
          (if field ∈ known then receiver.value? field.name else none)

/-- Every function of a pass maps the origin of a directive to one of its targets. -/
theorem exists_maps_of_generate {directives : List Directive} {module : MapperModule} {mapper : Mapper}
    (hm : module ∈ (generate directives).modules) (hf : mapper ∈ module.functions) :
    ∃ directive ∈ directives, module.origin = directive.origin.identity ∧
      ∃ target ∈ directive.targets, mapper.record = target.identity ∧
        ∃ known fields, directive.origin.fields? = some known ∧ target.fields? = some fields ∧
          mapper.Maps known fields := by
  obtain ⟨directive, hd, origin, -, functions⟩ := exists_makes hm
  obtain ⟨target, ht, made⟩ := functions mapper hf
  obtain ⟨known, fields, ho, hfields, rfl⟩ := exists_fields_of_synthesize made
  refine ⟨directive, hd, origin, target, ht, rfl, known, fields, ho, hfields, ?_⟩
  intro α receiver arguments hr accepts
  exact exists_call ho hfields accepts (exists_settled_of_receiver ho hfields hr accepts)

/-- So does the mapper of a name that sample directives ask for: it maps the record of that name. -/
theorem Samples.exists_maps_of_mapper? {requested : Except SchemaError (List Directive)}
    {origin : Identity} {name : String} {mapper : Mapper}
    (h : mapper? requested origin name = some mapper) :
    mapper.name = name ∧ ∃ directives, requested = .ok directives ∧
      ∃ directive ∈ directives, directive.origin.identity = origin ∧
        ∃ target ∈ directive.targets, mapper.record = target.identity ∧
          ∃ known fields, directive.origin.fields? = some known ∧ target.fields? = some fields ∧
            mapper.Maps known fields := by
  cases requested with
  | error cause => cases h
  | ok directives =>
    obtain ⟨module, found, own⟩ := Option.bind_eq_some_iff.mp h
    have named := List.find?_some own
    have of := List.find?_some found
    obtain ⟨directive, hd, same, maps⟩ :=
      exists_maps_of_generate (List.mem_of_find?_eq_some found) (List.mem_of_find?_eq_some own)
    refine ⟨by simpa using named, directives, rfl, directive, hd, ?_, maps⟩
    rw [← same]
    simpa using of

/-- Both sets of samples ask for mappers to a record with one field more. -/
example :
    (Samples.mapper? Samples.declared ⟨"crate::models::OriginModel"⟩ "mapToDestinationModel").isSome = true ∧
    (Samples.mapper? Samples.inPlace ⟨"OriginModel"⟩ "mapToDestinationModel").isSome = true := by
  decide +kernel

end RecordMapper
