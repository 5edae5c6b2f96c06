/-
Two fields agree when they are one field, so a target field has a default exactly when it is among the
fields of the origin, and its default is the origin field of its own name. The parameters of a mapper
function are therefore those of the target's fields, reordered.
-/
import RecordMapper.Proofs.Synthesis
import Mathlib.Data.List.Nodup

namespace RecordMapper

/-! ## Lookups -/

theorem lookup_of_mem {β : Type} {pairs : List (String × β)} (nodup : (pairs.map Prod.fst).Nodup)
    {name : String} {value : β} (h : (name, value) ∈ pairs) : pairs.lookup name = some value := by
  induction pairs with
  | nil => cases h
  | cons pair rest ih =>
    obtain ⟨key, first⟩ := pair
    simp only [List.map_cons, List.nodup_cons] at nodup
    rcases List.mem_cons.mp h with same | later
    · cases same
      simp
    · have apart : name ≠ key := by
        rintro rfl
        exact nodup.1 (List.mem_map_of_mem (f := Prod.fst) later)
      rw [List.lookup_cons, beq_false_of_ne apart]
      exact ih nodup.2 later

theorem exists_lookup_of_mem {β : Type} {pairs : List (String × β)} {name : String}
    (h : name ∈ pairs.map Prod.fst) : ∃ value, pairs.lookup name = some value := by
  induction pairs with
  | nil => cases h
  | cons pair rest ih =>
    obtain ⟨key, first⟩ := pair
    by_cases same : name = key
    · exact ⟨first, by simp [same]⟩
    · obtain ⟨value, found⟩ := ih ((List.mem_cons.mp h).resolve_left same)
      exact ⟨value, by rw [List.lookup_cons, beq_false_of_ne same]; exact found⟩

theorem find?_key_of_mem {α κ : Type} [DecidableEq κ] {key : α → κ} {xs : List α}
    (nodup : (xs.map key).Nodup) {x : α} (h : x ∈ xs) : xs.find? (key · = key x) = some x := by
  cases found : xs.find? (key · = key x) with
  | none => simpa using List.find?_eq_none.mp found x h
  | some y =>
    have same : key y = key x := by simpa using List.find?_some found
    rw [List.inj_on_of_nodup_map nodup (List.mem_of_find?_eq_some found) h same]

/-! ## Bindings -/

theorem Field.agrees_iff {a b : Field} : a.agrees b = true ↔ a = b := by
  cases a
  cases b
  simp [agrees]

theorem Field.bindingIn_of_mem {known : List Field} {field : Field} (h : field ∈ known) :
    field.bindingIn known = .defaulted field.name := by
  unfold bindingIn
  cases hf : known.find? (·.agrees field) with
  | some origin =>
    have same : origin = field := agrees_iff.mp (by simpa using List.find?_some hf)
    rw [same]
  | none => exact absurd (agrees_iff.mpr rfl) (List.find?_eq_none.mp hf field h)

theorem Field.bindingIn_of_not_mem {known : List Field} {field : Field} (h : field ∉ known) :
    field.bindingIn known = .explicit := by
  unfold bindingIn
  have none_agrees : known.find? (·.agrees field) = none := by
    rw [List.find?_eq_none]
    intro origin hm ha
    exact h (agrees_iff.mp ha ▸ hm)
  rw [none_agrees]

/-- The parameter for a field of a target, given the fields of the origin. -/
def Field.parameterIn (known : List Field) (field : Field) : Parameter where
  name := field.name
  ty := field.ty
  default? := if field ∈ known then some field.name else none

theorem Field.parameter_bindingIn (known : List Field) (field : Field) :
    FieldBinding.parameter ⟨field, field.bindingIn known⟩ = field.parameterIn known := by
  by_cases h : field ∈ known
  · simp [FieldBinding.parameter, parameterIn, bindingIn_of_mem h, h]
  · simp [FieldBinding.parameter, parameterIn, bindingIn_of_not_mem h, h]

section Plans

/-- The mapper function of the plan between two records, of which the second has these fields. -/
abbrev plannedMapper (origin target : Schema) (fields : List Field) : Mapper :=
  mapperOf origin target (plan origin target) fields

variable {origin target : Schema} {known fields : List Field}

theorem bindings_plan (ho : origin.fields? = some known) (ht : target.fields? = some fields) :
    (plan origin target).bindings = fields.map fun field => ⟨field, field.bindingIn known⟩ := by
  simp [plan, ho, ht]

/-- A bound field with a default is a field of both records. -/
theorem mem_fields_of_isDefaulted {bound : FieldBinding} (hb : bound ∈ (plan origin target).bindings)
    (defaulted : bound.isDefaulted = true) :
    ∃ known fields, origin.fields? = some known ∧ target.fields? = some fields ∧
      bound.field ∈ known ∧ bound.field ∈ fields := by
  obtain ⟨field, ht, rfl⟩ := List.mem_map.mp hb
  by_cases ho : field ∈ origin.fields?.getD []
  · cases known : origin.fields? with
    | none => simp [known] at ho
    | some list =>
      cases fields : target.fields? with
      | none => simp [fields] at ht
      | some others =>
        rw [known] at ho
        rw [fields] at ht
        exact ⟨list, others, rfl, rfl, ho, ht⟩
  · simp [FieldBinding.isDefaulted, Field.bindingIn_of_not_mem ho] at defaulted

theorem isDefaulted_bindingIn (known : List Field) (field : Field) :
    FieldBinding.isDefaulted ⟨field, field.bindingIn known⟩ = decide (field ∈ known) := by
  by_cases h : field ∈ known
  · simp [FieldBinding.isDefaulted, Field.bindingIn_of_mem h, h]
  · simp [FieldBinding.isDefaulted, Field.bindingIn_of_not_mem h, h]

/-- The parameters are those of the target's fields, the ones that the origin does not have first, and
otherwise in the order of the target. -/
theorem parameters_plannedMapper (ho : origin.fields? = some known) (ht : target.fields? = some fields) :
    (plannedMapper origin target fields).parameters =
      (fields.filter (fun field => !decide (field ∈ known)) ++
        fields.filter (fun field => decide (field ∈ known))).map (Field.parameterIn known) := by
  simp only [plannedMapper, mapperOf, Plan.explicit, Plan.defaulted, bindings_plan ho ht, List.filter_map,
    List.map_append, List.map_map, Function.comp_def, isDefaulted_bindingIn, Field.parameter_bindingIn]

theorem Plan.perm_bindings (plan : Plan) : (plan.explicit ++ plan.defaulted).Perm plan.bindings := by
  unfold explicit defaulted
  refine List.perm_append_comm.trans ?_
  exact List.filter_append_perm _ _

/-- The parameters of a mapper function are those of the target's fields, in another order. -/
theorem perm_parameters (ho : origin.fields? = some known) (ht : target.fields? = some fields) :
    (plannedMapper origin target fields).parameters.Perm
      (fields.map (Field.parameterIn known)) := by
  refine ((plan origin target).perm_bindings.map FieldBinding.parameter).trans ?_
  rw [bindings_plan ho ht, List.map_map]
  exact .of_eq (List.map_congr_left fun field _ => Field.parameter_bindingIn known field)

theorem mem_parameters_iff (ho : origin.fields? = some known) (ht : target.fields? = some fields)
    {parameter : Parameter} :
    parameter ∈ (plannedMapper origin target fields).parameters ↔
      ∃ field ∈ fields, field.parameterIn known = parameter := by
  rw [(perm_parameters ho ht).mem_iff, List.mem_map]

/-- Different parameters have different names. -/
theorem nodup_parameters (ho : origin.fields? = some known) (ht : target.fields? = some fields) :
    ((plannedMapper origin target fields).parameters.map Parameter.name).Nodup := by
  have names : (fields.map (Field.parameterIn known)).map Parameter.name = fields.map Field.name := by
    rw [List.map_map]
    rfl
  rw [((perm_parameters ho ht).map _).nodup_iff, names]
  exact Schema.nodup_fields ht

end Plans

end RecordMapper
