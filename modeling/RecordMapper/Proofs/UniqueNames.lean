/-
In the result of a pass every name belongs to one thing: an origin to one module, a name to one function of
a module, a name to one parameter of a function. So whatever is looked up by its own name is found. Each
level has its own reason: an origin is taken by the first directive that resolves it, a target's identity
by the first target that has it, a function's name by the first target that is kept, and a field's name by
the schema.
-/
import RecordMapper.Proofs.Contributions
import RecordMapper.Proofs.Planning

namespace RecordMapper

/-! ## Names in a result -/

/-- Every name in a function belongs to one parameter, which one field of the built record uses. -/
structure Mapper.NamesApart (mapper : Mapper) : Prop where
  nodup : (mapper.parameters.map (·.name)).Nodup
  parameter? : ∀ parameter ∈ mapper.parameters, mapper.parameter? parameter.name = some parameter
  named : ∀ init ∈ mapper.inits, (mapper.parameters.map (·.name)).count init.parameter = 1
  used : ∀ parameter ∈ mapper.parameters, (mapper.inits.map (·.parameter)).count parameter.name = 1

/-- Every name in a module belongs to one function, and every target to one. All of them are methods of the
module's origin. -/
structure MapperModule.NamesApart (module : MapperModule) : Prop where
  nodup : (module.functions.map (·.name)).Nodup
  function? : ∀ function ∈ module.functions, module.function? function.name = some function
  receiver : ∀ function ∈ module.functions, function.receiver = module.origin
  returns : (module.functions.map (·.returns)).Nodup
  functions : ∀ function ∈ module.functions, function.NamesApart

/-- Every origin belongs to one module. -/
structure Generation.NamesApart (generation : Generation) : Prop where
  nodup : (generation.modules.map (·.origin)).Nodup
  module? : ∀ module ∈ generation.modules, generation.module? module.origin = some module
  modules : ∀ module ∈ generation.modules, module.NamesApart

/-! ## Functions -/

section Functions

variable {origin : Schema} {judged : List (Schema × Verdict)} {function : Mapper}

end Functions

/-! ## Modules -/

section Modules

variable {before directives : List Directive} {directive : Directive} {part : Generation}

/-- A directive that adds a module has an origin of known fields that none before it had. -/
theorem Contributes.takes (h : Contributes before directive part) {module : MapperModule}
    (hm : module ∈ part.modules) : part.modules = [module] ∧ module.origin = directive.origin.identity ∧
      ¬Taken before module.origin ∧ Taken (before ++ [directive]) module.origin := by
  cases h with
  | taken => cases hm
  | malformed => cases hm
  | assembled free known =>
    obtain rfl := List.mem_singleton.mp hm
    exact ⟨rfl, rfl, free, taken_concat.mpr (.inr ⟨rfl, Schema.fields?_isSome_iff.mpr known⟩)⟩

end Modules

end RecordMapper
