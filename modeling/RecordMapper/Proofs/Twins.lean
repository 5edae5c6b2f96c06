/-
What a pass keeps, refuses and reports is decided by which identities are equal, which functions have one
name, and which fields are known. So it treats two lists of directives alike where these agree, whatever
the identities and the types of the fields are. The walk over targets and the assembly of modules are
followed step by step in both, and what each step preserves is that their states answer alike about every
pair of twins.
-/
import RecordMapper.Pass
import RecordMapper.Proofs.Correspondence
import RecordMapper.Proofs.Synthesis

namespace RecordMapper

/-- What a diagnostic is about. -/
inductive DiagnosticKind where
  | malformedSchema
  | duplicateTarget
  | nameCollision
  | duplicateOrigin
  deriving DecidableEq, Repr

/-- The kind of a diagnostic. -/
def Diagnostic.kind : Diagnostic → DiagnosticKind
  | malformedSchema .. => .malformedSchema
  | duplicateTarget .. => .duplicateTarget
  | nameCollision .. => .nameCollision
  | duplicateOrigin .. => .duplicateOrigin

/-! ## Twins -/

/-- Two records that are told apart by nothing but their identities and the types of their fields. -/
structure Schema.Twin (schema other : Schema) : Prop where
  known : schema.fields?.isSome = other.fields?.isSome
  mapperName : schema.fields?.isSome = true →
    schema.identity.mapperName = other.identity.mapperName

/-- Identities are equal on the left where they are equal on the right. -/
def SameEqualities {α : Type} (identity : α → Identity) (pairs : List (α × α)) : Prop :=
  ∀ pair ∈ pairs, ∀ other ∈ pairs,
    identity pair.1 = identity other.1 ↔ identity pair.2 = identity other.2

/-- Two directives between twins. -/
structure Directive.Twin (directive other : Directive) : Prop where
  known : directive.origin.fields?.isSome = other.origin.fields?.isSome
  targets : List.Forall₂ Schema.Twin directive.targets other.targets
  same : SameEqualities Schema.identity (directive.targets.zip other.targets)

/-- Two functions of one name that are synthesized for a pair of targets. -/
structure MadeAlike (origin other : Schema) (pairs : List (Schema × Schema))
    (function function' : Mapper) : Prop where
  name : function.name = function'.name
  made : ∃ pair ∈ pairs, synthesize origin pair.1 (plan origin pair.1) = .ok function ∧
    synthesize other pair.2 (plan other pair.2) = .ok function'

/-- Two modules of twins. -/
def MapperModule.Twin (pairs : List (Directive × Directive)) (module other : MapperModule) : Prop :=
  ∃ pair ∈ pairs, module.origin = pair.1.origin.identity ∧ other.origin = pair.2.origin.identity ∧
    List.Forall₂ (MadeAlike pair.1.origin pair.2.origin (pair.1.targets.zip pair.2.targets))
      module.functions other.functions

/-- Two results with modules of twins and diagnostics of the same kinds, in the same order. -/
structure Generation.Twin (pairs : List (Directive × Directive)) (generation other : Generation) :
    Prop where
  modules : List.Forall₂ (MapperModule.Twin pairs) generation.modules other.modules
  kinds : generation.diagnostics.map Diagnostic.kind = other.diagnostics.map Diagnostic.kind

theorem isSome_reason_eq {schema other : Schema} (h : schema.fields?.isSome = other.fields?.isSome) :
    schema.unresolvedReason?.isSome = other.unresolvedReason?.isSome := by
  rw [Bool.eq_iff_iff, ← not_iff_not, Bool.not_eq_true, Option.isSome_eq_false_iff, Bool.not_eq_true,
    Option.isSome_eq_false_iff, Option.isNone_iff_eq_none, Option.isNone_iff_eq_none,
    ← Schema.fields?_isSome_iff, ← Schema.fields?_isSome_iff, h]

/-! ## One directive -/

theorem map_kind_concat {diagnostics others : List Diagnostic} {diagnostic other : Diagnostic}
    (kinds : diagnostics.map Diagnostic.kind = others.map Diagnostic.kind)
    (kind : diagnostic.kind = other.kind) :
    (diagnostics ++ [diagnostic]).map Diagnostic.kind = (others ++ [other]).map Diagnostic.kind := by
  rw [List.map_append, List.map_append, kinds, List.map_singleton, List.map_singleton, kind]

/-- Two states of a walk that answer alike about every pair of targets. -/
structure TargetWalk.Twin (origin other : Schema) (pairs : List (Schema × Schema))
    (walk walk' : TargetWalk) : Prop where
  seen : ∀ pair ∈ pairs, pair.1.identity ∈ walk.seen ↔ pair.2.identity ∈ walk'.seen
  functions : List.Forall₂ (MadeAlike origin other pairs) walk.functions walk'.functions
  kinds : walk.diagnostics.map Diagnostic.kind = walk'.diagnostics.map Diagnostic.kind

section Walk

variable {origin other : Schema} {pairs : List (Schema × Schema)} {walk walk' : TargetWalk}
  {pair : Schema × Schema}

theorem TargetWalk.Twin.start : TargetWalk.Twin origin other pairs .start .start :=
  ⟨fun _ _ => iff_of_false List.not_mem_nil List.not_mem_nil, .nil, rfl⟩

/-- A pair of targets that is met is noted on both sides. -/
theorem TargetWalk.Twin.seen_cons (h : TargetWalk.Twin origin other pairs walk walk')
    (same : SameEqualities Schema.identity pairs) (hm : pair ∈ pairs) :
    ∀ pair' ∈ pairs, pair'.1.identity ∈ pair.1.identity :: walk.seen ↔
      pair'.2.identity ∈ pair.2.identity :: walk'.seen := by
  intro pair' hm'
  rw [List.mem_cons, List.mem_cons, same pair' hm' pair hm, h.seen pair' hm']

theorem TargetWalk.Twin.step (h : TargetWalk.Twin origin other pairs walk walk')
    (known : origin.fields?.isSome = true) (known' : other.fields?.isSome = true)
    (twin : pair.1.Twin pair.2) (same : SameEqualities Schema.identity pairs) (hm : pair ∈ pairs) :
    TargetWalk.Twin origin other pairs (walk.step origin pair.1) (walk'.step other pair.2) := by
  obtain ⟨known, ho⟩ := Option.isSome_iff_exists.mp known
  obtain ⟨known', ho'⟩ := Option.isSome_iff_exists.mp known'
  have seen := h.seen_cons same hm
  unfold TargetWalk.step
  by_cases met : pair.1.identity ∈ walk.seen
  · rw [if_pos met, if_pos ((h.seen pair hm).mp met)]
    exact ⟨h.seen, h.functions, map_kind_concat h.kinds rfl⟩
  rw [if_neg met, if_neg fun met' => met ((h.seen pair hm).mpr met')]
  cases hr : pair.1.unresolvedReason? with
  | some reason =>
    obtain ⟨reason', hr'⟩ : ∃ reason, pair.2.unresolvedReason? = some reason := by
      rw [← Option.isSome_iff_exists, ← isSome_reason_eq twin.known, hr]
      rfl
    rw [synthesize_of_reason ho hr, synthesize_of_reason ho' hr']
    exact ⟨seen, h.functions, map_kind_concat h.kinds rfl⟩
  | none =>
    obtain ⟨fields, ht⟩ := Schema.exists_fields_of_reason_none hr
    obtain ⟨fields', ht'⟩ : ∃ fields, pair.2.fields? = some fields := by
      rw [← Option.isSome_iff_exists, ← twin.known, ht]
      rfl
    have made : synthesize origin pair.1 (plan origin pair.1) = .ok _ := synthesize_of_fields ho ht
    have made' : synthesize other pair.2 (plan other pair.2) = .ok _ := synthesize_of_fields ho' ht'
    have name := twin.mapperName (by rw [ht]; rfl)
    -- the functions kept so far have the same names, so a name is taken in both walks or in none
    have taken : (walk.functions.find? (·.name = pair.1.identity.mapperName)).isSome =
        (walk'.functions.find? (·.name = pair.2.identity.mapperName)).isSome := by
      refine isSome_find?_eq_of_forall₂ h.functions fun function function' alike => ?_
      rw [alike.name, name]
    rw [made, made']
    dsimp only [mapperOf]
    cases hf : walk.functions.find? (·.name = pair.1.identity.mapperName) with
    | some first =>
      cases hf' : walk'.functions.find? (·.name = pair.2.identity.mapperName) with
      | some first' => exact ⟨seen, h.functions, map_kind_concat h.kinds rfl⟩
      | none => simp [hf, hf'] at taken
    | none =>
      cases hf' : walk'.functions.find? (·.name = pair.2.identity.mapperName) with
      | some first' => simp [hf, hf'] at taken
      | none =>
        exact ⟨seen, List.rel_append h.functions (.cons ⟨name, pair, hm, made, made'⟩ .nil), h.kinds⟩

/-- A whole walk is followed pair by pair. -/
theorem TargetWalk.Twin.foldl (h : TargetWalk.Twin origin other pairs walk walk')
    (known : origin.fields?.isSome = true) (known' : other.fields?.isSome = true)
    (twins : ∀ pair ∈ pairs, pair.1.Twin pair.2) (same : SameEqualities Schema.identity pairs)
    {rest : List (Schema × Schema)} (hm : ∀ pair ∈ rest, pair ∈ pairs) :
    TargetWalk.Twin origin other pairs ((rest.map Prod.fst).foldl (TargetWalk.step origin) walk)
      ((rest.map Prod.snd).foldl (TargetWalk.step other) walk') := by
  induction rest generalizing walk walk' with
  | nil => exact h
  | cons pair rest ih =>
    obtain ⟨first, later⟩ := List.forall_mem_cons.mp hm
    exact ih (h.step known known' (twins pair first) same first) later

end Walk

/-- Two outcomes of one kind. -/
inductive Outcome.Twin (directive other : Directive) : Outcome → Outcome → Prop
  | rejected {diagnostic diagnostic' : Diagnostic} :
    diagnostic.kind = diagnostic'.kind →
      Outcome.Twin directive other (.rejected diagnostic) (.rejected diagnostic')
  | synthesized {functions functions' : List Mapper} {diagnostics diagnostics' : List Diagnostic} :
    List.Forall₂ (MadeAlike directive.origin other.origin (directive.targets.zip other.targets))
      functions functions' →
      diagnostics.map Diagnostic.kind = diagnostics'.map Diagnostic.kind →
        Outcome.Twin directive other (.synthesized functions diagnostics)
          (.synthesized functions' diagnostics')

theorem Directive.Twin.outcome {directive other : Directive} (h : directive.Twin other) :
    Outcome.Twin directive other directive.outcome other.outcome := by
  have reason := isSome_reason_eq h.known
  unfold Directive.outcome
  cases hr : directive.origin.unresolvedReason? with
  | some why =>
    rw [hr, Option.isSome_some, eq_comm, Option.isSome_iff_exists] at reason
    obtain ⟨why', hr'⟩ := reason
    rw [hr']
    exact .rejected rfl
  | none =>
    rw [hr, Option.isSome_none, eq_comm, Option.isSome_eq_false_iff, Option.isNone_iff_eq_none] at reason
    rw [reason]
    have lengths := h.targets.length_eq
    have walks := TargetWalk.Twin.start.foldl (Schema.fields?_isSome_iff.mpr hr)
      (Schema.fields?_isSome_iff.mpr reason)
      (fun pair hm => (List.forall₂_iff_zip.mp h.targets).2 hm) h.same fun _ hm => hm
    rw [List.map_fst_zip (Nat.le_of_eq lengths), List.map_snd_zip (Nat.le_of_eq lengths.symm)] at walks
    exact .synthesized walks.functions walks.kinds

/-! ## All directives -/

section Assembly

variable {pairs : List (Directive × Directive)} {assembly assembly' : Assembly}

/-- Two assemblies that answer alike about every pair of directives. -/
def Assembly.Twin (pairs : List (Directive × Directive)) (assembly assembly' : Assembly) : Prop :=
  ∀ pair ∈ pairs, assembly.contains pair.1.origin.identity = assembly'.contains pair.2.origin.identity

theorem Assembly.Twin.cons (h : Assembly.Twin pairs assembly assembly')
    (same : SameEqualities (·.origin.identity) pairs) {pair : Directive × Directive} (hm : pair ∈ pairs) :
    Assembly.Twin pairs ⟨pair.1.origin.identity :: assembly.origins⟩
      ⟨pair.2.origin.identity :: assembly'.origins⟩ := by
  intro pair' hm'
  have origins := h pair' hm'
  unfold Assembly.contains at origins ⊢
  rw [List.contains_cons, List.contains_cons, origins]
  congr 1
  exact decide_eq_decide.mpr (same pair' hm' pair hm)

/-- Outcomes of twins are assembled alike. -/
theorem assembleOutcomes_twin (twins : ∀ pair ∈ pairs, pair.1.Twin pair.2)
    (same : SameEqualities (·.origin.identity) pairs) {rest : List (Directive × Directive)}
    (hm : ∀ pair ∈ rest, pair ∈ pairs) (h : Assembly.Twin pairs assembly assembly') :
    Generation.Twin pairs
      (assembleOutcomes assembly (rest.map fun pair => (pair.1, pair.1.outcome)))
      (assembleOutcomes assembly' (rest.map fun pair => (pair.2, pair.2.outcome))) := by
  induction rest generalizing assembly assembly' with
  | nil => exact ⟨.nil, rfl⟩
  | cons pair rest ih =>
    obtain ⟨first, later⟩ := List.forall_mem_cons.mp hm
    have taken := h pair first
    simp only [List.map_cons, assembleOutcomes]
    cases free : assembly.contains pair.1.origin.identity with
    | true =>
      rw [← taken, free, if_pos rfl, if_pos rfl]
      exact ⟨(ih later h).modules, congrArg (List.cons DiagnosticKind.duplicateOrigin) (ih later h).kinds⟩
    | false =>
      have free' := taken.symm.trans free
      rw [free', if_neg Bool.false_ne_true, if_neg Bool.false_ne_true]
      have outcome := (twins pair first).outcome
      generalize pair.1.outcome = left at outcome
      generalize pair.2.outcome = right at outcome
      cases outcome with
      | rejected kind =>
        exact ⟨(ih later h).modules, by simp [kind, (ih later h).kinds]⟩
      | synthesized functions kinds =>
        simp only [Assembly.assemble, free, free', Bool.false_eq_true, if_false]
        have others := ih later (h.cons same first)
        exact ⟨.cons ⟨pair, first, rfl, rfl, functions⟩ others.modules, by
          rw [List.map_append, List.map_append, kinds, others.kinds]⟩

end Assembly

/-- **A pass over twins.** Directives that correspond, equal origins to equal origins and equal targets of
a directive to equal targets, give modules that correspond in the same order, with functions of the same
names for corresponding targets, and diagnostics of the same kinds. -/
theorem generate_twin {pairs : List (Directive × Directive)}
    (twins : ∀ pair ∈ pairs, pair.1.Twin pair.2) (same : SameEqualities (·.origin.identity) pairs) :
    Generation.Twin pairs (generate (pairs.map Prod.fst)) (generate (pairs.map Prod.snd)) := by
  unfold generate
  rw [List.map_map, List.map_map]
  exact assembleOutcomes_twin twins same (fun _ hm => hm) fun _ _ => rfl

end RecordMapper
