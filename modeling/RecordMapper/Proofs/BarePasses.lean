/-
What a pass reports depends on the identities of the records and on which of them have known fields, and not
on what the fields are. A walk over the targets of a directive and the walk over the same targets without
their fields keep functions of the same names for the same records and refuse the same targets for the same
reasons.
-/
import RecordMapper.Proofs.IsolatedFailures

namespace RecordMapper

/-! ## Records and directives without fields -/

/-- A record of which no field is told; the reason why its fields are not known stays. -/
def Schema.bare (schema : Schema) : Schema :=
  match schema.fieldList with
  | .resolved .. => ⟨schema.identity, .resolved [] List.nodup_nil⟩
  | .unresolved _ => schema

/-- A directive of whose records no field is told. -/
def Directive.bare (directive : Directive) : Directive :=
  ⟨directive.origin.bare, directive.targets.map Schema.bare, by simpa using directive.targets_ne_nil⟩

namespace Schema

variable {schema : Schema}

@[simp]
theorem identity_bare : schema.bare.identity = schema.identity := by
  unfold bare
  split <;> rfl

@[simp]
theorem unresolvedReason?_bare : schema.bare.unresolvedReason? = schema.unresolvedReason? := by
  unfold bare
  cases known : schema.fieldList with
  | resolved => simp [unresolvedReason?, known]
  | unresolved => rfl

end Schema

/-! ## One directive -/

/-- What other targets see of a function that is kept. -/
def Mapper.key (function : Mapper) : String × Identity := (function.name, function.returns)

/-- The walk over bare targets has met the same targets, kept functions of the same names to the same
records, and reported the same. -/
structure TargetWalk.Bares (walk bare : TargetWalk) : Prop where
  seen : ∀ identity, identity ∈ bare.seen ↔ identity ∈ walk.seen
  keys : bare.functions.map Mapper.key = walk.functions.map Mapper.key
  diagnostics : bare.diagnostics = walk.diagnostics

section Walk

variable {origin target : Schema} {walk bare : TargetWalk}

theorem returns_find?_eq {functions others : List Mapper}
    (keys : others.map Mapper.key = functions.map Mapper.key) (name : String) :
    (others.find? (·.name = name)).map Mapper.returns =
      (functions.find? (·.name = name)).map Mapper.returns := by
  have found (functions : List Mapper) : (functions.find? (·.name = name)).map Mapper.returns =
      ((functions.map Mapper.key).find? (·.1 = name)).map Prod.snd := by
    rw [List.find?_map, Option.map_map]
    rfl
  rw [found, found, keys]

theorem TargetWalk.Bares.verdict (h : Bares walk bare) (known : origin.unresolvedReason? = none) :
    (bare.verdict origin.bare target.bare).diagnostic? = (walk.verdict origin target).diagnostic? ∧
      (bare.verdict origin.bare target.bare).function?.map Mapper.key =
        (walk.verdict origin target).function?.map Mapper.key := by
  obtain ⟨_, ho⟩ := Schema.exists_fields_of_reason_none known
  obtain ⟨_, ho'⟩ := Schema.exists_fields_of_reason_none (Schema.unresolvedReason?_bare.trans known)
  unfold TargetWalk.verdict
  rw [@Schema.identity_bare target, @Schema.identity_bare origin]
  by_cases met : target.identity ∈ walk.seen
  · rw [if_pos met, if_pos ((h.seen _).mpr met)]
    exact ⟨rfl, rfl⟩
  rw [if_neg met, if_neg fun met' => met ((h.seen _).mp met')]
  cases hr : target.unresolvedReason? with
  | some reason =>
    rw [synthesize_of_reason ho hr, synthesize_of_reason ho' (Schema.unresolvedReason?_bare.trans hr),
      Schema.identity_bare, Schema.identity_bare]
    exact ⟨rfl, rfl⟩
  | none =>
    obtain ⟨_, ht⟩ := Schema.exists_fields_of_reason_none hr
    obtain ⟨_, ht'⟩ := Schema.exists_fields_of_reason_none (Schema.unresolvedReason?_bare.trans hr)
    have taken := returns_find?_eq h.keys target.identity.mapperName
    rw [synthesize_of_fields ho ht, synthesize_of_fields ho' ht']
    dsimp only [mapperOf]
    rw [Schema.identity_bare]
    -- the name is taken by functions to the same record, or free in both walks
    cases found : walk.functions.find? (·.name = target.identity.mapperName) with
    | some first =>
      rw [found, Option.map_some, Option.map_eq_some_iff] at taken
      obtain ⟨first', found', returns⟩ := taken
      rw [found']
      dsimp only
      rw [returns]
      exact ⟨rfl, rfl⟩
    | none =>
      rw [found, Option.map_none, Option.map_eq_none_iff] at taken
      rw [taken]
      exact ⟨rfl, rfl⟩

theorem TargetWalk.Bares.step (h : Bares walk bare) (known : origin.unresolvedReason? = none)
    (target : Schema) : Bares (walk.step origin target) (bare.step origin.bare target.bare) := by
  obtain ⟨diagnostic, key⟩ := @verdict origin target walk bare h known
  obtain ⟨functions, diagnostics⟩ := @TargetWalk.step_verdict origin target walk
  obtain ⟨functions', diagnostics'⟩ := @TargetWalk.step_verdict origin.bare target.bare bare
  refine ⟨fun identity => ?_, ?_, ?_⟩
  · rw [TargetWalk.mem_seen_step, TargetWalk.mem_seen_step, Schema.identity_bare, h.seen]
  · rw [functions, functions', List.map_append, List.map_append, h.keys, ← Option.toList_map,
      ← Option.toList_map, key]
  · rw [diagnostics, diagnostics', h.diagnostics, diagnostic]

theorem TargetWalk.Bares.foldl (h : Bares walk bare) (known : origin.unresolvedReason? = none)
    (targets : List Schema) :
    Bares (targets.foldl (TargetWalk.step origin) walk)
      ((targets.map Schema.bare).foldl (TargetWalk.step origin.bare) bare) := by
  induction targets generalizing walk bare with
  | nil => exact h
  | cons target targets ih => exact ih (h.step known target)

end Walk

/-- Two outcomes with the same diagnostics. -/
inductive Outcome.SameReports : Outcome → Outcome → Prop
  | rejected (diagnostic : Diagnostic) : SameReports (.rejected diagnostic) (.rejected diagnostic)
  | synthesized (functions others : List Mapper) (diagnostics : List Diagnostic) :
      SameReports (.synthesized functions diagnostics) (.synthesized others diagnostics)

theorem Directive.sameReports_bare (directive : Directive) :
    Outcome.SameReports directive.outcome directive.bare.outcome := by
  unfold Directive.outcome
  simp only [Directive.bare, Schema.unresolvedReason?_bare, Schema.identity_bare]
  cases known : directive.origin.unresolvedReason? with
  | some reason => exact .rejected _
  | none =>
    have start : TargetWalk.Bares .start .start := ⟨fun _ => Iff.rfl, rfl, rfl⟩
    have walked := start.foldl known directive.targets
    dsimp only
    rw [walked.diagnostics]
    exact .synthesized _ _ _

/-! ## All directives -/

theorem diagnostics_assembleOutcomes_bare (assembly : Assembly) (directives : List Directive) :
    (assembleOutcomes assembly (directives.map fun directive =>
        (directive.bare, directive.bare.outcome))).diagnostics =
      (assembleOutcomes assembly (directives.map fun directive =>
        (directive, directive.outcome))).diagnostics := by
  induction directives generalizing assembly with
  | nil => rfl
  | cons directive directives ih =>
    have origin : directive.bare.origin.identity = directive.origin.identity := Schema.identity_bare
    have outcomes := directive.sameReports_bare
    simp only [List.map_cons, assembleOutcomes, origin]
    split
    · simp only [ih]
    · next free =>
      generalize directive.outcome = outcome at outcomes
      generalize directive.bare.outcome = other at outcomes
      cases outcomes with
      | rejected => simp only [ih]
      | synthesized =>
        simp only [Assembly.assemble, free]
        simp [ih]

/-- A pass reports the same about the records whatever their fields are. -/
theorem diagnostics_generate_bare (directives : List Directive) :
    (generate (directives.map Directive.bare)).diagnostics = (generate directives).diagnostics := by
  unfold generate
  rw [List.map_map]
  exact diagnostics_assembleOutcomes_bare .empty directives

end RecordMapper
