/-
The result of a pass, said without its state: it is the concatenation of one contribution for each
directive, and a contribution depends on the earlier directives only through the origins that they
resolved. Inside a directive every target has a verdict, which depends on the earlier targets and on
which of them were kept; a target that is refused still bars its identity from being named again.

The three pieces of state of the pass (origins with a module, identities met, names in use) are what
the earlier elements say, and the step lemmas show each of them to be kept so.
-/
import RecordMapper.Pass
import RecordMapper.Proofs.InOrder
import RecordMapper.Proofs.Synthesis

namespace RecordMapper

/-! ## Verdicts on targets -/

/-- What becomes of a target. -/
inductive Verdict where
  | kept (function : Mapper)
  | refused (diagnostic : Diagnostic)

namespace Verdict

/-- The function of a kept target. -/
def function? : Verdict → Option Mapper
  | kept function => some function
  | refused _ => none

/-- The diagnostic of a refused target. -/
def diagnostic? : Verdict → Option Diagnostic
  | kept _ => none
  | refused diagnostic => some diagnostic

end Verdict

/-- No target before has this identity, whatever became of it. -/
def Unmet (before : List (Schema × Verdict)) (identity : Identity) : Prop :=
  ∀ earlier ∈ before, earlier.1.identity ≠ identity

/-- The verdict on a target of a directive on `origin`, from the verdicts before it. -/
inductive Judged (origin : Schema) (before : List (Schema × Verdict)) : Schema × Verdict → Prop
  | repeated {target : Schema} :
      ¬Unmet before target.identity →
      Judged origin before
        (target, .refused (.duplicateTarget origin.identity target.identity))
  | malformed {target : Schema} {reason : String} :
      Unmet before target.identity →
      target.unresolvedReason? = some reason →
      Judged origin before
        (target, .refused (.malformedSchema origin.identity target.identity reason))
  /-- The name belongs to an earlier target that was kept. -/
  | collides {target first : Schema} {function : Mapper} :
      Unmet before target.identity →
      target.unresolvedReason? = none →
      (first, .kept function) ∈ before →
      first.identity.mapperName = target.identity.mapperName →
      Judged origin before
        (target, .refused (.nameCollision origin.identity target.identity.mapperName
          first.identity target.identity))
  | kept {target : Schema} {function : Mapper} :
      Unmet before target.identity →
      target.unresolvedReason? = none →
      (∀ first other, (first, .kept other) ∈ before →
        first.identity.mapperName ≠ target.identity.mapperName) →
      synthesize origin target (plan origin target) = .ok function →
      Judged origin before (target, .kept function)

/-! ## Contributions of directives -/

/-- An earlier directive had this origin, with known fields. -/
def Taken (before : List Directive) (origin : Identity) : Prop :=
  ∃ earlier ∈ before, earlier.origin.identity = origin ∧ earlier.origin.fields?.isSome = true

/-- What a directive adds to a pass, after the directives before it. -/
inductive Contributes (before : List Directive) (directive : Directive) : Generation → Prop
  | taken :
      Taken before directive.origin.identity →
      Contributes before directive ⟨[], [.duplicateOrigin directive.origin.identity]⟩
  | malformed {reason : String} :
      ¬Taken before directive.origin.identity →
      directive.origin.unresolvedReason? = some reason →
      Contributes before directive
        ⟨[], [.malformedSchema directive.origin.identity directive.origin.identity reason]⟩
  /-- The targets are judged in order: the kept ones give the functions of the one module, the others
  a diagnostic each. -/
  | assembled {judged : List (Schema × Verdict)} :
      ¬Taken before directive.origin.identity →
      directive.origin.unresolvedReason? = none →
      judged.map Prod.fst = directive.targets →
      InOrder (Judged directive.origin) judged →
      Contributes before directive
        ⟨[⟨directive.origin.identity, judged.filterMap (·.2.function?)⟩],
          judged.filterMap (·.2.diagnostic?)⟩

/-- The directives that come after those of `before` add up to `output`: one contribution for each,
one after the other. -/
def AddUp (before directives : List Directive) (output : Generation) : Prop :=
  ∃ parts : List (Directive × Generation),
    parts.map Prod.fst = directives ∧
    InOrder (fun earlier part => Contributes (before ++ earlier.map Prod.fst) part.1 part.2) parts ∧
    output = ⟨parts.flatMap (·.2.modules), parts.flatMap (·.2.diagnostics)⟩

/-! ## One target -/

section Targets

variable {origin : Schema} {judged : List (Schema × Verdict)}

theorem Judged.synthesize_eq {before : List (Schema × Verdict)} {target : Schema}
    {function : Mapper} (h : Judged origin before (target, .kept function)) :
    synthesize origin target (plan origin target) = .ok function := by
  cases h with
  | kept _ _ _ hs => exact hs

/-- A kept target's function is the one synthesized for it. -/
theorem synthesize_of_kept (h : InOrder (Judged origin) judged) {target : Schema}
    {function : Mapper} (hm : (target, .kept function) ∈ judged) :
    synthesize origin target (plan origin target) = .ok function := by
  obtain ⟨before, hj⟩ := h.of_mem hm
  exact hj.synthesize_eq

/-- Kept targets have different function names. -/
theorem kept_eq_of_name (h : InOrder (Judged origin) judged) {a b : Schema} {f g : Mapper}
    (ha : (a, .kept f) ∈ judged) (hb : (b, .kept g) ∈ judged)
    (name : a.identity.mapperName = b.identity.mapperName) : a = b := by
  induction judged using List.reverseRecOn with
  | nil => simp at ha
  | append_singleton judged last ih =>
    obtain ⟨h, hl⟩ := InOrder.concat_iff.mp h
    simp only [List.mem_append, List.mem_singleton] at ha hb
    rcases ha with ha | rfl <;> rcases hb with hb | hb
    · exact ih h ha hb
    · subst hb
      cases hl with
      | kept _ _ free _ => exact absurd name (free _ _ ha)
    · cases hl with
      | kept _ _ free _ => exact absurd name.symm (free _ _ hb)
    · exact (Prod.mk.inj hb).1.symm

/-- The conditions of the four verdicts exclude each other. -/
theorem Judged.unique {target : Schema} {v w : Verdict} (h : InOrder (Judged origin) judged)
    (hv : Judged origin judged (target, v)) (hw : Judged origin judged (target, w)) : v = w := by
  cases hv with
  | repeated met =>
    cases hw with
    | repeated => rfl
    | malformed unmet | collides unmet | kept unmet => exact absurd unmet met
  | malformed unmet reason =>
    cases hw with
    | repeated met => exact absurd unmet met
    | malformed _ reason' => rw [reason, Option.some.injEq] at reason'; rw [reason']
    | collides _ known | kept _ known => rw [known] at reason; cases reason
  | collides unmet known mem name =>
    cases hw with
    | repeated met => exact absurd unmet met
    | malformed _ reason => rw [known] at reason; cases reason
    | collides _ _ mem' name' => rw [kept_eq_of_name h mem mem' (name.trans name'.symm)]
    | kept _ _ free => exact absurd name (free _ _ mem)
  | kept unmet known free synthesized =>
    cases hw with
    | repeated met => exact absurd unmet met
    | malformed _ reason => rw [known] at reason; cases reason
    | collides _ _ mem name => exact absurd name (free _ _ mem)
    | kept _ _ _ synthesized' => rw [synthesized, Except.ok.injEq] at synthesized'; rw [synthesized']

/-- The state of a walk is what the verdicts so far say. -/
structure TargetWalk.Records (walk : TargetWalk) (judged : List (Schema × Verdict)) : Prop where
  seen : ∀ identity, identity ∈ walk.seen ↔ ¬Unmet judged identity
  functions : walk.functions = judged.filterMap (·.2.function?)
  diagnostics : walk.diagnostics = judged.filterMap (·.2.diagnostic?)

theorem unmet_concat {last : Schema × Verdict} {identity : Identity} :
    Unmet (judged ++ [last]) identity ↔ Unmet judged identity ∧ last.1.identity ≠ identity := by
  simp [Unmet, or_imp, forall_and]

theorem TargetWalk.records_start : TargetWalk.start.Records [] :=
  ⟨by simp [TargetWalk.start, Unmet], rfl, rfl⟩

theorem mem_functions_iff {walk : TargetWalk} (hw : walk.Records judged) {function : Mapper} :
    function ∈ walk.functions ↔ ∃ target, (target, .kept function) ∈ judged := by
  rw [hw.functions, List.mem_filterMap]
  constructor
  · rintro ⟨⟨target, verdict⟩, hm, hf⟩
    cases verdict with
    | kept f =>
      simp only [Verdict.function?, Option.some.injEq] at hf
      exact ⟨target, hf ▸ hm⟩
    | refused => simp [Verdict.function?] at hf
  · rintro ⟨target, hm⟩
    exact ⟨_, hm, rfl⟩

namespace TargetWalk.Records

variable {walk : TargetWalk} {target : Schema}

/-- A target that is met is noted, whatever becomes of it. -/
theorem seen_concat (hw : walk.Records judged) (verdict : Verdict) (identity : Identity) :
    identity ∈ target.identity :: walk.seen ↔ ¬Unmet (judged ++ [(target, verdict)]) identity := by
  rw [unmet_concat, List.mem_cons, hw.seen, not_and_or, not_not, or_comm, eq_comm]

theorem refuse (hw : walk.Records judged) (diagnostic : Diagnostic) :
    TargetWalk.Records ⟨target.identity :: walk.seen, walk.functions,
      walk.diagnostics ++ [diagnostic]⟩ (judged ++ [(target, .refused diagnostic)]) :=
  ⟨hw.seen_concat _, by simp [hw.functions, Verdict.function?],
    by simp [hw.diagnostics, Verdict.diagnostic?]⟩

theorem keep (hw : walk.Records judged) (function : Mapper) :
    TargetWalk.Records ⟨target.identity :: walk.seen, walk.functions ++ [function],
      walk.diagnostics⟩ (judged ++ [(target, .kept function)]) :=
  ⟨hw.seen_concat _, by simp [hw.functions, Verdict.function?],
    by simp [hw.diagnostics, Verdict.diagnostic?]⟩

/-- Refusing a repeated target leaves the identities met as they are. -/
theorem repeat_target (hw : walk.Records judged) (met : ¬Unmet judged target.identity)
    (diagnostic : Diagnostic) :
    TargetWalk.Records { walk with diagnostics := walk.diagnostics ++ [diagnostic] }
      (judged ++ [(target, .refused diagnostic)]) := by
  refine ⟨fun identity => ?_, (hw.refuse diagnostic).functions, (hw.refuse diagnostic).diagnostics⟩
  rw [← hw.seen_concat, List.mem_cons]
  exact ⟨.inr, fun hi => hi.elim (fun he => he ▸ (hw.seen _).mpr met) id⟩

end TargetWalk.Records

/-- One step of the walk passes the verdict on one target. -/
theorem TargetWalk.step_records {walk : TargetWalk} (target : Schema)
    (known : origin.unresolvedReason? = none) (h : InOrder (Judged origin) judged)
    (hw : walk.Records judged) :
    ∃ verdict, Judged origin judged (target, verdict) ∧
      (walk.step origin target).Records (judged ++ [(target, verdict)]) := by
  obtain ⟨_, ho⟩ := Schema.exists_fields_of_reason_none known
  unfold TargetWalk.step
  by_cases met : target.identity ∈ walk.seen
  · have met' := (hw.seen _).mp met
    rw [if_pos met]
    exact ⟨_, .repeated met', hw.repeat_target met' _⟩
  rw [if_neg met]
  have unmet : Unmet judged target.identity := not_not.mp fun hn => met ((hw.seen _).mpr hn)
  cases hr : target.unresolvedReason? with
  | some reason =>
    rw [synthesize_of_reason ho hr]
    exact ⟨_, .malformed unmet hr, hw.refuse _⟩
  | none =>
    obtain ⟨fields, ht⟩ := Schema.exists_fields_of_reason_none hr
    have hs : synthesize origin target (plan origin target) = .ok _ := synthesize_of_fields ho ht
    have hn := name_of_synthesize hs
    rw [hs]
    cases hf : walk.functions.find? (·.name = target.identity.mapperName) with
    | some taken =>
      obtain ⟨first, hm⟩ := (mem_functions_iff hw).mp (List.mem_of_find?_eq_some hf)
      have made := synthesize_of_kept h hm
      have name : first.identity.mapperName = target.identity.mapperName := by
        rw [← name_of_synthesize made]
        simpa using List.find?_some hf
      refine ⟨_, .collides unmet hr hm name, ?_⟩
      simp only [hn, hf, returns_of_synthesize made]
      exact hw.refuse _
    | none =>
      refine ⟨_, .kept unmet hr (fun first other hm name => ?_) hs, ?_⟩
      · have := List.find?_eq_none.mp hf other ((mem_functions_iff hw).mpr ⟨first, hm⟩)
        rw [name_of_synthesize (synthesize_of_kept h hm), name] at this
        simp at this
      · simp only [hn, hf]
        exact hw.keep _

/-- A walk passes the verdicts on all targets. -/
theorem TargetWalk.foldl_records (known : origin.unresolvedReason? = none)
    (targets : List Schema) :
    ∃ judged, judged.map Prod.fst = targets ∧ InOrder (Judged origin) judged ∧
      (targets.foldl (TargetWalk.step origin) .start).Records judged := by
  induction targets using List.reverseRecOn with
  | nil => exact ⟨[], rfl, InOrder.nil, TargetWalk.records_start⟩
  | append_singleton targets target ih =>
    obtain ⟨judged, keys, h, hw⟩ := ih
    obtain ⟨verdict, hv, hstep⟩ := TargetWalk.step_records target known h hw
    refine ⟨judged ++ [(target, verdict)], ?_, InOrder.concat_iff.mpr ⟨h, hv⟩, ?_⟩
    · rw [List.map_append, keys]
      rfl
    · rwa [List.foldl_concat]

end Targets

/-! ## One directive -/

theorem outcome_of_reason {directive : Directive} {reason : String}
    (h : directive.origin.unresolvedReason? = some reason) :
    directive.outcome = .rejected (.malformedSchema directive.origin.identity
      directive.origin.identity reason) := by
  simp [Directive.outcome, h]

/-- The outcome of a directive whose origin is known holds the verdicts on its targets. -/
theorem exists_judged_outcome {directive : Directive}
    (h : directive.origin.unresolvedReason? = none) :
    ∃ judged, judged.map Prod.fst = directive.targets ∧
      InOrder (Judged directive.origin) judged ∧
      directive.outcome = .synthesized (judged.filterMap (·.2.function?))
        (judged.filterMap (·.2.diagnostic?)) := by
  obtain ⟨judged, keys, hj, hw⟩ := TargetWalk.foldl_records h directive.targets
  refine ⟨judged, keys, hj, ?_⟩
  simp [Directive.outcome, h, hw.functions, hw.diagnostics]

/-- What a directive adds is determined by the directives before it. -/
theorem Contributes.unique {before : List Directive} {directive : Directive} {a b : Generation}
    (ha : Contributes before directive a) (hb : Contributes before directive b) : a = b := by
  cases ha with
  | taken taken =>
    cases hb with
    | taken => rfl
    | malformed free | assembled free => exact absurd taken free
  | malformed free reason =>
    cases hb with
    | taken taken => exact absurd taken free
    | malformed _ reason' => rw [reason, Option.some.injEq] at reason'; rw [reason']
    | assembled _ known => rw [known] at reason; cases reason
  | assembled free known keys judged =>
    cases hb with
    | taken taken => exact absurd taken free
    | malformed _ reason => rw [known] at reason; cases reason
    | assembled _ _ keys' judged' =>
      rw [InOrder.eq_of_keys Judged.unique judged judged' (keys.trans keys'.symm)]

/-! ## All directives -/

/-- The assembly lists the origins that the directives so far resolved. -/
def Assembly.Records (assembly : Assembly) (before : List Directive) : Prop :=
  ∀ origin, assembly.contains origin = true ↔ Taken before origin

theorem taken_concat {before : List Directive} {directive : Directive} {origin : Identity} :
    Taken (before ++ [directive]) origin ↔
      Taken before origin ∨
        (directive.origin.identity = origin ∧ directive.origin.fields?.isSome = true) := by
  simp [Taken, or_and_right, exists_or]

theorem Assembly.records_empty : Assembly.empty.Records [] := by
  simp [Assembly.Records, Assembly.empty, Assembly.contains, Taken]

namespace Assembly.Records

variable {assembly : Assembly} {before : List Directive} {directive : Directive}

/-- A directive whose origin is already taken, or not known, takes nothing. -/
theorem pass_over (h : assembly.Records before)
    (hd : Taken before directive.origin.identity ∨ directive.origin.fields?.isSome = false) :
    assembly.Records (before ++ [directive]) := by
  intro origin
  rw [taken_concat, h origin]
  refine ⟨.inl, ?_⟩
  rintro (taken | ⟨rfl, known⟩)
  · exact taken
  · rcases hd with taken | unknown
    · exact taken
    · rw [unknown] at known
      cases known

theorem take (h : assembly.Records before) (known : directive.origin.fields?.isSome = true) :
    Assembly.Records ⟨directive.origin.identity :: assembly.origins⟩ (before ++ [directive]) := by
  intro origin
  have := h origin
  simp only [Assembly.contains, List.contains_cons, Bool.or_eq_true, beq_iff_eq] at this ⊢
  rw [taken_concat, this, and_iff_left known, or_comm, eq_comm]

end Assembly.Records

section AddUp

variable {before directives : List Directive} {directive : Directive} {output part : Generation}

theorem AddUp.nil : AddUp before [] ⟨[], []⟩ :=
  ⟨[], rfl, InOrder.nil, rfl⟩

theorem AddUp.cons (hc : Contributes before directive part)
    (h : AddUp (before ++ [directive]) directives output) :
    AddUp before (directive :: directives)
      ⟨part.modules ++ output.modules, part.diagnostics ++ output.diagnostics⟩ := by
  obtain ⟨parts, keys, hp, rfl⟩ := h
  refine ⟨(directive, part) :: parts, by simp [keys], InOrder.cons_iff.mpr ⟨by simpa using hc, ?_⟩,
    by simp⟩
  simpa [List.append_assoc] using hp

/-- Directives add up to one result. -/
theorem AddUp.unique {other : Generation} (h : AddUp before directives output)
    (h' : AddUp before directives other) : output = other := by
  obtain ⟨parts, keys, hp, rfl⟩ := h
  obtain ⟨parts', keys', hp', rfl⟩ := h'
  rw [InOrder.eq_of_keys (fun _ => Contributes.unique) hp hp' (keys.trans keys'.symm)]

end AddUp

/-- What assembling the outcomes of directives answers is what the directives add up to. -/
theorem assembleOutcomes_addUp (directives : List Directive) :
    ∀ {assembly : Assembly} {before : List Directive}, assembly.Records before →
      AddUp before directives
        (assembleOutcomes assembly
          (directives.map fun directive => (directive, directive.outcome))) := by
  induction directives with
  | nil => exact fun _ => AddUp.nil
  | cons directive rest ih =>
    intro assembly before h
    simp only [List.map_cons, assembleOutcomes]
    by_cases taken : Taken before directive.origin.identity
    · rw [if_pos ((h _).mpr taken)]
      exact AddUp.cons (.taken taken) (ih (h.pass_over (.inl taken)))
    have free : assembly.contains directive.origin.identity = false := by
      rw [← Bool.not_eq_true, h]
      exact taken
    rw [free, if_neg Bool.false_ne_true]
    cases hr : directive.origin.unresolvedReason? with
    | some reason =>
      have unknown : directive.origin.fields?.isSome = false := by
        rw [Schema.fields?_eq_none_of_reason hr]
        rfl
      rw [outcome_of_reason hr]
      exact AddUp.cons (.malformed taken hr) (ih (h.pass_over (.inr unknown)))
    | none =>
      obtain ⟨judged, keys, hj, ho⟩ := exists_judged_outcome hr
      rw [ho]
      simp only [Assembly.assemble, free, Bool.false_eq_true, if_false]
      exact AddUp.cons (.assembled taken hr keys hj) (ih (h.take (Schema.fields?_isSome_iff.mpr hr)))

/-- **The result of a pass** is what its directives add up to, in order, and nothing else is. -/
theorem generate_eq_iff_addUp (directives : List Directive) (output : Generation) :
    generate directives = output ↔ AddUp [] directives output := by
  have h : AddUp [] directives (generate directives) :=
    assembleOutcomes_addUp directives Assembly.records_empty
  constructor
  · rintro rfl
    exact h
  · exact h.unique

/-! ## What a pass is made of -/

/-- A module is what a directive makes: it is of the origin, which has fields, and its functions are the ones
that are synthesized for targets. -/
structure Directive.Makes (directive : Directive) (module : MapperModule) : Prop where
  origin : module.origin = directive.origin.identity
  known : directive.origin.unresolvedReason? = none
  functions : ∀ function ∈ module.functions, ∃ target ∈ directive.targets,
    synthesize directive.origin target (plan directive.origin target) = .ok function

theorem Contributes.makes {before : List Directive} {directive : Directive} {part : Generation}
    (h : Contributes before directive part) {module : MapperModule} (hm : module ∈ part.modules) :
    directive.Makes module := by
  cases h with
  | taken => cases hm
  | malformed => cases hm
  | @assembled judged _ known targets verdicts =>
    obtain rfl := List.mem_singleton.mp hm
    refine ⟨rfl, known, fun function hf => ?_⟩
    obtain ⟨⟨target, verdict⟩, judgedMem, kept⟩ := List.mem_filterMap.mp hf
    cases verdict with
    | refused diagnostic => cases kept
    | kept own =>
      obtain rfl : own = function := Option.some.inj kept
      exact ⟨target, targets ▸ List.mem_map_of_mem judgedMem, synthesize_of_kept verdicts judgedMem⟩

theorem exists_makes {directives : List Directive} {module : MapperModule}
    (h : module ∈ (generate directives).modules) : ∃ directive ∈ directives, directive.Makes module := by
  obtain ⟨parts, rfl, ordered, output⟩ := assembleOutcomes_addUp directives Assembly.records_empty
  change generate _ = _ at output
  rw [output, List.mem_flatMap] at h
  obtain ⟨⟨directive, part⟩, partMem, hm⟩ := h
  obtain ⟨before, contributes⟩ := ordered.of_mem partMem
  have contributes : Contributes _ directive part := contributes
  exact ⟨directive, List.mem_map_of_mem partMem, contributes.makes hm⟩

end RecordMapper
