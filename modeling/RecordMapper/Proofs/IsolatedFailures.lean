/-
A target that is refused leaves one trace besides its diagnostic: its identity counts as met. A directive
that is refused leaves none. So the same request without a failed target, or without a failed directive,
gives what it gave before, less one diagnostic. The two runs are compared step by step: from the missing
element on they differ in the one diagnostic and in an identity that is not met again.
-/
import RecordMapper.Proofs.Contributions

namespace RecordMapper

/-! ## One step of a walk -/

/-- What a walk makes of the next target. -/
def TargetWalk.verdict (origin : Schema) (walk : TargetWalk) (target : Schema) : Verdict :=
  if target.identity ∈ walk.seen then
    .refused (.duplicateTarget origin.identity target.identity)
  else
    match synthesize origin target (plan origin target) with
    | .error diagnostic => .refused diagnostic
    | .ok function =>
      match walk.functions.find? (·.name = function.name) with
      | some first =>
        .refused (.nameCollision origin.identity function.name first.returns target.identity)
      | none => .kept function

section Step

variable {origin target : Schema} {walk rest : TargetWalk}

/-- A step adds what the verdict holds. -/
theorem TargetWalk.step_verdict :
    (walk.step origin target).functions =
        walk.functions ++ (walk.verdict origin target).function?.toList ∧
      (walk.step origin target).diagnostics =
        walk.diagnostics ++ (walk.verdict origin target).diagnostic?.toList := by
  unfold TargetWalk.step TargetWalk.verdict
  split
  · simp [Verdict.function?, Verdict.diagnostic?]
  · cases synthesize origin target (plan origin target) with
    | error => simp [Verdict.function?, Verdict.diagnostic?]
    | ok function =>
      cases found : walk.functions.find? (·.name = function.name) <;>
        simp [found, Verdict.function?, Verdict.diagnostic?]

/-- Every target counts as met, whatever becomes of it. -/
theorem TargetWalk.mem_seen_step {identity : Identity} :
    identity ∈ (walk.step origin target).seen ↔ identity = target.identity ∨ identity ∈ walk.seen := by
  unfold TargetWalk.step
  split
  · next met =>
    constructor
    · exact .inr
    · rintro (rfl | earlier)
      · exact met
      · exact earlier
  · cases synthesize origin target (plan origin target) with
    | error => simp
    | ok function =>
      cases found : walk.functions.find? (·.name = function.name) <;> simp [found]

/-- A verdict looks at the functions in use and at whether the target was met. -/
theorem TargetWalk.verdict_congr (functions : rest.functions = walk.functions)
    (seen : target.identity ∈ rest.seen ↔ target.identity ∈ walk.seen) :
    rest.verdict origin target = walk.verdict origin target := by
  unfold TargetWalk.verdict
  rw [functions]
  simp only [seen]

end Step

/-! ## Without one target -/

/-- The walk over the targets of a directive on `origin`. -/
def TargetWalk.over (origin : Schema) (targets : List Schema) : TargetWalk :=
  targets.foldl (TargetWalk.step origin) .start

/-- Two walks of which the second was spared a target that the first has refused, with a diagnostic that
comes after those of `early`. -/
structure TargetWalk.Spares (early : List Diagnostic) (diagnostic : Diagnostic) (spared : Identity)
    (walk rest : TargetWalk) : Prop where
  functions : rest.functions = walk.functions
  seen : ∀ identity, identity ≠ spared → (identity ∈ rest.seen ↔ identity ∈ walk.seen)
  diagnostics : ∃ late, walk.diagnostics = early ++ diagnostic :: late ∧ rest.diagnostics = early ++ late

section Targets

variable {origin target : Schema} {early : List Diagnostic} {diagnostic : Diagnostic} {spared : Identity}
  {walk rest : TargetWalk}

/-- A target that is refused adds no function. -/
theorem TargetWalk.spares_step
    (refused : (walk.step origin target).diagnostics = walk.diagnostics ++ [diagnostic]) :
    Spares walk.diagnostics diagnostic target.identity (walk.step origin target) walk := by
  obtain ⟨functions, diagnostics⟩ := @TargetWalk.step_verdict origin target walk
  refine ⟨?_, fun identity apart => ?_, [], refused, (List.append_nil _).symm⟩
  · rw [refused] at diagnostics
    rw [functions]
    cases verdict : walk.verdict origin target with
    | kept => simp [verdict, Verdict.diagnostic?] at diagnostics
    | refused => simp [Verdict.function?]
  · simp [TargetWalk.mem_seen_step, apart]

/-- Another target is judged alike in both walks. -/
theorem TargetWalk.Spares.step (h : Spares early diagnostic spared walk rest)
    (apart : target.identity ≠ spared) :
    Spares early diagnostic spared (walk.step origin target) (rest.step origin target) := by
  have same : rest.verdict origin target = walk.verdict origin target :=
    TargetWalk.verdict_congr h.functions (h.seen _ apart)
  obtain ⟨functions, diagnostics⟩ := @TargetWalk.step_verdict origin target walk
  obtain ⟨functions', diagnostics'⟩ := @TargetWalk.step_verdict origin target rest
  obtain ⟨late, whole, less⟩ := h.diagnostics
  refine ⟨?_, fun identity other => ?_,
    late ++ (walk.verdict origin target).diagnostic?.toList, ?_, ?_⟩
  · rw [functions, functions', same, h.functions]
  · rw [TargetWalk.mem_seen_step, TargetWalk.mem_seen_step, h.seen identity other]
  · rw [diagnostics, whole, List.append_assoc, List.cons_append]
  · rw [diagnostics', same, less, List.append_assoc]

theorem TargetWalk.Spares.foldl (targets : List Schema) :
    ∀ {walk rest : TargetWalk}, Spares early diagnostic spared walk rest →
      (∀ target ∈ targets, target.identity ≠ spared) →
      Spares early diagnostic spared (targets.foldl (TargetWalk.step origin) walk)
        (targets.foldl (TargetWalk.step origin) rest) := by
  induction targets with
  | nil => exact fun h _ => h
  | cons target targets ih =>
    intro walk rest h apart
    exact ih (h.step (apart target List.mem_cons_self)) fun other hm =>
      apart other (List.mem_cons_of_mem _ hm)

theorem TargetWalk.spares_over {before after : List Schema}
    (refused : ((TargetWalk.over origin before).step origin target).diagnostics =
      (TargetWalk.over origin before).diagnostics ++ [diagnostic])
    (last : ∀ later ∈ after, later.identity ≠ target.identity) :
    Spares (TargetWalk.over origin before).diagnostics diagnostic target.identity
      (TargetWalk.over origin (before ++ target :: after)) (TargetWalk.over origin (before ++ after)) := by
  have whole : TargetWalk.over origin (before ++ target :: after) =
      after.foldl (TargetWalk.step origin) ((TargetWalk.over origin before).step origin target) := by
    rw [TargetWalk.over, List.foldl_append, List.foldl_cons]
    rfl
  have less : TargetWalk.over origin (before ++ after) =
      after.foldl (TargetWalk.step origin) (TargetWalk.over origin before) := List.foldl_append
  rw [whole, less]
  exact (TargetWalk.spares_step refused).foldl after last

end Targets

theorem outcome_of_known {directive : Directive} (h : directive.origin.unresolvedReason? = none) :
    directive.outcome = .synthesized (TargetWalk.over directive.origin directive.targets).functions
      (TargetWalk.over directive.origin directive.targets).diagnostics := by
  simp [Directive.outcome, h, TargetWalk.over]

/-! ## Parts of a pass -/

/-- The results of two parts of a pass, one after the other. -/
def Generation.followedBy (first second : Generation) : Generation :=
  ⟨first.modules ++ second.modules, first.diagnostics ++ second.diagnostics⟩

section Parts

variable {before before' front back directives : List Directive} {directive : Directive}
  {part later output : Generation}

theorem taken_append {front : List Directive} {origin : Identity} :
    Taken (front ++ back) origin ↔ Taken front origin ∨ Taken back origin := by
  simp [Taken, or_and_right, exists_or]

/-- What a directive adds depends on the earlier ones through the origins that they take. -/
theorem Contributes.congr (same : ∀ origin, Taken before origin ↔ Taken before' origin)
    (h : Contributes before directive part) : Contributes before' directive part := by
  cases h with
  | taken taken => exact .taken ((same _).mp taken)
  | malformed free reason => exact .malformed (mt (same _).mpr free) reason
  | assembled free known keys judged => exact .assembled (mt (same _).mpr free) known keys judged

theorem AddUp.congr (same : ∀ origin, Taken before origin ↔ Taken before' origin)
    (h : AddUp before directives output) : AddUp before' directives output := by
  obtain ⟨parts, keys, contributes, rfl⟩ := h
  refine ⟨parts, keys, contributes.imp fun earlier part _ hc => hc.congr fun origin => ?_, rfl⟩
  rw [taken_append, taken_append, same]

theorem AddUp.append {first second : Generation} (hf : AddUp before front first)
    (hs : AddUp (before ++ front) back second) : AddUp before (front ++ back) (first.followedBy second) := by
  obtain ⟨parts, rfl, contributes, rfl⟩ := hf
  obtain ⟨parts', rfl, contributes', rfl⟩ := hs
  refine ⟨parts ++ parts', by simp, InOrder.append_iff.mpr ⟨contributes, ?_⟩,
    by simp [Generation.followedBy]⟩
  simpa [List.append_assoc] using contributes'

theorem exists_records (before : List Directive) : ∃ assembly : Assembly, assembly.Records before := by
  induction before using List.reverseRecOn with
  | nil => exact ⟨.empty, Assembly.records_empty⟩
  | append_singleton before directive ih =>
    obtain ⟨assembly, records⟩ := ih
    cases known : directive.origin.fields?.isSome with
    | false => exact ⟨assembly, records.pass_over (.inr known)⟩
    | true => exact ⟨_, records.take known⟩

theorem exists_addUp (before directives : List Directive) : ∃ output, AddUp before directives output := by
  obtain ⟨assembly, records⟩ := exists_records before
  exact ⟨_, assembleOutcomes_addUp directives records⟩

theorem exists_contributes (before : List Directive) (directive : Directive) :
    ∃ part, Contributes before directive part := by
  obtain ⟨output, parts, keys, ordered, -⟩ := exists_addUp before [directive]
  obtain ⟨⟨_, part⟩, rfl, rfl⟩ := List.map_eq_singleton_iff.mp keys
  exact ⟨part, by simpa using (InOrder.cons_iff.mp ordered).1⟩

theorem generate_append (h : AddUp front back later) :
    generate (front ++ back) = (generate front).followedBy later :=
  (generate_eq_iff_addUp _ _).mpr (((generate_eq_iff_addUp front _).mp rfl).append h)

/-- A pass over directives with one of them between others. -/
theorem generate_around (hc : Contributes front directive part)
    (h : AddUp (front ++ [directive]) back later) :
    generate (front ++ directive :: back) = (generate front).followedBy (part.followedBy later) :=
  generate_append (AddUp.cons hc h)

end Parts

/-! ## Without one element -/

/-- Two results with the same modules, of which the second lacks one diagnostic: the one that comes after
those of `early` in the first. -/
structure Generation.Loses (whole : Generation) (early : List Diagnostic) (diagnostic : Diagnostic)
    (rest : Generation) : Prop where
  modules : rest.modules = whole.modules
  diagnostics : ∃ late, whole.diagnostics = early ++ diagnostic :: late ∧ rest.diagnostics = early ++ late

section Without

variable {front back : List Directive} {directive other : Directive} {part : Generation}
  {early : List Diagnostic} {diagnostic : Diagnostic} {spared : Identity}

theorem contributes_of_outcome {functions : List Mapper} {diagnostics : List Diagnostic}
    (free : ¬Taken front directive.origin.identity) (known : directive.origin.unresolvedReason? = none)
    (h : directive.outcome = .synthesized functions diagnostics) :
    Contributes front directive ⟨[⟨directive.origin.identity, functions⟩], diagnostics⟩ := by
  obtain ⟨judged, keys, ordered, outcome⟩ := exists_judged_outcome known
  obtain ⟨rfl, rfl⟩ := Outcome.synthesized.inj (h.symm.trans outcome)
  exact .assembled free known keys ordered

/-- A directive that adds no module adds one diagnostic, and takes no origin. -/
theorem Contributes.of_modules_eq_nil (h : Contributes front directive part)
    (empty : part.modules = []) :
    (∃ diagnostic, part = ⟨[], [diagnostic]⟩) ∧
      ∀ origin, Taken (front ++ [directive]) origin ↔ Taken front origin := by
  cases h with
  | taken taken =>
    refine ⟨⟨_, rfl⟩, fun origin => taken_concat.trans (or_iff_left_of_imp ?_)⟩
    rintro ⟨rfl, -⟩
    exact taken
  | malformed _ reason =>
    refine ⟨⟨_, rfl⟩, fun origin => taken_concat.trans (or_iff_left_of_imp ?_)⟩
    rintro ⟨-, known⟩
    rw [Schema.fields?_eq_none_of_reason reason] at known
    cases known
  | assembled => cases empty

theorem generate_without_directive (h : Contributes front directive part) (empty : part.modules = []) :
    ∃ diagnostic, part.diagnostics = [diagnostic] ∧
      (generate (front ++ directive :: back)).Loses (generate front).diagnostics diagnostic
        (generate (front ++ back)) := by
  obtain ⟨⟨diagnostic, rfl⟩, same⟩ := h.of_modules_eq_nil empty
  obtain ⟨later, adds⟩ := exists_addUp (front ++ [directive]) back
  refine ⟨diagnostic, rfl, ?_, later.diagnostics, ?_, ?_⟩
  · rw [generate_around h adds, generate_append (adds.congr same)]
    rfl
  · rw [generate_around h adds]
    rfl
  · rw [generate_append (adds.congr same)]
    rfl

/-- Only the origins of a directive count for the later ones. -/
theorem addUp_congr_origin {directives : List Directive} {output : Generation}
    (origin : other.origin = directive.origin) (h : AddUp (front ++ [directive]) directives output) :
    AddUp (front ++ [other]) directives output :=
  h.congr fun identity => by rw [taken_concat, taken_concat, origin]

theorem generate_of_taken (origin : other.origin = directive.origin)
    (taken : Taken front directive.origin.identity) :
    generate (front ++ other :: back) = generate (front ++ directive :: back) := by
  obtain ⟨later, adds⟩ := exists_addUp (front ++ [directive]) back
  have refused : Contributes front other ⟨[], [.duplicateOrigin other.origin.identity]⟩ :=
    .taken (origin ▸ taken)
  rw [generate_around refused (addUp_congr_origin origin adds), generate_around (.taken taken) adds, origin]

theorem generate_without_target (origin : other.origin = directive.origin)
    (known : directive.origin.unresolvedReason? = none)
    (free : ¬Taken front directive.origin.identity)
    (spares : TargetWalk.Spares early diagnostic spared
      (TargetWalk.over directive.origin directive.targets)
      (TargetWalk.over directive.origin other.targets)) :
    (generate (front ++ directive :: back)).Loses ((generate front).diagnostics ++ early) diagnostic
      (generate (front ++ other :: back)) := by
  obtain ⟨later, adds⟩ := exists_addUp (front ++ [directive]) back
  obtain ⟨late, whole, less⟩ := spares.diagnostics
  have contributes := contributes_of_outcome free known (outcome_of_known known)
  have known' : other.origin.unresolvedReason? = none := origin ▸ known
  have free' : ¬Taken front other.origin.identity := origin ▸ free
  have contributes' := contributes_of_outcome free' known' (outcome_of_known known')
  have whole_eq := generate_around contributes adds
  have less_eq := generate_around contributes' (addUp_congr_origin origin adds)
  rw [origin] at less_eq
  refine ⟨?_, late ++ later.diagnostics, ?_, ?_⟩
  · rw [whole_eq, less_eq, spares.functions]
    rfl
  · rw [whole_eq]
    simp [Generation.followedBy, whole]
  · rw [less_eq]
    simp [Generation.followedBy, less]

end Without

/-- **Failures stay where they are.** Take a directive whose origin is known and one of its targets that is
refused, and whose identity no later target has. Without it the directive gives the same functions and all
its other diagnostics, and so does a pass that the directive is assembled in. A pass without a directive
that adds no module gives the same modules and all diagnostics but the one of that directive. -/
theorem generate_without_failed :
    (∀ (directive : Directive) (before after : List Schema) (target : Schema) (diagnostic : Diagnostic),
      directive.origin.unresolvedReason? = none →
      directive.targets = before ++ target :: after → 2 ≤ directive.targets.length →
      let walk := TargetWalk.over directive.origin before
      (walk.step directive.origin target).diagnostics = walk.diagnostics ++ [diagnostic] →
      (∀ later ∈ after, later.identity ≠ target.identity) →
      ∃ other functions late,
        Directive.ofTargets directive.origin (before ++ after) = .ok other ∧
        directive.outcome = .synthesized functions (walk.diagnostics ++ diagnostic :: late) ∧
        other.outcome = .synthesized functions (walk.diagnostics ++ late) ∧
        ∀ front back,
          (Taken front directive.origin.identity →
            generate (front ++ other :: back) = generate (front ++ directive :: back)) ∧
          (¬Taken front directive.origin.identity →
            (generate (front ++ directive :: back)).Loses
              ((generate front).diagnostics ++ walk.diagnostics) diagnostic
              (generate (front ++ other :: back)))) ∧
    ∀ (front : List Directive) (directive : Directive) (back : List Directive), ∃ part,
      generate (front ++ [directive]) = (generate front).followedBy part ∧
      (part.modules = [] → ∃ diagnostic, part.diagnostics = [diagnostic] ∧
        (generate (front ++ directive :: back)).Loses (generate front).diagnostics diagnostic
          (generate (front ++ back))) := by
  constructor
  · intro directive before after target diagnostic known targets several walk refused last
    have spares := TargetWalk.spares_over refused last
    have some_left : before ++ after ≠ [] := by
      intro none_left
      obtain ⟨rfl, rfl⟩ := List.append_eq_nil_iff.mp none_left
      simp [targets] at several
    let other : Directive := ⟨directive.origin, before ++ after, some_left⟩
    obtain ⟨late, whole, less⟩ := spares.diagnostics
    rw [← targets] at spares whole
    let functions := (TargetWalk.over directive.origin directive.targets).functions
    refine ⟨other, functions, late, dif_neg some_left, ?_, ?_, fun front back =>
      ⟨fun taken => ?_, fun free => ?_⟩⟩
    · rw [outcome_of_known known, whole]
    · have known' : other.origin.unresolvedReason? = none := known
      rw [outcome_of_known known', spares.functions, less]
    · exact generate_of_taken rfl taken
    · have same : other.origin = directive.origin := rfl
      exact generate_without_target same known free spares
  · intro front directive back
    obtain ⟨part, contributes⟩ := exists_contributes front directive
    refine ⟨part, ?_, generate_without_directive contributes⟩
    rw [generate_around contributes AddUp.nil]
    simp [Generation.followedBy]

/-- The second of two targets of one name, and the second of two directives on one origin. -/
theorem generate_without_repeated :
    let origin : Schema := ⟨⟨"crate::O"⟩, .resolved [⟨"id", ⟨"i64"⟩⟩] (by decide)⟩
    let target (identity : String) : Schema := ⟨⟨identity⟩, .resolved [⟨"id", ⟨"i64"⟩⟩] (by decide)⟩
    let broken := Schema.unresolved ⟨"crate::Broken"⟩ "an enum"
    let directive (targets : List Schema) (h : targets ≠ []) : Directive := ⟨origin, targets, h⟩
    let whole := directive [broken, target "crate::a::T", target "crate::b::T", target "crate::U"] (by decide)
    let less := directive [broken, target "crate::a::T", target "crate::U"] (by decide)
    let collision := Diagnostic.nameCollision ⟨"crate::O"⟩ "mapToT" ⟨"crate::a::T"⟩ ⟨"crate::b::T"⟩
    let malformed := Diagnostic.malformedSchema ⟨"crate::O"⟩ ⟨"crate::Broken"⟩ "an enum"
    (generate [whole, less]).Loses [malformed] collision (generate [less, less]) ∧
      (generate [whole, less]).Loses [malformed, collision] (.duplicateOrigin ⟨"crate::O"⟩)
        (generate [whole]) := by
  intro origin target broken directive whole less collision malformed
  obtain ⟨targets, directives⟩ := generate_without_failed
  obtain ⟨other, functions, late, built, -, -, pass⟩ := targets whole [broken, target "crate::a::T"]
    [target "crate::U"] (target "crate::b::T") collision rfl rfl (by decide) (by decide +kernel) (by decide)
  have same : other = less := by
    rw [← Except.ok.injEq (ε := SchemaError), ← built]
    rfl
  have free : ¬Taken [] whole.origin.identity := by simp [Taken]
  have early : (TargetWalk.over whole.origin [broken, target "crate::a::T"]).diagnostics = [malformed] := by
    decide +kernel
  obtain ⟨part, after, without⟩ := directives [whole] less []
  have added : generate [whole, less] =
      (generate [whole]).followedBy ⟨[], [.duplicateOrigin ⟨"crate::O"⟩]⟩ := by
    decide +kernel
  obtain ⟨modules, diagnostics⟩ := Generation.mk.inj (added.symm.trans after)
  have empty : part.modules = [] := (List.append_cancel_left modules).symm
  obtain ⟨diagnostic, one, loses⟩ := without empty
  obtain rfl : Diagnostic.duplicateOrigin ⟨"crate::O"⟩ = diagnostic :=
    List.singleton_inj.mp ((List.append_cancel_left diagnostics).trans one)
  have before : (generate [whole]).diagnostics = [malformed, collision] := by decide +kernel
  refine ⟨?_, before ▸ loses⟩
  have lost := (pass [] [less]).2 free
  rw [early, same] at lost
  exact lost

end RecordMapper
