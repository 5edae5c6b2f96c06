/-
A diagnostic does not say whether a whole directive was skipped or one target left out; its target tells
them apart. A missing field list is the one cause that both have, and there the target is made up from the
two identities alone. They are equal where the origin has no fields, and also where a target without fields
has the identity of an origin with fields, which is what a record that is declared twice leads to. Such a
diagnostic reads as one about its directive, and no other reads as what it is not.
-/
import RecordMapper.Extraction
import RecordMapper.Proofs.Contributions

namespace RecordMapper

open Code

/-- A target without fields that has the identity of the origin, and the diagnostic for it. -/
def Diagnostic.IsAboutNamesake (diagnostic : Diagnostic) (origin target : Schema) : Prop :=
  target.identity = origin.identity ∧ ∃ reason, target.unresolvedReason? = some reason ∧
    diagnostic = .malformedSchema origin.identity target.identity reason

/-- The target of a diagnostic about a target is that target, unless the diagnostic is about a
namesake. -/
theorem Judged.target?_eq {origin : Schema} {before : List (Schema × Verdict)} {target : Schema}
    {diagnostic : Diagnostic} (h : Judged origin before (target, .refused diagnostic)) :
    (diagnostic.IsAboutNamesake origin target ∧ diagnostic.target? = none) ∨
      (¬diagnostic.IsAboutNamesake origin target ∧ diagnostic.target? = some target.identity) := by
  cases h with
  | repeated =>
    refine .inr ⟨?_, rfl⟩
    rintro ⟨-, reason, -, same⟩
    cases same
  | @malformed _ reason _ unresolved =>
    by_cases own : target.identity = origin.identity
    · exact .inl ⟨⟨own, reason, unresolved, rfl⟩, if_pos own⟩
    · exact .inr ⟨fun namesake => own namesake.1, if_neg own⟩
  | collides =>
    refine .inr ⟨?_, rfl⟩
    rintro ⟨-, reason, -, same⟩
    cases same

/-- A directive that is skipped adds one diagnostic, and that has no target. -/
theorem Contributes.exists_of_skipped {before : List Directive} {directive : Directive} {part : Generation}
    (h : Contributes before directive part) (skipped : part.modules = []) :
    ∃ diagnostic, part.diagnostics = [diagnostic] ∧ diagnostic.target? = none := by
  cases h with
  | taken => exact ⟨_, rfl, rfl⟩
  | malformed => exact ⟨_, rfl, if_pos rfl⟩
  | assembled => cases skipped

/-- A directive that is assembled adds the diagnostics of the targets that are left out. -/
theorem Contributes.exists_judged {before : List Directive} {directive : Directive} {part : Generation}
    (h : Contributes before directive part) (assembled : part.modules ≠ []) :
    ∃ judged, judged.map Prod.fst = directive.targets ∧ InOrder (Judged directive.origin) judged ∧
      part.diagnostics = judged.filterMap (·.2.diagnostic?) := by
  cases h with
  | taken => exact absurd rfl assembled
  | malformed => exact absurd rfl assembled
  | assembled _ _ keys ordered => exact ⟨_, keys, ordered, rfl⟩

/-- **What the target of a diagnostic tells.** The diagnostics of a pass are those of its directives, in
order. A directive that is skipped has one, which has no target. A directive that is assembled has one for
each target that is left out, and its target is that target; only if that is a namesake of the origin
without fields, it has none. -/
theorem generate_tells_targets (directives : List Directive) :
    ∃ parts : List (Directive × Generation), parts.map Prod.fst = directives ∧
      InOrder (fun earlier part => Contributes (earlier.map Prod.fst) part.1 part.2) parts ∧
      generate directives = ⟨parts.flatMap (·.2.modules), parts.flatMap (·.2.diagnostics)⟩ ∧
      ∀ directive part, (directive, part) ∈ parts →
        (part.modules = [] →
          ∃ diagnostic, part.diagnostics = [diagnostic] ∧ diagnostic.target? = none) ∧
        (part.modules ≠ [] →
          ∃ judged, judged.map Prod.fst = directive.targets ∧
            InOrder (Judged directive.origin) judged ∧
            part.diagnostics = judged.filterMap (·.2.diagnostic?) ∧
            ∀ target diagnostic, (target, .refused diagnostic) ∈ judged →
              (diagnostic.target? = none ↔ diagnostic.IsAboutNamesake directive.origin target) ∧
              (¬diagnostic.IsAboutNamesake directive.origin target →
                diagnostic.target? = some target.identity)) := by
  obtain ⟨parts, keys, ordered, output⟩ := assembleOutcomes_addUp directives Assembly.records_empty
  simp only [List.nil_append] at ordered
  refine ⟨parts, keys, ordered, output, fun directive part hm => ?_⟩
  obtain ⟨earlier, contributes⟩ := ordered.of_mem hm
  refine ⟨contributes.exists_of_skipped, fun assembled => ?_⟩
  obtain ⟨judged, targets, verdicts, diagnostics⟩ := contributes.exists_judged assembled
  refine ⟨judged, targets, verdicts, diagnostics, fun target diagnostic refused => ?_⟩
  obtain ⟨before, verdict⟩ := verdicts.of_mem refused
  rcases verdict.target?_eq with ⟨namesake, nothing⟩ | ⟨other, named⟩
  · exact ⟨iff_of_true nothing namesake, absurd namesake⟩
  · exact ⟨iff_of_false (by simp [named]) other, fun _ => named⟩

/-- A record that is declared twice, for two settings of a build, and is mapped to itself. -/
def declaredTwice : String :=
  "#[cfg(unix)]\n#[mapper(O, T)]\nstruct O { id: u8 }\n#[cfg(windows)]\nstruct O(u8);\nstruct T { id: u8 }"

/-- Its directive is assembled, one of its targets is left out for having no fields, and the diagnostic for
that target has no target. -/
theorem generate_tells_targets_declaredTwice :
    ∃ file directive judged target diagnostic, File.ofText? declaredTwice = some file ∧
      (extract "crate" file.items).directives = [directive] ∧
      (generate [directive]).modules.map (·.functions.map (·.name)) = [["mapToT"]] ∧
      (generate [directive]).diagnostics = [diagnostic] ∧
      judged.map Prod.fst = directive.targets ∧ InOrder (Judged directive.origin) judged ∧
      (target, .refused diagnostic) ∈ judged ∧ target.identity = ⟨"crate::O"⟩ ∧
      diagnostic.target? = none := by
  have read : (File.ofText? declaredTwice).map (fun file =>
      let directives := (extract "crate" file.items).directives
      (directives.map (·.origin.identity),
        (generate directives).modules.map (·.functions.map (·.name)),
        (generate directives).diagnostics)) =
      some ([⟨"crate::O"⟩], [["mapToT"]],
        [.malformedSchema ⟨"crate::O"⟩ ⟨"crate::O"⟩ "tuple structs have no named fields"]) := by
    decide +kernel
  obtain ⟨file, parsed, answers⟩ := Option.map_eq_some_iff.mp read
  obtain ⟨origins, answers⟩ := Prod.mk.inj answers
  obtain ⟨directive, extracted, origin⟩ := List.map_eq_singleton_iff.mp origins
  rw [extracted] at answers
  obtain ⟨modules, diagnostics⟩ := Prod.mk.inj answers
  obtain ⟨parts, keys, -, output, tells⟩ := generate_tells_targets [directive]
  obtain ⟨⟨own, part⟩, rfl, rfl⟩ := List.map_eq_singleton_iff.mp keys
  simp only [output, List.flatMap_singleton] at modules diagnostics
  have assembled : part.modules ≠ [] := by
    intro none
    rw [none] at modules
    cases modules
  obtain ⟨judged, targets, ordered, leftOut, about⟩ := (tells own part List.mem_cons_self).2 assembled
  rw [diagnostics] at leftOut
  obtain ⟨⟨target, verdict⟩, judgedMem, refused⟩ :=
    List.mem_filterMap.mp (leftOut ▸ List.mem_cons_self)
  cases verdict with
  | kept function => cases refused
  | refused diagnostic =>
    obtain rfl := Option.some.inj refused
    have namesake := (about target _ judgedMem).1.mp (by decide)
    refine ⟨file, own, judged, target, _, parsed, extracted, ?_, ?_, targets, ordered, judgedMem, ?_,
      by decide⟩
    · simpa only [output, List.flatMap_singleton] using modules
    · simpa only [output, List.flatMap_singleton] using diagnostics
    · rw [namesake.1]
      exact origin

end RecordMapper
