/-
Expansion removes mapping attributes. One that was before a struct, an enum or a union of the file or of one of
its modules has been answered: its targets are those of a directive, or a report says what is wrong. One inside
another item is removed as well, and never answered.
-/
import RecordMapper.Expansion
import RecordMapper.Proofs.InnerItems

namespace RecordMapper

open Code

section Scanned

variable {items : List Tree} {declaration : Declaration} {attr : Attribute}

/-- A mapping attribute names some of the paths that are asked for, or there is an error in it. -/
theorem Asks.answers {attrs : List Attribute} {paths : List Tree} {errors : List SourceError}
    (h : Asks attrs paths errors) (hm : attr ∈ attrs) (asks : attr.isMapper = true) :
    (∃ named, attr.targets = .ok named ∧ named <:+: paths) ∨
      ∃ error ∈ errors, attr.targets = .error error := by
  induction h with
  | nil => cases hm
  | other plain _ ih =>
    rcases List.mem_cons.mp hm with rfl | hm
    · rw [plain] at asks
      cases asks
    · exact ih hm
  | @accepted _ _ path more _ _ _ targets _ ih =>
    rcases List.mem_cons.mp hm with rfl | hm
    · exact .inl ⟨path :: more, targets, (List.prefix_append _ _).isInfix⟩
    · refine (ih hm).imp_left fun ⟨named, targets, among⟩ => ⟨named, targets, ?_⟩
      exact among.trans (List.suffix_append _ _).isInfix
  | @rejected _ _ _ error _ _ targets _ ih =>
    rcases List.mem_cons.mp hm with rfl | hm
    · exact .inr ⟨error, List.mem_cons_self, targets⟩
    · exact (ih hm).imp_right fun ⟨error, listed, targets⟩ =>
        ⟨error, List.mem_cons_of_mem _ listed, targets⟩

end Scanned

section Source

variable {text : String} {file : File}

/-- Reports are about the names of records and fields only. -/
theorem Extraction.Retyped.reports {extraction other : Extraction} (h : extraction.Retyped other) :
    other.errors.map SourceError.report ++
        (generate other.directives).diagnostics.map other.spans.report =
      extraction.errors.map SourceError.report ++
        (generate extraction.directives).diagnostics.map extraction.spans.report := by
  rw [h.errors, h.spans, ← diagnostics_generate_bare, h.directives, diagnostics_generate_bare]

end Source

end RecordMapper
