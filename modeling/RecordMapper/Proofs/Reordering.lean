/-
Where every identity is declared once, it does not matter in which order the items of a module stand. The
declarations of a source are then looked up by keys of which each occurs once, and a pass meets every
origin once, so that what it makes of one directive does not depend on the others.
-/
import RecordMapper.Proofs.SplitHomes
import RecordMapper.Proofs.Extracted
import RecordMapper.Proofs.Located
import Mathlib.Data.List.Find
import Mathlib.Data.List.Nodup

namespace RecordMapper

open Code

/-! ## Items in another order -/

/-- A module with other items in it. -/
def WrittenModule.around {name : String} {items : List Tree} (module : WrittenModule name items)
    (others : List Tree) : WrittenModule name others where
  front := module.front
  namePlace := module.namePlace
  opening := module.opening
  closing := module.closing
  own := module.own
  isAside_of_mem_front := module.isAside_of_mem_front
  isNoItem_of_mem_own := module.isNoItem_of_mem_own

/-- The same items, each with its places, in another order at the top and inside modules. -/
inductive Reordered : List Tree → List Tree → Prop
  | nil : Reordered [] []
  | item (item : Tree) {rest others : List Tree} :
      Reordered rest others → Reordered (item :: rest) (item :: others)
  | inside {name : String} {inner inner' rest others : List Tree} (module : WrittenModule name inner) :
      Reordered inner inner' → Reordered rest others →
      Reordered (module.tree :: rest) ((module.around inner').tree :: others)
  | swap (first second : Tree) (rest : List Tree) :
      Reordered (first :: second :: rest) (second :: first :: rest)
  | trans {items others more : List Tree} :
      Reordered items others → Reordered others more → Reordered items more

theorem Reordered.of_perm {items others : List Tree} (h : items.Perm others) : Reordered items others := by
  induction h with
  | nil => exact .nil
  | cons item _ ih => exact .item item ih
  | swap first second rest => exact .swap second first rest
  | trans _ _ ih ih' => exact .trans ih ih'

/-- Reordered items declare the same, in another order. -/
theorem Reordered.perm_declarationsIn {items others : List Tree} (h : Reordered items others)
    (home : Home) : (declarationsIn home items).Perm (declarationsIn home others) := by
  induction h generalizing home with
  | nil => exact .refl _
  | item item _ ih =>
    rw [declarationsIn, declarationsIn]
    exact (ih home).append_left _
  | @inside name inner inner' rest others module _ _ ihInside ihRest =>
    rw [declarationsIn, declarationsIn, module.declarationsOf_tree, (module.around inner').declarationsOf_tree]
    exact (ihInside _).append (ihRest home)
  | swap first second rest =>
    simp only [declarationsIn, ← List.append_assoc]
    exact List.perm_append_comm.append_right _
  | trans _ _ ih ih' => exact (ih home).trans (ih' home)

/-! ## Keys that occur once -/

section Keys

variable {α κ : Type} {key : α → κ} {xs ys : List α}

/-- Elements with different keys are found by their keys in any order. -/
theorem find?_key_eq_of_perm [DecidableEq κ] (h : xs.Perm ys) (nodup : (xs.map key).Nodup) (wanted : κ) :
    xs.find? (key · = wanted) = ys.find? (key · = wanted) := by
  refine List.find?_eq_find?_of_perm h fun x hx y hy => ?_
  simp only [decide_eq_true_eq, Set.mem_ofPred_eq] at hx hy
  exact List.inj_on_of_nodup_map nodup hx.1 hy.1 (hx.2.trans hy.2.symm)

/-- Where every element gives at most one result, which keeps its key, no key becomes more frequent. -/
theorem sublist_map_flatMap {β : Type} {own : β → κ} {results : α → List β}
    (h : ∀ x, results x = [] ∨ ∃ result, results x = [result] ∧ own result = key x) (xs : List α) :
    ((xs.flatMap results).map own).Sublist (xs.map key) := by
  induction xs with
  | nil => exact .refl _
  | cons x xs ih =>
    rw [List.flatMap_cons, List.map_append, List.map_cons]
    rcases h x with none_given | ⟨result, given, same⟩
    · rw [none_given]
      exact ih.cons _
    · rw [given, List.map_singleton, same]
      exact ih.cons_cons _

end Keys

theorem lookUp_eq_of_perm {declarations others : List Declaration} (h : declarations.Perm others)
    (nodup : (declarations.map Declaration.identity).Nodup) (identity : Identity) :
    lookUp declarations identity = lookUp others identity := by
  have reversed : declarations.reverse.Perm others.reverse :=
    (List.reverse_perm _).trans (h.trans (List.reverse_perm _).symm)
  refine find?_key_eq_of_perm reversed ?_ identity
  rwa [List.map_reverse, List.nodup_reverse]

/-- A span is found only under the owner of its key. -/
theorem identity_of_last? {α : Type} [DecidableEq α] {owner : α → Identity} {declaration : Declaration}
    {spans : List (α × Code.Span)} {key : α} {place : Code.Span}
    (owned : ∀ entry ∈ spans, owner entry.1 = declaration.identity)
    (h : SpanIndex.last? spans key = some place) : declaration.identity = owner key := by
  obtain ⟨entry, found, -⟩ := Option.map_eq_some_iff.mp h
  have same : entry.1 = key := by simpa using List.find?_some found
  rw [← same]
  exact (owned entry (List.mem_reverse.mp (List.mem_of_find?_eq_some found))).symm

/-- Spans whose keys belong to different owners are found in any order of the owners. -/
theorem last?_flatMap_eq_of_perm {α : Type} [DecidableEq α] (owner : α → Identity)
    {spans : Declaration → List (α × Code.Span)}
    (owned : ∀ declaration, ∀ entry ∈ spans declaration, owner entry.1 = declaration.identity)
    {declarations others : List Declaration} (h : declarations.Perm others)
    (nodup : (declarations.map Declaration.identity).Nodup) (key : α) :
    SpanIndex.last? (declarations.flatMap spans) key = SpanIndex.last? (others.flatMap spans) key := by
  induction h with
  | nil => rfl
  | cons declaration _ ih =>
    rw [List.map_cons, List.nodup_cons] at nodup
    rw [List.flatMap_cons, List.flatMap_cons, SpanIndex.last?_append, SpanIndex.last?_append,
      ih nodup.2]
  | swap first second rest =>
    have apart : first.identity ≠ second.identity := by
      rintro same
      simp [same] at nodup
    simp only [List.flatMap_cons, SpanIndex.last?_append, Option.or_assoc]
    congr 1
    -- only one of the two owns the key
    cases hf : SpanIndex.last? (spans first) key with
    | none => rw [Option.none_or, Option.or_none]
    | some place =>
      cases hs : SpanIndex.last? (spans second) key with
      | none => rfl
      | some other =>
        have owns := identity_of_last? (owned first) hf
        exact absurd (owns.trans (identity_of_last? (owned second) hs).symm) apart
  | trans first _ ih ih' =>
    exact (ih nodup).trans (ih' ((first.map _).nodup_iff.mp nodup))

/-! ## Extractions that look up the same -/

section Extractions

variable {declarations others : List Declaration}

theorem schemaOf_congr (same : lookUp declarations = lookUp others) :
    schemaOf declarations = schemaOf others := by
  have paths : qualifiedPath? declarations = qualifiedPath? others := by
    unfold qualifiedPath?
    rw [same]
  unfold schemaOf qualifyType
  rw [paths]

theorem extractOne_congr (same : lookUp declarations = lookUp others) :
    extractOne declarations = extractOne others := by
  have targets : targetSchema declarations = targetSchema others := by
    unfold targetSchema
    rw [same, schemaOf_congr same]
  unfold extractOne
  rw [targets, schemaOf_congr same]

/-- A declaration gives at most one directive, whose origin it is. -/
theorem directives_extractOne (declarations : List Declaration) (declaration : Declaration) :
    (extractOne declarations declaration).directives = [] ∨
      ∃ directive, (extractOne declarations declaration).directives = [directive] ∧
        directive.origin.identity = declaration.identity := by
  have requests := requests_extractOne declarations declaration
  generalize (extractOne declarations declaration).directives = directives at requests ⊢
  generalize (extractOne declarations declaration).errors = errors at requests
  cases requests with
  | nothing => exact .inl rfl
  | unsupported => exact .inl rfl
  | directive _ _ origin => exact .inr ⟨_, rfl, by rw [origin, identity_schemaOf]⟩

/-- A declaration lists places of references under its own identity. -/
theorem owner_references (declarations : List Declaration) (declaration : Declaration) :
    ∀ entry ∈ (extractOne declarations declaration).spans.references,
      entry.1.1 = declaration.identity := by
  intro entry hm
  by_cases record : ∃ generic body, declaration.kind = .record generic body
  · rw [references_extractOne record] at hm
    obtain ⟨path, -, rfl⟩ := List.mem_map.mp hm
    rfl
  · rw [references_extractOne_eq_nil fun generic body kind => record ⟨generic, body, kind⟩] at hm
    cases hm

/-- Two indices that answer alike. -/
structure SpanIndex.Alike (index other : SpanIndex) : Prop where
  declarations : ∀ identity, index.declaration? identity = other.declaration? identity
  references : ∀ key, SpanIndex.last? index.references key = SpanIndex.last? other.references key
  places : ∀ diagnostic, index.spanOf? diagnostic = other.spanOf? diagnostic

theorem spans_alike_of_perm (h : declarations.Perm others)
    (nodup : (declarations.map Declaration.identity).Nodup) :
    (extractDeclarations declarations).spans.Alike (extractDeclarations others).spans := by
  have same : lookUp declarations = lookUp others := funext (lookUp_eq_of_perm h nodup)
  have names (identity : Identity) : (extractDeclarations declarations).spans.declaration? identity =
      (extractDeclarations others).spans.declaration? identity := by
    simp only [SpanIndex.declaration?, extractDeclarations, List.map_eq_flatMap]
    refine last?_flatMap_eq_of_perm id (fun declaration entry hm => ?_) h nodup identity
    rw [List.mem_singleton.mp hm]
    rfl
  have references (key : Identity × Identity) :
      SpanIndex.last? (extractDeclarations declarations).spans.references key =
        SpanIndex.last? (extractDeclarations others).spans.references key := by
    simp only [extractDeclarations, List.flatMap_map, ← extractOne_congr same]
    exact last?_flatMap_eq_of_perm Prod.fst (owner_references declarations) h nodup key
  refine ⟨names, references, fun diagnostic => ?_⟩
  unfold SpanIndex.spanOf?
  simp only [names, references]

end Extractions

/-! ## Passes over different origins -/

/-- What a pass makes of a directive whose origin has no module yet. -/
def Directive.alone (directive : Directive) : Generation :=
  match directive.outcome with
  | .rejected diagnostic => ⟨[], [diagnostic]⟩
  | .synthesized functions diagnostics => ⟨[⟨directive.origin.identity, functions⟩], diagnostics⟩

section Passes

variable {directives others : List Directive}

theorem assembleOutcomes_of_nodup {assembly : Assembly}
    (free : ∀ directive ∈ directives, directive.origin.identity ∉ assembly.origins)
    (nodup : (directives.map (·.origin.identity)).Nodup) :
    assembleOutcomes assembly (directives.map fun directive => (directive, directive.outcome)) =
      ⟨directives.flatMap (·.alone.modules), directives.flatMap (·.alone.diagnostics)⟩ := by
  induction directives generalizing assembly with
  | nil => rfl
  | cons directive rest ih =>
    rw [List.map_cons, List.nodup_cons] at nodup
    have own : assembly.contains directive.origin.identity = false := by
      simpa [Assembly.contains] using free directive List.mem_cons_self
    have later : ∀ other ∈ rest, other.origin.identity ∉ assembly.origins := fun other hm =>
      free other (List.mem_cons_of_mem _ hm)
    cases outcome : directive.outcome with
    | rejected diagnostic =>
      have alone : directive.alone = ⟨[], [diagnostic]⟩ := by simp only [Directive.alone, outcome]
      simp only [List.map_cons, assembleOutcomes, own, Bool.false_eq_true, if_false, List.flatMap_cons,
        outcome, alone, ih later nodup.2, List.nil_append, List.singleton_append]
    | synthesized functions diagnostics =>
      have alone : directive.alone = ⟨[⟨directive.origin.identity, functions⟩], diagnostics⟩ := by
        simp only [Directive.alone, outcome]
      have other : ∀ next ∈ rest, next.origin.identity ∉ directive.origin.identity :: assembly.origins := by
        intro next hm taken
        rcases List.mem_cons.mp taken with same | taken
        · exact nodup.1 (List.mem_map.mpr ⟨next, hm, same⟩)
        · exact later next hm taken
      have after := @ih ⟨directive.origin.identity :: assembly.origins⟩ other nodup.2
      simp only [List.map_cons, assembleOutcomes, own, Bool.false_eq_true, if_false, List.flatMap_cons,
        outcome, alone, Assembly.assemble, after, List.singleton_append]

theorem generate_of_nodup (nodup : (directives.map (·.origin.identity)).Nodup) :
    generate directives =
      ⟨directives.flatMap (·.alone.modules), directives.flatMap (·.alone.diagnostics)⟩ :=
  assembleOutcomes_of_nodup (fun _ _ => List.not_mem_nil) nodup

theorem nodup_modules (nodup : (directives.map (·.origin.identity)).Nodup) :
    ((generate directives).modules.map MapperModule.origin).Nodup := by
  rw [generate_of_nodup nodup]
  refine (sublist_map_flatMap (fun directive => ?_) directives).nodup nodup
  unfold Directive.alone
  cases directive.outcome with
  | rejected diagnostic => exact .inl rfl
  | synthesized functions diagnostics => exact .inr ⟨_, rfl, rfl⟩

end Passes

/-! ## The order of items -/

/-- **The order of items does not matter** where every identity is declared once. The same is asked for,
in another order, every place is found where it was, and a pass gives every origin the same module and
reports the same. -/
theorem extract_of_reordered {root : String} {items others : List Tree} (h : Reordered items others)
    (nodup : ((declarationsIn (.top (Identity.mk root).segments) items).map Declaration.identity).Nodup) :
    let first := extract root items
    let second := extract root others
    first.directives.Perm second.directives ∧ first.errors.Perm second.errors ∧
      first.spans.Alike second.spans ∧
      (∀ origin, (generate first.directives).module? origin =
        (generate second.directives).module? origin) ∧
      (generate first.directives).modules.Perm (generate second.directives).modules ∧
      (generate first.directives).diagnostics.Perm (generate second.directives).diagnostics := by
  intro first second
  have declared := h.perm_declarationsIn (.top (Identity.mk root).segments)
  have same := funext (lookUp_eq_of_perm declared nodup)
  have directives : first.directives.Perm second.directives := by
    simp only [first, second, extract, extractDeclarations, List.flatMap_map, ← extractOne_congr same]
    exact declared.flatMap_right _
  have errors : first.errors.Perm second.errors := by
    simp only [first, second, extract, extractDeclarations, List.flatMap_map, ← extractOne_congr same]
    exact declared.flatMap_right _
  have origins : (first.directives.map (·.origin.identity)).Nodup := by
    simp only [first, extract, extractDeclarations, List.flatMap_map]
    exact (sublist_map_flatMap (directives_extractOne _) _).nodup nodup
  have origins' := ((directives.map _).nodup_iff).mp origins
  have modules : (generate first.directives).modules.Perm (generate second.directives).modules := by
    rw [generate_of_nodup origins, generate_of_nodup origins']
    exact directives.flatMap_right _
  refine ⟨directives, errors, spans_alike_of_perm declared nodup, fun origin => ?_, modules, ?_⟩
  · exact find?_key_eq_of_perm modules (nodup_modules origins) origin
  · rw [generate_of_nodup origins, generate_of_nodup origins']
    exact directives.flatMap_right _

/-- A module and two records after it, turned around inside and outside. -/
theorem extract_turnedAround :
    let items := linkedModule.tree :: linkedItems
    let turned := linkedItems.reverse ++ [(linkedModule.around linkedItems.reverse).tree]
    let first := extract "crate" items
    let second := extract "crate" turned
    Reordered items turned ∧
      ((declarationsIn (.top (Identity.mk "crate").segments) items).map Declaration.identity).Nodup ∧
      first.directives.Perm second.directives ∧
      (generate first.directives).module? ⟨"crate::m::O"⟩ =
        (generate second.directives).module? ⟨"crate::m::O"⟩ ∧
      (generate first.directives).modules.map (·.origin.text) = ["crate::m::O", "crate::O"] ∧
      (generate second.directives).modules.map (·.origin.text) = ["crate::O", "crate::m::O"] := by
  intro items turned first second
  have turns : linkedItems.Perm linkedItems.reverse := (List.reverse_perm _).symm
  have reordered : Reordered items turned := by
    refine .trans (.inside linkedModule (.of_perm turns) (.of_perm turns)) (.of_perm ?_)
    exact List.perm_append_singleton _ _ |>.symm
  have nodup : ((declarationsIn (.top (Identity.mk "crate").segments) items).map
      Declaration.identity).Nodup := by
    decide +kernel
  obtain ⟨directives, -, -, modules, -⟩ := extract_of_reordered reordered nodup
  exact ⟨reordered, nodup, directives, modules _, by decide +kernel, by decide +kernel⟩

end RecordMapper
