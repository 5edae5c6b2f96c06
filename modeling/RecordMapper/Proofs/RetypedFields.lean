/-
Declarations that differ in nothing but the types of their fields ask for the same: the directives are about the
same records, with fields of the same names, and the errors and the places are the same.
-/
import RecordMapper.Proofs.BarePasses
import RecordMapper.Proofs.Requests

namespace RecordMapper

open Code

/-! ## Declarations -/

/-- The same kind, but for the types of the fields. -/
inductive DeclarationKind.Retyped : DeclarationKind → DeclarationKind → Prop
  | same (kind : DeclarationKind) : Retyped kind kind
  | named (generic : Bool) {fields others : List (String × Tree)} :
      others.map Prod.fst = fields.map Prod.fst →
      Retyped (.record generic (.named fields)) (.record generic (.named others))

/-- Two declarations that differ in nothing but the types of their fields. -/
structure Declaration.Retyped (declaration other : Declaration) : Prop where
  identity : declaration.identity = other.identity
  home : declaration.home = other.home
  attributes : declaration.attributes = other.attributes
  nameSpan : declaration.nameSpan = other.nameSpan
  kind : DeclarationKind.Retyped declaration.kind other.kind

section Schemas

theorem ofFields_of_repeated {identity : Identity} {fields : List Field} {name : String}
    (h : firstRepeated? [] (fields.map Field.name) = some name) :
    Schema.ofFields identity fields = .error (.duplicateField identity name) := by
  unfold Schema.ofFields
  split
  · next repeated =>
    obtain rfl := Option.some.inj (h.symm.trans repeated)
    rfl
  · next none_repeated =>
    rw [h] at none_repeated
    cases none_repeated

/-- Whether fields make a schema depends on their names only. -/
theorem bare_ofFields {identity : Identity} {fields others : List Field}
    (names : others.map Field.name = fields.map Field.name) :
    (match Schema.ofFields identity others with
      | .ok schema => schema
      | .error error => Schema.unresolved identity error.message).bare =
    (match Schema.ofFields identity fields with
      | .ok schema => schema
      | .error error => Schema.unresolved identity error.message).bare := by
  cases found : firstRepeated? [] (fields.map Field.name) with
  | some name => rw [ofFields_of_repeated found, ofFields_of_repeated (by rwa [names])]
  | none =>
    have nodup := (nodup_of_firstRepeated?_eq_none found).1
    rw [ofFields_of_nodup nodup, ofFields_of_nodup (names ▸ nodup)]
    rfl

variable {declarations others : List Declaration} {declaration other : Declaration}

theorem Declaration.Retyped.bare_schemaOf (h : Declaration.Retyped declaration other)
    (declarations others : List Declaration) :
    (schemaOf others other).bare = (schemaOf declarations declaration).bare := by
  have kinds := h.kind
  unfold schemaOf
  rw [h.identity, h.home]
  generalize declaration.kind = kind at kinds ⊢
  generalize other.kind = kind' at kinds ⊢
  cases kinds with
  | same kind =>
    cases kind with
    | record generic body =>
      cases generic with
      | true => rfl
      | false =>
        cases body with
        | named => exact bare_ofFields (by simp only [List.map_map, Function.comp_def])
        | unit => rfl
        | positional => rfl
    | _ => rfl
  | named generic names =>
    cases generic with
    | true => rfl
    | false => exact bare_ofFields (by simpa only [List.map_map, Function.comp_def] using names)

theorem bare_targetSchema (h : List.Forall₂ Declaration.Retyped declarations others) (home : Home)
    (path : Tree) :
    (targetSchema others home path).bare = (targetSchema declarations home path).bare := by
  unfold targetSchema
  cases resolve home path with
  | none => rfl
  | some identity =>
    have found := option_rel_lookUp (fun _ _ => Declaration.Retyped.identity) h identity
    dsimp only
    generalize lookUp declarations identity = first at found ⊢
    generalize lookUp others identity = second at found ⊢
    cases found with
    | none => rfl
    | some retyped => exact retyped.bare_schemaOf declarations others

end Schemas

/-! ## What they ask for -/

/-- Two extractions that differ in nothing but the fields of records. -/
structure Extraction.Retyped (extraction other : Extraction) : Prop where
  directives : other.directives.map Directive.bare = extraction.directives.map Directive.bare
  errors : other.errors = extraction.errors
  spans : other.spans = extraction.spans

section Extraction

variable {declarations others listed listed' : List Declaration} {declaration other : Declaration}

/-- Paths that are named by a struct make directives about the same records. -/
theorem Declaration.Retyped.ofTargets (h : Declaration.Retyped declaration other)
    (all : List.Forall₂ Declaration.Retyped declarations others) (home : Home) {paths : List Tree}
    (named : paths ≠ []) :
    ∃ directive directive',
      Directive.ofTargets (schemaOf declarations declaration) (paths.map (targetSchema declarations home)) =
        .ok directive ∧
      Directive.ofTargets (schemaOf others other) (paths.map (targetSchema others home)) = .ok directive' ∧
      directive'.bare = directive.bare := by
  obtain ⟨directive, built, origin, targets⟩ := exists_ofTargets (schemaOf declarations declaration)
    (mt List.map_eq_nil_iff.mp named)
  obtain ⟨directive', built', origin', targets'⟩ := exists_ofTargets (schemaOf others other)
    (mt List.map_eq_nil_iff.mp named)
  refine ⟨directive, directive', built, built', eq_of_parts ?_ ?_⟩
  · show directive'.origin.bare = directive.origin.bare
    rw [origin, origin', h.bare_schemaOf declarations others]
  · show directive'.targets.map Schema.bare = directive.targets.map Schema.bare
    rw [targets, targets', List.map_map, List.map_map]
    exact List.map_congr_left fun path _ => bare_targetSchema all home path

theorem map_references_eq (all : List.Forall₂ Declaration.Retyped declarations others) (origin : Identity)
    (home : Home) (paths : List Tree) :
    ((paths.map (targetSchema others home)).zip paths).map
        (fun (target, path) => ((origin, target.identity), path.span)) =
      ((paths.map (targetSchema declarations home)).zip paths).map
        fun (target, path) => ((origin, target.identity), path.span) := by
  have identities (path : Tree) : (targetSchema others home path).identity =
      (targetSchema declarations home path).identity := by
    have same := congrArg Schema.identity (bare_targetSchema all home path)
    rwa [Schema.identity_bare, Schema.identity_bare] at same
  rw [List.zip_map_left, List.zip_map_left, List.map_map, List.map_map]
  exact List.map_congr_left fun named _ => by simp only [Function.comp_apply, Prod.map, identities]

theorem Declaration.Retyped.extractOne (h : Declaration.Retyped declaration other)
    (all : List.Forall₂ Declaration.Retyped declarations others) :
    Extraction.Retyped (RecordMapper.extractOne declarations declaration)
      (RecordMapper.extractOne others other) := by
  have references : other.references = declaration.references := by
    unfold Declaration.references
    rw [h.attributes]
  unfold RecordMapper.extractOne
  rw [references]
  rcases declaration.references with ⟨paths, errors⟩
  cases paths with
  | nil => exact ⟨rfl, rfl, rfl⟩
  | cons path more =>
    obtain ⟨directive, directive', built, built', bare⟩ :=
      h.ofTargets all declaration.home (List.cons_ne_nil path more)
    have index := map_references_eq all declaration.identity declaration.home (path :: more)
    have kinds := h.kind
    dsimp only [List.isEmpty_cons]
    simp only [Bool.false_eq_true, if_false, ← h.home, ← h.identity, ← h.nameSpan, built, built']
    generalize declaration.kind = kind at kinds ⊢
    generalize other.kind = kind' at kinds ⊢
    cases kinds with
    | named => exact ⟨congrArg ([·]) bare, rfl, congrArg (SpanIndex.mk []) index⟩
    | same kind =>
      cases kind with
      | record => exact ⟨congrArg ([·]) bare, rfl, congrArg (SpanIndex.mk []) index⟩
      | _ => exact ⟨rfl, rfl, rfl⟩

end Extraction

end RecordMapper
