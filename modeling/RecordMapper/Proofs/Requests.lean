/-
The result of an extraction, said without its loops. The declarations of a source stand in the order in
which they are written; each has the attributes that are rejected, each with an error, and the paths that
the others name; and it adds one directive, or one error, or nothing, to what the others add. So no
attribute is lost, and how paths are grouped into attributes does not matter.

A target has fields only if its path leads to a struct, and where an identity is declared more than once
the last declaration is the one that counts.
-/
import RecordMapper.Proofs.DeclaredNames
import RecordMapper.Proofs.Extracted
import RecordMapper.Proofs.Placeless
import Mathlib.Data.List.Forall2

namespace RecordMapper

open Code

/-! ## The declarations of a source -/

/-- The declarations of items in the order in which they are written. Those of a module stand where the
module stands, one name further down. -/
inductive Scan : Home → List Tree → List Declaration → Prop
  | done {home : Home} : Scan home [] []
  | module {home : Home} {name : String} {inner items : List Tree}
    {inside after : List Declaration} (module : WrittenModule name inner) :
      Scan (home.inside name) inner inside → Scan home items after →
      Scan home (module.tree :: items) (inside ++ after)
  | item {home : Home} {kind : ItemKind} {parts items : List Tree} {after : List Declaration} :
      kind ≠ .module → Scan home items after →
      Scan home (.node (.item kind) parts :: items)
        ((declarationOf? home kind parts).toList ++ after)

theorem scan_of_forall {items : List Tree}
    (h : ∀ item ∈ items, ∀ home rest after, Scan home rest after →
      Scan home (item :: rest) (declarationsOf home item ++ after)) (home : Home) :
    Scan home items (declarationsIn home items) := by
  induction items with
  | nil =>
    rw [declarationsIn]
    exact .done
  | cons item items ih =>
    rw [declarationsIn]
    exact h item List.mem_cons_self _ _ _ (ih fun other hm => h other (List.mem_cons_of_mem _ hm))

theorem IsItem.scan {item : Tree} (h : IsItem item) (home : Home) (rest : List Tree)
    (after : List Declaration) (scanned : Scan home rest after) :
    Scan home (item :: rest) (declarationsOf home item ++ after) := by
  induction h generalizing home rest after with
  | @module name items module inside ih =>
    rw [module.declarationsOf_tree]
    exact .module module (scan_of_forall ih _) scanned
  | @other kind parts different =>
    rw [declarationsOf_item different]
    exact .item different scanned

theorem scan_declarationsIn {items : List Tree} (h : ∀ item ∈ items, IsItem item)
    (home : Home) : Scan home items (declarationsIn home items) :=
  scan_of_forall (fun item hm => (h item hm).scan) home

/-! ## Attributes -/

/-- The paths that attributes name, and an error for each mapping attribute that is rejected. An accepted
one names at least one path. -/
inductive Asks : List Attribute → List Tree → List SourceError → Prop
  | nil : Asks [] [] []
  | other {attr : Attribute} {attrs paths : List _} {errors : List SourceError} :
      attr.isMapper = false → Asks attrs paths errors → Asks (attr :: attrs) paths errors
  | accepted {attr : Attribute} {attrs : List Attribute} {path : Tree} {more paths : List Tree}
    {errors : List SourceError} :
      attr.isMapper = true → attr.targets = .ok (path :: more) → Asks attrs paths errors →
      Asks (attr :: attrs) (path :: more ++ paths) errors
  | rejected {attr : Attribute} {attrs : List Attribute} {paths : List Tree} {error : SourceError}
    {errors : List SourceError} :
      attr.isMapper = true → attr.targets = .error error → Asks attrs paths errors →
      Asks (attr :: attrs) paths (error :: errors)

theorem Attribute.targets_ne_nil {attr : Attribute} {paths : List Tree} (h : attr.targets = .ok paths) :
    paths ≠ [] := by
  rintro rfl
  unfold Attribute.targets at h
  split at h
  · unfold targetsOf at h
    split at h
    · cases h
    · cases h
    · next named _ =>
      split at h
      · cases h
      · cases h
        exact named rfl
  · cases h

section Asks

variable {attrs : List Attribute} {paths paths' : List Tree} {errors errors' : List SourceError}

theorem asks_references (declaration : Declaration) :
    Asks declaration.attributes declaration.references.1 declaration.references.2 := by
  unfold Declaration.references
  dsimp only
  induction declaration.attributes with
  | nil => exact .nil
  | cons attr attrs ih =>
    cases mapper : attr.isMapper with
    | false =>
      rw [List.filter_cons_of_neg (by simp [mapper])]
      exact .other mapper ih
    | true =>
      rw [List.filter_cons_of_pos mapper, List.map_cons, List.flatMap_cons]
      cases targets : attr.targets with
      | error error => exact .rejected mapper targets ih
      | ok paths =>
        obtain ⟨path, more, rfl⟩ := List.exists_cons_of_ne_nil (Attribute.targets_ne_nil targets)
        exact .accepted mapper targets ih

theorem Asks.unique (h : Asks attrs paths errors) (h' : Asks attrs paths' errors') :
    paths = paths' ∧ errors = errors' := by
  induction h generalizing paths' errors' with
  | nil =>
    cases h'
    exact ⟨rfl, rfl⟩
  | other plain _ ih =>
    cases h' with
    | other _ rest => exact ih rest
    | accepted mapper _ _ => simp [plain] at mapper
    | rejected mapper _ _ => simp [plain] at mapper
  | accepted mapper targets _ ih =>
    cases h' with
    | other plain _ => simp [plain] at mapper
    | accepted _ targets' rest =>
      rw [targets, Except.ok.injEq, List.cons.injEq] at targets'
      obtain ⟨rfl, rfl⟩ := targets'
      obtain ⟨rfl, rfl⟩ := ih rest
      exact ⟨rfl, rfl⟩
    | rejected _ targets' _ =>
      rw [targets] at targets'
      cases targets'
  | rejected mapper targets _ ih =>
    cases h' with
    | other plain _ => simp [plain] at mapper
    | accepted _ targets' _ =>
      rw [targets] at targets'
      cases targets'
    | rejected _ targets' rest =>
      rw [targets, Except.error.injEq] at targets'
      obtain ⟨rfl, rfl⟩ := ih rest
      exact ⟨rfl, by rw [targets']⟩

end Asks

/-! ## What a declaration adds -/

/-- What one of the declarations of a scan adds: a directive if it is a struct and its attributes name
targets, an error if it is something else, and nothing if no target is named. The errors of rejected
attributes come first. -/
inductive Requests (declarations : List Declaration) (declaration : Declaration) :
    List Directive → List SourceError → Prop
  | nothing {errors : List SourceError} :
      Asks declaration.attributes [] errors → Requests declarations declaration [] errors
  | directive {path : Tree} {more : List Tree} {errors : List SourceError} {generic : Bool}
    {body : RecordBody} {directive : Directive} :
      Asks declaration.attributes (path :: more) errors →
      declaration.kind = .record generic body →
      directive.origin = schemaOf declarations declaration →
      directive.targets = (path :: more).map (targetSchema declarations declaration.home) →
      Requests declarations declaration [directive] errors
  | unsupported {path : Tree} {more : List Tree} {errors : List SourceError} :
      Asks declaration.attributes (path :: more) errors →
      (∀ generic body, declaration.kind ≠ .record generic body) →
      Requests declarations declaration []
        (errors ++ [⟨"`#[mapper]` is not supported on " ++ declaration.kind.words, declaration.nameSpan⟩])

/-- What some of the declarations of a scan add, one after the other. -/
inductive AllRequests (declarations : List Declaration) :
    List Declaration → List Directive → List SourceError → Prop
  | nil : AllRequests declarations [] [] []
  | cons {declaration : Declaration} {rest : List Declaration} {directives later : List Directive}
    {errors lateErrors : List SourceError} :
      Requests declarations declaration directives errors →
      AllRequests declarations rest later lateErrors →
      AllRequests declarations (declaration :: rest) (directives ++ later) (errors ++ lateErrors)

section Requests

variable {declarations listed : List Declaration} {declaration : Declaration}
  {directives directives' : List Directive} {errors errors' : List SourceError}

theorem eq_of_parts {directive other : Directive} (origin : directive.origin = other.origin)
    (targets : directive.targets = other.targets) : directive = other := by
  cases directive
  cases other
  simp only [Directive.mk.injEq]
  exact ⟨origin, targets⟩

/-- Where targets are named, a directive of them can be built. -/
theorem exists_ofTargets (origin : Schema) {targets : List Schema} (h : targets ≠ []) :
    ∃ directive, Directive.ofTargets origin targets = .ok directive ∧ directive.origin = origin ∧
      directive.targets = targets := by
  unfold Directive.ofTargets
  rw [dif_neg h]
  exact ⟨_, rfl, rfl, rfl⟩

theorem requests_extractOne (declarations : List Declaration) (declaration : Declaration) :
    Requests declarations declaration (extractOne declarations declaration).directives
      (extractOne declarations declaration).errors := by
  have asks := asks_references declaration
  unfold extractOne
  rcases found : declaration.references with ⟨paths, errors⟩
  rw [found] at asks
  cases paths with
  | nil => exact .nothing asks
  | cons path more =>
    simp only [List.isEmpty_cons, Bool.false_eq_true, if_false]
    cases kind : declaration.kind with
    | record generic body =>
      obtain ⟨directive, built, origin, targets⟩ := exists_ofTargets (schemaOf declarations declaration)
        (List.cons_ne_nil (targetSchema declarations declaration.home path)
          (more.map (targetSchema declarations declaration.home)))
      simp only [List.map_cons, built]
      exact .directive asks kind origin targets
    | _ =>
      simp only [← kind]
      exact .unsupported asks (by simp [kind])

theorem Requests.unique (h : Requests declarations declaration directives errors)
    (h' : Requests declarations declaration directives' errors') :
    directives = directives' ∧ errors = errors' := by
  cases h with
  | nothing asks =>
    cases h' with
    | nothing asks' => exact ⟨rfl, (asks.unique asks').2⟩
    | directive asks' => cases (asks.unique asks').1
    | unsupported asks' => cases (asks.unique asks').1
  | directive asks kind origin targets =>
    cases h' with
    | nothing asks' => cases (asks.unique asks').1
    | directive asks' _ origin' targets' =>
      obtain ⟨paths, rfl⟩ := asks.unique asks'
      rw [← paths, ← targets] at targets'
      rw [eq_of_parts (origin.trans origin'.symm) targets'.symm]
      exact ⟨rfl, rfl⟩
    | unsupported _ different => exact absurd kind (different _ _)
  | unsupported asks different =>
    cases h' with
    | nothing asks' => cases (asks.unique asks').1
    | directive _ kind => exact absurd kind (different _ _)
    | unsupported asks' => exact ⟨rfl, by rw [(asks.unique asks').2]⟩

theorem AllRequests.unique (h : AllRequests declarations listed directives errors)
    (h' : AllRequests declarations listed directives' errors') :
    directives = directives' ∧ errors = errors' := by
  induction h generalizing directives' errors' with
  | nil =>
    cases h'
    exact ⟨rfl, rfl⟩
  | cons first _ ih =>
    cases h' with
    | cons first' rest' =>
      obtain ⟨rfl, rfl⟩ := first.unique first'
      obtain ⟨rfl, rfl⟩ := ih rest'
      exact ⟨rfl, rfl⟩

theorem allRequests_extractOne (declarations listed : List Declaration) :
    AllRequests declarations listed (listed.flatMap fun declaration => (extractOne declarations declaration).directives)
      (listed.flatMap fun declaration => (extractOne declarations declaration).errors) := by
  induction listed with
  | nil => exact .nil
  | cons declaration listed ih =>
    rw [List.flatMap_cons, List.flatMap_cons]
    exact .cons (requests_extractOne declarations declaration) ih

theorem extractDeclarations_iff : (extractDeclarations declarations).directives = directives ∧
    (extractDeclarations declarations).errors = errors ↔
      AllRequests declarations declarations directives errors := by
  have requests := allRequests_extractOne declarations declarations
  simp only [extractDeclarations, List.flatMap_map]
  constructor
  · rintro ⟨rfl, rfl⟩
    exact requests
  · exact requests.unique

end Requests

/-! ## Targets with fields -/

/-- A path leads, from a module, to the last declaration of the identity that it names. -/
structure LeadsTo (declarations : List Declaration) (home : Home) (path : Tree)
    (declaration : Declaration) : Prop where
  resolves : resolve home path = some declaration.identity
  last : ∃ before after, declarations = before ++ declaration :: after ∧
    ∀ later ∈ after, later.identity ≠ declaration.identity

section Targets

variable {declarations : List Declaration} {declaration : Declaration} {home : Home}
  {path : Tree} {fields : List Field}

theorem lookUp_eq_some_iff {identity : Identity} : lookUp declarations identity = some declaration ↔
    declaration.identity = identity ∧ ∃ before after, declarations = before ++ declaration :: after ∧
      ∀ later ∈ after, later.identity ≠ identity := by
  unfold lookUp
  rw [List.find?_eq_some_iff_append, decide_eq_true_iff]
  refine and_congr_right fun _ => ?_
  constructor
  · rintro ⟨after, before, split, apart⟩
    refine ⟨before.reverse, after.reverse, ?_, fun later hm => ?_⟩
    · rw [List.reverse_eq_iff] at split
      rw [split]
      simp
    · simpa using apart later (List.mem_reverse.mp hm)
  · rintro ⟨before, after, rfl, apart⟩
    refine ⟨after.reverse, before.reverse, by simp, fun later hm => ?_⟩
    simpa using apart later (List.mem_reverse.mp hm)

/-- A target has fields exactly if its path leads to a plain record, and then they are the written
ones. -/
theorem fields?_targetSchema_iff : (targetSchema declarations home path).fields? = some fields ↔
    ∃ declaration, LeadsTo declarations home path declaration ∧ declaration.IsPlainRecord ∧
      fields = declaration.qualifiedFields declarations := by
  unfold targetSchema
  cases resolves : resolve home path with
  | none =>
    constructor
    · intro h
      cases h
    · rintro ⟨declaration, leads, -⟩
      rw [leads.resolves] at resolves
      cases resolves
  | some identity =>
    cases found : lookUp declarations identity with
    | none =>
      simp only [found]
      constructor
      · intro h
        cases h
      · rintro ⟨declaration, leads, -⟩
        obtain rfl : declaration.identity = identity :=
          Option.some.inj (leads.resolves.symm.trans resolves)
        rw [lookUp_eq_some_iff.mpr ⟨rfl, leads.last⟩] at found
        cases found
    | some declaration =>
      obtain ⟨rfl, last⟩ := lookUp_eq_some_iff.mp found
      simp only [found, fields?_schemaOf_iff]
      constructor
      · rintro ⟨plain, rfl⟩
        exact ⟨declaration, ⟨resolves, last⟩, plain, rfl⟩
      · rintro ⟨other, leads, plain, rfl⟩
        have same : other.identity = declaration.identity :=
          Option.some.inj (leads.resolves.symm.trans resolves)
        have found' := lookUp_eq_some_iff.mpr ⟨same, same ▸ leads.last⟩
        obtain rfl : declaration = other := Option.some.inj (found.symm.trans found')
        exact ⟨plain, rfl⟩

end Targets

/-! ## Other places and other attributes -/

/-- Among declarations that are related one by one and have the same identities, related ones are looked up. -/
theorem option_rel_lookUp {related : Declaration → Declaration → Prop}
    (identities : ∀ declaration other, related declaration other → declaration.identity = other.identity)
    {declarations others : List Declaration} (h : List.Forall₂ related declarations others)
    (identity : Identity) : Option.Rel related (lookUp declarations identity) (lookUp others identity) := by
  unfold lookUp
  -- the search starts at the last declaration
  have reversed := List.forall₂_reverse_iff.mpr h
  generalize declarations.reverse = ahead at reversed ⊢
  generalize others.reverse = ahead' at reversed ⊢
  induction reversed with
  | nil => exact .none
  | @cons declaration other _ _ first _ ih =>
    rw [List.find?_cons, List.find?_cons, identities _ _ first]
    split
    · exact .some first
    · exact ih

/-- The fields of a struct, their types without places. -/
def RecordBody.unplaced : RecordBody → RecordBody
  | .named fields => .named (fields.map fun (name, type) => (name, type.unplaced))
  | .unit => .unit
  | .positional => .positional

/-- What is declared, without places. -/
def DeclarationKind.unplaced : DeclarationKind → DeclarationKind
  | .record generic body => .record generic body.unplaced
  | kind => kind

/-- Two declarations that are the same but for places, and whose attributes name the same paths in the
same order, in whatever groups. -/
structure Alike (declaration other : Declaration) : Prop where
  identity : declaration.identity = other.identity
  home : declaration.home = other.home
  kind : declaration.kind.unplaced = other.kind.unplaced
  asks : ∃ paths errors paths' errors', Asks declaration.attributes paths errors ∧
    Asks other.attributes paths' errors' ∧ Tree.unplacedAll paths = Tree.unplacedAll paths'

section Alike

variable {declarations others listed listed' : List Declaration} {declaration other : Declaration}

theorem sameIdentities_of_alike (h : List.Forall₂ Alike declarations others) :
    SameIdentities declarations others := by
  intro identity
  have found := option_rel_lookUp (fun _ _ => Alike.identity) h identity
  generalize lookUp declarations identity = first at found ⊢
  generalize lookUp others identity = second at found ⊢
  cases found <;> rfl

/-- Fields that are the same but for places have the same qualified forms. -/
theorem map_qualifyType_eq (same : SameIdentities declarations others) {home : Home}
    {fields fields' : List (String × Tree)}
    (h : fields.map (fun (name, type) => (name, type.unplaced)) =
      fields'.map fun (name, type) => (name, type.unplaced)) :
    fields.map (fun (name, type) => (⟨name, ⟨(qualifyType declarations home type).text⟩⟩ : Field)) =
      fields'.map fun (name, type) => ⟨name, ⟨(qualifyType others home type).text⟩⟩ := by
  induction fields generalizing fields' with
  | nil =>
    obtain rfl := List.map_eq_nil_iff.mp h.symm
    rfl
  | cons field fields ih =>
    obtain ⟨⟨name', type'⟩, fields', rfl, first, rest⟩ := List.map_eq_cons_iff.mp h.symm
    obtain ⟨name, type⟩ := field
    obtain ⟨rfl, type⟩ := Prod.mk.inj first
    rw [List.map_cons, List.map_cons, ih rest.symm]
    dsimp only
    rw [text_qualifyType_eq same type.symm]

theorem Alike.schemaOf_eq (h : Alike declaration other) (same : SameIdentities declarations others) :
    schemaOf declarations declaration = schemaOf others other := by
  have kinds := h.kind
  unfold schemaOf
  rw [h.identity, h.home]
  generalize declaration.kind = kind at kinds ⊢
  generalize other.kind = kind' at kinds ⊢
  cases kind with
  | record generic body =>
    cases kind' with
    | record generic' body' =>
      obtain ⟨rfl, bodies⟩ := DeclarationKind.record.inj kinds
      cases generic with
      | true => rfl
      | false =>
        cases body with
        | named fields =>
          cases body' with
          | named fields' =>
            have qualified := @map_qualifyType_eq _ _ same other.home _ _ (RecordBody.named.inj bodies)
            simp only [qualified]
          | _ => cases bodies
        | unit =>
          cases body' with
          | unit => rfl
          | _ => cases bodies
        | positional =>
          cases body' with
          | positional => rfl
          | _ => cases bodies
    | _ => cases kinds
  | _ =>
    cases kind' with
    | record => cases kinds
    | _ => cases kinds <;> rfl

theorem targetSchema_eq_of_alike (h : List.Forall₂ Alike declarations others) {home : Home}
    {path path' : Tree} (same : path.unplaced = path'.unplaced) :
    targetSchema declarations home path = targetSchema others home path' := by
  unfold targetSchema
  rw [resolve_eq_of_unplaced same, Tree.pathNames_eq_of_unplaced same]
  cases resolve home path' with
  | none => rfl
  | some identity =>
    have found := option_rel_lookUp (fun _ _ => Alike.identity) h identity
    have same := sameIdentities_of_alike h
    dsimp only
    generalize lookUp declarations identity = first at found ⊢
    generalize lookUp others identity = second at found ⊢
    cases found with
    | none => rfl
    | some alike => exact alike.schemaOf_eq same

theorem map_targetSchema_eq_of_alike (h : List.Forall₂ Alike declarations others) {home : Home}
    {paths paths' : List Tree} (same : Tree.unplacedAll paths = Tree.unplacedAll paths') :
    paths.map (targetSchema declarations home) = paths'.map (targetSchema others home) := by
  rw [Tree.unplacedAll_eq_map, Tree.unplacedAll_eq_map] at same
  induction paths generalizing paths' with
  | nil =>
    obtain rfl := List.map_eq_nil_iff.mp same.symm
    rfl
  | cons path paths ih =>
    obtain ⟨path', paths', rfl, first, rest⟩ := List.map_eq_cons_iff.mp same.symm
    rw [List.map_cons, List.map_cons, targetSchema_eq_of_alike h first.symm, ih rest.symm]

theorem exists_record_of_unplaced {kind kind' : DeclarationKind} (h : kind.unplaced = kind'.unplaced)
    {generic : Bool} {body : RecordBody} (record : kind = .record generic body) :
    ∃ body', kind' = .record generic body' := by
  subst record
  cases kind' with
  | record generic' body' =>
    obtain ⟨rfl, -⟩ := DeclarationKind.record.inj h
    exact ⟨body', rfl⟩
  | _ => cases h

/-- What a declaration adds does not depend on places or on the grouping of its attributes. -/
theorem Requests.of_alike (h : List.Forall₂ Alike declarations others) (alike : Alike declaration other)
    {directives : List Directive} {errors : List SourceError}
    (requests : Requests declarations declaration directives errors) :
    ∃ errors', Requests others other directives errors' := by
  obtain ⟨paths, errors, paths', errors', asks, asks', named⟩ := alike.asks
  have same := sameIdentities_of_alike h
  have targets {home : Home} := @map_targetSchema_eq_of_alike _ _ h home _ _ named
  have lengths := congrArg List.length named
  simp only [Tree.unplacedAll_eq_map, List.length_map] at lengths
  -- as many paths are named on either side, so both are of one case
  cases requests with
  | nothing none_named =>
    obtain ⟨rfl, -⟩ := asks.unique none_named
    obtain rfl := List.length_eq_zero_iff.mp lengths.symm
    exact ⟨_, .nothing asks'⟩
  | @directive path more _ generic body directive names kind origin built =>
    obtain ⟨rfl, -⟩ := asks.unique names
    obtain ⟨path', more', rfl⟩ := List.exists_cons_of_length_eq_add_one lengths.symm
    obtain ⟨body', kind'⟩ := exists_record_of_unplaced alike.kind kind
    refine ⟨_, .directive asks' kind' (origin.trans (alike.schemaOf_eq same)) ?_⟩
    rw [built, targets, alike.home]
  | unsupported names different =>
    obtain ⟨rfl, -⟩ := asks.unique names
    obtain ⟨path', more', rfl⟩ := List.exists_cons_of_length_eq_add_one lengths.symm
    refine ⟨_, .unsupported asks' fun generic body kind => ?_⟩
    obtain ⟨body', kind'⟩ := exists_record_of_unplaced alike.kind.symm kind
    exact different generic body' kind'

theorem AllRequests.of_alike (h : List.Forall₂ Alike declarations others)
    (alike : List.Forall₂ Alike listed listed') {directives : List Directive}
    {errors : List SourceError} (requests : AllRequests declarations listed directives errors) :
    ∃ errors', AllRequests others listed' directives errors' := by
  induction alike generalizing directives errors with
  | nil =>
    cases requests
    exact ⟨[], .nil⟩
  | cons first _ ih =>
    cases requests with
    | cons requests rest =>
      obtain ⟨errors, requests⟩ := requests.of_alike h first
      obtain ⟨later, rest⟩ := ih rest
      exact ⟨errors ++ later, .cons requests rest⟩

theorem directives_eq_of_alike (h : List.Forall₂ Alike declarations others) :
    (extractDeclarations others).directives = (extractDeclarations declarations).directives := by
  obtain ⟨errors, requests⟩ := (extractDeclarations_iff.mp ⟨rfl, rfl⟩).of_alike h h
  exact (extractDeclarations_iff.mpr requests).1

end Alike

/-! ## The whole of an extraction -/

/-- **What a source asks for.** Its declarations are those of its items in the order in which they are
written. Each of them adds what its attributes ask for, and nothing else is added. A struct whose
attributes name targets always gives a directive; how they are grouped does not matter to it. A target
has fields exactly if its path leads to a plain record, and then they are the written ones in order. -/
theorem extract_requests (root : String) (items : List Tree) :
    let top := Home.top (Identity.mk root).segments
    let declarations := declarationsIn top items
    ((∀ item ∈ items, IsItem item) → Scan top items declarations) ∧
      (∀ directives errors, (extract root items).directives = directives ∧
        (extract root items).errors = errors ↔
          AllRequests declarations declarations directives errors) ∧
      (∀ declaration ∈ declarations, ∀ paths errors, Asks declaration.attributes paths errors →
        paths ≠ [] → ∃ directive, Directive.ofTargets (schemaOf declarations declaration)
          (paths.map (targetSchema declarations declaration.home)) = .ok directive) ∧
      (∀ others, List.Forall₂ Alike declarations (declarationsIn top others) →
        (extract root others).directives = (extract root items).directives) ∧
      ∀ home path fields, (targetSchema declarations home path).fields? = some fields ↔
        ∃ declaration, LeadsTo declarations home path declaration ∧ declaration.IsPlainRecord ∧
          fields = declaration.qualifiedFields declarations := by
  intro top declarations
  refine ⟨fun h => scan_declarationsIn h top, fun directives errors => extractDeclarations_iff, ?_,
    fun others alike => directives_eq_of_alike alike, fun home path fields => fields?_targetSchema_iff⟩
  intro declaration _ paths errors _ named
  obtain ⟨directive, built, -, -⟩ := exists_ofTargets (schemaOf declarations declaration)
    (mt List.map_eq_nil_iff.mp named)
  exact ⟨directive, built⟩

/-- A struct with attributes of which one is rejected, an enum with two attributes in a module, and a name
that is declared twice. -/
def mixedRequests : String :=
  "#[mapper(T)] #[mapper(::V)] #[mapper(m::U)] struct O { a: u8 } struct T; " ++
    "mod m { #[mapper(super::T)] #[mapper] enum U { } } struct T { a: O }"

theorem extract_mixedRequests : ∃ file, File.ofText? mixedRequests = some file ∧
    let declarations := declarationsIn (.top (Identity.mk "crate").segments) file.items
    let extraction := extract "crate" file.items
    Scan (.top (Identity.mk "crate").segments) file.items declarations ∧
      AllRequests declarations declarations extraction.directives extraction.errors ∧
      extraction.directives.map (fun directive => directive.targets.map fun target =>
        (target.identity.text, target.fields?.map (·.map (·.name)))) =
          [[("crate::T", some ["a"]), ("crate::m::U", none)]] ∧
      extraction.errors.map (·.message) = ["absolute paths are not supported as mapping targets",
        "expected `#[mapper(Target, ..)]`", "`#[mapper]` is not supported on an enum"] := by
  have read : (File.ofText? mixedRequests).map (fun file =>
      ((extract "crate" file.items).directives.map (fun directive => directive.targets.map fun target =>
        (target.identity.text, target.fields?.map (·.map (·.name)))),
      (extract "crate" file.items).errors.map (·.message))) =
      some ([[("crate::T", some ["a"]), ("crate::m::U", none)]],
        ["absolute paths are not supported as mapping targets", "expected `#[mapper(Target, ..)]`",
          "`#[mapper]` is not supported on an enum"]) := by
    decide +kernel
  obtain ⟨file, parsed, answers⟩ := Option.map_eq_some_iff.mp read
  obtain ⟨directives, errors⟩ := Prod.mk.inj answers
  obtain ⟨scan, requests, -⟩ := extract_requests "crate" file.items
  exact ⟨file, parsed, scan (isItem_of_ofText? parsed), (requests _ _).mp ⟨rfl, rfl⟩, directives, errors⟩

end RecordMapper
