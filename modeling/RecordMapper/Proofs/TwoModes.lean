/-
The same items are scanned at the top when a macro expands around them, and below the path of their file
when a build script generates code for them. Both passes have diagnostics of the same kinds and the same
modules with the same functions. A parameter may have a default in the scan at the top alone: there a full
name is a relative path, so a type that is left alone may look like one that names a declaration.
-/
import RecordMapper.Proofs.Located
import RecordMapper.Proofs.ReadBack
import RecordMapper.Proofs.Twins

namespace RecordMapper

open Code

/-! ## Schemas -/

section Schemas

variable {declarations : List Declaration} {root : List String} {home : Home} {path : Tree}

theorem Declaration.IsPlainRecord.under {declaration : Declaration} (h : declaration.IsPlainRecord)
    (root : List String) : (declaration.under root).IsPlainRecord :=
  ⟨h.kind, h.nodup⟩

theorem isSome_fields?_schemaOf_under (declaration : Declaration) :
    (schemaOf (declarations.map (Declaration.under root)) (declaration.under root)).fields?.isSome =
      (schemaOf declarations declaration).fields?.isSome := by
  have plain_iff (scan : List Declaration) (declaration : Declaration) :
      (schemaOf scan declaration).fields?.isSome = true ↔ declaration.IsPlainRecord := by
    simp [Option.isSome_iff_exists, fields?_schemaOf_iff]
  rw [Bool.eq_iff_iff, plain_iff, plain_iff]
  exact ⟨fun h => ⟨h.kind, h.nodup⟩, fun h => h.under root⟩

/-- A path leads to the same declaration in both scans, or to no fields in both. -/
theorem targetSchema_root (hroot : IsRoot root) (inside : StaysInside home path) :
    (∃ declaration ∈ declarations,
      targetSchema declarations home path = schemaOf declarations declaration ∧
      targetSchema (declarations.map (Declaration.under root)) (home.under root) path =
        schemaOf (declarations.map (Declaration.under root)) (declaration.under root)) ∨
    ((targetSchema declarations home path).fields? = none ∧
      (targetSchema (declarations.map (Declaration.under root)) (home.under root) path).fields? = none) := by
  unfold targetSchema
  rw [resolve_root hroot inside]
  cases resolve home path with
  | none => exact .inr ⟨rfl, rfl⟩
  | some identity =>
    simp only [Option.map_some, lookUp_under]
    cases found : lookUp declarations identity with
    | none => exact .inr ⟨rfl, rfl⟩
    | some declaration => exact .inl ⟨declaration, (lookUp_eq_some found).1, rfl, rfl⟩

theorem twin_schemaOf (hroot : IsRoot root) {declaration : Declaration} (h : declaration.WellNamed) :
    (schemaOf declarations declaration).Twin
      (schemaOf (declarations.map (Declaration.under root)) (declaration.under root)) where
  known := (isSome_fields?_schemaOf_under declaration).symm
  mapperName _ := by
    rw [identity_schemaOf, identity_schemaOf]
    exact (h.mapperName_under hroot).symm

theorem twin_targetSchema (hroot : IsRoot root)
    (wellNamed : ∀ declaration ∈ declarations, declaration.WellNamed) (inside : StaysInside home path) :
    (targetSchema declarations home path).Twin
      (targetSchema (declarations.map (Declaration.under root)) (home.under root) path) := by
  rcases targetSchema_root hroot inside with ⟨declaration, hm, schema, schema'⟩ | ⟨unknown, unknown'⟩
  · rw [schema, schema']
    exact twin_schemaOf hroot (wellNamed declaration hm)
  · exact ⟨by rw [unknown, unknown'], by simp [unknown]⟩

end Schemas

/-! ## Directives -/

/-- The paths of a declaration stay inside the scan. -/
structure Declaration.StaysInside (declaration : Declaration) : Prop where
  targets : ∀ path ∈ declaration.references.1, RecordMapper.StaysInside declaration.home path
  types : declaration.TypesStayInside

/-- An attribute whose target starts with `::` is rejected as a whole. -/
theorem Attribute.leadingColons?_of_mem_targets {attr : Attribute} {paths : List Tree}
    (h : attr.targets = .ok paths) {path : Tree} (hm : path ∈ paths) :
    path.leadingColons?.isSome = false := by
  have accepted : paths.findSome? targetError? = none := by
    unfold targets targetsOf at h
    split at h
    · split at h
      · cases h
      · cases h
      · split at h
        · cases h
        · next none_found =>
          cases h
          exact none_found
    · cases h
  have fine := List.findSome?_eq_none_iff.mp accepted path hm
  cases lead : path.leadingColons? with
  | none => rfl
  | some colons =>
    rw [targetError?, lead] at fine
    cases fine

theorem Declaration.leadingColons?_of_mem_references {declaration : Declaration} {path : Tree}
    (hm : path ∈ declaration.references.1) : path.leadingColons?.isSome = false := by
  obtain ⟨result, listed, named⟩ := List.mem_flatMap.mp hm
  obtain ⟨attr, -, rfl⟩ := List.mem_map.mp listed
  cases targets : attr.targets with
  | error error =>
    rw [targets] at named
    exact absurd named List.not_mem_nil
  | ok paths =>
    rw [targets] at named
    exact Attribute.leadingColons?_of_mem_targets targets named

section Directives

variable {declarations : List Declaration} {root : List String} {declaration : Declaration}

theorem givenIdentity_root (hroot : IsRoot root) (inside : declaration.StaysInside) {path : Tree}
    (hm : path ∈ declaration.references.1) :
    givenIdentity (declaration.home.under root) path = (givenIdentity declaration.home path).under root := by
  have stays := inside.targets path hm
  obtain ⟨identity, resolves⟩ := Option.isSome_iff_exists.mp
    (stays.below (Declaration.leadingColons?_of_mem_references hm))
  rw [givenIdentity, givenIdentity, resolve_root hroot stays, resolves, Option.map_some, Option.getD_some,
    Option.getD_some]

/-- Two directives that a declaration gives at the top and below a root. -/
structure GivenBy (declarations : List Declaration) (root : List String) (declaration : Declaration)
    (directive other : Directive) : Prop where
  origin : directive.origin = schemaOf declarations declaration
  targets : directive.targets = declaration.references.1.map (targetSchema declarations declaration.home)
  origin' : other.origin =
    schemaOf (declarations.map (Declaration.under root)) (declaration.under root)
  targets' : other.targets = declaration.references.1.map
    (targetSchema (declarations.map (Declaration.under root)) (declaration.home.under root))

theorem GivenBy.twin {directive other : Directive}
    (h : GivenBy declarations root declaration directive other) (hroot : IsRoot root)
    (wellNamed : ∀ declaration ∈ declarations, declaration.WellNamed) (inside : declaration.StaysInside) :
    directive.Twin other where
  known := by
    rw [h.origin, h.origin', isSome_fields?_schemaOf_under]
  targets := by
    rw [h.targets, h.targets', List.forall₂_map_left_iff, List.forall₂_map_right_iff, List.forall₂_same]
    exact fun path hp => twin_targetSchema hroot wellNamed (inside.targets path hp)
  same := by
    rw [h.targets, h.targets', List.zip_map']
    unfold SameEqualities
    simp only [List.forall_mem_map, identity_targetSchema]
    intro path hp other ho
    rw [givenIdentity_root hroot inside hp, givenIdentity_root hroot inside ho]
    exact under_inj.symm

/-- A declaration gives a directive in both scans or in none. -/
theorem directives_under (declarations : List Declaration) (root : List String)
    (declaration : Declaration) :
    ((extractOne declarations declaration).directives = [] ∧
      (extractOne (declarations.map (Declaration.under root)) (declaration.under root)).directives = []) ∨
    ∃ directive other, (extractOne declarations declaration).directives = [directive] ∧
      (extractOne (declarations.map (Declaration.under root)) (declaration.under root)).directives =
        [other] ∧ GivenBy declarations root declaration directive other := by
  have references : (declaration.under root).references = declaration.references := rfl
  have kinds : (declaration.under root).kind = declaration.kind := rfl
  unfold extractOne
  rw [references, kinds]
  cases none_asked : declaration.references.1.isEmpty with
  | true => exact .inl ⟨by simp [none_asked], by simp [none_asked]⟩
  | false =>
    have asked {schema : Tree → Schema} : declaration.references.1.map schema ≠ [] := by
      rw [ne_eq, List.map_eq_nil_iff]
      exact List.isEmpty_eq_false_iff.mp none_asked
    have home : (declaration.under root).home = declaration.home.under root := rfl
    cases kind : declaration.kind with
    | record generic body =>
      obtain ⟨directive, built, origin, targets⟩ := exists_ofTargets (schemaOf declarations declaration)
        (@asked (targetSchema declarations declaration.home))
      obtain ⟨other, built', origin', targets'⟩ := exists_ofTargets
        (schemaOf (declarations.map (Declaration.under root)) (declaration.under root))
        (@asked (targetSchema (declarations.map (Declaration.under root)) (declaration.home.under root)))
      refine .inr ⟨directive, other, ?_, ?_, origin, targets, origin', targets'⟩
      · simp [none_asked, built]
      · simp [none_asked, home, built']
    | _ => exact .inl ⟨by simp [none_asked], by simp [none_asked]⟩

/-- The directives of the two scans correspond in order. -/
theorem exists_givenBy (declarations : List Declaration) (root : List String) (listed : List Declaration) :
    ∃ pairs : List (Directive × Directive),
      pairs.map Prod.fst = listed.flatMap (fun declaration =>
        (extractOne declarations declaration).directives) ∧
      pairs.map Prod.snd = (listed.map (Declaration.under root)).flatMap (fun declaration =>
        (extractOne (declarations.map (Declaration.under root)) declaration).directives) ∧
      ∀ pair ∈ pairs, ∃ declaration ∈ listed, GivenBy declarations root declaration pair.1 pair.2 := by
  induction listed with
  | nil => exact ⟨[], rfl, rfl, List.forall_mem_nil _⟩
  | cons declaration listed ih =>
    obtain ⟨pairs, firsts, seconds, given⟩ := ih
    have later : ∀ pair ∈ pairs, ∃ other ∈ declaration :: listed,
        GivenBy declarations root other pair.1 pair.2 := by
      intro pair hm
      obtain ⟨other, ho, by_other⟩ := given pair hm
      exact ⟨other, List.mem_cons_of_mem _ ho, by_other⟩
    rw [List.map_cons, List.flatMap_cons, List.flatMap_cons]
    rcases directives_under declarations root declaration with
      ⟨none_given, none_given'⟩ | ⟨directive, other, one, one', by_it⟩
    · rw [none_given, none_given']
      exact ⟨pairs, firsts, seconds, later⟩
    · rw [one, one']
      refine ⟨(directive, other) :: pairs, by simp [firsts], by simp [seconds], ?_⟩
      exact List.forall_mem_cons.mpr ⟨⟨declaration, List.mem_cons_self, by_it⟩, later⟩

end Directives

/-! ## Functions -/

/-- Two functions of one name that build the same record below a root and take the same parameters, some
of which may have a default in one of them only. -/
structure Mapper.SameUnder (root : List String) (function other : Mapper) : Prop where
  name : other.name = function.name
  receiver : other.receiver = function.receiver.under root
  returns : other.returns = function.returns.under root
  record : other.record = function.record.under root
  inits : other.inits = function.inits
  parameters : (other.parameters.map Parameter.name).Perm (function.parameters.map Parameter.name)

section Functions

variable {declarations : List Declaration} {root : List String} {left right : Declaration}

theorem sameUnder_mapperBetween (hroot : IsRoot root) (wellNamed : right.WellNamed)
    (plain : left.IsPlainRecord) (plain' : right.IsPlainRecord) :
    (mapperBetween declarations left right).SameUnder root
      (mapperBetween (declarations.map (Declaration.under root)) (left.under root) (right.under root)) where
  name := by
    rw [name_mapperBetween, name_mapperBetween]
    exact wellNamed.mapperName_under hroot
  receiver := by rw [receiver_mapperBetween, receiver_mapperBetween, Declaration.under]
  returns := by rw [returns_mapperBetween, returns_mapperBetween, Declaration.under]
  record := by rw [record_mapperBetween, record_mapperBetween, Declaration.under]
  inits := by
    rw [inits_mapperBetween, inits_mapperBetween]
    rfl
  parameters :=
    (names_mapperBetween (plain.under root) (plain'.under root)).trans (names_mapperBetween plain plain').symm

/-- Functions that are made alike by the directives of a declaration lead to one declaration. -/
theorem exists_between_of_madeAlike (hroot : IsRoot root) {directive other : Directive}
    (given : GivenBy declarations root left directive other) (inside : left.StaysInside)
    {function function' : Mapper}
    (made : MadeAlike directive.origin other.origin (directive.targets.zip other.targets) function
      function') :
    ∃ right ∈ declarations, left.IsPlainRecord ∧ right.IsPlainRecord ∧
      function = mapperBetween declarations left right ∧
      function' = mapperBetween (declarations.map (Declaration.under root)) (left.under root)
        (right.under root) := by
  obtain ⟨-, pair, hm, made, made'⟩ := made
  rw [given.targets, given.targets', List.zip_map'] at hm
  obtain ⟨path, hp, rfl⟩ := List.mem_map.mp hm
  obtain ⟨known, fields, ho, ht, rfl⟩ := exists_fields_of_synthesize made
  obtain ⟨known', fields', ho', ht', rfl⟩ := exists_fields_of_synthesize made'
  rcases targetSchema_root hroot (inside.targets path hp) with
    ⟨right, hr, schema, schema'⟩ | ⟨unknown, -⟩
  · dsimp only at ht ht' ⊢
    rw [schema] at ht ⊢
    rw [schema'] at ht' ⊢
    rw [given.origin] at ho ⊢
    rw [given.origin'] at ho' ⊢
    obtain ⟨plain, -⟩ := fields?_schemaOf_iff.mp ho
    obtain ⟨plain', rfl⟩ := fields?_schemaOf_iff.mp ht
    obtain ⟨-, rfl⟩ := fields?_schemaOf_iff.mp ht'
    exact ⟨right, hr, plain, plain', rfl, rfl⟩
  · exact nomatch ht.symm.trans unknown

/-- What the scan below a root makes of the signature of a function: no parameter gets a default, and one
loses it exactly if the types of its field are not even, which takes a path that is left alone and spelled
as a full name. -/
structure Mapper.Compares (declarations : List Declaration) (left right : Declaration)
    (function other : Mapper) : Prop where
  defaults : ∀ name, (name, false) ∈ other.signature → (name, false) ∈ function.signature
  signature : other.signature = function.signature ↔
    ∀ name, (name, false) ∈ function.signature → EvenTypes declarations left right name
  apart : left.TypesSpelledApart declarations → right.TypesSpelledApart declarations →
    other.signature = function.signature

theorem compares_mapperBetween (rooted : root.head? = some "crate")
    (words : ∀ name ∈ root, IsPathWord name)
    (wellNamed : ∀ declaration ∈ declarations, declaration.WellNamed)
    (plain : left.IsPlainRecord) (plain' : right.IsPlainRecord)
    (inside : left.TypesStayInside) (inside' : right.TypesStayInside)
    (back : left.TypesReadBack declarations) (back' : right.TypesReadBack declarations)
    (below : (left.under root).TypesReadBack (declarations.map (Declaration.under root)))
    (below' : (right.under root).TypesReadBack (declarations.map (Declaration.under root))) :
    (mapperBetween declarations left right).Compares declarations left right
      (mapperBetween (declarations.map (Declaration.under root)) (left.under root) (right.under root)) := by
  have defaulted : ∀ name, isDefaultedIn (declarations.map (Declaration.under root)) (left.under root)
      (right.under root) name = true ↔
        isDefaultedIn declarations left right name = true ∧ EvenTypes declarations left right name :=
    fun _ => isDefaultedIn_root_iff rooted words wellNamed inside inside' back back' below below'
  have written : (right.under root).writtenFields = right.writtenFields := rfl
  have top := @signature_mapperBetween declarations left right plain plain'
  have under := @signature_mapperBetween (declarations.map (Declaration.under root)) (left.under root)
    (right.under root) (plain.under root) (plain'.under root)
  rw [written] at under
  have signature : (mapperBetween (declarations.map (Declaration.under root)) (left.under root)
        (right.under root)).signature = (mapperBetween declarations left right).signature ↔
      ∀ name, (name, false) ∈ (mapperBetween declarations left right).signature →
        EvenTypes declarations left right name := by
    rw [top, under, statuses_eq_iff]
    constructor
    · intro same name hm
      obtain ⟨listed, default⟩ := mem_statuses_false.mp hm
      exact ((defaulted name).mp ((same name listed).trans default)).2
    · intro even name listed
      rw [Bool.eq_iff_iff, defaulted]
      exact and_iff_left_of_imp fun default => even name (mem_statuses_false.mpr ⟨listed, default⟩)
  refine ⟨fun name hm => ?_, signature, fun apart apart' => signature.mpr fun name hm => ?_⟩
  · rw [under, mem_statuses_false, defaulted] at hm
    rw [top, mem_statuses_false]
    exact ⟨hm.1, hm.2.1⟩
  · rw [top, mem_statuses_false] at hm
    exact evenTypes_of_spelledApart wellNamed apart apart' back back' hm.2

end Functions

/-! ## Passes -/

/-- **The two modes.** Items are scanned at the top or below a root that starts at `crate`, and what they
name stays inside the scan. Then both passes have diagnostics of the same kinds and the same modules with
the same functions, apart from the path of the root. Where types read back from their texts, the signatures
of functions are the same exactly if the types of every field that has a default at the top are even, and
they are where no path that is left alone is spelled as a full name. -/
theorem generate_below_root {root : String} {items : List Tree}
    (rooted : (Identity.mk root).segments.head? = some "crate")
    (wellNamed : ∀ declaration ∈ declarationsIn (.top []) items, declaration.WellNamed)
    (inside : ∀ declaration ∈ declarationsIn (.top []) items, declaration.StaysInside) :
    let segments := (Identity.mk root).segments
    let top := declarationsIn (.top []) items
    let below := declarationsIn (.top segments) items
    let generation := generate (extract "" items).directives
    let other := generate (extract root items).directives
    other.diagnostics.map Diagnostic.kind = generation.diagnostics.map Diagnostic.kind ∧
      List.Forall₂ (fun module module' => module'.origin = module.origin.under segments ∧
        List.Forall₂ (fun function function' => function.SameUnder segments function' ∧
            ∃ left ∈ top, ∃ right ∈ top,
              function.receiver = left.identity ∧ function.returns = right.identity ∧
              ((∀ name ∈ segments, IsPathWord name) →
                left.TypesReadBack top → right.TypesReadBack top →
                  (left.under segments).TypesReadBack below → (right.under segments).TypesReadBack below →
                    function.Compares top left right function'))
          module.functions module'.functions)
        generation.modules other.modules := by
  intro segments top below generation other
  have hroot := isRoot_of_crate rooted
  have scan : below = top.map (Declaration.under segments) := by
    have whole := declarationsIn_root hroot (.top []) items
    rwa [Home.under_top] at whole
  -- the pairs of directives that one declaration gives in the two scans
  obtain ⟨pairs, firsts, seconds, given⟩ := exists_givenBy top segments top
  have directives : (extract "" items).directives = pairs.map Prod.fst := by
    rw [firsts, extract, extractDeclarations, List.flatMap_map]
    rfl
  have directives' : (extract root items).directives = pairs.map Prod.snd := by
    rw [seconds, ← scan, extract, extractDeclarations, List.flatMap_map]
  have twins : ∀ pair ∈ pairs, pair.1.Twin pair.2 := by
    intro pair hm
    obtain ⟨declaration, hd, by_it⟩ := given pair hm
    exact by_it.twin hroot wellNamed (inside declaration hd)
  have same : SameEqualities (·.origin.identity) pairs := by
    intro pair hm pair' hm'
    obtain ⟨declaration, -, by_it⟩ := given pair hm
    obtain ⟨declaration', -, by_it'⟩ := given pair' hm'
    simp only [by_it.origin, by_it.origin', by_it'.origin, by_it'.origin', identity_schemaOf]
    exact under_inj.symm
  have twin := generate_twin twins same
  rw [← directives, ← directives'] at twin
  refine ⟨twin.kinds.symm, twin.modules.imp fun module module' made => ?_⟩
  obtain ⟨pair, hm, origin, origin', functions⟩ := made
  obtain ⟨left, hl, by_it⟩ := given pair hm
  refine ⟨?_, functions.imp fun function function' made => ?_⟩
  · rw [origin, origin', by_it.origin, by_it.origin', identity_schemaOf, identity_schemaOf]
    rfl
  obtain ⟨right, hr, plain, plain', rfl, rfl⟩ :=
    exists_between_of_madeAlike hroot by_it (inside left hl) made
  refine ⟨sameUnder_mapperBetween hroot (wellNamed right hr) plain plain', left, hl, right, hr,
    receiver_mapperBetween, returns_mapperBetween, fun words back back' below below' => ?_⟩
  rw [scan] at below below'
  exact compares_mapperBetween rooted words wellNamed plain plain' (inside left hl).types
    (inside right hr).types back back' below below'

/-- A struct named as a type of the prelude, and a module from which the name leads to that type. -/
def shadowedString : List Tree :=
  ((File.ofText? "pub struct String;
    #[mapper(b::T)] pub struct O { pub m: String }
    pub mod b { pub struct T { pub m: String } }").map (·.items)).getD []

/-- The types of these records read back in both scans. -/
theorem typesReadBack_shadowedString : ∀ root ∈ [[], ["crate"]],
    ∀ declaration ∈ declarationsIn (.top root) shadowedString,
      declaration.TypesReadBack (declarationsIn (.top root) shadowedString) := by
  obtain ⟨file, read, items⟩ := File.exists_of_items (rfl : _ = shadowedString) (by decide +kernel)
  have plain : ∀ root ∈ [[], ["crate"]], (∀ name ∈ root, IsPathWord name) ∧
      ∀ declaration ∈ declarationsIn (.top root) shadowedString,
        declaration.home.names.head? ≠ some "try" ∧
          ∀ field ∈ declaration.writtenFields, field.2.hasPlainNodes = true := by
    decide +kernel
  rw [← items] at plain ⊢
  intro root listed declaration hm
  obtain ⟨words, each⟩ := plain root listed
  exact typesReadBack_of_ofText? read words (fun other hm => (each other hm).1) hm (each declaration hm).2

/-- The parameter has a default at the top and none below `crate`. -/
theorem exists_signature_ne_below_crate :
    let top := declarationsIn (.top []) shadowedString
    let generation := generate (extract "" shadowedString).directives
    let other := generate (extract "crate" shadowedString).directives
    other.diagnostics.map Diagnostic.kind = generation.diagnostics.map Diagnostic.kind ∧
      ∃ module ∈ generation.modules, ∃ module' ∈ other.modules,
        module'.origin = module.origin.under ["crate"] ∧
          ∃ function ∈ module.functions, ∃ function' ∈ module'.functions,
            function.SameUnder ["crate"] function' ∧ function.signature = [("m", false)] ∧
              function'.signature = [("m", true)] ∧
                ∃ left ∈ top, ∃ right ∈ top, ¬EvenTypes top left right "m" := by
  intro top generation other
  obtain ⟨file, read, items⟩ := File.exists_of_items (rfl : _ = shadowedString) (by decide +kernel)
  have wellNamed : ∀ declaration ∈ declarationsIn (.top []) shadowedString, declaration.WellNamed :=
    items ▸ wellNamed_of_ofText? read (by simp)
  have inside : ∀ declaration ∈ top, declaration.StaysInside := by
    have paths : ∀ declaration ∈ top,
        (∀ path ∈ declaration.references.1, StaysInside declaration.home path) ∧
          ∀ field ∈ declaration.writtenFields, ∀ path ∈ field.2.typePaths,
            StaysInside declaration.home path := by
      decide +kernel
    exact fun declaration hm => ⟨(paths declaration hm).1, (paths declaration hm).2⟩
  have scan : declarationsIn (.top ["crate"]) shadowedString = top.map (Declaration.under ["crate"]) := by
    have root : IsRoot ["crate"] := isRoot_of_crate rfl
    have whole := declarationsIn_root root (.top []) shadowedString
    rwa [Home.under_top] at whole
  obtain ⟨module, hm, function, hf, atTop⟩ : ∃ module ∈ generation.modules,
      ∃ function ∈ module.functions, function.signature = [("m", false)] := by
    decide +kernel
  have belowCrate : ∀ module ∈ other.modules, ∀ function ∈ module.functions,
      function.signature = [("m", true)] := by
    decide +kernel
  obtain ⟨kinds, modules⟩ :=
    @generate_below_root "crate" shadowedString (by decide) wellNamed inside
  obtain ⟨module', hm', origin, functions⟩ := exists_of_forall₂ modules hm
  obtain ⟨function', hf', same, left, hl, right, hr, -, -, compared⟩ := exists_of_forall₂ functions hf
  have backAtTop : ∀ declaration ∈ top, declaration.TypesReadBack top := typesReadBack_shadowedString [] (by simp)
  have backBelow {declaration : Declaration} (hm : declaration ∈ top) :=
    typesReadBack_shadowedString ["crate"] (by simp) (declaration.under ["crate"]) (scan ▸ List.mem_map_of_mem hm)
  have compared := compared (by decide +kernel) (backAtTop left hl) (backAtTop right hr) (backBelow hl)
    (backBelow hr)
  have below := belowCrate module' hm' function' hf'
  refine ⟨kinds, module, hm, module', hm', origin, function, hf, function', hf', same, atTop, below, left,
    hl, right, hr, fun even => ?_⟩
  have equal := compared.signature.mpr fun name listed => by
    rw [atTop, List.mem_singleton, Prod.mk.injEq] at listed
    exact listed.1 ▸ even
  rw [atTop, below] at equal
  exact absurd equal (by decide)

end RecordMapper
