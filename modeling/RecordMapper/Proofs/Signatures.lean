/-
How a mapper function is called is said by the names of its parameters, in order, and by which of them may
be left out. For records that are declared in one scan it depends on the written types alone: a parameter
has a default exactly if both records have its field with types of one text by full identities.
-/
import RecordMapper.Proofs.EvenPaths
import RecordMapper.Proofs.Planning

namespace RecordMapper

/-- The names of the parameters, in order, and whether the caller has to supply them. -/
def Mapper.signature (mapper : Mapper) : List (String × Bool) :=
  mapper.parameters.map fun parameter => (parameter.name, parameter.isRequired)

/-! ## Names with and without a default -/

/-- Names, those without a default first, and whether each has none. -/
def statuses (names : List String) (defaulted : String → Bool) : List (String × Bool) :=
  (names.filter fun name => !defaulted name).map (·, true) ++ (names.filter defaulted).map (·, false)

section Statuses

variable {names : List String} {defaulted other : String → Bool}

theorem mem_statuses_false {name : String} :
    (name, false) ∈ statuses names defaulted ↔ name ∈ names ∧ defaulted name = true := by
  simp [statuses]

/-- The order and the marks tell which names have a default. -/
theorem statuses_eq_iff :
    statuses names defaulted = statuses names other ↔
      ∀ name ∈ names, defaulted name = other name := by
  constructor
  · intro same name hm
    have marked : (name, false) ∈ statuses names defaulted ↔ (name, false) ∈ statuses names other := by
      rw [same]
    rw [mem_statuses_false, mem_statuses_false, and_iff_right hm, and_iff_right hm] at marked
    exact Bool.eq_iff_iff.mpr marked
  · intro same
    unfold statuses
    rw [List.filter_congr fun name hm => congrArg not (same name hm), List.filter_congr same]

end Statuses

/-! ## Written fields -/

/-- Whether both records have a field of a name, with types of one text by full identities. -/
def isDefaultedIn (declarations : List Declaration) (left right : Declaration) (name : String) : Bool :=
  (left.writtenType? name).any fun type => (right.writtenType? name).any fun other =>
    (qualifyType declarations left.home type).text = (qualifyType declarations right.home other).text

section Written

variable {declarations : List Declaration} {left right : Declaration}

theorem isDefaultedIn_iff {name : String} :
    isDefaultedIn declarations left right name = true ↔
      ∃ type other, left.writtenType? name = some type ∧ right.writtenType? name = some other ∧
        (qualifyType declarations left.home type).text =
          (qualifyType declarations right.home other).text := by
  simp only [isDefaultedIn, Option.any_eq_true, decide_eq_true_eq]
  constructor
  · rintro ⟨type, written, other, written', same⟩
    exact ⟨type, other, written, written', same⟩
  · rintro ⟨type, other, written, written', same⟩
    exact ⟨type, written, other, written', same⟩

theorem mem_writtenFields {name : String} {type : Code.Tree} (h : left.writtenType? name = some type) :
    (name, type) ∈ left.writtenFields := by
  obtain ⟨before, after, split, -⟩ := List.lookup_eq_some_iff.mp h
  rw [split]
  exact List.mem_append_right _ List.mem_cons_self

/-- A written field of the target is one of the origin, by full identities, exactly if it has a default. -/
theorem mem_qualifiedFields_iff (plain : left.IsPlainRecord) (plain' : right.IsPlainRecord)
    {field : String × Code.Tree} (hm : field ∈ right.writtenFields) :
    (⟨field.1, ⟨(qualifyType declarations right.home field.2).text⟩⟩ : Field) ∈
        left.qualifiedFields declarations ↔
      isDefaultedIn declarations left right field.1 = true := by
  have written' : right.writtenType? field.1 = some field.2 := lookup_of_mem plain'.nodup hm
  rw [isDefaultedIn_iff, Declaration.qualifiedFields, List.mem_map]
  constructor
  · rintro ⟨⟨name, type⟩, found, same⟩
    simp only [Field.mk.injEq, TypeText.mk.injEq] at same
    obtain ⟨rfl, same⟩ := same
    exact ⟨type, field.2, lookup_of_mem plain.nodup found, written', same⟩
  · rintro ⟨type, other, written, other_written, same⟩
    obtain rfl := Option.some.inj (written'.symm.trans other_written)
    exact ⟨(field.1, type), mem_writtenFields written, by simp only [same]⟩

end Written

/-! ## Functions between declarations -/

/-- The function between two declarations of a scan. -/
def mapperBetween (declarations : List Declaration) (left right : Declaration) : Mapper :=
  plannedMapper (schemaOf declarations left) (schemaOf declarations right)
    (right.qualifiedFields declarations)

theorem Declaration.IsPlainRecord.fields? {declaration : Declaration} (h : declaration.IsPlainRecord)
    (declarations : List Declaration) :
    (schemaOf declarations declaration).fields? = some (declaration.qualifiedFields declarations) :=
  fields?_schemaOf_iff.mpr ⟨h, rfl⟩

theorem names_qualifiedFields (declarations : List Declaration) (declaration : Declaration) :
    (declaration.qualifiedFields declarations).map Field.name =
      declaration.writtenFields.map Prod.fst := by
  rw [Declaration.qualifiedFields, List.map_map]
  rfl

section Planned

variable {declarations : List Declaration} {left right : Declaration} {known fields : List Field}

theorem signature_plannedMapper {origin target : Schema} (ho : origin.fields? = some known)
    (ht : target.fields? = some fields) :
    (plannedMapper origin target fields).signature =
      (fields.filter fun field => !decide (field ∈ known)).map (fun field => (field.name, true)) ++
        (fields.filter fun field => decide (field ∈ known)).map (fun field => (field.name, false)) := by
  rw [Mapper.signature, parameters_plannedMapper ho ht, List.map_map, List.map_append]
  congr 1
  · refine List.map_congr_left fun field hm => ?_
    have fresh : field ∉ known := by simpa using (List.mem_filter.mp hm).2
    simp [Field.parameterIn, Parameter.isRequired, fresh]
  · refine List.map_congr_left fun field hm => ?_
    have shared : field ∈ known := by simpa using (List.mem_filter.mp hm).2
    simp [Field.parameterIn, Parameter.isRequired, shared]

theorem name_mapperBetween : (mapperBetween declarations left right).name = right.identity.mapperName :=
  congrArg Identity.mapperName identity_schemaOf

theorem receiver_mapperBetween : (mapperBetween declarations left right).receiver = left.identity :=
  identity_schemaOf

theorem returns_mapperBetween : (mapperBetween declarations left right).returns = right.identity :=
  identity_schemaOf

theorem record_mapperBetween : (mapperBetween declarations left right).record = right.identity :=
  identity_schemaOf

theorem inits_mapperBetween : (mapperBetween declarations left right).inits =
    right.writtenFields.map fun field => ⟨field.1, field.1⟩ :=
  List.map_map

/-- The parameters of a function between declarations are the fields of the target, in another order. -/
theorem names_mapperBetween (plain : left.IsPlainRecord) (plain' : right.IsPlainRecord) :
    ((mapperBetween declarations left right).parameters.map Parameter.name).Perm
      (right.writtenFields.map Prod.fst) := by
  have perm := perm_parameters (plain.fields? declarations) (plain'.fields? declarations)
  refine (perm.map Parameter.name).trans (.of_eq ?_)
  rw [List.map_map, ← names_qualifiedFields declarations right]
  rfl

/-- The signature of a function between declarations is decided by the written types. -/
theorem signature_mapperBetween (plain : left.IsPlainRecord) (plain' : right.IsPlainRecord) :
    (mapperBetween declarations left right).signature =
      statuses (right.writtenFields.map Prod.fst) (isDefaultedIn declarations left right) := by
  rw [mapperBetween, signature_plannedMapper (plain.fields? declarations) (plain'.fields? declarations)]
  have marked : ∀ field ∈ right.writtenFields,
      decide ((⟨field.1, ⟨(qualifyType declarations right.home field.2).text⟩⟩ : Field) ∈
        left.qualifiedFields declarations) = isDefaultedIn declarations left right field.1 := by
    intro field hm
    rw [Bool.eq_iff_iff, decide_eq_true_iff, mem_qualifiedFields_iff plain plain' hm]
  have written : right.qualifiedFields declarations = right.writtenFields.map fun field =>
      ⟨field.1, ⟨(qualifyType declarations right.home field.2).text⟩⟩ := rfl
  rw [written, statuses]
  simp only [List.filter_map, List.map_map, Function.comp_def]
  rw [List.filter_congr marked, List.filter_congr fun field hm => congrArg not (marked field hm)]

end Planned

/-! ## Below a root -/

/-- The types of the fields, by full identities, read back from their texts. -/
def Declaration.TypesReadBack (declarations : List Declaration) (declaration : Declaration) : Prop :=
  ∀ field ∈ declaration.writtenFields, (qualifyType declarations declaration.home field.2).ReadsBack

/-- The paths in the types of the fields stay inside the scan. -/
def Declaration.TypesStayInside (declaration : Declaration) : Prop :=
  ∀ field ∈ declaration.writtenFields, ∀ path ∈ field.2.typePaths, StaysInside declaration.home path

/-- No path in the types of the fields that is left alone is spelled as the full name of a declaration. -/
def Declaration.TypesSpelledApart (declarations : List Declaration) (declaration : Declaration) : Prop :=
  ∀ field ∈ declaration.writtenFields, ∀ path ∈ field.2.typePaths,
    namedIn declarations declaration.home path = none → SpelledApart declarations path

/-- The types of a field in two records are even. -/
def EvenTypes (declarations : List Declaration) (left right : Declaration) (name : String) : Prop :=
  ∀ type ∈ left.writtenType? name, ∀ other ∈ right.writtenType? name,
    Evenly (isRespelled declarations left.home) (isRespelled declarations right.home) [type] [other]

section Below

variable {declarations : List Declaration} {left right : Declaration} {home home' : Home}
  {type other : Code.Tree}

theorem text_eq_iff_qualified (readsBack : (qualifyType declarations home type).ReadsBack)
    (readsBack' : (qualifyType declarations home' other).ReadsBack) :
    (qualifyType declarations home type).text = (qualifyType declarations home' other).text ↔
      qualified declarations home [type] = qualified declarations home' [other] := by
  rw [qualified_cons_iff]
  exact ⟨fun same => ⟨readsBack.unplaced_eq readsBack' same, rfl⟩,
    fun same => Code.Tree.text_eq_of_unplaced same.1⟩

theorem forall_mem_typePathsOf_singleton {P : Code.Tree → Prop} (h : ∀ path ∈ type.typePaths, P path) :
    ∀ path ∈ Code.Tree.typePathsOf [type], P path := by
  rwa [Code.Tree.typePathsOf_singleton]

/-- A field has a default below a root that starts at `crate` exactly if it has one at the top and its
types are even. -/
theorem isDefaultedIn_root_iff {root : List String} (rooted : root.head? = some "crate")
    (words : ∀ name ∈ root, Code.IsPathWord name)
    (wellNamed : ∀ declaration ∈ declarations, declaration.WellNamed)
    (inside : left.TypesStayInside) (inside' : right.TypesStayInside)
    (back : left.TypesReadBack declarations) (back' : right.TypesReadBack declarations)
    (below : (left.under root).TypesReadBack (declarations.map (Declaration.under root)))
    (below' : (right.under root).TypesReadBack (declarations.map (Declaration.under root)))
    {name : String} :
    isDefaultedIn (declarations.map (Declaration.under root)) (left.under root) (right.under root) name =
        true ↔
      isDefaultedIn declarations left right name = true ∧ EvenTypes declarations left right name := by
  rw [isDefaultedIn_iff, isDefaultedIn_iff]
  have texts {type other : Code.Tree} (written : left.writtenType? name = some type)
      (written' : right.writtenType? name = some other) :
      (qualifyType (declarations.map (Declaration.under root)) (left.under root).home type).text =
          (qualifyType (declarations.map (Declaration.under root)) (right.under root).home other).text ↔
        (qualifyType declarations left.home type).text = (qualifyType declarations right.home other).text ∧
          Evenly (isRespelled declarations left.home) (isRespelled declarations right.home) [type]
            [other] := by
    have hm := mem_writtenFields written
    have hm' := mem_writtenFields written'
    rw [text_eq_iff_qualified (below _ hm) (below' _ hm'), text_eq_iff_qualified (back _ hm) (back' _ hm')]
    exact qualified_root_iff rooted words wellNamed (forall_mem_typePathsOf_singleton (inside _ hm))
      (forall_mem_typePathsOf_singleton (inside' _ hm'))
  constructor
  · rintro ⟨type, other, written, written', same⟩
    obtain ⟨top, even⟩ := (texts written written').mp same
    refine ⟨⟨type, other, written, written', top⟩, fun type' hl other' hr => ?_⟩
    obtain rfl := Option.some.inj (written.symm.trans hl)
    obtain rfl := Option.some.inj (written'.symm.trans hr)
    exact even
  · rintro ⟨⟨type, other, written, written', top⟩, even⟩
    exact ⟨type, other, written, written',
      (texts written written').mpr ⟨top, even type written other written'⟩⟩

/-- Where paths that are left alone are spelled apart from full names, types of one text are even. -/
theorem evenTypes_of_spelledApart (wellNamed : ∀ declaration ∈ declarations, declaration.WellNamed)
    (apart : left.TypesSpelledApart declarations) (apart' : right.TypesSpelledApart declarations)
    (back : left.TypesReadBack declarations) (back' : right.TypesReadBack declarations) {name : String}
    (defaulted : isDefaultedIn declarations left right name = true) :
    EvenTypes declarations left right name := by
  obtain ⟨type, other, written, written', same⟩ := isDefaultedIn_iff.mp defaulted
  have hm := mem_writtenFields written
  have hm' := mem_writtenFields written'
  intro type' hl other' hr
  obtain rfl := Option.some.inj (written.symm.trans hl)
  obtain rfl := Option.some.inj (written'.symm.trans hr)
  exact evenly_of_spelledApart wellNamed (forall_mem_typePathsOf_singleton (apart _ hm))
    (forall_mem_typePathsOf_singleton (apart' _ hm'))
    ((text_eq_iff_qualified (back _ hm) (back' _ hm')).mp same)

end Below

end RecordMapper
