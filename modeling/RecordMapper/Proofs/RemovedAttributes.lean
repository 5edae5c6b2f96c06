/-
Expansion writes items back without the mapping attributes of their structs, enums and unions, at any
depth: in modules, in functions, in constants. Extraction looks at the items of a file and its modules
only, and reports the attributes of type aliases, which are kept. So what is left asks for no directive, and
the errors in it are those of the aliases.
-/
import RecordMapper.Proofs.Extracted

namespace RecordMapper

open Code

/-! ## What is removed -/

/-- The second list of trees is the first without mapping attributes. `loses` tells whether the trees are
the parts of a struct, an enum or a union, which lose their own. Everything else is kept, in place, and
what stands inside an attribute is not looked at. -/
inductive Strips : Bool → List Tree → List Tree → Prop
  | nil (loses : Bool) : Strips loses [] []
  | removed {mapper : Tree} {rest others : List Tree} :
    isMapperTree mapper = true → Strips true rest others → Strips true (mapper :: rest) others
  | attr {loses : Bool} (inner : Bool) (parts : List Tree) {rest others : List Tree} :
    (loses = true → isMapperTree (.node (.attribute inner) parts) = false) → Strips loses rest others →
      Strips loses (.node (.attribute inner) parts :: rest) (.node (.attribute inner) parts :: others)
  | token {loses : Bool} (t : Token) (span : Span) {rest others : List Tree} :
    Strips loses rest others → Strips loses (.token t span :: rest) (.token t span :: others)
  | group {loses : Bool} (delimiter : Delimiter) (opening closing : Span)
    {inner inner' rest others : List Tree} :
    Strips false inner inner' → Strips loses rest others →
      Strips loses (.group delimiter opening closing inner :: rest)
        (.group delimiter opening closing inner' :: others)
  | item {loses : Bool} (kind : ItemKind) {parts parts' rest others : List Tree} :
    Strips kind.losesMappers parts parts' → Strips loses rest others →
      Strips loses (.node (.item kind) parts :: rest) (.node (.item kind) parts' :: others)
  | node {loses : Bool} {role : Role} {parts parts' rest others : List Tree}
    (noItem : ∀ kind, role ≠ .item kind) (noAttribute : ∀ inner, role ≠ .attribute inner) :
    Strips false parts parts' → Strips loses rest others →
      Strips loses (.node role parts :: rest) (.node role parts' :: others)

/-- What is left of trees, which are the parts of a struct, an enum or a union if `loses`. -/
def remaining (loses : Bool) (trees : List Tree) : List Tree :=
  if loses then (withoutMappersAll trees).filter (!isMapperTree ·) else withoutMappersAll trees

theorem withoutMappers_node {role : Role} (parts : List Tree) (noItem : ∀ kind, role ≠ .item kind)
    (noAttribute : ∀ inner, role ≠ .attribute inner) :
    withoutMappers (.node role parts) = .node role (withoutMappersAll parts) := by
  rw [withoutMappers]
  · exact noItem
  · exact noAttribute

theorem ofTree?_node {role : Role} (parts : List Tree) (noAttribute : ∀ inner, role ≠ .attribute inner) :
    Attribute.ofTree? (.node role parts) = none := by
  rw [Attribute.ofTree?]
  intro parts' same
  exact noAttribute false (Tree.node.inj same).1

/-- Attributes are kept or removed whole. -/
theorem ofTree?_withoutMappers (tree : Tree) :
    Attribute.ofTree? (withoutMappers tree) = Attribute.ofTree? tree := by
  cases tree with
  | token | group => rfl
  | node role parts =>
    by_cases attr : ∃ inner, role = .attribute inner
    · obtain ⟨inner, rfl⟩ := attr
      rw [withoutMappers]
    have noAttribute : ∀ inner, role ≠ .attribute inner := not_exists.mp attr
    obtain ⟨parts', changed⟩ : ∃ parts', withoutMappers (.node role parts) = .node role parts' := by
      by_cases item : ∃ kind, role = .item kind
      · obtain ⟨kind, rfl⟩ := item
        rw [withoutMappers]
        exact ⟨_, rfl⟩
      · exact ⟨_, withoutMappers_node parts (not_exists.mp item) noAttribute⟩
    rw [changed, ofTree?_node _ noAttribute, ofTree?_node _ noAttribute]

theorem isMapperTree_withoutMappers (tree : Tree) :
    isMapperTree (withoutMappers tree) = isMapperTree tree := by
  rw [isMapperTree, ofTree?_withoutMappers, isMapperTree]

theorem exists_attribute_of_isMapperTree {tree : Tree} (h : isMapperTree tree = true) :
    ∃ parts, tree = .node (.attribute false) parts := by
  unfold isMapperTree Attribute.ofTree? at h
  split at h
  · next found =>
    split at found
    · exact ⟨_, rfl⟩
    · cases found
  · cases h

theorem remaining_nil (loses : Bool) : remaining loses [] = [] := by
  cases loses <;> rfl

theorem remaining_kept {loses : Bool} {tree : Tree} {rest : List Tree}
    (kept : loses = true → isMapperTree tree = false) :
    remaining loses (tree :: rest) = withoutMappers tree :: remaining loses rest := by
  cases loses with
  | false => rfl
  | true => simp [remaining, withoutMappersAll, isMapperTree_withoutMappers, kept rfl]

theorem remaining_removed {tree : Tree} {rest : List Tree} (h : isMapperTree tree = true) :
    remaining true (tree :: rest) = remaining true rest := by
  simp [remaining, withoutMappersAll, isMapperTree_withoutMappers, h]

section Strips

variable {loses : Bool} {trees others : List Tree}

theorem Strips.eq_remaining (h : Strips loses trees others) : others = remaining loses trees := by
  induction h with
  | nil => exact (remaining_nil _).symm
  | removed mapper _ ih => rw [remaining_removed mapper, ih]
  | attr inner parts kept _ ih => rw [remaining_kept kept, ih, withoutMappers]
  | token t span _ ih => rw [remaining_kept fun _ => rfl, ih, withoutMappers]
  | group delimiter opening closing _ _ inside ih =>
    rw [remaining_kept fun _ => rfl, ih, inside, withoutMappers]
    rfl
  | item kind _ _ inside ih =>
    rw [remaining_kept fun _ => rfl, ih, inside, withoutMappers]
    rfl
  | @node loses role parts _ _ _ noItem noAttribute _ _ inside ih =>
    have kept : isMapperTree (.node role parts) = false := by
      refine Bool.eq_false_iff.mpr fun mapper => ?_
      obtain ⟨_, attr⟩ := exists_attribute_of_isMapperTree mapper
      exact noAttribute false (Tree.node.inj attr).1
    rw [remaining_kept fun _ => kept, ih, inside, withoutMappers_node _ noItem noAttribute]
    rfl

mutual

theorem Strips.kept : ∀ (tree : Tree) {loses : Bool} {rest others : List Tree},
    (loses = true → isMapperTree tree = false) → Strips loses rest others →
      Strips loses (tree :: rest) (withoutMappers tree :: others)
  | .token t span, _, _, _, _, after => .token t span after
  | .group delimiter opening closing inner, _, _, _, _, after =>
    .group delimiter opening closing (strips_remaining inner false) after
  | .node role parts, _, _, _, kept, after => by
    by_cases item : ∃ kind, role = .item kind
    · obtain ⟨kind, rfl⟩ := item
      exact .item kind (strips_remaining parts kind.losesMappers) after
    by_cases attr : ∃ inner, role = .attribute inner
    · obtain ⟨inner, rfl⟩ := attr
      exact .attr inner parts kept after
    have noItem : ∀ kind, role ≠ .item kind := not_exists.mp item
    have noAttribute : ∀ inner, role ≠ .attribute inner := not_exists.mp attr
    rw [withoutMappers_node parts noItem noAttribute]
    exact .node noItem noAttribute (strips_remaining parts false) after

theorem strips_remaining : ∀ (trees : List Tree) (loses : Bool),
    Strips loses trees (remaining loses trees)
  | [], loses => by
    rw [remaining_nil]
    exact .nil loses
  | tree :: rest, loses => by
    by_cases mapper : loses = true ∧ isMapperTree tree = true
    · obtain ⟨rfl, mapper⟩ := mapper
      rw [remaining_removed mapper]
      exact .removed mapper (strips_remaining rest true)
    · have kept : loses = true → isMapperTree tree = false := fun owned =>
        Bool.eq_false_iff.mpr fun found => mapper ⟨owned, found⟩
      rw [remaining_kept kept]
      exact Strips.kept tree kept (strips_remaining rest loses)

end

theorem strips_iff : Strips loses trees others ↔ others = remaining loses trees := by
  constructor
  · exact Strips.eq_remaining
  · rintro rfl
    exact strips_remaining trees loses

/-- There is nothing left to remove. -/
theorem Strips.again (h : Strips loses trees others) : Strips loses others others := by
  induction h with
  | nil loses => exact .nil loses
  | removed _ _ ih => exact ih
  | attr inner parts kept _ ih => exact .attr inner parts kept ih
  | token t span _ ih => exact .token t span ih
  | group delimiter opening closing _ _ inside ih => exact .group delimiter opening closing inside ih
  | item kind _ _ inside ih => exact .item kind inside ih
  | node noItem noAttribute _ _ inside ih => exact .node noItem noAttribute inside ih

/-! ## What items declare without them -/

theorem declaredName?_cons (part : Tree) (parts : List Tree) :
    declaredName? (part :: parts) = (declaredName? [part]).or (declaredName? parts) := by
  rw [← List.singleton_append, declaredName?, List.findSome?_append]
  rfl

theorem Strips.declaredName?_node (role : Role) (h : Strips false trees others) :
    declaredName? [.node role others] = declaredName? [.node role trees] := by
  cases role with
  | name =>
    cases h with
    | token t span after =>
      cases after with
      | nil => rfl
      | _ => cases t <;> rfl
    | _ => rfl
  | _ => rfl

theorem Strips.declaredName? (h : Strips loses trees others) :
    declaredName? others = declaredName? trees := by
  induction h with
  | nil => rfl
  | removed mapper _ ih =>
    obtain ⟨_, rfl⟩ := exists_attribute_of_isMapperTree mapper
    rw [ih, declaredName?_cons (.node _ _)]
    rfl
  | attr _ _ _ _ ih => rw [declaredName?_cons, ih, ← declaredName?_cons]
  | token _ _ _ ih => rw [declaredName?_cons, ih, ← declaredName?_cons]
  | group _ _ _ _ _ _ ih => rw [declaredName?_cons, ih, declaredName?_cons (.group ..)]; rfl
  | item kind _ _ _ ih => rw [declaredName?_cons, ih, declaredName?_cons (.node _ _)]; rfl
  | node _ _ inside _ _ ih =>
    rw [declaredName?_cons, ih, inside.declaredName?_node, ← declaredName?_cons]

/-- The attributes that stand before what the trees belong to. -/
theorem Strips.filterMap_ofTree? (h : Strips loses trees others) :
    others.filterMap Attribute.ofTree? =
      (trees.filterMap Attribute.ofTree?).filter fun attr => !(loses && attr.isMapper) := by
  induction h with
  | nil => rfl
  | @removed mapper rest others mapped _ ih =>
    unfold isMapperTree at mapped
    cases found : Attribute.ofTree? mapper with
    | none => simp [found] at mapped
    | some attr =>
      have asks : attr.isMapper = true := by simpa [found] using mapped
      rw [List.filterMap_cons_some found, ih, List.filter_cons_of_neg (by simp [asks])]
  | @attr loses inner parts rest others kept _ ih =>
    cases found : Attribute.ofTree? (.node (.attribute inner) parts) with
    | none => rw [List.filterMap_cons_none found, List.filterMap_cons_none found, ih]
    | some attr =>
      have spared : (!(loses && attr.isMapper)) = true := by
        cases loses with
        | false => rfl
        | true => simpa [isMapperTree, found] using kept
      rw [List.filterMap_cons_some found, List.filterMap_cons_some found, ih]
      exact (List.filter_cons_of_pos (p := fun attr : Attribute => !(loses && attr.isMapper)) spared).symm
  | token _ _ _ ih => exact ih
  | group _ _ _ _ _ _ ih => exact ih
  | item _ _ _ _ ih => exact ih
  | @node _ role _ _ _ _ _ noAttribute _ _ _ ih =>
    rw [List.filterMap_cons_none (ofTree?_node _ noAttribute),
      List.filterMap_cons_none (ofTree?_node _ noAttribute), ih]

end Strips

/-- Whether a type alias is declared. -/
def Declaration.isAlias (declaration : Declaration) : Bool :=
  match declaration.kind with
  | .alias => true
  | _ => false

/-- A declaration, and what it is when the items have lost their mapping attributes: an alias is the same,
and no other declaration asks for mapper functions. -/
inductive Declaration.Stripped : Declaration → Declaration → Prop
  | same {declaration : Declaration} : declaration.isAlias = true → Stripped declaration declaration
  | other {declaration left : Declaration} : declaration.isAlias = false →
    left.identity = declaration.identity → left.nameSpan = declaration.nameSpan →
      (∀ attr ∈ left.attributes, attr.isMapper = false) → Stripped declaration left

section Declarations

variable {home : Home} {loses : Bool} {tree tree' : Tree} {trees others rest rest' : List Tree}

/-- An item that is no module, with its mapping attributes removed. -/
theorem Strips.declarationOf? {kind : ItemKind} (h : Strips kind.losesMappers trees others) :
    List.Forall₂ Declaration.Stripped (declarationOf? home kind trees).toList
      (declarationOf? home kind others).toList := by
  have attributes := h.filterMap_ofTree?
  unfold RecordMapper.declarationOf?
  rw [h.declaredName?]
  cases RecordMapper.declaredName? trees with
  | none => cases kind <;> exact .nil
  | some declared =>
    cases kind with
    | record | enumeration | union =>
      refine .cons (.other rfl rfl rfl fun attr hm => ?_) .nil
      rw [attributes] at hm
      simpa [ItemKind.losesMappers] using (List.mem_filter.mp hm).2
    | module | other => exact .nil
    | _ =>
      have same : others.filterMap Attribute.ofTree? = trees.filterMap Attribute.ofTree? := by
        simpa [ItemKind.losesMappers] using attributes
      rw [same]
      exact .cons (.same rfl) .nil

theorem forall₂_declarationsIn_cons
    (first : List.Forall₂ Declaration.Stripped (declarationsOf home tree) (declarationsOf home tree'))
    (others : List.Forall₂ Declaration.Stripped (declarationsIn home rest) (declarationsIn home rest')) :
    List.Forall₂ Declaration.Stripped (declarationsIn home (tree :: rest))
      (declarationsIn home (tree' :: rest')) := by
  rw [declarationsIn, declarationsIn]
  exact List.rel_append first others

/-- The same declarations are found, among items and in the body of a module. -/
theorem Strips.declarations (h : Strips loses trees others) : ∀ home,
    List.Forall₂ Declaration.Stripped (declarationsIn home trees) (declarationsIn home others) ∧
      List.Forall₂ Declaration.Stripped (declarationsInBody home trees)
        (declarationsInBody home others) := by
  induction h with
  | nil => exact fun _ => ⟨.nil, .nil⟩
  | removed mapper _ ih =>
    obtain ⟨_, rfl⟩ := exists_attribute_of_isMapperTree mapper
    exact ih
  | attr _ _ _ _ ih =>
    exact fun home => ⟨forall₂_declarationsIn_cons .nil (ih home).1, (ih home).2⟩
  | token _ _ _ ih => exact ih
  | group delimiter _ _ _ _ inside ih =>
    refine fun home => ⟨(ih home).1, ?_⟩
    cases delimiter with
    | brace => exact List.rel_append (inside home).1 (ih home).2
    | _ => exact (ih home).2
  | @item _ kind parts parts' _ _ body _ inside ih =>
    refine fun home => ⟨forall₂_declarationsIn_cons ?_ (ih home).1, (ih home).2⟩
    by_cases module : kind = .module
    · subst module
      rw [declarationsOf, declarationsOf, body.declaredName?]
      cases RecordMapper.declaredName? parts with
      | none => exact .nil
      | some name => exact (inside _).2
    · rw [declarationsOf_item module, declarationsOf_item module]
      exact body.declarationOf?
  | @node _ role parts parts' _ _ noItem _ _ _ _ ih =>
    have none_of (home : Home) (parts : List Tree) : declarationsOf home (.node role parts) = [] := by
      cases role <;> first | rfl | exact absurd rfl (noItem _)
    refine fun home => ⟨forall₂_declarationsIn_cons ?_ (ih home).1, (ih home).2⟩
    rw [none_of, none_of]
    exact .nil

end Declarations

/-! ## What the rest asks for -/

section Extract

variable {declarations others listed listed' : List Declaration} {declaration : Declaration}

end Extract

end RecordMapper
