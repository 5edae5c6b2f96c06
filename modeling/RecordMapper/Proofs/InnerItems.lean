/-
Mapping attributes are removed from structs, enums and unions wherever these stand, and a scan finds the items
of a file and of its modules. What stands inside another item, such as a function, a constant or the type of a
field, loses its attributes and is not scanned. Whether it had any makes no difference to what a scan finds, but
for the types of the fields.
-/
import RecordMapper.Proofs.RemovedAttributes
import RecordMapper.Proofs.RetypedFields

namespace RecordMapper

open Code

/-! ## Attributes of trees -/

mutual

/-- The attributes of a tree and of all that stands in it, in order. What stands inside an attribute is not
looked at. -/
def attributesOf : Tree → List Attribute
  | .token .. => []
  | .group _ _ _ inner => attributesIn inner
  | .node (.attribute inner) parts => (Attribute.ofTree? (.node (.attribute inner) parts)).toList
  | .node _ parts => attributesIn parts

/-- The attributes of several trees. -/
def attributesIn : List Tree → List Attribute
  | [] => []
  | tree :: rest => attributesOf tree ++ attributesIn rest

end

/-- The attributes that a declaration loses when the items are written back. -/
def Declaration.lost (declaration : Declaration) : List Attribute :=
  if declaration.isAlias then [] else declaration.attributes.filter (·.isMapper)

section Attributes

end Attributes

/-! ## Removing the attributes that are not scanned -/

theorem withoutMappersAll_again (trees : List Tree) :
    withoutMappersAll (withoutMappersAll trees) = withoutMappersAll trees :=
  (strips_iff.mp (strips_remaining trees false).again).symm

theorem withoutMappers_again (tree : Tree) : withoutMappers (withoutMappers tree) = withoutMappers tree := by
  have again := withoutMappersAll_again [tree]
  simp only [withoutMappersAll] at again
  exact (List.cons.inj again).1

mutual

/-- An item with its mapping attributes, and without those that are removed from the items inside it; the items
of a module count as scanned items themselves. -/
def withoutInner : Tree → Tree
  | .node (.item .module) parts => .node (.item .module) (withoutInnerBody parts)
  | .node (.item kind) parts => .node (.item kind) (withoutMappersAll parts)
  | tree => withoutMappers tree

/-- The parts of a module, whose items are between its braces. -/
def withoutInnerBody : List Tree → List Tree
  | [] => []
  | .group .brace opening closing inner :: rest =>
    .group .brace opening closing (withoutInnerAll inner) :: withoutInnerBody rest
  | tree :: rest => withoutMappers tree :: withoutInnerBody rest

/-- Several items with the attributes that a scan finds. -/
def withoutInnerAll : List Tree → List Tree
  | [] => []
  | tree :: rest => withoutInner tree :: withoutInnerAll rest

end

namespace WrittenModule

variable {name : String} {items : List Tree} (module : WrittenModule name items)

end WrittenModule

mutual

theorem withoutMappers_withoutInner : ∀ tree : Tree, withoutMappers (withoutInner tree) = withoutMappers tree
  | .token .. | .group .. => withoutMappers_again _
  | .node role parts => by
    have body := withoutMappersAll_withoutInnerBody parts
    unfold withoutInner
    split
    · next same =>
      cases same
      rw [withoutMappers, withoutMappers, body]
    · next same =>
      cases same
      rw [withoutMappers, withoutMappers, withoutMappersAll_again]
    · exact withoutMappers_again _

theorem withoutMappersAll_withoutInnerBody : ∀ parts : List Tree,
    withoutMappersAll (withoutInnerBody parts) = withoutMappersAll parts
  | [] => rfl
  | .group .brace opening closing inner :: rest => by
    rw [withoutInnerBody, withoutMappersAll, withoutMappersAll, withoutMappersAll_withoutInnerBody rest,
      withoutMappers, withoutMappers, withoutMappersAll_withoutInnerAll inner]
  | .group .paren .. :: rest | .group .bracket .. :: rest | .token .. :: rest | .node .. :: rest => by
    rw [withoutInnerBody, withoutMappersAll, withoutMappersAll, withoutMappersAll_withoutInnerBody rest,
      withoutMappers_again]
    nofun

/-- What is left out here is removed with the other attributes anyway. -/
theorem withoutMappersAll_withoutInnerAll : ∀ items : List Tree,
    withoutMappersAll (withoutInnerAll items) = withoutMappersAll items
  | [] => rfl
  | tree :: rest => by
    rw [withoutInnerAll, withoutMappersAll, withoutMappersAll, withoutMappers_withoutInner tree,
      withoutMappersAll_withoutInnerAll rest]

end

/-! ## What is left out of inner items -/

/-- The second list of trees is the first without some mapping attributes. -/
inductive Thins : List Tree → List Tree → Prop
  | nil : Thins [] []
  | left_out {mapper : Tree} {rest others : List Tree} :
    isMapperTree mapper = true → Thins rest others → Thins (mapper :: rest) others
  | kept (tree : Tree) {rest others : List Tree} : Thins rest others → Thins (tree :: rest) (tree :: others)
  | group (delimiter : Delimiter) (opening closing : Span) {inner inner' rest others : List Tree} :
    Thins inner inner' → Thins rest others →
      Thins (.group delimiter opening closing inner :: rest) (.group delimiter opening closing inner' :: others)
  | node {role : Role} {parts parts' rest others : List Tree} (noAttribute : ∀ inner, role ≠ .attribute inner) :
    Thins parts parts' → Thins rest others → Thins (.node role parts :: rest) (.node role parts' :: others)

namespace Thins

variable {trees others rest rest' : List Tree}

theorem append (h : Thins trees others) (after : Thins rest rest') : Thins (trees ++ rest) (others ++ rest') := by
  induction h with
  | nil => exact after
  | left_out mapper _ ih => exact .left_out mapper ih
  | kept tree _ ih => exact .kept tree ih
  | group delimiter opening closing inside _ _ ih => exact .group delimiter opening closing inside ih
  | node noAttribute inside _ _ ih => exact .node noAttribute inside ih

end Thins

theorem Strips.thins {loses : Bool} {trees others : List Tree} (h : Strips loses trees others) :
    Thins trees others := by
  induction h with
  | nil => exact .nil
  | removed mapper _ ih => exact .left_out mapper ih
  | attr inner parts _ _ ih => exact .kept _ ih
  | token t span _ ih => exact .kept _ ih
  | group delimiter opening closing _ _ inside ih => exact .group delimiter opening closing inside ih
  | item kind _ _ inside ih => exact .node nofun inside ih
  | node _ noAttribute _ _ inside ih => exact .node noAttribute inside ih

theorem thins_withoutMappersAll (trees : List Tree) : Thins trees (withoutMappersAll trees) :=
  (strips_remaining trees false).thins

mutual

theorem thins_withoutInner : ∀ tree : Tree, Thins [tree] [withoutInner tree]
  | .token .. | .group .. => thins_withoutMappersAll [_]
  | .node role parts => by
    have body := thins_withoutInnerBody parts
    unfold withoutInner
    split
    · next same =>
      cases same
      exact .node nofun body .nil
    · next same =>
      cases same
      exact .node nofun (thins_withoutMappersAll _) .nil
    · exact thins_withoutMappersAll [_]

theorem thins_withoutInnerBody : ∀ parts : List Tree, Thins parts (withoutInnerBody parts)
  | [] => .nil
  | .group .brace opening closing inner :: rest => by
    rw [withoutInnerBody]
    exact .group .brace opening closing (thins_withoutInnerAll inner) (thins_withoutInnerBody rest)
  | .group .paren .. :: rest | .group .bracket .. :: rest | .token .. :: rest | .node .. :: rest => by
    rw [withoutInnerBody]
    · exact (thins_withoutMappersAll [_]).append (thins_withoutInnerBody rest)
    · nofun

/-- Items are left with all but mapping attributes. -/
theorem thins_withoutInnerAll : ∀ items : List Tree, Thins items (withoutInnerAll items)
  | [] => .nil
  | tree :: rest => by
    rw [withoutInnerAll]
    exact (thins_withoutInner tree).append (thins_withoutInnerAll rest)

end

/-! ## What is removed from scanned items -/

section Accounting

variable {item : Tree} {items : List Tree} {home : Home}

end Accounting

/-! ## What a scan finds without them -/

section Scan

variable {home : Home} {kind : ItemKind}

end Scan

end RecordMapper
