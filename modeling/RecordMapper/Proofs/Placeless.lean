/-
The text of a tree is that of its tokens, and what a path names is told by its names. So the text of a
type by full identities does not depend on where the type is written.
-/
import RecordMapper.Proofs.Respelling

namespace RecordMapper

open Code

namespace Code.Tree

mutual

theorem spaced_unplaced : ∀ tree : Tree, spaced tree.unplaced = spaced tree
  | token .. => rfl
  | group delimiter _ _ inner => by simp only [unplaced, spaced, spacedOf_unplacedAll inner]
  | node _ parts => spacedOf_unplacedAll parts

theorem spacedOf_unplacedAll : ∀ trees : List Tree, spacedOf (unplacedAll trees) = spacedOf trees
  | [] => rfl
  | tree :: rest => by
    rw [unplacedAll, spacedOf, spacedOf, spaced_unplaced tree, spacedOf_unplacedAll rest]

end

theorem text_eq_of_unplaced {tree other : Tree} (h : tree.unplaced = other.unplaced) :
    tree.text = other.text := by
  have spacedOf_one (tree : Tree) : spacedOf [tree] = spacedOf [tree.unplaced] :=
    (spacedOf_unplacedAll [tree]).symm
  unfold text textOf
  rw [spacedOf_one tree, h, ← spacedOf_one other]

theorem lastArguments_eq_of_unplaced {path other : Tree} (h : path.unplaced = other.unplaced) :
    unplacedAll path.lastArguments = unplacedAll other.lastArguments := by
  rw [unplacedAll_eq_map, ← goesDown_unplaced.lastArguments path, h, goesDown_unplaced.lastArguments,
    unplacedAll_eq_map]

end Code.Tree

/-- Two replacements that do not look at places, and answer alike. -/
def ReplaceAlike (left right : Tree → Option Tree) : Prop :=
  ∀ path other, path.unplaced = other.unplaced →
    (left path).map Tree.unplaced = (right other).map Tree.unplaced

section Replace

variable {left right : Tree → Option Tree}

mutual

theorem unplaced_mapTypePaths (h : ReplaceAlike left right) :
    ∀ tree : Tree, (mapTypePaths left tree).unplaced = (mapTypePaths right tree.unplaced).unplaced
  | .token .. => rfl
  | .group delimiter _ _ inner => by
    simp only [mapTypePaths, Tree.unplaced, unplacedAll_mapTypePathsAll h inner]
  | .node role parts => by
    have inside := unplacedAll_mapTypePathsAll h parts
    -- a replacement is asked only about the lone path of a type, and sees it with its parts replaced
    by_cases lone : role = .typePath ∧ parts.length = 1
    · obtain ⟨rfl, one⟩ := lone
      obtain ⟨path, rfl⟩ := List.length_eq_one_iff.mp one
      have changed : (mapTypePaths left path).unplaced = (mapTypePaths right path.unplaced).unplaced := by
        simpa [mapTypePathsAll, Tree.unplacedAll] using inside
      simp only [Tree.unplaced, Tree.unplacedAll, mapTypePaths_typePath]
      rw [← Option.getD_map Tree.unplaced, h _ _ changed, changed, Option.getD_map]
    · rw [Tree.unplaced, mapTypePaths_node left fun hr hp => lone ⟨hr, hp⟩,
        mapTypePaths_node right, Tree.unplaced, Tree.unplaced, inside]
      rw [Tree.unplacedAll_eq_map, List.length_map]
      exact fun hr hp => lone ⟨hr, hp⟩

theorem unplacedAll_mapTypePathsAll (h : ReplaceAlike left right) :
    ∀ trees : List Tree, Tree.unplacedAll (mapTypePathsAll left trees) =
      Tree.unplacedAll (mapTypePathsAll right (Tree.unplacedAll trees))
  | [] => rfl
  | tree :: rest => by
    simp only [mapTypePathsAll, Tree.unplacedAll, unplaced_mapTypePaths h tree,
      unplacedAll_mapTypePathsAll h rest]

end

end Replace

theorem resolve_eq_of_unplaced {home : Home} {path other : Tree}
    (h : path.unplaced = other.unplaced) : resolve home path = resolve home other :=
  resolve_congr (Tree.pathNames_eq_of_unplaced h) (Tree.leadingColons?_eq_of_unplaced h)

/-- Two scans that declare the same identities. -/
def SameIdentities (declarations others : List Declaration) : Prop :=
  ∀ identity, (lookUp declarations identity).isSome = (lookUp others identity).isSome

theorem qualifiedPath?_alike {declarations others : List Declaration} {home : Home}
    (same : SameIdentities declarations others) :
    ReplaceAlike (qualifiedPath? declarations home) (qualifiedPath? others home) := by
  intro path other h
  unfold qualifiedPath?
  rw [resolve_eq_of_unplaced h]
  cases resolve home other with
  | none => rfl
  | some identity =>
    have found := same identity
    cases declared : lookUp declarations identity with
    | none =>
      rw [declared, Option.isSome_none, eq_comm, Option.isSome_eq_false_iff, Option.isNone_iff_eq_none] at found
      simp only [declared, found]
    | some declaration =>
      rw [declared, Option.isSome_some, eq_comm, Option.isSome_iff_exists] at found
      obtain ⟨declaration', found⟩ := found
      simp only [declared, found, Option.map_map, Function.comp_def, Tree.withLastArguments_unplaced,
        Tree.lastArguments_eq_of_unplaced h]

/-- The text of a type by full identities does not depend on places. -/
theorem text_qualifyType_eq {declarations others : List Declaration} {home : Home}
    {type other : Tree} (same : SameIdentities declarations others) (h : type.unplaced = other.unplaced) :
    (qualifyType declarations home type).text = (qualifyType others home other).text := by
  refine Tree.text_eq_of_unplaced ?_
  unfold qualifyType
  rw [unplaced_mapTypePaths (qualifiedPath?_alike same) type, h,
    ← unplaced_mapTypePaths (qualifiedPath?_alike fun _ => rfl) other]

end RecordMapper
