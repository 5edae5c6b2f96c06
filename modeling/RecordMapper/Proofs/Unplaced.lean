/-
Two source texts never give equal trees, because every token carries its place. `unplaced` forgets the
places, and what a tree says about names and paths does not depend on them.
-/
import RecordMapper.Code.Grammar
import RecordMapper.Code.Path
import Mathlib.Data.List.Basic

namespace RecordMapper.Code.Tree

mutual

/-- A tree with no places. -/
def unplaced : Tree → Tree
  | token t _ => token t .none
  | group delimiter _ _ inner => group delimiter .none .none (unplacedAll inner)
  | node role parts => node role (unplacedAll parts)

/-- Several trees with no places. -/
def unplacedAll : List Tree → List Tree
  | [] => []
  | tree :: rest => unplaced tree :: unplacedAll rest

end

/-- The text of a type reads back as that type. -/
def ReadsBack (type : Tree) : Prop :=
  (typeOfText? type.text).map unplaced = some type.unplaced

/-- Types that read back are told apart by their texts. -/
theorem ReadsBack.unplaced_eq {type other : Tree} (ht : type.ReadsBack) (ho : other.ReadsBack)
    (same : type.text = other.text) : type.unplaced = other.unplaced := by
  unfold ReadsBack at ht ho
  rw [same, ho, Option.some.injEq] at ht
  exact ht.symm

theorem unplacedAll_eq_map (trees : List Tree) : unplacedAll trees = trees.map unplaced := by
  induction trees with
  | nil => rfl
  | cons tree trees ih => rw [unplacedAll, ih, List.map_cons]

theorem sizeOfAll_append (front back : List Tree) :
    sizeOfAll (front ++ back) = sizeOfAll front + sizeOfAll back := by
  induction front with
  | nil => simp [sizeOfAll]
  | cons tree front ih =>
    rw [List.cons_append, sizeOfAll, sizeOfAll, ih]
    omega

theorem unplacedAll_append (front back : List Tree) :
    unplacedAll (front ++ back) = unplacedAll front ++ unplacedAll back := by
  simp only [unplacedAll_eq_map, List.map_append]

/-! ## Deciding equality -/

mutual

/-- Whether two trees are the same. -/
def same : Tree → Tree → Bool
  | token t p, token u q => t = u && p = q
  | group d p q xs, group e r s ys => d = e && p = r && q = s && sameAll xs ys
  | node r xs, node s ys => r = s && sameAll xs ys
  | _, _ => false

/-- Whether two lists of trees are the same. -/
def sameAll : List Tree → List Tree → Bool
  | [], [] => true
  | x :: xs, y :: ys => same x y && sameAll xs ys
  | _, _ => false

end

mutual

theorem same_iff : ∀ x y : Tree, same x y = true ↔ x = y
  | token t p, y => by cases y <;> simp [same]
  | group d p q xs, y => by
    cases y with
    | group e r s ys => simp [same, sameAll_iff xs ys, and_assoc]
    | _ => simp [same]
  | node r xs, y => by
    cases y with
    | node s ys => simp [same, sameAll_iff xs ys]
    | _ => simp [same]

theorem sameAll_iff : ∀ xs ys : List Tree, sameAll xs ys = true ↔ xs = ys
  | [], ys => by cases ys <;> simp [sameAll]
  | x :: xs, ys => by
    cases ys with
    | nil => simp [sameAll]
    | cons y ys => simp [sameAll, same_iff x y, sameAll_iff xs ys]

end

instance : DecidableEq Tree := fun x y => decidable_of_iff (same x y = true) (same_iff x y)

instance (type : Tree) : Decidable type.ReadsBack :=
  inferInstanceAs (Decidable (_ = _))

/-! ## Paths -/

/-- The arguments of all segments of a path. -/
def allArguments (path : Tree) : List Tree :=
  (segments path).flatMap segmentArguments

/-- A change that goes down into segments and paths, and leaves the tokens and the roles of nodes as
they are. -/
structure GoesDown (change : Tree → Tree) : Prop where
  token (t : Token) (place : Span) : ∃ other, change (.token t place) = .token t other
  group (delimiter : Delimiter) (opening closing : Span) (inner : List Tree) :
    ∃ first last parts, change (.group delimiter opening closing inner) =
      .group delimiter first last parts
  node (role : Role) (parts : List Tree) : ∃ others, change (.node role parts) = .node role others
  segment (parts : List Tree) : change (.node .segment parts) = .node .segment (parts.map change)
  path (parts : List Tree) : change (.node .path parts) = .node .path (parts.map change)

/-- The token that a list of trees starts with. -/
def firstToken? : List Tree → Option Token
  | token t _ :: _ => some t
  | _ => none

section Off

variable {tree : Tree}

theorem segmentName?_eq_none (h : ∀ parts, tree ≠ node .segment parts) : segmentName? tree = none := by
  unfold segmentName?
  split
  · exact absurd rfl (h _)
  · rfl

theorem segmentArguments_eq_nil (h : ∀ parts, tree ≠ node .segment parts) :
    segmentArguments tree = [] := by
  unfold segmentArguments
  split
  · exact absurd rfl (h _)
  · rfl

theorem segments_eq_nil (h : ∀ parts, tree ≠ node .path parts) : segments tree = [] := by
  unfold segments
  split
  · exact absurd rfl (h _)
  · rfl

theorem leadingColons?_eq_none (h : ∀ parts, tree ≠ node .path parts) : leadingColons? tree = none := by
  unfold leadingColons?
  split
  · exact absurd rfl (h _)
  · rfl

end Off

theorem segmentName?_segment (parts : List Tree) :
    segmentName? (node .segment parts) =
      match firstToken? parts with
      | some (.word name) => some name
      | _ => none := by
  cases parts with
  | nil => rfl
  | cons part parts =>
    cases part with
    | token t place => cases t <;> rfl
    | _ => rfl

theorem leadingColons?_path (parts : List Tree) :
    (leadingColons? (node .path parts)).isSome =
      match firstToken? parts with
      | some (.punct text _) => decide (text = "::")
      | _ => false := by
  cases parts with
  | nil => rfl
  | cons part parts =>
    cases part with
    | token t place =>
      cases t with
      | punct text joint =>
        by_cases colons : text = "::"
        · subst colons
          rfl
        · simp [leadingColons?, firstToken?, colons]
      | _ => rfl
    | _ => rfl

namespace GoesDown

variable {change : Tree → Tree}

theorem firstToken?_map (h : GoesDown change) (parts : List Tree) :
    firstToken? (parts.map change) = firstToken? parts := by
  cases parts with
  | nil => rfl
  | cons part parts =>
    cases part with
    | token t place =>
      obtain ⟨other, ht⟩ := h.token t place
      rw [List.map_cons, ht]
      rfl
    | group delimiter opening closing inner =>
      obtain ⟨first, last, others, hg⟩ := h.group delimiter opening closing inner
      rw [List.map_cons, hg]
      rfl
    | node role inner =>
      obtain ⟨others, hn⟩ := h.node role inner
      rw [List.map_cons, hn]
      rfl

/-- A change makes no node of a role and takes none away. -/
theorem role_or (h : GoesDown change) (role : Role) (tree : Tree) :
    (∃ parts, tree = Tree.node role parts) ∨
      (∀ parts, tree ≠ Tree.node role parts) ∧ ∀ parts, change tree ≠ Tree.node role parts := by
  cases tree with
  | token t place =>
    obtain ⟨place', ht⟩ := h.token t place
    exact .inr ⟨by simp, by simp [ht]⟩
  | group delimiter opening closing inner =>
    obtain ⟨first, last, parts, hg⟩ := h.group delimiter opening closing inner
    exact .inr ⟨by simp, by simp [hg]⟩
  | node role' parts =>
    by_cases hr : role' = role
    · subst hr
      exact .inl ⟨parts, rfl⟩
    · obtain ⟨others, hn⟩ := h.node role' parts
      exact .inr ⟨by simp [hr], by simp [hn, hr]⟩

theorem segmentName? (h : GoesDown change) (tree : Tree) :
    (change tree).segmentName? = tree.segmentName? := by
  rcases h.role_or .segment tree with ⟨parts, rfl⟩ | ⟨off, off'⟩
  · rw [h.segment, segmentName?_segment, segmentName?_segment, h.firstToken?_map]
  · rw [segmentName?_eq_none off, segmentName?_eq_none off']

theorem segmentArguments (h : GoesDown change) (tree : Tree) :
    (change tree).segmentArguments = tree.segmentArguments.map change := by
  rcases h.role_or .segment tree with ⟨parts, rfl⟩ | ⟨off, off'⟩
  · rw [h.segment]
    cases parts <;> rfl
  · rw [segmentArguments_eq_nil off, segmentArguments_eq_nil off', List.map_nil]

theorem segments (h : GoesDown change) (tree : Tree) :
    (change tree).segments = tree.segments.map change := by
  rcases h.role_or .path tree with ⟨parts, rfl⟩ | ⟨off, off'⟩
  · rw [h.path]
    simp only [Tree.segments, List.filter_map]
    congr 1
    exact List.filter_congr fun part _ => by simp [h.segmentName?]
  · rw [segments_eq_nil off, segments_eq_nil off', List.map_nil]

theorem leadingColons? (h : GoesDown change) (tree : Tree) :
    (change tree).leadingColons?.isSome = tree.leadingColons?.isSome := by
  rcases h.role_or .path tree with ⟨parts, rfl⟩ | ⟨off, off'⟩
  · rw [h.path, leadingColons?_path, leadingColons?_path, h.firstToken?_map]
  · rw [leadingColons?_eq_none off, leadingColons?_eq_none off']

theorem pathNames (h : GoesDown change) (path : Tree) :
    (change path).pathNames = path.pathNames := by
  unfold Tree.pathNames
  rw [h.segments, List.filterMap_map]
  exact List.filterMap_congr fun segment _ => h.segmentName? segment

theorem lastArguments (h : GoesDown change) (path : Tree) :
    (change path).lastArguments = path.lastArguments.map change := by
  unfold Tree.lastArguments
  rw [h.segments, List.getLast?_map]
  cases (Tree.segments path).getLast? with
  | none => rfl
  | some segment => exact h.segmentArguments segment

theorem allArguments (h : GoesDown change) (path : Tree) :
    (change path).allArguments = path.allArguments.map change := by
  unfold Tree.allArguments
  rw [h.segments, List.flatMap_map, List.map_flatMap]
  exact List.flatMap_congr fun segment _ => h.segmentArguments segment

end GoesDown

theorem goesDown_unplaced : GoesDown unplaced where
  token _ _ := ⟨_, rfl⟩
  group _ _ _ _ := ⟨_, _, _, rfl⟩
  node _ _ := ⟨_, rfl⟩
  segment parts := congrArg (node .segment) (unplacedAll_eq_map parts)
  path parts := congrArg (node .path) (unplacedAll_eq_map parts)

section Equal

variable {path other : Tree}

theorem pathNames_eq_of_unplaced (h : path.unplaced = other.unplaced) :
    path.pathNames = other.pathNames := by
  rw [← goesDown_unplaced.pathNames path, h, goesDown_unplaced.pathNames]

theorem leadingColons?_eq_of_unplaced (h : path.unplaced = other.unplaced) :
    path.leadingColons?.isSome = other.leadingColons?.isSome := by
  rw [← goesDown_unplaced.leadingColons? path, h, goesDown_unplaced.leadingColons?]

theorem allArguments_eq_of_unplaced (h : path.unplaced = other.unplaced) :
    unplacedAll path.allArguments = unplacedAll other.allArguments := by
  rw [unplacedAll_eq_map, ← goesDown_unplaced.allArguments path, h,
    goesDown_unplaced.allArguments, unplacedAll_eq_map]

end Equal

end RecordMapper.Code.Tree
