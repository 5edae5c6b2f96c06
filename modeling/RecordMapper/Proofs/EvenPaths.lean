/-
The same items scanned at the top and below a root give every written type two texts. At the top a path
that names a declaration may be spelled as one that was left alone; below a root that starts at `crate` it
cannot. So types that have one text below the root have one text at the top, and the other way round
exactly if paths that correspond name a declaration both or neither.
-/
import RecordMapper.Proofs.Matching
import RecordMapper.Proofs.Placeless
import RecordMapper.Proofs.Rerooting

namespace RecordMapper

open Code

/-! ## The paths in a type -/

namespace Code.Tree

/-- The path of a type that is a path alone. -/
def lonePath? : Role → List Tree → Option Tree
  | .typePath, [path] => some path
  | _, _ => none

mutual

/-- The paths that are types by themselves, at every depth. -/
def typePaths : Tree → List Tree
  | token .. => []
  | group _ _ _ inner => typePathsOf inner
  | node role parts => (lonePath? role parts).toList ++ typePathsOf parts

/-- The paths that are types by themselves in several trees. -/
def typePathsOf : List Tree → List Tree
  | [] => []
  | tree :: rest => typePaths tree ++ typePathsOf rest

end

theorem typePathsOf_eq_flatMap (trees : List Tree) : typePathsOf trees = trees.flatMap typePaths := by
  induction trees with
  | nil => rfl
  | cons tree trees ih => rw [typePathsOf, ih, List.flatMap_cons]

theorem typePathsOf_singleton (tree : Tree) : typePathsOf [tree] = tree.typePaths := by
  rw [typePathsOf_eq_flatMap, List.flatMap_singleton]

theorem typePathsOf_mono {trees others : List Tree} (h : trees ⊆ others) :
    typePathsOf trees ⊆ typePathsOf others := by
  rw [typePathsOf_eq_flatMap, typePathsOf_eq_flatMap]
  intro path hm
  obtain ⟨tree, inside, found⟩ := List.mem_flatMap.mp hm
  exact List.mem_flatMap.mpr ⟨tree, h inside, found⟩

theorem typePathsOf_parts (role : Role) (parts : List Tree) :
    typePathsOf parts ⊆ typePaths (node role parts) :=
  List.subset_append_right _ _

theorem typePathsOf_segmentArguments (segment : Tree) :
    typePathsOf segment.segmentArguments ⊆ segment.typePaths := by
  unfold segmentArguments
  split
  · exact List.Subset.trans (typePathsOf_mono (List.subset_cons_self _ _)) (typePathsOf_parts _ _)
  · exact List.nil_subset _

theorem typePathsOf_segments (path : Tree) : typePathsOf path.segments ⊆ path.typePaths := by
  unfold segments
  split
  · exact List.Subset.trans (typePathsOf_mono (List.filter_subset_self _)) (typePathsOf_parts _ _)
  · exact List.nil_subset _

theorem typePathsOf_lastArguments (path : Tree) :
    typePathsOf path.lastArguments ⊆ typePathsOf [path] := by
  rw [typePathsOf_singleton]
  unfold lastArguments
  cases h : path.segments.getLast? with
  | none => exact List.nil_subset _
  | some segment =>
    intro inner hm
    refine typePathsOf_segments path ?_
    rw [typePathsOf_eq_flatMap]
    exact List.mem_flatMap.mpr ⟨segment, List.mem_of_getLast? h, typePathsOf_segmentArguments segment hm⟩

/-- What holds of the paths in a type that is a path alone and in the trees behind it. -/
theorem forall_mem_typePathsOf_path {P : Tree → Prop} {path : Tree} {rest : List Tree} :
    (∀ inner ∈ typePathsOf (node .typePath [path] :: rest), P inner) ↔
      P path ∧ (∀ inner ∈ typePathsOf [path], P inner) ∧ ∀ inner ∈ typePathsOf rest, P inner := by
  rw [typePathsOf, typePaths, lonePath?, List.forall_mem_append, Option.toList_some, List.singleton_append,
    List.forall_mem_cons, and_assoc]

end Code.Tree

/-! ## Paths that correspond -/

/-- Paths of two lists of trees that correspond name a declaration both or neither, which `left` and
`right` tell. Of paths that name declarations only the last arguments are looked into, since the rest is
replaced. -/
inductive Evenly (left right : Tree → Bool) : List Tree → List Tree → Prop
  | nil : Evenly left right [] []
  | token (t : Token) (place other : Span) {rest others : List Tree} :
    Evenly left right rest others →
      Evenly left right (.token t place :: rest) (.token t other :: others)
  | group (delimiter : Delimiter) (opening closing opening' closing' : Span)
    {inner inner' rest others : List Tree} :
    Evenly left right inner inner' → Evenly left right rest others →
      Evenly left right (.group delimiter opening closing inner :: rest)
        (.group delimiter opening' closing' inner' :: others)
  | node (role : Role) {parts parts' rest others : List Tree} (h : role = .typePath → parts.length ≠ 1) :
    Evenly left right parts parts' → Evenly left right rest others →
      Evenly left right (.node role parts :: rest) (.node role parts' :: others)
  | named {path other : Tree} {rest others : List Tree} :
    left path = true → right other = true → Evenly left right path.lastArguments other.lastArguments →
      Evenly left right rest others →
        Evenly left right (.node .typePath [path] :: rest) (.node .typePath [other] :: others)
  | free {path other : Tree} {rest others : List Tree} :
    left path = false → right other = false → Evenly left right [path] [other] →
      Evenly left right rest others →
        Evenly left right (.node .typePath [path] :: rest) (.node .typePath [other] :: others)

namespace Evenly

variable {left right left' right' : Tree → Bool} {trees others : List Tree}

theorem length_eq (h : Evenly left right trees others) : trees.length = others.length := by
  induction h with
  | nil => rfl
  | _ => simp only [List.length_cons, *]

/-- Only what is said of the paths in the trees counts. -/
theorem congr (h : Evenly left right trees others)
    (same : ∀ path ∈ Tree.typePathsOf trees, left path = left' path)
    (same' : ∀ path ∈ Tree.typePathsOf others, right path = right' path) :
    Evenly left' right' trees others := by
  induction h with
  | nil => exact .nil
  | token t place other _ ih => exact .token t place other (ih same same')
  | group delimiter opening closing opening' closing' _ _ ihInside ihRest =>
    simp only [Tree.typePathsOf, Tree.typePaths, List.forall_mem_append] at same same'
    exact .group _ _ _ _ _ (ihInside same.1 same'.1) (ihRest same.2 same'.2)
  | node role notLone _ _ ihInside ihRest =>
    simp only [Tree.typePathsOf, Tree.typePaths, List.forall_mem_append] at same same'
    exact .node role notLone (ihInside same.1.2 same'.1.2) (ihRest same.2 same'.2)
  | @named path other _ _ hl hr _ _ ihInside ihRest =>
    rw [Tree.forall_mem_typePathsOf_path] at same same'
    refine .named (same.1 ▸ hl) (same'.1 ▸ hr) (ihInside ?_ ?_) (ihRest same.2.2 same'.2.2)
    · exact fun inner hm => same.2.1 inner (path.typePathsOf_lastArguments hm)
    · exact fun inner hm => same'.2.1 inner (other.typePathsOf_lastArguments hm)
  | free hl hr _ _ ihInside ihRest =>
    rw [Tree.forall_mem_typePathsOf_path] at same same'
    exact .free (same.1 ▸ hl) (same'.1 ▸ hr) (ihInside same.2.1 same'.2.1) (ihRest same.2.2 same'.2.2)

end Evenly

/-! ## By full identities -/

/-- Several trees by full identities, without places. -/
def qualified (declarations : List Declaration) (home : Home) (trees : List Tree) : List Tree :=
  Tree.unplacedAll (mapTypePathsAll (qualifiedPath? declarations home) trees)

section Qualified

variable {declarations : List Declaration} {home home' : Home} {trees others : List Tree}

theorem qualified_eq_map :
    qualified declarations home trees =
      trees.map fun tree => (qualifyType declarations home tree).unplaced := by
  rw [qualified, Tree.unplacedAll_eq_map, mapTypePathsAll_eq_map, List.map_map]
  rfl

theorem qualified_cons_iff {tree other : Tree} :
    qualified declarations home (tree :: trees) = qualified declarations home' (other :: others) ↔
      (qualifyType declarations home tree).unplaced = (qualifyType declarations home' other).unplaced ∧
        qualified declarations home trees = qualified declarations home' others := by
  rw [qualified_eq_map, qualified_eq_map, qualified_eq_map, qualified_eq_map, List.map_cons,
    List.map_cons, List.cons.injEq]

theorem qualifyType_group_iff {delimiter : Delimiter} {opening closing opening' closing' : Span} :
    (qualifyType declarations home (.group delimiter opening closing trees)).unplaced =
        (qualifyType declarations home' (.group delimiter opening' closing' others)).unplaced ↔
      qualified declarations home trees = qualified declarations home' others := by
  simp only [qualifyType, mapTypePaths, Tree.unplaced, Tree.group.injEq, true_and, qualified]

theorem qualifyType_node_iff {role : Role} (h : role = .typePath → trees.length ≠ 1)
    (h' : role = .typePath → others.length ≠ 1) :
    (qualifyType declarations home (.node role trees)).unplaced =
        (qualifyType declarations home' (.node role others)).unplaced ↔
      qualified declarations home trees = qualified declarations home' others := by
  rw [qualifyType, mapTypePaths_node _ h, qualifyType, mapTypePaths_node _ h']
  simp only [Tree.unplaced, Tree.node.injEq, true_and, qualified]

theorem qualifyType_path_iff {path other : Tree} :
    (qualifyType declarations home (.node .typePath [path])).unplaced =
        (qualifyType declarations home' (.node .typePath [other])).unplaced ↔
      (respelled declarations home path).unplaced = (respelled declarations home' other).unplaced := by
  rw [qualifyType, mapTypePaths_typePath, qualifyType, mapTypePaths_typePath]
  simp only [Tree.unplaced, Tree.unplacedAll, Tree.node.injEq, List.cons.injEq, true_and, and_true]
  rfl

/-- Paths that are left alone are spelled alike exactly if they are written alike. -/
theorem respelled_eq_iff_of_free {path other : Tree} (hp : namedIn declarations home path = none)
    (hq : namedIn declarations home' other = none) :
    (respelled declarations home path).unplaced = (respelled declarations home' other).unplaced ↔
      qualified declarations home [path] = qualified declarations home' [other] := by
  rw [respelled_of_not_named hp, respelled_of_not_named hq, qualified_cons_iff]
  exact (and_iff_left rfl).symm

/-- Paths that name declarations are spelled alike exactly if they name one declaration and their last
arguments are written alike. -/
theorem respelled_eq_iff_of_named (wellNamed : ∀ declaration ∈ declarations, declaration.WellNamed)
    {path other : Tree} {identity identity' : Identity}
    (hp : namedIn declarations home path = some identity)
    (hq : namedIn declarations home' other = some identity') :
    (respelled declarations home path).unplaced = (respelled declarations home' other).unplaced ↔
      identity = identity' ∧
        qualified declarations home path.lastArguments =
          qualified declarations home' other.lastArguments := by
  obtain ⟨name, rest, rfl, words, -, spelled⟩ := respelled_of_named wellNamed hp
  obtain ⟨name', rest', rfl, words', -, spelled'⟩ := respelled_of_named wellNamed hq
  rw [spelled, spelled']
  constructor
  · intro same
    have names : name :: rest = name' :: rest' := by
      rw [← Tree.pathNames_spelled name rest, same, Tree.pathNames_spelled]
    have arguments := congrArg Tree.allArguments same
    rw [Tree.allArguments_spelled, Tree.allArguments_spelled] at arguments
    exact ⟨by rw [names], arguments⟩
  · rintro ⟨same, arguments⟩
    obtain ⟨rfl, rfl⟩ := List.cons.inj (ofSegments_inj words words' same)
    exact congrArg _ arguments

/-- Paths that are spelled alike, both respelled or both left alone, are even where what is looked into is:
their last arguments in the one case, all of them in the other. -/
theorem evenly_of_alike (wellNamed : ∀ declaration ∈ declarations, declaration.WellNamed)
    {path other : Tree}
    (alike : (respelled declarations home path).unplaced = (respelled declarations home' other).unplaced)
    (own : isRespelled declarations home path = isRespelled declarations home' other)
    (arguments : qualified declarations home path.lastArguments =
        qualified declarations home' other.lastArguments →
      Evenly (isRespelled declarations home) (isRespelled declarations home') path.lastArguments
        other.lastArguments)
    (whole : qualified declarations home [path] = qualified declarations home' [other] →
      Evenly (isRespelled declarations home) (isRespelled declarations home') [path] [other])
    (rest : Evenly (isRespelled declarations home) (isRespelled declarations home') trees others) :
    Evenly (isRespelled declarations home) (isRespelled declarations home')
      (.node .typePath [path] :: trees) (.node .typePath [other] :: others) := by
  cases left : isRespelled declarations home path with
  | true =>
    have right := own.symm.trans left
    have named := left
    have named' := right
    rw [isRespelled_eq wellNamed, Option.isSome_iff_exists] at named named'
    obtain ⟨identity, hp⟩ := named
    obtain ⟨identity', hq⟩ := named'
    exact .named left right (arguments ((respelled_eq_iff_of_named wellNamed hp hq).mp alike).2) rest
  | false =>
    have right := own.symm.trans left
    have free := left
    have free' := right
    rw [isRespelled_eq wellNamed, Option.isSome_eq_false_iff, Option.isNone_iff_eq_none] at free free'
    exact .free left right (whole ((respelled_eq_iff_of_free free free').mp alike)) rest

/-- Trees with one spelling by full identities are even where paths that are spelled alike are both
respelled or both left alone. -/
theorem evenly_of_qualified (wellNamed : ∀ declaration ∈ declarations, declaration.WellNamed)
    (even : ∀ path ∈ Tree.typePathsOf trees, ∀ other ∈ Tree.typePathsOf others,
      (respelled declarations home path).unplaced = (respelled declarations home' other).unplaced →
        isRespelled declarations home path = isRespelled declarations home' other)
    (same : qualified declarations home trees = qualified declarations home' others) :
    Evenly (isRespelled declarations home) (isRespelled declarations home') trees others := by
  -- the last arguments of a path are none of its parts, so the induction is on the size
  induction bound : Tree.sizeOfAll trees using Nat.strong_induction_on generalizing trees others with
  | _ bound ih =>
    cases trees with
    | nil =>
      cases others with
      | nil => exact .nil
      | cons tree' others => cases same
    | cons tree trees =>
      cases others with
      | nil => cases same
      | cons tree' others =>
        obtain ⟨head, tail⟩ := qualified_cons_iff.mp same
        clear same
        have shape := sameChanged_of_eq head
        have positive : 0 < tree.size := by cases tree <;> simp [Tree.size]
        simp only [Tree.typePathsOf, List.forall_mem_append] at even
        rw [Tree.sizeOfAll] at bound
        have rest := ih _ (by omega) (fun path hm => (even.2 path hm).2) tail rfl
        have even := fun path hm => (even.1 path hm).1
        cases shape with
        | token t place place' => exact .token t place place' rest
        | group delimiter opening closing opening' closing' same =>
          rw [Tree.size] at bound
          exact .group _ _ _ _ _ (ih _ (by omega) even same rfl) rest
        | @node role parts parts' notLone same =>
          rw [Tree.size] at bound
          have inside := ih _ (by omega) (fun path hm other hm' =>
            even path (Tree.typePathsOf_parts role parts hm) other
              (Tree.typePathsOf_parts role parts' hm')) same rfl
          exact .node role notLone inside rest
        | path path other same =>
          simp only [Tree.size, Tree.sizeOfAll] at bound
          have alike : (respelled declarations home path).unplaced =
              (respelled declarations home' other).unplaced := same
          have own := even path List.mem_cons_self other List.mem_cons_self alike
          have below := fun inner hm inner' hm' =>
            even inner (List.mem_cons_of_mem _ hm) inner' (List.mem_cons_of_mem _ hm')
          have size := path.sizeOfAll_lastArguments_le
          refine evenly_of_alike wellNamed alike own (fun same => ih _ (by omega) ?_ same rfl)
            (fun same => ih _ ?_ below same rfl) rest
          · exact fun inner hm inner' hm' => below inner (path.typePathsOf_lastArguments hm) inner'
              (other.typePathsOf_lastArguments hm')
          · simp only [Tree.sizeOfAll]
            omega

end Qualified

/-! ## Below a root -/

section Below

variable {declarations : List Declaration} {root : List String} {home home' : Home} {trees others : List Tree}

theorem isRespelled_root (hroot : IsRoot root) (words : ∀ name ∈ root, IsPathWord name)
    (wellNamed : ∀ declaration ∈ declarations, declaration.WellNamed) {path : Tree}
    (inside : StaysInside home path) :
    isRespelled (declarations.map (Declaration.under root)) (home.under root) path =
      isRespelled declarations home path := by
  have wellNamed' := forall_wellNamed_under hroot words wellNamed
  rw [isRespelled_eq wellNamed, isRespelled_eq wellNamed', namedIn_root hroot inside, Option.isSome_map]

/-- Even trees have one spelling at the top exactly if they have one below a root. -/
theorem qualified_root_iff_of_evenly (hroot : IsRoot root) (words : ∀ name ∈ root, IsPathWord name)
    (wellNamed : ∀ declaration ∈ declarations, declaration.WellNamed)
    (inside : ∀ path ∈ Tree.typePathsOf trees, StaysInside home path)
    (inside' : ∀ path ∈ Tree.typePathsOf others, StaysInside home' path)
    (h : Evenly (isRespelled declarations home) (isRespelled declarations home') trees others) :
    qualified (declarations.map (Declaration.under root)) (home.under root) trees =
        qualified (declarations.map (Declaration.under root)) (home'.under root) others ↔
      qualified declarations home trees = qualified declarations home' others := by
  have wellNamed' := forall_wellNamed_under hroot words wellNamed
  induction h with
  | nil => exact iff_of_true rfl rfl
  | token t place other _ ih =>
    rw [qualified_cons_iff, qualified_cons_iff]
    exact and_congr Iff.rfl (ih inside inside')
  | group delimiter opening closing opening' closing' _ _ ihInside ihRest =>
    simp only [Tree.typePathsOf, Tree.typePaths, List.forall_mem_append] at inside inside'
    rw [qualified_cons_iff, qualified_cons_iff, qualifyType_group_iff, qualifyType_group_iff]
    exact and_congr (ihInside inside.1 inside'.1) (ihRest inside.2 inside'.2)
  | node role notLone parts _ ihInside ihRest =>
    have notLone' := parts.length_eq ▸ notLone
    simp only [Tree.typePathsOf, Tree.typePaths, List.forall_mem_append] at inside inside'
    rw [qualified_cons_iff, qualified_cons_iff, qualifyType_node_iff notLone notLone',
      qualifyType_node_iff notLone notLone']
    exact and_congr (ihInside inside.1.2 inside'.1.2) (ihRest inside.2 inside'.2)
  | @named path other _ _ hl hr _ _ ihInside ihRest =>
    rw [Tree.forall_mem_typePathsOf_path] at inside inside'
    rw [isRespelled_eq wellNamed, Option.isSome_iff_exists] at hl hr
    obtain ⟨identity, hp⟩ := hl
    obtain ⟨identity', hq⟩ := hr
    have hp' := namedIn_root hroot inside.1 declarations
    have hq' := namedIn_root hroot inside'.1 declarations
    rw [hp, Option.map_some] at hp'
    rw [hq, Option.map_some] at hq'
    rw [qualified_cons_iff, qualified_cons_iff, qualifyType_path_iff, qualifyType_path_iff,
      respelled_eq_iff_of_named wellNamed hp hq, respelled_eq_iff_of_named wellNamed' hp' hq', under_inj]
    refine and_congr (and_congr Iff.rfl (ihInside ?_ ?_)) (ihRest inside.2.2 inside'.2.2)
    · exact fun inner hm => inside.2.1 inner (path.typePathsOf_lastArguments hm)
    · exact fun inner hm => inside'.2.1 inner (other.typePathsOf_lastArguments hm)
  | @free path other _ _ hl hr _ _ ihInside ihRest =>
    rw [Tree.forall_mem_typePathsOf_path] at inside inside'
    rw [isRespelled_eq wellNamed, Option.isSome_eq_false_iff, Option.isNone_iff_eq_none] at hl hr
    have hp' := namedIn_root hroot inside.1 declarations
    have hq' := namedIn_root hroot inside'.1 declarations
    rw [hl, Option.map_none] at hp'
    rw [hr, Option.map_none] at hq'
    rw [qualified_cons_iff, qualified_cons_iff, qualifyType_path_iff, qualifyType_path_iff,
      respelled_eq_iff_of_free hl hr, respelled_eq_iff_of_free hp' hq']
    exact and_congr (ihInside inside.2.1 inside'.2.1) (ihRest inside.2.2 inside'.2.2)

variable {left right : Declaration}

/-- Below a root that starts at `crate`, trees have one spelling exactly if they are even and have one
spelling at the top. -/
theorem qualified_root_iff (rooted : root.head? = some "crate") (words : ∀ name ∈ root, IsPathWord name)
    (wellNamed : ∀ declaration ∈ declarations, declaration.WellNamed)
    (inside : ∀ path ∈ Tree.typePathsOf trees, StaysInside left.home path)
    (inside' : ∀ path ∈ Tree.typePathsOf others, StaysInside right.home path) :
    qualified (declarations.map (Declaration.under root)) (left.home.under root) trees =
        qualified (declarations.map (Declaration.under root)) (right.home.under root) others ↔
      qualified declarations left.home trees = qualified declarations right.home others ∧
        Evenly (isRespelled declarations left.home) (isRespelled declarations right.home) trees others := by
  have hroot := isRoot_of_crate rooted
  have wellNamed' := forall_wellNamed_under hroot words wellNamed
  have fromCrate : ∀ declaration ∈ declarations.map (Declaration.under root),
      declaration.home.names.head? = some "crate" :=
    List.forall_mem_map.mpr fun declaration _ => by
      rw [Declaration.under, Home.names_under, List.head?_append, rooted]
      rfl
  have evenly := qualified_root_iff_of_evenly hroot words wellNamed inside inside'
  constructor
  · intro same
    have even := evenly_of_qualified wellNamed' (fun path _ other _ alike =>
      @isRespelled_eq_of_alike _ (left.under root) (right.under root) _ _ wellNamed' fromCrate alike) same
    have even' := even.congr
      (fun path hm => isRespelled_root hroot words wellNamed (inside path hm))
      (fun path hm => isRespelled_root hroot words wellNamed (inside' path hm))
    exact ⟨(evenly even').mp same, even'⟩
  · rintro ⟨same, even⟩
    exact (evenly even).mpr same

/-- A path is not spelled as the full name of a declaration. -/
def SpelledApart (declarations : List Declaration) (path : Tree) : Prop :=
  path.leadingColons?.isSome = false →
    ∀ declaration ∈ declarations, declaration.identity ≠ .ofSegments path.pathNames

/-- Where no path that is left alone is spelled as a full name, trees with one spelling are even. -/
theorem evenly_of_spelledApart (wellNamed : ∀ declaration ∈ declarations, declaration.WellNamed)
    (apart : ∀ path ∈ Tree.typePathsOf trees, namedIn declarations left.home path = none →
      SpelledApart declarations path)
    (apart' : ∀ path ∈ Tree.typePathsOf others, namedIn declarations right.home path = none →
      SpelledApart declarations path)
    (same : qualified declarations left.home trees = qualified declarations right.home others) :
    Evenly (isRespelled declarations left.home) (isRespelled declarations right.home) trees others := by
  have clash {origin target : Declaration} {path other : Tree} {identity : Identity}
      (named : namedIn declarations origin.home path = some identity)
      (free : namedIn declarations target.home other = none)
      (alike : (respelled declarations origin.home path).unplaced =
        (respelled declarations target.home other).unplaced) : ¬SpelledApart declarations other := by
    obtain ⟨name, rest, rfl, -, -, names, lead⟩ := pathNames_of_alike wellNamed named free alike
    obtain ⟨-, declaration, hm, identity⟩ := namedIn_eq_some.mp named
    exact fun apart => apart lead declaration hm (by rw [identity, names])
  refine evenly_of_qualified wellNamed (fun path hm other hm' alike => ?_) same
  rw [isRespelled_eq wellNamed, isRespelled_eq wellNamed]
  cases hp : namedIn declarations left.home path with
  | some identity =>
    cases hq : namedIn declarations right.home other with
    | some identity' => rfl
    | none => exact absurd (apart' other hm' hq) (clash hp hq alike)
  | none =>
    cases hq : namedIn declarations right.home other with
    | some identity' => exact absurd (apart path hm hp) (clash hq hp alike.symm)
    | none => rfl

end Below

end RecordMapper
