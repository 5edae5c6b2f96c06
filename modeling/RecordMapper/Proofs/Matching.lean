/-
Two fields match when their types by full identities have one text. Whether the types as written mean
the same is decided path by path: what corresponds to what is found by walking through both types at
once, where the names of a path that names a declaration count for nothing and only its last arguments
are looked into.
-/
import RecordMapper.Proofs.Extracted

namespace RecordMapper

open Code

/-! ## Sizes -/

section Sizes

namespace Code.Tree

theorem sizeOfAll_segmentArguments_le (segment : Tree) :
    sizeOfAll segment.segmentArguments ≤ segment.size := by
  unfold segmentArguments
  split
  · simp only [size, sizeOfAll]
    omega
  · exact Nat.zero_le _

theorem sizeOfAll_filter_le (test : Tree → Bool) (trees : List Tree) :
    sizeOfAll (trees.filter test) ≤ sizeOfAll trees := by
  induction trees with
  | nil => exact Nat.le_refl _
  | cons tree trees ih =>
    by_cases h : test tree = true
    · rw [List.filter_cons_of_pos h, sizeOfAll, sizeOfAll]
      omega
    · rw [List.filter_cons_of_neg h, sizeOfAll]
      omega

theorem sizeOfAll_segments_le (path : Tree) : sizeOfAll path.segments ≤ path.size := by
  unfold segments
  split
  · have := sizeOfAll_filter_le (fun part => (segmentName? part).isSome) ‹_›
    rw [size]
    omega
  · exact Nat.zero_le _

theorem sizeOfAll_allArguments_le (path : Tree) : sizeOfAll path.allArguments ≤ path.size := by
  refine Nat.le_trans ?_ (sizeOfAll_segments_le path)
  unfold allArguments
  induction path.segments with
  | nil => exact Nat.le_refl _
  | cons segment segments ih =>
    have head := sizeOfAll_segmentArguments_le segment
    rw [List.flatMap_cons, sizeOfAll_append, sizeOfAll]
    omega

theorem size_le_sizeOfAll {tree : Tree} {trees : List Tree} (h : tree ∈ trees) :
    tree.size ≤ sizeOfAll trees := by
  induction trees with
  | nil => cases h
  | cons first trees ih =>
    rw [sizeOfAll]
    rcases List.mem_cons.mp h with rfl | later
    · omega
    · have := ih later
      omega

theorem sizeOfAll_lastArguments_le (path : Tree) : sizeOfAll path.lastArguments ≤ path.size := by
  unfold lastArguments
  cases h : path.segments.getLast? with
  | none => exact Nat.zero_le _
  | some segment =>
    have arguments := sizeOfAll_segmentArguments_le segment
    have part := size_le_sizeOfAll (List.mem_of_getLast? h)
    have whole := sizeOfAll_segments_le path
    simp only [Option.map_some, Option.getD_some]
    omega

end Code.Tree

end Sizes

/-! ## Corresponding paths -/

/-- Two lists of trees agree apart from how the paths of their types are spelled, and these are the
paths of the two that correspond. `left` and `right` say which arguments of a path are looked into. -/
inductive Aligned (left right : Tree → List Tree) : List Tree → List Tree → List (Tree × Tree) → Prop
  | nil : Aligned left right [] [] []
  | token (t : Token) (place other : Span) {rest others : List Tree} {pairs : List (Tree × Tree)} :
    Aligned left right rest others pairs →
      Aligned left right (.token t place :: rest) (.token t other :: others) pairs
  | group (delimiter : Delimiter) (opening closing opening' closing' : Span)
    {inner inner' rest others : List Tree} {inside pairs : List (Tree × Tree)} :
    Aligned left right inner inner' inside → Aligned left right rest others pairs →
      Aligned left right (.group delimiter opening closing inner :: rest)
        (.group delimiter opening' closing' inner' :: others) (inside ++ pairs)
  | node (role : Role) {parts parts' rest others : List Tree} {inside pairs : List (Tree × Tree)}
    (h : role = .typePath → parts.length ≠ 1) :
    Aligned left right parts parts' inside → Aligned left right rest others pairs →
      Aligned left right (.node role parts :: rest) (.node role parts' :: others) (inside ++ pairs)
  | path (path other : Tree) {rest others : List Tree} {inside pairs : List (Tree × Tree)} :
    Aligned left right (left path) (right other) inside → Aligned left right rest others pairs →
      Aligned left right (.node .typePath [path] :: rest) (.node .typePath [other] :: others)
        ((path, other) :: inside ++ pairs)

/-- Paths correspond in one way only. -/
theorem Aligned.unique {left right : Tree → List Tree} {trees others : List Tree}
    {pairs pairs' : List (Tree × Tree)} (h : Aligned left right trees others pairs)
    (h' : Aligned left right trees others pairs') : pairs = pairs' := by
  induction h generalizing pairs' with
  | nil =>
    cases h'
    rfl
  | token t place other _ ih =>
    cases h' with
    | token _ _ _ tail => exact ih tail
  | group delimiter opening closing opening' closing' _ _ ihInside ihRest =>
    cases h' with
    | group _ _ _ _ _ inside tail => rw [ihInside inside, ihRest tail]
  | node role notLone _ _ ihInside ihRest =>
    cases h' with
    | node _ _ inside tail => rw [ihInside inside, ihRest tail]
    | path => exact absurd rfl (notLone rfl)
  | path path other _ _ ihInside ihRest =>
    cases h' with
    | node _ notLone => exact absurd rfl (notLone rfl)
    | path _ _ inside tail => rw [ihInside inside, ihRest tail]

/-- The arguments of a path that are looked into: those of its last segment where the path names a
declaration, and all of them where its other segments are no names of modules. -/
def keptArguments (declarations : List Declaration) (home : Home) (path : Tree) : List Tree :=
  if (namedIn declarations home path).isSome then path.lastArguments else path.allArguments

section Corresponding

theorem sizeOfAll_keptArguments_le (declarations : List Declaration) (home : Home)
    (path : Tree) :
    Tree.sizeOfAll (keptArguments declarations home path) ≤ path.size := by
  unfold keptArguments
  split
  · exact Tree.sizeOfAll_lastArguments_le path
  · exact Tree.sizeOfAll_allArguments_le path

variable {declarations : List Declaration} {home : Home}

/-- The arguments of a respelled path are the kept ones, by full identities. -/
theorem allArguments_respelled (wellNamed : ∀ declaration ∈ declarations, declaration.WellNamed)
    (path : Tree) :
    Tree.unplacedAll (respelled declarations home path).allArguments =
      Tree.unplacedAll (mapTypePathsAll (qualifiedPath? declarations home)
        (keptArguments declarations home path)) := by
  unfold keptArguments
  cases named : namedIn declarations home path with
  | some identity =>
    obtain ⟨name, rest, -, -, -, spelled⟩ := respelled_of_named wellNamed named
    rw [Tree.unplacedAll_eq_map, ← Tree.goesDown_unplaced.allArguments, spelled,
      Tree.allArguments_spelled]
    rfl
  | none =>
    rw [respelled_of_not_named named, qualifyType, (goesDown_mapTypePaths _).allArguments,
      ← mapTypePathsAll_eq_map]
    rfl

/-- What two trees are that are equal once the paths of their types are replaced. -/
inductive SameChanged (left right : Tree → Option Tree) : Tree → Tree → Prop
  | token (t : Token) (place other : Span) :
    SameChanged left right (.token t place) (.token t other)
  | group (delimiter : Delimiter) (opening closing opening' closing' : Span)
    {inner inner' : List Tree} :
    Tree.unplacedAll (mapTypePathsAll left inner) = Tree.unplacedAll (mapTypePathsAll right inner') →
      SameChanged left right (.group delimiter opening closing inner)
        (.group delimiter opening' closing' inner')
  | node (role : Role) {parts parts' : List Tree} (h : role = .typePath → parts.length ≠ 1) :
    Tree.unplacedAll (mapTypePathsAll left parts) = Tree.unplacedAll (mapTypePathsAll right parts') →
      SameChanged left right (.node role parts) (.node role parts')
  | path (path other : Tree) :
    ((left (mapTypePaths left path)).getD (mapTypePaths left path)).unplaced =
      ((right (mapTypePaths right other)).getD (mapTypePaths right other)).unplaced →
      SameChanged left right (.node .typePath [path]) (.node .typePath [other])

section SameChanged

variable {left right : Tree → Option Tree}

theorem length_unplacedAll_mapTypePathsAll (replace : Tree → Option Tree) (trees : List Tree) :
    (Tree.unplacedAll (mapTypePathsAll replace trees)).length = trees.length := by
  rw [Tree.unplacedAll_eq_map, List.length_map, mapTypePathsAll_eq_map, List.length_map]

/-- A type by its path alone is told from every other node by its role and the number of its parts. -/
theorem lone_or (role : Role) (parts : List Tree) :
    (role = .typePath ∧ ∃ path, parts = [path]) ∨ (role = .typePath → parts.length ≠ 1) := by
  by_cases h : role = .typePath ∧ parts.length = 1
  · exact .inl ⟨h.1, List.length_eq_one_iff.mp h.2⟩
  · exact .inr fun hr hp => h ⟨hr, hp⟩

theorem sameChanged_node {role role' : Role} {parts parts' : List Tree}
    (same : (mapTypePaths left (.node role parts)).unplaced =
      (mapTypePaths right (.node role' parts')).unplaced) :
    SameChanged left right (.node role parts) (.node role' parts') := by
  obtain ⟨changed, hc⟩ := exists_mapTypePaths_node left role parts
  obtain ⟨changed', hc'⟩ := exists_mapTypePaths_node right role' parts'
  obtain ⟨roles, -⟩ : role = role' ∧ _ := by
    rw [hc, hc'] at same
    simpa only [Tree.unplaced, Tree.node.injEq] using same
  subst roles
  rcases lone_or role parts with ⟨rfl, path, rfl⟩ | notLone
  · rcases lone_or .typePath parts' with ⟨-, other, rfl⟩ | notLone'
    · rw [mapTypePaths_typePath, mapTypePaths_typePath] at same
      refine .path path other ?_
      simpa [Tree.unplaced, Tree.unplacedAll] using same
    · rw [mapTypePaths_typePath, mapTypePaths_node right notLone'] at same
      simp only [Tree.unplaced, Tree.node.injEq, true_and] at same
      have lengths := congrArg List.length same
      rw [length_unplacedAll_mapTypePathsAll] at lengths
      exact absurd lengths.symm (notLone' rfl)
  · rcases lone_or role parts' with ⟨rfl, other, rfl⟩ | notLone'
    · rw [mapTypePaths_typePath, mapTypePaths_node left notLone] at same
      simp only [Tree.unplaced, Tree.node.injEq, true_and] at same
      have lengths := congrArg List.length same
      rw [length_unplacedAll_mapTypePathsAll] at lengths
      exact absurd lengths (notLone rfl)
    · rw [mapTypePaths_node left notLone, mapTypePaths_node right notLone'] at same
      simp only [Tree.unplaced, Tree.node.injEq, true_and] at same
      exact .node role notLone same

theorem sameChanged_of_eq {tree other : Tree}
    (same : (mapTypePaths left tree).unplaced = (mapTypePaths right other).unplaced) :
    SameChanged left right tree other := by
  cases tree with
  | token t place =>
    cases other with
    | token u place' =>
      cases same
      exact .token t place place'
    | group delimiter opening closing inner => cases same
    | node role parts =>
      obtain ⟨changed, hc⟩ := exists_mapTypePaths_node right role parts
      rw [hc] at same
      cases same
  | group delimiter opening closing inner =>
    cases other with
    | token u place => cases same
    | group delimiter' opening' closing' inner' =>
      simp only [mapTypePaths, Tree.unplaced, Tree.group.injEq, true_and] at same
      obtain ⟨rfl, same⟩ := same
      exact .group delimiter opening closing opening' closing' same
    | node role parts =>
      obtain ⟨changed, hc⟩ := exists_mapTypePaths_node right role parts
      rw [hc] at same
      cases same
  | node role parts =>
    obtain ⟨changed, hc⟩ := exists_mapTypePaths_node left role parts
    cases other with
    | token u place =>
      rw [hc] at same
      cases same
    | group delimiter opening closing inner =>
      rw [hc] at same
      cases same
    | node role' parts' => exact sameChanged_node same

end SameChanged

/-- Types with one text agree apart from the spelling of paths, and corresponding paths are respelled
alike. -/
theorem exists_aligned (wellNamed : ∀ declaration ∈ declarations, declaration.WellNamed)
    (other : Home) {trees others : List Tree}
    (same : Tree.unplacedAll (mapTypePathsAll (qualifiedPath? declarations home) trees) =
      Tree.unplacedAll (mapTypePathsAll (qualifiedPath? declarations other) others)) :
    ∃ pairs, Aligned (keptArguments declarations home) (keptArguments declarations other)
        trees others pairs ∧
      ∀ pair ∈ pairs, (respelled declarations home pair.1).unplaced =
        (respelled declarations other pair.2).unplaced := by
  -- the kept arguments of a path are none of its parts, so the induction is on the size
  induction bound : Tree.sizeOfAll trees using Nat.strong_induction_on generalizing trees others with
  | _ bound ih =>
    cases trees with
    | nil =>
      cases others with
      | nil => exact ⟨[], .nil, by simp⟩
      | cons tree' others => cases same
    | cons tree trees =>
      cases others with
      | nil => cases same
      | cons tree' others =>
        simp only [mapTypePathsAll, Tree.unplacedAll, List.cons.injEq] at same
        obtain ⟨head, tail⟩ := same
        have shape := sameChanged_of_eq head
        rw [Tree.sizeOfAll] at bound
        have positive : 0 < tree.size := by cases tree <;> simp [Tree.size]
        obtain ⟨pairs, aligned, alike⟩ := ih _ (by omega) tail rfl
        cases shape with
        | token t place place' => exact ⟨pairs, .token t place place' aligned, alike⟩
        | group delimiter opening closing opening' closing' same =>
          rw [Tree.size] at bound
          obtain ⟨inside, alignedInside, alikeInside⟩ := ih _ (by omega) same rfl
          have alikeBoth := List.forall_mem_append.mpr ⟨alikeInside, alike⟩
          exact ⟨inside ++ pairs, .group _ _ _ _ _ alignedInside aligned, alikeBoth⟩
        | node role notLone same =>
          rw [Tree.size] at bound
          obtain ⟨inside, alignedInside, alikeInside⟩ := ih _ (by omega) same rfl
          have alikeBoth := List.forall_mem_append.mpr ⟨alikeInside, alike⟩
          exact ⟨inside ++ pairs, .node role notLone alignedInside aligned, alikeBoth⟩
        | path path path' same =>
          have same : (respelled declarations home path).unplaced =
              (respelled declarations other path').unplaced := same
          have arguments := Tree.allArguments_eq_of_unplaced same
          rw [allArguments_respelled wellNamed, allArguments_respelled wellNamed] at arguments
          have kept := sizeOfAll_keptArguments_le declarations home path
          simp only [Tree.size, Tree.sizeOfAll] at bound
          obtain ⟨inside, alignedInside, alikeInside⟩ := ih _ (by omega) arguments rfl
          have alikeBoth := List.forall_mem_append.mpr ⟨alikeInside, alike⟩
          exact ⟨(path, path') :: inside ++ pairs, .path path path' alignedInside aligned,
            List.forall_mem_cons.mpr ⟨same, alikeBoth⟩⟩

end Corresponding

/-! ## Fields with a default -/

/-- Two written types whose texts by full identities are one agree apart from the spelling of paths,
and corresponding paths are respelled alike. -/
theorem exists_aligned_of_text {declarations : List Declaration}
    (wellNamed : ∀ declaration ∈ declarations, declaration.WellNamed) {home home' : Home}
    {type other : Tree} (readsBack : (qualifyType declarations home type).ReadsBack)
    (readsBack' : (qualifyType declarations home' other).ReadsBack)
    (same : (qualifyType declarations home type).text =
      (qualifyType declarations home' other).text) :
    ∃ pairs, Aligned (keptArguments declarations home) (keptArguments declarations home')
        [type] [other] pairs ∧
      ∀ pair ∈ pairs, (respelled declarations home pair.1).unplaced =
        (respelled declarations home' pair.2).unplaced := by
  refine exists_aligned wellNamed home' ?_
  have unplaced := readsBack.unplaced_eq readsBack' same
  simp only [mapTypePathsAll, Tree.unplacedAll, List.cons.injEq, and_true]
  exact unplaced

/-- **What a default promises about the types as written.** A field that gets one has a written type on
both sides. Where the two read back from their texts by full identities, they agree apart from the
spelling of paths, and corresponding paths name one declaration, or none, exactly if both are respelled
or neither is, and they are not the `Self` of two structs. Paths that name none have the same names;
and below the root of a crate, a path that is respelled never corresponds to one that is not. -/
theorem named_eq_iff_of_defaulted {root : String} {items : List Tree}
    (wellNamed : ∀ declaration ∈ declarationsIn (.top (Identity.mk root).segments) items,
      declaration.WellNamed)
    {directive : Directive} (hd : directive ∈ (extract root items).directives) {target : Schema}
    (ht : target ∈ directive.targets) {bound : FieldBinding}
    (hb : bound ∈ (plan directive.origin target).bindings) (defaulted : bound.isDefaulted = true) :
    let declarations := declarationsIn (.top (Identity.mk root).segments) items
    ∃ left ∈ declarations, ∃ right ∈ declarations, ∃ type other,
      directive.origin = schemaOf declarations left ∧ target = schemaOf declarations right ∧
      left.writtenType? bound.field.name = some type ∧
      right.writtenType? bound.field.name = some other ∧
      ((qualifyType declarations left.home type).ReadsBack →
        (qualifyType declarations right.home other).ReadsBack →
        (∃ pairs, Aligned (keptArguments declarations left.home)
            (keptArguments declarations right.home) [type] [other] pairs) ∧
          ∀ pairs, Aligned (keptArguments declarations left.home)
              (keptArguments declarations right.home) [type] [other] pairs → ∀ pair ∈ pairs,
            (left.named declarations pair.1 = right.named declarations pair.2 ↔
              isRespelled declarations left.home pair.1 =
                  isRespelled declarations right.home pair.2 ∧
                (isSelfPath pair.1 = true → left.identity = right.identity)) ∧
            (left.named declarations pair.1 = none → right.named declarations pair.2 = none →
              pair.1.pathNames = pair.2.pathNames) ∧
            ((Identity.mk root).segments.head? = some "crate" →
              isRespelled declarations left.home pair.1 =
                isRespelled declarations right.home pair.2)) := by
  intro declarations
  obtain ⟨left, hl, origin, targets⟩ := exists_declaration_of_mem hd
  obtain ⟨known, fields, hknown, hfields, mem, mem'⟩ := mem_fields_of_isDefaulted hb defaulted
  rw [targets] at ht
  obtain ⟨path, -, rfl⟩ := List.mem_map.mp ht
  obtain ⟨right, hr, schema⟩ := exists_declaration_of_targetSchema hfields
  rw [origin] at hknown
  rw [schema] at hfields
  obtain ⟨type, written, text⟩ := exists_writtenType? hknown mem
  obtain ⟨other, written', text'⟩ := exists_writtenType? hfields mem'
  refine ⟨left, hl, right, hr, type, other, origin, schema, written, written', ?_⟩
  intro readsBack readsBack'
  obtain ⟨pairs, aligned, alike⟩ :=
    exists_aligned_of_text wellNamed readsBack readsBack' (text.symm.trans text')
  refine ⟨⟨pairs, aligned⟩, fun others aligned' pair hm => ?_⟩
  obtain rfl := aligned.unique aligned'
  refine ⟨?_, fun free free' => ?_, fun rooted => ?_⟩
  · exact named_eq_iff_of_alike wellNamed hl hr (alike pair hm)
  · exact (pathNames_eq_of_alike (namedIn_eq_none free) (namedIn_eq_none free') (alike pair hm)).1
  · refine isRespelled_eq_of_alike wellNamed (fun declaration hm => ?_) (alike pair hm)
    exact head?_home_of_mem_declarationsIn hm rooted

/-- The items of two records, each with a pointer to its own kind. -/
def linkedRecords : List Tree :=
  ((File.ofText? "#[mapper(T)] pub struct O { pub next: *const Self }
    pub struct T { pub next: *const Self }").map (·.items)).getD []

/-- Whether a type is a pointer to `Self`. -/
def pointsToSelf : Tree → Bool
  | .node _ [.token .., .token .., .node .typePath [path]] => isSelfPath path
  | _ => false

theorem exists_pair_of_pointsToSelf {left right : Tree → List Tree} {type other : Tree}
    {pairs : List (Tree × Tree)} (aligned : Aligned left right [type] [other] pairs)
    (h : pointsToSelf type = true) : ∃ pair ∈ pairs, isSelfPath pair.1 = true := by
  unfold pointsToSelf at h
  split at h
  · cases aligned with
    | node _ _ inside =>
      cases inside with
      | token _ _ _ inside =>
        cases inside with
        | token _ _ _ inside =>
          cases inside with
          | node _ notLone => exact absurd rfl (notLone rfl)
          | path _ other => exact ⟨(_, other), by simp, h⟩
  · cases h

/-- The two pointers match, and what they point to differs. -/
theorem exists_named_ne_of_defaulted :
    let declarations := declarationsIn (.top (Identity.mk "crate").segments) linkedRecords
    ∃ directive ∈ (extract "crate" linkedRecords).directives, ∃ target ∈ directive.targets,
      ∃ bound ∈ (plan directive.origin target).bindings, bound.isDefaulted = true ∧
        ∃ left ∈ declarations, ∃ right ∈ declarations, ∃ type other,
          directive.origin = schemaOf declarations left ∧
          target = schemaOf declarations right ∧
          left.writtenType? bound.field.name = some type ∧
          right.writtenType? bound.field.name = some other ∧
          ∃ pairs, Aligned (keptArguments declarations left.home)
              (keptArguments declarations right.home) [type] [other] pairs ∧
            ∃ pair ∈ pairs,
              left.named declarations pair.1 ≠ right.named declarations pair.2 := by
  intro declarations
  have wellNamed : ∀ declaration ∈ declarations, declaration.WellNamed := by
    have names : ∀ declaration ∈ declarations, (∀ name ∈ declaration.home.names, IsPathWord name) ∧
        ∃ name ∈ ["O", "T"], IsPathWord name ∧ name ≠ "Self" ∧
          declaration.identity = .ofSegments (declaration.home.names ++ [name]) := by
      decide +kernel
    intro declaration hm
    obtain ⟨home, name, -, identity⟩ := names declaration hm
    exact ⟨home, name, identity⟩
  have pointers : ∀ declaration ∈ declarations, ∀ type ∈ declaration.writtenType? "next",
      pointsToSelf type = true ∧ (qualifyType declarations declaration.home type).ReadsBack := by
    decide +kernel
  obtain ⟨directive, hd, target, ht, bound, hb, defaulted, name, apart⟩ :
      ∃ directive ∈ (extract "crate" linkedRecords).directives, ∃ target ∈ directive.targets,
        ∃ bound ∈ (plan directive.origin target).bindings, bound.isDefaulted = true ∧
          bound.field.name = "next" ∧ directive.origin.identity ≠ target.identity := by
    decide +kernel
  obtain ⟨left, hl, right, hr, type, other, origin, schema, written, written', matched⟩ :=
    named_eq_iff_of_defaulted wellNamed hd ht hb defaulted
  rw [name] at written written'
  obtain ⟨own, readsBack⟩ := pointers left hl type written
  obtain ⟨-, readsBack'⟩ := pointers right hr other written'
  obtain ⟨⟨pairs, aligned⟩, named⟩ := matched readsBack readsBack'
  obtain ⟨pair, hm, isSelf⟩ := exists_pair_of_pointsToSelf aligned own
  refine ⟨directive, hd, target, ht, bound, hb, defaulted, left, hl, right, hr, type, other, origin,
    schema, by rw [name, written], by rw [name, written'], pairs, aligned, pair, hm, fun same => ?_⟩
  rw [origin, schema, identity_schemaOf, identity_schemaOf] at apart
  exact apart (((named pairs aligned pair hm).1.mp same).2 isSelf)

end RecordMapper
