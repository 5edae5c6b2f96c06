/-
A path is respelled when it names a declaration, and then by that declaration's full name. What it is
respelled to depends on its names alone and on the arguments of its last segment; and two paths that
are spelled alike afterwards need not have named the same before, unless every full name starts from
the root.
-/
import RecordMapper.Proofs.SpelledPaths
import RecordMapper.Resolution

namespace RecordMapper

open Code

/-! ## Changing the paths of types -/

section MapTypePaths

variable (replace : Tree → Option Tree)

theorem mapTypePathsAll_eq_map (trees : List Tree) :
    mapTypePathsAll replace trees = trees.map (mapTypePaths replace) := by
  induction trees with
  | nil => rfl
  | cons tree trees ih => rw [mapTypePathsAll, ih, List.map_cons]

/-- A node other than a type by its path alone keeps its role. -/
theorem mapTypePaths_node {role : Role} {parts : List Tree}
    (h : role = .typePath → parts.length ≠ 1) :
    mapTypePaths replace (.node role parts) = .node role (mapTypePathsAll replace parts) := by
  unfold mapTypePaths
  split
  · next heq =>
    have length : (mapTypePathsAll replace parts).length = 1 := by rw [heq]; rfl
    rw [mapTypePathsAll_eq_map, List.length_map] at length
    exact absurd length (h rfl)
  · rfl

theorem mapTypePaths_typePath (path : Tree) :
    mapTypePaths replace (.node .typePath [path]) =
      .node .typePath [(replace (mapTypePaths replace path)).getD (mapTypePaths replace path)] := rfl

theorem exists_mapTypePaths_node (role : Role) (parts : List Tree) :
    ∃ changed, mapTypePaths replace (.node role parts) = .node role changed := by
  unfold mapTypePaths
  split <;> exact ⟨_, rfl⟩

theorem goesDown_mapTypePaths : Tree.GoesDown (mapTypePaths replace) where
  token t place := ⟨place, rfl⟩
  group delimiter opening closing inner := ⟨opening, closing, _, rfl⟩
  node := exists_mapTypePaths_node replace
  segment parts := by
    rw [mapTypePaths_node replace (by simp), mapTypePathsAll_eq_map]
  path parts := by
    rw [mapTypePaths_node replace (by simp), mapTypePathsAll_eq_map]

end MapTypePaths

/-! ## Resolving -/

section Resolve

variable {home : Home} {path other : Tree}

/-- What a path names depends on its names and on the `::` in front. -/
theorem resolve_congr (names : path.pathNames = other.pathNames)
    (lead : path.leadingColons?.isSome = other.leadingColons?.isSome) :
    resolve home path = resolve home other := by
  unfold resolve
  rw [names, lead]

theorem resolve_qualifyType (declarations : List Declaration) (home : Home) (path : Tree) :
    resolve home (qualifyType declarations home path) = resolve home path :=
  resolve_congr ((goesDown_mapTypePaths _).pathNames path)
    ((goesDown_mapTypePaths _).leadingColons? path)

/-- A path from the root names the same in every module. -/
theorem resolve_crate {rest : List String} (lead : path.leadingColons?.isSome = false)
    (names : path.pathNames = "crate" :: rest) :
    resolve home path = some (.ofSegments ("crate" :: rest)) := by
  simp [resolve, lead, names, climb]

theorem resolve_self (lead : path.leadingColons?.isSome = false) (names : path.pathNames = ["Self"]) :
    resolve home path = some (.ofSegments (home.names ++ ["Self"])) := by
  simp [resolve, lead, names, climb]

end Resolve

theorem lookUp_eq_some {declarations : List Declaration} {identity : Identity}
    {declaration : Declaration} (h : lookUp declarations identity = some declaration) :
    declaration ∈ declarations ∧ declaration.identity = identity := by
  unfold lookUp at h
  have found := List.find?_some h
  exact ⟨List.mem_reverse.mp (List.mem_of_find?_eq_some h), by simpa using found⟩

/-! ## Names -/

namespace Declaration

/-- The names from the root to a declaration are words of a path, and its own is not `Self`. -/
structure WellNamed (declaration : Declaration) : Prop where
  home : ∀ name ∈ declaration.home.names, IsPathWord name
  identity : ∃ name, IsPathWord name ∧ name ≠ "Self" ∧
    declaration.identity = .ofSegments (declaration.home.names ++ [name])

variable {declaration : Declaration}

/-- The full name of a well-named declaration, and the path that its text reads as. -/
theorem WellNamed.exists_path (h : declaration.WellNamed) :
    ∃ name rest path, declaration.identity = .ofSegments (name :: rest) ∧
      (∀ word ∈ name :: rest, IsPathWord word) ∧ (name :: rest).getLast? ≠ some "Self" ∧
      declaration.home.names.head? = (name :: rest).dropLast.head? ∧
      pathOfText? declaration.identity.text = some path ∧
      path.unplaced = Tree.spelled name rest [] := by
  obtain ⟨own, word, free, identity⟩ := h.identity
  obtain ⟨name, rest, split⟩ : ∃ name rest, declaration.home.names ++ [own] = name :: rest := by
    cases declaration.home.names <;> exact ⟨_, _, rfl⟩
  have words : ∀ word ∈ name :: rest, IsPathWord word := by
    intro other hm
    rw [← split, List.mem_append, List.mem_singleton] at hm
    rcases hm with hm | rfl
    · exact h.home other hm
    · exact word
  obtain ⟨path, read, spelled⟩ := exists_pathOfText? (words name (by simp))
    fun next hm => words next (List.mem_cons_of_mem _ hm)
  refine ⟨name, rest, path, by rw [identity, split], words, ?_, ?_, by rw [identity, split, read],
    spelled⟩
  · rw [← split, List.getLast?_concat]
    exact fun same => free (Option.some.inj same)
  · rw [← split, List.dropLast_concat]

end Declaration

/-- A path that stands for the struct it is written in. -/
def isSelfPath (path : Tree) : Bool :=
  path.leadingColons?.isNone && path.pathNames = ["Self"]

/-- The identity of the declaration that a path resolves to in the module `home`. -/
def namedIn (declarations : List Declaration) (home : Home) (path : Tree) : Option Identity :=
  (resolve home path).filter fun identity => (lookUp declarations identity).isSome

/-- The identity of the declaration that a path names where it is written in a declaration. -/
def Declaration.named (declaration : Declaration) (declarations : List Declaration) (path : Tree) :
    Option Identity :=
  if isSelfPath path then some declaration.identity
  else namedIn declarations declaration.home path

/-- Whether a path written in the module `home` is respelled. -/
def isRespelled (declarations : List Declaration) (home : Home) (path : Tree) : Bool :=
  (qualifiedPath? declarations home path).isSome

/-- The path that stands for `path` in a type by full identities. -/
def respelled (declarations : List Declaration) (home : Home) (path : Tree) : Tree :=
  (qualifiedPath? declarations home (qualifyType declarations home path)).getD
    (qualifyType declarations home path)

section Respelled

variable {declarations : List Declaration} {home : Home} {path : Tree} {identity : Identity}

theorem namedIn_eq_some :
    namedIn declarations home path = some identity ↔
      resolve home path = some identity ∧
        ∃ declaration ∈ declarations, declaration.identity = identity := by
  unfold namedIn
  rw [Option.filter_eq_some_iff, Option.isSome_iff_exists]
  refine and_congr_right fun _ => ⟨fun ⟨declaration, h⟩ => ?_, fun ⟨declaration, hm, h⟩ => ?_⟩
  · exact ⟨declaration, lookUp_eq_some h⟩
  · rw [← Option.isSome_iff_exists, lookUp, List.find?_isSome]
    exact ⟨declaration, List.mem_reverse.mpr hm, by simpa using h⟩

/-- What a path that names a declaration is respelled to. -/
theorem exists_qualifiedPath? (wellNamed : ∀ declaration ∈ declarations, declaration.WellNamed)
    (h : namedIn declarations home path = some identity) :
    ∃ name rest full, identity = .ofSegments (name :: rest) ∧
      (∀ word ∈ name :: rest, IsPathWord word) ∧ (name :: rest).getLast? ≠ some "Self" ∧
      qualifiedPath? declarations home path = some full ∧
      full.unplaced = Tree.spelled name rest (Tree.unplacedAll path.lastArguments) := by
  unfold namedIn at h
  obtain ⟨resolves, found⟩ := Option.filter_eq_some_iff.mp h
  obtain ⟨declaration, found⟩ := Option.isSome_iff_exists.mp found
  obtain ⟨hm, rfl⟩ := lookUp_eq_some found
  obtain ⟨name, rest, read, identity, words, last, -, hread, spelled⟩ :=
    (wellNamed declaration hm).exists_path
  refine ⟨name, rest, read.withLastArguments path.lastArguments, identity, words, last, ?_, ?_⟩
  · simp [qualifiedPath?, resolves, found, hread]
  · rw [Tree.withLastArguments_unplaced, spelled, Tree.withLastArguments_spelled]

theorem qualifiedPath?_eq_none (h : namedIn declarations home path = none) :
    qualifiedPath? declarations home path = none := by
  unfold qualifiedPath?
  cases resolves : resolve home path with
  | none => rfl
  | some identity =>
    cases found : lookUp declarations identity with
    | none => simp [found]
    | some declaration => simp [namedIn, resolves, found] at h

/-- A path is respelled exactly when it names a declaration. -/
theorem isRespelled_eq (wellNamed : ∀ declaration ∈ declarations, declaration.WellNamed) :
    isRespelled declarations home path = (namedIn declarations home path).isSome := by
  unfold isRespelled
  cases h : namedIn declarations home path with
  | none =>
    rw [qualifiedPath?_eq_none h]
    rfl
  | some identity =>
    obtain ⟨_, _, full, -, -, -, found, -⟩ := exists_qualifiedPath? wellNamed h
    rw [found]
    rfl

theorem namedIn_qualifyType :
    namedIn declarations home (qualifyType declarations home path) =
      namedIn declarations home path := by
  rw [namedIn, resolve_qualifyType, namedIn]

theorem respelled_of_named (wellNamed : ∀ declaration ∈ declarations, declaration.WellNamed)
    (h : namedIn declarations home path = some identity) :
    ∃ name rest, identity = .ofSegments (name :: rest) ∧
      (∀ word ∈ name :: rest, IsPathWord word) ∧ (name :: rest).getLast? ≠ some "Self" ∧
      (respelled declarations home path).unplaced =
        Tree.spelled name rest
          (Tree.unplacedAll (mapTypePathsAll (qualifiedPath? declarations home) path.lastArguments)) := by
  rw [← namedIn_qualifyType] at h
  obtain ⟨name, rest, full, identity, words, last, found, spelled⟩ :=
    exists_qualifiedPath? wellNamed h
  refine ⟨name, rest, identity, words, last, ?_⟩
  rw [respelled, found, Option.getD_some, spelled, qualifyType,
    (goesDown_mapTypePaths _).lastArguments, mapTypePathsAll_eq_map]

theorem respelled_of_not_named (h : namedIn declarations home path = none) :
    respelled declarations home path = qualifyType declarations home path := by
  rw [← namedIn_qualifyType] at h
  rw [respelled, qualifiedPath?_eq_none h, Option.getD_none]

theorem namedIn_eq_none {declaration : Declaration}
    (h : declaration.named declarations path = none) :
    namedIn declarations declaration.home path = none := by
  unfold Declaration.named at h
  split at h
  · cases h
  · exact h

/-- No declaration is called `Self`. -/
theorem isSelfPath_of_named (wellNamed : ∀ declaration ∈ declarations, declaration.WellNamed)
    (words : ∀ name ∈ home.names, IsPathWord name) (h : namedIn declarations home path = some identity) :
    isSelfPath path = false := by
  by_contra own
  simp only [isSelfPath, Bool.not_eq_false, Bool.and_eq_true, Option.isNone_iff_eq_none,
    decide_eq_true_eq] at own
  obtain ⟨lead, names⟩ := own
  obtain ⟨resolves, declaration, hm, rfl⟩ := namedIn_eq_some.mp h
  rw [resolve_self (by rw [lead]; rfl) names, Option.some.injEq] at resolves
  obtain ⟨name, rest, -, identity, hwords, last, -⟩ := (wellNamed declaration hm).exists_path
  obtain ⟨first, more, split⟩ : ∃ first more, home.names ++ ["Self"] = first :: more := by
    cases home.names <;> exact ⟨_, _, rfl⟩
  have all : ∀ word ∈ first :: more, IsPathWord word := by
    intro word hm
    rw [← split, List.mem_append, List.mem_singleton] at hm
    rcases hm with hm | rfl
    · exact words word hm
    · exact ⟨by decide +kernel, .inl (by decide)⟩
  rw [split, identity] at resolves
  rw [← ofSegments_inj all hwords resolves, ← split] at last
  exact last (List.getLast?_concat ..)

end Respelled

/-! ## Paths that are spelled alike -/

section Alike

variable {declarations : List Declaration} {origin target : Declaration} {path other : Tree}

theorem leadingColons?_respelled
    (wellNamed : ∀ declaration ∈ declarations, declaration.WellNamed) {home : Home}
    {identity : Identity} (h : namedIn declarations home path = some identity) :
    (respelled declarations home path).leadingColons?.isSome = false := by
  obtain ⟨name, rest, -, -, -, spelled⟩ := respelled_of_named wellNamed h
  rw [← Tree.goesDown_unplaced.leadingColons?, spelled, Tree.leadingColons?_spelled]
  rfl

/-- A path that names a declaration and a path that names none may be spelled alike, and then the
names of the second are those of the declaration. -/
theorem pathNames_of_alike (wellNamed : ∀ declaration ∈ declarations, declaration.WellNamed)
    {identity : Identity} (named : namedIn declarations origin.home path = some identity)
    (free : namedIn declarations target.home other = none)
    (alike : (respelled declarations origin.home path).unplaced =
      (respelled declarations target.home other).unplaced) :
    ∃ name rest, identity = .ofSegments (name :: rest) ∧
      (∀ word ∈ name :: rest, IsPathWord word) ∧ (name :: rest).getLast? ≠ some "Self" ∧
      other.pathNames = name :: rest ∧ other.leadingColons?.isSome = false := by
  obtain ⟨name, rest, identity, words, last, spelled⟩ := respelled_of_named wellNamed named
  have lead := leadingColons?_respelled wellNamed named
  rw [respelled_of_not_named free] at alike
  refine ⟨name, rest, identity, words, last, ?_, ?_⟩
  · rw [← (goesDown_mapTypePaths (qualifiedPath? declarations target.home)).pathNames other]
    refine (Tree.pathNames_eq_of_unplaced alike).symm.trans ?_
    rw [← Tree.goesDown_unplaced.pathNames, spelled, Tree.pathNames_spelled]
  · rw [← (goesDown_mapTypePaths (qualifiedPath? declarations target.home)).leadingColons? other]
    exact (Tree.leadingColons?_eq_of_unplaced alike).symm.trans lead

/-- Paths that are left alone and spelled alike have the same names. -/
theorem pathNames_eq_of_alike (free : namedIn declarations origin.home path = none)
    (free' : namedIn declarations target.home other = none)
    (alike : (respelled declarations origin.home path).unplaced =
      (respelled declarations target.home other).unplaced) :
    path.pathNames = other.pathNames ∧
      path.leadingColons?.isSome = other.leadingColons?.isSome := by
  rw [respelled_of_not_named free, respelled_of_not_named free'] at alike
  constructor
  · have names := Tree.pathNames_eq_of_unplaced alike
    rwa [qualifyType, (goesDown_mapTypePaths _).pathNames, qualifyType,
      (goesDown_mapTypePaths _).pathNames] at names
  · have lead := Tree.leadingColons?_eq_of_unplaced alike
    rwa [qualifyType, (goesDown_mapTypePaths _).leadingColons?, qualifyType,
      (goesDown_mapTypePaths _).leadingColons?] at lead

theorem not_isSelfPath {name : String} {rest : List String}
    (last : (name :: rest).getLast? ≠ some "Self") (names : path.pathNames = name :: rest) :
    isSelfPath path = false := by
  unfold isSelfPath
  rw [Bool.and_eq_false_iff]
  refine .inr (decide_eq_false fun same => last ?_)
  rw [← names, same]
  rfl

theorem isSelfPath_congr (names : path.pathNames = other.pathNames)
    (lead : path.leadingColons?.isSome = other.leadingColons?.isSome) :
    isSelfPath path = isSelfPath other := by
  unfold isSelfPath
  rw [names, ← Option.not_isSome, lead, Option.not_isSome]

/-- Two paths that are spelled alike name the same, or nothing, exactly when both are respelled or
both are left alone, and neither is the `Self` of another struct. -/
theorem named_eq_iff_of_alike (wellNamed : ∀ declaration ∈ declarations, declaration.WellNamed)
    (ho : origin ∈ declarations) (ht : target ∈ declarations)
    (alike : (respelled declarations origin.home path).unplaced =
      (respelled declarations target.home other).unplaced) :
    origin.named declarations path = target.named declarations other ↔
      isRespelled declarations origin.home path = isRespelled declarations target.home other ∧
        (isSelfPath path = true → origin.identity = target.identity) := by
  rw [isRespelled_eq wellNamed, isRespelled_eq wellNamed]
  unfold Declaration.named
  cases hp : namedIn declarations origin.home path with
  | some identity =>
    have own := isSelfPath_of_named wellNamed (wellNamed origin ho).home hp
    cases hq : namedIn declarations target.home other with
    | some identity' =>
      have own' := isSelfPath_of_named wellNamed (wellNamed target ht).home hq
      obtain ⟨name, rest, rfl, -, -, spelled⟩ := respelled_of_named wellNamed hp
      obtain ⟨name', rest', rfl, -, -, spelled'⟩ := respelled_of_named wellNamed hq
      have names : name :: rest = name' :: rest' := by
        rw [spelled, spelled'] at alike
        rw [← Tree.pathNames_spelled name rest, alike, Tree.pathNames_spelled]
      simp [own, own', names]
    | none =>
      obtain ⟨name, rest, -, -, last, names, -⟩ := pathNames_of_alike wellNamed hp hq alike
      simp [own, not_isSelfPath last names]
  | none =>
    cases hq : namedIn declarations target.home other with
    | some identity =>
      have own' := isSelfPath_of_named wellNamed (wellNamed target ht).home hq
      obtain ⟨name, rest, -, -, last, names, -⟩ := pathNames_of_alike wellNamed hq hp alike.symm
      simp [own', not_isSelfPath last names]
    | none =>
      obtain ⟨names, lead⟩ := pathNames_eq_of_alike hp hq alike
      rw [isSelfPath_congr names lead]
      by_cases own : isSelfPath other = true
      · simp [own]
      · simp [own]

/-- The module of a declaration is not empty, so its first name is that of the full name. -/
theorem eq_crate_of_head {declaration : Declaration} {name : String} {rest : List String}
    (rooted : declaration.home.names.head? = some "crate")
    (head : declaration.home.names.head? = (name :: rest).dropLast.head?) : name = "crate" := by
  rw [rooted] at head
  cases rest with
  | nil => cases head
  | cons next rest => exact (Option.some.inj head).symm

/-- Where every full name starts from the root, a path with the names of a declaration names it in
every module. -/
theorem named_of_alike (wellNamed : ∀ declaration ∈ declarations, declaration.WellNamed)
    (rooted : ∀ declaration ∈ declarations, declaration.home.names.head? = some "crate")
    {identity : Identity} (named : namedIn declarations origin.home path = some identity)
    (alike : (respelled declarations origin.home path).unplaced =
      (respelled declarations target.home other).unplaced) :
    namedIn declarations target.home other ≠ none := by
  intro free
  obtain ⟨name, rest, rfl, words, -, names, lead⟩ := pathNames_of_alike wellNamed named free alike
  obtain ⟨-, declaration, hm, same⟩ := namedIn_eq_some.mp named
  obtain ⟨first, more, _, identity, words', -, head, -⟩ := (wellNamed declaration hm).exists_path
  have agree : first :: more = name :: rest := ofSegments_inj words' words (identity ▸ same)
  obtain rfl := eq_crate_of_head (rooted declaration hm) (agree ▸ head)
  have resolves : resolve target.home other = some (.ofSegments ("crate" :: rest)) :=
    resolve_crate lead names
  exact absurd free (Option.ne_none_iff_exists'.mpr
    ⟨_, namedIn_eq_some.mpr ⟨resolves, declaration, hm, same⟩⟩)

/-- Where every full name starts from the root, a path that is left alone is not spelled as one that
is respelled: it would name the same declaration. -/
theorem isRespelled_eq_of_alike (wellNamed : ∀ declaration ∈ declarations, declaration.WellNamed)
    (rooted : ∀ declaration ∈ declarations, declaration.home.names.head? = some "crate")
    (alike : (respelled declarations origin.home path).unplaced =
      (respelled declarations target.home other).unplaced) :
    isRespelled declarations origin.home path = isRespelled declarations target.home other := by
  rw [isRespelled_eq wellNamed, isRespelled_eq wellNamed]
  cases hp : namedIn declarations origin.home path with
  | some identity =>
    have named := named_of_alike wellNamed rooted hp alike
    exact (Option.isSome_iff_ne_none.mpr named).symm
  | none =>
    cases hq : namedIn declarations target.home other with
    | some identity => exact absurd hp (named_of_alike wellNamed rooted hq alike.symm)
    | none => rfl

end Alike

end RecordMapper
