/-
Items that are compiled in some module declare what they declare at the top, with the path of the module
in front of every identity. A path that neither starts at the root of the crate nor climbs above the items
names the same declaration in both, and nothing in one exactly if it names nothing in the other.
-/
import RecordMapper.Proofs.Extracted

namespace RecordMapper

open Code

/-! ## Identities -/

/-- The identity that a name at the top gets where the top is the module `root`. -/
def Identity.under (root : List String) (identity : Identity) : Identity :=
  if identity.text = "" then .ofSegments root
  else ⟨(Identity.ofSegments root).text ++ "::" ++ identity.text⟩

theorem intercalate_ne_empty {names : List String} (some_name : names ≠ [])
    (h : ∀ name ∈ names, name ≠ "") : String.intercalate "::" names ≠ "" := by
  obtain ⟨name, rest, rfl⟩ := List.exists_cons_of_ne_nil some_name
  cases rest with
  | nil => exact String.intercalate_singleton ▸ h name List.mem_cons_self
  | cons next rest =>
    intro empty
    rw [String.intercalate_cons_cons, String.append_eq_empty_iff, String.append_eq_empty_iff] at empty
    exact absurd empty.1.2 (by decide)

/-- The root is a module with a name. -/
def IsRoot (root : List String) : Prop :=
  root.filter (· ≠ "") ≠ []

/-- A root that starts at `crate` is one. -/
theorem isRoot_of_crate {root : List String} (h : root.head? = some "crate") : IsRoot root := by
  cases root with
  | nil => cases h
  | cons first rest =>
    obtain rfl := Option.some.inj h
    exact List.cons_ne_nil _ _

section Under

variable {root : List String}

theorem ofSegments_append (hroot : IsRoot root) (names : List String) :
    Identity.ofSegments (root ++ names) = (Identity.ofSegments names).under root := by
  unfold Identity.under
  by_cases none_named : names.filter (· ≠ "") = []
  · have empty : (Identity.ofSegments names).text = "" := by
      rw [Identity.ofSegments, none_named, String.intercalate_nil]
    rw [if_pos empty, Identity.ofSegments, List.filter_append, none_named, List.append_nil,
      Identity.ofSegments]
  · have nonempty : (Identity.ofSegments names).text ≠ "" :=
      intercalate_ne_empty none_named fun name hm => by simpa using (List.mem_filter.mp hm).2
    rw [if_neg nonempty, Identity.ofSegments, List.filter_append,
      String.intercalate_append_of_ne_nil hroot none_named]
    rfl

/-- Different identities stay different. -/
theorem under_inj {identity other : Identity} :
    identity.under root = other.under root ↔ identity = other := by
  refine ⟨fun same => ?_, fun same => same ▸ rfl⟩
  obtain ⟨text⟩ := identity
  obtain ⟨text'⟩ := other
  have apart (text : String) :
      (Identity.ofSegments root).text ≠ (Identity.ofSegments root).text ++ "::" ++ text := by
    intro same
    have lengths := congrArg String.length same
    rw [String.length_append, String.length_append] at lengths
    have two : "::".length = 2 := rfl
    omega
  have same := congrArg Identity.text same
  unfold Identity.under at same
  by_cases h : text = "" <;> by_cases h' : text' = ""
  · rw [h, h']
  · rw [if_pos h, if_neg h'] at same
    exact absurd same (apart text')
  · rw [if_neg h, if_pos h'] at same
    exact absurd same.symm (apart text)
  · rw [if_neg h, if_neg h'] at same
    rw [Identity.mk.injEq]
    exact String.append_right_inj _ |>.mp same

/-! ## Last names -/

section LastName

variable {last : List Char}

theorem splitAtLastSeparator?_of_not_mem (h : ':' ∉ last) : splitAtLastSeparator? last = none := by
  induction last with
  | nil => rfl
  | cons c last ih =>
    rw [List.mem_cons, not_or] at h
    rw [splitAtLastSeparator?, ih h.2]
    exact fun _ colon _ => absurd colon.symm h.1

theorem splitAtLastSeparator?_append (front : List Char) (h : ':' ∉ last) :
    splitAtLastSeparator? (front ++ ':' :: ':' :: last) = some (front, last) := by
  induction front with
  | nil =>
    have behind : splitAtLastSeparator? (':' :: last) = none := by
      rw [splitAtLastSeparator?, splitAtLastSeparator?_of_not_mem h]
      rintro after - rfl
      exact h List.mem_cons_self
    rw [List.nil_append, splitAtLastSeparator?, behind]
  | cons c front ih => simp only [List.cons_append, splitAtLastSeparator?, ih]

end LastName

/-- The last segment stands alone or behind the last separator. -/
theorem splitAtLastSeparator?_ofSegments (names : List String) {name : String} (nonempty : name ≠ "")
    (h : ':' ∉ name.toList) :
    splitAtLastSeparator? (Identity.ofSegments (names ++ [name])).text.toList =
      if names.filter (· ≠ "") = [] then none
      else some ((Identity.ofSegments names).text.toList, name.toList) := by
  have kept : [name].filter (· ≠ "") = [name] := by simp [nonempty]
  unfold Identity.ofSegments
  rw [List.filter_append, kept]
  split
  · next none_named =>
    rw [none_named, List.nil_append, String.intercalate_singleton, splitAtLastSeparator?_of_not_mem h]
  · next some_named =>
    rw [String.intercalate_append_of_ne_nil some_named (List.cons_ne_nil _ _),
      String.intercalate_singleton, String.toList_append, String.toList_append, List.append_assoc]
    have separator : "::".toList ++ name.toList = ':' :: ':' :: name.toList := rfl
    rw [separator, splitAtLastSeparator?_append _ h]

theorem simpleName_ofSegments {names : List String} {name : String} (nonempty : name ≠ "")
    (h : ':' ∉ name.toList) :
    (Identity.ofSegments (names ++ [name])).simpleName = String.ofList (dropRawMark name.toList) := by
  rw [Identity.simpleName, splitAtLastSeparator?_ofSegments names nonempty h]
  by_cases none_named : names.filter (· ≠ "") = []
  · have alone : (Identity.ofSegments (names ++ [name])).text = name := by
      rw [Identity.ofSegments, List.filter_append, none_named, List.nil_append]
      simp [nonempty]
    rw [if_pos none_named, alone]
  · rw [if_neg none_named]

/-- The function to a record has one name in every module. -/
theorem mapperName_under (hroot : IsRoot root) {names : List String} {name : String}
    (nonempty : name ≠ "") (h : ':' ∉ name.toList) :
    ((Identity.ofSegments (names ++ [name])).under root).mapperName =
      (Identity.ofSegments (names ++ [name])).mapperName := by
  unfold Identity.mapperName
  rw [← ofSegments_append hroot, ← List.append_assoc, simpleName_ofSegments nonempty h,
    simpleName_ofSegments nonempty h]

end Under

theorem Code.IsPathWord.colon_not_mem {name : String} (h : IsPathWord name) : ':' ∉ name.toList := by
  have starts : Text.startsIdentifier ':' = false := by decide +kernel
  have continues : Text.continuesIdentifier ':' = false := by decide +kernel
  intro hm
  have form := wordForm_of_scanWord h.scans
  generalize name.toList = word at form hm
  cases form with
  | plain first others =>
    rcases List.mem_cons.mp hm with rfl | hm
    · exact absurd first (starts ▸ Bool.false_ne_true)
    · exact absurd (others _ hm) (continues ▸ Bool.false_ne_true)
  | raw first others _ =>
    simp only [List.mem_cons, Char.reduceEq, false_or] at hm
    rcases hm with rfl | hm
    · exact absurd first (starts ▸ Bool.false_ne_true)
    · exact absurd (others _ hm) (continues ▸ Bool.false_ne_true)

/-! ## Declarations -/

/-- A module of a scan at the top, where the top is the module `root`. -/
def Home.under (root : List String) (home : Home) : Home :=
  { home with root := root ++ home.root }

namespace Home

@[simp] theorem names_under (root : List String) (home : Home) :
    (home.under root).names = root ++ home.names :=
  List.append_assoc ..

theorem under_top (root : List String) : (top []).under root = top root :=
  congrArg top (List.append_nil root)

end Home

/-- What is declared at the top, where the top is the module `root`. -/
def Declaration.under (root : List String) (declaration : Declaration) : Declaration :=
  { declaration with identity := declaration.identity.under root, home := declaration.home.under root }

section Declarations

variable {root : List String}

theorem declarationOf?_root (hroot : IsRoot root) (home : Home) (kind : ItemKind)
    (parts : List Tree) :
    declarationOf? (home.under root) kind parts =
      (declarationOf? home kind parts).map (Declaration.under root) := by
  unfold declarationOf?
  split
  · rw [Home.names_under, List.append_assoc, ofSegments_append hroot]
    rfl
  · rfl

mutual

theorem declarationsOf_root (hroot : IsRoot root) : ∀ (home : Home) (tree : Tree),
    declarationsOf (home.under root) tree = (declarationsOf home tree).map (Declaration.under root)
  | home, .token .. => rfl
  | home, .group .. => rfl
  | home, .node role parts => by
    unfold declarationsOf
    split
    · next same =>
      cases same
      split
      · exact declarationsInBody_root hroot (home.inside _) parts
      · rfl
    · rw [declarationOf?_root hroot, Option.toList_map]
    · rfl

theorem declarationsInBody_root (hroot : IsRoot root) : ∀ (home : Home) (trees : List Tree),
    declarationsInBody (home.under root) trees =
      (declarationsInBody home trees).map (Declaration.under root)
  | home, [] => rfl
  | home, .group .brace _ _ inner :: rest => by
    rw [declarationsInBody, declarationsInBody, List.map_append, declarationsIn_root hroot home inner,
      declarationsInBody_root hroot home rest]
  | home, .group .paren .. :: rest | home, .group .bracket .. :: rest | home, .token .. :: rest |
    home, .node .. :: rest => by
    simpa only [declarationsInBody] using declarationsInBody_root hroot home rest

/-- Items below a root declare what they declare at the top, in the same order. -/
theorem declarationsIn_root (hroot : IsRoot root) : ∀ (home : Home) (trees : List Tree),
    declarationsIn (home.under root) trees = (declarationsIn home trees).map (Declaration.under root)
  | home, [] => rfl
  | home, tree :: rest => by
    rw [declarationsIn, declarationsIn, List.map_append, declarationsOf_root hroot home tree,
      declarationsIn_root hroot home rest]

end

theorem lookUp_under (declarations : List Declaration) (identity : Identity) :
    lookUp (declarations.map (Declaration.under root)) (identity.under root) =
      (lookUp declarations identity).map (Declaration.under root) := by
  unfold lookUp
  rw [← List.map_reverse, List.find?_map]
  congr 2
  funext declaration
  exact decide_eq_decide.mpr under_inj

theorem Declaration.WellNamed.under {declaration : Declaration} (h : declaration.WellNamed)
    (hroot : IsRoot root) (words : ∀ name ∈ root, IsPathWord name) :
    (declaration.under root).WellNamed where
  home := by
    rw [Declaration.under, Home.names_under]
    exact List.forall_mem_append.mpr ⟨words, h.home⟩
  identity := by
    obtain ⟨name, word, free, identity⟩ := h.identity
    refine ⟨name, word, free, ?_⟩
    simp only [Declaration.under]
    rw [identity, ← ofSegments_append hroot, Home.names_under, List.append_assoc]

theorem forall_wellNamed_under {declarations : List Declaration} (hroot : IsRoot root)
    (words : ∀ name ∈ root, IsPathWord name)
    (wellNamed : ∀ declaration ∈ declarations, declaration.WellNamed) :
    ∀ declaration ∈ declarations.map (Declaration.under root), declaration.WellNamed :=
  List.forall_mem_map.mpr fun declaration hm => (wellNamed declaration hm).under hroot words

theorem Declaration.WellNamed.mapperName_under {declaration : Declaration} (h : declaration.WellNamed)
    (hroot : IsRoot root) :
    (declaration.identity.under root).mapperName = declaration.identity.mapperName := by
  obtain ⟨name, word, -, identity⟩ := h.identity
  rw [identity, RecordMapper.mapperName_under hroot word.ne_empty word.colon_not_mem]

end Declarations

/-! ## Paths -/

/-- A path that leads neither to the root of the crate nor above the top, if it leads anywhere. -/
structure StaysInside (home : Home) (path : Tree) : Prop where
  relative : path.pathNames.head? ≠ some "crate"
  below : path.leadingColons?.isSome = false → (resolve home path).isSome = true

instance (home : Home) (path : Tree) : Decidable (StaysInside home path) :=
  decidable_of_iff (path.pathNames.head? ≠ some "crate" ∧
    (path.leadingColons?.isSome = false → (resolve home path).isSome = true))
    ⟨fun h => ⟨h.1, h.2⟩, fun h => ⟨h.relative, h.below⟩⟩

section Paths

variable {root : List String} {home : Home} {path : Tree}

theorem climb_root {modules names up rest : List String} (h : climb modules names = some (up, rest)) :
    climb (root ++ modules) names = some (root ++ up, rest) := by
  fun_induction climb modules names with
  | case1 => cases h
  | case2 => cases h
  | case3 modules rest last above inner ih =>
    have nonempty : modules ≠ [] := List.getLast?_isSome.mp (by rw [inner]; rfl)
    rw [climb, List.getLast?_append_of_ne_nil root nonempty, inner]
    split
    · contradiction
    · next same => exact absurd (Option.some.inj same) above
    · rw [List.dropLast_append_of_ne_nil nonempty]
      exact ih h
  | case4 modules names other =>
    cases h
    rw [climb]
    exact other

theorem resolve_root (hroot : IsRoot root) (h : StaysInside home path) :
    resolve (home.under root) path = (resolve home path).map (Identity.under root) := by
  unfold resolve
  cases lead : path.leadingColons?.isSome with
  | true => rfl
  | false =>
    have inside := h.below lead
    simp only [resolve, lead, Bool.false_eq_true, if_false, if_neg h.relative, Option.isSome_map] at inside ⊢
    obtain ⟨⟨up, rest⟩, climbs⟩ := Option.isSome_iff_exists.mp inside
    rw [climbs, Home.names_under, climb_root climbs]
    simp only [Option.map_some, List.append_assoc, ofSegments_append hroot]

theorem namedIn_root (hroot : IsRoot root) (h : StaysInside home path)
    (declarations : List Declaration) :
    namedIn (declarations.map (Declaration.under root)) (home.under root) path =
      (namedIn declarations home path).map (Identity.under root) := by
  unfold namedIn
  rw [resolve_root hroot h, Option.filter_map]
  congr 2
  funext identity
  rw [Function.comp_apply, lookUp_under, Option.isSome_map]

end Paths

end RecordMapper
