/-
Below a root that starts at `crate` every declaration has a path that names it from everywhere. The paths of
a type that name declarations are replaced by these, inner ones first, and nothing else of the type changes.
A replaced path names what it named, so that replacing again changes nothing, and no module captures it.
-/
import RecordMapper.Proofs.EvenPaths
import RecordMapper.Proofs.TargetLists

namespace RecordMapper

open Code

/-! ## Full paths -/

/-- The path that an identity reads as, with arguments after its last name. -/
def IsFullPath (identity : Identity) (arguments : List Tree) (full : Tree) : Prop :=
  ∃ name rest plain, identity = .ofSegments (name :: rest) ∧
    pathOfText? identity.text = some plain ∧ plain.unplaced = Tree.spelled name rest [] ∧
    full = plain.withLastArguments arguments

/-- The second list of trees is the first, written in the module `home`, by full identities. Every type that
is a path and names a declaration is replaced by the path of its identity; the arguments of the last segment
are kept, by full identities themselves. Everything else is kept as it is. -/
inductive Qualifies (declarations : List Declaration) (home : Home) : List Tree → List Tree → Prop
  | nil : Qualifies declarations home [] []
  | token (t : Token) (span : Span) {rest others : List Tree} :
    Qualifies declarations home rest others →
      Qualifies declarations home (.token t span :: rest) (.token t span :: others)
  | group (delimiter : Delimiter) (opening closing : Span) {inner inner' rest others : List Tree} :
    Qualifies declarations home inner inner' → Qualifies declarations home rest others →
      Qualifies declarations home (.group delimiter opening closing inner :: rest)
        (.group delimiter opening closing inner' :: others)
  | node (role : Role) {parts parts' rest others : List Tree} (h : role = .typePath → parts.length ≠ 1) :
    Qualifies declarations home parts parts' → Qualifies declarations home rest others →
      Qualifies declarations home (.node role parts :: rest) (.node role parts' :: others)
  | named {path path' full : Tree} {identity : Identity} {rest others : List Tree} :
    namedIn declarations home path = some identity → Qualifies declarations home [path] [path'] →
      IsFullPath identity path'.lastArguments full → Qualifies declarations home rest others →
        Qualifies declarations home (.node .typePath [path] :: rest) (.node .typePath [full] :: others)
  | free {path path' : Tree} {rest others : List Tree} :
    namedIn declarations home path = none → Qualifies declarations home [path] [path'] →
      Qualifies declarations home rest others →
        Qualifies declarations home (.node .typePath [path] :: rest) (.node .typePath [path'] :: others)

section FullPath

variable {declarations : List Declaration} {home : Home} {path full plain : Tree}
  {identity : Identity} {arguments : List Tree}

theorem qualifiedPath?_of_named (named : namedIn declarations home path = some identity) :
    qualifiedPath? declarations home path =
      (pathOfText? identity.text).map (·.withLastArguments path.lastArguments) := by
  obtain ⟨resolves, found⟩ := Option.filter_eq_some_iff.mp named
  obtain ⟨declaration, found⟩ := Option.isSome_iff_exists.mp found
  simp only [qualifiedPath?, resolves, found]

/-- What a path that names a declaration is replaced by. -/
theorem qualifiedPath?_eq_some_iff (wellNamed : ∀ declaration ∈ declarations, declaration.WellNamed)
    (named : namedIn declarations home path = some identity) :
    qualifiedPath? declarations home path = some full ↔ IsFullPath identity path.lastArguments full := by
  rw [qualifiedPath?_of_named named]
  constructor
  · intro replaced
    obtain ⟨-, declaration, hm, rfl⟩ := namedIn_eq_some.mp named
    obtain ⟨name, rest, plain, same, -, -, -, read, spelled⟩ := (wellNamed declaration hm).exists_path
    rw [read, Option.map_some, Option.some.injEq] at replaced
    exact ⟨name, rest, plain, same, read, spelled, replaced.symm⟩
  · rintro ⟨name, rest, plain, -, read, -, rfl⟩
    rw [read, Option.map_some]

/-- A text that reads as a path of names is read from the tokens of one. -/
theorem exists_tokens_of_text {text name : String} {rest : List String}
    (read : pathOfText? text = some plain) (spelled : plain.unplaced = Tree.spelled name rest []) :
    ∃ tokens parts, Grammar.PathTokens tokens parts ∧ plain = .node .path parts := by
  obtain ⟨trees, -, read⟩ := Option.bind_eq_some_iff.mp read
  have relative : plain.leadingColons? = none := by
    rw [← Option.isSome_eq_false_iff.trans Option.isNone_iff_eq_none,
      ← Tree.goesDown_unplaced.leadingColons?, spelled, Tree.leadingColons?_spelled, Option.isSome_none]
  have bare : plain.allArguments = [] := by
    have none_given := Tree.goesDown_unplaced.allArguments plain
    rw [spelled, Tree.allArguments_spelled] at none_given
    exact List.map_eq_nil_iff.mp none_given.symm
  obtain ⟨tokens, parts, path, -, rfl⟩ :=
    Grammar.exists_tokens_of_path (Read.all?_eq_some.mp read) relative (List.flatMap_eq_nil_iff.mp bare)
  exact ⟨tokens, parts, path, rfl⟩

theorem replaceLastArguments_concat (name : Tree) (old arguments front : List Tree) :
    Tree.replaceLastArguments arguments (front ++ [.node .segment (name :: old)]) =
      front ++ [.node .segment (name :: arguments)] := by
  induction front with
  | nil => rfl
  | cons part front ih =>
    rw [List.cons_append, Tree.replaceLastArguments_cons _ _ (by simp), ih, List.cons_append]

theorem exists_last_of_tokens {tokens parts : List Tree} (h : Grammar.PathTokens tokens parts) :
    ∃ front name place, parts = front ++ [.node .segment [.token (.word name) place]] ∧
      Tree.typePathsOf front = [] := by
  induction h with
  | last word place => exact ⟨[], _, place, rfl, rfl⟩
  | more word place p q joint _ ih =>
    obtain ⟨front, name, place', rfl, bare⟩ := ih
    exact ⟨_ :: _ :: front, name, place', rfl, bare⟩

/-- The types in a full path are those in its arguments. -/
theorem IsFullPath.exists_parts (h : IsFullPath identity arguments full) :
    ∃ front name place,
      full = .node .path (front ++ [.node .segment (.token (.word name) place :: arguments)]) ∧
        Tree.typePathsOf front = [] := by
  obtain ⟨name, rest, plain, -, read, spelled, rfl⟩ := h
  obtain ⟨tokens, parts, path, rfl⟩ := exists_tokens_of_text read spelled
  obtain ⟨front, name, place, rfl, bare⟩ := exists_last_of_tokens path
  refine ⟨front, name, place, ?_, bare⟩
  rw [Tree.withLastArguments, replaceLastArguments_concat]

theorem IsFullPath.lastArguments_eq (h : IsFullPath identity arguments full) :
    full.lastArguments = arguments := by
  obtain ⟨front, name, place, rfl, -⟩ := h.exists_parts
  simp [Tree.lastArguments, Tree.segments, List.filter_append, Tree.segmentName?, Tree.segmentArguments]

/-- A full path names the declaration from every module. -/
theorem IsFullPath.namedIn_eq (wellNamed : ∀ declaration ∈ declarations, declaration.WellNamed)
    (rooted : ∀ declaration ∈ declarations, declaration.home.names.head? = some "crate")
    (named : namedIn declarations home path = some identity) (h : IsFullPath identity arguments full)
    (elsewhere : Home) : namedIn declarations elsewhere full = some identity := by
  obtain ⟨-, declaration, hm, rfl⟩ := namedIn_eq_some.mp named
  obtain ⟨name, rest, plain, same, words, -, head, read, spelled⟩ := (wellNamed declaration hm).exists_path
  obtain ⟨-, -, plain', -, read', -, rfl⟩ := h
  obtain rfl := Option.some.inj (read'.symm.trans read)
  have spelled : (plain'.withLastArguments arguments).unplaced =
      Tree.spelled name rest (Tree.unplacedAll arguments) := by
    rw [Tree.withLastArguments_unplaced, spelled, Tree.withLastArguments_spelled]
  obtain rfl := eq_crate_of_head (rooted declaration hm) head
  refine namedIn_eq_some.mpr ⟨?_, declaration, hm, rfl⟩
  rw [same]
  refine resolve_crate ?_ ?_
  · rw [← Tree.goesDown_unplaced.leadingColons?, spelled, Tree.leadingColons?_spelled, Option.isSome_none]
  · rw [← Tree.goesDown_unplaced.pathNames, spelled, Tree.pathNames_spelled]

end FullPath

/-! ## The replacement -/

section Qualifies

variable {declarations : List Declaration} {home : Home} {trees others : List Tree}

theorem Qualifies.length_eq (h : Qualifies declarations home trees others) :
    trees.length = others.length := by
  induction h with
  | nil => rfl
  | _ => simp only [List.length_cons, *]

theorem Qualifies.eq_mapTypePathsAll (wellNamed : ∀ declaration ∈ declarations, declaration.WellNamed)
    (h : Qualifies declarations home trees others) :
    others = mapTypePathsAll (qualifiedPath? declarations home) trees := by
  induction h with
  | nil => rfl
  | token t span _ ih => rw [mapTypePathsAll, ← ih, mapTypePaths]
  | group delimiter opening closing _ _ inside ih => rw [mapTypePathsAll, ← ih, mapTypePaths, ← inside]
  | node role notLone _ _ inside ih => rw [mapTypePathsAll, ← ih, mapTypePaths_node _ notLone, ← inside]
  | @named path path' full identity _ _ named _ replaced _ inside ih =>
    obtain rfl : path' = qualifyType declarations home path := (List.cons.inj inside).1
    rw [← namedIn_qualifyType] at named
    rw [mapTypePathsAll, ← ih, mapTypePaths_typePath]
    have replaced := (qualifiedPath?_eq_some_iff wellNamed named).mpr replaced
    rw [qualifyType] at replaced
    rw [replaced, Option.getD_some]
  | @free path path' _ _ free _ _ inside ih =>
    obtain rfl : path' = qualifyType declarations home path := (List.cons.inj inside).1
    rw [← namedIn_qualifyType] at free
    rw [mapTypePathsAll, ← ih, mapTypePaths_typePath]
    have kept := qualifiedPath?_eq_none free
    rw [qualifyType] at kept
    rw [kept, Option.getD_none, qualifyType]

mutual

theorem Qualifies.cons_mapTypePaths (wellNamed : ∀ declaration ∈ declarations, declaration.WellNamed) :
    ∀ (tree : Tree) {rest others : List Tree}, Qualifies declarations home rest others →
      Qualifies declarations home (tree :: rest) (qualifyType declarations home tree :: others)
  | .token t span, _, _, after => .token t span after
  | .group delimiter opening closing inner, _, _, after =>
    .group delimiter opening closing (qualifies_mapTypePathsAll wellNamed inner) after
  | .node role parts, _, _, after => by
    have inside := qualifies_mapTypePathsAll wellNamed parts
    rcases lone_or role parts with ⟨rfl, path, rfl⟩ | notLone
    · have kept := @namedIn_qualifyType declarations home path
      rw [qualifyType, mapTypePaths_typePath]
      cases named : namedIn declarations home path with
      | none =>
        rw [named] at kept
        have alone := qualifiedPath?_eq_none kept
        rw [qualifyType] at alone
        rw [alone, Option.getD_none]
        exact .free named inside after
      | some identity =>
        rw [named] at kept
        obtain ⟨_, _, full, -, -, -, replaced, -⟩ := exists_qualifiedPath? wellNamed kept
        have isFull := (qualifiedPath?_eq_some_iff wellNamed kept).mp replaced
        rw [qualifyType] at replaced
        rw [replaced, Option.getD_some]
        exact .named named inside isFull after
    · rw [qualifyType, mapTypePaths_node _ notLone]
      exact .node role notLone inside after

theorem qualifies_mapTypePathsAll (wellNamed : ∀ declaration ∈ declarations, declaration.WellNamed) :
    ∀ trees : List Tree,
      Qualifies declarations home trees (mapTypePathsAll (qualifiedPath? declarations home) trees)
  | [] => .nil
  | tree :: rest => Qualifies.cons_mapTypePaths wellNamed tree (qualifies_mapTypePathsAll wellNamed rest)

end

theorem qualifies_iff (wellNamed : ∀ declaration ∈ declarations, declaration.WellNamed) :
    Qualifies declarations home trees others ↔
      others = mapTypePathsAll (qualifiedPath? declarations home) trees := by
  constructor
  · exact Qualifies.eq_mapTypePathsAll wellNamed
  · rintro rfl
    exact qualifies_mapTypePathsAll wellNamed trees

theorem Qualifies.append {trees' others' : List Tree} (front : Qualifies declarations home trees others)
    (back : Qualifies declarations home trees' others') :
    Qualifies declarations home (trees ++ trees') (others ++ others') := by
  induction front with
  | nil => exact back
  | token t span _ ih => exact .token t span ih
  | group delimiter opening closing inside _ _ ih => exact .group delimiter opening closing inside ih
  | node role notLone inside _ _ ih => exact .node role notLone inside ih
  | named named inside isFull _ _ ih => exact .named named inside isFull ih
  | free free inside _ _ ih => exact .free free inside ih

end Qualifies

/-! ## Replacing again -/

section Again

variable {declarations : List Declaration} {home : Home} {trees others arguments : List Tree}
  {path path' full : Tree} {identity : Identity}

theorem lonePath?_eq_none {role : Role} {parts : List Tree} (h : role = .typePath → parts.length ≠ 1) :
    Tree.lonePath? role parts = none := by
  unfold Tree.lonePath?
  split
  · exact absurd rfl (h rfl)
  · rfl

mutual

theorem Qualifies.cons_self : ∀ (tree : Tree) {rest others : List Tree}, tree.typePaths = [] →
    Qualifies declarations home rest others →
      Qualifies declarations home (tree :: rest) (tree :: others)
  | .token t span, _, _, _, after => .token t span after
  | .group delimiter opening closing inner, _, _, bare, after =>
    .group delimiter opening closing (qualifies_self inner bare) after
  | .node role parts, _, _, bare, after => by
    obtain ⟨alone, bare⟩ := List.append_eq_nil_iff.mp bare
    rcases lone_or role parts with ⟨rfl, path, rfl⟩ | notLone
    · cases alone
    · exact .node role notLone (qualifies_self parts bare) after

/-- Where no type is a path there is nothing to replace. -/
theorem qualifies_self : ∀ trees : List Tree, Tree.typePathsOf trees = [] →
    Qualifies declarations home trees trees
  | [], _ => .nil
  | tree :: rest, bare => by
    obtain ⟨first, others⟩ := List.append_eq_nil_iff.mp bare
    exact Qualifies.cons_self tree first (qualifies_self rest others)

end

/-- In a full path there is nothing to replace but in its arguments. -/
theorem IsFullPath.qualifies (h : IsFullPath identity arguments full)
    (inside : Qualifies declarations home arguments arguments) :
    Qualifies declarations home [full] [full] := by
  obtain ⟨front, name, place, rfl, bare⟩ := h.exists_parts
  refine .node .path nofun ?_ .nil
  refine (qualifies_self front bare).append ?_
  exact .node .segment nofun (.token _ _ inside) .nil

theorem IsFullPath.typePaths_eq (h : IsFullPath identity arguments full) :
    full.typePaths = Tree.typePathsOf arguments := by
  obtain ⟨front, name, place, rfl, bare⟩ := h.exists_parts
  rw [Tree.typePathsOf_eq_flatMap] at bare
  simp [Tree.typePaths, Tree.lonePath?, Tree.typePathsOf_eq_flatMap, bare]

theorem Qualifies.namedIn_eq (wellNamed : ∀ declaration ∈ declarations, declaration.WellNamed)
    (h : Qualifies declarations home [path] [path']) :
    namedIn declarations home path' = namedIn declarations home path := by
  obtain rfl : path' = qualifyType declarations home path :=
    (List.cons.inj (h.eq_mapTypePathsAll wellNamed)).1
  exact namedIn_qualifyType

/-- The arguments of the last segment, where a path stays as it is. -/
theorem Qualifies.lastArguments (wellNamed : ∀ declaration ∈ declarations, declaration.WellNamed)
    (h : Qualifies declarations home [path] [path]) :
    Qualifies declarations home path.lastArguments path.lastArguments := by
  rw [qualifies_iff wellNamed] at h ⊢
  rw [mapTypePathsAll_eq_map, ← (goesDown_mapTypePaths _).lastArguments, ← (List.cons.inj h).1]

section Rooted

variable (wellNamed : ∀ declaration ∈ declarations, declaration.WellNamed)
  (rooted : ∀ declaration ∈ declarations, declaration.home.names.head? = some "crate")

include wellNamed rooted

/-- What was replaced is a full path, and names what it is the full path of. -/
theorem Qualifies.again (h : Qualifies declarations home trees others) :
    Qualifies declarations home others others := by
  induction h with
  | nil => exact .nil
  | token t span _ ih => exact .token t span ih
  | group delimiter opening closing _ _ inside ih => exact .group delimiter opening closing inside ih
  | node role notLone parts _ inside ih => exact .node role (parts.length_eq ▸ notLone) inside ih
  | named named _ isFull _ inside ih =>
    refine .named (isFull.namedIn_eq wellNamed rooted named home)
      (isFull.qualifies (inside.lastArguments wellNamed)) ?_ ih
    rwa [isFull.lastArguments_eq]
  | free free path _ inside ih => exact .free (path.namedIn_eq wellNamed ▸ free) inside ih

/-- A path in the result that names a declaration names it from every module. -/
theorem Qualifies.named_everywhere (h : Qualifies declarations home trees others) :
    ∀ path ∈ Tree.typePathsOf others, ∀ identity, namedIn declarations home path = some identity →
      ∀ elsewhere, namedIn declarations elsewhere path = some identity := by
  induction h with
  | nil => simp [Tree.typePathsOf]
  | token t span _ ih => exact ih
  | group delimiter opening closing _ _ inside ih =>
    rw [Tree.typePathsOf, Tree.typePaths, List.forall_mem_append]
    exact ⟨inside, ih⟩
  | node role notLone parts _ inside ih =>
    rw [Tree.typePathsOf, Tree.typePaths, lonePath?_eq_none (parts.length_eq ▸ notLone), Option.toList_none,
      List.nil_append, List.forall_mem_append]
    exact ⟨inside, ih⟩
  | @named path path' full identity _ _ named _ isFull _ inside ih =>
    rw [Tree.forall_mem_typePathsOf_path]
    refine ⟨fun identity' named' elsewhere => ?_, fun inner hm => ?_, ih⟩
    · rw [isFull.namedIn_eq wellNamed rooted named home] at named'
      cases named'
      exact isFull.namedIn_eq wellNamed rooted named elsewhere
    · rw [Tree.typePathsOf_singleton, isFull.typePaths_eq] at hm
      exact inside inner (Tree.typePathsOf_lastArguments _ hm)
  | free free path _ inside ih =>
    rw [Tree.forall_mem_typePathsOf_path]
    refine ⟨fun identity named => ?_, inside, ih⟩
    rw [path.namedIn_eq wellNamed, free] at named
    cases named

end Rooted

end Again

/-- **Types by full identities.** Below a root that starts at `crate`, in any module and at any depth, the
types that are paths and name a declaration are replaced by the path of its identity, with their last
arguments by full identities, and nothing else changes. Replacing again changes nothing, and a full path, as
every path in the result that names a declaration, names it from every module. -/
theorem qualifyType_crate {root : String} {items : List Tree}
    (rooted : (Identity.mk root).segments.head? = some "crate")
    (wellNamed : ∀ declaration ∈ declarationsIn (.top (Identity.mk root).segments) items,
      declaration.WellNamed) (home : Home) (type : Tree) :
    let declarations := declarationsIn (.top (Identity.mk root).segments) items
    let result := qualifyType declarations home type
    (∀ other, Qualifies declarations home [type] [other] ↔ other = result) ∧
      qualifyType declarations home result = result ∧
      (∀ path identity, namedIn declarations home path = some identity →
        ∀ arguments full, IsFullPath identity arguments full →
          ∀ elsewhere, namedIn declarations elsewhere full = some identity) ∧
      ∀ path ∈ result.typePaths, ∀ identity, namedIn declarations home path = some identity →
        ∀ elsewhere, namedIn declarations elsewhere path = some identity := by
  intro declarations result
  have fromCrate : ∀ declaration ∈ declarations, declaration.home.names.head? = some "crate" :=
    fun declaration hm => head?_home_of_mem_declarationsIn hm rooted
  have unique (tree other : Tree) : Qualifies declarations home [tree] [other] ↔
      other = qualifyType declarations home tree := by
    rw [qualifies_iff wellNamed]
    exact List.singleton_inj
  have replaced : Qualifies declarations home [type] [result] := (unique type result).mpr rfl
  refine ⟨unique type, ?_, fun path identity named arguments full isFull elsewhere => ?_, ?_⟩
  · exact ((unique result result).mp (replaced.again wellNamed fromCrate)).symm
  · exact isFull.namedIn_eq wellNamed fromCrate named elsewhere
  · rw [← Tree.typePathsOf_singleton]
    exact replaced.named_everywhere wellNamed fromCrate

/-- A record in a module with a field that names the record beside it, the one above it, and nothing. -/
def billedItems : List Tree :=
  ((File.ofText? "struct Sum;
    mod bills \x7b struct Item<T>; struct Bill \x7b lines: (Item<super::Sum>, Sum) \x7d \x7d").map
      (·.items)).getD []

/-- Two paths in the field are replaced, one inside the other, and `Sum` names nothing where it is written. -/
theorem qualifyType_crate_billed :
    let declarations := declarationsIn (.top (Identity.mk "crate::m").segments) billedItems
    ∃ bill ∈ declarations, ∃ field ∈ bill.writtenFields,
      let result := qualifyType declarations bill.home field.2
      result.text = "(crate :: m :: bills :: Item < crate :: m :: Sum > , Sum)" ∧
        qualifyType declarations bill.home result = result ∧
        ∃ path ∈ result.typePaths, ∀ elsewhere,
          namedIn declarations elsewhere path = some ⟨"crate::m::Sum"⟩ := by
  intro declarations
  have wellNamed : ∀ declaration ∈ declarations, declaration.WellNamed := by
    have names : ∀ declaration ∈ declarations, (∀ name ∈ declaration.home.names, IsPathWord name) ∧
        ∃ name ∈ ["Sum", "Item", "Bill"], IsPathWord name ∧ name ≠ "Self" ∧
          declaration.identity = .ofSegments (declaration.home.names ++ [name]) := by
      decide +kernel
    intro declaration hm
    obtain ⟨home, name, -, identity⟩ := names declaration hm
    exact ⟨home, name, identity⟩
  obtain ⟨bill, hb, field, hf, text, path, hp, named⟩ :
      ∃ bill ∈ declarations, ∃ field ∈ bill.writtenFields,
        (qualifyType declarations bill.home field.2).text =
            "(crate :: m :: bills :: Item < crate :: m :: Sum > , Sum)" ∧
          ∃ path ∈ (qualifyType declarations bill.home field.2).typePaths,
            namedIn declarations bill.home path = some ⟨"crate::m::Sum"⟩ := by
    decide +kernel
  obtain ⟨-, again, -, everywhere⟩ :=
    qualifyType_crate (by decide +kernel) wellNamed bill.home field.2
  exact ⟨bill, hb, field, hf, text, again, path, hp, everywhere path hp _ named⟩

end RecordMapper
