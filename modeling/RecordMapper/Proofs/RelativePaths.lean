/-
A declaration is reached from every module: up to any module around both, then down. A path is cut off at
the root, which is the `crate` in front of all modules or, without one, where the scan starts. So a path
names nothing exactly if it starts outside the scan or climbs further than there are modules.
-/
import RecordMapper.Proofs.Extracted
import Mathlib.Data.List.Induction

namespace RecordMapper

open Code

/-! ## Where a name is declared -/

/-- A name is declared by an item in a module of the items, whose names are those of the modules around the
item from the outside in. -/
inductive Declares : Home → List Tree → List String → String → Declaration → Prop
  | item {home : Home} {items parts : List Tree} {kind : ItemKind} {name : String} {place : Span}
    {declaration : Declaration} (mem : .node (.item kind) parts ∈ items)
    (named : declaredName? parts = some (name, place))
    (declared : declarationOf? home kind parts = some declaration) :
    Declares home items [] name declaration
  | inside {home : Home} {modules : List String} {items parts inner : List Tree} {module name : String}
    {place opening closing : Span} {declaration : Declaration}
    (mem : .node (.item .module) parts ∈ items) (named : declaredName? parts = some (module, place))
    (braces : .group .brace opening closing inner ∈ parts)
    (within : Declares (home.inside module) inner modules name declaration) :
    Declares home items (module :: modules) name declaration

section Declares

variable {home : Home} {modules : List String} {items parts inner : List Tree} {name : String}
  {declaration : Declaration}

theorem Declares.of_subset {others : List Tree} (h : Declares home items modules name declaration)
    (sub : items ⊆ others) : Declares home others modules name declaration := by
  cases h with
  | item mem named declared => exact .item (sub mem) named declared
  | inside mem named braces within => exact .inside (sub mem) named braces within

theorem mem_declarationsIn {item : Tree} (h : declaration ∈ declarationsOf home item) (hm : item ∈ items) :
    declaration ∈ declarationsIn home items := by
  induction items with
  | nil => cases hm
  | cons first items ih =>
    rw [declarationsIn, List.mem_append]
    rcases List.mem_cons.mp hm with rfl | hm
    · exact .inl h
    · exact .inr (ih hm)

theorem mem_declarationsInBody {opening closing : Span} (h : declaration ∈ declarationsIn home inner)
    (hm : .group .brace opening closing inner ∈ parts) : declaration ∈ declarationsInBody home parts := by
  induction parts with
  | nil => cases hm
  | cons part parts ih =>
    rcases List.mem_cons.mp hm with rfl | later
    · rw [declarationsInBody, List.mem_append]
      exact .inl h
    · have after := ih later
      clear ih hm
      unfold declarationsInBody
      split
      · next same => cases same
      · next same =>
        cases same
        exact List.mem_append_right _ after
      · next same =>
        cases same
        exact after

theorem Declares.mem (h : Declares home items modules name declaration) :
    declaration ∈ declarationsIn home items := by
  induction h with
  | @item home items parts kind name place declaration mem named declared =>
    have different : kind ≠ .module := by
      rintro rfl
      cases declared
    refine mem_declarationsIn ?_ mem
    rw [declarationsOf_item different]
    exact Option.mem_toList.mpr declared
  | inside mem named braces within ih =>
    refine mem_declarationsIn ?_ mem
    rw [declarationsOf, named]
    exact mem_declarationsInBody ih braces

/-- A declaration is filed under the modules around it and its name. -/
theorem Declares.identity_eq (h : Declares home items modules name declaration) :
    declaration.home = ⟨home.root, home.modules ++ modules⟩ ∧
      declaration.identity = .ofSegments (home.names ++ modules ++ [name]) := by
  induction h with
  | item mem named declared =>
    unfold declarationOf? at declared
    rw [named] at declared
    split at declared
    · next same =>
      cases same
      cases declared
      exact ⟨by rw [List.append_nil], by rw [List.append_nil]⟩
    · cases declared
  | inside mem named braces within ih => simpa [Home.inside, Home.names] using ih

mutual

theorem exists_declares_of {declaration : Declaration} :
    ∀ (home : Home) (item : Tree), declaration ∈ declarationsOf home item →
      ∃ modules name, Declares home [item] modules name declaration
  | home, .token .., h => by simp [declarationsOf] at h
  | home, .group .., h => by simp [declarationsOf] at h
  | home, .node role parts, h => by
    have inside : ∀ module, declaration ∈ declarationsInBody (home.inside module) parts →
        ∃ inner opening closing, .group .brace opening closing inner ∈ parts ∧
          ∃ modules name, Declares (home.inside module) inner modules name declaration :=
      fun module => exists_declares_inBody (home.inside module) parts
    unfold declarationsOf at h
    split at h
    · next same =>
      cases same
      split at h
      · next named =>
        obtain ⟨inner, opening, closing, braces, modules, name, within⟩ := inside _ h
        exact ⟨_, name, .inside List.mem_cons_self named braces within⟩
      · cases h
    · next same =>
      cases same
      have declared := Option.mem_toList.mp h
      cases named : declaredName? parts with
      | none =>
        unfold declarationOf? at declared
        rw [named] at declared
        split at declared
        · next both => cases both
        · cases declared
      | some own => exact ⟨[], own.1, .item List.mem_cons_self named declared⟩
    · cases h

theorem exists_declares_inBody {declaration : Declaration} :
    ∀ (home : Home) (parts : List Tree), declaration ∈ declarationsInBody home parts →
      ∃ inner opening closing, .group .brace opening closing inner ∈ parts ∧
        ∃ modules name, Declares home inner modules name declaration
  | home, [], h => by simp [declarationsInBody] at h
  | home, .group .brace opening closing inner :: rest, h => by
    rw [declarationsInBody, List.mem_append] at h
    rcases h with h | h
    · exact ⟨inner, opening, closing, List.mem_cons_self, exists_declares_in home inner h⟩
    · obtain ⟨other, first, last, braces, declares⟩ := exists_declares_inBody home rest h
      exact ⟨other, first, last, List.mem_cons_of_mem _ braces, declares⟩
  | home, .group .paren .. :: rest, h | home, .group .bracket .. :: rest, h |
    home, .token .. :: rest, h | home, .node .. :: rest, h => by
    obtain ⟨other, first, last, braces, declares⟩ :=
      exists_declares_inBody home rest (by simpa only [declarationsInBody] using h)
    exact ⟨other, first, last, List.mem_cons_of_mem _ braces, declares⟩

theorem exists_declares_in {declaration : Declaration} :
    ∀ (home : Home) (items : List Tree), declaration ∈ declarationsIn home items →
      ∃ modules name, Declares home items modules name declaration
  | home, [], h => by simp [declarationsIn] at h
  | home, item :: rest, h => by
    rw [declarationsIn, List.mem_append] at h
    rcases h with h | h
    · obtain ⟨modules, name, declares⟩ := exists_declares_of home item h
      exact ⟨modules, name, declares.of_subset (by simp)⟩
    · obtain ⟨modules, name, declares⟩ := exists_declares_in home rest h
      exact ⟨modules, name, declares.of_subset (List.subset_cons_self _ _)⟩

end

/-- What a scan collects is what is declared by a name in some module. -/
theorem mem_declarationsIn_iff :
    declaration ∈ declarationsIn home items ↔
      ∃ modules name, Declares home items modules name declaration :=
  ⟨exists_declares_in home items, fun ⟨_, _, declares⟩ => declares.mem⟩

end Declares

/-! ## Climbing -/

/-- The number of modules that can be climbed out of: `crate` is not one of them. -/
def depth (modules : List String) : Nat :=
  (if modules.head? = some "crate" then modules.tail else modules).length

/-- The names of a path after a `self` in front. -/
def Code.Tree.steps (path : Tree) : List String :=
  if path.pathNames.head? = some "self" then path.pathNames.drop 1 else path.pathNames

/-- The number of `super` that the steps of a path start with. -/
def Code.Tree.climbs (path : Tree) : Nat :=
  (path.steps.takeWhile (· = "super")).length

section Climb

variable {modules common up names rest : List String} {name : String}

theorem climb_super (inner : name ≠ "crate") : climb (modules ++ [name]) ("super" :: rest) = climb modules rest := by
  rw [climb, List.getLast?_concat]
  split
  · next h => cases h
  · next h => exact absurd (Option.some.inj h) inner
  · rw [List.dropLast_concat]

theorem climb_of_head? (h : names.head? ≠ some "super") : climb modules names = some (modules, names) := by
  unfold climb
  split
  · exact absurd rfl h
  · rfl

/-- A `super` for each of the last modules leads out of them. -/
theorem climb_replicate (inner : "crate" ∉ up) :
    climb (common ++ up) (List.replicate up.length "super" ++ rest) = climb common rest := by
  induction up using List.reverseRecOn with
  | nil => rw [List.append_nil, List.length_nil, List.replicate_zero, List.nil_append]
  | append_singleton up last ih =>
    rw [List.mem_append, List.mem_singleton, not_or] at inner
    rw [List.length_append, List.length_singleton, List.replicate_succ, ← List.append_assoc,
      List.cons_append, climb_super (Ne.symm inner.2), ih inner.1]

theorem depth_concat (inner : name ≠ "crate") : depth (modules ++ [name]) = depth modules + 1 := by
  cases modules with
  | nil => simp [depth, inner]
  | cons first modules =>
    unfold depth
    by_cases root : first = "crate" <;> simp [root]

theorem climb_nil_super : climb [] ("super" :: rest) = none := by
  rw [climb]
  rfl

theorem climb_crate_super : climb (modules ++ ["crate"]) ("super" :: rest) = none := by
  rw [climb, List.getLast?_concat]
  rfl

/-- Nothing is above the root. -/
theorem climb_eq_none_iff (root : "crate" ∉ modules.tail) :
    climb modules names = none ↔ depth modules < (names.takeWhile (· = "super")).length := by
  induction names generalizing modules with
  | nil =>
    rw [climb_of_head? (by simp)]
    simp
  | cons first names ih =>
    by_cases up : first = "super"
    · subst up
      rw [List.takeWhile_cons_of_pos (by simp), List.length_cons]
      rcases List.eq_nil_or_concat' modules with rfl | ⟨modules, last, rfl⟩
      · simp [climb_nil_super, depth]
      by_cases top : last = "crate"
      · subst top
        obtain rfl : modules = [] := by
          cases modules with
          | nil => rfl
          | cons first modules => simp at root
        rw [climb_crate_super]
        simp [depth]
      · have above : "crate" ∉ modules.tail := by
          cases modules with
          | nil => exact List.not_mem_nil
          | cons first modules => exact fun hm => root (List.mem_append_left _ hm)
        rw [climb_super top, depth_concat top, ih above, Nat.add_lt_add_iff_right]
    · rw [climb_of_head? (by simpa using up), List.takeWhile_cons_of_neg (by simpa using up)]
      simp

end Climb

/-! ## Resolving -/

/-- Words that say where a path starts; no module and no item is called so. -/
def isStart (name : String) : Bool :=
  ["crate", "self", "super"].contains name

/-- A root whose segments are names, apart from a `crate` in front. -/
structure IsPlainRoot (root : List String) : Prop where
  names : ∀ segment ∈ root, segment ≠ "self" ∧ segment ≠ "super"
  tail : "crate" ∉ root.tail

namespace IsPlainRoot

variable {root below common rest : List String}

/-- Of the modules below a root only the first can be `crate`. -/
theorem notMem_tail (h : IsPlainRoot root) (free : ∀ own ∈ below, isStart own = false) :
    "crate" ∉ (root ++ below).tail := by
  have apart : "crate" ∉ below := fun hm => Bool.noConfusion (free "crate" hm)
  cases root with
  | nil => exact fun hm => apart (List.mem_of_mem_tail hm)
  | cons first root =>
    intro hm
    rcases List.mem_append.mp hm with hm | hm
    · exact h.tail hm
    · exact apart hm

/-- What follows the modules around two is a name, if a `crate` in front is among those around. -/
theorem isStart_of_split (h : IsPlainRoot root) (free : ∀ own ∈ below, isStart own = false)
    (split : root ++ below = common ++ rest)
    (kept : root.head? = some "crate" → common.head? = some "crate") :
    ∀ own ∈ rest, isStart own = false := by
  intro own hm
  have member : own ∈ root ++ below := split ▸ List.mem_append_right common hm
  rcases List.mem_append.mp member with inRoot | inBelow
  · have other := h.names own inRoot
    have inside : own ≠ "crate" := by
      rintro rfl
      cases common with
      | nil =>
        cases root with
        | nil => cases inRoot
        | cons first root =>
          rcases List.mem_cons.mp inRoot with rfl | later
          · cases kept rfl
          · exact h.tail later
      | cons first common =>
        have tail : (root ++ below).tail = common ++ rest := congrArg List.tail split
        exact h.notMem_tail free (tail ▸ List.mem_append_right common hm)
    simp [isStart, other.1, other.2, inside]
  · exact free own inBelow

end IsPlainRoot

section Resolve

variable {home : Home} {common up rest : List String} {name : String} {path : Tree}

/-- A path that does not start at the root goes up from its module first. -/
theorem resolve_of_steps (lead : path.leadingColons?.isSome = false)
    (start : path.pathNames.head? ≠ some "crate") :
    resolve home path = (climb home.names path.steps).map fun (up, down) => .ofSegments (up ++ down) := by
  unfold resolve Tree.steps
  simp only [lead, if_neg start, Bool.false_eq_true, if_false]

/-- A path names nothing exactly if it starts outside the scan or leads above the root. -/
theorem resolve_eq_none_iff (root : "crate" ∉ home.names.tail) :
    resolve home path = none ↔ path.leadingColons?.isSome = true ∨ depth home.names < path.climbs := by
  by_cases lead : path.leadingColons?.isSome = true
  · simp [resolve, lead]
  have inside : path.leadingColons?.isSome = false := Bool.eq_false_iff.mpr lead
  by_cases start : path.pathNames.head? = some "crate"
  · obtain ⟨rest, names⟩ := List.head?_eq_some_iff.mp start
    rw [resolve_crate inside names]
    simp [Tree.climbs, Tree.steps, names, lead]
  · rw [resolve_of_steps inside start, Option.map_eq_none_iff, climb_eq_none_iff root]
    simp [Tree.climbs, lead]

/-- Up to a module around and down from there, with or without a `self` in front. -/
theorem resolve_up_down {first : String} (here : home.names = common ++ up) (inner : "crate" ∉ up) (down : rest.head? = some first)
    (free : isStart first = false) (lead : path.leadingColons?.isSome = false)
    (names : path.pathNames = List.replicate up.length "super" ++ rest ∨
      path.pathNames = "self" :: (List.replicate up.length "super" ++ rest)) :
    resolve home path = some (.ofSegments (common ++ rest)) := by
  have other : first ≠ "crate" ∧ first ≠ "self" ∧ first ≠ "super" := by
    simpa [isStart] using free
  have start : ∀ word ∈ ["crate", "self"],
      (List.replicate up.length "super" ++ rest).head? ≠ some word := by
    cases up with
    | nil => simpa [down] using ⟨other.1, other.2.1⟩
    | cons => simp [List.replicate_succ]
  have steps : path.steps = List.replicate up.length "super" ++ rest := by
    unfold Tree.steps
    rcases names with names | names
    · rw [names, if_neg (start "self" (by simp))]
    · rw [names, List.head?_cons, if_pos rfl, List.drop_one, List.tail_cons]
  have relative : path.pathNames.head? ≠ some "crate" := by
    rcases names with names | names
    · rw [names]
      exact start "crate" (by simp)
    · simp [names]
  have stops : rest.head? ≠ some "super" := by
    simpa [down] using other.2.2
  rw [resolve_of_steps lead relative, here, steps, climb_replicate inner, climb_of_head? stops]
  rfl

end Resolve

/-- **A declaration has a path from every module.** Where neither modules nor items are called `crate`,
`self` or `super`, and `crate` stands in front of a root at most, a `super` for each module up to any module
around both and the names down from there lead to a declaration, with or without a `self` in front. Below a
root that starts at `crate`, so do its names from the root, from every module. A path leads nowhere exactly
if it starts outside the scan or has more `super` in front than there are modules to climb out of. -/
theorem resolve_declared {root : String} {items : List Tree} {modules above : List String} {name : String}
    {declaration : Declaration} (plain : IsPlainRoot (Identity.mk root).segments)
    (declares : Declares (.top (Identity.mk root).segments) items modules name declaration)
    (free : ∀ own ∈ above ++ modules ++ [name], isStart own = false) :
    let segments := (Identity.mk root).segments
    let here : Home := ⟨segments, above⟩
    let there : Home := ⟨segments, modules⟩
    declaration ∈ declarationsIn (.top segments) items ∧
      (∀ common up down path, here.names = common ++ up → there.names = common ++ down →
        (segments.head? = some "crate" → common.head? = some "crate") →
        path.leadingColons?.isSome = false →
        (path.pathNames = List.replicate up.length "super" ++ (down ++ [name]) ∨
          path.pathNames = "self" :: (List.replicate up.length "super" ++ (down ++ [name]))) →
        resolve here path = some declaration.identity) ∧
      (segments.head? = some "crate" → ∀ home path, path.leadingColons?.isSome = false →
        path.pathNames = there.names ++ [name] → resolve home path = some declaration.identity) ∧
      ∀ path, resolve here path = none ↔ path.leadingColons?.isSome = true ∨ depth here.names < path.climbs := by
  intro segments here there
  have identity : declaration.identity = .ofSegments (there.names ++ [name]) := by
    rw [declares.identity_eq.2, Home.names_top]
    rfl
  have freeHere : ∀ own ∈ above, isStart own = false := fun own hm =>
    free own (List.mem_append_left _ (List.mem_append_left _ hm))
  have freeThere : ∀ own ∈ modules, isStart own = false := fun own hm =>
    free own (List.mem_append_left _ (List.mem_append_right _ hm))
  have freeName : isStart name = false := free name (by simp)
  refine ⟨mem_declarationsIn_iff.mpr ⟨modules, name, declares⟩, ?_, ?_, fun path => resolve_eq_none_iff (plain.notMem_tail freeHere)⟩
  · intro common up down path atHere atThere kept lead names
    have freeUp := plain.isStart_of_split freeHere atHere kept
    have freeDown := plain.isStart_of_split freeThere atThere kept
    have inner : "crate" ∉ up := fun hm => Bool.noConfusion (freeUp "crate" hm)
    obtain ⟨first, rest, front⟩ : ∃ first rest, down ++ [name] = first :: rest := by
      cases down <;> exact ⟨_, _, rfl⟩
    have freeFirst : isStart first = false := by
      have member : first ∈ down ++ [name] := front ▸ List.mem_cons_self
      rcases List.mem_append.mp member with hm | hm
      · exact freeDown first hm
      · rwa [List.mem_singleton.mp hm]
    rw [identity, resolve_up_down atHere inner (front ▸ rfl) freeFirst lead names, ← List.append_assoc,
      ← atThere]
  · intro start home path lead names
    obtain ⟨rest, root⟩ := List.head?_eq_some_iff.mp start
    have whole : there.names ++ [name] = "crate" :: (rest ++ modules ++ [name]) := by
      rw [Home.names, show there.root = _ from root]
      rfl
    rw [identity, resolve_crate lead (names.trans whole), ← whole]

/-- The item `struct T;`. -/
def unitRecord : List Tree := [.token (.word "struct") .none, .node .name [.token (.word "T") .none]]

/-- The module `a` with this record. -/
def cousinModule : List Tree :=
  [.token (.word "mod") .none, .node .name [.token (.word "a") .none],
    .group .brace .none .none [.node (.item .record) unitRecord]]

/-- From the module `b::c` beside `a`, two `super` lead to what is around both and five lead nowhere. -/
theorem resolve_declared_cousin : ∃ declaration,
    IsPlainRoot (Identity.mk "crate::app").segments ∧
      Declares (.top (Identity.mk "crate::app").segments) [.node (.item .module) cousinModule] ["a"] "T" declaration ∧
      (∀ own ∈ ["b", "c"] ++ ["a"] ++ ["T"], isStart own = false) ∧
      resolve ⟨["crate", "app"], ["b", "c"]⟩ (Tree.spelled "self" ["super", "super", "a", "T"] []) =
        some declaration.identity ∧
      declaration.identity.text = "crate::app::a::T" ∧
      resolve ⟨["crate", "app"], ["b", "c"]⟩ (Tree.spelled "super" ["super", "super", "super", "T"] []) = none := by
  obtain ⟨declaration, declared⟩ : ∃ declaration,
      declarationOf? ⟨["crate", "app"], ["a"]⟩ .record unitRecord = some declaration := ⟨_, rfl⟩
  have root : (Identity.mk "crate::app").segments = ["crate", "app"] := by decide +kernel
  have plain : IsPlainRoot (Identity.mk "crate::app").segments := by
    rw [root]
    exact ⟨by decide, by decide⟩
  have declares : Declares (.top (Identity.mk "crate::app").segments) [.node (.item .module) cousinModule] ["a"] "T"
      declaration := by
    rw [root]
    have braces : .group .brace .none .none [.node (.item .record) unitRecord] ∈ cousinModule := by
      simp [cousinModule]
    exact .inside List.mem_cons_self rfl braces (.item List.mem_cons_self rfl declared)
  have free : ∀ own ∈ ["b", "c"] ++ ["a"] ++ ["T"], isStart own = false := by decide
  have identity : declaration.identity.text = "crate::app::a::T" := by
    rw [declares.identity_eq.2, root]
    decide +kernel
  obtain ⟨-, paths, -, nowhere⟩ :=
    @resolve_declared "crate::app" _ ["a"] ["b", "c"] "T" declaration plain declares free
  rw [root] at paths nowhere
  refine ⟨declaration, plain, declares, free, ?_, identity, ?_⟩
  · exact paths ["crate", "app"] ["b", "c"] ["a"] _ rfl rfl (fun _ => rfl)
      (by rw [Tree.leadingColons?_spelled]; rfl) (.inr (Tree.pathNames_spelled _ _ _))
  · refine (nowhere _).mpr (.inr ?_)
    simp [Tree.climbs, Tree.steps, Tree.pathNames_spelled, depth, Home.names]

end RecordMapper
