/-
The path of a module is cut at its separators when it is given, and walked into when the module is written
around its items, and both lead to the same list of names. Cutting and joining are inverse to each other
where no piece holds a separator.
-/
import RecordMapper.Extraction
import RecordMapper.Proofs.SpelledPaths

namespace RecordMapper

open Code

/-! ## Cutting a path -/

/-- Pieces that are found again when they are joined: none holds a separator, and none but the last ends
where one could begin. -/
structure CleanCut (pieces : List (List Char)) : Prop where
  whole : ∀ piece ∈ pieces, ¬[':', ':'] <:+: piece
  closed : pieces.Pairwise fun piece _ => ¬[':', ':'] <:+: piece ++ [':']

section Cut

variable {piece rest cs : List Char} {pieces kept : List (List Char)}

theorem splitAtSeparators_append (h : ¬[':', ':'] <:+: piece ++ [':']) :
    splitAtSeparators (piece ++ ':' :: ':' :: rest) = piece :: splitAtSeparators rest := by
  induction piece with
  | nil => simp only [List.nil_append, splitAtSeparators]
  | cons c piece ih =>
    rw [List.cons_append, List.infix_cons_iff, not_or] at h
    obtain ⟨hc, hp⟩ := h
    rw [List.cons_append, splitAtSeparators, ih hp]
    rintro more rfl same
    cases piece with
    | nil => exact hc (List.prefix_refl _)
    | cons d piece =>
      obtain ⟨rfl, -⟩ := List.cons.inj same
      exact hc ⟨piece ++ [':'], rfl⟩

theorem splitAtSeparators_of_not_infix (h : ¬[':', ':'] <:+: piece) :
    splitAtSeparators piece = [piece] := by
  induction piece with
  | nil => rfl
  | cons c piece ih =>
    rw [List.infix_cons_iff, not_or] at h
    obtain ⟨hc, hp⟩ := h
    rw [splitAtSeparators, ih hp]
    rintro more rfl rfl
    exact hc ⟨more, rfl⟩

theorem CleanCut.sublist (h : CleanCut pieces) (part : kept.Sublist pieces) : CleanCut kept :=
  ⟨fun piece hm => h.whole piece (part.subset hm), h.closed.sublist part⟩

/-- Pieces without colons are found again. -/
theorem cleanCut_of_plain (h : ∀ piece ∈ pieces, ':' ∉ piece) : CleanCut pieces := by
  -- a separator takes two colons, and a piece has at most the one that is put after it
  have two {cs : List Char} (holds : [':', ':'] <:+: cs) : 2 ≤ cs.count ':' :=
    holds.sublist.count_le ':'
  refine ⟨fun piece hm holds => ?_, List.pairwise_of_forall_mem_list fun piece hm _ _ holds => ?_⟩
  · have none_in := List.count_eq_zero.mpr (h piece hm)
    have := two holds
    omega
  · have none_in := List.count_eq_zero.mpr (h piece hm)
    have := two holds
    rw [List.count_append, none_in] at this
    exact absurd this (by decide)

theorem CleanCut.splitAtSeparators_intercalate (h : CleanCut pieces) (some_piece : pieces ≠ []) :
    splitAtSeparators ([':', ':'].intercalate pieces) = pieces := by
  induction pieces with
  | nil => exact absurd rfl some_piece
  | cons piece pieces ih =>
    cases pieces with
    | nil =>
      rw [List.intercalate_singleton]
      exact splitAtSeparators_of_not_infix (h.whole piece List.mem_cons_self)
    | cons next pieces =>
      have closed := List.rel_of_pairwise_cons h.closed List.mem_cons_self
      have later := ih (h.sublist (List.sublist_cons_self _ _)) (List.cons_ne_nil _ _)
      rw [List.intercalate_cons_cons, List.append_assoc, List.cons_append, List.cons_append,
        List.nil_append, splitAtSeparators_append closed, later]

theorem splitAtSeparators_ne_nil (cs : List Char) : splitAtSeparators cs ≠ [] := by
  fun_cases splitAtSeparators cs <;> simp

/-- Nothing but the separators is cut away. -/
theorem intercalate_splitAtSeparators (cs : List Char) :
    [':', ':'].intercalate (splitAtSeparators cs) = cs := by
  fun_induction splitAtSeparators cs with
  | case1 => rfl
  | case2 rest ih =>
    rw [List.intercalate_cons_of_ne_nil (splitAtSeparators_ne_nil rest), ih]
    rfl
  | case3 c rest _ none_left => exact absurd none_left (splitAtSeparators_ne_nil rest)
  | case4 c rest _ piece pieces cut ih =>
    rw [cut] at ih
    cases pieces with
    | nil => simpa using ih
    | cons next pieces => simpa [List.intercalate_cons_cons] using ih

theorem prefix_intercalate (piece : List Char) (pieces : List (List Char)) :
    piece <+: [':', ':'].intercalate (piece :: pieces) := by
  cases pieces with
  | nil => simp only [List.intercalate_singleton, List.prefix_rfl]
  | cons next pieces =>
    rw [List.intercalate_cons_cons, List.append_assoc]
    exact List.prefix_append _ _

theorem prefix_intercalate_of_ne_nil (piece : List Char) (more : pieces ≠ []) :
    piece ++ [':'] <+: [':', ':'].intercalate (piece :: pieces) := by
  rw [List.intercalate_cons_of_ne_nil more, List.append_assoc]
  exact ⟨':' :: [':', ':'].intercalate pieces, by simp⟩

/-- A text is cut wherever it can be: what it is cut into can be cut no further, and joining the pieces makes
no new place to cut. -/
theorem cleanCut_splitAtSeparators (cs : List Char) : CleanCut (splitAtSeparators cs) := by
  fun_induction splitAtSeparators cs with
  | case1 => exact ⟨by simp, List.pairwise_singleton _ _⟩
  | case2 rest ih =>
    refine ⟨List.forall_mem_cons.mpr ⟨by simp, ih.whole⟩, List.pairwise_cons.mpr ⟨fun _ _ => ?_, ih.closed⟩⟩
    simp [List.infix_cons_iff]
  | case3 c rest _ none_left => exact absurd none_left (splitAtSeparators_ne_nil rest)
  | case4 c rest apart piece pieces cut ih =>
    rw [cut] at ih
    have joined := intercalate_splitAtSeparators rest
    rw [cut] at joined
    -- the colon before a piece that starts with one would have been cut
    have no_colon {front : List Char} (hf : front <+: rest) : ¬[':', ':'] <+: c :: front := by
      rw [List.cons_prefix_cons]
      rintro ⟨rfl, starts⟩
      obtain ⟨more, rfl⟩ := starts.trans hf
      exact apart _ rfl rfl
    obtain ⟨whole, wholes⟩ := List.forall_mem_cons.mp ih.whole
    obtain ⟨closed, closeds⟩ := List.pairwise_cons.mp ih.closed
    refine ⟨List.forall_mem_cons.mpr ⟨?_, wholes⟩, List.pairwise_cons.mpr ⟨fun other hm => ?_, closeds⟩⟩
    · rw [List.infix_cons_iff, not_or]
      exact ⟨no_colon (joined ▸ prefix_intercalate piece pieces), whole⟩
    · rw [List.cons_append, List.infix_cons_iff, not_or]
      have starts := prefix_intercalate_of_ne_nil piece (List.ne_nil_of_mem hm)
      exact ⟨no_colon (joined ▸ starts), closed other hm⟩

end Cut

/-- Segments of which none holds a separator, or the start of one before another segment, are what the path of
them is cut into. -/
theorem CleanCut.segments_intercalate {segments : List String}
    (h : CleanCut (segments.map String.toList)) :
    (Identity.mk (String.intercalate "::" segments)).segments = segments.filter (· ≠ "") := by
  cases segments with
  | nil => rfl
  | cons name rest =>
    have separator : "::".toList = [':', ':'] := rfl
    rw [Identity.segments, String.toList_intercalate, separator,
      h.splitAtSeparators_intercalate (by simp), List.map_map]
    congr 1
    exact (List.map_congr_left fun name _ => String.ofList_toList).trans (List.map_id' _)

/-- Segments without colons are what the path of them is cut into. -/
theorem segments_intercalate {segments : List String} (h : ∀ segment ∈ segments, ':' ∉ segment.toList) :
    (Identity.mk (String.intercalate "::" segments)).segments = segments.filter (· ≠ "") :=
  (cleanCut_of_plain (by simpa using h)).segments_intercalate

/-! ## Walking into a module -/

/-- Whether a part of an item gives it neither its name nor what stands in braces: an attribute, a
visibility or a word. -/
def Code.Tree.isAside : Tree → Bool
  | .token .. => true
  | .group delimiter .. => delimiter ≠ .brace
  | .node role _ => role ≠ .name

/-- Whether a tree is no item. -/
def Code.Tree.isNoItem : Tree → Bool
  | .node (.item _) _ => false
  | _ => true

/-- A module of a name that is written around items. -/
structure WrittenModule (name : String) (items : List Tree) where
  /-- Attributes, visibility and the words before the name. -/
  front : List Tree
  namePlace : Span
  opening : Span
  closing : Span
  /-- The attributes of the module that stand inside its braces. -/
  own : List Tree
  isAside_of_mem_front : ∀ part ∈ front, part.isAside = true
  isNoItem_of_mem_own : ∀ tree ∈ own, tree.isNoItem = true

namespace WrittenModule

variable {name : String} {items : List Tree}

/-- A module as the tree of an item. -/
def tree (module : WrittenModule name items) : Tree :=
  .node (.item .module) (module.front ++ [.node .name [.token (.word name) module.namePlace],
    .group .brace module.opening module.closing (module.own ++ items)])

end WrittenModule

theorem declaredName?_append {front parts : List Tree} (h : ∀ part ∈ front, part.isAside = true) :
    declaredName? (front ++ parts) = declaredName? parts := by
  unfold declaredName?
  rw [List.findSome?_append, List.findSome?_eq_none_iff.mpr, Option.none_or]
  intro part hm
  split
  · cases h _ hm
  · rfl

theorem declarationsInBody_append {home : Home} {front parts : List Tree}
    (h : ∀ part ∈ front, part.isAside = true) :
    declarationsInBody home (front ++ parts) = declarationsInBody home parts := by
  induction front with
  | nil => rfl
  | cons part front ih =>
    have rest := ih fun other hm => h other (List.mem_cons_of_mem _ hm)
    have aside := h part List.mem_cons_self
    rw [List.cons_append, declarationsInBody, rest]
    rintro opening closing inner rfl
    cases aside

theorem declarationsIn_append {home : Home} (front items : List Tree) :
    declarationsIn home (front ++ items) = declarationsIn home front ++ declarationsIn home items := by
  induction front with
  | nil => simp only [List.nil_append, declarationsIn]
  | cons tree front ih => rw [List.cons_append, declarationsIn, declarationsIn, ih, List.append_assoc]

theorem declarationsIn_eq_nil {home : Home} {trees : List Tree}
    (h : ∀ tree ∈ trees, tree.isNoItem = true) : declarationsIn home trees = [] := by
  induction trees with
  | nil => rw [declarationsIn]
  | cons tree trees ih =>
    have none_in : declarationsOf home tree = [] := by
      have noItem := h tree List.mem_cons_self
      unfold declarationsOf
      split
      · cases noItem
      · cases noItem
      · rfl
    rw [declarationsIn, none_in, ih fun other hm => h other (List.mem_cons_of_mem _ hm), List.append_nil]

/-- A module has the declarations of its items, one name further down. -/
theorem WrittenModule.declarationsOf_tree {name : String} {items : List Tree} (home : Home)
    (module : WrittenModule name items) :
    declarationsOf home module.tree = declarationsIn (home.inside name) items := by
  have named : declaredName? (module.front ++ [.node .name [.token (.word name) module.namePlace],
      .group .brace module.opening module.closing (module.own ++ items)]) =
      some (name, module.namePlace) :=
    declaredName?_append module.isAside_of_mem_front
  rw [WrittenModule.tree, declarationsOf]
  simp only [named]
  rw [declarationsInBody_append module.isAside_of_mem_front, declarationsInBody, declarationsInBody,
    declarationsInBody, List.append_nil, declarationsIn_append,
    declarationsIn_eq_nil module.isNoItem_of_mem_own, List.nil_append]
  rintro _ _ _ ⟨⟩

theorem WrittenModule.declarationsIn_tree {name : String} {items : List Tree} (home : Home)
    (module : WrittenModule name items) :
    declarationsIn home [module.tree] = declarationsIn (home.inside name) items := by
  rw [declarationsIn, declarationsIn, List.append_nil, module.declarationsOf_tree]

end RecordMapper
