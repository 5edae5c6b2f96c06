/-
A module can be given in two ways: by the path that its items are scanned under, or written around them.
A scan keeps the path that it starts from apart from the modules that it walks into, and joins the two
wherever names are asked for: in identities, when a path is resolved, and in the types of fields. Each
of these comes from the joined list alone, so that no reader of an extraction can tell where it was cut.
-/
import RecordMapper.Proofs.Requests

namespace RecordMapper

open Code

/-! ## Homes of one list of names -/

/-- Two declarations that are the same but for where the names of their homes are cut. -/
structure Declaration.CutApart (declaration other : Declaration) : Prop where
  identity : declaration.identity = other.identity
  names : declaration.home.names = other.home.names
  attributes : declaration.attributes = other.attributes
  nameSpan : declaration.nameSpan = other.nameSpan
  kind : declaration.kind = other.kind

section Walk

variable {home home' : Home}

theorem forall₂_cutApart_declarationOf? (h : home.names = home'.names) (kind : ItemKind)
    (parts : List Tree) :
    List.Forall₂ Declaration.CutApart (declarationOf? home kind parts).toList
      (declarationOf? home' kind parts).toList := by
  unfold declarationOf?
  split
  · exact .cons ⟨by rw [h], h, rfl, rfl, rfl⟩ .nil
  · exact .nil

mutual

theorem forall₂_cutApart_declarationsOf : ∀ {home home' : Home} (tree : Tree), home.names = home'.names →
    List.Forall₂ Declaration.CutApart (declarationsOf home tree) (declarationsOf home' tree)
  | _, _, .token .., _ => .nil
  | _, _, .group .., _ => .nil
  | home, home', .node role parts, h => by
    unfold declarationsOf
    split
    · next same =>
      cases same
      split
      · exact forall₂_cutApart_declarationsInBody parts (by rw [Home.names_inside, Home.names_inside, h])
      · exact .nil
    · exact forall₂_cutApart_declarationOf? h _ _
    · exact .nil

theorem forall₂_cutApart_declarationsInBody : ∀ {home home' : Home} (parts : List Tree),
    home.names = home'.names →
      List.Forall₂ Declaration.CutApart (declarationsInBody home parts) (declarationsInBody home' parts)
  | _, _, [], _ => .nil
  | _, _, .group .brace _ _ inner :: rest, h => by
    rw [declarationsInBody, declarationsInBody]
    exact List.rel_append (forall₂_cutApart_declarationsIn inner h)
      (forall₂_cutApart_declarationsInBody rest h)
  | _, _, .group .paren .. :: rest, h | _, _, .group .bracket .. :: rest, h | _, _, .token .. :: rest, h |
    _, _, .node .. :: rest, h => by
    simpa only [declarationsInBody] using forall₂_cutApart_declarationsInBody rest h

/-- A walk collects the same from two homes of one list of names. -/
theorem forall₂_cutApart_declarationsIn : ∀ {home home' : Home} (items : List Tree),
    home.names = home'.names →
      List.Forall₂ Declaration.CutApart (declarationsIn home items) (declarationsIn home' items)
  | _, _, [], _ => .nil
  | _, _, tree :: rest, h => by
    rw [declarationsIn, declarationsIn]
    exact List.rel_append (forall₂_cutApart_declarationsOf tree h) (forall₂_cutApart_declarationsIn rest h)

end

end Walk

/-! ## What paths name -/

section Resolve

variable {declarations others : List Declaration} {home home' : Home}

theorem resolve_eq_of_names (h : home.names = home'.names) (path : Tree) :
    resolve home path = resolve home' path := by
  unfold resolve
  rw [h]

theorem sameIdentities_of_cutApart (all : List.Forall₂ Declaration.CutApart declarations others) :
    SameIdentities declarations others := by
  intro identity
  have found := option_rel_lookUp (fun _ _ => Declaration.CutApart.identity) all identity
  generalize lookUp declarations identity = first at found ⊢
  generalize lookUp others identity = second at found ⊢
  cases found <;> rfl

/-- A path is replaced alike from two homes of one list of names. -/
theorem qualifiedPath?_eq_of_names (same : SameIdentities declarations others)
    (h : home.names = home'.names) :
    qualifiedPath? declarations home = qualifiedPath? others home' := by
  funext path
  unfold qualifiedPath?
  rw [resolve_eq_of_names h]
  cases resolve home' path with
  | none => rfl
  | some identity =>
    have found := same identity
    cases declared : lookUp declarations identity <;> cases declared' : lookUp others identity
    · simp only [declared, declared']
    · simp [declared, declared'] at found
    · simp [declared, declared'] at found
    · simp only [declared, declared']

theorem qualifyType_eq_of_names (same : SameIdentities declarations others)
    (h : home.names = home'.names) (type : Tree) :
    qualifyType declarations home type = qualifyType others home' type := by
  rw [qualifyType, qualifyType, qualifiedPath?_eq_of_names same h]

end Resolve

/-! ## What is asked for -/

section Extraction

variable {declarations others : List Declaration} {declaration other : Declaration} {home home' : Home}

theorem Declaration.CutApart.schemaOf (h : declaration.CutApart other)
    (same : SameIdentities declarations others) :
    RecordMapper.schemaOf declarations declaration = RecordMapper.schemaOf others other := by
  unfold RecordMapper.schemaOf
  simp only [h.identity, h.kind, qualifyType_eq_of_names same h.names]

theorem targetSchema_eq_of_names (all : List.Forall₂ Declaration.CutApart declarations others)
    (h : home.names = home'.names) : targetSchema declarations home = targetSchema others home' := by
  funext path
  unfold targetSchema
  rw [resolve_eq_of_names h]
  cases resolve home' path with
  | none => rfl
  | some identity =>
    have found := option_rel_lookUp (fun _ _ => Declaration.CutApart.identity) all identity
    dsimp only
    generalize lookUp declarations identity = first at found ⊢
    generalize lookUp others identity = second at found ⊢
    cases found with
    | none => rfl
    | some declared => exact declared.schemaOf (sameIdentities_of_cutApart all)

theorem Declaration.CutApart.extractOne (h : declaration.CutApart other)
    (all : List.Forall₂ Declaration.CutApart declarations others) :
    RecordMapper.extractOne declarations declaration = RecordMapper.extractOne others other := by
  have references : declaration.references = other.references := by
    unfold Declaration.references
    rw [h.attributes]
  unfold RecordMapper.extractOne
  rw [references, h.kind, h.identity, h.nameSpan, targetSchema_eq_of_names all h.names,
    h.schemaOf (sameIdentities_of_cutApart all)]

theorem extractDeclarations_eq_of_cutApart
    (all : List.Forall₂ Declaration.CutApart declarations others) :
    extractDeclarations declarations = extractDeclarations others := by
  have walk {listed listed' : List Declaration} (h : List.Forall₂ Declaration.CutApart listed listed') :
      listed.map (RecordMapper.extractOne declarations) = listed'.map (RecordMapper.extractOne others) ∧
        listed.map (fun declaration => (declaration.identity, declaration.nameSpan)) =
          listed'.map fun declaration => (declaration.identity, declaration.nameSpan) := by
    induction h with
    | nil => simp only [List.map_nil, and_self]
    | cons first _ ih =>
      simp only [List.map_cons, first.extractOne all, first.identity, first.nameSpan, ih.1, ih.2, and_self]
  obtain ⟨parts, names⟩ := walk all
  simp only [extractDeclarations, parts, names]

end Extraction

/-! ## Modules by path and by braces -/

/-- **A configured module is a written one.** Items that are scanned under the path of some segments and
a name ask for what the module of that name around them asks for under the path of the segments: the same
directives, errors and places. -/
theorem extract_module {segments : List String} {name : String} {items : List Tree}
    (plain : ∀ segment ∈ segments ++ [name], ':' ∉ segment.toList) (nonempty : name ≠ "")
    (module : WrittenModule name items) :
    extract (String.intercalate "::" (segments ++ [name])) items =
      extract (String.intercalate "::" segments) [module.tree] := by
  have root : (Identity.mk (String.intercalate "::" segments)).segments = segments.filter (· ≠ "") :=
    segments_intercalate fun segment hm => plain segment (List.mem_append_left _ hm)
  have inner : (Identity.mk (String.intercalate "::" (segments ++ [name]))).segments =
      segments.filter (· ≠ "") ++ [name] := by
    rw [segments_intercalate plain, List.filter_append, List.filter_cons_of_pos (by simpa using nonempty),
      List.filter_nil]
  rw [extract, extract, root, inner, module.declarationsIn_tree]
  refine extractDeclarations_eq_of_cutApart (forall₂_cutApart_declarationsIn items ?_)
  rw [Home.names_inside, Home.names_top, Home.names_top]

/-- Two records whose fields name a type of the module around theirs and one of their own. -/
def linkedItems : List Tree :=
  ((File.ofText? "#[mapper(T)] struct O { a: super::U } struct T { a: super::U, b: O }").map
    (·.items)).getD []

/-- The module `m` with these records in it. -/
def linkedModule : WrittenModule "m" linkedItems where
  front := [.token (.word "mod") .none]
  namePlace := .none
  opening := .none
  closing := .none
  own := []
  isAside_of_mem_front := by simp [Tree.isAside]
  isNoItem_of_mem_own := by simp

theorem extract_linkedModule :
    extract "crate::m" linkedItems = extract "crate" [linkedModule.tree] ∧
      ((extract "crate" [linkedModule.tree]).directives.flatMap (·.targets)).map
        (fun target => (target.identity.text, target.fields?.map (·.map (·.ty.text)))) =
          [("crate::m::T", some ["super :: U", "crate :: m :: O"])] :=
  ⟨@extract_module ["crate"] "m" _ (by decide) (by decide) linkedModule, by decide +kernel⟩

end RecordMapper
