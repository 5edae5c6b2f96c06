/-
The origin of an extracted directive and those of its targets that have fields are declared in the
scanned source, and their fields are the written ones with types by full identities.
-/
import RecordMapper.Extraction
import RecordMapper.Proofs.Planning
import RecordMapper.Proofs.Respelling
import Mathlib.Data.List.Basic

namespace RecordMapper

open Code

/-! ## Homes -/

/-- A home inside another, at any depth: both come from one scan, and the walk has gone further. -/
structure Home.Within (inner home : Home) : Prop where
  root : inner.root = home.root
  modules : home.modules <+: inner.modules

namespace Home.Within

variable {home inner : Home}

theorem refl (home : Home) : home.Within home :=
  ⟨rfl, List.prefix_rfl⟩

theorem of_inside {name : String} (h : inner.Within (home.inside name)) : inner.Within home :=
  ⟨h.root, (List.prefix_append home.modules [name]).trans h.modules⟩

theorem names (h : inner.Within home) : home.names <+: inner.names := by
  rw [Home.names, Home.names, h.root]
  exact (List.prefix_append_right_inj _).mpr h.modules

end Home.Within

theorem declarationsOf_item {home : Home} {kind : ItemKind} {parts : List Tree}
    (different : kind ≠ .module) :
    declarationsOf home (.node (.item kind) parts) = (declarationOf? home kind parts).toList := by
  cases kind <;> first | rfl | exact absurd rfl different

mutual

theorem home_of_mem_declarationsOf {declaration : Declaration} :
    ∀ (home : Home) (tree : Tree), declaration ∈ declarationsOf home tree →
      declaration.home.Within home
  | home, .token .., h => by simp [declarationsOf] at h
  | home, .group .., h => by simp [declarationsOf] at h
  | home, .node role parts, h => by
    have inside : ∀ name, declaration ∈ declarationsInBody (home.inside name) parts →
        declaration.home.Within (home.inside name) :=
      fun name => home_of_mem_declarationsInBody (home.inside name) parts
    unfold declarationsOf at h
    split at h
    · next same =>
      cases same
      split at h
      · exact (inside _ h).of_inside
      · cases h
    · rw [Option.mem_toList] at h
      unfold declarationOf? at h
      split at h
      · cases h
        exact .refl home
      · cases h
    · cases h

theorem home_of_mem_declarationsInBody {declaration : Declaration} :
    ∀ (home : Home) (trees : List Tree), declaration ∈ declarationsInBody home trees →
      declaration.home.Within home
  | home, [], h => by simp [declarationsInBody] at h
  | home, .group .brace _ _ inner :: rest, h => by
    rw [declarationsInBody, List.mem_append] at h
    rcases h with h | h
    · exact home_of_mem_declarationsIn home inner h
    · exact home_of_mem_declarationsInBody home rest h
  | home, .group .paren .. :: rest, h | home, .group .bracket .. :: rest, h |
    home, .token .. :: rest, h | home, .node .. :: rest, h =>
    home_of_mem_declarationsInBody home rest (by simpa only [declarationsInBody] using h)

/-- What is declared stands in the scanned module or in a module inside it. -/
theorem home_of_mem_declarationsIn {declaration : Declaration} :
    ∀ (home : Home) (trees : List Tree), declaration ∈ declarationsIn home trees →
      declaration.home.Within home
  | home, [], h => by simp [declarationsIn] at h
  | home, tree :: rest, h => by
    rw [declarationsIn, List.mem_append] at h
    rcases h with h | h
    · exact home_of_mem_declarationsOf home tree h
    · exact home_of_mem_declarationsIn home rest h

end

/-- The modules that a scan collects from start where the scan does. -/
theorem head?_home_of_mem_declarationsIn {root : List String} {trees : List Tree}
    {declaration : Declaration} (h : declaration ∈ declarationsIn (.top root) trees) {first : String}
    (start : root.head? = some first) : declaration.home.names.head? = some first := by
  obtain ⟨below, split⟩ := (home_of_mem_declarationsIn _ trees h).names
  rw [← split, Home.names_top, List.head?_append, start]
  rfl

/-! ## Fields -/

namespace Declaration

/-- The fields that a declaration is written with, if they have names. -/
def writtenFields (declaration : Declaration) : List (String × Tree) :=
  match declaration.kind with
  | .record _ (.named fields) => fields
  | _ => []

/-- The type that is written for a field. -/
def writtenType? (declaration : Declaration) (name : String) : Option Tree :=
  declaration.writtenFields.lookup name

/-- A struct without parameters whose fields, if it has any, are named, no two alike. -/
structure IsPlainRecord (declaration : Declaration) : Prop where
  kind : ∃ body, declaration.kind = .record false body ∧ body ≠ .positional
  nodup : (declaration.writtenFields.map Prod.fst).Nodup

/-- The written fields in order, with their types by full identities. -/
def qualifiedFields (declaration : Declaration) (declarations : List Declaration) : List Field :=
  declaration.writtenFields.map fun (name, type) =>
    ⟨name, ⟨(qualifyType declarations declaration.home type).text⟩⟩

end Declaration

section Schemas

variable {declarations : List Declaration} {declaration : Declaration} {fields : List Field}

theorem firstRepeated?_eq_none_iff {seen names : List String} :
    firstRepeated? seen names = none ↔ names.Nodup ∧ ∀ name ∈ names, name ∉ seen := by
  refine ⟨nodup_of_firstRepeated?_eq_none, ?_⟩
  induction names generalizing seen with
  | nil => exact fun _ => rfl
  | cons name names ih =>
    rintro ⟨nodup, apart⟩
    obtain ⟨fresh, nodup⟩ := List.nodup_cons.mp nodup
    rw [firstRepeated?, if_neg (apart name List.mem_cons_self)]
    refine ih ⟨nodup, fun other hm listed => ?_⟩
    rcases List.mem_cons.mp listed with rfl | listed
    · exact fresh hm
    · exact apart other (List.mem_cons_of_mem _ hm) listed

section OfFields

variable {identity : Identity} {known : List Field}

theorem ofFields_of_nodup (nodup : (known.map Field.name).Nodup) :
    Schema.ofFields identity known = .ok ⟨identity, .resolved known nodup⟩ := by
  have none_repeated : firstRepeated? [] (known.map Field.name) = none :=
    firstRepeated?_eq_none_iff.mpr ⟨nodup, by simp⟩
  unfold Schema.ofFields
  split
  · next repeated =>
    rw [none_repeated] at repeated
    cases repeated
  · rfl

theorem exists_error_of_not_nodup (repeated : ¬(known.map Field.name).Nodup) :
    ∃ error, Schema.ofFields identity known = .error error := by
  unfold Schema.ofFields
  split
  · exact ⟨_, rfl⟩
  · next none_repeated => exact absurd (firstRepeated?_eq_none_iff.mp none_repeated).1 repeated

/-- Fields give a schema exactly if no name is repeated. -/
theorem fields?_ofFields_iff :
    (match Schema.ofFields identity known with
      | .ok schema => schema
      | .error error => Schema.unresolved identity error.message).fields? = some fields ↔
      (known.map Field.name).Nodup ∧ fields = known := by
  by_cases nodup : (known.map Field.name).Nodup
  · simp only [ofFields_of_nodup nodup, Schema.fields?, Option.some.injEq, nodup, true_and]
    exact eq_comm
  · obtain ⟨error, failed⟩ := @exists_error_of_not_nodup identity known nodup
    simp [failed, nodup, Schema.unresolved, Schema.fields?]

theorem identity_ofFields_match (identity : Identity) (known : List Field) :
    (match Schema.ofFields identity known with
      | .ok schema => schema
      | .error error => Schema.unresolved identity error.message).identity = identity := by
  by_cases nodup : (known.map Field.name).Nodup
  · rw [ofFields_of_nodup nodup]
  · obtain ⟨error, failed⟩ := @exists_error_of_not_nodup identity known nodup
    rw [failed]
    rfl

end OfFields

/-- A declaration has fields exactly if it is a plain record, and then they are the written ones. -/
theorem fields?_schemaOf_iff : (schemaOf declarations declaration).fields? = some fields ↔
    declaration.IsPlainRecord ∧ fields = declaration.qualifiedFields declarations := by
  have names : (declaration.qualifiedFields declarations).map Field.name =
      declaration.writtenFields.map Prod.fst := by
    simp only [Declaration.qualifiedFields, List.map_map, Function.comp_def]
  by_cases plain : ∃ body, declaration.kind = .record false body ∧ body ≠ .positional
  · have schema : schemaOf declarations declaration =
        match Schema.ofFields declaration.identity (declaration.qualifiedFields declarations) with
        | .ok schema => schema
        | .error error => Schema.unresolved declaration.identity error.message := by
      obtain ⟨body, kind, named⟩ := plain
      unfold schemaOf Declaration.qualifiedFields Declaration.writtenFields
      cases body with
      | positional => exact absurd rfl named
      | _ =>
        rewrite [kind]
        rfl
    rw [schema, fields?_ofFields_iff, names]
    exact and_congr_left fun _ => ⟨fun nodup => ⟨plain, nodup⟩, Declaration.IsPlainRecord.nodup⟩
  · refine ⟨fun h => absurd ?_ plain, fun h => absurd h.1.kind plain⟩
    unfold schemaOf at h
    split at h
    · cases h
    · cases h
    · next body named kind =>
      exact ⟨body, kind, named⟩
    · cases h

theorem identity_schemaOf : (schemaOf declarations declaration).identity = declaration.identity := by
  unfold schemaOf
  cases kind : declaration.kind with
  | record generic body =>
    cases generic with
    | true => rfl
    | false =>
      cases body with
      | named written => exact identity_ofFields_match _ _
      | unit => exact identity_ofFields_match declaration.identity []
      | positional => rfl
  | _ => rfl

/-- A field of a schema is a written one, with its type by full identities. -/
theorem exists_writtenType? (h : (schemaOf declarations declaration).fields? = some fields)
    {field : Field} (hm : field ∈ fields) :
    ∃ type, declaration.writtenType? field.name = some type ∧
      field.ty.text = (qualifyType declarations declaration.home type).text := by
  obtain ⟨plain, rfl⟩ := fields?_schemaOf_iff.mp h
  obtain ⟨⟨name, type⟩, member, rfl⟩ := List.mem_map.mp hm
  exact ⟨type, lookup_of_mem plain.nodup member, rfl⟩

end Schemas

/-! ## Directives -/

section Directives

variable {root : String} {items : List Tree} {directive : Directive}

theorem Directive.parts_of_ofTargets {origin : Schema} {targets : List Schema}
    (h : Directive.ofTargets origin targets = .ok directive) :
    directive.origin = origin ∧ directive.targets = targets := by
  unfold Directive.ofTargets at h
  split at h
  · cases h
  · cases h
    exact ⟨rfl, rfl⟩

/-- Every directive comes from a declaration and is about what its attributes name. -/
theorem exists_declaration_of_mem {declarations : List Declaration}
    (h : directive ∈ (extractDeclarations declarations).directives) :
    ∃ declaration ∈ declarations, directive.origin = schemaOf declarations declaration ∧
      directive.targets =
        declaration.references.1.map (targetSchema declarations declaration.home) := by
  simp only [extractDeclarations, List.flatMap_map, List.mem_flatMap] at h
  obtain ⟨declaration, hm, h⟩ := h
  refine ⟨declaration, hm, ?_⟩
  unfold extractOne at h
  by_cases empty : declaration.references.1.isEmpty = true
  · simp [empty] at h
  · cases kind : declaration.kind with
    | record generic body =>
      simp only [empty, kind, Bool.false_eq_true, if_false] at h
      split at h
      · next directive' built =>
        obtain rfl : directive = directive' := List.mem_singleton.mp h
        exact Directive.parts_of_ofTargets built
      · cases h
    | _ => simp [empty, kind] at h

/-- A target with fields is the schema of a declaration. -/
theorem exists_declaration_of_targetSchema {declarations : List Declaration} {home : Home}
    {path : Tree} {fields : List Field}
    (h : (targetSchema declarations home path).fields? = some fields) :
    ∃ declaration ∈ declarations, targetSchema declarations home path =
      schemaOf declarations declaration := by
  unfold targetSchema at h ⊢
  cases resolves : resolve home path with
  | none =>
    rw [resolves] at h
    cases h
  | some identity =>
    cases found : lookUp declarations identity with
    | none =>
      simp only [resolves, found] at h
      cases h
    | some declaration => exact ⟨declaration, (lookUp_eq_some found).1, by simp only [found]⟩

end Directives

end RecordMapper
