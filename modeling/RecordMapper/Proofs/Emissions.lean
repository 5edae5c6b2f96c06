/-
A module is written if its paths, names and types can be read as Rust. In a module that comes from source
the paths and the names of functions are made of words, so that only a field can keep it from being written,
by a name or a type that cannot be read.
-/
import RecordMapper.Proofs.Contributions
import RecordMapper.Proofs.DeclaredNames
import RecordMapper.Proofs.FileChanges
import RecordMapper.Proofs.MapperNames
import RecordMapper.Proofs.Parameters

namespace RecordMapper

open Code

/-! ## Failing for one of some reasons -/

/-- What fails, if at all, for one of some reasons. -/
def FailsOnly {ε α : Type} (reasons : ε → Prop) (result : Except ε α) : Prop :=
  ∀ error, result = .error error → reasons error

namespace FailsOnly

variable {ε α β : Type} {reasons : ε → Prop}

theorem ok (answer : α) : FailsOnly reasons (.ok answer) := nofun

theorem of_exists {result : Except ε α} (h : ∃ answer, result = .ok answer) : FailsOnly reasons result := by
  obtain ⟨answer, rfl⟩ := h
  exact ok answer

theorem bind {first : Except ε α} {next : α → Except ε β} (hf : FailsOnly reasons first)
    (hn : ∀ answer, FailsOnly reasons (next answer)) : FailsOnly reasons (first >>= next) := by
  intro error failed
  cases first with
  | error cause =>
    cases failed
    exact hf _ rfl
  | ok answer => exact hn answer error failed

theorem mapM {f : α → Except ε β} {xs : List α} (h : ∀ x ∈ xs, FailsOnly reasons (f x)) :
    FailsOnly reasons (xs.mapM f) := by
  induction xs with
  | nil => exact ok []
  | cons x xs ih =>
    rw [List.mapM_cons]
    exact bind (h x List.mem_cons_self) fun first =>
      bind (ih fun other hm => h other (List.mem_cons_of_mem _ hm)) fun rest => ok _

/-- What does not fail for any of the reasons answers. -/
theorem exists_ok {result : Except ε α} (h : FailsOnly reasons result) (never : ∀ error, ¬reasons error) :
    ∃ answer, result = .ok answer := by
  cases result with
  | error error => exact absurd (h error rfl) (never error)
  | ok answer => exact ⟨answer, rfl⟩

end FailsOnly

/-! ## Fields -/

/-- A field is not Rust by its name or by its type. -/
inductive FieldRefused (fields : Field → Prop) : EmitError → Prop
  | name {field : Field} : fields field → nameOfText? field.name = none →
      FieldRefused fields (.invalidName field.name)
  | type {field : Field} : fields field → typeOfText? field.ty.text = none →
      FieldRefused fields (.invalidType field.ty)

/-- The names and types that a function writes are those of fields. -/
structure Mapper.IsOfFields (mapper : Mapper) (fields : Field → Prop) : Prop where
  name : ∃ tree, nameTree mapper.name = .ok tree
  returns : ∃ path, mapper.returns.toPath = .ok path
  parameters : ∀ parameter ∈ mapper.parameters, fields parameter.field ∧
    ∀ name, parameter.default? = some name → name = parameter.name
  inits : ∀ init ∈ mapper.inits, ∃ field, fields field ∧ init = ⟨field.name, field.name⟩

/-- The names and types that a module writes are those of fields. -/
structure MapperModule.IsOfFields (module : MapperModule) (fields : Field → Prop) : Prop where
  origin : ∃ path, module.origin.toPath = .ok path
  functions : ∀ function ∈ module.functions, function.IsOfFields fields

section Fields

variable {fields : Field → Prop}

theorem failsOnly_nameTree {field : Field} (hf : fields field) :
    FailsOnly (FieldRefused fields) (nameTree field.name) := by
  intro error failed
  unfold nameTree at failed
  split at failed
  · cases failed
  · next refused =>
    cases failed
    exact .name hf refused

theorem failsOnly_toType {field : Field} (hf : fields field) :
    FailsOnly (FieldRefused fields) field.ty.toType := by
  intro error failed
  unfold TypeText.toType at failed
  split at failed
  · cases failed
  · next refused =>
    cases failed
    exact .type hf refused

theorem Parameter.failsOnly_toSource {parameter : Parameter} (hf : fields parameter.field)
    (default : ∀ name, parameter.default? = some name → name = parameter.name) :
    FailsOnly (FieldRefused fields) parameter.toSource := by
  have name := failsOnly_nameTree hf
  have type := failsOnly_toType hf
  refine .bind name fun _ => .bind type fun _ => ?_
  split
  · exact .ok _
  · next own =>
    rw [default _ own]
    exact .bind name fun _ => .ok _

theorem FieldInit.failsOnly_toSource {field : Field} (hf : fields field) :
    FailsOnly (FieldRefused fields) (FieldInit.toSource ⟨field.name, field.name⟩) := by
  unfold FieldInit.toSource
  refine .bind (failsOnly_nameTree hf) fun name => ?_
  rw [if_pos rfl]
  exact .ok _

theorem Mapper.IsOfFields.failsOnly {mapper : Mapper} (h : mapper.IsOfFields fields) :
    FailsOnly (FieldRefused fields) mapper.toMethod := by
  refine .bind (.of_exists h.name) fun name => .bind (.of_exists h.returns) fun returns =>
    .bind (.mapM fun parameter hp => ?_) fun parameters => .bind (.mapM fun init hi => ?_) fun inits => .ok _
  · obtain ⟨own, default⟩ := h.parameters parameter hp
    exact parameter.failsOnly_toSource own default
  · obtain ⟨field, hf, rfl⟩ := h.inits init hi
    exact FieldInit.failsOnly_toSource hf

theorem MapperModule.IsOfFields.failsOnly {module : MapperModule} (h : module.IsOfFields fields) :
    FailsOnly (FieldRefused fields) module.trees := by
  have impl : FailsOnly (FieldRefused fields) module.toImpl? := by
    unfold MapperModule.toImpl?
    split
    · exact .ok _
    · exact .bind (.of_exists h.origin) fun origin =>
        .bind (.mapM fun function hf => (h.functions function hf).failsOnly) fun methods => .ok _
  refine .bind impl fun block => ?_
  split <;> exact .ok _

/-- A function between records of known fields writes names and types of these fields. -/
theorem isOfFields_of_synthesize {origin target : Schema} {known listed : List Field} {function : Mapper}
    (ho : origin.fields? = some known) (ht : target.fields? = some listed)
    (listed_fields : ∀ field ∈ listed, fields field)
    (name : ∃ tree, nameTree target.identity.mapperName = .ok tree)
    (path : ∃ path, target.identity.toPath = .ok path)
    (made : synthesize origin target (plan origin target) = .ok function) :
    function.IsOfFields fields := by
  rw [synthesize_of_fields ho ht] at made
  cases made
  refine ⟨name, path, fun parameter hp => ?_, fun init hi => ?_⟩
  · obtain ⟨field, hf, rfl⟩ := (mem_parameters_iff ho ht).mp hp
    refine ⟨listed_fields field hf, fun name own => ?_⟩
    unfold Field.parameterIn at own
    split at own
    · exact (Option.some.inj own).symm
    · cases own
  · obtain ⟨field, hf, rfl⟩ := List.mem_map.mp hi
    exact ⟨field, listed_fields field hf, rfl⟩

end Fields

/-! ## Modules from source -/

section Source

variable {declarations : List Declaration} {declaration : Declaration}

/-- A field of a struct among some declarations, with its type by full identities. -/
def IsScannedField (declarations : List Declaration) (field : Field) : Prop :=
  ∃ declaration ∈ declarations, declaration.IsPlainRecord ∧ field ∈ declaration.qualifiedFields declarations

/-- The identity of a declaration whose names are words is written as a path. -/
theorem Declaration.WellNamed.exists_toPath (h : declaration.WellNamed) :
    ∃ path, declaration.identity.toPath = .ok path := by
  obtain ⟨-, -, path, -, -, -, -, read, -⟩ := h.exists_path
  exact ⟨path, by rw [Identity.toPath, read]⟩

theorem Declaration.WellNamed.exists_nameTree (h : declaration.WellNamed) :
    ∃ tree, nameTree declaration.identity.mapperName = .ok tree := by
  obtain ⟨name, word, -, identity⟩ := h.identity
  rw [identity]
  exact exists_nameTree_mapperName word

/-- What a pass over an extraction gives is of scanned fields where the declarations are well named. -/
theorem isOfFields_of_extracted (wellNamed : ∀ declaration ∈ declarations, declaration.WellNamed)
    {module : MapperModule}
    (h : module ∈ (generate (extractDeclarations declarations).directives).modules) :
    module.IsOfFields (IsScannedField declarations) := by
  obtain ⟨directive, hd, origin, known, functions⟩ := exists_makes h
  obtain ⟨listedKnown, ho⟩ := Schema.exists_fields_of_reason_none known
  obtain ⟨own, hown, schema, targets⟩ := exists_declaration_of_mem hd
  refine ⟨?_, fun function hf => ?_⟩
  · rw [origin, schema, identity_schemaOf]
    exact (wellNamed own hown).exists_toPath
  · obtain ⟨target, ht, made⟩ := functions function hf
    obtain ⟨-, listed, -, fields, -⟩ := exists_fields_of_synthesize made
    rw [targets] at ht
    obtain ⟨path, -, rfl⟩ := List.mem_map.mp ht
    obtain ⟨other, hother, same⟩ := exists_declaration_of_targetSchema fields
    rw [same] at fields made
    obtain ⟨plain, rfl⟩ := fields?_schemaOf_iff.mp fields
    refine isOfFields_of_synthesize ho fields (fun field hm => ⟨other, hother, plain, hm⟩) ?_ ?_ made
    · rw [identity_schemaOf]
      exact (wellNamed other hother).exists_nameTree
    · rw [identity_schemaOf]
      exact (wellNamed other hother).exists_toPath

/-- **What can be written.** A module of a pass over the extraction of a source, scanned under a path of
words, is never refused for a path, and for a name or a type only if it is that of a field of a scanned struct
and cannot be read as Rust. If the names and types of these fields can all be read, it is written. -/
theorem trees_of_extracted {text : String} {file : File} (read : File.ofText? text = some file)
    {names : List String} (words : ∀ name ∈ names, IsPathWord name) {module : MapperModule}
    (h : module ∈ (generate (extract (String.intercalate "::" names) file.items).directives).modules) :
    (∀ identity, module.trees ≠ .error (.invalidPath identity)) ∧
      (∀ error, module.trees = .error error →
        FieldRefused (IsScannedField (declarationsIn (.top names) file.items)) error) ∧
      ((∀ field, IsScannedField (declarationsIn (.top names) file.items) field →
          (nameOfText? field.name).isSome = true ∧ (typeOfText? field.ty.text).isSome = true) →
        ∃ trees, module.trees = .ok trees) := by
  have root : (Identity.mk (String.intercalate "::" names)).segments = names := by
    rw [segments_intercalate fun name hm => (words name hm).colon_not_mem, List.filter_eq_self]
    exact fun name hm => by simpa using (words name hm).ne_empty
  rw [extract, root] at h
  have fails := (isOfFields_of_extracted (wellNamed_of_ofText? read words) h).failsOnly
  refine ⟨fun identity failed => ?_, fails, fun accepted => fails.exists_ok ?_⟩
  · cases fails _ failed
  · rintro _ (⟨scanned, refused⟩ | ⟨scanned, refused⟩)
    · have name := (accepted _ scanned).1
      rw [refused] at name
      cases name
    · have type := (accepted _ scanned).2
      rw [refused] at type
      cases type

end Source

/-- Three records, each mapped to the next; the last has one field, whose name is given. -/
def fieldNamed (name : String) : String :=
  "#[mapper(T)] struct O { id: u8 } #[mapper(U)] struct T { id: O } struct U \x7b " ++ name ++ ": u8 \x7d"

/-- A field may be declared as `_`, which is no name for a parameter: the module of the second record is
refused for it, and that of the first is written. Both are written if the field has another name. -/
theorem trees_of_extracted_fieldNamed :
    (∃ file written refused, File.ofText? (fieldNamed "_") = some file ∧
      (generate (extract "crate::r#mod" file.items).directives).modules = [written, refused] ∧
      (∃ trees, written.trees = .ok trees) ∧ refused.trees = .error (.invalidName "_") ∧
      FieldRefused (IsScannedField (declarationsIn (.top ["crate", "r#mod"]) file.items)) (.invalidName "_")) ∧
    ∃ file first second, File.ofText? (fieldNamed "r#in") = some file ∧
      (generate (extract "crate::r#mod" file.items).directives).modules = [first, second] ∧
      (∃ trees, first.trees = .ok trees) ∧ ∃ trees, second.trees = .ok trees := by
  have words : ∀ name ∈ ["crate", "r#mod"], IsPathWord name := by decide +kernel
  constructor
  · have output : (File.ofText? (fieldNamed "_")).map (fun file =>
        (generate (extract "crate::r#mod" file.items).directives).modules.map fun module =>
          module.trees.map fun _ => ()) = some [.ok (), .error (.invalidName "_")] := by
      decide +kernel
    obtain ⟨file, read, output⟩ := Option.map_eq_some_iff.mp output
    obtain ⟨written, rest, modules, kept, output⟩ := List.map_eq_cons_iff.mp output
    obtain ⟨refused, none_left, rfl, failed, output⟩ := List.map_eq_cons_iff.mp output
    obtain rfl := List.map_eq_nil_iff.mp output
    have kept : ∃ trees, written.trees = .ok trees := by
      cases trees : written.trees with
      | ok answer => exact ⟨answer, rfl⟩
      | error cause => simp [trees, Except.map] at kept
    have failed : refused.trees = .error (.invalidName "_") := by
      cases trees : refused.trees with
      | ok answer => simp [trees, Except.map] at failed
      | error cause => simpa [trees, Except.map] using failed
    have listed : refused ∈ (generate (extract "crate::r#mod" file.items).directives).modules := by
      simp [modules]
    exact ⟨file, written, refused, read, modules, kept, failed,
      (trees_of_extracted read words listed).2.1 _ failed⟩
  · have output : (File.ofText? (fieldNamed "r#in")).map (fun file =>
        let declarations := declarationsIn (.top ["crate", "r#mod"]) file.items
        ((generate (extract "crate::r#mod" file.items).directives).modules.length,
          decide (∀ declaration ∈ declarations, ∀ field ∈ declaration.qualifiedFields declarations,
            (nameOfText? field.name).isSome = true ∧ (typeOfText? field.ty.text).isSome = true))) =
        some (2, true) := by
      decide +kernel
    obtain ⟨file, read, output⟩ := Option.map_eq_some_iff.mp output
    obtain ⟨two, accepted⟩ := Prod.mk.inj output
    obtain ⟨first, second, modules⟩ := List.length_eq_two.mp two
    have written : ∀ module ∈ [first, second], ∃ trees, module.trees = .ok trees := by
      rw [← modules]
      refine fun module listed => (trees_of_extracted read words listed).2.2 ?_
      rintro field ⟨declaration, hd, -, hf⟩
      exact of_decide_eq_true accepted declaration hd field hf
    exact ⟨file, first, second, read, modules, written first (by simp), written second (by simp)⟩

end RecordMapper
