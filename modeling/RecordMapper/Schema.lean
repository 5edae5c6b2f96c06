/-
What is known of a record: its identity and either its fields, whose names differ, or the reason why
no field list could be had.
-/
import RecordMapper.Identity

namespace RecordMapper

/-- A type as it is written, compared letter by letter. -/
structure TypeText where
  text : String
  deriving DecidableEq, Repr, Inhabited

/-- A named field of a record. -/
structure Field where
  name : String
  ty : TypeText
  deriving DecidableEq, Repr, Inhabited

/-- Whether two fields have the same name and the same type. -/
def Field.agrees (a b : Field) : Bool :=
  a.name = b.name && a.ty = b.ty

/-- The fields of a record, as far as they are known. -/
inductive FieldList where
  | resolved (fields : List Field) (distinct : (fields.map Field.name).Nodup)
  | unresolved (reason : String)
  deriving DecidableEq, Repr

/-- A record by its identity and its fields. -/
structure Schema where
  identity : Identity
  fieldList : FieldList
  deriving DecidableEq, Repr

/-- Why a schema or a directive cannot be built. -/
inductive SchemaError where
  | duplicateField (identity : Identity) (field : String)
  | emptyDirective (origin : Identity)
  deriving DecidableEq, Repr

/-- The wording of a schema error. -/
def SchemaError.message : SchemaError → String
  | .duplicateField identity field =>
    "Field `" ++ field ++ "` is declared more than once in `" ++ identity.text ++ "`"
  | .emptyDirective origin => "Mapping directive on `" ++ origin.text ++ "` declares no target"

/-- The first name that already occurred before it, or among the names `seen`. -/
def firstRepeated? (seen : List String) : List String → Option String
  | [] => none
  | name :: rest => if name ∈ seen then some name else firstRepeated? (name :: seen) rest

theorem nodup_of_firstRepeated?_eq_none {seen names : List String}
    (h : firstRepeated? seen names = none) : names.Nodup ∧ ∀ name ∈ names, name ∉ seen := by
  induction names generalizing seen with
  | nil => simp
  | cons name rest ih =>
    unfold firstRepeated? at h
    split at h
    · simp at h
    · rename_i fresh
      obtain ⟨nodup, apart⟩ := ih h
      refine ⟨List.nodup_cons.2 ⟨fun member => ?_, nodup⟩, ?_⟩
      · exact apart name member (List.mem_cons_self ..)
      · intro other member
        rcases List.mem_cons.1 member with rfl | member
        · exact fresh
        · exact fun inSeen => apart other member (List.mem_cons_of_mem _ inSeen)

namespace Schema

/-- The schema of a record with known fields; a repeated field name is refused. -/
def ofFields (identity : Identity) (fields : List Field) : Except SchemaError Schema :=
  match h : firstRepeated? [] (fields.map Field.name) with
  | some name => .error (.duplicateField identity name)
  | none => .ok ⟨identity, .resolved fields (nodup_of_firstRepeated?_eq_none h).1⟩

/-- The schema of a record whose fields are not known. -/
def unresolved (identity : Identity) (reason : String) : Schema :=
  ⟨identity, .unresolved reason⟩

/-- The known fields. -/
def fields? (schema : Schema) : Option (List Field) :=
  match schema.fieldList with
  | .resolved fields _ => some fields
  | .unresolved _ => none

/-- The reason why the fields are not known. -/
def unresolvedReason? (schema : Schema) : Option String :=
  match schema.fieldList with
  | .resolved .. => none
  | .unresolved reason => some reason

/-- The field of a name. -/
def field? (schema : Schema) (name : String) : Option Field :=
  schema.fields?.bind fun fields => fields.find? (·.name = name)

end Schema

end RecordMapper
