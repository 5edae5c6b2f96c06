/-
What a schema is written as is read as that schema. What else is read as a schema is said by relations
between a value and what it holds, whichever way the value is written; a repeated field name is refused in
all of them, because what was read goes through the check that every schema goes through.
-/
import RecordMapper.Proofs.Correspondence
import RecordMapper.Proofs.Extracted
import RecordMapper.Proofs.JsonText
import Mathlib.Data.List.Nodup

namespace RecordMapper

/-! ## The first repeated name -/

/-- Whether `field` is the first of `fields` whose name stands before it. -/
def FirstRepeat (fields : List Field) (field : Field) : Prop :=
  ∃ before after, fields = before ++ field :: after ∧ (before.map Field.name).Nodup ∧
    field.name ∈ before.map Field.name

theorem firstRepeated?_eq_some_iff {name : String} {seen names : List String} :
    firstRepeated? seen names = some name ↔
      ∃ before after, names = before ++ name :: after ∧ before.Nodup ∧
        (∀ earlier ∈ before, earlier ∉ seen) ∧ (name ∈ before ∨ name ∈ seen) := by
  induction names generalizing seen with
  | nil =>
    constructor
    · rintro ⟨⟩
    · rintro ⟨before, after, split, -⟩
      exact absurd split (List.append_ne_nil_of_right_ne_nil _ (List.cons_ne_nil _ _)).symm
  | cons first rest ih =>
    by_cases known : first ∈ seen
    · rw [firstRepeated?, if_pos known]
      constructor
      · rintro ⟨⟩
        exact ⟨[], rest, rfl, List.nodup_nil, by simp, .inr known⟩
      · rintro ⟨_ | ⟨other, before⟩, after, split, -, fresh, -⟩
        · rw [(List.cons.inj split).1]
        · rw [List.cons_append, List.cons.injEq] at split
          exact absurd known (split.1 ▸ fresh other List.mem_cons_self)
    · rw [firstRepeated?, if_neg known, ih]
      constructor
      · rintro ⟨before, after, rfl, nodup, fresh, repeated⟩
        refine ⟨first :: before, after, rfl, List.nodup_cons.mpr ⟨fun hm => ?_, nodup⟩, ?_, ?_⟩
        · exact fresh first hm List.mem_cons_self
        · exact List.forall_mem_cons.mpr ⟨known, fun earlier hm inSeen =>
            fresh earlier hm (List.mem_cons_of_mem _ inSeen)⟩
        · rw [List.mem_cons] at repeated ⊢
          tauto
      · rintro ⟨_ | ⟨other, before⟩, after, split, nodup, fresh, repeated⟩
        · cases split
          exact absurd (repeated.resolve_left List.not_mem_nil) known
        · rw [List.cons_append, List.cons.injEq] at split
          obtain ⟨rfl, rfl⟩ := split
          rw [List.nodup_cons] at nodup
          refine ⟨before, after, rfl, nodup.2, fun earlier hm inSeen => ?_, ?_⟩
          · rcases List.mem_cons.mp inSeen with rfl | inSeen
            · exact nodup.1 hm
            · exact fresh earlier (List.mem_cons_of_mem _ hm) inSeen
          · rw [List.mem_cons] at repeated ⊢
            tauto

theorem exists_firstRepeat_iff {name : String} {fields : List Field} :
    firstRepeated? [] (fields.map Field.name) = some name ↔
      ∃ field, FirstRepeat fields field ∧ field.name = name := by
  rw [firstRepeated?_eq_some_iff]
  constructor
  · rintro ⟨before, after, split, nodup, -, repeated⟩
    obtain ⟨before, rest, rfl, rfl, others⟩ := List.map_eq_append_iff.mp split
    obtain ⟨field, after, rfl, rfl, rfl⟩ := List.map_eq_cons_iff.mp others
    exact ⟨field, ⟨before, after, rfl, nodup, repeated.resolve_right List.not_mem_nil⟩, rfl⟩
  · rintro ⟨field, ⟨before, after, rfl, nodup, repeated⟩, rfl⟩
    exact ⟨before.map Field.name, after.map Field.name, by rw [List.map_append, List.map_cons], nodup,
      fun _ _ => List.not_mem_nil, .inl repeated⟩

/-- There is a first repeat exactly if names repeat. -/
theorem exists_firstRepeat_iff_not_nodup {fields : List Field} :
    (∃ field, FirstRepeat fields field) ↔ ¬(fields.map Field.name).Nodup := by
  have nodup_iff : firstRepeated? [] (fields.map Field.name) = none ↔ (fields.map Field.name).Nodup :=
    firstRepeated?_eq_none_iff.trans (and_iff_left fun _ _ => List.not_mem_nil)
  rw [← nodup_iff, ← ne_eq, Option.ne_none_iff_exists']
  constructor
  · rintro ⟨field, first⟩
    exact ⟨field.name, exists_firstRepeat_iff.mpr ⟨field, first, rfl⟩⟩
  · rintro ⟨name, found⟩
    obtain ⟨field, first, -⟩ := exists_firstRepeat_iff.mp found
    exact ⟨field, first⟩

/-- A schema is refused for the first repeated name, and only for one. -/
theorem ofFields_eq_error_iff {identity : Identity} {fields : List Field} {error : SchemaError} :
    Schema.ofFields identity fields = .error error ↔
      ∃ field, FirstRepeat fields field ∧ error = .duplicateField identity field.name := by
  have repeats : ∀ name, firstRepeated? [] (fields.map Field.name) = some name ↔
      ∃ field, FirstRepeat fields field ∧ field.name = name := fun _ => exists_firstRepeat_iff
  unfold Schema.ofFields
  split
  · next name found =>
    rw [Except.error.injEq]
    constructor
    · rintro rfl
      obtain ⟨field, first, rfl⟩ := (repeats name).mp found
      exact ⟨field, first, rfl⟩
    · rintro ⟨field, first, rfl⟩
      have same := found.symm.trans ((repeats _).mpr ⟨field, first, rfl⟩)
      rw [Option.some.inj same]
  · next none_repeated =>
    constructor
    · rintro ⟨⟩
    · rintro ⟨field, first, -⟩
      exact nomatch none_repeated.symm.trans ((repeats _).mpr ⟨field, first, rfl⟩)

theorem ofFields_eq_ok_iff {identity : Identity} {fields : List Field} {schema : Schema} :
    Schema.ofFields identity fields = .ok schema ↔
      (fields.map Field.name).Nodup ∧ schema.identity = identity ∧ schema.fields? = some fields := by
  by_cases nodup : (fields.map Field.name).Nodup
  · rw [ofFields_of_nodup nodup, Except.ok.injEq]
    constructor
    · rintro rfl
      exact ⟨nodup, rfl, rfl⟩
    · rintro ⟨-, rfl, known⟩
      obtain ⟨identity, ⟨fields', _⟩ | reason⟩ := schema
      · cases known
        rfl
      · cases known
  · obtain ⟨error, refused⟩ := @exists_error_of_not_nodup identity fields nodup
    rw [refused]
    constructor
    · rintro ⟨⟩
    · exact fun h => absurd h.1 nodup

/-! ## What a schema is written as -/

/-- The value that a field is written as. -/
def Field.value (field : Field) : JsonValue :=
  .object [(textCodes "name", .text (textCodes field.name)),
    (textCodes "ty", .text (textCodes field.ty.text))]

/-- The value that a field list is written as. -/
def FieldList.value : FieldList → JsonValue
  | .resolved fields _ => .object [(textCodes "resolved", .array (fields.map Field.value))]
  | .unresolved reason =>
    .object [(textCodes "unresolved", .object [(textCodes "reason", .text (textCodes reason))])]

/-- The value that a schema is written as. -/
def Schema.value (schema : Schema) : JsonValue :=
  .object [(textCodes "identity", .text (textCodes schema.identity.text)),
    (textCodes "fields", schema.fieldList.value)]

open JsonValue

theorem Field.reads_toJson (field : Field) : Reads field.toJson field.value :=
  reads_jsonObject
    (.cons ⟨rfl, reads_jsonText field.name⟩ (.cons ⟨rfl, reads_jsonText field.ty.text⟩ .nil))

theorem FieldList.reads_toJson (fieldList : FieldList) : Reads fieldList.toJson fieldList.value := by
  cases fieldList with
  | resolved fields _ =>
    have items : List.Forall₂ Reads (fields.map Field.toJson) (fields.map Field.value) := by
      rw [List.forall₂_map_left_iff, List.forall₂_map_right_iff, List.forall₂_same]
      exact fun field _ => field.reads_toJson
    exact reads_jsonObject_singleton _ (reads_jsonArray items)
  | unresolved reason =>
    exact reads_jsonObject_singleton _ (reads_jsonObject_singleton _ (reads_jsonText reason))

theorem Schema.reads_toJson (schema : Schema) : Reads schema.toJson schema.value :=
  reads_jsonObject (.cons ⟨rfl, reads_jsonText schema.identity.text⟩
    (.cons ⟨rfl, schema.fieldList.reads_toJson⟩ .nil))

/-! ## What a value holds -/

/-- Whether a value is a text. -/
def TextOf (value : JsonValue) (text : String) : Prop :=
  ∃ codes, value = .text codes ∧ textOfCodes? codes = some text

/-- Whether a name is the key of one member only, whose value is `value`. -/
def OnlyMember (members : List (List Nat × JsonValue)) (name : String) (value : JsonValue) : Prop :=
  ∃ before key after, members = before ++ (key, value) :: after ∧ textOfCodes? key = some name ∧
    ∀ other ∈ before ++ after, textOfCodes? other.1 ≠ some name

/-- Whether a value holds the members `names`: as an array in their order, or as an object in any order
and with others among them, whose keys are texts too. -/
inductive RecordOf (names : List String) : JsonValue → List JsonValue → Prop where
  | array {values : List JsonValue} (each : values.length = names.length) :
    RecordOf names (.array values) values
  | object {members : List (List Nat × JsonValue)} {values : List JsonValue}
    (keys : ∀ member ∈ members, ∃ key, textOfCodes? member.1 = some key)
    (each : List.Forall₂ (OnlyMember members) names values) : RecordOf names (.object members) values

/-- Whether a value is that of a field. -/
def FieldOf (value : JsonValue) (field : Field) : Prop :=
  ∃ name ty, RecordOf ["name", "ty"] value [name, ty] ∧ TextOf name field.name ∧
    TextOf ty field.ty.text

/-- Whether a value is that of a field list, in which names may repeat. -/
inductive FieldsOf : JsonValue → WrittenFields → Prop where
  | resolved {key : List Nat} {items : List JsonValue} {fields : List Field}
    (named : textOfCodes? key = some "resolved") (each : List.Forall₂ FieldOf items fields) :
    FieldsOf (.object [(key, .array items)]) (.resolved fields)
  | unresolved {key : List Nat} {value text : JsonValue} {reason : String}
    (named : textOfCodes? key = some "unresolved") (record : RecordOf ["reason"] value [text])
    (given : TextOf text reason) : FieldsOf (.object [(key, value)]) (.unresolved reason)

/-- Whether a value is that of a schema, in which names may repeat. -/
def SchemaOf (value : JsonValue) (identity : Identity) (written : WrittenFields) : Prop :=
  ∃ name fields, RecordOf ["identity", "fields"] value [name, fields] ∧ TextOf name identity.text ∧
    FieldsOf fields written

/-! ## Reading a value -/

theorem string?_eq_some_iff {value : JsonValue} {text : String} :
    value.string? = some text ↔ TextOf value text := by
  cases value <;> simp [JsonValue.string?, TextOf]

theorem items?_eq_some_iff {value : JsonValue} {items : List JsonValue} :
    value.items? = some items ↔ value = .array items := by
  cases value <;> simp [JsonValue.items?]

/-- A list has one element with a property exactly if the others around it do not have it. -/
theorem filter_eq_singleton_iff {α : Type} {p : α → Bool} {xs : List α} {x : α} :
    xs.filter p = [x] ↔
      ∃ before after, xs = before ++ x :: after ∧ p x = true ∧ ∀ other ∈ before ++ after, ¬p other := by
  simp only [List.filter_eq_cons_iff, List.filter_eq_nil_iff, List.forall_mem_append]
  constructor
  · rintro ⟨before, after, split, none_before, holds, none_after⟩
    exact ⟨before, after, split, holds, none_before, none_after⟩
  · rintro ⟨before, after, split, holds, none_before, none_after⟩
    exact ⟨before, after, split, none_before, holds, none_after⟩

/-- Whether a member is the named one `read`. -/
def NamedMember (member : List Nat × JsonValue) (read : String × JsonValue) : Prop :=
  textOfCodes? member.1 = some read.1 ∧ member.2 = read.2

/-- The only one of the named members with a name is the only member with a key of that name. -/
theorem onlyMember_iff {members : List (List Nat × JsonValue)} {named : List (String × JsonValue)}
    (h : List.Forall₂ NamedMember members named) {name : String} {value : JsonValue} :
    (∃ key, named.filter (fun member => decide (member.1 = name)) = [(key, value)]) ↔
      OnlyMember members name value := by
  have same : List.Forall₂ NamedMember (members.filter fun member => textOfCodes? member.1 = some name)
      (named.filter fun member => decide (member.1 = name)) :=
    List.rel_filter (fun member read matching => by simp [matching.1]) h
  have only : OnlyMember members name value ↔
      ∃ codes, members.filter (fun member => textOfCodes? member.1 = some name) = [(codes, value)] := by
    simp only [filter_eq_singleton_iff, decide_eq_true_iff, OnlyMember]
    constructor
    · rintro ⟨before, key, after, found⟩
      exact ⟨key, before, after, found⟩
    · rintro ⟨key, before, after, found⟩
      exact ⟨before, key, after, found⟩
  rw [only]
  constructor
  · rintro ⟨key, found⟩
    rw [found] at same
    obtain ⟨⟨codes, _⟩, _, ⟨-, rfl⟩, rest, found'⟩ := List.forall₂_cons_right_iff.mp same
    rw [List.forall₂_nil_right_iff.mp rest] at found'
    exact ⟨codes, found'⟩
  · rintro ⟨codes, found⟩
    rw [found] at same
    obtain ⟨⟨key, _⟩, _, ⟨-, rfl⟩, rest, found'⟩ := List.forall₂_cons_left_iff.mp same
    rw [List.forall₂_nil_left_iff.mp rest] at found'
    exact ⟨key, found'⟩

theorem namedMembers?_eq_some_iff {members : List (List Nat × JsonValue)}
    {named : List (String × JsonValue)} :
    namedMembers? members = some named ↔ List.Forall₂ NamedMember members named := by
  have step : ∀ member read, (textOfCodes? member.1).map (·, member.2) = some read ↔
      NamedMember member read := by
    rintro member ⟨key, value⟩
    simp [NamedMember]
  exact mapM_eq_some_iff.trans
    ⟨.imp fun member read => (step member read).mp, .imp fun member read => (step member read).mpr⟩

theorem exists_named_iff {members : List (List Nat × JsonValue)} :
    (∃ named, List.Forall₂ NamedMember members named) ↔
      ∀ member ∈ members, ∃ key, textOfCodes? member.1 = some key := by
  induction members with
  | nil => exact iff_of_true ⟨[], .nil⟩ (List.forall_mem_nil _)
  | cons member members ih =>
    rw [List.forall_mem_cons, ← ih]
    constructor
    · rintro ⟨_, _ | ⟨⟨key, -⟩, others⟩⟩
      exact ⟨⟨_, key⟩, _, others⟩
    · rintro ⟨⟨key, keyed⟩, named, others⟩
      exact ⟨(key, member.2) :: named, .cons ⟨keyed, rfl⟩ others⟩

theorem record?_eq_some_iff {names : List String} {value : JsonValue} {values : List JsonValue} :
    value.record? names = some values ↔ RecordOf names value values := by
  cases value with
  | array items =>
    simp only [JsonValue.record?, Option.ite_none_right_eq_some, Option.some.injEq]
    constructor
    · rintro ⟨each, rfl⟩
      exact .array each
    · rintro ⟨each⟩
      exact ⟨each, rfl⟩
  | object members =>
    simp only [JsonValue.record?, Option.bind_eq_bind, Option.bind_eq_some_iff, mapM_eq_some_iff,
      namedMembers?_eq_some_iff]
    constructor
    · rintro ⟨named, keys, each⟩
      refine .object (exists_named_iff.mp ⟨named, keys⟩) (each.imp fun name value found => ?_)
      split at found
      · next key _ only => exact (onlyMember_iff keys).mp ⟨key, by rw [only, Option.some.inj found]⟩
      · cases found
    · rintro ⟨⟩
      next keys each =>
      obtain ⟨named, keys⟩ := exists_named_iff.mpr keys
      refine ⟨named, keys, each.imp fun name value only => ?_⟩
      obtain ⟨key, found⟩ := (onlyMember_iff keys).mpr only
      rw [found]
  | _ =>
    constructor
    all_goals rintro ⟨⟩

theorem Field.ofJson?_eq_some_iff {value : JsonValue} {field : Field} :
    Field.ofJson? value = some field ↔ FieldOf value field := by
  unfold Field.ofJson? FieldOf
  simp only [Option.bind_eq_bind, Option.bind_eq_some_iff, record?_eq_some_iff]
  constructor
  · rintro ⟨values, record, found⟩
    split at found
    · next name ty =>
      simp only [Option.bind_eq_some_iff, string?_eq_some_iff] at found
      obtain ⟨_, name_of, _, ty_of, ⟨⟩⟩ := found
      exact ⟨name, ty, record, name_of, ty_of⟩
    · cases found
  · rintro ⟨name, ty, record, name_of, ty_of⟩
    refine ⟨_, record, ?_⟩
    simp only [string?_eq_some_iff.mpr name_of, string?_eq_some_iff.mpr ty_of]
    rfl

theorem WrittenFields.ofJson?_eq_some_iff {value : JsonValue} {written : WrittenFields} :
    WrittenFields.ofJson? value = some written ↔ FieldsOf value written := by
  constructor
  · intro read
    unfold WrittenFields.ofJson? at read
    split at read
    · simp only [Option.bind_eq_bind, Option.bind_eq_some_iff] at read
      obtain ⟨name, named, read⟩ := read
      split at read
      · simp only [Option.bind_eq_some_iff, items?_eq_some_iff, mapM_eq_some_iff,
          Field.ofJson?_eq_some_iff, Option.some.injEq] at read
        obtain ⟨items, rfl, fields, each, rfl⟩ := read
        exact .resolved named each
      · simp only [Option.bind_eq_some_iff, record?_eq_some_iff] at read
        obtain ⟨values, record, read⟩ := read
        split at read
        · simp only [Option.bind_eq_some_iff, string?_eq_some_iff] at read
          obtain ⟨reason, given, ⟨⟩⟩ := read
          exact .unresolved named record given
        · cases read
      · cases read
    · cases read
  · intro holds
    cases holds with
    | resolved named each =>
      have fields := mapM_eq_some_iff.mpr (each.imp fun _ _ => Field.ofJson?_eq_some_iff.mpr)
      simp only [WrittenFields.ofJson?, named, items?, Option.bind_eq_bind, Option.bind_some, fields]
    | unresolved named record given =>
      simp only [WrittenFields.ofJson?, named, Option.bind_eq_bind, Option.bind_some,
        record?_eq_some_iff.mpr record, string?_eq_some_iff.mpr given]

theorem writtenSchema?_eq_some_iff {value : JsonValue} {identity : Identity} {written : WrittenFields} :
    writtenSchema? value = some (identity, written) ↔ SchemaOf value identity written := by
  unfold writtenSchema? SchemaOf
  simp only [Option.bind_eq_bind, Option.bind_eq_some_iff, record?_eq_some_iff]
  constructor
  · rintro ⟨values, record, found⟩
    split at found
    · next name fields =>
      simp only [Option.bind_eq_some_iff, string?_eq_some_iff, WrittenFields.ofJson?_eq_some_iff] at found
      obtain ⟨_, name_of, _, fields_of, ⟨⟩⟩ := found
      exact ⟨name, fields, record, name_of, fields_of⟩
    · cases found
  · rintro ⟨name, fields, record, name_of, fields_of⟩
    refine ⟨_, record, ?_⟩
    simp only [string?_eq_some_iff.mpr name_of, WrittenFields.ofJson?_eq_some_iff.mpr fields_of]
    rfl

/-! ## Round trip -/

/-- The fields as they are written. -/
def FieldList.written : FieldList → WrittenFields
  | .resolved fields _ => .resolved fields
  | .unresolved reason => .unresolved reason

theorem textOf_textCodes (text : String) : TextOf (.text (textCodes text)) text :=
  ⟨_, rfl, textOfCodes?_textCodes text⟩

/-- An object with different keys holds the members of its keys. -/
theorem recordOf_object (members : List (String × JsonValue)) (nodup : (members.map Prod.fst).Nodup) :
    RecordOf (members.map Prod.fst)
      (.object (members.map fun member => (textCodes member.1, member.2))) (members.map Prod.snd) := by
  refine .object ?_ ?_
  · simp only [List.forall_mem_map, textOfCodes?_textCodes]
    exact fun member _ => ⟨member.1, rfl⟩
  · rw [List.forall₂_map_left_iff, List.forall₂_map_right_iff, List.forall₂_same]
    intro member hm
    obtain ⟨before, after, rfl⟩ := List.append_of_mem hm
    refine ⟨before.map _, textCodes member.1, after.map _, by rw [List.map_append, List.map_cons],
      textOfCodes?_textCodes _, ?_⟩
    rw [← List.map_append, List.forall_mem_map]
    intro other around same
    rw [textOfCodes?_textCodes, Option.some.injEq] at same
    rw [List.map_append, List.map_cons, List.nodup_middle, ← List.map_append, List.nodup_cons] at nodup
    exact nodup.1 (same ▸ List.mem_map_of_mem around)

theorem Field.fieldOf_value (field : Field) : FieldOf field.value field :=
  ⟨_, _, recordOf_object [("name", _), ("ty", _)] (show ["name", "ty"].Nodup by decide),
    textOf_textCodes _, textOf_textCodes _⟩

theorem FieldList.fieldsOf_value (fieldList : FieldList) :
    FieldsOf fieldList.value fieldList.written := by
  cases fieldList with
  | resolved fields _ =>
    have each : List.Forall₂ FieldOf (fields.map Field.value) fields := by
      rw [List.forall₂_map_left_iff, List.forall₂_same]
      exact fun field _ => field.fieldOf_value
    exact .resolved (textOfCodes?_textCodes _) each
  | unresolved reason =>
    have record := recordOf_object [("reason", .text (textCodes reason))]
      (List.nodup_singleton "reason")
    exact .unresolved (textOfCodes?_textCodes _) record (textOf_textCodes reason)

theorem Schema.schemaOf_value (schema : Schema) :
    SchemaOf schema.value schema.identity schema.fieldList.written :=
  ⟨_, _, recordOf_object [("identity", _), ("fields", _)]
      (show ["identity", "fields"].Nodup by decide),
    textOf_textCodes _, schema.fieldList.fieldsOf_value⟩

/-- What is written has a schema that it is written for, or else a repeated name. -/
theorem schemaOfWritten_eq_ok_iff {identity : Identity} {written : WrittenFields} {schema : Schema} :
    schemaOfWritten identity written = .ok schema ↔
      schema.identity = identity ∧ schema.fieldList.written = written := by
  cases written with
  | resolved fields =>
    rw [schemaOfWritten, ofFields_eq_ok_iff]
    obtain ⟨identity, ⟨fields', distinct⟩ | reason⟩ := schema
    · simp only [Schema.fields?, FieldList.written, Option.some.injEq, WrittenFields.resolved.injEq,
        and_iff_right_iff_imp]
      rintro ⟨-, rfl⟩
      exact distinct
    · simp [Schema.fields?, FieldList.written]
  | unresolved reason =>
    rw [schemaOfWritten, Except.ok.injEq]
    obtain ⟨identity, ⟨fields, distinct⟩ | reason⟩ := schema
    · simp [Schema.unresolved, FieldList.written]
    · simp [Schema.unresolved, FieldList.written, eq_comm]

/-- A text is read as a schema exactly if its only value is that of the schema. -/
theorem ofJsonText_eq_ok_iff {text : String} {schema : Schema} :
    Schema.ofJsonText text = .ok schema ↔
      ∃ value rest, readFirst text = some (value, rest) ∧ skipBlank rest = [] ∧
        SchemaOf value schema.identity schema.fieldList.written := by
  constructor
  · intro accepted
    unfold Schema.ofJsonText at accepted
    split at accepted
    · cases accepted
    · next value rest first =>
      split at accepted
      · cases accepted
      · next identity written holds =>
        split at accepted
        · cases accepted
        · next built =>
          split at accepted
          · next blank =>
            obtain rfl := Except.ok.inj accepted
            obtain ⟨rfl, rfl⟩ := schemaOfWritten_eq_ok_iff.mp built
            exact ⟨value, rest, first, blank, writtenSchema?_eq_some_iff.mp holds⟩
          · cases accepted
  · rintro ⟨value, rest, first, blank, holds⟩
    have built : schemaOfWritten schema.identity schema.fieldList.written = .ok schema :=
      schemaOfWritten_eq_ok_iff.mpr ⟨rfl, rfl⟩
    unfold Schema.ofJsonText
    simp only [first, writtenSchema?_eq_some_iff.mpr holds, built, if_pos blank]

/-- A repeated name is refused, whatever follows the value. -/
theorem ofJsonText_of_repeated {text : String} {value : JsonValue} {rest : List Char} {identity : Identity}
    {fields : List Field} (first : readFirst text = some (value, rest))
    (holds : SchemaOf value identity (.resolved fields)) {field : Field}
    (repeated : FirstRepeat fields field) :
    Schema.ofJsonText text = .error (.refused (.duplicateField identity field.name)) := by
  have refused : Schema.ofFields identity fields = .error (.duplicateField identity field.name) :=
    ofFields_eq_error_iff.mpr ⟨field, repeated, rfl⟩
  unfold Schema.ofJsonText
  simp only [first, writtenSchema?_eq_some_iff.mpr holds, schemaOfWritten, refused]

/-- The text of a schema is read as the schema, and every text that is read as one, however it is written,
is checked as a new schema is: a schema with a repeated name comes from no text, and the first repeated
name is the one that is reported. -/
theorem ofJsonText_toJson :
    (∀ schema : Schema, Schema.ofJsonText schema.toJson = .ok schema) ∧
    (∀ text schema, Schema.ofJsonText text = .ok schema ↔
      ∃ value rest, readFirst text = some (value, rest) ∧ skipBlank rest = [] ∧
        SchemaOf value schema.identity schema.fieldList.written) ∧
    (∀ text schema fields, Schema.ofJsonText text = .ok schema → schema.fields? = some fields →
      (fields.map Field.name).Nodup) ∧
    (∀ text value rest identity fields, readFirst text = some (value, rest) →
      SchemaOf value identity (.resolved fields) → ¬(fields.map Field.name).Nodup →
        ∃ field, FirstRepeat fields field ∧
          Schema.ofJsonText text = .error (.refused (.duplicateField identity field.name))) ∧
    (∀ identity fields schema, Schema.ofFields identity fields = .ok schema ↔
      (fields.map Field.name).Nodup ∧ schema.identity = identity ∧ schema.fields? = some fields) ∧
    (∀ identity fields error, Schema.ofFields identity fields = .error error ↔
      ∃ field, FirstRepeat fields field ∧ error = .duplicateField identity field.name) ∧
    ∀ fields, (∃ field, FirstRepeat fields field) ↔ ¬(fields.map Field.name).Nodup := by
  refine ⟨fun schema => ?_, fun _ _ => ofJsonText_eq_ok_iff, fun _ schema fields _ known => ?_, ?_,
    fun _ _ _ => ofFields_eq_ok_iff, fun _ _ _ => ofFields_eq_error_iff,
    fun _ => exists_firstRepeat_iff_not_nodup⟩
  · exact ofJsonText_eq_ok_iff.mpr
      ⟨schema.value, [], schema.reads_toJson.readFirst, rfl, schema.schemaOf_value⟩
  · obtain ⟨_, ⟨fields', distinct⟩ | _⟩ := schema
    · obtain rfl := Option.some.inj known
      exact distinct
    · cases known
  · intro text value rest identity fields first holds repeated
    obtain ⟨field, again⟩ := exists_firstRepeat_iff_not_nodup.mpr repeated
    exact ⟨field, again, ofJsonText_of_repeated first holds again⟩

/-- A schema that is written as an array, with a field name that occurs twice. -/
theorem ofJsonText_arrayForm :
    Schema.ofJsonText (jsonArray [jsonText "Origin", jsonObject [("resolved",
        jsonArray [Field.toJson ⟨"id", ⟨"i64"⟩⟩, Field.toJson ⟨"id", ⟨"String"⟩⟩])]]) =
      .error (.refused (.duplicateField ⟨"Origin"⟩ "id")) := by
  have known := reads_jsonObject_singleton "resolved" (reads_jsonArray (.cons
    (Field.reads_toJson ⟨"id", ⟨"i64"⟩⟩) (.cons (Field.reads_toJson ⟨"id", ⟨"String"⟩⟩) .nil)))
  have reads := reads_jsonArray (.cons (reads_jsonText "Origin") (.cons known .nil))
  have fields := FieldsOf.resolved (textOfCodes?_textCodes "resolved")
    (.cons (Field.fieldOf_value ⟨"id", ⟨"i64"⟩⟩) (.cons (Field.fieldOf_value ⟨"id", ⟨"String"⟩⟩) .nil))
  have holds : SchemaOf _ ⟨"Origin"⟩ _ :=
    ⟨_, _, .array (Eq.refl 2), textOf_textCodes "Origin", fields⟩
  obtain ⟨field, ⟨before, after, whole, -⟩, refused⟩ :=
    ofJsonText_toJson.2.2.2.1 _ _ _ _ _ reads.readFirst holds (by decide)
  have names : ∀ other ∈ before ++ field :: after, other.name = "id" := by
    rw [← whole]
    decide
  rw [names field (List.mem_append_right _ List.mem_cons_self)] at refused
  exact refused

end RecordMapper
