/-
A schema is written as a compact object with the members `identity` and `fields`. Reading takes an
object with its members in any order, or an array of the same members in the written order; unknown
members are skipped, repeated and missing ones refused.
-/
import RecordMapper.Json.Reader
import RecordMapper.Schema
import RecordMapper.Text.Quoted

namespace RecordMapper

/-! ## Writing -/

/-- One character inside a JSON text. -/
def jsonEscape (c : Char) : List Char :=
  match c with
  | '"' => ['\\', '"']
  | '\\' => ['\\', '\\']
  | '\x08' => ['\\', 'b']
  | '\x0c' => ['\\', 'f']
  | '\n' => ['\\', 'n']
  | '\r' => ['\\', 'r']
  | '\t' => ['\\', 't']
  | c =>
    if c.toNat < 0x20 then
      ['\\', 'u', '0', '0', Text.Quoted.hexDigit (c.toNat / 16), Text.Quoted.hexDigit (c.toNat % 16)]
    else [c]

/-- A text as a JSON text. -/
def jsonText (s : String) : String :=
  String.ofList ('"' :: s.toList.flatMap jsonEscape ++ ['"'])

/-- A JSON object with its members in order. -/
def jsonObject (members : List (String × String)) : String :=
  "\x7b" ++ String.intercalate "," (members.map fun (key, value) => jsonText key ++ ":" ++ value) ++
    "\x7d"

/-- A JSON array. -/
def jsonArray (items : List String) : String :=
  "[" ++ String.intercalate "," items ++ "]"

/-- A field as JSON. -/
def Field.toJson (field : Field) : String :=
  jsonObject [("name", jsonText field.name), ("ty", jsonText field.ty.text)]

/-- A field list as JSON. -/
def FieldList.toJson : FieldList → String
  | .resolved fields _ => jsonObject [("resolved", jsonArray (fields.map Field.toJson))]
  | .unresolved reason =>
    jsonObject [("unresolved", jsonObject [("reason", jsonText reason)])]

/-- A schema as JSON. -/
def Schema.toJson (schema : Schema) : String :=
  jsonObject [("identity", jsonText schema.identity.text), ("fields", schema.fieldList.toJson)]

/-! ## Reading -/

/-- The members of an object with the names as texts; none if a name is not a text. -/
def namedMembers? (members : List (List Nat × JsonValue)) : Option (List (String × JsonValue)) :=
  members.mapM fun (key, value) => (textOfCodes? key).map (·, value)

/-- The values of the members `names`, in the order of `names`: from an object that has each of them
once, or from an array of just these values. -/
def JsonValue.record? (names : List String) : JsonValue → Option (List JsonValue)
  | .array items => if items.length = names.length then some items else none
  | .object members => do
    let members ← namedMembers? members
    names.mapM fun name =>
      match members.filter (·.1 = name) with
      | [(_, value)] => some value
      | _ => none
  | _ => none

/-- A text. -/
def JsonValue.string? : JsonValue → Option String
  | .text codes => textOfCodes? codes
  | _ => none

/-- The items of an array. -/
def JsonValue.items? : JsonValue → Option (List JsonValue)
  | .array items => some items
  | _ => none

/-- A field. -/
def Field.ofJson? (value : JsonValue) : Option Field := do
  match ← value.record? ["name", "ty"] with
  | [name, ty] => some ⟨← name.string?, ⟨← ty.string?⟩⟩
  | _ => none

/-- A field list as it is written: field names may still repeat. -/
inductive WrittenFields where
  | resolved (fields : List Field)
  | unresolved (reason : String)
  deriving DecidableEq, Repr

/-- A written field list: an object whose only member says which kind it is. -/
def WrittenFields.ofJson? : JsonValue → Option WrittenFields
  | .object [(key, value)] => do
    match ← textOfCodes? key with
    | "resolved" => some (.resolved (← (← value.items?).mapM Field.ofJson?))
    | "unresolved" =>
      match ← value.record? ["reason"] with
      | [reason] => some (.unresolved (← reason.string?))
      | _ => none
    | _ => none
  | _ => none

/-- The identity and the fields of a written schema. -/
def writtenSchema? (value : JsonValue) : Option (Identity × WrittenFields) := do
  match ← value.record? ["identity", "fields"] with
  | [identity, fields] => some (⟨← identity.string?⟩, ← WrittenFields.ofJson? fields)
  | _ => none

/-- Why a text is not the JSON of a schema. -/
inductive SchemaReadError where
  /-- The text is not JSON, or not that of a schema. -/
  | malformed
  /-- The text names a schema that cannot be built. -/
  | refused (error : SchemaError)
  deriving DecidableEq, Repr

/-- The schema of a written one. -/
def schemaOfWritten (identity : Identity) : WrittenFields → Except SchemaError Schema
  | .resolved fields => Schema.ofFields identity fields
  | .unresolved reason => .ok (.unresolved identity reason)

/-- Reads a schema. A repeated field name is found as soon as the value is complete, before what
follows it is looked at. -/
def Schema.ofJsonText (text : String) : Except SchemaReadError Schema :=
  match JsonValue.readFirst text with
  | none => .error .malformed
  | some (value, rest) =>
    match writtenSchema? value with
    | none => .error .malformed
    | some (identity, fields) =>
      match schemaOfWritten identity fields with
      | .error error => .error (.refused error)
      | .ok schema => if JsonValue.skipBlank rest = [] then .ok schema else .error .malformed

end RecordMapper
