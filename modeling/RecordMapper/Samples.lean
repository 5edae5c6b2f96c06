/-
Two sets of records with the mappers they ask for: one whose records are declared in a module of a
crate, one whose records are declared in place. Two types named `Money` show that a name alone does
not make fields agree.
-/
import RecordMapper.Pass

namespace RecordMapper.Samples

/-- A field by its name and type. -/
def field (name type : String) : Field := ⟨name, ⟨type⟩⟩

/-- A record in a module. -/
def record (module name : String) (fields : List Field) : Except SchemaError Schema :=
  Schema.ofFields (Identity.ofSegments [module, name]) fields

/-- The fields that all records of a person share. -/
def personFields : List Field := [
  field "id" "i64", field "name" "String", field "budget" "i64", field "remains" "Option < i64 >",
  field "loan" "Option < i64 >"]

/-- A person in a module. -/
def person (module : String) : Except SchemaError Schema :=
  record module "OriginModel" personFields

/-- A person with one field more. -/
def person₁ (module : String) : Except SchemaError Schema :=
  record module "DestinationModel" (personFields ++ [field "rich" "bool"])

/-- A person with two fields more. -/
def person₂ (module : String) : Except SchemaError Schema :=
  record module "DestinationModel2"
    (personFields ++ [field "rich" "bool", field "happy" "Option < bool >"])

/-- A person with three fields more. -/
def person₃ (module : String) : Except SchemaError Schema :=
  record module "DestinationModel3"
    (personFields ++
      [field "rich" "bool", field "happy" "Option < bool >", field "retired" "bool"])

/-- The module inside another. -/
def inside (module name : String) : String :=
  (Identity.ofSegments [module, name]).text

/-- An account, mapped to a statement in the same currency and to an entry in another. -/
def account (module : String) : Except SchemaError Directive := do
  let money (name : String) : Field :=
    field "balance" (" :: ".intercalate (Identity.mk (inside (inside module name) "Money")).segments)
  let ledger := inside module "ledger"
  let account ← record ledger "Account" [field "owner" "String", money "ledger"]
  let statement ← record ledger "Statement"
    [field "owner" "String", money "ledger", field "closed" "bool"]
  let entry ← record (inside module "audit") "Entry" [field "owner" "String", money "audit"]
  Directive.ofTargets account [statement, entry]

/-- The mappers of the records in a module of a crate. -/
def declared : Except SchemaError (List Directive) := do
  let module := "crate::models"
  let targets := [← person (inside module "sub"), ← person₁ module, ← person₂ module,
    ← person₃ module]
  return [← Directive.ofTargets (← person module) targets, ← account module]

/-- The mappers of the records that are declared in place. -/
def inPlace : Except SchemaError (List Directive) := do
  let nested ← person "sub"
  let invoice ← record "" "Invoice" [field "id" "i64", field "budget" "u64"]
  return [← Directive.ofTargets (← person "") [nested, ← person₁ "", ← person₂ ""],
    ← Directive.ofTargets nested [← person₁ "", invoice], ← account ""]

/-- The mapper of a name, from a record, among those that directives ask for. -/
def mapper? (directives : Except SchemaError (List Directive)) (origin : Identity)
    (name : String) : Option Mapper :=
  match directives with
  | .error _ => none
  | .ok directives => ((generate directives).module? origin).bind (·.function? name)

end RecordMapper.Samples
