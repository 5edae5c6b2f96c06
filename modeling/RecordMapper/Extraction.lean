/-
Every struct with mapping attributes gives one directive, whose targets are those of its attributes in
order. What cannot be a target stays one without fields, so that the pass reports it.
-/
import RecordMapper.Directive
import RecordMapper.LogRecord
import RecordMapper.Pass
import RecordMapper.Resolution

namespace RecordMapper

open Code

/-- Where declarations and references to targets stand. -/
structure SpanIndex where
  declarations : List (Identity × Span)
  references : List ((Identity × Identity) × Span)

namespace SpanIndex

/-- The last span listed for a key. -/
def last? {α : Type} [DecidableEq α] (spans : List (α × Span)) (key : α) : Option Span :=
  (spans.reverse.find? (·.1 = key)).map (·.2)

/-- Where an identity is declared, for the last time. -/
def declaration? (index : SpanIndex) (identity : Identity) : Option Span :=
  last? index.declarations identity

/-- The place that a diagnostic is about: the reference to the target, else its declaration; or the
declaration of the origin. -/
def spanOf? (index : SpanIndex) (diagnostic : Diagnostic) : Option Span :=
  match diagnostic.target? with
  | some target =>
    (last? index.references (diagnostic.origin, target)).or (index.declaration? target)
  | none => index.declaration? diagnostic.origin

end SpanIndex

/-- What the source asks for. -/
structure Extraction where
  directives : List Directive
  /-- Errors in attributes; the valid ones still count. -/
  errors : List SourceError
  spans : SpanIndex

/-! ## Schemas -/

/-- The schema of a declaration. -/
def schemaOf (declarations : List Declaration) (declaration : Declaration) : Schema :=
  let unresolved := Schema.unresolved declaration.identity
  match declaration.kind with
  | .record true _ => unresolved "generic structs are not supported"
  | .record false .positional => unresolved "tuple structs have no named fields"
  | .record false body =>
    let written :=
      match body with
      | .named fields => fields
      | _ => []
    let fields := written.map fun (name, type) =>
      (⟨name, ⟨(qualifyType declarations declaration.home type).text⟩⟩ : Field)
    match Schema.ofFields declaration.identity fields with
    | .ok schema => schema
    | .error error => unresolved error.message
  | kind =>
    unresolved ("`" ++ declaration.identity.text ++ "` is " ++ kind.words ++ ", not a struct")

/-- The schema of what a path names in the module `home`. -/
def targetSchema (declarations : List Declaration) (home : Home) (path : Tree) : Schema :=
  match resolve home path with
  | some identity =>
    match lookUp declarations identity with
    | some declaration => schemaOf declarations declaration
    | none => .unresolved identity ("no struct named `" ++ identity.text ++ "` is declared")
  | none =>
    let identity := Identity.ofSegments path.pathNames
    .unresolved identity ("`" ++ identity.text ++ "` points above the scanned modules")

/-! ## Declarations -/

/-- The paths that the mapping attributes of a declaration name, and the errors in them. -/
def Declaration.references (declaration : Declaration) : List Tree × List SourceError :=
  let results := (declaration.attributes.filter (·.isMapper)).map Attribute.targets
  (results.flatMap fun result => result.toOption.getD [],
    results.filterMap fun result =>
      match result with
      | .error error => some error
      | .ok _ => none)

/-- What one declaration contributes. -/
def extractOne (declarations : List Declaration) (declaration : Declaration) : Extraction :=
  let (paths, errors) := declaration.references
  if paths.isEmpty then ⟨[], errors, ⟨[], []⟩⟩
  else
    match declaration.kind with
    | .record .. =>
      let targets := paths.map (targetSchema declarations declaration.home)
      let references := (targets.zip paths).map fun (target, path) =>
        ((declaration.identity, target.identity), path.span)
      match Directive.ofTargets (schemaOf declarations declaration) targets with
      | .ok directive => ⟨[directive], errors, ⟨[], references⟩⟩
      | .error error =>
        ⟨[], errors ++ [⟨error.message, declaration.nameSpan⟩], ⟨[], references⟩⟩
    | kind =>
      ⟨[], errors ++ [⟨"`#[mapper]` is not supported on " ++ kind.words, declaration.nameSpan⟩],
        ⟨[], []⟩⟩

/-- What the declarations of a scan ask for. -/
def extractDeclarations (declarations : List Declaration) : Extraction :=
  let parts := declarations.map (extractOne declarations)
  { directives := parts.flatMap (·.directives)
    errors := parts.flatMap (·.errors)
    spans :=
      { declarations := declarations.map fun declaration =>
          (declaration.identity, declaration.nameSpan)
        references := parts.flatMap (·.spans.references) } }

/-- What items ask for that are compiled in the module `root`. -/
def extract (root : String) (items : List Tree) : Extraction :=
  extractDeclarations (declarationsIn (.top (Identity.mk root).segments) items)

/-- The event of an extraction. -/
def extractionEvent (root : String) (items : List Tree) : LogRecord :=
  .event .debug "extracted mapping directives" [
    ("declarations", .number (declarationsIn (.top (Identity.mk root).segments) items).length),
    ("directives", .number (extract root items).directives.length)]

end RecordMapper
