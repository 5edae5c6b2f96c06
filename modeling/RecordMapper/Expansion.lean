/-
The items of a block are written back without their mapping attributes and followed by the generated
methods. What is wrong is reported at its place, and only some faults keep the items back.
-/
import RecordMapper.Emission
import RecordMapper.Extraction

namespace RecordMapper

open Code

/-- A report about the block; without a span it is about the block as a whole. -/
structure Report where
  message : String
  span? : Option Span
  deriving DecidableEq, Repr

/-- What a block expands to, unless it is kept back, and the reports in order. -/
structure Expansion where
  trees? : Option (List Tree)
  reports : List Report

/-- An error in the source as a report. -/
def SourceError.report (error : SourceError) : Report := ⟨error.message, some error.span⟩

/-- A diagnostic of the pass as a report. -/
def SpanIndex.report (index : SpanIndex) (diagnostic : Diagnostic) : Report :=
  ⟨diagnostic.message, index.spanOf? diagnostic⟩

/-- The expansion of a block. An attribute of the block itself and a module that is no Rust keep it
back. -/
def expand (file : File) : Expansion :=
  match file.attributes with
  | first :: _ =>
    ⟨none, [⟨"Inner attributes are not supported in `mappers!`.", some first.span⟩]⟩
  | [] =>
    let extraction := extract "" file.items
    let generation := generate extraction.directives
    let reports := extraction.errors.map SourceError.report ++
      generation.diagnostics.map extraction.spans.report
    match generation.modules.mapM MapperModule.trees with
    | .error error => ⟨none, reports ++ [⟨error.message, none⟩]⟩
    | .ok generated => ⟨some (withoutMappersAll file.items ++ generated.flatten), reports⟩

end RecordMapper
