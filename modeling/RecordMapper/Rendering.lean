/-
Modules as the text of a file. What is written is read as a file first, because parts that are valid
on their own can fail to be so together.
-/
import RecordMapper.Layout.Method

namespace RecordMapper

open Code

/-- The first line of each generated file. -/
def generatedHeader : String := "// Generated by fieldmapper. Do not edit.\n"

/-- The text of a file with the functions of some modules. -/
def render (modules : List MapperModule) : Except EmitError String := do
  let impls ← implBlocks modules
  match File.ofTrees? (Tree.tokensOf (impls.flatMap ImplBlock.trees)) with
  | some _ => .ok (generatedHeader ++ "\n" ++ implText impls)
  | none => .error .invalidOutput

end RecordMapper
