/-
All mapper functions of one origin form its module. Within a pass every origin has at most one.
-/
import RecordMapper.Mapper

namespace RecordMapper

/-- The mapper functions of one origin. -/
structure MapperModule where
  origin : Identity
  functions : List Mapper
  deriving DecidableEq, Repr

namespace MapperModule

/-- The function of a name. -/
def function? (module : MapperModule) (name : String) : Option Mapper :=
  module.functions.find? (·.name = name)

/-- Whether the module has no function. -/
def isEmpty (module : MapperModule) : Bool :=
  module.functions.isEmpty

end MapperModule

/-- The origins that already have a module. -/
structure Assembly where
  origins : List Identity
  deriving Repr

namespace Assembly

/-- Before any module. -/
def empty : Assembly := ⟨[]⟩

/-- Whether `origin` has a module. -/
def contains (assembly : Assembly) (origin : Identity) : Bool :=
  assembly.origins.contains origin

/-- The module of an origin that has none yet. -/
def assemble (assembly : Assembly) (origin : Identity) (functions : List Mapper) :
    Except Diagnostic (MapperModule × Assembly) :=
  if assembly.contains origin then .error (.duplicateOrigin origin)
  else .ok (⟨origin, functions⟩, ⟨origin :: assembly.origins⟩)

end Assembly

end RecordMapper
