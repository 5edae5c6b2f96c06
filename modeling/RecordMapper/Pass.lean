/-
Every directive is synthesized on its own, then the outcomes are assembled in order: the first
directive whose origin has known fields gives the origin its module, and later ones are refused.
-/
import RecordMapper.Directive
import RecordMapper.LogRecord
import RecordMapper.MapperModule

namespace RecordMapper

/-- The modules of a pass, in the order of their directives, and its diagnostics. -/
structure Generation where
  modules : List MapperModule
  diagnostics : List Diagnostic
  deriving DecidableEq, Repr

namespace Generation

/-- The module of an origin. -/
def module? (generation : Generation) (origin : Identity) : Option MapperModule :=
  generation.modules.find? (·.origin = origin)

/-- Whether nothing went wrong. -/
def isClean (generation : Generation) : Bool :=
  generation.diagnostics.isEmpty

end Generation

/-! ## One directive -/

/-- The state of a walk over the targets of a directive. -/
structure TargetWalk where
  /-- The identities of the targets met so far. -/
  seen : List Identity
  /-- The kept functions, in order. -/
  functions : List Mapper
  diagnostics : List Diagnostic

namespace TargetWalk

/-- Before the first target. -/
def start : TargetWalk := ⟨[], [], []⟩

/-- Looks at one target. A repeated one is refused before its fields are looked at, and a function
whose name is taken is refused after. -/
def step (origin : Schema) (walk : TargetWalk) (target : Schema) : TargetWalk :=
  if target.identity ∈ walk.seen then
    { walk with
      diagnostics := walk.diagnostics ++ [.duplicateTarget origin.identity target.identity] }
  else
    let seen := target.identity :: walk.seen
    match synthesize origin target (plan origin target) with
    | .error diagnostic => { walk with seen, diagnostics := walk.diagnostics ++ [diagnostic] }
    | .ok function =>
      match walk.functions.find? (·.name = function.name) with
      | some first => { walk with
          seen
          diagnostics := walk.diagnostics ++
            [.nameCollision origin.identity function.name first.returns target.identity] }
      | none => { walk with seen, functions := walk.functions ++ [function] }

end TargetWalk

/-- What one directive amounts to before it is assembled. -/
inductive Outcome where
  | rejected (diagnostic : Diagnostic)
  | synthesized (functions : List Mapper) (diagnostics : List Diagnostic)
  deriving DecidableEq, Repr

/-- The outcome of a directive. -/
def Directive.outcome (directive : Directive) : Outcome :=
  match directive.origin.unresolvedReason? with
  | some reason =>
    .rejected (.malformedSchema directive.origin.identity directive.origin.identity reason)
  | none =>
    let walk := directive.targets.foldl (TargetWalk.step directive.origin) .start
    .synthesized walk.functions walk.diagnostics

/-! ## All directives -/

/-- Assembles outcomes in order, after the origins of `assembly`. -/
def assembleOutcomes (assembly : Assembly) : List (Directive × Outcome) → Generation
  | [] => ⟨[], []⟩
  | (directive, outcome) :: rest =>
    let origin := directive.origin.identity
    if assembly.contains origin then
      let later := assembleOutcomes assembly rest
      { later with diagnostics := .duplicateOrigin origin :: later.diagnostics }
    else
      match outcome with
      | .rejected diagnostic =>
        let later := assembleOutcomes assembly rest
        { later with diagnostics := diagnostic :: later.diagnostics }
      | .synthesized functions diagnostics =>
        match assembly.assemble origin functions with
        | .ok (module, assembly) =>
          let later := assembleOutcomes assembly rest
          ⟨module :: later.modules, diagnostics ++ later.diagnostics⟩
        | .error diagnostic =>
          let later := assembleOutcomes assembly rest
          { later with diagnostics := diagnostics ++ diagnostic :: later.diagnostics }

/-- Plans, synthesizes and assembles every directive, in order. -/
def generate (directives : List Directive) : Generation :=
  assembleOutcomes .empty (directives.map fun directive => (directive, directive.outcome))

/-! ## Sharing the work -/

/-- Consecutive pieces of a list of `size` elements each, the last of which may be shorter. Pieces
of size zero take one element. -/
def chunksOf (size : Nat) (xs : List α) : List (List α) :=
  match xs with
  | [] => []
  | x :: rest => (x :: rest.take (size - 1)) :: chunksOf size (rest.drop (size - 1))
termination_by xs.length
decreasing_by simp only [List.length_drop, List.length_cons]; omega

/-- How many of `workers` get work when there are `count` directives: at least one and at most as
many as there are directives. -/
def usefulWorkers (workers count : Nat) : Nat :=
  min (max workers 1) count

/-- How many directives each worker gets: the least number with which they all are taken. -/
def chunkSize (workers count : Nat) : Nat :=
  (count + usefulWorkers workers count - 1) / usefulWorkers workers count

/-- The same as `generate`, with the directives handed out to workers in chunks whose outcomes are
joined in order. -/
def generateParallel (directives : List Directive) (workers : Nat) : Generation :=
  if directives.isEmpty then ⟨[], []⟩
  else
    let chunks := chunksOf (chunkSize workers directives.length) directives
    let outcomes := (chunks.map fun chunk => chunk.map Directive.outcome).flatten
    assembleOutcomes .empty (directives.zip outcomes)

/-! ## The log of a pass -/

/-- The event of a synthesized function. -/
def Mapper.synthesisEvent (mapper : Mapper) : LogRecord :=
  .event .debug ("generating mapper function " ++ mapper.name ++ " which can map a " ++
    mapper.receiver.text ++ " to " ++ mapper.returns.text) []

/-- The functions that are synthesized for a directive, kept or not: one for each target that is met
for the first time and has known fields. -/
def Directive.synthesized (directive : Directive) : List Mapper :=
  if directive.origin.fields?.isNone then []
  else
    let visit := fun (state : List Identity × List Mapper) (target : Schema) =>
      if target.identity ∈ state.1 then state
      else
        let seen := target.identity :: state.1
        match synthesize directive.origin target (plan directive.origin target) with
        | .ok function => (seen, state.2 ++ [function])
        | .error _ => (seen, state.2)
    (directive.targets.foldl visit ([], [])).2

/-- The event of a diagnostic at the end of a pass. -/
def Diagnostic.event (level : LogLevel) (diagnostic : Diagnostic) : LogRecord :=
  .event level diagnostic.message [("origin", .text diagnostic.origin.text)]

/-- What `generate` logs. -/
def generateLog (directives : List Directive) : List LogRecord :=
  [.scope "generate" [("directives", .number directives.length)]] ++
    directives.flatMap (fun directive => directive.synthesized.map Mapper.synthesisEvent) ++
    (generate directives).diagnostics.map (Diagnostic.event .debug)

end RecordMapper
