/-
A build reads source files, runs one pass over what they ask for, and writes a file for each module
and an index that includes them. It looks at all sources, accepts the diagnostics and knows that no
two modules share a file before it touches the tree. After that it writes in order and stops at the
first failure, and a file that already holds its text is not written.
-/
import RecordMapper.Extraction
import RecordMapper.Files.FileTree
import RecordMapper.Rendering

namespace RecordMapper

open Code Files

/-! ## What a build is told -/

/-- A source file, compiled as a module. -/
structure Source where
  path : PathName
  module : String
  deriving DecidableEq, Repr

/-- The settings of a build. -/
structure BuildSettings where
  sources : List Source
  /-- The directory to write to; the environment's if there is none. -/
  outDir? : Option PathName := none
  indexName : PathName := ⟨"mappers.rs"⟩
  /-- Whether lines for the build tool are printed. -/
  printsLines : Bool := true
  /-- Whether diagnostics keep the build from writing anything. -/
  deniesDiagnostics : Bool := true
  deriving DecidableEq, Repr

/-- What a build takes from its environment. -/
structure BuildEnvironment where
  outDir? : Option PathName
  /-- The directory from which the paths of sources start. -/
  manifestDir? : Option PathName
  deriving DecidableEq, Repr

/-! ## What a build answers -/

/-- Why a build failed. -/
inductive BuildError where
  | file (path : PathName) (cause : FileError)
  /-- A source is no Rust. -/
  | parse (path : PathName)
  | attribute (path : PathName) (error : SourceError)
  | emit (error : EmitError)
  | missingOutDir
  | outputCollision (name : String) (first second : Identity)
  | diagnostics (found : List Diagnostic)
  deriving DecidableEq, Repr

/-- The wording of a build error. -/
def BuildError.message : BuildError → String
  | .file path cause => "Failed to access `" ++ path.text ++ "`: " ++ cause.message
  | .parse path => "Failed to parse `" ++ path.text ++ "`"
  | .attribute path error =>
    "Invalid mapping attribute in `" ++ path.text ++ "`: " ++ error.message
  | .emit error => error.message
  | .missingOutDir => "`OUT_DIR` is not set and no output directory was configured"
  | .outputCollision name first second =>
    "Modules for `" ++ first.text ++ "` and `" ++ second.text ++ "` would both be written to `" ++
      name ++ "`"
  | .diagnostics found =>
    toString found.length ++ " mapping diagnostic(s):\n" ++
      String.intercalate "\n" (found.map fun diagnostic => "  " ++ diagnostic.message)

/-- What a successful build reports. -/
structure BuildReport where
  /-- The file of each module. -/
  files : List PathName
  index : PathName
  diagnostics : List Diagnostic
  deriving DecidableEq, Repr

/-- Everything that a build does. -/
structure BuildOutcome where
  result : Except BuildError BuildReport
  /-- The files after the build. -/
  tree : FileTree
  /-- The places that were written, in order. -/
  written : List Location
  /-- The lines that were printed. -/
  printed : List String
  log : List LogRecord

/-! ## Reading sources -/

/-- Where a source is. -/
def BuildEnvironment.sourcePath (environment : BuildEnvironment) (path : PathName) : PathName :=
  match environment.manifestDir? with
  | some directory => directory.join path
  | none => path

/-- The items of a source. -/
def readItems (tree : FileTree) (path : PathName) : Except BuildError (List Tree) :=
  match tree.read path with
  | .error cause => .error (.file path cause)
  | .ok text =>
    match File.ofText? text with
    | none => .error (.parse path)
    | some file => .ok file.items

/-- What sources ask for, what is printed and what is logged. The first source with an error ends the
reading. -/
structure Reading where
  result : Except BuildError (List Directive)
  printed : List String
  log : List LogRecord

/-- Reads sources in order. -/
def readSources (settings : BuildSettings) (environment : BuildEnvironment) (tree : FileTree) :
    List Source → Reading
  | [] => ⟨.ok [], [], []⟩
  | source :: rest =>
    let path := environment.sourcePath source.path
    let line := if settings.printsLines then ["cargo:rerun-if-changed=" ++ path.text] else []
    match readItems tree path with
    | .error error => ⟨.error error, line, []⟩
    | .ok items =>
      let extraction := extract source.module items
      let event := extractionEvent source.module items
      match extraction.errors with
      | error :: _ => ⟨.error (.attribute path error), line, [event]⟩
      | [] =>
        let later := readSources settings environment tree rest
        ⟨later.result.map (extraction.directives ++ ·), line ++ later.printed, event :: later.log⟩

/-! ## Files of modules -/

/-- The first module whose file name is taken, with the one that took it. -/
def firstCollision? (taken : List (String × Identity)) : List MapperModule → Option BuildError
  | [] => none
  | module :: rest =>
    let file := module.origin.moduleFileName
    match taken.find? (·.1 = file) with
    | some (_, first) => some (.outputCollision file first module.origin)
    | none => firstCollision? ((file, module.origin) :: taken) rest

/-- The line of an index that includes a file. -/
def includeLine (path : PathName) : String :=
  "include!(" ++ Text.Quoted.encode path.text ++ ");\n"

/-- The text of an index. -/
def indexText (files : List PathName) : String :=
  generatedHeader ++ String.join (files.map includeLine)

/-! ## Writing -/

/-- The state of the writing part of a build. -/
structure Writing where
  tree : FileTree
  written : List Location

/-- Whether the file at a path holds a text. -/
def holds (tree : FileTree) (path : PathName) (text : String) : Bool :=
  match tree.read path with
  | .ok found => found = text
  | .error _ => false

/-- Writes a text to a path unless the file there already holds it. -/
def Writing.put (writing : Writing) (path : PathName) (text : String) : Except BuildError Writing :=
  if holds writing.tree path text then .ok writing
  else
    match writing.tree.write path (.text text) with
    | .error cause => .error (.file path cause)
    | .ok (tree, place) => .ok ⟨tree, writing.written ++ [place]⟩

/-- Writes the file of each module, in order. -/
def writeModules (outDir : PathName) (writing : Writing) :
    List MapperModule → Writing × Option BuildError
  | [] => (writing, none)
  | module :: rest =>
    match render [module] with
    | .error error => (writing, some (.emit error))
    | .ok text =>
      match writing.put (outDir.join ⟨module.origin.moduleFileName⟩) text with
      | .error error => (writing, some error)
      | .ok writing => writeModules outDir writing rest

/-- Writes the files of modules and their index. -/
def writeOutput (outDir index : PathName) (modules : List MapperModule) (tree : FileTree) :
    Writing × Option BuildError :=
  match tree.makeDirectories outDir.names with
  | (tree, some cause) => (⟨tree, []⟩, some (.file outDir cause))
  | (tree, none) =>
    match writeModules outDir ⟨tree, []⟩ modules with
    | (writing, some error) => (writing, some error)
    | (writing, none) =>
      let files := modules.map fun module => outDir.join ⟨module.origin.moduleFileName⟩
      match writing.put index (indexText files) with
      | .error error => (writing, some error)
      | .ok writing => (writing, none)

/-! ## Builds -/

/-- Why the modules of a pass are not written. -/
def refusal? (settings : BuildSettings) (generation : Generation) : Option BuildError :=
  if settings.deniesDiagnostics && !generation.isClean then
    some (.diagnostics generation.diagnostics)
  else firstCollision? [] (generation.modules.filter (!·.isEmpty))

/-- Runs a build on a tree of files. -/
def build (settings : BuildSettings) (environment : BuildEnvironment) (tree : FileTree) :
    BuildOutcome :=
  match settings.outDir?.or environment.outDir? with
  | none => ⟨.error .missingOutDir, tree, [], [], []⟩
  | some outDir =>
    let reading := readSources settings environment tree settings.sources
    match reading.result with
    | .error error => ⟨.error error, tree, [], reading.printed, reading.log⟩
    | .ok directives =>
      let generation := generate directives
      let warnings :=
        if settings.printsLines then
          generation.diagnostics.map fun diagnostic => "cargo:warning=" ++ diagnostic.message
        else []
      let printed := reading.printed ++ warnings
      let log := reading.log ++ generateLog directives ++
        generation.diagnostics.map (Diagnostic.event .warn)
      match refusal? settings generation with
      | some error => ⟨.error error, tree, [], printed, log⟩
      | none =>
        let modules := generation.modules.filter (!·.isEmpty)
        let index := outDir.join settings.indexName
        match writeOutput outDir index modules tree with
        | (writing, some error) => ⟨.error error, writing.tree, writing.written, printed, log⟩
        | (writing, none) =>
          let files := modules.map fun module => outDir.join ⟨module.origin.moduleFileName⟩
          let event := LogRecord.event .debug "wrote mapper modules"
            [("files", .number files.length), ("index", .text index.text)]
          ⟨.ok ⟨files, index, generation.diagnostics⟩, writing.tree, writing.written, printed,
            log ++ [event]⟩

end RecordMapper
