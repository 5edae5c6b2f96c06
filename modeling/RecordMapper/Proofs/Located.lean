/-
A pass knows records by their identities and not by their places, so that the place of a diagnostic is
looked up afterwards, under the identities that it names. This finds a place only if the extraction keys
a written path by the very identity that the schema of its target has, on each of the ways that lead to
one: a declared record, a missing one, and a path that leads out of the scanned modules.
-/
import RecordMapper.Expansion
import RecordMapper.Proofs.Contributions
import RecordMapper.Proofs.Requests

namespace RecordMapper

open Code

/-! ## What diagnostics are about -/

/-- A diagnostic is raised for a directive: it names the origin and, if it is about a target, one of the
targets of the directive. -/
structure Diagnostic.RaisedFor (diagnostic : Diagnostic) (directive : Directive) : Prop where
  origin : diagnostic.origin = directive.origin.identity
  target : ∀ identity, diagnostic.target? = some identity →
    ∃ target ∈ directive.targets, target.identity = identity

theorem Judged.raisedFor {directive : Directive} {before : List (Schema × Verdict)} {target : Schema}
    {diagnostic : Diagnostic} (h : Judged directive.origin before (target, .refused diagnostic))
    (listed : target ∈ directive.targets) : diagnostic.RaisedFor directive := by
  cases h with
  | repeated =>
    refine ⟨rfl, fun identity named => ⟨target, listed, ?_⟩⟩
    exact Option.some.inj named
  | malformed =>
    refine ⟨rfl, fun identity named => ⟨target, listed, ?_⟩⟩
    -- a target with the identity of the origin counts as the origin
    by_cases own : target.identity = directive.origin.identity
    · simp [Diagnostic.target?, own] at named
    · simpa [Diagnostic.target?, own] using named
  | collides =>
    refine ⟨rfl, fun identity named => ⟨target, listed, ?_⟩⟩
    exact Option.some.inj named

theorem Contributes.raisedFor {before : List Directive} {directive : Directive} {part : Generation}
    (h : Contributes before directive part) {diagnostic : Diagnostic}
    (hm : diagnostic ∈ part.diagnostics) : diagnostic.RaisedFor directive := by
  cases h with
  | taken =>
    obtain rfl := List.mem_singleton.mp hm
    exact ⟨rfl, nofun⟩
  | malformed =>
    obtain rfl := List.mem_singleton.mp hm
    exact ⟨rfl, fun identity named => by simp [Diagnostic.target?] at named⟩
  | @assembled judged _ _ keys ordered =>
    obtain ⟨⟨target, verdict⟩, judgedMem, refused⟩ := List.mem_filterMap.mp hm
    obtain ⟨earlier, verdicts⟩ := ordered.of_mem judgedMem
    cases verdict with
    | kept function => cases refused
    | refused other =>
      obtain rfl : other = diagnostic := Option.some.inj refused
      refine verdicts.raisedFor ?_
      rw [← keys]
      exact List.mem_map_of_mem (f := Prod.fst) judgedMem

theorem exists_raisedFor {directives : List Directive} {diagnostic : Diagnostic}
    (h : diagnostic ∈ (generate directives).diagnostics) :
    ∃ directive ∈ directives, diagnostic.RaisedFor directive := by
  obtain ⟨parts, keys, ordered, output⟩ := assembleOutcomes_addUp directives Assembly.records_empty
  change generate directives = _ at output
  rw [output, List.mem_flatMap] at h
  obtain ⟨⟨directive, part⟩, partMem, hm⟩ := h
  obtain ⟨before, contributes⟩ := ordered.of_mem partMem
  refine ⟨directive, ?_, contributes.raisedFor hm⟩
  rw [← keys]
  exact List.mem_map_of_mem (f := Prod.fst) partMem

/-! ## The last of several places -/

namespace SpanIndex

section Last

variable {α : Type} [DecidableEq α] {key : α}

theorem last?_append (spans more : List (α × Span)) (key : α) :
    last? (spans ++ more) key = (last? more key).or (last? spans key) := by
  unfold last?
  rw [List.reverse_append, List.find?_append, Option.map_or]

theorem last?_concat (spans : List (α × Span)) (entry : α × Span) (key : α) :
    last? (spans ++ [entry]) key = if entry.1 = key then some entry.2 else last? spans key := by
  rw [last?_append]
  by_cases same : entry.1 = key
  · simp [last?, same]
  · simp [last?, same]

end Last

end SpanIndex

/-- The last declaration of an identity stands where its name does. -/
theorem last?_names {declarations : List Declaration} {declaration : Declaration}
    (h : declaration ∈ declarations) :
    ∃ before last after, declarations = before ++ last :: after ∧
      last.identity = declaration.identity ∧
      (∀ later ∈ after, later.identity ≠ declaration.identity) ∧
      SpanIndex.last? (declarations.map fun declaration => (declaration.identity, declaration.nameSpan))
        declaration.identity = some last.nameSpan := by
  induction declarations using List.reverseRecOn with
  | nil => cases h
  | append_singleton earlier last ih =>
    rw [List.map_append, List.map_singleton, SpanIndex.last?_concat]
    by_cases same : last.identity = declaration.identity
    · exact ⟨earlier, last, [], rfl, same, by simp, if_pos same⟩
    · have listed : declaration ∈ earlier := by
        rcases List.mem_append.mp h with listed | listed
        · exact listed
        · exact absurd (by rw [List.mem_singleton.mp listed]) same
      obtain ⟨before, found, after, rfl, identity, apart, place⟩ := ih listed
      refine ⟨before, found, after ++ [last], by simp, identity, ?_, ?_⟩
      · intro later hm
        rcases List.mem_append.mp hm with hm | hm
        · exact apart later hm
        · rw [List.mem_singleton.mp hm]
          exact same
      · simp only [if_neg same, place]

/-! ## Written paths -/

/-- The identity that a path written in the module `home` is given: that of what it names or, where it
leads out of the scanned modules, the path itself. -/
def givenIdentity (home : Home) (path : Tree) : Identity :=
  (resolve home path).getD (.ofSegments path.pathNames)

theorem identity_targetSchema {declarations : List Declaration} {home : Home} {path : Tree} :
    (targetSchema declarations home path).identity = givenIdentity home path := by
  unfold targetSchema givenIdentity
  cases resolve home path with
  | none => rfl
  | some identity =>
    cases found : lookUp declarations identity with
    | none =>
      simp only [found]
      rfl
    | some declaration =>
      simp only [found]
      exact identity_schemaOf.trans (lookUp_eq_some found).2

/-- A struct of some identity and the paths that its valid attributes name, in order. -/
structure Mentions (origin : Identity) (declaration : Declaration) (paths : List Tree) : Prop where
  identity : declaration.identity = origin
  record : ∃ generic body, declaration.kind = .record generic body
  asks : ∃ errors, Asks declaration.attributes paths errors

/-- No path of these declarations is given an identity. -/
def Unmentioned (origin target : Identity) (declarations : List Declaration) : Prop :=
  ∀ declaration ∈ declarations, ∀ paths, Mentions origin declaration paths →
    ∀ path ∈ paths, givenIdentity declaration.home path ≠ target

/-- Of all the paths that the structs of an identity name in their attributes, the last one that is given
the identity of a target. -/
def LastMention (declarations : List Declaration) (origin target : Identity) (path : Tree) : Prop :=
  ∃ before declaration after front back, declarations = before ++ declaration :: after ∧
    Mentions origin declaration (front ++ path :: back) ∧
    givenIdentity declaration.home path = target ∧
    (∀ later ∈ back, givenIdentity declaration.home later ≠ target) ∧
    Unmentioned origin target after

section Mentions

variable {declarations listed : List Declaration} {declaration : Declaration}
  {origin target : Identity}

/-- A struct lists its paths under its own identity and those that they are given. -/
theorem references_extractOne (record : ∃ generic body, declaration.kind = .record generic body) :
    (extractOne declarations declaration).spans.references = declaration.references.1.map fun path =>
      ((declaration.identity, givenIdentity declaration.home path), path.span) := by
  obtain ⟨generic, body, kind⟩ := record
  have keyed : ∀ paths : List Tree,
      ((paths.map (targetSchema declarations declaration.home)).zip paths).map (fun named =>
        ((declaration.identity, named.1.identity), named.2.span)) =
      paths.map fun path =>
        ((declaration.identity, givenIdentity declaration.home path), path.span) := by
    intro paths
    induction paths with
    | nil => rfl
    | cons path paths ih =>
      simp only [List.map_cons, List.zip_cons_cons, ih, identity_targetSchema]
  unfold extractOne
  rcases declaration.references with ⟨paths, errors⟩
  cases paths with
  | nil => rfl
  | cons path more =>
    simp only [List.isEmpty_cons, Bool.false_eq_true, if_false, kind]
    split
    · exact keyed (path :: more)
    · exact keyed (path :: more)

theorem references_extractOne_eq_nil (other : ∀ generic body, declaration.kind ≠ .record generic body) :
    (extractOne declarations declaration).spans.references = [] := by
  unfold extractOne
  rcases declaration.references with ⟨paths, errors⟩
  cases paths with
  | nil => rfl
  | cons path more =>
    cases kind : declaration.kind with
    | record generic body => exact absurd kind (other generic body)
    | _ => rfl

/-- Among the paths of one struct, the last that is given an identity keeps its place. -/
theorem last?_paths (origin target : Identity) (given : Tree → Identity) (paths : List Tree) :
    (∃ front path back, paths = front ++ path :: back ∧ given path = target ∧
      (∀ later ∈ back, given later ≠ target) ∧
      SpanIndex.last? (paths.map fun path => ((origin, given path), path.span)) (origin, target) =
        some path.span) ∨
    ((∀ path ∈ paths, given path ≠ target) ∧
      SpanIndex.last? (paths.map fun path => ((origin, given path), path.span)) (origin, target) =
        none) := by
  induction paths using List.reverseRecOn with
  | nil => exact .inr ⟨nofun, rfl⟩
  | append_singleton earlier path ih =>
    rw [List.map_append, List.map_singleton, SpanIndex.last?_concat]
    by_cases same : given path = target
    · exact .inl ⟨earlier, path, [], rfl, same, nofun, if_pos (by rw [same])⟩
    · have other : ((origin, given path) : Identity × Identity) ≠ (origin, target) :=
        fun keys => same (Prod.mk.inj keys).2
      rw [if_neg other]
      rcases ih with ⟨front, found, back, rfl, identity, apart, place⟩ | ⟨apart, place⟩
      · refine .inl ⟨front, found, back ++ [path], by simp, identity, ?_, place⟩
        exact List.forall_mem_append.mpr ⟨apart, by simpa using same⟩
      · exact .inr ⟨List.forall_mem_append.mpr ⟨apart, by simpa using same⟩, place⟩

theorem LastMention.append_left {path : Tree} (h : LastMention listed origin target path)
    (earlier : List Declaration) : LastMention (earlier ++ listed) origin target path := by
  obtain ⟨before, declaration, after, front, back, rfl, rest⟩ := h
  exact ⟨earlier ++ before, declaration, after, front, back, (List.append_assoc ..).symm, rest⟩

theorem LastMention.append_right {path : Tree} (h : LastMention listed origin target path)
    {more : List Declaration} (unmentioned : Unmentioned origin target more) :
    LastMention (listed ++ more) origin target path := by
  obtain ⟨before, declaration, after, front, back, rfl, mentions, given, apart, rest⟩ := h
  refine ⟨before, declaration, after ++ more, front, back, by simp, mentions, given, apart, ?_⟩
  exact List.forall_mem_append.mpr ⟨rest, unmentioned⟩

/-- What one declaration adds to the places of references. -/
theorem last?_extractOne (declarations : List Declaration) (origin target : Identity)
    (declaration : Declaration) :
    (∃ path, LastMention [declaration] origin target path ∧
      SpanIndex.last? (extractOne declarations declaration).spans.references (origin, target) =
        some path.span) ∨
    (Unmentioned origin target [declaration] ∧
      SpanIndex.last? (extractOne declarations declaration).spans.references (origin, target) =
        none) := by
  have asks := asks_references declaration
  by_cases record : ∃ generic body, declaration.kind = .record generic body
  · rw [references_extractOne record]
    by_cases own : declaration.identity = origin
    · rw [own]
      rcases last?_paths origin target (givenIdentity declaration.home) declaration.references.1 with
        ⟨front, path, back, split, given, apart, place⟩ | ⟨apart, place⟩
      · refine .inl ⟨path, ⟨[], declaration, [], front, back, rfl, ?_, given, apart, nofun⟩, place⟩
        exact ⟨own, record, _, split ▸ asks⟩
      · refine .inr ⟨fun other hm paths mentions => ?_, place⟩
        obtain rfl := List.mem_singleton.mp hm
        obtain ⟨errors, asks'⟩ := mentions.asks
        rw [(asks'.unique asks).1]
        exact apart
    · refine .inr ⟨fun other hm paths mentions => ?_, ?_⟩
      · obtain rfl := List.mem_singleton.mp hm
        exact absurd mentions.identity own
      · simp [SpanIndex.last?, own]
  · have other : ∀ generic body, declaration.kind ≠ .record generic body :=
      fun generic body kind => record ⟨generic, body, kind⟩
    rw [references_extractOne_eq_nil other]
    refine .inr ⟨fun other hm paths mentions => ?_, rfl⟩
    obtain rfl := List.mem_singleton.mp hm
    exact absurd mentions.record record

/-- The place that is listed for an origin and a target is that of the last mention. -/
theorem last?_references (declarations : List Declaration) (origin target : Identity)
    (listed : List Declaration) :
    (∃ path, LastMention listed origin target path ∧
      SpanIndex.last? (listed.flatMap fun declaration =>
        (extractOne declarations declaration).spans.references) (origin, target) = some path.span) ∨
    Unmentioned origin target listed := by
  induction listed using List.reverseRecOn with
  | nil => exact .inr nofun
  | append_singleton earlier last ih =>
    rw [List.flatMap_append, List.flatMap_singleton, SpanIndex.last?_append]
    rcases last?_extractOne declarations origin target last with ⟨path, mention, place⟩ | ⟨none, place⟩
    · refine .inl ⟨path, mention.append_left earlier, ?_⟩
      rw [place, Option.some_or]
    · rw [place, Option.none_or]
      rcases ih with ⟨path, mention, place⟩ | unmentioned
      · exact .inl ⟨path, mention.append_right none, place⟩
      · exact .inr (List.forall_mem_append.mpr ⟨unmentioned, none⟩)

/-- The targets of a directive are mentioned by its struct. -/
theorem exists_mentions {directive : Directive}
    (h : directive ∈ (extractDeclarations declarations).directives) :
    ∃ declaration ∈ declarations, ∃ paths, Mentions directive.origin.identity declaration paths ∧
      directive.targets.map Schema.identity = paths.map (givenIdentity declaration.home) := by
  simp only [extractDeclarations, List.flatMap_map, List.mem_flatMap] at h
  obtain ⟨declaration, listed, h⟩ := h
  have requests := requests_extractOne declarations declaration
  generalize (extractOne declarations declaration).directives = directives at h requests
  generalize (extractOne declarations declaration).errors = errors at requests
  cases requests with
  | nothing => cases h
  | unsupported => cases h
  | @directive path more _ generic body asked asks kind origin targets =>
    obtain rfl := List.mem_singleton.mp h
    refine ⟨declaration, listed, path :: more, ⟨?_, ⟨generic, body, kind⟩, errors, asks⟩, ?_⟩
    · rw [origin, identity_schemaOf]
    · rw [targets, List.map_map]
      exact List.map_congr_left fun path _ => identity_targetSchema

end Mentions

/-! ## Every diagnostic has a place -/

/-- **A place for every diagnostic.** Whatever a pass over the directives of a source reports can be found
in the source. A diagnostic about a target stands where the last path stands that was given the identity
of the target, of all the paths in valid attributes of structs with the identity of the origin; any other
diagnostic stands at the name of the last declaration with that identity. -/
theorem spanOf?_of_mem_diagnostics {root : String} {items : List Tree} {diagnostic : Diagnostic}
    (h : diagnostic ∈ (generate (extract root items).directives).diagnostics) :
    let declarations := declarationsIn (.top (Identity.mk root).segments) items
    let place? := (extract root items).spans.spanOf? diagnostic
    ((∀ item ∈ items, IsItem item) → Scan (.top (Identity.mk root).segments) items declarations) ∧
      (∃ place, place? = some place ∧
        (extract root items).spans.report diagnostic = ⟨diagnostic.message, some place⟩) ∧
      (∀ target, diagnostic.target? = some target →
        ∃ path, LastMention declarations diagnostic.origin target path ∧ place? = some path.span) ∧
      (diagnostic.target? = none → ∃ before declaration after,
        declarations = before ++ declaration :: after ∧ declaration.identity = diagnostic.origin ∧
        (∀ later ∈ after, later.identity ≠ diagnostic.origin) ∧
        place? = some declaration.nameSpan) := by
  intro declarations place?
  obtain ⟨directive, extracted, raised⟩ := exists_raisedFor h
  obtain ⟨declaration, listed, paths, mentions, targets⟩ := exists_mentions extracted
  rw [← raised.origin] at mentions
  have aboutTarget : ∀ target, diagnostic.target? = some target → ∃ path,
      LastMention declarations diagnostic.origin target path ∧ place? = some path.span := by
    intro target named
    obtain ⟨schema, schemaMem, rfl⟩ := raised.target target named
    have given : schema.identity ∈ paths.map (givenIdentity declaration.home) := by
      rw [← targets]
      exact List.mem_map_of_mem schemaMem
    obtain ⟨path, written, same⟩ := List.mem_map.mp given
    rcases last?_references declarations diagnostic.origin schema.identity declarations with
      ⟨last, mention, place⟩ | unmentioned
    · refine ⟨last, mention, ?_⟩
      simp only [place?, SpanIndex.spanOf?, named, extract, extractDeclarations, List.flatMap_map]
      rw [place, Option.some_or]
    · exact absurd same (unmentioned declaration listed paths mentions path written)
  have aboutOrigin : diagnostic.target? = none → ∃ before declaration after,
      declarations = before ++ declaration :: after ∧ declaration.identity = diagnostic.origin ∧
        (∀ later ∈ after, later.identity ≠ diagnostic.origin) ∧
        place? = some declaration.nameSpan := by
    intro named
    obtain ⟨before, last, after, split, identity, apart, place⟩ := last?_names listed
    rw [mentions.identity] at identity apart place
    refine ⟨before, last, after, split, identity, apart, ?_⟩
    simp only [place?, SpanIndex.spanOf?, named]
    exact place
  have placed : ∃ place, place? = some place := by
    cases named : diagnostic.target? with
    | some target =>
      obtain ⟨path, -, place⟩ := aboutTarget target named
      exact ⟨_, place⟩
    | none =>
      obtain ⟨_, last, _, -, -, -, place⟩ := aboutOrigin named
      exact ⟨_, place⟩
  obtain ⟨place, found⟩ := placed
  refine ⟨fun h => scan_declarationsIn h _, ⟨place, found, ?_⟩, aboutTarget, aboutOrigin⟩
  rw [SpanIndex.report]
  exact congrArg (Report.mk diagnostic.message) found

/-- A record that is declared twice, both times with a target that is missing. -/
def repeatedOrigin : String :=
  "#[mapper(Gone)] struct O { a: u8 }\n#[mapper(Gone, super::super::T)] struct O;"

theorem spanOf?_repeatedOrigin : ∃ file, File.ofText? repeatedOrigin = some file ∧
    let declarations := declarationsIn (.top (Identity.mk "crate").segments) file.items
    let extraction := extract "crate" file.items
    ∃ missing ∈ (generate extraction.directives).diagnostics,
      ∃ repeated ∈ (generate extraction.directives).diagnostics,
        missing.message = "`crate::Gone` has no accessible field list: no struct named `crate::Gone` is declared" ∧
        repeated = .duplicateOrigin ⟨"crate::O"⟩ ∧
        (∃ path, LastMention declarations ⟨"crate::O"⟩ ⟨"crate::Gone"⟩ path ∧
          path.span = ⟨⟨2, 9⟩, ⟨2, 13⟩⟩) ∧
        extraction.spans.spanOf? repeated = some ⟨⟨2, 40⟩, ⟨2, 41⟩⟩ := by
  have read : (File.ofText? repeatedOrigin).map (fun file =>
      let extraction := extract "crate" file.items
      (generate extraction.directives).diagnostics.map fun diagnostic =>
        (diagnostic, extraction.spans.spanOf? diagnostic)) =
      some [(.malformedSchema ⟨"crate::O"⟩ ⟨"crate::Gone"⟩ "no struct named `crate::Gone` is declared",
          some ⟨⟨2, 9⟩, ⟨2, 13⟩⟩),
        (.duplicateOrigin ⟨"crate::O"⟩, some ⟨⟨2, 40⟩, ⟨2, 41⟩⟩)] := by
    decide +kernel
  obtain ⟨file, parsed, answers⟩ := Option.map_eq_some_iff.mp read
  obtain ⟨missing, later, reported, first, answers⟩ := List.map_eq_cons_iff.mp answers
  obtain ⟨repeated, _, rfl, second, -⟩ := List.map_eq_cons_iff.mp answers
  obtain ⟨rfl, missingPlace⟩ := Prod.mk.inj first
  obtain ⟨rfl, repeatedPlace⟩ := Prod.mk.inj second
  obtain ⟨-, -, aboutTarget, -⟩ := @spanOf?_of_mem_diagnostics "crate" file.items _
    (reported ▸ List.mem_cons_self)
  obtain ⟨path, mention, place⟩ := aboutTarget ⟨"crate::Gone"⟩ (by decide)
  refine ⟨file, parsed, _, reported ▸ List.mem_cons_self, _,
    reported ▸ List.mem_cons_of_mem _ List.mem_cons_self, by decide, rfl, ⟨path, mention, ?_⟩,
    repeatedPlace⟩
  rw [missingPlace] at place
  exact (Option.some.inj place).symm

end RecordMapper
