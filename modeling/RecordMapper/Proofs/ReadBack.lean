/-
The plain types of a source are read back from their texts after their paths have been replaced by full
identities: a full identity is a path of plain segments, and it takes over the arguments that were written.
-/
import RecordMapper.Proofs.FullNames
import RecordMapper.Proofs.ReadTypes
import RecordMapper.Proofs.RereadTypes
import RecordMapper.Proofs.Signatures

namespace RecordMapper

open Code

namespace Code

open RecordMapper.Code.Tree

/-! ## Arguments of another path -/

/-- The last segment of a plain path has plain arguments. -/
theorem Plain.lastArguments {parts : List Tree} (h : Plain .segments parts) :
    PlainArguments (Tree.lastArguments (.node .path parts)) := by
  generalize same : PlainPart.segments = part at h
  induction h with
  | lastSegment segment =>
    cases segment with
    | bare => exact .none
    | applied place opening closing _ _ front plain => exact .some opening closing front plain
  | @moreSegments segment parts place first more _ ih =>
    obtain ⟨name, place', arguments, rfl, -⟩ := first.exists_word
    obtain ⟨name', place'', arguments', behind, rfl, -⟩ := more.exists_words
    have skipped : Tree.lastArguments (.node .path (.node .segment (.token (.word name) place' :: arguments) ::
        operatorAt "::" place :: .node .segment (.token (.word name') place'' :: arguments') :: behind)) =
        Tree.lastArguments
          (.node .path (.node .segment (.token (.word name') place'' :: arguments') :: behind)) := by
      simp [Tree.lastArguments, Tree.segments, segmentName?, operatorAt]
    rw [skipped]
    exact ih rfl
  | _ => cases same

/-- The path of words is plain with any plain arguments after the last of them, and starts as it did. -/
theorem plain_replaceLastArguments {tokens parts arguments : List Tree} (h : Grammar.PathTokens tokens parts)
    (given : PlainArguments arguments) {name : String} {rest : List String}
    (spelled : Tree.unplacedAll parts = Tree.spelledParts [] name rest)
    (words : ∀ word ∈ name :: rest, IsPathWord word)
    (free : ∀ own ∈ (name :: rest).getLast?, isKeyword own = false) :
    (name ≠ "try" → StartsType (Tree.replaceLastArguments arguments parts)) ∧
      Plain .segments (Tree.replaceLastArguments arguments parts) := by
  induction h generalizing name rest with
  | @last word stands place =>
    cases rest with
    | nil =>
      obtain rfl : word = name := by simpa [Tree.unplacedAll, Tree.unplaced, Tree.spelledParts,
        Tree.namedSegment] using spelled
      exact ⟨id, .lastSegment (given.segment (words word (by simp)).scans (.inr (free word rfl)) place)⟩
    | cons next rest => simp [Tree.unplacedAll, Tree.spelledParts] at spelled
  | @more word stands place p q joint tokens parts path ih =>
    cases rest with
    | nil => simp [Tree.unplacedAll, Tree.spelledParts] at spelled
    | cons next rest =>
      obtain ⟨rfl, others⟩ : word = name ∧ Tree.unplacedAll parts = Tree.spelledParts [] next rest := by
        simpa [Tree.unplacedAll, Tree.unplaced, Tree.spelledParts, Tree.namedSegment, Tree.colons]
          using spelled
      have behind : parts ≠ [] := by
        rintro rfl
        exact Tree.spelledParts_ne_nil [] next rest others.symm
      rw [Tree.replaceLastArguments_cons _ _ (List.cons_ne_nil _ _),
        Tree.replaceLastArguments_cons _ _ behind]
      refine ⟨id, .moreSegments (p.join q) (.bare place (words word (by simp))) (ih others ?_ ?_).2⟩
      · exact fun other hm => words other (List.mem_cons_of_mem _ hm)
      · simpa only [List.getLast?_cons_cons] using free

/-! ## Replaced paths -/

/-- A replacement of paths by plain ones. A path that starts at the root of all crates is left alone. -/
structure KeepsPlain (replace : Tree → Option Tree) : Prop where
  absolute (place : Span) (parts : List Tree) :
    replace (.node .path (operatorAt "::" place :: parts)) = none
  path {parts : List Tree} {full : Tree} : Plain .segments parts → replace (.node .path parts) = some full →
    ∃ others, full = .node .path others ∧ StartsType others ∧ Plain .segments others

section Replaced

variable {replace : Tree → Option Tree} {trees parts : List Tree}

theorem Perhaps.replaced {good : Token → Prop} (h : Perhaps good trees) :
    mapTypePathsAll replace trees = trees := by
  cases h <;> rfl

theorem mapTypePathsAll_append (front back : List Tree) :
    mapTypePathsAll replace (front ++ back) =
      mapTypePathsAll replace front ++ mapTypePathsAll replace back := by
  simp only [mapTypePathsAll_eq_map, List.map_append]

theorem StartsType.replaced (h : StartsType trees) : StartsType (mapTypePathsAll replace trees) := by
  unfold StartsType at h
  split at h
  · exact h
  · exact h.elim

/-- What is plain stays plain when its paths are replaced by plain ones. -/
theorem Plain.replaced (keeps : KeepsPlain replace) {part : PlainPart} (h : Plain part trees) :
    Plain part (mapTypePathsAll replace trees) := by
  induction h with
  | @path parts starts _ ih =>
    change Plain .type [.node .typePath [(replace (.node .path (mapTypePathsAll replace parts))).getD
      (.node .path (mapTypePathsAll replace parts))]]
    cases found : replace (.node .path (mapTypePathsAll replace parts)) with
    | none => exact .path starts.replaced ih
    | some full =>
      obtain ⟨others, rfl, starts, plain⟩ := keeps.path ih found
      exact .path starts plain
  | @absolute parts place _ ih =>
    change Plain .type [.node .typePath
      [(replace (.node .path (operatorAt "::" place :: mapTypePathsAll replace parts))).getD
        (.node .path (operatorAt "::" place :: mapTypePathsAll replace parts))]]
    rw [keeps.absolute]
    exact .absolute place ih
  | @reference type lifetime mutability place quoted mutable _ ih =>
    change Plain .type [.node .reference
      (operatorAt "&" place :: mapTypePathsAll replace (lifetime ++ mutability ++ [type]))]
    rw [mapTypePathsAll_append, mapTypePathsAll_append, quoted.replaced, mutable.replaced]
    exact .reference place quoted mutable ih
  | pointer place other mark _ ih => exact .pointer place other mark ih
  | unit opening closing => exact .unit opening closing
  | tuple opening closing place _ _ ih others => exact .tuple opening closing place ih others
  | paren opening closing _ ih => exact .paren opening closing ih
  | slice opening closing _ ih => exact .slice opening closing ih
  | array opening closing place other number _ ih => exact .array opening closing place other number ih
  | never place => exact .never place
  | inferred place => exact .inferred place
  | noElements => exact .noElements
  | lastElement _ ih => exact .lastElement ih
  | element place _ _ ih others => exact .element place ih others
  | bare place word => exact .bare place word
  | @applied name colons arguments place opening closing word free front _ ih =>
    change Plain .segment [.node .segment [.token (.word name) place, .node .angleArguments
      (mapTypePathsAll replace (colons ++ operatorAt "<" opening :: arguments ++ [operatorAt ">" closing]))]]
    rw [mapTypePathsAll_append, mapTypePathsAll_append, front.replaced]
    exact .applied place opening closing word free front ih
  | lastSegment _ ih => exact .lastSegment ih
  | moreSegments place _ _ ih others => exact .moreSegments place ih others
  | typeArgument _ ih => exact .typeArgument ih
  | constant place number => exact .constant place number
  | noArguments lifetimes => exact .noArguments lifetimes
  | lastLifetime place word => exact .lastLifetime place word
  | lifetime place comma word _ ih => exact .lifetime place comma word ih
  | lastArgument lifetimes _ ih => exact .lastArgument lifetimes ih
  | moreArguments lifetimes comma _ _ ih others => exact .moreArguments lifetimes comma ih others

end Replaced

end Code

/-! ## Full identities -/

/-- The full name of a declaration may stand for a type: it does not start with `try` either. -/
structure Declaration.NamesType (declaration : Declaration) : Prop extends declaration.NamedByWords where
  start : declaration.home.names.head? ≠ some "try"

section Qualified

variable {declarations : List Declaration} {declaration : Declaration}

/-- The path that the full name reads as starts a type, with any plain arguments. -/
theorem Declaration.NamesType.exists_plain (h : declaration.NamesType) {arguments : List Tree}
    (given : PlainArguments arguments) :
    ∃ path parts, pathOfText? declaration.identity.text = some path ∧
      path.withLastArguments arguments = .node .path parts ∧ StartsType parts ∧ Plain .segments parts := by
  obtain ⟨own, word, free, identity⟩ := h.identity
  obtain ⟨name, rest, split⟩ : ∃ name rest, declaration.home.names ++ [own] = name :: rest := by
    cases declaration.home.names <;> exact ⟨_, _, rfl⟩
  have words : ∀ word ∈ name :: rest, IsPathWord word := by
    intro other hm
    rw [← split, List.mem_append, List.mem_singleton] at hm
    rcases hm with hm | rfl
    · exact h.home other hm
    · exact word
  have starts : name ≠ "try" := by
    cases names : declaration.home.names with
    | nil =>
      rw [names] at split
      obtain ⟨rfl, -⟩ := List.cons.inj split
      rintro rfl
      cases free
    | cons first others =>
      rw [names] at split
      obtain ⟨rfl, -⟩ := List.cons.inj split
      have start := h.start
      rw [names] at start
      exact fun same => start (congrArg some same)
  have last : ∀ final ∈ (name :: rest).getLast?, isKeyword final = false := by
    rw [← split, List.getLast?_concat]
    rintro final ⟨⟩
    exact free
  obtain ⟨path, read, spelled⟩ := exists_pathOfText? (words name (by simp))
    fun next hm => words next (List.mem_cons_of_mem _ hm)
  obtain ⟨tokens, parts, tokensOf, rfl⟩ := exists_tokens_of_text read spelled
  have names : Tree.unplacedAll parts = Tree.spelledParts [] name rest := (Tree.node.inj spelled).2
  obtain ⟨same, plain⟩ := plain_replaceLastArguments tokensOf given names words last
  exact ⟨_, Tree.replaceLastArguments arguments parts, by rw [identity, split, read], rfl, same starts, plain⟩

theorem keepsPlain_qualifiedPath? (named : ∀ declaration ∈ declarations, declaration.NamesType)
    (home : Home) : KeepsPlain (qualifiedPath? declarations home) where
  absolute place parts := rfl
  path {parts full} plain replaced := by
    unfold qualifiedPath? at replaced
    split at replaced
    · cases replaced
    · split at replaced
      · cases replaced
      · next identity _ _ found =>
        obtain ⟨hm, rfl⟩ := lookUp_eq_some found
        obtain ⟨path, others, read, same, starts, good⟩ := (named _ hm).exists_plain plain.lastArguments
        rw [read, Option.map_some, Option.some.injEq] at replaced
        exact ⟨others, by rw [← replaced, same], starts, good⟩

/-- A plain type is plain by full identities, and its text is read back. -/
theorem readsBack_qualifyType (named : ∀ declaration ∈ declarations, declaration.NamesType) (home : Home)
    {type : Tree} (plain : Plain .type [type]) : (qualifyType declarations home type).ReadsBack :=
  (plain.replaced (keepsPlain_qualifiedPath? named home)).readsBack

theorem Declaration.typesReadBack_of_plain (named : ∀ declaration ∈ declarations, declaration.NamesType)
    (plain : ∀ field ∈ declaration.writtenFields, Plain .type [field.2]) :
    declaration.TypesReadBack declarations :=
  fun field hm => readsBack_qualifyType named declaration.home (plain field hm)

end Qualified

/-! ## Types of a source -/

/-- The items of a text are those of its file, if there are any. -/
theorem Code.File.exists_of_items {text : String} {items : List Tree}
    (same : ((ofText? text).map (·.items)).getD [] = items) (some : items ≠ []) :
    ∃ file, ofText? text = Option.some file ∧ file.items = items := by
  cases read : ofText? text with
  | none =>
    rw [read] at same
    exact absurd same.symm some
  | some file =>
    rw [read] at same
    exact ⟨file, rfl, same⟩

/-- A type that is read from a text is read back, if only nodes of plain types occur in it. -/
theorem readsBack_of_typeOfText? {text : String} {type : Tree} (h : typeOfText? text = some type)
    (only : type.hasPlainNodes = true) : type.ReadsBack := by
  obtain ⟨trees, scanned, read⟩ := Option.bind_eq_some_iff.mp h
  have field : IsFieldType type := .read (Tree.scans_of_ofChars? scanned) (Read.all?_eq_some.mp read)
  exact (field.plain only).readsBack

example : (typeOfText? "Option<&'a [(u8, crate::T); 3]>").any (·.hasPlainNodes) = true := by
  decide +kernel

/-- The types of a declaration of a source are read back, if only nodes of plain types occur in them and no
module at the top is named `try`. -/
theorem typesReadBack_of_ofText? {text : String} {file : File} (h : File.ofText? text = some file)
    {root : List String} (words : ∀ name ∈ root, IsPathWord name)
    (start : ∀ declaration ∈ declarationsIn (.top root) file.items,
      declaration.home.names.head? ≠ some "try")
    {declaration : Declaration} (hm : declaration ∈ declarationsIn (.top root) file.items)
    (only : ∀ field ∈ declaration.writtenFields, field.2.hasPlainNodes = true) :
    declaration.TypesReadBack (declarationsIn (.top root) file.items) :=
  Declaration.typesReadBack_of_plain
    (fun other listed => ⟨namedByWords_of_ofText? h words other listed, start other listed⟩)
    fun field written => (isFieldType_of_ofText? h _ declaration hm field written).plain (only field written)

end RecordMapper
