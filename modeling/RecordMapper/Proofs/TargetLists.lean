/-
A list of targets is read as a list of paths and looked at afterwards, so what is accepted is cut out of a
larger language. It is the lists of names joined by `::`, with single commas between them and perhaps one
after the last. Of paths that cannot be targets the first is reported.
-/
import RecordMapper.Attribute
import RecordMapper.Proofs.SpelledPaths

namespace RecordMapper

open Code

/-! ## Readers backwards -/

namespace Code.Read

/-- The last character of an operator may be joint to what follows. -/
theorem startsOperator_singleton {c : Char} {trees : List Tree} :
    startsOperator [c] trees = true ↔
      ∃ joint place rest, trees = .token (.punct (String.singleton c) joint) place :: rest := by
  constructor
  · intro front
    unfold startsOperator at front
    split at front
    · next same => cases same
    · next same =>
      cases same
      obtain rfl := of_decide_eq_true front
      exact ⟨_, _, _, rfl⟩
    · next single same =>
      cases same
      exact absurd rfl single
    · cases front
  · rintro ⟨joint, place, rest, rfl⟩
    simp [startsOperator]

/-- The characters before the last are joint to the next. -/
theorem startsOperator_cons {c next : Char} {more : List Char} {trees : List Tree} :
    startsOperator (c :: next :: more) trees = true ↔
      ∃ place rest, trees = .token (.punct (String.singleton c) true) place :: rest ∧
        startsOperator (next :: more) rest = true := by
  constructor
  · intro front
    unfold startsOperator at front
    split at front
    · next same => cases same
    · next same => cases same
    · next same =>
      cases same
      obtain ⟨first, others⟩ := Bool.and_eq_true_iff.mp front
      obtain rfl := of_decide_eq_true first
      exact ⟨_, _, rfl, others⟩
    · cases front
  · rintro ⟨place, rest, rfl, others⟩
    simp [startsOperator, others]

theorem isOp_comma_iff {trees : List Tree} :
    isOp "," trees = true ↔ ∃ joint place rest, trees = .token (.punct "," joint) place :: rest :=
  startsOperator_singleton

theorem op_colons_eq_some {trees rest : List Tree} {tree : Tree}
    (read : op "::" trees = some (tree, rest)) :
    ∃ p joint q, trees = .token (.punct ":" true) p :: .token (.punct ":" joint) q :: rest ∧
      tree = .token (.punct "::" false) (p.join q) := by
  unfold op at read
  split at read
  · next front =>
    obtain ⟨p, after, rfl, second⟩ := startsOperator_cons.mp front
    obtain ⟨joint, q, after, rfl⟩ := startsOperator_singleton.mp second
    cases read
    exact ⟨p, joint, q, rfl, rfl⟩
  · cases read

end Code.Read

namespace Code.Grammar

open Read

/-- What stands after the name of a segment. -/
theorem segmentArguments_eq_some {self : Readers} {word tree : Tree} {trees rest : List Tree}
    (read : (do
      if ← sees (seesArguments .inType) then
        return .node .segment [word, ← angleArguments self]
      return .node .segment [word] : Read Tree) trees = some (tree, rest)) :
    ∃ arguments, tree = .node .segment (word :: arguments) ∧ (arguments = [] → trees = rest) := by
  rw [sees_bind] at read
  split at read
  · obtain ⟨⟨arguments, after⟩, _, read⟩ := Option.bind_eq_some_iff.mp read
    cases read
    exact ⟨[arguments], rfl, nofun⟩
  · cases read
    exact ⟨[], rfl, fun _ => rfl⟩

/-- A segment starts with a word, and is that word alone if it has no arguments. -/
theorem segment_eq_some {self : Readers} {trees rest : List Tree} {tree : Tree}
    (read : segment self .inType trees = some (tree, rest)) :
    ∃ name place arguments, tree = .node .segment (.token (.word name) place :: arguments) ∧
      (arguments = [] → IsSegmentWord name ∧ trees = .token (.word name) place :: rest) := by
  unfold segment at read
  rw [sees_bind] at read
  split at read
  · next module =>
    obtain ⟨⟨word, after⟩, taken, answered⟩ := Option.bind_eq_some_iff.mp read
    cases answered
    obtain ⟨isWord, rfl⟩ := nextIf_eq_some.mp taken
    obtain ⟨name, place, rfl⟩ := isAnyWord_cons.mp isWord
    refine ⟨name, place, [], rfl, fun _ => ⟨.inl ?_, rfl⟩⟩
    simp only [isWordOf] at module
    grind
  rw [sees_bind] at read
  split at read
  · next own =>
    obtain ⟨⟨word, after⟩, taken, answered⟩ := Option.bind_eq_some_iff.mp read
    obtain ⟨isWord, rfl⟩ := nextIf_eq_some.mp taken
    obtain ⟨name, place, rfl⟩ := isAnyWord_cons.mp isWord
    obtain ⟨arguments, rfl, bare⟩ := segmentArguments_eq_some answered
    refine ⟨name, place, arguments, rfl, fun none_given => ⟨.inl ?_, by rw [bare none_given]⟩⟩
    simp only [Code.isWord, decide_eq_true_eq] at own
    rw [own]
    rfl
  · obtain ⟨⟨word, after⟩, taken, answered⟩ := Option.bind_eq_some_iff.mp read
    obtain ⟨isWord, rfl⟩ := nextIf_eq_some.mp taken
    obtain ⟨name, place, rfl, free⟩ := isName_cons.mp isWord
    obtain ⟨arguments, rfl, bare⟩ := segmentArguments_eq_some answered
    exact ⟨name, place, arguments, rfl, fun none_given => ⟨.inr free, by rw [bare none_given]⟩⟩

/-- No segment has arguments. -/
def AllBare (parts : List Tree) : Prop :=
  ∀ part ∈ parts, part.segmentName?.isSome = true → part.segmentArguments = []

section Segments

variable {self : Readers} {trees after rest parts more : List Tree} {first path : Tree}

/-- A segment without arguments is a word. -/
theorem exists_word_of_segment (read : segment self .inType trees = some (first, rest))
    (bare : first.segmentName?.isSome = true → first.segmentArguments = []) :
    ∃ name place, IsSegmentWord name ∧ trees = .token (.word name) place :: rest ∧
      first = .node .segment [.token (.word name) place] := by
  obtain ⟨name, place, arguments, rfl, alone⟩ := segment_eq_some read
  obtain rfl : arguments = [] := bare rfl
  obtain ⟨word, rfl⟩ := alone rfl
  exact ⟨name, place, word, rfl, rfl⟩

/-- A segment and the segments after it, none with arguments, were read from the tokens of a path. The
induction follows the loop; what it has left to read starts with a segment again. -/
theorem exists_tokens_of_segments {limit : Nat}
    (head : segment self .inType trees = some (first, after))
    (loop : repeatAtMost (fun trees => !seesSegment trees)
      (do return [← op "::", ← segment self .inType]) limit after = some (more, rest))
    (bare : AllBare (first :: more)) :
    ∃ tokens, PathTokens tokens (first :: more) ∧ trees = tokens ++ rest := by
  induction limit generalizing trees first after more with
  | zero =>
    obtain ⟨name, place, word, rfl, rfl⟩ := exists_word_of_segment head (bare _ List.mem_cons_self)
    unfold repeatAtMost at loop
    rw [sees_bind] at loop
    split at loop
    · cases loop
      exact ⟨_, .last word place, rfl⟩
    · cases loop
  | succ limit ih =>
    obtain ⟨name, place, word, rfl, rfl⟩ := exists_word_of_segment head (bare _ List.mem_cons_self)
    unfold repeatAtMost at loop
    rw [sees_bind] at loop
    split at loop
    · cases loop
      exact ⟨_, .last word place, rfl⟩
    obtain ⟨⟨two, between⟩, both, again⟩ := Option.bind_eq_some_iff.mp loop
    obtain ⟨⟨colons, behind⟩, taken, both⟩ := Option.bind_eq_some_iff.mp both
    obtain ⟨⟨next, between'⟩, read, both⟩ := Option.bind_eq_some_iff.mp both
    cases both
    obtain ⟨⟨others, rest'⟩, later, same⟩ := Option.bind_eq_some_iff.mp again
    cases same
    obtain ⟨p, joint, q, rfl, rfl⟩ := op_colons_eq_some taken
    obtain ⟨tokens, path, rfl⟩ := ih read later fun part hm =>
      bare part (List.mem_cons_of_mem _ (List.mem_cons_of_mem _ hm))
    exact ⟨_, .more word place p q joint path, rfl⟩

theorem opIf_colons_eq_some (read : opIf "::" trees = some (parts, rest)) :
    (∃ span, parts = [.token (.punct "::" false) span]) ∨ parts = [] ∧ trees = rest := by
  unfold opIf whenSees at read
  rw [sees_bind] at read
  split at read
  · obtain ⟨⟨colons, after⟩, taken, read⟩ := Option.bind_eq_some_iff.mp read
    cases read
    obtain ⟨p, joint, q, -, rfl⟩ := op_colons_eq_some taken
    exact .inl ⟨_, rfl⟩
  · cases read
    exact .inr ⟨rfl, rfl⟩

/-- A path that is neither absolute nor has arguments was read from its tokens. -/
theorem exists_tokens_of_path (read : Grammar.path self .inType trees = some (path, rest))
    (relative : path.leadingColons? = none)
    (bare : ∀ segment ∈ path.segments, segment.segmentArguments = []) :
    ∃ tokens parts, PathTokens tokens parts ∧ trees = tokens ++ rest ∧ path = .node .path parts := by
  obtain ⟨⟨parts, after⟩, read, same⟩ := Option.bind_eq_some_iff.mp read
  cases same
  obtain ⟨⟨lead, front⟩, leading, read⟩ := Option.bind_eq_some_iff.mp read
  obtain ⟨⟨first, behind⟩, head, read⟩ := Option.bind_eq_some_iff.mp read
  obtain ⟨⟨more, rest'⟩, loop, same⟩ := Option.bind_eq_some_iff.mp read
  cases same
  obtain ⟨span, rfl⟩ | ⟨rfl, rfl⟩ := opIf_colons_eq_some leading
  · cases relative
  · obtain ⟨tokens, path, rfl⟩ := exists_tokens_of_segments head loop fun part hm named =>
      bare part (List.mem_filter.mpr ⟨hm, named⟩)
    exact ⟨tokens, _, path, rfl, rfl⟩

end Segments

end Code.Grammar

/-! ## Paths that can be targets -/

/-- A path that can be a target: names alone, read from some tokens. -/
def IsPlainTarget (path : Tree) : Prop :=
  ∃ tokens parts, Grammar.PathTokens tokens parts ∧ path = .node .path parts

/-- Why a path cannot be a target. Arguments are only named where no `::` stands at the start, and those of
the first segment that has any. -/
inductive Unsuitable (path : Tree) : SourceError → Prop
  | absolute {colons : Tree} : path.leadingColons? = some colons →
    Unsuitable path ⟨"absolute paths are not supported as mapping targets", colons.span⟩
  | arguments {before after : List Tree} {segment : Tree} : path.leadingColons? = none →
    path.segments = before ++ segment :: after →
    (∀ earlier ∈ before, earlier.segmentArguments = []) → segment.segmentArguments ≠ [] →
    Unsuitable path ⟨"generic arguments are not supported in mapping targets", segment.span⟩

section Targets

variable {path : Tree} {error : SourceError} {tokens parts trees targets rest : List Tree}

theorem targetError?_eq_some_iff : targetError? path = some error ↔ Unsuitable path error := by
  unfold targetError?
  constructor
  · intro found
    split at found
    · next colons leading =>
      cases found
      exact .absolute leading
    · next relative =>
      split at found
      · next segment met =>
        cases found
        obtain ⟨given, before, after, cut, bare⟩ := List.find?_eq_some_iff_append.mp met
        exact .arguments relative cut (fun earlier hm => by simpa using bare earlier hm)
          (by simpa using given)
      · cases found
  · intro unsuitable
    cases unsuitable with
    | absolute leading => rw [leading]
    | arguments relative cut bare given =>
      have met : path.segments.find? (!·.segmentArguments.isEmpty) = some _ :=
        List.find?_eq_some_iff_append.mpr ⟨by simpa using given, _, _, cut, fun earlier hm => by
          simpa using bare earlier hm⟩
      rw [relative]
      simp only [met]

theorem targetError?_eq_none_iff : targetError? path = none ↔
    path.leadingColons? = none ∧ ∀ segment ∈ path.segments, segment.segmentArguments = [] := by
  unfold targetError?
  cases leading : path.leadingColons? with
  | some colons => simp
  | none =>
    cases met : path.segments.find? (!·.segmentArguments.isEmpty) with
    | some segment =>
      have given := List.find?_some met
      have member := List.mem_of_find?_eq_some met
      simp only [reduceCtorEq, true_and, false_iff]
      intro bare
      simp [bare segment member] at given
    | none => simpa using met

theorem segmentArguments_of_mem_parts (h : Grammar.PathTokens tokens parts) :
    ∀ part ∈ parts, part.segmentArguments = [] := by
  induction h with
  | last => simp [Tree.segmentArguments]
  | more _ _ _ _ _ _ ih => simpa [Tree.segmentArguments] using ih

theorem IsPlainTarget.targetError?_eq_none (h : IsPlainTarget path) : targetError? path = none := by
  obtain ⟨tokens, parts, h, rfl⟩ := h
  refine targetError?_eq_none_iff.mpr ⟨by cases h <;> rfl, fun segment hm => ?_⟩
  exact segmentArguments_of_mem_parts h segment (List.mem_filter.mp hm).1

end Targets

/-! ## Lists -/

/-- The tokens of a list of targets: paths with single commas between them, and perhaps one after the
last. -/
inductive TargetTokens : List Tree → List Tree → Prop
  | last {tokens parts : List Tree} : Grammar.PathTokens tokens parts →
    TargetTokens tokens [.node .path parts]
  | trailing (joint : Bool) (place : Span) {tokens parts : List Tree} : Grammar.PathTokens tokens parts →
    TargetTokens (tokens ++ [.token (.punct "," joint) place]) [.node .path parts]
  | more (joint : Bool) (place : Span) {tokens parts rest targets : List Tree} :
    Grammar.PathTokens tokens parts → TargetTokens rest targets →
      TargetTokens (tokens ++ .token (.punct "," joint) place :: rest) (.node .path parts :: targets)

/-- Trees that can be read as paths with single commas between them, and perhaps one after the last, whatever
the paths are. -/
inductive PathList (self : Readers) : List Tree → List Tree → Prop
  | nil : PathList self [] []
  | last {trees : List Tree} {path : Tree} :
    Grammar.path self .inType trees = some (path, []) → PathList self trees [path]
  | more (joint : Bool) (place : Span) {trees rest paths : List Tree} {path : Tree} :
    Grammar.path self .inType trees = some (path, .token (.punct "," joint) place :: rest) →
      PathList self rest paths → PathList self trees (path :: paths)

section Lists

variable {self : Readers} {stop : Span} {trees rest targets paths : List Tree} {path : Tree} {limit : Nat}

theorem readPath_eq_ok_iff : readPath self stop trees = .ok (path, rest) ↔
    Grammar.path self .inType trees = some (path, rest) := by
  unfold readPath
  cases Grammar.path self .inType trees <;> simp

theorem readPaths_last (some_left : trees ≠ [])
    (read : Grammar.path self .inType trees = some (path, [])) :
    readPaths self stop (limit + 1) trees = .ok [path] := by
  rw [readPaths, readPath_eq_ok_iff.mpr read]
  exact some_left

theorem readPaths_comma {joint : Bool} {place : Span} (some_left : trees ≠ [])
    (read : Grammar.path self .inType trees = some (path, .token (.punct "," joint) place :: rest)) :
    readPaths self stop (limit + 1) trees = (readPaths self stop limit rest).map (path :: ·) := by
  have comma : isOp "," (.token (.punct "," joint) place :: rest) = true :=
    Read.isOp_comma_iff.mpr ⟨_, _, _, rfl⟩
  rw [readPaths, readPath_eq_ok_iff.mpr read]
  · simp only [comma, if_true, List.drop_one, List.tail_cons]
  · exact some_left

theorem path_of_tokens_last {tokens parts : List Tree} (h : Grammar.PathTokens tokens parts) :
    Grammar.path self .inType tokens = some (.node .path parts, []) := by
  have read := Grammar.path_of_tokens self h (rfl : Grammar.seesArguments .inType [] = false) rfl
  rwa [List.append_nil] at read

theorem path_of_tokens_comma {tokens parts : List Tree} {joint : Bool} {place : Span}
    (h : Grammar.PathTokens tokens parts) :
    Grammar.path self .inType (tokens ++ .token (.punct "," joint) place :: rest) =
      some (.node .path parts, .token (.punct "," joint) place :: rest) := by
  refine Grammar.path_of_tokens self h ?_ ?_ <;> cases joint <;> rfl

/-- A list of targets is read as it is written. -/
theorem TargetTokens.reads (h : TargetTokens trees targets) (enough : trees.length ≤ limit) :
    readPaths self stop limit trees = .ok targets := by
  have some_left {tokens parts : List Tree} (h : Grammar.PathTokens tokens parts) : tokens ≠ [] := by
    cases h <;> exact List.cons_ne_nil _ _
  induction h generalizing limit with
  | last path =>
    obtain ⟨fewer, rfl⟩ : ∃ fewer, limit = fewer + 1 :=
      Nat.exists_eq_add_of_le' (Nat.le_trans (List.length_pos_iff.mpr (some_left path)) enough)
    exact readPaths_last (some_left path) (path_of_tokens_last path)
  | trailing joint place path =>
    rw [List.length_append, List.length_singleton] at enough
    obtain ⟨fewer, rfl⟩ : ∃ fewer, limit = fewer + 1 := Nat.exists_eq_add_of_le' (by omega)
    rw [readPaths_comma (by simp) (path_of_tokens_comma path), readPaths]
    rfl
  | more joint place path _ ih =>
    rw [List.length_append, List.length_cons] at enough
    obtain ⟨fewer, rfl⟩ : ∃ fewer, limit = fewer + 1 := Nat.exists_eq_add_of_le' (by omega)
    rw [readPaths_comma (by simp) (path_of_tokens_comma path), ih (by omega)]
    rfl

theorem exists_tokens_of_target (read : Grammar.path self .inType trees = some (path, rest))
    (suitable : targetError? path = none) :
    ∃ tokens parts,
      Grammar.PathTokens tokens parts ∧ trees = tokens ++ rest ∧ path = .node .path parts := by
  obtain ⟨relative, bare⟩ := targetError?_eq_none_iff.mp suitable
  exact Grammar.exists_tokens_of_path read relative bare

theorem pathList_of_readPaths (read : readPaths self stop limit trees = .ok paths) :
    PathList self trees paths := by
  fun_induction readPaths self stop limit trees generalizing paths with
  | case1 =>
    cases read
    exact .nil
  | case2 => cases read
  | case3 => cases read
  | case4 _ _ _ path found =>
    cases read
    exact .last (readPath_eq_ok_iff.mp found)
  | case5 limit _ _ path rest _ found comma ih =>
    obtain ⟨joint, place, rest, rfl⟩ := Read.isOp_comma_iff.mp comma
    rw [List.drop_one, List.tail_cons] at read ih
    cases others : readPaths self stop limit rest with
    | error => simp [others, Except.map] at read
    | ok paths =>
      simp only [others, Except.map, Except.ok.injEq] at read
      subst read
      exact .more joint place (readPath_eq_ok_iff.mp found) (ih others)
  | case6 => cases read

/-- What can be read as a list of paths is a list of targets, if all of the paths can be targets. -/
theorem PathList.targetTokens (h : PathList self trees paths) (some_read : paths ≠ [])
    (suitable : ∀ path ∈ paths, targetError? path = none) : TargetTokens trees paths := by
  induction h with
  | nil => exact absurd rfl some_read
  | last read =>
    obtain ⟨tokens, parts, path, cut, rfl⟩ :=
      exists_tokens_of_target read (suitable _ List.mem_cons_self)
    rw [cut, List.append_nil]
    exact .last path
  | @more joint place _ _ others _ read after ih =>
    obtain ⟨tokens, parts, path, cut, rfl⟩ :=
      exists_tokens_of_target read (suitable _ List.mem_cons_self)
    rw [cut]
    by_cases ended : others = []
    · subst ended
      cases after
      exact .trailing joint place path
    · exact .more joint place path (ih ended fun path hm => suitable path (List.mem_cons_of_mem _ hm))

theorem TargetTokens.ne_nil (h : TargetTokens trees targets) : targets ≠ [] := by
  cases h <;> exact List.cons_ne_nil _ _

theorem TargetTokens.isPlainTarget (h : TargetTokens trees targets) :
    ∀ target ∈ targets, IsPlainTarget target := by
  induction h with
  | last path => simpa using ⟨_, _, path, rfl⟩
  | trailing joint place path => simpa using ⟨_, _, path, rfl⟩
  | more joint place path _ ih => exact List.forall_mem_cons.mpr ⟨⟨_, _, path, rfl⟩, ih⟩

/-- The targets of a list, once its paths are read. -/
theorem targetsOf_of_readPaths (read : readPaths (readersFor trees) stop trees.length trees = .ok paths)
    (some_read : paths ≠ []) : targetsOf stop trees =
      match paths.findSome? targetError? with
      | some error => .error error
      | none => .ok paths := by
  unfold targetsOf
  rw [read]
  cases paths with
  | nil => exact absurd rfl some_read
  | cons path paths => rfl

theorem targetsOf_eq_ok_iff : targetsOf stop trees = .ok targets ↔ TargetTokens trees targets := by
  constructor
  · intro found
    cases read : readPaths (readersFor trees) stop trees.length trees with
    | error error => simp [targetsOf, read] at found
    | ok paths =>
      have some_read : paths ≠ [] := by
        rintro rfl
        simp [targetsOf, read] at found
      rw [targetsOf_of_readPaths read some_read] at found
      split at found
      · cases found
      · next suitable =>
        cases found
        exact (pathList_of_readPaths read).targetTokens some_read
          (List.findSome?_eq_none_iff.mp suitable)
  · intro tokens
    have suitable : targets.findSome? targetError? = none :=
      List.findSome?_eq_none_iff.mpr fun target hm =>
        (tokens.isPlainTarget target hm).targetError?_eq_none
    rw [targetsOf_of_readPaths (tokens.reads (Nat.le_refl _)) tokens.ne_nil, suitable]

/-- A path is unsuitable for one reason at most, and that of the first such path is reported. -/
theorem targetsOf_eq_error_iff {error : SourceError}
    (read : readPaths (readersFor trees) stop trees.length trees = .ok paths) (some_read : paths ≠ []) :
    targetsOf stop trees = .error error ↔ ∃ before path after, paths = before ++ path :: after ∧
      (∀ earlier ∈ before, ∀ other, ¬Unsuitable earlier other) ∧ Unsuitable path error := by
  have first : targetsOf stop trees = .error error ↔ paths.findSome? targetError? = some error := by
    rw [targetsOf_of_readPaths read some_read]
    cases paths.findSome? targetError? <;> simp
  have suitable (path : Tree) : targetError? path = none ↔ ∀ other, ¬Unsuitable path other := by
    simp only [Option.eq_none_iff_forall_ne_some, ← targetError?_eq_some_iff, ne_eq]
  simp only [first, List.findSome?_eq_some_iff, targetError?_eq_some_iff, suitable, ← and_assoc]
  constructor
  · rintro ⟨before, path, after, ⟨cut, unsuitable⟩, earlier⟩
    exact ⟨before, path, after, ⟨cut, earlier⟩, unsuitable⟩
  · rintro ⟨before, path, after, ⟨cut, earlier⟩, unsuitable⟩
    exact ⟨before, path, after, ⟨cut, unsuitable⟩, earlier⟩

end Lists

/-! ## Writing lists -/

/-- Paths with commas between them, and one after the last if `trailing`. -/
def writtenTargets (comma : Tree) (trailing : Bool) : List Tree → List Tree
  | [] => []
  | [path] => path.tokens ++ if trailing then [comma] else []
  | path :: rest => path.tokens ++ comma :: writtenTargets comma trailing rest

theorem pathTokens_tokensOf {tokens parts : List Tree} (h : Grammar.PathTokens tokens parts) :
    Grammar.PathTokens (Tree.tokensOf parts) parts := by
  induction h with
  | last word place => exact .last word place
  | more word place p q joint _ ih => exact .more word place (p.join q) (p.join q) false ih

theorem targetTokens_written {targets : List Tree} (some_left : targets ≠ [])
    (plain : ∀ target ∈ targets, IsPlainTarget target) (trailing joint : Bool) (place : Span) :
    TargetTokens (writtenTargets (.token (.punct "," joint) place) trailing targets) targets := by
  induction targets with
  | nil => exact absurd rfl some_left
  | cons target targets ih =>
    obtain ⟨tokens, parts, read, rfl⟩ := plain target List.mem_cons_self
    have path := pathTokens_tokensOf read
    cases targets with
    | nil =>
      cases trailing with
      | false =>
        rw [writtenTargets, if_neg Bool.false_ne_true, List.append_nil]
        exact .last path
      | true => exact .trailing joint place path
    | cons next targets =>
      exact .more joint place path (ih (List.cons_ne_nil _ _) fun other hm =>
        plain other (List.mem_cons_of_mem _ hm))

/-- **Lists of targets.** A list of targets is accepted exactly if it is one or more paths of names with
single commas between them and perhaps one after the last, and the targets are these paths, in order. Such
paths, written with commas, are read back. If the list can be read as paths but some cannot be targets, the
first of these is reported, `::` at its start before arguments. -/
theorem targetsOf_accepts (stop : Span) :
    (∀ trees targets, targetsOf stop trees = .ok targets ↔ TargetTokens trees targets) ∧
      (∀ targets, targets ≠ [] → (∀ target ∈ targets, IsPlainTarget target) →
        ∀ trailing joint place, targetsOf stop
          (writtenTargets (.token (.punct "," joint) place) trailing targets) = .ok targets) ∧
      ∀ trees paths, readPaths (readersFor trees) stop trees.length trees = .ok paths → paths ≠ [] →
        PathList (readersFor trees) trees paths ∧
          ∀ error, targetsOf stop trees = .error error ↔
            ∃ before path after, paths = before ++ path :: after ∧
              (∀ earlier ∈ before, ∀ other, ¬Unsuitable earlier other) ∧ Unsuitable path error :=
  ⟨fun _ _ => targetsOf_eq_ok_iff,
    fun _ some_left plain trailing joint place =>
      targetsOf_eq_ok_iff.mpr (targetTokens_written some_left plain trailing joint place),
    fun _ _ read some_read =>
      ⟨pathList_of_readPaths read, fun _ => targetsOf_eq_error_iff read some_read⟩⟩

/-- One of three paths has arguments, and another is absolute; and two names with a comma after each. -/
theorem targetsOf_accepts_first_unsuitable :
    (∃ trees, Tree.ofText? "A, C<D>, ::B" = some trees ∧ targetsOf .none trees =
      .error ⟨"generic arguments are not supported in mapping targets", ⟨⟨1, 3⟩, ⟨1, 7⟩⟩⟩) ∧
      let name (text : String) : Tree := .node .path [.node .segment [.token (.word text) .none]]
      targetsOf .none [.token (.word "Self") .none, .token (.punct "," false) .none,
        .token (.word "B") .none, .token (.punct "," false) .none] = .ok [name "Self", name "B"] := by
  obtain ⟨-, written, first⟩ := targetsOf_accepts .none
  constructor
  · have read : ((Tree.ofText? "A, C<D>, ::B").bind fun trees =>
        (readPaths (readersFor trees) .none trees.length trees).toOption.map (·.map targetError?)) =
          some [none,
            some ⟨"generic arguments are not supported in mapping targets", ⟨⟨1, 3⟩, ⟨1, 7⟩⟩⟩,
            some ⟨"absolute paths are not supported as mapping targets", ⟨⟨1, 9⟩, ⟨1, 11⟩⟩⟩] := by
      decide +kernel
    obtain ⟨trees, text, read⟩ := Option.bind_eq_some_iff.mp read
    obtain ⟨paths, read, errors⟩ := Option.map_eq_some_iff.mp read
    have read : readPaths (readersFor trees) .none trees.length trees = .ok paths := by
      cases answer : readPaths (readersFor trees) .none trees.length trees <;>
        simp_all [Except.toOption]
    obtain ⟨plain, paths, rfl, suitable, errors⟩ := List.map_eq_cons_iff.mp errors
    obtain ⟨given, paths, rfl, unsuitable, -⟩ := List.map_eq_cons_iff.mp errors
    refine ⟨trees, text, ((first _ _ read (List.cons_ne_nil _ _)).2 _).mpr ⟨[plain], given, paths, rfl, ?_,
      targetError?_eq_some_iff.mp unsuitable⟩⟩
    intro earlier hm other reported
    obtain rfl := List.mem_singleton.mp hm
    rw [targetError?_eq_some_iff.mpr reported] at suitable
    cases suitable
  · intro name
    have plain (text : String) (word : IsSegmentWord text) : IsPlainTarget (name text) :=
      ⟨_, _, .last word .none, rfl⟩
    exact written [name "Self", name "B"] (List.cons_ne_nil _ _) (by
      simpa using ⟨plain "Self" (.inl (by decide)), plain "B" (.inr (by decide))⟩) true false .none

end RecordMapper
