/-
The text of an identity is a path: its names with `::` between them and no blank anywhere. Reading it
gives that path back, whatever the names are, as long as each of them is a word of its own.
-/
import RecordMapper.Identity
import RecordMapper.Proofs.Unplaced
import RecordMapper.Proofs.Words

namespace RecordMapper.Code

open Text

namespace Tree

/-! ## Paths of names -/

/-- The `::` between two names. -/
def colons : Tree := token (.punct "::" false) .none

/-- A name in a path, with arguments. -/
def namedSegment (name : String) (arguments : List Tree) : Tree :=
  node .segment (token (.word name) .none :: arguments)

/-- The parts of the path of a name and more names, with arguments after the last. -/
def spelledParts (arguments : List Tree) (name : String) : List String → List Tree
  | [] => [namedSegment name arguments]
  | next :: rest => namedSegment name [] :: colons :: spelledParts arguments next rest

/-- The path of a name and more names, with arguments after the last. -/
def spelled (name : String) (rest : List String) (arguments : List Tree) : Tree :=
  node .path (spelledParts arguments name rest)

theorem replaceLastArguments_cons (arguments : List Tree) (part : Tree) {rest : List Tree}
    (more : rest ≠ []) :
    replaceLastArguments arguments (part :: rest) = part :: replaceLastArguments arguments rest := by
  rw [replaceLastArguments]
  rintro name old rfl rfl
  exact more rfl

theorem spelledParts_ne_nil (arguments : List Tree) (name : String) (rest : List String) :
    spelledParts arguments name rest ≠ [] := by
  cases rest <;> exact List.cons_ne_nil _ _

theorem replaceLastArguments_spelledParts (arguments : List Tree) (name : String)
    (rest : List String) :
    replaceLastArguments arguments (spelledParts [] name rest) = spelledParts arguments name rest := by
  induction rest generalizing name with
  | nil => rfl
  | cons next rest ih =>
    rw [spelledParts, replaceLastArguments_cons _ _ (List.cons_ne_nil _ _),
      replaceLastArguments_cons _ _ (spelledParts_ne_nil _ _ _), ih, spelledParts]

theorem withLastArguments_spelled (name : String) (rest : List String) (arguments : List Tree) :
    (spelled name rest []).withLastArguments arguments = spelled name rest arguments :=
  congrArg (node .path) (replaceLastArguments_spelledParts arguments name rest)

theorem segments_spelled (name : String) (rest : List String) (arguments : List Tree) :
    (spelled name rest arguments).segments =
      ((name :: rest).dropLast.map fun name => namedSegment name []) ++
        [namedSegment ((name :: rest).getLast (List.cons_ne_nil name rest)) arguments] := by
  induction rest generalizing name with
  | nil => rfl
  | cons next rest ih =>
    have hih := ih next
    simp only [spelled, segments, spelledParts] at hih ⊢
    rw [List.filter_cons_of_pos rfl, List.filter_cons_of_neg (by decide), hih]
    rfl

theorem pathNames_spelled (name : String) (rest : List String) (arguments : List Tree) :
    (spelled name rest arguments).pathNames = name :: rest := by
  rw [pathNames, segments_spelled, List.filterMap_append, List.filterMap_map]
  have names : ∀ names : List String,
      names.filterMap (segmentName? ∘ fun name => namedSegment name []) = names := by
    intro names
    exact (List.filterMap_congr fun name _ => rfl).trans List.filterMap_some
  rw [names]
  exact List.dropLast_append_getLast (List.cons_ne_nil name rest)

theorem allArguments_spelled (name : String) (rest : List String) (arguments : List Tree) :
    (spelled name rest arguments).allArguments = arguments := by
  have bare : ∀ names : List String,
      (names.map fun name => namedSegment name []).flatMap segmentArguments = [] := by
    intro names
    rw [List.flatMap_map]
    exact List.flatMap_eq_nil_iff.mpr fun name _ => rfl
  rw [allArguments, segments_spelled, List.flatMap_append, bare, List.nil_append]
  exact List.append_nil arguments

theorem leadingColons?_spelled (name : String) (rest : List String) (arguments : List Tree) :
    (spelled name rest arguments).leadingColons? = none := by
  cases rest <;> rfl

/-! ## Forgetting places -/

theorem replaceLastArguments_unplaced (arguments parts : List Tree) :
    unplacedAll (replaceLastArguments arguments parts) =
      replaceLastArguments (unplacedAll arguments) (unplacedAll parts) := by
  induction parts with
  | nil => rfl
  | cons part rest ih =>
    cases rest with
    | nil =>
      cases part with
      | node role parts =>
        cases parts with
        | nil => cases role <;> rfl
        | cons name old => cases role <;> rfl
      | _ => rfl
    | cons next rest =>
      rw [replaceLastArguments_cons _ _ (List.cons_ne_nil _ _), unplacedAll, ih]
      exact (replaceLastArguments_cons _ _ (List.cons_ne_nil _ _)).symm

theorem withLastArguments_unplaced (arguments : List Tree) (path : Tree) :
    (path.withLastArguments arguments).unplaced =
      path.unplaced.withLastArguments (unplacedAll arguments) := by
  cases path with
  | token t place => rfl
  | group delimiter opening closing inner => rfl
  | node role parts =>
    cases role with
    | path => exact congrArg (node .path) (replaceLastArguments_unplaced arguments parts)
    | _ => rfl

end Tree

/-! ## From text to tokens -/

/-- The characters of a name and more names with `::` between them. -/
def joined (name : String) : List String → List Char
  | [] => name.toList
  | next :: rest => name.toList ++ ':' :: ':' :: joined next rest

theorem toList_intercalate (name : String) (rest : List String) :
    (String.intercalate "::" (name :: rest)).toList = joined name rest := by
  induction rest generalizing name with
  | nil => rw [String.intercalate_singleton, joined]
  | cons next rest ih =>
    rw [String.intercalate_cons_cons, String.toList_append, String.toList_append, ih, joined,
      List.append_assoc]
    rfl

/-- The tokens of more names, each after `::`, at some places. -/
inductive MoreNames : List String → List Tree → Prop
  | nil : MoreNames [] []
  | cons {next : String} {rest : List String} {trees : List Tree} (p q r : Span)
    (after : MoreNames rest trees) :
    MoreNames (next :: rest)
      (.token (.punct ":" true) p :: .token (.punct ":" false) q :: .token (.word next) r :: trees)

theorem scanPlainComment_eq_none {c : Char} {cs : List Char} (hc : c ≠ '/') :
    scanPlainComment (c :: cs) = none := by
  unfold scanPlainComment
  split
  · next heq => exact absurd (List.cons.inj heq).1 hc
  · next heq => exact absurd (List.cons.inj heq).1 hc
  · rfl

theorem lexemesFrom_succ {c : Char} {cs taken rest : List Char} {lexeme : Lexeme} {steps : Nat}
    {place : Place} (blank : isBlank c = false) (slash : c ≠ '/')
    (scanned : scanLexeme (c :: cs) = some (lexeme, taken, rest)) :
    lexemesFrom (steps + 1) place (c :: cs) =
      (lexemesFrom steps (place.after taken) rest).map
        ((lexeme, ⟨place, place.after taken⟩) :: ·) := by
  rw [lexemesFrom, blank, if_neg Bool.false_ne_true, scanPlainComment_eq_none slash]
  simp only [scanned]
  change (lexemesFrom steps (place.after taken) rest).bind _ = _
  cases lexemesFrom steps (place.after taken) rest <;> rfl

/-- A word at the front of a text is one lexeme. -/
theorem lexemesFrom_word {name : String} {rest : List Char} {steps : Nat} {place : Place}
    (hw : WordForm name.toList) (hr : Follows rest) :
    lexemesFrom (steps + 1) place (name.toList ++ rest) =
      (lexemesFrom steps (place.after name.toList) rest).map
        ((.token (.word name), ⟨place, place.after name.toList⟩) :: ·) := by
  have scanned := hw.scanLexeme_eq hr
  rw [String.ofList_toList] at scanned
  obtain ⟨c, cs, hname, starts⟩ := hw.exists_cons
  rw [hname, List.cons_append] at scanned ⊢
  exact lexemesFrom_succ (isBlank_of_startsIdentifier starts)
    (startsIdentifier_ne starts (apart_of_mem_wordMarks '/' (by decide)).1) scanned

/-- A character of an operator at the front of a text is one lexeme. -/
theorem lexemesFrom_operator {c : Char} (hc : c ∈ operatorCharacters) {rest : List Char} {steps : Nat}
    {place : Place} :
    lexemesFrom (steps + 1) place (c :: rest) =
      (lexemesFrom steps (place.after [c]) rest).map
        ((.token (.punct (String.singleton c) (startsPunctuation rest)), ⟨place, place.after [c]⟩) :: ·) := by
  have listed : ∀ c ∈ operatorCharacters, isBlank c = false ∧ c ≠ '/' :=
    List.forall_iff_forall_mem.mp (by decide)
  exact lexemesFrom_succ (listed c hc).1 (listed c hc).2 (scanLexeme_operator hc rest)

theorem follows_nil : Follows [] := by
  intro c hc
  cases hc

theorem follows_colon (rest : List Char) : Follows (':' :: rest) := by
  intro c hc
  cases hc
  decide

theorem WordForm.startsPunctuation_eq {word : List Char} (hw : WordForm word) (rest : List Char) :
    startsPunctuation (word ++ rest) = false := by
  cases hw with
  | plain starts => exact startsPunctuation_of_startsIdentifier _ starts
  | raw => exact startsPunctuation_of_startsIdentifier _ (identifier_of_mem_letters 'r' (by decide)).1

/-- The tokens of a joined text. Every lexeme is at least one character, so the length of the text is
enough steps; the induction carries whatever was assembled before. -/
theorem exists_moreNames {name : String} {rest : List String} (hw : WordForm name.toList)
    (hrest : ∀ next ∈ rest, WordForm next.toList) (steps : Nat) (place : Place)
    (enough : (joined name rest).length ≤ steps) :
    ∃ lexemes trees, lexemesFrom steps place (joined name rest) = some lexemes ∧
      MoreNames rest trees ∧
      ∀ current, Tree.assemble [] current lexemes =
        some (current.reverse ++ .token (.word name) ⟨place, place.after name.toList⟩ :: trees) := by
  have positive : ∀ {word : List Char}, WordForm word → 1 ≤ word.length := by
    intro word hw
    cases hw <;> simp
  induction rest generalizing name steps place with
  | nil =>
    obtain ⟨steps, rfl⟩ := Nat.exists_eq_add_of_le' (Nat.le_trans (positive hw) enough)
    have first : lexemesFrom (steps + 1) place (name.toList ++ []) = _ :=
      lexemesFrom_word hw follows_nil
    have none_left : ∀ place, lexemesFrom steps place [] = some [] := by
      intro place
      cases steps <;> rfl
    rw [List.append_nil, none_left, Option.map_some] at first
    refine ⟨_, [], first, .nil, fun current => ?_⟩
    simp [Tree.assemble]
  | cons next rest ih =>
    have hnext := hrest next (by simp)
    have count : (joined name (next :: rest)).length =
        name.toList.length + 2 + (joined next rest).length := by
      simp [joined]
      omega
    have hone := positive hw
    obtain ⟨steps, rfl⟩ : ∃ more, steps = more + 1 + 1 + 1 := ⟨steps - 3, by omega⟩
    generalize hfirst : place.after name.toList = first
    generalize hsecond : first.after [':'] = second
    obtain ⟨lexemes, trees, scanned, tokens, assembled⟩ :=
      ih hnext (fun other hm => hrest other (List.mem_cons_of_mem _ hm)) steps
        (second.after [':']) (by omega)
    have joint : startsPunctuation (':' :: joined next rest) = true := by
      change punctuation.contains ':' = true
      decide
    have apart : startsPunctuation (joined next rest) = false := by
      cases rest with
      | nil => simpa [joined] using hnext.startsPunctuation_eq []
      | cons other rest => exact hnext.startsPunctuation_eq _
    refine ⟨(.token (.word name), ⟨place, first⟩) :: (.token (.punct ":" true), ⟨first, second⟩) ::
      (.token (.punct ":" false), ⟨second, second.after [':']⟩) :: lexemes, _, ?_,
      .cons ⟨first, second⟩ ⟨second, second.after [':']⟩
        ⟨second.after [':'], (second.after [':']).after next.toList⟩ tokens, fun current => ?_⟩
    · rw [joined, lexemesFrom_word hw (follows_colon _), lexemesFrom_operator (by decide), lexemesFrom_operator (by decide), hfirst,
        hsecond, scanned, joint, apart]
      rfl
    · simp only [Tree.assemble, assembled, List.reverse_cons, List.append_assoc, List.cons_append,
        List.nil_append]

/-! ## From tokens to the path -/

/-- A word that may stand between the `::` of a path. -/
def IsSegmentWord (name : String) : Prop :=
  ["super", "self", "crate", "try", "Self"].contains name = true ∨ isKeyword name = false

namespace Read

theorem sees_bind {α : Type} (test : List Tree → Bool) (next : Bool → Read α)
    (trees : List Tree) : (sees test >>= next) trees = next (test trees) trees := rfl

theorem bind_of_eq {α β : Type} {reader : Read α} {next : α → Read β} {trees rest : List Tree}
    {answer : α} (h : reader trees = some (answer, rest)) :
    (reader >>= next) trees = next answer rest := by
  change (reader trees).bind _ = _
  rw [h]
  rfl

theorem repeatAtMost_of_stop {stop : List Tree → Bool} {reader : Read (List Tree)} {trees : List Tree}
    (h : stop trees = true) (limit : Nat) : repeatAtMost stop reader limit trees = some ([], trees) := by
  cases limit <;> rw [repeatAtMost, sees_bind, h] <;> rfl

theorem nextIf_eq_some {test : List Tree → Bool} {trees rest : List Tree} {tree : Tree} :
    nextIf test trees = some (tree, rest) ↔ test trees = true ∧ trees = tree :: rest := by
  unfold nextIf
  rw [sees_bind]
  by_cases passed : test trees = true
  · rw [if_pos passed]
    cases trees with
    | nil => simp [next, passed]
    | cons first more => simp [next, passed]
  · rw [if_neg passed]
    simp [fail, passed]

theorem isAnyWord_cons {tree : Tree} {rest : List Tree} :
    isAnyWord (tree :: rest) = true ↔ ∃ name place, tree = .token (.word name) place := by
  unfold isAnyWord
  constructor
  · intro word
    split at word
    · next same => exact ⟨_, _, (List.cons.inj same).1⟩
    · cases word
  · rintro ⟨name, place, rfl⟩
    rfl

theorem isName_cons {tree : Tree} {rest : List Tree} :
    isName (tree :: rest) = true ↔
      ∃ name place, tree = .token (.word name) place ∧ isKeyword name = false := by
  unfold isName
  constructor
  · intro word
    split at word
    · next same => exact ⟨_, _, (List.cons.inj same).1, by simpa using word⟩
    · cases word
  · rintro ⟨name, place, rfl, free⟩
    simp [free]

theorem all?_eq_some {α : Type} {reader : Read α} {trees : List Tree} {answer : α} :
    all? reader trees = some answer ↔ reader trees = some (answer, []) := by
  unfold all?
  constructor
  · intro found
    split at found
    · next read =>
      cases found
      exact read
    · cases found
  · intro read
    rw [read]

theorem name_word {name : String} (h : isKeyword name = false) (place : Span) (rest : List Tree) :
    Read.name (.token (.word name) place :: rest) = some (.token (.word name) place, rest) := by
  have front : isName (.token (.word name) place :: rest) = true := by simp [isName, h]
  unfold Read.name nextIf
  rw [sees_bind, front]
  rfl

end Read

namespace Grammar

open Read

theorem segment_word (self : Readers) {name : String} (h : IsSegmentWord name) (place : Span)
    {rest : List Tree} (bare : seesArguments .inType rest = false) :
    segment self .inType (.token (.word name) place :: rest) =
      some (.node .segment [.token (.word name) place], rest) := by
  unfold segment
  rw [sees_bind]
  by_cases stands : isWordOf ["super", "self", "crate", "try"] (.token (.word name) place :: rest) = true
  · rw [stands]
    rfl
  · rw [if_neg stands, sees_bind]
    by_cases own : isWord "Self" (.token (.word name) place :: rest) = true
    · have taken : anyWord (.token (.word name) place :: rest) =
          some (.token (.word name) place, rest) := rfl
      rw [if_pos own, bind_of_eq taken]
      beta_reduce
      rw [sees_bind, bare]
      rfl
    · have free : isKeyword name = false := by
        refine h.resolve_left fun listed => ?_
        simp only [isWordOf, isWord, List.contains_eq_mem, decide_eq_true_eq, List.mem_cons,
          List.not_mem_nil, or_false] at listed stands own
        grind
      rw [if_neg own, bind_of_eq (name_word free place rest)]
      beta_reduce
      rw [sees_bind, bare]
      rfl

/-- The tokens of a path without arguments, and the parts of its node. -/
inductive PathTokens : List Tree → List Tree → Prop
  | last {name : String} (word : IsSegmentWord name) (place : Span) :
    PathTokens [.token (.word name) place] [.node .segment [.token (.word name) place]]
  | more {name : String} (word : IsSegmentWord name) (place p q : Span) (joint : Bool)
    {tokens parts : List Tree} : PathTokens tokens parts →
      PathTokens (.token (.word name) place :: .token (.punct ":" true) p ::
          .token (.punct ":" joint) q :: tokens)
        (.node .segment [.token (.word name) place] :: .token (.punct "::" false) (p.join q) :: parts)

/-- The first segment is read, and then the segments after it. -/
theorem PathTokens.reads (self : Readers) {tokens parts rest : List Tree} (h : PathTokens tokens parts)
    (bare : seesArguments .inType rest = false) (ends : seesSegment rest = false) :
    ∃ first more, parts = first :: more ∧
      segment self .inType (tokens ++ rest) = some (first, tokens.tail ++ rest) ∧
      ∀ limit, tokens.length ≤ limit + 1 → repeatAtMost (fun trees => !seesSegment trees)
        (do return [← op "::", ← segment self .inType]) limit (tokens.tail ++ rest) =
          some (more, rest) := by
  induction h with
  | last word place =>
    refine ⟨_, _, rfl, segment_word self word place bare, fun limit _ => ?_⟩
    exact repeatAtMost_of_stop (by rw [List.tail_cons, List.nil_append, ends]; rfl) limit
  | @more name word place p q joint tokens parts after ih =>
    obtain ⟨first, more, rfl, read, others⟩ := ih
    refine ⟨_, _, rfl, segment_word self word place ?_, fun limit enough => ?_⟩
    · cases after <;> rfl
    · obtain ⟨limit, rfl⟩ : ∃ fewer, limit = fewer + 1 :=
        Nat.exists_eq_add_of_le' (by simp only [List.length_cons] at enough; omega)
      have taken : op "::" (.token (.punct ":" true) p :: .token (.punct ":" joint) q ::
          (tokens ++ rest)) = some (.token (.punct "::" false) (p.join q), tokens ++ rest) := rfl
      have on : (!seesSegment (.token (.punct ":" true) p :: .token (.punct ":" joint) q ::
          (tokens ++ rest))) = false := by
        cases after <;> rfl
      have both : (do return [← op "::", ← segment self .inType] : Read (List Tree))
          (.token (.punct ":" true) p :: .token (.punct ":" joint) q :: (tokens ++ rest)) =
          some ([.token (.punct "::" false) (p.join q), first], tokens.tail ++ rest) := by
        rw [bind_of_eq taken, bind_of_eq read]
        rfl
      have enough : tokens.length ≤ limit + 1 := by
        simp only [List.length_cons] at enough
        omega
      unfold repeatAtMost
      rw [List.tail_cons, List.cons_append, List.cons_append, sees_bind, on, if_neg Bool.false_ne_true,
        bind_of_eq both, bind_of_eq (others limit enough)]
      rfl

/-- A path without arguments is read up to what does not go on with it. -/
theorem path_of_tokens (self : Readers) {tokens parts rest : List Tree} (h : PathTokens tokens parts)
    (bare : seesArguments .inType rest = false) (ends : seesSegment rest = false) :
    path self .inType (tokens ++ rest) = some (.node .path parts, rest) := by
  obtain ⟨first, more, rfl, read, others⟩ := h.reads self bare ends
  have lead : opIf "::" (tokens ++ rest) = some ([], tokens ++ rest) := by
    cases h <;> rfl
  have enough : tokens.length ≤ (tokens.tail ++ rest).length + 1 + 1 := by
    rw [List.length_append, List.length_tail]
    omega
  have loop : repeatWhile seesSegment (do return [← op "::", ← segment self .inType])
      (tokens.tail ++ rest) = some (more, rest) := others _ enough
  have all : pathParts self .inType (tokens ++ rest) = some (first :: more, rest) := by
    unfold pathParts
    rw [bind_of_eq lead, bind_of_eq read, bind_of_eq loop]
    rfl
  rw [path, bind_of_eq all]
  rfl

theorem exists_pathTokens {name : String} {rest : List String} {trees : List Tree} (place : Span)
    (h : MoreNames rest trees) (word : IsSegmentWord name) (words : ∀ next ∈ rest, IsSegmentWord next) :
    ∃ parts, PathTokens (.token (.word name) place :: trees) parts ∧
      Tree.unplacedAll parts = Tree.spelledParts [] name rest := by
  induction h generalizing name place with
  | nil => exact ⟨_, .last word place, rfl⟩
  | @cons next rest trees p q r _ ih =>
    obtain ⟨parts, tokens, spelled⟩ := ih r (words next List.mem_cons_self) fun other hm =>
      words other (List.mem_cons_of_mem _ hm)
    refine ⟨_, .more word place p q false tokens, ?_⟩
    rw [Tree.spelledParts, ← spelled]
    rfl

/-- The path of names. -/
theorem path_names (self : Readers) {name : String} {rest : List String} {trees : List Tree}
    {place : Span} (h : MoreNames rest trees) (word : IsSegmentWord name)
    (words : ∀ next ∈ rest, IsSegmentWord next) :
    ∃ tree, path self .inType (.token (.word name) place :: trees) = some (tree, []) ∧
      tree.unplaced = Tree.spelled name rest [] := by
  obtain ⟨parts, tokens, spelled⟩ := exists_pathTokens place h word words
  refine ⟨.node .path parts, ?_, congrArg (Tree.node .path) spelled⟩
  simpa using path_of_tokens self tokens (rfl : seesArguments .inType [] = false) rfl

end Grammar

/-! ## From text to the path -/

/-- A word that may stand in a path: it scans as one word, and it is a name or stands for a module or
a type. -/
structure IsPathWord (name : String) : Prop where
  scans : scanWord name.toList = some (name.toList, [])
  stands : IsSegmentWord name

instance (name : String) : Decidable (IsPathWord name) :=
  decidable_of_iff (scanWord name.toList = some (name.toList, []) ∧
      (["super", "self", "crate", "try", "Self"].contains name = true ∨ isKeyword name = false))
    ⟨fun h => ⟨h.1, h.2⟩, fun h => ⟨h.scans, h.stands⟩⟩

theorem IsPathWord.ne_empty {name : String} (h : IsPathWord name) : name ≠ "" := by
  rintro rfl
  cases h.scans

theorem dropByteOrderMark_joined {name : String} (hw : WordForm name.toList) (rest : List String) :
    Tree.dropByteOrderMark (joined name rest) = joined name rest := by
  obtain ⟨c, cs, hname, starts⟩ := hw.exists_cons
  have mark := toNat_ne_of_startsIdentifier starts
  cases rest with
  | nil => rw [joined, hname, Tree.dropByteOrderMark, if_neg mark]
  | cons next rest => rw [joined, hname, List.cons_append, Tree.dropByteOrderMark, if_neg mark]

theorem text_ofSegments {name : String} {rest : List String} (hw : IsPathWord name)
    (hrest : ∀ next ∈ rest, IsPathWord next) :
    (Identity.ofSegments (name :: rest)).text = String.intercalate "::" (name :: rest) := by
  have kept : (name :: rest).filter (· ≠ "") = name :: rest := by
    rw [List.filter_eq_self]
    intro other hm
    rcases List.mem_cons.mp hm with rfl | hm
    · simpa using hw.ne_empty
    · simpa using (hrest other hm).ne_empty
  rw [Identity.ofSegments, kept]

/-- The tokens of joined words. -/
theorem exists_ofText? {name : String} {rest : List String} (hw : IsPathWord name)
    (hrest : ∀ next ∈ rest, IsPathWord next) :
    ∃ place trees, Tree.ofText? (String.intercalate "::" (name :: rest)) =
      some (.token (.word name) place :: trees) ∧ MoreNames rest trees := by
  have form := wordForm_of_scanWord hw.scans
  obtain ⟨found, trees, scanned, tokens, assembled⟩ :=
    exists_moreNames form (fun next hm => wordForm_of_scanWord (hrest next hm).scans)
      (joined name rest).length .start (Nat.le_refl _)
  refine ⟨⟨.start, Place.start.after name.toList⟩, trees, ?_, tokens⟩
  rw [Tree.ofText?, toList_intercalate, dropByteOrderMark_joined form, Tree.ofChars?, lexemes, scanned,
    Option.bind_some, assembled]
  rfl

/-- The identity of some names reads as the path of these names. -/
theorem exists_pathOfText? {name : String} {rest : List String} (hw : IsPathWord name)
    (hrest : ∀ next ∈ rest, IsPathWord next) :
    ∃ path, pathOfText? (Identity.ofSegments (name :: rest)).text = some path ∧
      path.unplaced = Tree.spelled name rest [] := by
  obtain ⟨place, trees, read_tokens, tokens⟩ := exists_ofText? hw hrest
  obtain ⟨path, read, spelled⟩ :=
    Grammar.path_names (readersFor (.token (.word name) place :: trees)) tokens hw.stands
      fun next hm => (hrest next hm).stands
  refine ⟨path, ?_, spelled⟩
  rw [pathOfText?, text_ofSegments hw hrest, read_tokens, Option.bind_some, Read.all?, read]

/-- Identities are equal only if their names are. -/
theorem ofSegments_inj {name other : String} {rest more : List String}
    (hn : ∀ word ∈ name :: rest, IsPathWord word) (ho : ∀ word ∈ other :: more, IsPathWord word)
    (h : Identity.ofSegments (name :: rest) = Identity.ofSegments (other :: more)) :
    name :: rest = other :: more := by
  obtain ⟨path, read, spelled⟩ := exists_pathOfText? (hn name (by simp))
    fun next hm => hn next (List.mem_cons_of_mem _ hm)
  obtain ⟨path', read', spelled'⟩ := exists_pathOfText? (ho other (by simp))
    fun next hm => ho next (List.mem_cons_of_mem _ hm)
  rw [h, read', Option.some.injEq] at read
  rw [← Tree.pathNames_spelled name rest [], ← Tree.pathNames_spelled other more [], ← spelled,
    ← spelled', read]

end RecordMapper.Code
