/-
Types that are made of paths with arguments, references, pointers, tuples, slices and arrays of a given
length are read again from their texts. What follows such a type in a text ends it, and what it starts with
tells it apart from the other things that may stand in its place, so that the reader goes the way by which
the type was read.
-/
import RecordMapper.Proofs.ScannedTexts

namespace RecordMapper.Code

open Read RecordMapper.Code.Tree

/-! ## Trees that differ in their places -/

/-- Trees that are the same but for their places. -/
def Alike (trees others : List Tree) : Prop :=
  unplacedAll trees = unplacedAll others

namespace Alike

variable {trees behind others : List Tree}

theorem eq_nil (h : Alike trees []) : trees = [] := by
  rw [Alike, unplacedAll_eq_map] at h
  exact List.map_eq_nil_iff.mp h

theorem append (h : Alike trees (behind ++ others)) :
    ∃ front back, trees = front ++ back ∧ Alike front behind ∧ Alike back others := by
  rw [Alike, unplacedAll_append, unplacedAll_eq_map trees, List.map_eq_append_iff] at h
  obtain ⟨front, back, rfl, first, second⟩ := h
  rw [← unplacedAll_eq_map] at first second
  exact ⟨front, back, rfl, first, second⟩

theorem token {t : Token} {place : Span} (h : Alike trees (.token t place :: others)) :
    ∃ other rest, trees = .token t other :: rest ∧ Alike rest others := by
  cases trees with
  | nil => cases h
  | cons tree rest =>
    obtain ⟨first, more⟩ := List.cons.inj h
    cases tree with
    | token u other =>
      cases first
      exact ⟨other, rest, rfl, more⟩
    | _ => cases first

theorem group {delimiter : Delimiter} {opening closing : Span} {inner : List Tree}
    (h : Alike trees (.group delimiter opening closing inner :: others)) :
    ∃ opener closer within rest, trees = .group delimiter opener closer within :: rest ∧
      Alike within inner ∧ Alike rest others := by
  cases trees with
  | nil => cases h
  | cons tree rest =>
    obtain ⟨first, more⟩ := List.cons.inj h
    cases tree with
    | group found opener closer within =>
      obtain ⟨rfl, -, -, same⟩ : found = delimiter ∧ _ := by
        simpa only [unplaced, Tree.group.injEq] using first
      exact ⟨opener, closer, within, rest, rfl, same, more⟩
    | _ => cases first

theorem node {role : Role} {parts : List Tree} (h : Alike trees (.node role parts :: others)) :
    ∃ within rest, trees = .node role within :: rest ∧ Alike within parts ∧ Alike rest others := by
  cases trees with
  | nil => cases h
  | cons tree rest =>
    obtain ⟨first, more⟩ := List.cons.inj h
    cases tree with
    | node found within =>
      obtain ⟨rfl, same⟩ : found = role ∧ _ := by simpa only [unplaced, Tree.node.injEq] using first
      exact ⟨within, rest, rfl, same, more⟩
    | _ => cases first

end Alike

/-! ## Plain types -/

/-- The parts of a plain type. -/
inductive PlainPart where
  | type
  /-- The types after the first comma of a tuple, with commas between them. -/
  | elements
  | segment
  /-- The segments of a path, joined by `::`. -/
  | segments
  | argument
  /-- The arguments between angle brackets, with commas between them; lifetimes stand first. -/
  | arguments (lifetimes : Bool)
  deriving DecidableEq, Repr

/-- An operator that was read from a source. -/
abbrev operatorAt (text : String) (place : Span) : Tree := .token (.punct text false) place

/-- One token, or none. -/
inductive Perhaps (good : Token → Prop) : List Tree → Prop
  | none : Perhaps good []
  | some {t : Token} (place : Span) : good t → Perhaps good [.token t place]

/-- A type does not start with `try`, which may only name a module inside another. -/
def StartsType : List Tree → Prop
  | .node .segment (.token (.word name) _ :: _) :: _ => name ≠ "try"
  | _ => False

theorem StartsType.append {front behind : List Tree} (h : StartsType front) : StartsType (front ++ behind) := by
  unfold StartsType at h
  split at h
  · exact h
  · exact h.elim

/-- The trees of types whose parts are all plain. -/
inductive Plain : PlainPart → List Tree → Prop
  | path {parts : List Tree} : StartsType parts → Plain .segments parts →
      Plain .type [.node .typePath [.node .path parts]]
  | absolute {parts : List Tree} (place : Span) : Plain .segments parts →
      Plain .type [.node .typePath [.node .path (operatorAt "::" place :: parts)]]
  | reference {type : Tree} {lifetime mutability : List Tree} (place : Span) :
      Perhaps (fun t => ∃ name, t = .lifetime name ∧ IsWordText name) lifetime →
      Perhaps (· = .word "mut") mutability → Plain .type [type] →
      Plain .type [.node .reference (operatorAt "&" place :: lifetime ++ mutability ++ [type])]
  | pointer {type : Tree} {name : String} (place other : Span) : name ∈ ["const", "mut"] →
      Plain .type [type] →
      Plain .type [.node .pointer [operatorAt "*" place, .token (.word name) other, type]]
  | unit (opening closing : Span) : Plain .type [.node .tuple [.group .paren opening closing []]]
  | tuple {type : Tree} {elements : List Tree} (opening closing place : Span) : Plain .type [type] →
      Plain .elements elements →
      Plain .type [.node .tuple [.group .paren opening closing
        (type :: operatorAt "," place :: elements)]]
  | paren {type : Tree} (opening closing : Span) : Plain .type [type] →
      Plain .type [.node .paren [.group .paren opening closing [type]]]
  | slice {type : Tree} (opening closing : Span) : Plain .type [type] →
      Plain .type [.node .slice [.group .bracket opening closing [type]]]
  | array {type : Tree} {digits : String} (opening closing place other : Span) : IsNumberText digits →
      Plain .type [type] →
      Plain .type [.node .array [.group .bracket opening closing
        [type, operatorAt ";" place, .token (.literal .integer digits) other]]]
  | never (place : Span) : Plain .type [operatorAt "!" place]
  | inferred (place : Span) : Plain .type [.token (.word "_") place]
  | noElements : Plain .elements []
  | lastElement {type : Tree} : Plain .type [type] → Plain .elements [type]
  | element {type : Tree} {elements : List Tree} (place : Span) : Plain .type [type] →
      Plain .elements elements → Plain .elements (type :: operatorAt "," place :: elements)
  | bare {name : String} (place : Span) : IsPathWord name →
      Plain .segment [.node .segment [.token (.word name) place]]
  | applied {name : String} {colons arguments : List Tree} (place opening closing : Span) :
      IsWordText name → name = "Self" ∨ isKeyword name = false →
      Perhaps (· = .punct "::" false) colons → Plain (.arguments true) arguments →
      Plain .segment [.node .segment [.token (.word name) place, .node .angleArguments
        (colons ++ operatorAt "<" opening :: arguments ++ [operatorAt ">" closing])]]
  | lastSegment {segment : Tree} : Plain .segment [segment] → Plain .segments [segment]
  | moreSegments {segment : Tree} {parts : List Tree} (place : Span) : Plain .segment [segment] →
      Plain .segments parts → Plain .segments (segment :: operatorAt "::" place :: parts)
  | typeArgument {type : Tree} : Plain .type [type] → Plain .argument [type]
  | constant {digits : String} (place : Span) : IsNumberText digits →
      Plain .argument [.node .constArgument [.token (.literal .integer digits) place]]
  | noArguments (lifetimes : Bool) : Plain (.arguments lifetimes) []
  | lastLifetime {name : String} (place : Span) : IsWordText name →
      Plain (.arguments true) [.token (.lifetime name) place]
  | lifetime {name : String} {arguments : List Tree} (place comma : Span) : IsWordText name →
      Plain (.arguments true) arguments →
      Plain (.arguments true) (.token (.lifetime name) place :: operatorAt "," comma :: arguments)
  | lastArgument {argument : Tree} (lifetimes : Bool) : Plain .argument [argument] →
      Plain (.arguments lifetimes) [argument]
  | moreArguments {argument : Tree} {arguments : List Tree} (lifetimes : Bool) (comma : Span) :
      Plain .argument [argument] → Plain (.arguments false) arguments →
      Plain (.arguments lifetimes) (argument :: operatorAt "," comma :: arguments)

/-- What may follow the name of a segment: nothing, or plain arguments. -/
inductive PlainArguments : List Tree → Prop
  | none : PlainArguments []
  | some {colons arguments : List Tree} (opening closing : Span) :
      Perhaps (· = .punct "::" false) colons → Plain (.arguments true) arguments →
      PlainArguments [.node .angleArguments
        (colons ++ operatorAt "<" opening :: arguments ++ [operatorAt ">" closing])]

/-- A name that may take arguments makes a plain segment with any. -/
theorem PlainArguments.segment {arguments : List Tree} (h : PlainArguments arguments) {name : String}
    (word : IsWordText name) (free : name = "Self" ∨ isKeyword name = false) (place : Span) :
    Plain .segment [.node .segment (.token (.word name) place :: arguments)] := by
  cases h with
  | none => exact .bare place ⟨word, free.imp (by rintro rfl; decide) id⟩
  | some opening closing front plain => exact .applied place opening closing word free front plain

/-! ## Tokens -/

theorem Perhaps.tokensOf_eq {good : Token → Prop} {trees : List Tree} (h : Perhaps good trees)
    (whole : ∀ text joint, ¬good (.punct text joint)) : tokensOf trees = trees := by
  cases h with
  | none => rfl
  | @some t place own =>
    cases t with
    | punct text joint => exact absurd own (whole text joint)
    | _ => rfl

theorem tokensOf_append (front back : List Tree) :
    tokensOf (front ++ back) = tokensOf front ++ tokensOf back := by
  induction front with
  | nil => rfl
  | cons tree front ih => rw [List.cons_append, tokensOf, tokensOf, ih, List.append_assoc]

theorem tokensOf_node (role : Role) (parts : List Tree) : tokensOf [.node role parts] = tokensOf parts :=
  List.append_nil _

theorem tokensOf_cons (tree : Tree) (trees : List Tree) :
    tokensOf (tree :: trees) = tokensOf [tree] ++ tokensOf trees :=
  tokensOf_append [tree] trees

theorem legibleAll_append {front back : List Tree} :
    LegibleAll (front ++ back) ↔ LegibleAll front ∧ LegibleAll back := by
  induction front with
  | nil => simp [LegibleAll]
  | cons tree front ih => rw [List.cons_append, LegibleAll, LegibleAll, ih, and_assoc]

section Alike

variable {tokens others : List Tree} {role : Role} {tree : Tree}

/-- The tokens of a tree that is a group on its own. -/
theorem Alike.enclosed {delimiter : Delimiter} {opening closing : Span} {inner : List Tree}
    (h : Alike tokens (tokensOf [.node role [.group delimiter opening closing inner]])) :
    ∃ p q within, tokens = [.group delimiter p q within] ∧ Alike within (tokensOf inner) := by
  rw [tokensOf_node] at h
  obtain ⟨p, q, within, rest, rfl, inside, nothing⟩ := h.group
  obtain rfl := nothing.eq_nil
  exact ⟨p, q, within, rfl, inside⟩

/-- The tokens of a tree in front of a mark, and those behind it. -/
theorem Alike.separated {mark : String} {place : Span}
    (single : (operatorAt mark place).tokens = [operatorAt mark place])
    (h : Alike tokens (tokensOf (tree :: operatorAt mark place :: others))) :
    ∃ front p behind, tokens = front ++ operatorAt mark p :: behind ∧ Alike front (tokensOf [tree]) ∧
      Alike behind (tokensOf others) := by
  rw [tokensOf_cons] at h
  obtain ⟨front, back, rfl, first, second⟩ := h.append
  rw [tokensOf, single] at second
  obtain ⟨p, behind, rfl, rest⟩ := Alike.token second
  exact ⟨front, p, behind, rfl, first, rest⟩

end Alike

theorem Perhaps.legibleAll {good : Token → Prop} {trees : List Tree} (h : Perhaps good trees)
    (legible : ∀ t, good t → t.Legible) : LegibleAll trees := by
  cases h with
  | none => trivial
  | some place own => exact ⟨legible _ own, trivial⟩

theorem legible_operatorAt {text : String} (all : text.toList.Forall (· ∈ operatorCharacters))
    (place : Span) : (operatorAt text place).Legible :=
  ⟨rfl, List.forall_iff_forall_mem.mp all⟩

/-- Plain types are scanned again from their texts. -/
theorem Plain.legibleAll {part : PlainPart} {trees : List Tree} (h : Plain part trees) :
    LegibleAll trees := by
  have colons (place : Span) := @legible_operatorAt "::" (by decide) place
  have comma (place : Span) := @legible_operatorAt "," (by decide) place
  induction h with
  | path _ _ ih => exact ⟨⟨ih, trivial⟩, trivial⟩
  | absolute place _ ih => exact ⟨⟨⟨colons place, ih⟩, trivial⟩, trivial⟩
  | @reference type front mutability place lifetime mutable _ ih =>
    have quoted := lifetime.legibleAll fun t => by
      rintro ⟨name, rfl, word⟩
      exact word
    have marked := mutable.legibleAll fun t => by
      rintro rfl
      change scanWord "mut".toList = _
      decide +kernel
    refine ⟨⟨@legible_operatorAt "&" (by decide) place, ?_⟩, trivial⟩
    change LegibleAll (front ++ mutability ++ [type])
    rw [List.append_assoc, legibleAll_append, legibleAll_append]
    exact ⟨quoted, marked, ih⟩
  | @pointer _ name place other word _ ih =>
    have scans : IsWordText name := by
      have each : ∀ name ∈ ["const", "mut"], scanWord name.toList = some (name.toList, []) := by
        decide +kernel
      exact each name word
    exact ⟨⟨@legible_operatorAt "*" (by decide) place, scans, ih⟩, trivial⟩
  | unit => exact ⟨⟨⟨by decide, trivial⟩, trivial⟩, trivial⟩
  | tuple opening closing place _ _ ih others =>
    exact ⟨⟨⟨by decide, ih.1, comma place, others⟩, trivial⟩, trivial⟩
  | paren opening closing _ ih => exact ⟨⟨⟨by decide, ih⟩, trivial⟩, trivial⟩
  | slice opening closing _ ih => exact ⟨⟨⟨by decide, ih⟩, trivial⟩, trivial⟩
  | array opening closing place other number _ ih =>
    have semicolon := @legible_operatorAt ";" (by decide) place
    exact ⟨⟨⟨by decide, ih.1, semicolon, ⟨rfl, number⟩, trivial⟩, trivial⟩, trivial⟩
  | never place => exact ⟨@legible_operatorAt "!" (by decide) place, trivial⟩
  | inferred place =>
    refine ⟨?_, trivial⟩
    change scanWord "_".toList = _
    decide +kernel
  | noElements => trivial
  | lastElement _ ih => exact ih
  | element place _ _ ih others => exact ⟨ih.1, comma place, others⟩
  | bare place word => exact ⟨⟨word.scans, trivial⟩, trivial⟩
  | applied place opening closing word _ front _ ih =>
    have leading := front.legibleAll fun t => by
      rintro rfl
      exact colons .none
    refine ⟨⟨word, ?_, trivial⟩, trivial⟩
    change LegibleAll _
    rw [List.append_assoc, legibleAll_append]
    refine ⟨leading, @legible_operatorAt "<" (by decide) opening, legibleAll_append.mpr ⟨ih, ?_⟩⟩
    exact ⟨@legible_operatorAt ">" (by decide) closing, trivial⟩
  | lastSegment _ ih => exact ih
  | moreSegments place _ _ ih others => exact ⟨ih.1, colons place, others⟩
  | typeArgument _ ih => exact ih
  | constant place number => exact ⟨⟨⟨rfl, number⟩, trivial⟩, trivial⟩
  | noArguments => trivial
  | lastLifetime place word => exact ⟨word, trivial⟩
  | lifetime place at' word _ ih => exact ⟨word, comma at', ih⟩
  | lastArgument _ _ ih => exact ih
  | moreArguments _ at' _ _ ih others => exact ⟨ih.1, comma at', others⟩

/-! ## What stands around a type -/

/-- What may follow a type in the text of a type: nothing, or what ends it in a list or a group. -/
def EndsType (rest : List Tree) : Prop :=
  rest = [] ∨ ∃ mark ∈ [",", ">", ";"], ∃ place more, rest = operatorAt mark place :: more

theorem endsType_nil : EndsType [] := .inl rfl

theorem endsType_comma (place : Span) (more : List Tree) : EndsType (operatorAt "," place :: more) :=
  .inr ⟨",", by decide, place, more, rfl⟩

theorem endsType_closing (place : Span) (more : List Tree) : EndsType (operatorAt ">" place :: more) :=
  .inr ⟨">", by decide, place, more, rfl⟩

theorem endsType_semicolon (place : Span) (more : List Tree) : EndsType (operatorAt ";" place :: more) :=
  .inr ⟨";", by decide, place, more, rfl⟩

/-- None of what could continue a type follows it. -/
structure Stopped (rest : List Tree) : Prop where
  arguments : Grammar.seesArguments .inType rest = false
  segment : Grammar.seesSegment rest = false
  bang : Grammar.seesBang rest = false
  plus : isOp "+" rest = false
  equals : isOp "=" rest = false
  colon : isOp ":" rest = false

theorem EndsType.stopped {rest : List Tree} (h : EndsType rest) : Stopped rest := by
  obtain rfl | ⟨mark, listed, place, more, rfl⟩ := h
  · exact ⟨rfl, rfl, rfl, rfl, rfl, rfl⟩
  · simp only [List.mem_cons, List.not_mem_nil, or_false] at listed
    rcases listed with rfl | rfl | rfl <;> exact ⟨rfl, rfl, rfl, rfl, rfl, rfl⟩

/-- A type stands in front, and nothing else that may stand in its place. -/
structure TypeFront (trees : List Tree) : Prop where
  some : atEnd trees = false
  lifetime : isLifetime trees = false
  const : Grammar.seesConst trees = false
  question : isOp "?" trees = false
  closing : isOp ">" trees = false
  mutable : isWord "mut" trees = false

/-- A word that may stand in a path is none of the keywords that start something else. -/
theorem IsSegmentWord.ne {name : String} (h : IsSegmentWord name) (word : String)
    (other : word ∈ ["for", "fn", "unsafe", "extern", "true", "false", "mut", "dyn"]) : name ≠ word := by
  rintro rfl
  have none_stands : ∀ word ∈ ["for", "fn", "unsafe", "extern", "true", "false", "mut", "dyn"],
      ["super", "self", "crate", "try", "Self"].contains word = false ∧ isKeyword word = true := by decide
  obtain ⟨off, keyword⟩ := none_stands name other
  rcases h with h | h
  · rw [off] at h
    cases h
  · rw [keyword] at h
    cases h

theorem typeFront_word {name : String} (h : IsSegmentWord name) (place : Span) (rest : List Tree) :
    TypeFront (.token (.word name) place :: rest) where
  some := rfl
  lifetime := rfl
  const := by
    have literal : isLiteral (.token (.word name) place :: rest) = false := by
      simp [isLiteral, isWordOf, h.ne "true" (by decide), h.ne "false" (by decide),
        isOp, startsOperator]
    rw [Grammar.seesConst, literal]
    rfl
  question := rfl
  closing := rfl
  mutable := by simp [isWord, h.ne "mut" (by decide)]

/-- A segment starts with a word. -/
theorem Plain.exists_word {segment : Tree} (h : Plain .segment [segment]) :
    ∃ name place parts, segment = .node .segment (.token (.word name) place :: parts) ∧
      IsSegmentWord name := by
  cases h with
  | bare place word => exact ⟨_, place, [], rfl, word.stands⟩
  | applied place opening closing word free =>
    refine ⟨_, place, _, rfl, ?_⟩
    rcases free with rfl | free
    · exact .inl (by decide)
    · exact .inr free

theorem Plain.exists_words {parts : List Tree} (h : Plain .segments parts) :
    ∃ name place arguments more, parts = .node .segment (.token (.word name) place :: arguments) :: more ∧
      IsSegmentWord name := by
  cases h with
  | lastSegment segment =>
    obtain ⟨name, place, arguments, rfl, word⟩ := segment.exists_word
    exact ⟨name, place, arguments, [], rfl, word⟩
  | moreSegments at' segment =>
    obtain ⟨name, place, arguments, rfl, word⟩ := segment.exists_word
    exact ⟨name, place, arguments, _, rfl, word⟩

/-- The tokens of a path start with its first word. -/
theorem Plain.exists_tokens {parts tokens : List Tree} (h : Plain .segments parts)
    (same : Alike tokens (tokensOf parts)) :
    ∃ name place more, tokens = .token (.word name) place :: more ∧ IsSegmentWord name ∧
      (StartsType parts → name ≠ "try") := by
  obtain ⟨name, place, arguments, more, rfl, word⟩ := h.exists_words
  have same : Alike tokens (.token (.word name) place :: _) := same
  obtain ⟨other, rest, rfl, -⟩ := same.token
  exact ⟨name, other, rest, rfl, word, fun starts => starts⟩

/-- The tokens of a type tell it apart. -/
theorem Plain.typeFront {type : Tree} {tokens : List Tree} (h : Plain .type [type])
    (same : Alike tokens (tokensOf [type])) (rest : List Tree) : TypeFront (tokens ++ rest) := by
  cases h with
  | @path parts _ segments =>
    have whole : tokensOf [.node .typePath [.node .path parts]] = tokensOf parts := by
      simp [tokensOf, Tree.tokens]
    rw [whole] at same
    obtain ⟨name, place, more, rfl, word, -⟩ := segments.exists_tokens same
    exact typeFront_word word place _
  | absolute | reference | pointer | never | inferred =>
    obtain ⟨_, _, rfl, -⟩ := Alike.token same
    exact ⟨rfl, rfl, rfl, rfl, rfl, rfl⟩
  | unit | tuple | paren | slice | array =>
    obtain ⟨_, _, _, _, rfl, -⟩ := Alike.group same
    exact ⟨rfl, rfl, rfl, rfl, rfl, rfl⟩

/-- No plain type is taken for a lifetime. -/
theorem Plain.isLifetimeArgument_eq {type argument : Tree} (h : Plain .type [type])
    (same : Alike [argument] [type]) : Grammar.isLifetimeArgument argument = false := by
  cases h with
  | never | inferred =>
    obtain ⟨_, _, own, -⟩ := same.token
    obtain rfl := List.head_eq_of_cons_eq own
    rfl
  | _ =>
    obtain ⟨_, _, own, -⟩ := same.node
    obtain rfl := List.head_eq_of_cons_eq own
    rfl

end RecordMapper.Code
