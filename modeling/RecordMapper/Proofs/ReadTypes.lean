/-
A type that the grammar reads from a source is plain if only nodes of plain types occur in it. Such nodes are
told by their roles and, where a number has to stand in them, by that number. The grammar is followed from the
marks and words that it takes to the nodes that it makes of them; whatever else it makes has another role, and
the types inside a type are read with one level less.
-/
import RecordMapper.Proofs.DeclaredNames
import RecordMapper.Proofs.PlainTypes

namespace RecordMapper

open Code

namespace Code

open Read RecordMapper.Code.Tree

/-! ## Nodes of plain types -/

namespace Tree

/-- Whether a tree is a number of digits. -/
def isCount : Tree → Bool
  | .token (.literal .integer digits) _ => digits.toList ≠ [] && digits.toList.all Char.isDigit
  | _ => false

/-- Whether a node of a role and some parts may occur in a plain type. -/
def isPlainNode : Role → List Tree → Bool
  | .typePath, _ | .path, _ | .segment, _ | .angleArguments, _ | .reference, _ | .pointer, _ | .tuple, _
  | .paren, _ | .slice, _ => true
  | .array, [.group _ _ _ [_, _, count]] => count.isCount
  | .constArgument, [count] => count.isCount
  | _, _ => false

mutual

/-- Whether only nodes of plain types occur in a tree. -/
def hasPlainNodes : Tree → Bool
  | token .. => true
  | group _ _ _ inner => havePlainNodes inner
  | node role parts => isPlainNode role parts && havePlainNodes parts

/-- Whether only nodes of plain types occur in several trees. -/
def havePlainNodes : List Tree → Bool
  | [] => true
  | tree :: rest => hasPlainNodes tree && havePlainNodes rest

end

theorem exists_digits_of_isCount {count : Tree} (h : count.isCount = true) :
    ∃ digits place, count = .token (.literal .integer digits) place ∧ IsNumberText digits := by
  unfold isCount at h
  split at h
  · simp only [ne_eq, decide_not, Bool.and_eq_true, Bool.not_eq_true', decide_eq_false_iff_not,
      List.all_eq_true] at h
    exact ⟨_, _, rfl, h.1, h.2⟩
  · cases h

theorem havePlainNodes_iff {trees : List Tree} :
    havePlainNodes trees = true ↔ ∀ tree ∈ trees, tree.hasPlainNodes = true := by
  induction trees with
  | nil => simp [havePlainNodes]
  | cons tree trees ih => rw [havePlainNodes, Bool.and_eq_true, ih, List.forall_mem_cons]

theorem hasPlainNodes_node {role : Role} {parts : List Tree} :
    hasPlainNodes (.node role parts) = true ↔
      isPlainNode role parts = true ∧ ∀ part ∈ parts, part.hasPlainNodes = true := by
  rw [hasPlainNodes, Bool.and_eq_true, havePlainNodes_iff]

theorem hasPlainNodes_group {delimiter : Delimiter} {opening closing : Span} {inner : List Tree} :
    hasPlainNodes (.group delimiter opening closing inner) = true ↔
      ∀ tree ∈ inner, tree.hasPlainNodes = true := by
  rw [hasPlainNodes, havePlainNodes_iff]

end Tree

/-- Trees are a part of a plain type if only nodes of plain types occur in them. -/
def PlainByNodes (part : PlainPart) (trees : List Tree) : Prop :=
  (∀ tree ∈ trees, tree.hasPlainNodes = true) → Plain part trees

section Nodes

variable {part : PlainPart} {role : Role} {parts : List Tree}

theorem PlainByNodes.node
    (h : isPlainNode role parts = true → (∀ part ∈ parts, part.hasPlainNodes = true) →
      Plain part [.node role parts]) : PlainByNodes part [.node role parts] := by
  intro plain
  obtain ⟨own, inside⟩ := hasPlainNodes_node.mp (plain _ List.mem_cons_self)
  exact h own inside

/-- Nodes that occur in no plain type say nothing. -/
theorem PlainByNodes.of_other (h : isPlainNode role parts = false) : PlainByNodes part [.node role parts] :=
  .node fun own => absurd (h.symm.trans own) Bool.false_ne_true

theorem PlainByNodes.enclosed {delimiter : Delimiter} {opening closing : Span}
    (h : isPlainNode role [.group delimiter opening closing parts] = true →
      (∀ part ∈ parts, part.hasPlainNodes = true) →
        Plain part [.node role [.group delimiter opening closing parts]]) :
    PlainByNodes part [.node role [.group delimiter opening closing parts]] :=
  .node fun own inside => h own (hasPlainNodes_group.mp (inside _ List.mem_cons_self))

end Nodes

section Marked

variable {mark word type : Tree}

theorem PlainByNodes.pointer (marked : ∃ place, mark = operatorAt "*" place)
    (spelled : ∃ name ∈ ["const", "mut"], ∃ place, word = .token (.word name) place)
    (plain : PlainByNodes .type [type]) : PlainByNodes .type [.node .pointer [mark, word, type]] := by
  obtain ⟨place, rfl⟩ := marked
  obtain ⟨name, listed, other, rfl⟩ := spelled
  refine .node fun _ inside => .pointer place other listed (plain ?_)
  exact (List.forall_mem_cons.mp (List.forall_mem_cons.mp inside).2).2

theorem PlainByNodes.reference {quoted mutability : List Tree} (marked : ∃ place, mark = operatorAt "&" place)
    (lifetime : Perhaps (fun t => ∃ name, t = .lifetime name ∧ IsWordText name) quoted)
    (mutable : Perhaps (· = .word "mut") mutability) (plain : PlainByNodes .type [type]) :
    PlainByNodes .type [.node .reference (mark :: quoted ++ mutability ++ [type])] := by
  obtain ⟨place, rfl⟩ := marked
  refine .node fun _ inside => .reference place lifetime mutable (plain ?_)
  exact fun tree hm => inside tree (List.mem_append_right _ hm)

end Marked

/-! ## Readers where a test passes -/

namespace Read

/-- Where the front passes a test, every answer of a reader about the trees of a source is good. -/
def GivesWhere {α : Type} (test : List Tree → Bool) (reader : Read α) (good : α → Prop) : Prop :=
  ∀ trees answer rest, test trees = true → (∀ tree ∈ trees, tree.Scans) →
    reader trees = some (answer, rest) → good answer

section Answers

variable {α β : Type} {test : List Tree → Bool} {middle : α → Prop} {good : β → Prop}

theorem Gives.everywhere {reader : Read β} (h : reader.Gives good) : reader.GivesWhere test good :=
  fun _ _ _ _ => h _ _ _

theorem GivesWhere.weaken {other : List Tree → Bool} {reader : Read β} (h : reader.GivesWhere test good)
    (passes : ∀ trees, other trees = true → test trees = true) : reader.GivesWhere other good :=
  fun _ _ _ passed => h _ _ _ (passes _ passed)

theorem GivesWhere.bind {reader : Read α} [Consumes reader] {next : α → Read β}
    (h : reader.GivesWhere test middle) (hn : ∀ answer, middle answer → (next answer).Gives good) :
    (reader >>= next).GivesWhere test good := by
  intro trees answer rest passed scans found
  obtain ⟨⟨first, between⟩, read, found⟩ := Option.bind_eq_some_iff.mp found
  have left := (Consumes.suffix read).subset
  exact hn first (h _ _ _ passed scans read) _ _ _ (fun tree hm => scans tree (left hm)) found

theorem Gives.ifSees {first second : Read β} (hf : first.GivesWhere test good) (hs : second.Gives good) :
    Gives (do if ← sees test then first else second) good := by
  intro trees answer rest scans found
  rw [sees_bind] at found
  split at found
  · next passed => exact hf _ _ _ passed scans found
  · exact hs _ _ _ scans found

end Answers

section Tokens

variable {test : List Tree → Bool} {reader : Read Tree} {good : Token → Prop}

/-- What a test lets pass, scanned from the source. -/
theorem Gives.nextIf (test : List Tree → Bool) :
    (Read.nextIf test).Gives fun tree => tree.Scans ∧ ∃ rest, test (tree :: rest) = true := by
  intro trees tree rest scans found
  obtain ⟨passed, rfl⟩ := nextIf_eq_some.mp found
  exact ⟨scans _ List.mem_cons_self, rest, passed⟩

theorem Gives.lifetime : Read.lifetime.Gives fun tree => ∃ t place, tree = .token t place ∧
    ∃ name, t = .lifetime name ∧ IsWordText name := by
  intro trees tree rest scans found
  obtain ⟨own, rest, passed⟩ := Gives.nextIf _ _ _ _ scans found
  unfold isLifetime at passed
  split at passed
  · next same =>
    obtain ⟨rfl, -⟩ := List.cons.inj same
    cases own with
    | token _ word => exact ⟨_, _, rfl, _, rfl, word⟩
  · cases passed

theorem Gives.perhaps [Consumes reader]
    (h : reader.Gives fun tree => ∃ t place, tree = .token t place ∧ good t) :
    (whenSees test reader).Gives (Perhaps good) := by
  refine .last fun _ => .ite (h.bind ?_) (.pure .none)
  rintro _ ⟨t, place, rfl, own⟩
  exact .pure (.some place own)

end Tokens

end Read

/-! ## Arguments -/

/-- Arguments with the commas after them; only the last may be without. -/
inductive Separated : List (Tree × List Tree) → Prop
  | nil : Separated []
  | last (argument : Tree) : Separated [(argument, [])]
  | cons (argument : Tree) (place : Span) {arguments : List (Tree × List Tree)} : Separated arguments →
      Separated ((argument, [operatorAt "," place]) :: arguments)

/-- A lifetime among arguments. -/
def IsLifetimeToken (tree : Tree) : Prop :=
  ∃ name place, tree = .token (.lifetime name) place ∧ IsWordText name

namespace Separated

variable {arguments : List (Tree × List Tree)} {lifetimes : Bool}

theorem filter (h : Separated arguments) (keep : Tree × List Tree → Bool) :
    Separated (arguments.filter keep) := by
  induction h with
  | nil => exact .nil
  | last argument =>
    rw [List.filter_cons]
    split
    · exact .last argument
    · exact .nil
  | cons argument place _ ih =>
    rw [List.filter_cons]
    split
    · exact .cons argument place ih
    · exact ih

/-- Either all arguments have a comma, or all but the last. -/
theorem commas (h : Separated arguments) :
    ∃ front, (∀ argument ∈ front, ∃ place, argument.2 = [operatorAt "," place]) ∧
      (arguments = front ∨ ∃ last, arguments = front ++ [(last, [])]) := by
  induction h with
  | nil => exact ⟨[], by simp, .inl rfl⟩
  | last argument => exact ⟨[], by simp, .inr ⟨argument, rfl⟩⟩
  | cons argument place _ ih =>
    obtain ⟨front, each, split⟩ := ih
    refine ⟨(argument, _) :: front, List.forall_mem_cons.mpr ⟨⟨place, rfl⟩, each⟩, ?_⟩
    exact split.imp (congrArg _) fun ⟨final, same⟩ => ⟨final, congrArg _ same⟩

theorem plain (h : Separated arguments) (each : ∀ argument ∈ arguments, Plain .argument [argument.1]) :
    Plain (.arguments lifetimes) (arguments.flatMap fun argument => argument.1 :: argument.2) := by
  induction h generalizing lifetimes with
  | nil => exact .noArguments lifetimes
  | last argument => exact .lastArgument lifetimes (each _ List.mem_cons_self)
  | cons argument place _ ih =>
    obtain ⟨own, others⟩ := List.forall_mem_cons.mp each
    exact .moreArguments lifetimes place own (ih others)

end Separated

/-- Lifetimes with commas stand before other arguments. -/
theorem plain_lifetimes {lifetimes : List (Tree × List Tree)} {behind : List Tree}
    (commas : ∀ argument ∈ lifetimes, ∃ place, argument.2 = [operatorAt "," place])
    (each : ∀ argument ∈ lifetimes, IsLifetimeToken argument.1) (plain : Plain (.arguments true) behind) :
    Plain (.arguments true) ((lifetimes.flatMap fun argument => argument.1 :: argument.2) ++ behind) := by
  induction lifetimes with
  | nil => exact plain
  | cons first lifetimes ih =>
    obtain ⟨argument, comma⟩ := first
    obtain ⟨⟨place, rfl⟩, others⟩ := List.forall_mem_cons.mp commas
    obtain ⟨⟨name, at', rfl, word⟩, rest⟩ := List.forall_mem_cons.mp each
    exact .lifetime at' place word (ih others rest)

theorem mem_lifetimesFirst {arguments : List (Tree × List Tree)} {argument : Tree × List Tree}
    (h : argument ∈ arguments) : argument.1 ∈ Grammar.lifetimesFirst arguments := by
  unfold Grammar.lifetimesFirst
  simp only [List.mem_append, List.mem_flatMap, List.mem_filter]
  cases kind : Grammar.isLifetimeArgument argument.1 with
  | false => exact .inr ⟨argument, ⟨h, by rw [kind]; rfl⟩, List.mem_cons_self⟩
  | true => exact .inl (.inl ⟨argument, ⟨h, kind⟩, List.mem_cons_self⟩)

theorem Plain.isLifetimeArgument {argument : Tree} (h : Plain .argument [argument]) :
    Grammar.isLifetimeArgument argument = false := by
  cases h with
  | typeArgument type => exact type.isLifetimeArgument_eq rfl
  | constant => rfl

/-- Lifetimes and plain arguments in any order are plain with the lifetimes first. -/
theorem Separated.plain_lifetimesFirst {arguments : List (Tree × List Tree)} (h : Separated arguments)
    (each : ∀ argument ∈ arguments, IsLifetimeToken argument.1 ∨ Plain .argument [argument.1]) :
    Plain (.arguments true) (Grammar.lifetimesFirst arguments) := by
  have lifetimes : ∀ argument ∈ arguments.filter (Grammar.isLifetimeArgument ·.1),
      IsLifetimeToken argument.1 := by
    intro argument hm
    obtain ⟨hm, kind⟩ := List.mem_filter.mp hm
    refine (each argument hm).resolve_right fun plain => ?_
    rw [plain.isLifetimeArgument] at kind
    cases kind
  have others : Plain (.arguments true) ((arguments.filter (!Grammar.isLifetimeArgument ·.1)).flatMap
      fun argument => argument.1 :: argument.2) := by
    refine (h.filter _).plain fun argument hm => ?_
    obtain ⟨hm, kind⟩ := List.mem_filter.mp hm
    refine (each argument hm).resolve_left ?_
    rintro ⟨name, place, same, -⟩
    rw [same] at kind
    cases kind
  obtain ⟨front, commas, same⟩ := (h.filter (Grammar.isLifetimeArgument ·.1)).commas
  unfold Grammar.lifetimesFirst
  dsimp only
  rcases same with same | ⟨final, same⟩
  · -- every lifetime has its own comma, and none is supplied
    rw [same] at lifetimes ⊢
    have own : ∀ bare, front.getLast? ≠ some (bare, []) := by
      intro bare found
      obtain ⟨place, same⟩ := commas _ (List.mem_of_getLast? found)
      cases same
    split
    · next found _ => exact absurd found (own _)
    · rw [List.append_nil]
      exact plain_lifetimes commas lifetimes others
  · rw [same] at lifetimes ⊢
    obtain ⟨inFront, last⟩ := List.forall_mem_append.mp lifetimes
    obtain ⟨name, place, rfl, word⟩ := List.forall_mem_singleton.mp last
    rw [List.getLast?_concat, List.flatMap_append, List.append_assoc, List.append_assoc]
    refine plain_lifetimes commas inFront ?_
    cases behind : arguments.filter (!Grammar.isLifetimeArgument ·.1) with
    | nil => exact .lastLifetime place word
    | cons =>
      rw [behind] at others
      exact .lifetime place .none word others

namespace Grammar

/-- An argument of a source: a lifetime, or one that is plain if only nodes of plain types occur in it. -/
def IsReadArgument (tree : Tree) : Prop :=
  IsLifetimeToken tree ∨ PlainByNodes .argument [tree]

theorem gives_mark (text : String) : (op text).Gives fun tree => ∃ place, tree = operatorAt text place :=
  .of_yields (.op text)

theorem gives_opIf (text : String) : (opIf text).Gives (Perhaps (· = .punct text false)) := by
  refine Gives.perhaps fun trees tree rest _ found => ?_
  obtain ⟨place, rfl⟩ := Yields.op text _ _ _ found
  exact ⟨_, place, rfl, rfl⟩

theorem gives_wordIf (text : String) : (wordIf text).Gives (Perhaps (· = .word text)) := by
  refine Gives.perhaps fun trees tree rest _ found => ?_
  obtain ⟨place, rfl⟩ := Yields.word text _ _ _ found
  exact ⟨_, place, rfl, rfl⟩

/-- The words that stand for modules may stand in a path. -/
theorem modules_stand : ∀ name ∈ ["super", "self", "crate", "try"],
    ["super", "self", "crate", "try", "Self"].contains name = true := by
  decide

theorem givesWhere_anyWord (words : List String) :
    anyWord.GivesWhere (isWordOf words) fun tree => ∃ name place, tree = .token (.word name) place ∧
      name ∈ words ∧ IsWordText name := by
  intro trees tree rest passed scans found
  obtain ⟨seen, rfl⟩ := nextIf_eq_some.mp found
  obtain ⟨name, place, rfl⟩ := isAnyWord_cons.mp seen
  cases scans _ List.mem_cons_self with
  | token _ own => exact ⟨name, place, rfl, List.contains_iff_mem.mp passed, own⟩

/-- The test for a path that does not start with `try`. -/
def startsOther (trees : List Tree) : Bool :=
  !isWord "try" trees

theorem startsOther_of_seesTypePath {trees : List Tree} (h : seesTypePath trees = true) :
    startsOther trees = true := by
  rw [startsOther, Bool.not_eq_true']
  refine Bool.eq_false_iff.mpr fun seen => ?_
  unfold isWord at seen
  split at seen
  · obtain rfl := of_decide_eq_true seen
    cases h
  · cases seen

section Parts

variable {self : Readers} [∀ part, Consumes (self part)]

theorem startsType_of_segment {place : PathPlace} {trees rest : List Tree} {tree : Tree}
    (scans : ∀ tree ∈ trees, tree.Scans) (other : isWord "try" trees = false)
    (found : segment self place trees = some (tree, rest)) : StartsType [tree] := by
  unfold segment at found
  rw [sees_bind] at found
  split at found
  · obtain ⟨⟨word, between⟩, read, found⟩ := Option.bind_eq_some_iff.mp found
    cases found
    obtain ⟨seen, rfl⟩ := nextIf_eq_some.mp read
    obtain ⟨name, place, rfl⟩ := isAnyWord_cons.mp seen
    exact of_decide_eq_false other
  · refine (gives_nameOr fun name place _ free => ?_ : Gives _ fun tree => StartsType [tree])
      trees tree rest scans found
    have other : name ≠ "try" := by
      rintro rfl
      revert free
      decide
    exact .last fun _ => .ite (.last fun _ => .pure other) (.pure other)

theorem gives_argumentsAtMost {argument : Read Tree} [Consumes argument] {good : Tree → Prop}
    (h : argument.Gives good) (limit : Nat) :
    (argumentsAtMost argument limit).Gives fun found =>
      Separated found ∧ ∀ argument ∈ found, good argument.1 := by
  induction limit with
  | zero => exact .fail
  | succ limit ih =>
    refine .last fun _ => .ite (.pure ⟨.nil, by simp⟩) (h.bind fun first own => .last fun _ => ?_)
    refine .ite (.pure ⟨.last first, by simpa using own⟩) ((gives_mark ",").bind ?_)
    rintro _ ⟨place, rfl⟩
    refine ih.bind ?_
    rintro more ⟨separated, others⟩
    exact .pure ⟨.cons first place separated, List.forall_mem_cons.mpr ⟨own, others⟩⟩

section Segments

variable (ha : (self .genericArgument).Gives IsReadArgument)
include ha

theorem gives_angleArguments : (angleArguments self).Gives fun tree =>
    tree.hasPlainNodes = true → PlainArguments [tree] := by
  refine (gives_opIf "::").bind fun colons leading => (gives_mark "<").bind ?_
  rintro _ ⟨opening, rfl⟩
  refine .last fun trees => (gives_argumentsAtMost ha _).bind ?_
  rintro arguments ⟨separated, each⟩
  refine (gives_mark ">").bind ?_
  rintro _ ⟨closing, rfl⟩
  refine .pure fun plain => .some opening closing leading (separated.plain_lifetimesFirst fun argument hm => ?_)
  refine (each argument hm).imp_right fun own => own (List.forall_mem_singleton.mpr ?_)
  refine (hasPlainNodes_node.mp plain).2 _ (List.mem_append_left _ (List.mem_append_right _ ?_))
  exact List.mem_cons_of_mem _ (mem_lifetimesFirst hm)

/-- A name and the arguments that may follow it. -/
theorem gives_segment (place : PathPlace) :
    (segment self place).Gives fun tree => PlainByNodes .segment [tree] := by
  unfold segment
  refine .ifSees ((givesWhere_anyWord _).bind ?_) (gives_nameOr fun name at' scans free => .last fun _ => ?_)
  · rintro _ ⟨name, at', rfl, listed, scans⟩
    exact .pure fun _ => .bare at' ⟨scans, .inl (modules_stand name listed)⟩
  · refine .ite ((gives_angleArguments ha).bind fun arguments plain => .pure (.node fun _ inside => ?_)) ?_
    · exact (plain (inside _ (by simp))).segment scans free at'
    · exact .pure fun _ => PlainArguments.none.segment scans free at'

/-- The segments behind the first one. -/
theorem gives_segments (place : PathPlace) :
    (repeatWhile seesSegment (do return [← op "::", ← segment self place])).Gives fun rest =>
      ∀ first, Plain .segment [first] → PlainByNodes .segments (first :: rest) := by
  have one : (do return [← op "::", ← segment self place] : Read (List Tree)).Gives fun parts =>
      ∃ at' second, parts = [operatorAt "::" at', second] ∧ PlainByNodes .segment [second] := by
    refine (gives_mark "::").bind ?_
    rintro _ ⟨at', rfl⟩
    exact (gives_segment ha place).bind fun second plain => .pure ⟨at', second, rfl, plain⟩
  refine .last fun _ => .repeatAtMost one (fun first own _ => .lastSegment own) ?_ _
  rintro _ rest ⟨at', second, rfl, plain⟩ more first own inside
  have behind := (List.forall_mem_cons.mp (List.forall_mem_cons.mp inside).2).2
  have next := plain (List.forall_mem_singleton.mpr (List.forall_mem_cons.mp behind).1)
  exact .moreSegments at' own (more second next behind)

theorem givesWhere_pathParts : (pathParts self .inType).GivesWhere startsOther fun parts =>
    PlainByNodes .type [.node .typePath [.node .path parts]] := by
  intro trees parts rest passed scans found
  obtain ⟨⟨lead, between⟩, read, found⟩ := Option.bind_eq_some_iff.mp found
  obtain ⟨⟨first, after⟩, head, found⟩ := Option.bind_eq_some_iff.mp found
  obtain ⟨⟨others, left⟩, loop, found⟩ := Option.bind_eq_some_iff.mp found
  cases found
  have inner : ∀ tree ∈ between, tree.Scans := fun tree hm => scans tree ((Consumes.suffix read).subset hm)
  have outer : ∀ tree ∈ after, tree.Scans := fun tree hm => inner tree ((Consumes.suffix head).subset hm)
  have segments (inside : ∀ part ∈ first :: others, part.hasPlainNodes = true) :
      Plain .segments (first :: others) := by
    have own := gives_segment ha _ _ _ _ inner head
    have plain := own (List.forall_mem_singleton.mpr (List.forall_mem_cons.mp inside).1)
    exact gives_segments ha _ _ _ _ outer loop first plain inside
  refine .node fun _ inside => ?_
  obtain ⟨-, inside⟩ := hasPlainNodes_node.mp (inside _ List.mem_cons_self)
  unfold opIf whenSees at read
  rw [sees_bind] at read
  split at read
  · obtain ⟨⟨mark, _⟩, taken, same⟩ := Option.bind_eq_some_iff.mp read
    cases same
    obtain ⟨at', rfl⟩ := Yields.op _ _ _ _ taken
    exact .absolute at' (segments (List.forall_mem_cons.mp inside).2)
  · cases read
    have starts : StartsType [first] := startsType_of_segment scans (by simpa [startsOther] using passed) head
    exact .path starts.append (segments inside)

theorem givesWhere_qualifiedPath : (qualifiedPath self .inType).GivesWhere startsOther fun parts =>
    (∃ path, parts = [path] ∧ PlainByNodes .type [.node .typePath [path]]) ∨
      ∃ inner path, parts = [.node .qualifiedSelf inner, path] := by
  intro trees parts rest passed scans found
  unfold qualifiedPath at found
  rw [sees_bind] at found
  split at found
  · refine .inr ((?_ : Gives _ fun parts => ∃ inner path, parts = [.node .qualifiedSelf inner, path])
      trees parts rest scans found)
    dsimp only
    repeat' with_reducible first
      | refine Gives.ite ?_ ?_
      | refine Gives.last fun _ => ?_
    all_goals exact .pure ⟨_, _, rfl⟩
  · obtain ⟨⟨path, _⟩, read, same⟩ := Option.bind_eq_some_iff.mp found
    cases same
    obtain ⟨⟨parts, _⟩, read, same⟩ := Option.bind_eq_some_iff.mp read
    cases same
    exact .inl ⟨_, rfl, givesWhere_pathParts ha _ _ _ passed scans read⟩

/-- A path on its own; with bounds after it, or as the name of a macro, it is no plain type. -/
theorem givesWhere_pathType (plus : Bool) (binder : List Tree) :
    (pathType self plus binder).GivesWhere startsOther fun type => PlainByNodes .type [type] := by
  refine (givesWhere_qualifiedPath ha).bind ?_
  rintro _ (⟨path, rfl, plain⟩ | ⟨inner, path, rfl⟩)
  · dsimp only
    repeat' with_reducible first
      | refine Gives.ite ?_ ?_
      | refine Gives.last fun _ => ?_
    all_goals first
      | exact .pure plain
      | exact .pure (.of_other rfl)
  · exact .pure (.node fun _ inside => absurd (inside _ List.mem_cons_self) Bool.false_ne_true)

end Segments

/-- What was read in parentheses makes a type with them, if it is not a bound. -/
def MakesType (found : Role × List Tree) : Prop :=
  found.1 = .bound ∨
    ∀ opening closing, PlainByNodes .type [.node found.1 [.group .paren opening closing found.2]]

namespace MakesType

variable {first : Tree} {others : List Tree}

theorem unit : MakesType (.tuple, []) :=
  .inr fun opening closing _ => .unit opening closing

theorem bounds (parts : List Tree) : MakesType (.paren, [.node .bounds parts]) :=
  .inr fun _ _ => .enclosed fun _ inside => absurd (inside _ List.mem_cons_self) Bool.false_ne_true

theorem tuple {comma : Tree} (plain : PlainByNodes .type [first]) (mark : ∃ place, comma = operatorAt "," place)
    (rest : PlainByNodes .elements others) : MakesType (.tuple, first :: comma :: others) := by
  obtain ⟨place, rfl⟩ := mark
  refine .inr fun opening closing => .enclosed fun _ inside => ?_
  obtain ⟨own, behind⟩ := List.forall_mem_cons.mp inside
  exact .tuple opening closing place (plain (List.forall_mem_singleton.mpr own))
    (rest (List.forall_mem_cons.mp behind).2)

theorem paren (plain : PlainByNodes .type [first]) : MakesType (.paren, [first]) :=
  .inr fun opening closing => .enclosed fun _ inside => .paren opening closing (plain inside)

end MakesType

theorem gives_constArgument : (constArgument self).Gives IsReadArgument := by
  have constant (count : Tree) : IsReadArgument (.node .constArgument [count]) := by
    refine .inr (.node fun own _ => ?_)
    obtain ⟨digits, place, rfl, number⟩ := exists_digits_of_isCount own
    exact .constant place number
  exact .last fun _ => .ite (.last fun _ => .pure (constant _)) (.last fun _ => .pure (constant _))

section Types

variable (ht : ∀ plus, (self (.type plus)).Gives fun type => PlainByNodes .type [type])
include ht

theorem gives_elements : (separatedUntil atEnd "," (self (.type true))).Gives (PlainByNodes .elements) := by
  refine .separatedUntil (ht true) (fun _ => .noElements) (fun type plain inside => ?_) ?_
  · exact .lastElement (plain inside)
  · intro type place others plain rest inside
    obtain ⟨first, behind⟩ := List.forall_mem_cons.mp inside
    exact .element place (plain (List.forall_mem_singleton.mpr first))
      (rest (List.forall_mem_cons.mp behind).2)

theorem gives_parenthesized : (parenthesized self).Gives MakesType := by
  unfold parenthesized
  dsimp only
  repeat' with_reducible first
    | refine Gives.ite ?_ ?_
    | exact Gives.fail.bind fun _ absent => absent.elim
    | refine (ht true).bind fun first plain => ?_
    | refine (gives_elements ht).bind fun rest others => ?_
    | refine (gives_mark ",").bind fun comma marked => ?_
    | refine Gives.last fun _ => ?_
  all_goals first
    | exact .pure .unit
    | exact .pure (.bounds _)
    | exact .pure (.inl rfl)
    | exact .pure (.tuple plain marked others)
    | exact .pure (.paren plain)

theorem gives_parenType (plus : Bool) : (parenType self plus).Gives fun type => PlainByNodes .type [type] := by
  intro trees type rest scans found
  unfold parenType at found
  split at found
  · next opening closing inner more =>
    split at found
    · next role parts read =>
      have inside : ∀ tree ∈ inner, tree.Scans := by
        cases scans _ List.mem_cons_self with
        | group _ _ _ inside => exact inside
      have made := gives_parenthesized ht _ _ _ inside read
      dsimp only at found
      split at found
      · -- bounds are no plain type
        split at found
        · obtain ⟨_, _, same⟩ := Option.map_eq_some_iff.mp found
          cases same
          exact .of_other rfl
        · cases found
          exact .of_other rfl
      · -- a type in parentheses, or the first of some bounds
        split at found
        · obtain ⟨_, _, same⟩ := Option.map_eq_some_iff.mp found
          cases same
          exact .of_other rfl
        · cases found
          exact made.resolve_left (fun same => by cases same) opening closing
      · next other _ =>
        cases found
        exact made.resolve_left other opening closing
    · cases found
  · cases found

theorem gives_bracketType : (bracketType self).Gives fun type => PlainByNodes .type [type] := by
  have inside : (do
      let element ← self (.type true)
      if ← sees (isOp ";") then
        return (.array, [element, ← op ";", ← self (.expression true)])
      return (.slice, [element]) : Read (Role × List Tree)).Gives fun found =>
        ∀ opening closing, PlainByNodes .type [.node found.1 [.group .bracket opening closing found.2]] := by
    refine (ht true).bind fun element plain => .last fun _ => .ite ((gives_mark ";").bind ?_) ?_
    · rintro _ ⟨place, rfl⟩
      refine .last fun count => .pure fun opening closing => .enclosed fun own inside => ?_
      obtain ⟨digits, other, rfl, number⟩ := exists_digits_of_isCount own
      exact .array opening closing place other number
        (plain (List.forall_mem_singleton.mpr (inside _ List.mem_cons_self)))
    · exact .pure fun opening closing => .enclosed fun _ inside => .slice opening closing (plain inside)
  intro trees type rest scans found
  unfold bracketType at found
  split at found
  · next opening closing inner more =>
    dsimp only at found
    split at found
    · next role parts read =>
      cases found
      cases scans _ List.mem_cons_self with
      | group _ _ _ inner => exact inside _ _ _ inner read opening closing
    · cases found
  · cases found

theorem gives_genericArgument : (genericArgument self).Gives IsReadArgument := by
  have lifetime : Read.lifetime.Gives IsReadArgument := by
    intro trees tree rest scans found
    obtain ⟨_, place, rfl, name, rfl, word⟩ := Gives.lifetime _ _ _ scans found
    exact .inl ⟨name, place, rfl, word⟩
  have other {role : Role} {parts : List Tree} (h : isPlainNode role parts = false) :
      IsReadArgument (.node role parts) := .inr (.of_other h)
  unfold genericArgument
  dsimp only
  refine .last fun _ => .ite lifetime (.last fun _ => .ite gives_constArgument ?_)
  refine (ht true).bind fun type plain => ?_
  have own : IsReadArgument type := .inr fun inside => .typeArgument (plain inside)
  split
  · exact .pure own
  · repeat' with_reducible first
      | refine Gives.ite ?_ ?_
      | refine Gives.last fun _ => ?_
    all_goals first
      | exact .pure own
      | exact .pure (other rfl)

theorem gives_type (ha : (self .genericArgument).Gives IsReadArgument) (plus : Bool) :
    (type self plus).Gives fun type => PlainByNodes .type [type] := by
  unfold Grammar.type
  dsimp only
  repeat' with_reducible first
    | refine Gives.ifSees ((givesWhere_pathType ha plus _).weaken ?_) ?_
    | refine Gives.last fun _ => Gives.ite ?_ ?_
    | exact gives_parenType ht plus
    | exact gives_bracketType ht
    | refine (gives_mark _).bind fun mark marked => ?_
    | refine (Gives.of_yields (.word _)).bind fun word spelled => ?_
    | refine (Gives.perhaps Gives.lifetime).bind fun quoted lifetime => ?_
    | refine (gives_wordIf _).bind fun mutability mutable => ?_
    | refine (ht _).bind fun type plain => ?_
    | refine Gives.last fun _ => ?_
    | refine Gives.ite ?_ ?_
    | exact Gives.fail
  -- functions, bounds and macros are other nodes
  all_goals try exact .pure (.of_other rfl)
  · exact fun trees seen => startsOther_of_seesTypePath (by rw [seesTypePath, seen]; rfl)
  · exact fun trees => startsOther_of_seesTypePath
  · exact .pure (.pointer marked ⟨"const", by decide, spelled⟩ plain)
  · exact .pure (.pointer marked ⟨"mut", by decide, spelled⟩ plain)
  · exact .pure (.reference marked lifetime mutable plain)
  · intro trees type rest scans found
    obtain ⟨place, rfl⟩ := gives_mark _ _ _ _ scans found
    exact fun _ => .never place
  · intro trees type rest _ found
    obtain ⟨place, rfl⟩ := Yields.word _ _ _ _ found
    exact fun _ => .inferred place

end Types

end Parts

/-- The types and the arguments that the grammar reads are plain if only nodes of plain types occur in them. -/
theorem readers_gives (levels : Nat) :
    (∀ plus, (readers levels (.type plus)).Gives fun type => PlainByNodes .type [type]) ∧
      (readers levels .genericArgument).Gives IsReadArgument := by
  induction levels with
  | zero => exact ⟨fun _ => .fail, .fail⟩
  | succ levels ih => exact ⟨gives_type ih.1 ih.2, gives_genericArgument ih.1⟩

end Grammar

end Code

theorem IsFieldType.plain {type : Code.Tree} (h : IsFieldType type) (only : type.hasPlainNodes = true) :
    Plain .type [type] := by
  cases h with
  | read scans found =>
    exact (Grammar.readers_gives _).1 true _ _ _ scans found (List.forall_mem_singleton.mpr only)
  | nameless => cases only

end RecordMapper
