/-
Plain types are read again from their texts. Every part of the reader is shown to take the tokens of the
part that it is for, wherever these stand and as long as something follows that ends it, and the types
follow by induction on how they are made. A type needs two levels of the reader for every tree inside it.
-/
import RecordMapper.Proofs.PlainTypes

namespace RecordMapper.Code

open Read RecordMapper.Code.Tree

namespace Grammar

/-- A type is read from its tokens, wherever these stand and whatever ends it. -/
def RereadsType (levels : Nat) (tokens trees : List Tree) : Prop :=
  ∀ plus rest, EndsType rest →
    ∃ type, readers levels (.type plus) (tokens ++ rest) = some (type, rest) ∧ Alike [type] trees

/-- A segment is read from its tokens, if no arguments follow them. -/
def RereadsSegment (levels : Nat) (tokens trees : List Tree) : Prop :=
  ∀ rest, seesArguments .inType rest = false →
    ∃ tree, segment (readers levels) .inType (tokens ++ rest) = some (tree, rest) ∧ Alike [tree] trees

/-- Segments are read from their tokens, the first and then those after it. -/
def RereadsSegments (levels : Nat) (tokens trees : List Tree) : Prop :=
  ∀ rest, EndsType rest → ∃ first more after,
    segment (readers levels) .inType (tokens ++ rest) = some (first, after) ∧
      after.length ≤ tokens.length + rest.length ∧
      (∀ limit, after.length ≤ limit →
        repeatAtMost (fun trees => !seesSegment trees)
          (do return [← op "::", ← segment (readers levels) .inType]) limit after = some (more, rest)) ∧
      Alike (first :: more) trees

section Types

variable {levels : Nat} {tokens trees rest : List Tree} {plus : Bool}

/-- A path after the words and marks that a type may start with. -/
theorem pathType_of_path {self : Readers} {path : Tree} (front : isOp "<" trees = false)
    (read : Grammar.path self .inType trees = some (path, rest)) (h : EndsType rest) :
    pathType self plus [] trees = some (.node .typePath [path], rest) := by
  obtain ⟨-, -, bang, noPlus, -, -⟩ := h.stopped
  have whole : qualifiedPath self .inType trees = some ([path], rest) := by
    unfold qualifiedPath
    rw [sees_bind, front, if_neg Bool.false_ne_true, bind_of_eq read]
    rfl
  unfold pathType
  rw [bind_of_eq whole]
  dsimp only
  cases isPlainPath path <;>
    · simp only [Bool.false_and, Bool.true_and, Bool.not_true, List.isEmpty_nil, Bool.false_or, sees_bind,
        bang, noPlus, Bool.and_false, if_false, Bool.false_eq_true]
      cases plus <;> rfl

theorem type_word {self : Readers} {name : String} (word : IsSegmentWord name) (other : name ≠ "try")
    (place : Span) (rest : List Tree) :
    Grammar.type self plus (.token (.word name) place :: rest) =
      pathType self plus [] (.token (.word name) place :: rest) := by
  have function : isWordOf ["fn", "unsafe", "extern"] (.token (.word name) place :: rest) = false := by
    simp [isWordOf, word.ne "fn" (by decide), word.ne "unsafe" (by decide),
      word.ne "extern" (by decide)]
  have front : seesTypePath (.token (.word name) place :: rest) = true := by
    rcases word with listed | free
    · simp only [List.contains_eq_mem, List.mem_cons, List.not_mem_nil, or_false, decide_eq_true_eq]
        at listed
      rcases listed with rfl | rfl | rfl | rfl | rfl
      · rfl
      · rfl
      · rfl
      · exact absurd rfl other
      · rfl
    · simp [seesTypePath, isName, free]
  have binder : isWord "for" (.token (.word name) place :: rest) = false := by
    simp [isWord, word.ne "for" (by decide)]
  have noGroup : isGroup .paren (.token (.word name) place :: rest) = false := rfl
  unfold Grammar.type
  dsimp only
  rw [sees_bind, binder, if_neg Bool.false_ne_true, sees_bind, noGroup, if_neg Bool.false_ne_true, sees_bind,
    function, if_neg Bool.false_ne_true, sees_bind, front, if_pos rfl]

end Types

section Paths

variable {levels : Nat} {tokens trees lead parts rest : List Tree}

/-- A path is read from the tokens of its segments, after the `::` that it may start with. -/
theorem RereadsSegments.path (h : RereadsSegments levels tokens parts) (ends : EndsType rest)
    (leading : opIf "::" trees = some (lead, tokens ++ rest)) :
    ∃ path, Grammar.path (readers levels) .inType trees = some (path, rest) ∧
      Alike [path] [.node .path (lead ++ parts)] := by
  obtain ⟨first, more, after, read, -, others, same⟩ := h rest ends
  have loop : repeatWhile seesSegment (do return [← op "::", ← segment (readers levels) .inType]) after =
      some (more, rest) := others _ (Nat.le_succ _)
  refine ⟨.node .path (lead ++ first :: more), ?_, ?_⟩
  · have all : pathParts (readers levels) .inType trees = some (lead ++ first :: more, rest) := by
      unfold pathParts
      rw [bind_of_eq leading, bind_of_eq read, bind_of_eq loop]
      rfl
    rw [Grammar.path, bind_of_eq all]
    rfl
  · simp only [Alike, unplacedAll, unplaced, unplacedAll_append] at same ⊢
    rw [same]

/-- A segment without arguments is read from its word. -/
theorem rereadsSegment_bare {name : String} (word : IsPathWord name) {place other : Span} :
    RereadsSegment levels [.token (.word name) other] [.node .segment [.token (.word name) place]] :=
  fun _ bare => ⟨_, segment_word (readers levels) word.stands other bare, rfl⟩

/-- The first segment of several is read, and the loop goes on with the others. -/
theorem RereadsSegments.cons {first : Tree} {front : List Tree} {p q place : Span}
    (h : RereadsSegment levels front [first]) (hs : RereadsSegments levels tokens parts)
    (word : ∃ name place more, tokens = .token (.word name) place :: more) :
    RereadsSegments levels (front ++ .token (.punct ":" true) p :: .token (.punct ":" false) q :: tokens)
      (first :: operatorAt "::" place :: parts) := by
  intro rest ends
  obtain ⟨name, at', others, rfl⟩ := word
  obtain ⟨second, more, after, readSecond, short, loop, same⟩ := hs rest ends
  generalize hbehind : (.token (.word name) at' :: others : List Tree) ++ rest = behind at readSecond
  have noArguments : seesArguments .inType
      (.token (.punct ":" true) p :: .token (.punct ":" false) q :: behind) = false := by
    rw [← hbehind]
    rfl
  have goesOn : (!seesSegment (.token (.punct ":" true) p :: .token (.punct ":" false) q :: behind)) =
      false := by
    rw [← hbehind]
    rfl
  obtain ⟨tree, readFirst, alike⟩ := h _ noArguments
  refine ⟨tree, .token (.punct "::" false) (p.join q) :: second :: more,
    .token (.punct ":" true) p :: .token (.punct ":" false) q :: behind, ?_, ?_, fun limit enough => ?_, ?_⟩
  · rw [List.append_assoc, List.cons_append, List.cons_append, hbehind]
    exact readFirst
  · simp only [List.length_cons, List.length_append, ← hbehind]
    omega
  · have taken : op "::" (.token (.punct ":" true) p :: .token (.punct ":" false) q :: behind) =
        some (.token (.punct "::" false) (p.join q), behind) := rfl
    have both : (do return [← op "::", ← segment (readers levels) .inType] : Read (List Tree))
        (.token (.punct ":" true) p :: .token (.punct ":" false) q :: behind) =
          some ([.token (.punct "::" false) (p.join q), second], after) := by
      rw [bind_of_eq taken, bind_of_eq readSecond]
      rfl
    obtain ⟨limit, rfl⟩ : ∃ fewer, limit = fewer + 1 :=
      Nat.exists_eq_add_of_le' (by simp only [List.length_cons] at enough; omega)
    have fewer : after.length ≤ limit := by
      simp only [List.length_cons, ← hbehind, List.length_append] at enough short
      omega
    unfold repeatAtMost
    rw [sees_bind, goesOn, if_neg Bool.false_ne_true, bind_of_eq both, bind_of_eq (loop limit fewer)]
    rfl
  · simp only [Alike, unplacedAll, unplaced, List.cons.injEq, and_true] at alike same ⊢
    exact ⟨alike, trivial, same⟩

theorem RereadsSegment.single {first : Tree} (h : RereadsSegment levels tokens [first]) :
    RereadsSegments levels tokens [first] := by
  intro rest ends
  obtain ⟨tree, readFirst, alike⟩ := h rest ends.stopped.arguments
  have stop : (!seesSegment rest) = true := by rw [ends.stopped.segment]; rfl
  exact ⟨tree, [], rest, readFirst, by omega, fun limit _ => repeatAtMost_of_stop stop limit, alike⟩

end Paths

/-! ### Arguments -/

/-- Arguments with their commas in the order in which they are written: lifetimes stand first, if there are
any, and each of them has a comma if others follow. -/
def InWrittenOrder (lifetimes : Bool) (arguments : List (Tree × List Tree)) : Prop :=
  ∃ front back, arguments = front ++ back ∧
    (∀ argument ∈ front, isLifetimeArgument argument.1 = true) ∧
    (∀ argument ∈ back, isLifetimeArgument argument.1 = false) ∧
    (back ≠ [] → ∀ argument ∈ front, argument.2 ≠ []) ∧ (lifetimes = false → front = [])

namespace InWrittenOrder

variable {lifetimes : Bool} {argument : Tree} {commas : List Tree} {arguments : List (Tree × List Tree)}

theorem nil (lifetimes : Bool) : InWrittenOrder lifetimes [] :=
  ⟨[], [], by simp⟩

theorem lifetime (own : isLifetimeArgument argument = true) (alone : commas = [] → arguments = [])
    (h : InWrittenOrder true arguments) : InWrittenOrder true ((argument, commas) :: arguments) := by
  obtain ⟨front, back, rfl, first, others, separated, -⟩ := h
  refine ⟨(argument, _) :: front, back, rfl, List.forall_mem_cons.mpr ⟨own, first⟩, others, ?_, nofun⟩
  refine fun more => List.forall_mem_cons.mpr ⟨fun bare => ?_, separated more⟩
  exact more (List.append_eq_nil_iff.mp (alone bare)).2

theorem other (own : isLifetimeArgument argument = false) (h : InWrittenOrder false arguments) :
    InWrittenOrder lifetimes ((argument, commas) :: arguments) := by
  obtain ⟨front, back, rfl, -, others, -, none_left⟩ := h
  obtain rfl := none_left rfl
  refine ⟨[], (argument, commas) :: back, rfl, by simp, ?_, by simp, by simp⟩
  exact List.forall_mem_cons.mpr ⟨own, others⟩

/-- Arguments in this order stay where they are, and no comma is supplied. -/
theorem lifetimesFirst_eq (h : InWrittenOrder lifetimes arguments) :
    lifetimesFirst arguments = arguments.flatMap fun argument => argument.1 :: argument.2 := by
  obtain ⟨front, back, rfl, first, others, separated, -⟩ := h
  have lifetimes : (front ++ back).filter (isLifetimeArgument ·.1) = front := by
    rw [List.filter_append, List.filter_eq_self.mpr first,
      List.filter_eq_nil_iff.mpr fun argument hm => by simp [others argument hm], List.append_nil]
  have rest : (front ++ back).filter (!isLifetimeArgument ·.1) = back := by
    rw [List.filter_append, List.filter_eq_nil_iff.mpr fun argument hm => by simp [first argument hm],
      List.filter_eq_self.mpr fun argument hm => by simp [others argument hm], List.nil_append]
  unfold lifetimesFirst
  simp only [lifetimes, rest, List.flatMap_append]
  congr 1
  split
  · next found =>
    exact absurd rfl (separated (List.cons_ne_nil _ _) _ (List.mem_of_getLast? found))
  · exact List.append_nil _

end InWrittenOrder

/-- Arguments are read from their tokens up to the closing bracket. -/
def RereadsArguments (lifetimes : Bool) (levels : Nat) (tokens trees : List Tree) : Prop :=
  ∀ limit place rest, tokens.length < limit → ∃ found,
    argumentsAtMost (readers levels .genericArgument) limit (tokens ++ operatorAt ">" place :: rest) =
        some (found, operatorAt ">" place :: rest) ∧
      InWrittenOrder lifetimes found ∧
      Alike (found.flatMap fun argument => argument.1 :: argument.2) trees

/-- An argument is read from its tokens, as a lifetime or as something else. -/
def RereadsArgument (isLifetime : Bool) (levels : Nat) (tokens trees : List Tree) : Prop :=
  ∀ rest, EndsType rest → ∃ argument,
    readers levels .genericArgument (tokens ++ rest) = some (argument, rest) ∧ Alike [argument] trees ∧
      isLifetimeArgument argument = isLifetime

section Arguments

variable {levels : Nat} {lifetimes : Bool} {tokens trees rest : List Tree}

/-- A type is read as an argument. -/
theorem RereadsType.argument (h : RereadsType levels tokens trees)
    (front : ∀ rest, TypeFront (tokens ++ rest))
    (kind : ∀ argument, Alike [argument] trees → isLifetimeArgument argument = false) :
    RereadsArgument false (levels + 1) tokens trees := by
  intro rest ends
  obtain ⟨type, read, same⟩ := h true rest ends
  refine ⟨type, ?_, same, kind type same⟩
  change genericArgument (readers levels) (tokens ++ rest) = _
  unfold genericArgument
  simp only [sees_bind, (front rest).lifetime, (front rest).const, Bool.false_and, Bool.false_eq_true,
    if_false]
  rw [bind_of_eq read]
  cases singleName? type with
  | none => rfl
  | some parts =>
    simp only [sees_bind, ends.stopped.equals, ends.stopped.colon, Bool.false_eq_true, if_false]
    rfl

/-- A number is read as an argument. -/
theorem rereadsArgument_number {digits : String} {place other : Span} (levels : Nat) :
    RereadsArgument false (levels + 1) [.token (.literal .integer digits) other]
      [.node .constArgument [.token (.literal .integer digits) place]] :=
  fun _ _ => ⟨_, rfl, rfl, rfl⟩

/-- A lifetime is read as an argument: no `+` makes it a bound. -/
theorem rereadsArgument_lifetime {name : String} {place other : Span} (levels : Nat) :
    RereadsArgument true (levels + 1) [.token (.lifetime name) other] [.token (.lifetime name) place] := by
  intro rest ends
  have lone : (isLifetime (.token (.lifetime name) other :: rest) && !isOp "+" rest) = true := by
    rw [ends.stopped.plus]
    rfl
  refine ⟨.token (.lifetime name) other, ?_, rfl, rfl⟩
  change genericArgument (readers levels) (.token (.lifetime name) other :: rest) = _
  unfold genericArgument
  dsimp only
  rw [sees_bind, List.drop_succ_cons, List.drop_zero, lone, if_pos rfl]
  rfl

theorem rereadsArguments_nil (levels : Nat) (lifetimes : Bool) : RereadsArguments lifetimes levels [] [] := by
  intro limit place rest enough
  obtain ⟨limit, rfl⟩ := Nat.exists_eq_add_of_lt enough
  exact ⟨[], rfl, .nil lifetimes, rfl⟩

/-- The last argument is read, and the closing bracket is left. -/
theorem RereadsArgument.last {first : Tree} {isLifetime : Bool}
    (h : RereadsArgument isLifetime levels tokens [first])
    (front : ∀ rest, isOp ">" (tokens ++ rest) = false) (order : isLifetime = true → lifetimes = true) :
    RereadsArguments lifetimes levels tokens [first] := by
  intro limit place rest enough
  obtain ⟨limit, rfl⟩ : ∃ fewer, limit = fewer + 1 :=
    Nat.exists_eq_add_of_le' (Nat.lt_of_le_of_lt (Nat.zero_le _) enough)
  obtain ⟨argument, taken, same, kind⟩ := h _ (endsType_closing place rest)
  refine ⟨[(argument, [])], ?_, ?_, same⟩
  · unfold argumentsAtMost
    rw [sees_bind, front, if_neg Bool.false_ne_true, bind_of_eq taken]
    rfl
  · cases isLifetime with
    | false => exact .other kind (.nil _)
    | true =>
      obtain rfl := order rfl
      exact .lifetime kind (fun _ => rfl) (.nil _)

/-- An argument before a comma is read, and then the others. -/
theorem RereadsArguments.cons {first : Tree} {behind others : List Tree} {comma place : Span}
    {isLifetime : Bool} (h : RereadsArgument isLifetime levels tokens [first])
    (hs : RereadsArguments isLifetime levels behind others)
    (front : ∀ rest, isOp ">" (tokens ++ rest) = false) (order : isLifetime = true → lifetimes = true) :
    RereadsArguments lifetimes levels (tokens ++ operatorAt "," comma :: behind)
      (first :: operatorAt "," place :: others) := by
  intro limit closing rest enough
  obtain ⟨limit, rfl⟩ : ∃ fewer, limit = fewer + 1 :=
    Nat.exists_eq_add_of_le' (Nat.lt_of_le_of_lt (Nat.zero_le _) enough)
  obtain ⟨argument, taken, same, kind⟩ :=
    h _ (endsType_comma comma (behind ++ operatorAt ">" closing :: rest))
  have fewer : behind.length < limit := by
    simp only [List.length_append, List.length_cons] at enough
    omega
  obtain ⟨found, loop, sorted, alike⟩ := hs limit closing rest fewer
  refine ⟨(argument, [operatorAt "," (spanOf [operatorAt "," comma])]) :: found, ?_, ?_, ?_⟩
  · have separated : op "," (operatorAt "," comma :: (behind ++ operatorAt ">" closing :: rest)) =
        some (operatorAt "," (spanOf [operatorAt "," comma]), behind ++ operatorAt ">" closing :: rest) := rfl
    have goesOn : isOp ">" (operatorAt "," comma :: (behind ++ operatorAt ">" closing :: rest)) = false := rfl
    rw [List.append_assoc, List.cons_append]
    unfold argumentsAtMost
    rw [sees_bind, front, if_neg Bool.false_ne_true, bind_of_eq taken, sees_bind, goesOn,
      if_neg Bool.false_ne_true, bind_of_eq separated, bind_of_eq loop]
    rfl
  · cases isLifetime with
    | false => exact .other kind sorted
    | true =>
      obtain rfl := order rfl
      exact .lifetime kind (fun bare => absurd bare (List.cons_ne_nil _ _)) sorted
  · simp only [Alike, List.flatMap_cons, List.cons_append, List.nil_append, unplacedAll, unplaced,
      List.cons.injEq, and_true] at same alike ⊢
    exact ⟨same, trivial, alike⟩

/-- Arguments between angle brackets are read with their brackets. -/
theorem RereadsArguments.angle {found colons front : List Tree} {p q : Span} (opening closing : Span)
    (h : RereadsArguments lifetimes levels tokens trees)
    (leading : opIf "::" (front ++ operatorAt "<" p :: (tokens ++ operatorAt ">" q :: rest)) =
      some (found, operatorAt "<" p :: (tokens ++ operatorAt ">" q :: rest)))
    (alikeColons : Alike found colons) :
    ∃ tree, angleArguments (readers levels)
        (front ++ operatorAt "<" p :: (tokens ++ operatorAt ">" q :: rest)) = some (tree, rest) ∧
      Alike [tree] [.node .angleArguments
        (colons ++ operatorAt "<" opening :: trees ++ [operatorAt ">" closing])] := by
  obtain ⟨arguments, loop, sorted, alike⟩ := h ((tokens ++ operatorAt ">" q :: rest).length + 1) q rest
    (by simp only [List.length_append]; omega)
  have opened : op "<" (operatorAt "<" p :: (tokens ++ operatorAt ">" q :: rest)) =
      some (operatorAt "<" (spanOf [operatorAt "<" p]), tokens ++ operatorAt ">" q :: rest) := rfl
  have closed : op ">" (operatorAt ">" q :: rest) = some (operatorAt ">" (spanOf [operatorAt ">" q]), rest) :=
    rfl
  refine ⟨.node .angleArguments (found ++ operatorAt "<" (spanOf [operatorAt "<" p]) ::
    lifetimesFirst arguments ++ [operatorAt ">" (spanOf [operatorAt ">" q])]), ?_, ?_⟩
  · unfold angleArguments
    have counted : (get : Read (List Tree)) (tokens ++ operatorAt ">" q :: rest) =
        some (tokens ++ operatorAt ">" q :: rest, tokens ++ operatorAt ">" q :: rest) := rfl
    rw [bind_of_eq leading, bind_of_eq opened, bind_of_eq counted, bind_of_eq loop, bind_of_eq closed]
    rfl
  · simp only [sorted.lifetimesFirst_eq, Alike, unplacedAll, unplaced, unplacedAll_append]
      at alike alikeColons ⊢
    rw [alike, alikeColons]

/-- A `::` is taken where it stands in front of arguments, and nothing where it does not. -/
theorem leading_of_perhaps {colons front : List Tree} (place : Span) (more : List Tree)
    (h : Perhaps (· = .punct "::" false) colons) (same : Alike front (tokensOf colons)) :
    ∃ found,
      opIf "::" (front ++ operatorAt "<" place :: more) = some (found, operatorAt "<" place :: more) ∧
      Alike found colons ∧ seesArguments .inType (front ++ operatorAt "<" place :: more) = true := by
  cases h with
  | none =>
    obtain rfl := same.eq_nil
    exact ⟨[], rfl, rfl, rfl⟩
  | some _ own =>
    subst own
    obtain ⟨p, rest, rfl, behind⟩ := Alike.token (t := .punct ":" true) same
    obtain ⟨q, nothing, rfl, none_left⟩ := Alike.token (t := .punct ":" false) behind
    obtain rfl := none_left.eq_nil
    exact ⟨[operatorAt "::" (p.join q)], rfl, rfl, rfl⟩

end Arguments

/-- A segment is read with the arguments that follow its name. -/
theorem segment_applied {self : Readers} {name : String} (free : name = "Self" ∨ isKeyword name = false)
    {place : Span} {trees rest : List Tree} {arguments : Tree} (follow : seesArguments .inType trees = true)
    (read : angleArguments self trees = some (arguments, rest)) :
    segment self .inType (.token (.word name) place :: trees) =
      some (.node .segment [.token (.word name) place, arguments], rest) := by
  have module : isWordOf ["super", "self", "crate", "try"] (.token (.word name) place :: trees) = false := by
    have modules : ∀ word ∈ ["super", "self", "crate", "try"],
        word ≠ "Self" ∧ isKeyword word = true := by decide
    refine Bool.eq_false_iff.mpr fun listed => ?_
    obtain ⟨other, keyword⟩ := modules name (by simpa [isWordOf] using listed)
    rcases free with own | free
    · exact other own
    · rw [keyword] at free
      cases free
  unfold segment
  rw [sees_bind, module, if_neg Bool.false_ne_true, sees_bind]
  by_cases own : isWord "Self" (.token (.word name) place :: trees) = true
  · have taken : anyWord (.token (.word name) place :: trees) =
        some (.token (.word name) place, trees) := rfl
    rw [if_pos own, bind_of_eq taken]
    beta_reduce
    rw [sees_bind, follow, if_pos rfl, bind_of_eq read]
    rfl
  · have other : isKeyword name = false := free.resolve_left fun same => own (by simp [isWord, same])
    rw [if_neg own, bind_of_eq (name_word other place trees)]
    beta_reduce
    rw [sees_bind, follow, if_pos rfl, bind_of_eq read]
    rfl

/-! ### Types in other types -/

section Nested

variable {levels : Nat} {tokens behind trees others rest inner parts : List Tree} {type : Tree} {plus : Bool}

/-- A token that may stand in front is taken if it is there. -/
theorem whenSees_of_perhaps {good : Token → Prop} {front : List Tree} {test : List Tree → Bool}
    {reader : Read Tree} (h : Perhaps good front) (same : Alike tokens front)
    (takes : ∀ t place rest, good t → test (.token t place :: rest) = true ∧
      reader (.token t place :: rest) = some (.token t place, rest))
    (absent : test rest = false) : whenSees test reader (tokens ++ rest) = some (tokens, rest) := by
  unfold whenSees
  cases h with
  | none =>
    obtain rfl := same.eq_nil
    rw [List.nil_append, sees_bind, absent]
    rfl
  | @some t _ own =>
    obtain ⟨place, more, rfl, nothing⟩ := same.token
    obtain rfl := nothing.eq_nil
    obtain ⟨seen, taken⟩ := takes t place rest own
    rw [List.singleton_append, sees_bind, seen, if_pos rfl, bind_of_eq taken]
    rfl

/-- A reference is read with its lifetime and its mark. -/
theorem rereadsType_reference {lifetime mutability front marks : List Tree} {place at' : Span}
    (quoted : Perhaps (fun t => ∃ name, t = .lifetime name ∧ IsWordText name) lifetime)
    (mutable : Perhaps (· = .word "mut") mutability)
    (sameFront : Alike front lifetime) (sameMarks : Alike marks mutability)
    (typeFront : ∀ rest, TypeFront (tokens ++ rest)) (h : RereadsType levels tokens [type]) :
    RereadsType (levels + 1) (operatorAt "&" place :: (front ++ (marks ++ tokens)))
      [.node .reference (operatorAt "&" at' :: lifetime ++ mutability ++ [type])] := by
  intro plus rest ends
  obtain ⟨read, taken, same⟩ := h false rest ends
  have noLifetime : isLifetime (marks ++ (tokens ++ rest)) = false := by
    cases mutable with
    | none =>
      obtain rfl := sameMarks.eq_nil
      exact (typeFront rest).lifetime
    | some _ own =>
      subst own
      obtain ⟨_, _, rfl, -⟩ := sameMarks.token
      rfl
  have readFront : whenSees isLifetime Read.lifetime (front ++ (marks ++ (tokens ++ rest))) =
      some (front, marks ++ (tokens ++ rest)) :=
    whenSees_of_perhaps quoted sameFront
      (fun t place rest => by rintro ⟨name, rfl, -⟩; exact ⟨rfl, rfl⟩) noLifetime
  have readMarks : wordIf "mut" (marks ++ (tokens ++ rest)) = some (marks, tokens ++ rest) :=
    whenSees_of_perhaps mutable sameMarks (fun t place rest => by rintro rfl; exact ⟨rfl, rfl⟩)
      (typeFront rest).mutable
  refine ⟨.node .reference
    (operatorAt "&" (spanOf [operatorAt "&" place]) :: front ++ marks ++ [read]), ?_, ?_⟩
  · have step : Grammar.type (readers levels) plus
        (operatorAt "&" place :: (front ++ (marks ++ (tokens ++ rest)))) =
          (do
            let lifetime ← whenSees isLifetime Read.lifetime
            let mutability ← wordIf "mut"
            return .node .reference (operatorAt "&" (spanOf [operatorAt "&" place]) :: lifetime ++
              mutability ++ [← readers levels (.type false)]) : Read Tree)
            (front ++ (marks ++ (tokens ++ rest))) := rfl
    simp only [List.cons_append, List.append_assoc]
    change Grammar.type (readers levels) plus _ = _
    rw [step, bind_of_eq readFront, bind_of_eq readMarks, bind_of_eq taken]
    simp only [List.cons_append, List.append_assoc]
    rfl
  · simp only [Alike, unplacedAll, unplaced, unplacedAll_append, List.cons_append, List.append_assoc]
      at sameFront sameMarks same ⊢
    rw [sameFront, sameMarks, same]

/-- A pointer is read with its mark. -/
theorem rereadsType_pointer {name : String} {place other p q : Span} (mark : name ∈ ["const", "mut"])
    (h : RereadsType levels tokens [type]) :
    RereadsType (levels + 1) (operatorAt "*" place :: .token (.word name) other :: tokens)
      [.node .pointer [operatorAt "*" p, .token (.word name) q, type]] := by
  intro plus rest ends
  obtain ⟨read, taken, same⟩ := h false rest ends
  refine ⟨.node .pointer
    [operatorAt "*" (spanOf [operatorAt "*" place]), .token (.word name) other, read], ?_, ?_⟩
  · simp only [List.mem_cons, List.not_mem_nil, or_false] at mark
    have step : Grammar.type (readers levels) plus
        (operatorAt "*" place :: .token (.word name) other :: (tokens ++ rest)) =
          (do
            let read ← readers levels (.type false)
            return .node .pointer [operatorAt "*" (spanOf [operatorAt "*" place]),
              .token (.word name) other, read] : Read Tree) (tokens ++ rest) := by
      rcases mark with rfl | rfl <;> rfl
    change Grammar.type (readers levels) plus _ = _
    rw [List.cons_append, List.cons_append, step, bind_of_eq taken]
    rfl
  · simp only [Alike, unplacedAll, unplaced] at same ⊢
    rw [same]

theorem rereadsType_unit {p q opening closing : Span} (levels : Nat) :
    RereadsType (levels + 1) [.group .paren p q []] [.node .tuple [.group .paren opening closing []]] :=
  fun _ _ _ => ⟨_, rfl, rfl⟩

/-- Types with commas between them are read up to the end of their group. -/
def RereadsElements (levels : Nat) (tokens trees : List Tree) : Prop :=
  ∃ types, Alike types trees ∧ ∀ limit, tokens.length ≤ limit →
    repeatAtMost atEnd (do
      let first ← readers levels (.type true)
      if ← sees atEnd then return [first]
      return [first, ← op ","]) limit tokens = some (types, [])

theorem rereadsElements_nil (levels : Nat) : RereadsElements levels [] [] :=
  ⟨[], rfl, fun limit _ => repeatAtMost_of_stop rfl limit⟩

theorem RereadsType.last (front : ∀ rest, TypeFront (tokens ++ rest))
    (h : RereadsType levels tokens [type]) : RereadsElements levels tokens [type] := by
  obtain ⟨read, taken, same⟩ := h true [] endsType_nil
  have some := (front []).some
  rw [List.append_nil] at taken some
  refine ⟨[read], same, fun limit enough => ?_⟩
  have nonempty : 0 < tokens.length := List.length_pos_iff.mpr (by simpa [atEnd] using some)
  obtain ⟨fewer, rfl⟩ : ∃ fewer, limit = fewer + 1 :=
    Nat.exists_eq_add_of_le' (Nat.lt_of_lt_of_le nonempty enough)
  unfold repeatAtMost
  rw [sees_bind, some, if_neg Bool.false_ne_true]
  simp only [bind_assoc]
  rw [bind_of_eq taken]
  cases fewer <;> rfl

/-- A type before a comma is read, and then the others. -/
theorem RereadsElements.cons {comma place : Span} (front : ∀ rest, TypeFront (tokens ++ rest))
    (h : RereadsType levels tokens [type]) (hs : RereadsElements levels behind others) :
    RereadsElements levels (tokens ++ operatorAt "," comma :: behind)
      (type :: operatorAt "," place :: others) := by
  obtain ⟨read, taken, same⟩ := h true _ (endsType_comma comma behind)
  obtain ⟨types, alike, loop⟩ := hs
  refine ⟨read :: operatorAt "," (spanOf [operatorAt "," comma]) :: types, ?_, fun limit enough => ?_⟩
  · simp only [Alike, unplacedAll, unplaced, List.cons.injEq, and_true] at same alike ⊢
    exact ⟨same, trivial, alike⟩
  · have more : behind.length < limit := by
      simp only [List.length_append, List.length_cons] at enough
      omega
    obtain ⟨fewer, rfl⟩ : ∃ fewer, limit = fewer + 1 :=
      Nat.exists_eq_add_of_le' (Nat.zero_lt_of_lt more)
    have goesOn : atEnd (operatorAt "," comma :: behind) = false := rfl
    have separated : op "," (operatorAt "," comma :: behind) =
        some (operatorAt "," (spanOf [operatorAt "," comma]), behind) := rfl
    unfold repeatAtMost
    rw [sees_bind, (front _).some, if_neg Bool.false_ne_true]
    simp only [bind_assoc]
    rw [bind_of_eq taken, sees_bind, goesOn, if_neg Bool.false_ne_true]
    simp only [bind_assoc]
    rw [bind_of_eq separated]
    simp only [pure_bind]
    rw [bind_of_eq (loop fewer (Nat.le_of_lt_succ more))]
    rfl

/-- What is read inside parentheses stands in them. -/
theorem type_paren {self : Readers} {p q : Span} {role : Role} (own : role = .tuple ∨ role = .paren)
    (read : parenthesized self inner = some ((role, parts), [])) (ends : EndsType rest) :
    Grammar.type self plus (.group .paren p q inner :: rest) =
      some (.node role [.group .paren p q parts], rest) := by
  have stop : (plus && isOp "+" rest) = false := by rw [ends.stopped.plus, Bool.and_false]
  change parenType self plus (.group .paren p q inner :: rest) = _
  rcases own with rfl | rfl
  · simp only [parenType, read]
  · simp only [parenType, read, stop]

/-- What the inside of parentheses starts with is read as a type. -/
theorem parenthesized_eq {self : Readers} {answer : (Role × List Tree) × List Tree}
    (front : TypeFront tokens) (read : self (.type true) tokens = some (type, rest))
    (next : (do
      if ← sees (isOp ",") then
        let comma ← op ","
        let others ← separatedUntil atEnd "," (self (.type true))
        return (.tuple, type :: comma :: others)
      return (.paren, [type]) : Read (Role × List Tree)) rest = some answer) :
    parenthesized self tokens = some answer := by
  obtain ⟨some, lifetime, -, question, -, -⟩ := front
  unfold parenthesized
  rw [sees_bind, some, if_neg Bool.false_ne_true]
  rw [sees_bind, lifetime, if_neg Bool.false_ne_true]
  beta_reduce
  rw [sees_bind, question, if_neg Bool.false_ne_true]
  rw [bind_of_eq read]
  exact next

/-- A tuple is read with its types. -/
theorem rereadsType_tuple {p q opening closing comma place : Span}
    (front : ∀ rest, TypeFront (tokens ++ rest)) (h : RereadsType levels tokens [type])
    (hs : RereadsElements levels behind others) :
    RereadsType (levels + 1) [.group .paren p q (tokens ++ operatorAt "," comma :: behind)]
      [.node .tuple [.group .paren opening closing (type :: operatorAt "," place :: others)]] := by
  intro plus rest ends
  obtain ⟨read, taken, same⟩ := h true _ (endsType_comma comma behind)
  obtain ⟨types, alike, loop⟩ := hs
  have goesOn : isOp "," (operatorAt "," comma :: behind) = true := rfl
  have separated : op "," (operatorAt "," comma :: behind) =
      some (operatorAt "," (spanOf [operatorAt "," comma]), behind) := rfl
  have all : separatedUntil atEnd "," (readers levels (.type true)) behind = some (types, []) :=
    loop _ (Nat.le_succ _)
  refine ⟨.node .tuple [.group .paren p q
    (read :: operatorAt "," (spanOf [operatorAt "," comma]) :: types)],
    type_paren (.inl rfl) (parenthesized_eq (front _) taken ?_) ends, ?_⟩
  · rw [sees_bind, goesOn, if_pos rfl, bind_of_eq separated, bind_of_eq all]
    rfl
  · simp only [Alike, unplacedAll, unplaced, List.cons.injEq, and_true] at same alike ⊢
    rw [same, alike]

/-- A type in parentheses is read inside them. -/
theorem rereadsType_paren {p q opening closing : Span} (front : ∀ rest, TypeFront (tokens ++ rest))
    (h : RereadsType levels tokens [type]) :
    RereadsType (levels + 1) [.group .paren p q tokens]
      [.node .paren [.group .paren opening closing [type]]] := by
  intro plus rest ends
  obtain ⟨read, taken, same⟩ := h true _ endsType_nil
  have starts := front []
  rw [List.append_nil] at taken starts
  refine ⟨.node .paren [.group .paren p q [read]],
    type_paren (.inr rfl) (parenthesized_eq starts taken rfl) ends, ?_⟩
  simp only [Alike, unplacedAll, unplaced, List.cons.injEq, and_true] at same ⊢
  rw [same]

/-- A slice is read with its type. -/
theorem rereadsType_slice {p q opening closing : Span} (h : RereadsType levels tokens [type]) :
    RereadsType (levels + 1) [.group .bracket p q tokens]
      [.node .slice [.group .bracket opening closing [type]]] := by
  intro plus rest ends
  obtain ⟨read, taken, same⟩ := h true _ endsType_nil
  rw [List.append_nil] at taken
  refine ⟨.node .slice [.group .bracket p q [read]], ?_, ?_⟩
  · change bracketType (readers levels) (.group .bracket p q tokens :: rest) = _
    unfold bracketType
    dsimp only
    rw [bind_of_eq taken]
    rfl
  · simp only [Alike, unplacedAll, unplaced, List.cons.injEq, and_true] at same ⊢
    rw [same]

/-- An array is read with its type and the number of its elements. -/
theorem rereadsType_array {digits : String} {p q opening closing mark place other at' : Span}
    (h : RereadsType (levels + 2) tokens [type]) :
    RereadsType (levels + 3)
      [.group .bracket p q (tokens ++ [operatorAt ";" mark, .token (.literal .integer digits) at'])]
      [.node .array [.group .bracket opening closing
        [type, operatorAt ";" place, .token (.literal .integer digits) other]]] := by
  intro plus rest ends
  obtain ⟨read, taken, same⟩ := h true _ (endsType_semicolon mark [.token (.literal .integer digits) at'])
  refine ⟨.node .array [.group .bracket p q
    [read, operatorAt ";" (spanOf [operatorAt ";" mark]), .token (.literal .integer digits) at']], ?_, ?_⟩
  · have goesOn : isOp ";" [operatorAt ";" mark, .token (.literal .integer digits) at'] = true := rfl
    have separated : op ";" [operatorAt ";" mark, .token (.literal .integer digits) at'] =
        some (operatorAt ";" (spanOf [operatorAt ";" mark]), [.token (.literal .integer digits) at']) := rfl
    have count : readers (levels + 2) (.expression true) [.token (.literal .integer digits) at'] =
        some (.token (.literal .integer digits) at', []) := rfl
    change bracketType (readers (levels + 2)) (.group .bracket p q _ :: rest) = _
    unfold bracketType
    dsimp only
    rw [bind_of_eq taken, sees_bind, goesOn, if_pos rfl, bind_of_eq separated, bind_of_eq count]
    rfl
  · simp only [Alike, unplacedAll, unplaced, List.cons.injEq, and_true] at same ⊢
    rw [same]

theorem rereadsType_never {p place : Span} (levels : Nat) :
    RereadsType (levels + 1) [operatorAt "!" p] [operatorAt "!" place] :=
  fun _ _ _ => ⟨_, rfl, rfl⟩

theorem rereadsType_inferred {p place : Span} (levels : Nat) :
    RereadsType (levels + 1) [.token (.word "_") p] [.token (.word "_") place] :=
  fun _ _ _ => ⟨_, rfl, rfl⟩

end Nested

/-- A path is read as a type, with the `::` that it may start with. -/
theorem RereadsSegments.type {levels : Nat} {tokens trees : List Tree}
    (h : RereadsSegments levels tokens trees) (word : ∃ name place more,
      tokens = .token (.word name) place :: more ∧ IsSegmentWord name ∧ name ≠ "try") :
    RereadsType (levels + 1) tokens [.node .typePath [.node .path trees]] := by
  obtain ⟨name, place, more, rfl, own, other⟩ := word
  intro plus rest ends
  have leading : opIf "::" (.token (.word name) place :: (more ++ rest)) =
      some ([], .token (.word name) place :: more ++ rest) := rfl
  obtain ⟨path, read, same⟩ := h.path ends leading
  refine ⟨.node .typePath [path], ?_, ?_⟩
  · change Grammar.type (readers levels) plus (.token (.word name) place :: (more ++ rest)) = _
    rw [type_word own other]
    exact pathType_of_path rfl read ends
  · simp only [Alike, unplacedAll, unplaced, List.cons.injEq, and_true, List.nil_append] at same ⊢
    rw [same]

theorem RereadsSegments.absoluteType {levels : Nat} {tokens trees : List Tree} {p q place : Span}
    (h : RereadsSegments levels tokens trees)  :
    RereadsType (levels + 1) (.token (.punct ":" true) p :: .token (.punct ":" false) q :: tokens)
      [.node .typePath [.node .path (operatorAt "::" place :: trees)]] := by
  intro plus rest ends
  have leading : opIf "::" (.token (.punct ":" true) p :: .token (.punct ":" false) q :: (tokens ++ rest)) =
      some ([operatorAt "::" (p.join q)], tokens ++ rest) := rfl
  obtain ⟨path, read, same⟩ := h.path ends leading
  refine ⟨.node .typePath [path], ?_, ?_⟩
  · change pathType (readers levels) plus [] _ = _
    exact pathType_of_path rfl read ends
  · simp only [Alike, unplacedAll, unplaced, List.cons.injEq, and_true, List.cons_append, List.nil_append]
      at same ⊢
    rw [same]

/-! ### Parts of types -/

/-- What it means for a part to be read from its tokens. -/
def Rereads : PlainPart → Nat → List Tree → List Tree → Prop
  | .type => RereadsType
  | .elements => RereadsElements
  | .segment => RereadsSegment
  | .segments => RereadsSegments
  | .argument => RereadsArgument false
  | .arguments lifetimes => RereadsArguments lifetimes

/-- The levels of the reader that suffice for a part of this size. -/
def Suffices (size levels : Nat) : PlainPart → Prop
  | .type | .elements => 2 * size ≤ levels
  | .segment | .segments => 2 * size ≤ levels + 1
  | .argument | .arguments _ => 2 * size + 1 ≤ levels

/-- A part is read from its tokens, at whatever places, by readers with enough levels. -/
def ReadAgain (part : PlainPart) (trees : List Tree) : Prop :=
  ∀ tokens levels, Alike tokens (tokensOf trees) → Suffices (sizeOfAll tokens) levels part →
    Rereads part levels tokens trees

namespace ReadAgain

variable {type segment argument : Tree} {parts elements arguments : List Tree} {name digits : String}
  {place other opening closing comma : Span} {lifetimes : Bool}

theorem path (starts : StartsType parts) (plain : Plain .segments parts) (h : ReadAgain .segments parts) :
    ReadAgain .type [.node .typePath [.node .path parts]] := by
  intro tokens levels same enough
  rw [tokensOf_node, tokensOf_node] at same
  obtain ⟨name, place, more, rfl, word, apart⟩ := plain.exists_tokens same
  simp only [Suffices, sizeOfAll, Tree.size] at enough
  obtain ⟨fewer, rfl⟩ : ∃ fewer, levels = fewer + 1 := Nat.exists_eq_add_of_le' (by omega)
  refine RereadsSegments.type (h _ _ same ?_) ⟨name, place, more, rfl, word, apart starts⟩
  simp only [Suffices, sizeOfAll, Tree.size]
  omega

theorem absolute (h : ReadAgain .segments parts) :
    ReadAgain .type [.node .typePath [.node .path (operatorAt "::" place :: parts)]] := by
  intro tokens levels same enough
  rw [tokensOf_node, tokensOf_node] at same
  obtain ⟨p, rest, rfl, behind⟩ := Alike.token (t := .punct ":" true) same
  obtain ⟨q, tokens, rfl, inside⟩ := Alike.token (t := .punct ":" false) behind
  simp only [Suffices, sizeOfAll, Tree.size] at enough
  obtain ⟨fewer, rfl⟩ : ∃ fewer, levels = fewer + 1 := Nat.exists_eq_add_of_le' (by omega)
  refine RereadsSegments.absoluteType (h _ _ inside ?_)
  simp only [Suffices]
  omega

theorem reference {lifetime mutability : List Tree}
    (quoted : Perhaps (fun t => ∃ name, t = .lifetime name ∧ IsWordText name) lifetime)
    (mutable : Perhaps (· = .word "mut") mutability) (plain : Plain .type [type])
    (h : ReadAgain .type [type]) :
    ReadAgain .type [.node .reference (operatorAt "&" place :: lifetime ++ mutability ++ [type])] := by
  intro tokens levels same enough
  rw [tokensOf_node] at same
  have whole : Alike tokens (operatorAt "&" place :: tokensOf (lifetime ++ mutability ++ [type])) := same
  obtain ⟨p, rest, rfl, behind⟩ := whole.token
  rw [tokensOf_append, tokensOf_append, quoted.tokensOf_eq (by simp), mutable.tokensOf_eq (by simp),
    List.append_assoc] at behind
  obtain ⟨front, back, rfl, sameFront, behind⟩ := behind.append
  obtain ⟨marks, tokens, rfl, sameMarks, sameType⟩ := behind.append
  simp only [Suffices, sizeOfAll, sizeOfAll_append, Tree.size] at enough
  obtain ⟨fewer, rfl⟩ : ∃ fewer, levels = fewer + 1 := Nat.exists_eq_add_of_le' (by omega)
  refine rereadsType_reference quoted mutable sameFront sameMarks (plain.typeFront sameType)
    (h _ _ sameType ?_)
  simp only [Suffices]
  omega

theorem pointer (mark : name ∈ ["const", "mut"]) (h : ReadAgain .type [type]) :
    ReadAgain .type [.node .pointer [operatorAt "*" place, .token (.word name) other, type]] := by
  intro tokens levels same enough
  rw [tokensOf_node] at same
  obtain ⟨p, rest, rfl, behind⟩ := Alike.token (t := .punct "*" false) same
  obtain ⟨q, tokens, rfl, inside⟩ := Alike.token (t := .word name) behind
  simp only [Suffices, sizeOfAll, Tree.size] at enough
  obtain ⟨fewer, rfl⟩ : ∃ fewer, levels = fewer + 1 := Nat.exists_eq_add_of_le' (by omega)
  refine rereadsType_pointer mark (h _ _ inside ?_)
  simp only [Suffices]
  omega

theorem unit : ReadAgain .type [.node .tuple [.group .paren opening closing []]] := by
  intro tokens levels same enough
  obtain ⟨p, q, within, rfl, inside⟩ := same.enclosed
  obtain rfl := inside.eq_nil
  simp only [Suffices, sizeOfAll, Tree.size] at enough
  obtain ⟨fewer, rfl⟩ : ∃ fewer, levels = fewer + 1 := Nat.exists_eq_add_of_le' (by omega)
  exact rereadsType_unit fewer

theorem tuple (plain : Plain .type [type]) (h : ReadAgain .type [type]) (hs : ReadAgain .elements elements) :
    ReadAgain .type
      [.node .tuple [.group .paren opening closing (type :: operatorAt "," comma :: elements)]] := by
  intro tokens levels same enough
  obtain ⟨p, q, within, rfl, inside⟩ := same.enclosed
  obtain ⟨front, mark, behind, rfl, sameType, sameOthers⟩ := inside.separated rfl
  simp only [Suffices, sizeOfAll, sizeOfAll_append, Tree.size] at enough
  obtain ⟨fewer, rfl⟩ : ∃ fewer, levels = fewer + 1 := Nat.exists_eq_add_of_le' (by omega)
  refine rereadsType_tuple (plain.typeFront sameType) (h _ _ sameType ?_) (hs _ _ sameOthers ?_)
  · simp only [Suffices]
    omega
  · simp only [Suffices]
    omega

theorem paren (plain : Plain .type [type]) (h : ReadAgain .type [type]) :
    ReadAgain .type [.node .paren [.group .paren opening closing [type]]] := by
  intro tokens levels same enough
  obtain ⟨p, q, within, rfl, inside⟩ := same.enclosed
  simp only [Suffices, sizeOfAll, Tree.size] at enough
  obtain ⟨fewer, rfl⟩ : ∃ fewer, levels = fewer + 1 := Nat.exists_eq_add_of_le' (by omega)
  refine rereadsType_paren (plain.typeFront inside) (h _ _ inside ?_)
  simp only [Suffices]
  omega

theorem slice (h : ReadAgain .type [type]) :
    ReadAgain .type [.node .slice [.group .bracket opening closing [type]]] := by
  intro tokens levels same enough
  obtain ⟨p, q, within, rfl, inside⟩ := same.enclosed
  simp only [Suffices, sizeOfAll, Tree.size] at enough
  obtain ⟨fewer, rfl⟩ : ∃ fewer, levels = fewer + 1 := Nat.exists_eq_add_of_le' (by omega)
  refine rereadsType_slice (h _ _ inside ?_)
  simp only [Suffices]
  omega

theorem array (h : ReadAgain .type [type]) :
    ReadAgain .type [.node .array [.group .bracket opening closing
      [type, operatorAt ";" place, .token (.literal .integer digits) other]]] := by
  intro tokens levels same enough
  obtain ⟨p, q, within, rfl, inside⟩ := same.enclosed
  obtain ⟨front, mark, behind, rfl, sameType, number⟩ := inside.separated rfl
  obtain ⟨count, rest, rfl, nothing⟩ := Alike.token (t := .literal .integer digits) number
  obtain rfl := nothing.eq_nil
  simp only [Suffices, sizeOfAll, sizeOfAll_append, Tree.size] at enough
  obtain ⟨fewer, rfl⟩ : ∃ fewer, levels = fewer + 3 := Nat.exists_eq_add_of_le' (by omega)
  refine rereadsType_array (h _ _ sameType ?_)
  simp only [Suffices]
  omega

theorem never : ReadAgain .type [operatorAt "!" place] := by
  intro tokens levels same enough
  obtain ⟨p, rest, rfl, nothing⟩ := Alike.token (t := .punct "!" false) same
  obtain rfl := nothing.eq_nil
  simp only [Suffices, sizeOfAll, Tree.size] at enough
  obtain ⟨fewer, rfl⟩ : ∃ fewer, levels = fewer + 1 := Nat.exists_eq_add_of_le' (by omega)
  exact rereadsType_never fewer

theorem inferred : ReadAgain .type [.token (.word "_") place] := by
  intro tokens levels same enough
  obtain ⟨p, rest, rfl, nothing⟩ := Alike.token (t := .word "_") same
  obtain rfl := nothing.eq_nil
  simp only [Suffices, sizeOfAll, Tree.size] at enough
  obtain ⟨fewer, rfl⟩ : ∃ fewer, levels = fewer + 1 := Nat.exists_eq_add_of_le' (by omega)
  exact rereadsType_inferred fewer

theorem noElements : ReadAgain .elements [] := by
  intro tokens levels same _
  obtain rfl := Alike.eq_nil same
  exact rereadsElements_nil levels

theorem lastElement (plain : Plain .type [type]) (h : ReadAgain .type [type]) : ReadAgain .elements [type] :=
  fun _ _ same enough => RereadsType.last (plain.typeFront same) (h _ _ same enough)

theorem element (plain : Plain .type [type]) (h : ReadAgain .type [type])
    (hs : ReadAgain .elements elements) : ReadAgain .elements (type :: operatorAt "," comma :: elements) := by
  intro tokens levels same enough
  obtain ⟨front, mark, behind, rfl, sameType, sameOthers⟩ := same.separated rfl
  simp only [Suffices, sizeOfAll, sizeOfAll_append, Tree.size] at enough
  refine RereadsElements.cons (plain.typeFront sameType) (h _ _ sameType ?_) (hs _ _ sameOthers ?_)
  · simp only [Suffices]
    omega
  · simp only [Suffices]
    omega

theorem bare (word : IsPathWord name) : ReadAgain .segment [.node .segment [.token (.word name) place]] := by
  intro tokens levels same _ rest noArguments
  rw [tokensOf_node] at same
  obtain ⟨p, more, rfl, nothing⟩ := Alike.token (t := .word name) same
  obtain rfl := nothing.eq_nil
  exact rereadsSegment_bare word rest noArguments

theorem applied {colons : List Tree} (free : name = "Self" ∨ isKeyword name = false)
    (front : Perhaps (· = .punct "::" false) colons) (h : ReadAgain (.arguments true) arguments) :
    ReadAgain .segment [.node .segment [.token (.word name) place, .node .angleArguments
      (colons ++ operatorAt "<" opening :: arguments ++ [operatorAt ">" closing])]] := by
  intro tokens levels same enough rest _
  rw [tokensOf_node] at same
  have whole : Alike tokens (.token (.word name) place :: tokensOf [.node .angleArguments
    (colons ++ operatorAt "<" opening :: arguments ++ [operatorAt ">" closing])]) := same
  obtain ⟨p, after, rfl, behind⟩ := whole.token
  rw [tokensOf_node, tokensOf_append, tokensOf_append] at behind
  obtain ⟨inner, back, rfl, sameInner, sameBack⟩ := behind.append
  obtain ⟨lead, within, rfl, sameLead, sameOpened⟩ := sameInner.append
  obtain ⟨o, written, rfl, sameArguments⟩ := Alike.token (t := .punct "<" false) sameOpened
  obtain ⟨c, nothing, rfl, none_left⟩ := Alike.token (t := .punct ">" false) sameBack
  obtain rfl := none_left.eq_nil
  simp only [Suffices, sizeOfAll, sizeOfAll_append, Tree.size] at enough
  have all : RereadsArguments true levels written arguments := by
    refine h _ _ sameArguments ?_
    simp only [Suffices]
    omega
  obtain ⟨found, leading, alikeColons, follow⟩ :=
    leading_of_perhaps o (written ++ operatorAt ">" c :: rest) front sameLead
  obtain ⟨tree, read, alike⟩ := all.angle opening closing leading alikeColons
  refine ⟨.node .segment [.token (.word name) p, tree], ?_, ?_⟩
  · simpa only [List.append_assoc, List.cons_append, List.nil_append] using segment_applied free follow read
  · simp only [Alike, unplacedAll, unplaced, List.cons.injEq, and_true] at alike ⊢
    rw [alike]

theorem lastSegment (h : ReadAgain .segment [segment]) : ReadAgain .segments [segment] :=
  fun _ _ same enough => RereadsSegment.single (h _ _ same enough)

theorem moreSegments (plain : Plain .segments parts) (h : ReadAgain .segment [segment])
    (hs : ReadAgain .segments parts) : ReadAgain .segments (segment :: operatorAt "::" place :: parts) := by
  intro tokens levels same enough
  rw [tokensOf_cons] at same
  obtain ⟨front, back, rfl, sameFirst, sameBack⟩ := same.append
  obtain ⟨p, rest, rfl, behind⟩ := Alike.token (t := .punct ":" true) sameBack
  obtain ⟨q, tokens, rfl, sameOthers⟩ := Alike.token (t := .punct ":" false) behind
  obtain ⟨name, other, more, rfl, -⟩ := plain.exists_tokens sameOthers
  simp only [Suffices, sizeOfAll, sizeOfAll_append, Tree.size] at enough
  refine RereadsSegments.cons (h _ _ sameFirst ?_) (hs _ _ sameOthers ?_) ⟨name, other, more, rfl⟩
  · simp only [Suffices]
    omega
  · simp only [Suffices, sizeOfAll, Tree.size]
    omega

theorem typeArgument (plain : Plain .type [type]) (h : ReadAgain .type [type]) :
    ReadAgain .argument [type] := by
  intro tokens levels same enough
  simp only [Suffices] at enough
  obtain ⟨fewer, rfl⟩ : ∃ fewer, levels = fewer + 1 := Nat.exists_eq_add_of_le' (by omega)
  refine RereadsType.argument (h _ _ same ?_) (plain.typeFront same) fun argument =>
    plain.isLifetimeArgument_eq
  simp only [Suffices]
  omega

theorem constant : ReadAgain .argument [.node .constArgument [.token (.literal .integer digits) place]] := by
  intro tokens levels same enough
  rw [tokensOf_node] at same
  obtain ⟨p, rest, rfl, nothing⟩ := Alike.token (t := .literal .integer digits) same
  obtain rfl := nothing.eq_nil
  simp only [Suffices] at enough
  obtain ⟨fewer, rfl⟩ : ∃ fewer, levels = fewer + 1 := Nat.exists_eq_add_of_le' (by omega)
  exact rereadsArgument_number fewer

theorem noArguments : ReadAgain (.arguments lifetimes) [] := by
  intro tokens levels same _
  obtain rfl := Alike.eq_nil same
  exact rereadsArguments_nil levels lifetimes

theorem lastLifetime : ReadAgain (.arguments true) [.token (.lifetime name) place] := by
  intro tokens levels same enough
  obtain ⟨p, rest, rfl, nothing⟩ := Alike.token (t := .lifetime name) same
  obtain rfl := nothing.eq_nil
  simp only [Suffices] at enough
  obtain ⟨fewer, rfl⟩ : ∃ fewer, levels = fewer + 1 := Nat.exists_eq_add_of_le' (by omega)
  exact (rereadsArgument_lifetime fewer).last (fun _ => rfl) fun _ => rfl

theorem lifetime (h : ReadAgain (.arguments true) arguments) :
    ReadAgain (.arguments true) (.token (.lifetime name) place :: operatorAt "," comma :: arguments) := by
  intro tokens levels same enough
  obtain ⟨front, mark, behind, rfl, sameFirst, sameOthers⟩ := same.separated rfl
  obtain ⟨p, rest, rfl, nothing⟩ := Alike.token (t := .lifetime name) sameFirst
  obtain rfl := nothing.eq_nil
  simp only [Suffices, sizeOfAll, sizeOfAll_append, Tree.size] at enough
  obtain ⟨fewer, rfl⟩ : ∃ fewer, levels = fewer + 1 := Nat.exists_eq_add_of_le' (by omega)
  refine .cons (rereadsArgument_lifetime fewer) (h _ _ sameOthers ?_) (fun _ => rfl) fun _ => rfl
  simp only [Suffices]
  omega

/-- No bracket closes where a plain argument stands. -/
theorem closing_eq {tokens : List Tree} (plain : Plain .argument [argument])
    (same : Alike tokens (tokensOf [argument])) (rest : List Tree) : isOp ">" (tokens ++ rest) = false := by
  cases plain with
  | typeArgument plain => exact (plain.typeFront same rest).closing
  | constant =>
    obtain ⟨p, rest, rfl, -⟩ := Alike.token (t := .literal .integer _) same
    rfl

theorem lastArgument (plain : Plain .argument [argument]) (h : ReadAgain .argument [argument]) :
    ReadAgain (.arguments lifetimes) [argument] := by
  intro tokens levels same enough
  have own : RereadsArgument false levels tokens [argument] := h _ _ same enough
  exact own.last (closing_eq plain same) fun kind => absurd kind Bool.false_ne_true

theorem moreArguments (plain : Plain .argument [argument]) (h : ReadAgain .argument [argument])
    (hs : ReadAgain (.arguments false) arguments) :
    ReadAgain (.arguments lifetimes) (argument :: operatorAt "," comma :: arguments) := by
  intro tokens levels same enough
  obtain ⟨front, mark, behind, rfl, sameFirst, sameOthers⟩ := same.separated rfl
  simp only [Suffices, sizeOfAll, sizeOfAll_append, Tree.size] at enough
  have own : RereadsArgument false levels front [argument] := by
    refine h _ _ sameFirst ?_
    simp only [Suffices]
    omega
  refine .cons own (hs _ _ sameOthers ?_) (closing_eq plain sameFirst) fun kind =>
    absurd kind Bool.false_ne_true
  simp only [Suffices]
  omega

end ReadAgain

end Grammar

/-- Every part of a plain type is read again from its tokens. -/
theorem Plain.readAgain {part : PlainPart} {trees : List Tree} (h : Plain part trees) :
    Grammar.ReadAgain part trees := by
  induction h with
  | path starts plain ih => exact .path starts plain ih
  | absolute _ _ ih => exact .absolute ih
  | reference _ quoted mutable plain ih => exact .reference quoted mutable plain ih
  | pointer _ _ mark _ ih => exact .pointer mark ih
  | unit => exact .unit
  | tuple _ _ _ plain _ ih others => exact .tuple plain ih others
  | paren _ _ plain ih => exact .paren plain ih
  | slice _ _ _ ih => exact .slice ih
  | array _ _ _ _ _ _ ih => exact .array ih
  | never => exact .never
  | inferred => exact .inferred
  | noElements => exact .noElements
  | lastElement plain ih => exact .lastElement plain ih
  | element _ plain _ ih others => exact .element plain ih others
  | bare _ word => exact .bare word
  | applied _ _ _ _ free front _ ih => exact .applied free front ih
  | lastSegment _ ih => exact .lastSegment ih
  | moreSegments _ _ plain ih others => exact .moreSegments plain ih others
  | typeArgument plain ih => exact .typeArgument plain ih
  | constant => exact .constant
  | noArguments => exact .noArguments
  | lastLifetime => exact .lastLifetime
  | lifetime _ _ _ _ ih => exact .lifetime ih
  | lastArgument _ plain ih => exact .lastArgument plain ih
  | moreArguments _ _ plain _ ih others => exact .moreArguments plain ih others

/-- A plain type is read back from its text. -/
theorem Plain.readsBack {type : Tree} (h : Plain .type [type]) : type.ReadsBack := by
  obtain ⟨placed, scanned, same⟩ := exists_ofText?_textOf h.legibleAll
  obtain ⟨again, read, alike⟩ := h.readAgain placed (4 * sizeOfAll placed + 8) same
    (by simp only [Grammar.Suffices]; omega) true [] endsType_nil
  rw [List.append_nil] at read
  have found : typeOfText? type.text = some again := by
    rw [typeOfText?, text, scanned, Option.bind_some, readAll?, readersFor, all?, read]
  rw [ReadsBack, found, Option.map_some, (List.cons.inj alike).1]

end RecordMapper.Code
