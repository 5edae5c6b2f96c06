/-
A reader of the grammar leaves an end of the trees that it is given: it takes from the front and puts nothing
back that was not there. The operations that put readers together keep this, and so does every part of the
grammar, at every depth. What a reader says about the inside of a group does not matter for it, since the
group itself is one tree.
-/
import RecordMapper.Code.Grammar

namespace RecordMapper.Code

namespace Read

/-- A reader leaves an end of the trees that it is given. -/
class Consumes {α : Type} (reader : Read α) : Prop where
  suffix : ∀ {trees rest : List Tree} {answer : α}, reader trees = some (answer, rest) → rest <:+ trees

/-! ## Operations -/

section Operations

variable {α β : Type}

instance (answer : α) : Consumes (pure answer : Read α) where
  suffix := by
    rintro trees rest _ ⟨⟩
    exact List.suffix_refl trees

instance : Consumes (fail : Read α) where
  suffix := nofun

instance (reader : Read α) (next : α → Read β) [Consumes reader] [∀ answer, Consumes (next answer)] :
    Consumes (reader >>= next) where
  suffix found := by
    obtain ⟨⟨first, between⟩, read, found⟩ := Option.bind_eq_some_iff.mp found
    exact (Consumes.suffix found).trans (Consumes.suffix read)

instance (test : Prop) [Decidable test] (first second : Read α) [Consumes first] [Consumes second] :
    Consumes (if test then first else second) := by
  split <;> infer_instance

instance : Consumes (get : Read (List Tree)) where
  suffix := by
    rintro trees rest answer ⟨⟩
    exact List.suffix_refl trees

instance (test : List Tree → Bool) : Consumes (sees test) := by
  unfold sees
  infer_instance

instance : Consumes next where
  suffix := by
    intro trees rest tree found
    unfold next at found
    split at found
    · cases found
      exact List.suffix_cons tree rest
    · cases found

instance (test : List Tree → Bool) : Consumes (nextIf test) := by
  unfold nextIf
  infer_instance

instance (text : String) : Consumes (op text) where
  suffix := by
    intro trees rest tree found
    unfold op at found
    split at found
    · cases found
      exact List.drop_suffix _ trees
    · cases found

instance (text : String) : Consumes (word text) := inferInstanceAs (Consumes (nextIf _))

instance : Consumes anyWord := inferInstanceAs (Consumes (nextIf _))

instance : Consumes name := inferInstanceAs (Consumes (nextIf _))

instance : Consumes lifetime := inferInstanceAs (Consumes (nextIf _))

instance : Consumes anyGroup := inferInstanceAs (Consumes (nextIf _))

instance : Consumes literal := by
  unfold literal
  infer_instance

/-- A group is one tree, whatever stands inside. -/
instance (delimiter : Delimiter) (inside : Read (List Tree)) : Consumes (group delimiter inside) where
  suffix := by
    intro trees rest tree found
    unfold group at found
    split at found
    · split at found
      · split at found
        · cases found
          exact List.suffix_cons _ rest
        · cases found
      · cases found
    · cases found

instance (test : List Tree → Bool) (reader : Read Tree) [Consumes reader] :
    Consumes (whenSees test reader) := by
  unfold whenSees
  infer_instance

instance (text : String) : Consumes (opIf text) := inferInstanceAs (Consumes (whenSees _ _))

instance (text : String) : Consumes (wordIf text) := inferInstanceAs (Consumes (whenSees _ _))

instance (stop : List Tree → Bool) (reader : Read (List Tree)) [Consumes reader] (limit : Nat) :
    Consumes (repeatAtMost stop reader limit) := by
  induction limit with
  | zero =>
    unfold repeatAtMost
    infer_instance
  | succ limit ih =>
    unfold repeatAtMost
    infer_instance

instance (stop : List Tree → Bool) (reader : Read (List Tree)) [Consumes reader] :
    Consumes (repeatUntil stop reader) := by
  unfold repeatUntil
  infer_instance

instance (more : List Tree → Bool) (reader : Read (List Tree)) [Consumes reader] :
    Consumes (repeatWhile more reader) := by
  unfold repeatWhile
  infer_instance

instance (stop : List Tree → Bool) (separator : String) (part : Read Tree) [Consumes part] :
    Consumes (separatedUntil stop separator part) := by
  unfold separatedUntil
  infer_instance

instance (separator : String) (more : List Tree → Bool) (part : Read Tree) [Consumes part] (limit : Nat) :
    Consumes (separatedAtMost separator more part limit) := by
  induction limit with
  | zero =>
    unfold separatedAtMost
    infer_instance
  | succ limit ih =>
    unfold separatedAtMost
    infer_instance

instance (separator : String) (more : List Tree → Bool) (part : Read Tree) [Consumes part] :
    Consumes (separatedWhile separator more part) := by
  unfold separatedWhile
  infer_instance

instance (reader : Read α) [Consumes reader] : Consumes (written reader) := by
  unfold written
  infer_instance

instance (role : Role) (reader : Read (Option Tree)) [Consumes reader] : Consumes (orWritten role reader) := by
  unfold orWritten
  infer_instance

/-- What is made of an answer does not change what is left. -/
theorem suffix_of_map {reader : Read α} [Consumes reader] {change : α × List Tree → β × List Tree}
    {trees rest : List Tree} {answer : β} (found : (reader trees).map change = some (answer, rest))
    (keeps : ∀ read, (change read).2 = read.2) : rest <:+ trees := by
  obtain ⟨⟨first, left⟩, read, same⟩ := Option.map_eq_some_iff.mp found
  have kept := keeps (first, left)
  rw [same] at kept
  obtain rfl : rest = left := kept
  exact Consumes.suffix read

theorem get_bind (next : List Tree → Read α) (trees : List Tree) :
    ((get : Read (List Tree)) >>= next) trees = next trees trees := rfl

theorem set_bind (left : List Tree) (next : PUnit → Read α) (trees : List Tree) :
    ((set left : Read PUnit) >>= next) trees = next ⟨⟩ left := rfl

/-- What follows a reader may depend on what was read. -/
theorem Consumes.after {reader : Read α} {next : α → Read β} [Consumes reader]
    (h : ∀ answer, Consumes (next answer)) : Consumes (reader >>= next) := inferInstance

theorem Consumes.otherwise {test : Prop} [Decidable test] {first second : Read α} [Consumes first]
    (h : Consumes second) : Consumes (if test then first else second) := inferInstance

end Operations

end Read

namespace Grammar

open Read

section Parts

-- a reader with many alternatives takes many instances
set_option synthInstance.maxSize 500

variable (self : Readers) [∀ part, Consumes (self part)]

/-! ## Paths -/

instance (argument : Read Tree) [Consumes argument] (limit : Nat) : Consumes (argumentsAtMost argument limit) := by
  induction limit with
  | zero =>
    unfold argumentsAtMost
    infer_instance
  | succ limit ih =>
    unfold argumentsAtMost
    infer_instance

instance : Consumes (angleArguments self) := by
  unfold angleArguments
  infer_instance

instance (place : PathPlace) : Consumes (segment self place) := by
  unfold segment
  infer_instance

instance (place : PathPlace) : Consumes (pathParts self place) := by
  unfold pathParts
  infer_instance

instance (place : PathPlace) : Consumes (path self place) := by
  unfold path
  infer_instance

instance (place : PathPlace) : Consumes (qualifiedPath self place) := by
  unfold qualifiedPath
  infer_instance

instance : Consumes plainPath := by
  unfold plainPath
  infer_instance

/-! ## Types -/

instance : Consumes binder := by
  unfold binder
  infer_instance

instance : Consumes binderIf := by
  unfold binderIf
  infer_instance

instance (plus : Bool) : Consumes (resultType self plus) := by
  unfold resultType
  infer_instance

instance : Consumes (callArguments self) := by
  unfold callArguments
  infer_instance

instance : Consumes (boundPath self) := by
  unfold boundPath
  infer_instance

instance : Consumes (traitBound self) := by
  unfold traitBound
  infer_instance

instance : Consumes (bound self) := by
  unfold bound
  infer_instance

instance (plus : Bool) : Consumes (boundList self plus) := by
  unfold boundList
  infer_instance

instance (stop : List Tree → Bool) : Consumes (boundsUntil self stop) := by
  unfold boundsUntil
  infer_instance

instance : Consumes (constArgument self) := by
  unfold constArgument
  infer_instance

instance : Consumes (genericArgument self) := by
  unfold genericArgument
  refine .after fun _ => .otherwise (.after fun _ => .otherwise (.after fun type => ?_))
  split <;> infer_instance

instance : Consumes macroTail := by
  unfold macroTail
  infer_instance

instance : Consumes callingConvention := by
  unfold callingConvention
  infer_instance

instance : Consumes attributes := by
  unfold attributes
  infer_instance

instance : Consumes (functionType self) := by
  unfold functionType
  infer_instance

instance (plus : Bool) : Consumes (parenType self plus) where
  suffix := by
    intro trees rest tree found
    unfold parenType at found
    split at found
    · next opening closing inner after =>
      refine List.IsSuffix.trans ?_ (List.suffix_cons _ after)
      split at found
      · next role parts _ =>
        dsimp only at found
        split at found
        · split at found
          · exact suffix_of_map found fun _ => rfl
          · cases found
            exact List.suffix_refl _
        · split at found
          · exact suffix_of_map found fun _ => rfl
          · cases found
            exact List.suffix_refl _
        · cases found
          exact List.suffix_refl _
      · cases found
    · cases found

instance (plus : Bool) (binder : List Tree) : Consumes (pathType self plus binder) := by
  unfold pathType
  refine .after fun parts => ?_
  split <;> infer_instance

instance : Consumes (bracketType self) where
  suffix := by
    intro trees rest tree found
    unfold bracketType at found
    split at found
    · dsimp only at found
      split at found
      · cases found
        exact List.suffix_cons _ rest
      · cases found
    · cases found

instance (plus : Bool) : Consumes (type self plus) := by
  unfold type
  dsimp only
  repeat refine .after fun _ => .otherwise ?_
  infer_instance

/-! ## Values -/

instance : Consumes innerAttributes := by
  unfold innerAttributes
  infer_instance

instance : Consumes rangeOperator := by
  unfold rangeOperator
  infer_instance

instance : Consumes (patternBound self) := by
  unfold patternBound
  infer_instance

instance : Consumes (patternRange self) := by
  unfold patternRange
  infer_instance

instance : Consumes (singlePattern self) := by
  unfold singlePattern
  dsimp only
  repeat refine .after fun _ => .otherwise ?_
  infer_instance

instance (alternatives : Bool) : Consumes (pattern self alternatives) := by
  unfold pattern
  infer_instance

instance (records : Bool) : Consumes (pathExpression self records) := by
  unfold pathExpression
  infer_instance

instance (records : Bool) : Consumes (closure self records) := by
  unfold closure
  infer_instance

instance : Consumes (conditional self) := by
  unfold conditional
  infer_instance

instance : Consumes (matchExpression self) := by
  unfold matchExpression
  infer_instance

instance : Consumes (parenExpression self) := by
  unfold parenExpression
  refine .after fun inside => ?_
  split <;> infer_instance

instance : Consumes (bracketExpression self) := by
  unfold bracketExpression
  infer_instance

instance (records : Bool) : Consumes (jump self records) := by
  unfold jump
  infer_instance

instance (records : Bool) : Consumes (atom self records) := by
  unfold atom
  repeat refine .after fun _ => .otherwise ?_
  infer_instance

instance : Consumes (member self) := by
  unfold member
  infer_instance

instance (first : Tree) (limit : Nat) : Consumes (trailers self first limit) := by
  induction limit generalizing first with
  | zero =>
    unfold trailers
    infer_instance
  | succ limit ih =>
    unfold trailers
    infer_instance

instance (records : Bool) : Consumes (operand self records) := by
  unfold operand
  infer_instance

instance (records : Bool) (limit : Nat) : Consumes (operationRest self records limit) := by
  induction limit with
  | zero =>
    unfold operationRest
    infer_instance
  | succ limit ih =>
    unfold operationRest
    refine .after fun _ => .otherwise (.after fun _ => .otherwise (.after fun trees => ?_))
    split <;> infer_instance

instance (records : Bool) : Consumes (expression self records) := by
  unfold expression
  infer_instance

instance : Consumes (block self) := by
  unfold block
  infer_instance

/-! ## Items -/

instance : Consumes (outerAttributes self) := by
  unfold outerAttributes
  infer_instance

instance : Consumes (enclosedAttributes self) := by
  unfold enclosedAttributes
  infer_instance

instance : Consumes visibility := by
  unfold visibility
  refine .after fun isPublic => ?_
  split
  · refine .after fun pubWord => ⟨?_⟩
    intro trees rest parts found
    rw [get_bind] at found
    split at found
    · next opening closing inner after =>
      split at found
      · -- a restriction is taken by going on behind it
        rw [set_bind] at found
        dsimp only at found
        exact (Consumes.suffix found).trans (List.suffix_cons _ after)
      · cases found
        exact List.suffix_refl _
    · cases found
      exact List.suffix_refl _
  · infer_instance

instance : Consumes declaredName := by
  unfold declaredName
  infer_instance

instance : Consumes (genericParameter self) := by
  unfold genericParameter
  refine .after fun attributes => ?_
  dsimp only
  repeat refine .after fun _ => .otherwise ?_
  infer_instance

instance : Consumes (generics self) := by
  unfold generics
  infer_instance

instance : Consumes (condition self) := by
  unfold condition
  infer_instance

instance : Consumes (conditions self) := by
  unfold conditions
  infer_instance

instance : Consumes (namedField self) := by
  unfold namedField
  infer_instance

instance : Consumes (namedFields self) := by
  unfold namedFields
  infer_instance

instance : Consumes (positionalFields self) := by
  unfold positionalFields
  infer_instance

instance : Consumes (recordBody self) := by
  unfold recordBody
  infer_instance

instance (safe : Bool) : Consumes (functionQualifiers safe) := by
  unfold functionQualifiers
  infer_instance

instance (safe : Bool) : Consumes (signature self safe) := by
  unfold signature
  infer_instance

instance : Consumes (function self) := by
  unfold function
  infer_instance

instance : Consumes (valueIf self) := by
  unfold valueIf
  infer_instance

instance (needsValue : Bool) : Consumes (constant self needsValue) := by
  unfold constant
  infer_instance

instance : Consumes (staticItem self) := by
  unfold staticItem
  infer_instance

instance : Consumes (aliasBounds self) := by
  unfold aliasBounds
  infer_instance

instance : Consumes (typeIf self) := by
  unfold typeIf
  infer_instance

instance (place : ConditionsPlace) : Consumes (typeAlias self place) := by
  unfold typeAlias
  infer_instance

instance (roots : Bool) : Consumes (useTree self roots) := by
  unfold useTree
  infer_instance

instance : Consumes (useItem self) := by
  unfold useItem
  infer_instance

instance (named : Bool) : Consumes (macroItem named) := by
  unfold macroItem
  infer_instance

instance : Consumes macroDefinition := by
  unfold macroDefinition
  infer_instance

/-- Members stand in a group. -/
instance (part : Read Tree) : Consumes (braced self part) := by
  unfold braced
  infer_instance

instance : Consumes (foreignModule self) := by
  unfold foreignModule
  infer_instance

instance : Consumes implConst := by
  unfold implConst
  infer_instance

instance : Consumes (subject self) := by
  unfold subject
  infer_instance

instance (isPublic : Bool) : Consumes (implementation self isPublic) := by
  unfold implementation
  infer_instance

instance : Consumes (traitItem self) := by
  unfold traitItem
  infer_instance

instance : Consumes (moduleItem self) := by
  unfold moduleItem
  infer_instance

instance : Consumes externCrate := by
  unfold externCrate
  infer_instance

instance (isPublic : Bool) : Consumes (itemBody self isPublic) := by
  unfold itemBody
  refine .after fun trees => ?_
  dsimp only
  repeat refine .otherwise ?_
  infer_instance

instance : Consumes (item self) := by
  unfold item
  infer_instance

end Parts

/-- Every part of the grammar leaves an end of the trees, to whatever depth it is read. -/
instance (levels : Nat) (part : Nonterminal) : Consumes (readers levels part) := by
  induction levels generalizing part with
  | zero => exact inferInstanceAs (Consumes fail)
  | succ levels ih =>
    change Consumes (rule (readers levels) part)
    cases part <;>
      · dsimp only [rule]
        infer_instance

end Grammar

end RecordMapper.Code
