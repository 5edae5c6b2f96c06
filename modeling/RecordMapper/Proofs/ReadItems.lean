/-
Walks over items rely on one form: a module is written around its items, and these are items in turn, down to
any depth. Readers are put together by a few operations, and a property of all answers goes through each of
them; so whatever stands before an item, or before the items in a module, is no item.
-/
import RecordMapper.Proofs.ModulePaths

namespace RecordMapper

open Code

namespace Code.Read

/-! ## Properties of all answers -/

/-- Every answer of a reader is good. -/
def Yields {α : Type} (reader : Read α) (good : α → Prop) : Prop :=
  ∀ trees answer rest, reader trees = some (answer, rest) → good answer

namespace Yields

section Answers

variable {α β : Type} {reader : Read α} {next : α → Read β} {middle : α → Prop} {good : β → Prop}

theorem pure {answer : β} (h : good answer) : Yields (Pure.pure answer) good := by
  rintro trees answer' rest found
  cases found
  exact h

theorem fail : Yields Read.fail good := by
  rintro trees answer rest ⟨⟩

theorem bind (h : reader.Yields middle) (hn : ∀ answer, middle answer → (next answer).Yields good) :
    Yields (reader >>= next) good := by
  intro trees answer rest found
  obtain ⟨⟨first, between⟩, read, found⟩ := Option.bind_eq_some_iff.mp found
  exact hn first (h _ _ _ read) _ _ _ found

/-- It may not matter what is answered first. -/
theorem last (hn : ∀ answer, (next answer).Yields good) : Yields (reader >>= next) good :=
  bind (fun _ _ _ _ => trivial) fun answer _ => hn answer

theorem ite {test : Prop} [Decidable test] {first second : Read β} (hf : first.Yields good)
    (hs : second.Yields good) : Yields (if test then first else second) good := by
  split
  · exact hf
  · exact hs

end Answers

section Trees

variable {good : Tree → Prop} {stop : List Tree → Bool}

theorem nextIf (test : List Tree → Bool) :
    (Read.nextIf test).Yields fun tree => ∃ rest, test (tree :: rest) = true := by
  intro trees answer rest found
  obtain ⟨passed, rfl⟩ := nextIf_eq_some.mp found
  exact ⟨rest, passed⟩

theorem word (text : String) :
    (Read.word text).Yields fun tree => ∃ place, tree = .token (.word text) place := by
  intro trees tree rest found
  obtain ⟨rest, passed⟩ := nextIf _ _ _ _ found
  unfold isWord at passed
  split at passed
  · next same =>
    obtain ⟨rfl, -⟩ := List.cons.inj same
    exact ⟨_, by rw [of_decide_eq_true passed]⟩
  · cases passed

theorem op (text : String) :
    (Read.op text).Yields fun tree => ∃ place, tree = .token (.punct text false) place := by
  intro trees tree rest found
  unfold Read.op at found
  split at found
  · cases found
    exact ⟨_, rfl⟩
  · cases found

theorem mono {other : Tree → Prop} {reader : Read Tree} (h : reader.Yields good)
    (hg : ∀ tree, good tree → other tree) : reader.Yields other :=
  fun _ tree _ found => hg tree (h _ _ _ found)

theorem word_isAside (text : String) : (Read.word text).Yields fun part => part.isAside = true :=
  (word text).mono fun _ ⟨_, same⟩ => same ▸ rfl

theorem repeatAtMost {reader : Read (List Tree)}
    (h : reader.Yields fun parts => ∀ part ∈ parts, good part) (limit : Nat) :
    (Read.repeatAtMost stop reader limit).Yields fun parts => ∀ part ∈ parts, good part := by
  have empty : ∀ part ∈ ([] : List Tree), good part := by simp
  induction limit with
  | zero => exact .last fun _ => .ite (.pure empty) .fail
  | succ limit ih =>
    refine .last fun _ => .ite (.pure empty) ?_
    refine h.bind fun parts first => ih.bind fun more others => .pure ?_
    exact fun part hm => (List.mem_append.mp hm).elim (first part) (others part)

theorem repeatUntil {reader : Read (List Tree)}
    (h : reader.Yields fun parts => ∀ part ∈ parts, good part) :
    (Read.repeatUntil stop reader).Yields fun parts => ∀ part ∈ parts, good part :=
  .last fun _ => repeatAtMost h _

theorem whenSees {test : List Tree → Bool} {reader : Read Tree} (h : reader.Yields good) :
    (Read.whenSees test reader).Yields fun parts => ∀ part ∈ parts, good part :=
  .last fun _ => .ite (h.bind fun _ hp => .pure (by simpa using hp)) (.pure (by simp))

end Trees

end Yields

end Code.Read

/-! ## Modules -/

/-- A module with more before it. -/
def WrittenModule.behind {name : String} {items : List Tree} (module : WrittenModule name items)
    (front : List Tree) (h : ∀ part ∈ front, part.isAside = true) : WrittenModule name items :=
  { module with
    front := front ++ module.front
    isAside_of_mem_front := fun part hm =>
      (List.mem_append.mp hm).elim (h part) (module.isAside_of_mem_front part) }

/-- An item whose modules are written around their items, down to any depth. -/
inductive IsItem : Tree → Prop
  | module {name : String} {items : List Tree} (module : WrittenModule name items)
    (inside : ∀ item ∈ items, IsItem item) : IsItem module.tree
  | other {kind : ItemKind} (parts : List Tree) : kind ≠ .module → IsItem (.node (.item kind) parts)

namespace Code.Grammar

open Read

section Parts

variable {self : Readers} {isPublic : Bool}

theorem yields_attributes : attributes.Yields fun parts => ∀ part ∈ parts, part.isAside = true :=
  .repeatUntil <| .last fun _ => .last fun _ => .pure (by simp [Tree.isAside])

theorem yields_innerAttributes :
    innerAttributes.Yields fun trees => ∀ tree ∈ trees, tree.isNoItem = true :=
  .repeatUntil <| .last fun _ => .last fun _ => .last fun _ => .pure (by simp [Tree.isNoItem])

theorem yields_outerAttributes :
    (outerAttributes self).Yields fun parts => ∀ part ∈ parts, part.isAside = true :=
  yields_attributes.bind fun _ aside => .ite (.pure aside) .fail

theorem yields_enclosedAttributes :
    (enclosedAttributes self).Yields fun trees => ∀ tree ∈ trees, tree.isNoItem = true :=
  yields_innerAttributes.bind fun _ noItems => .ite (.pure noItems) .fail

theorem yields_visibility : visibility.Yields fun parts => ∀ part ∈ parts, part.isAside = true := by
  have phrase (parts : List Tree) : ∀ part ∈ [(.node .phrase parts : Code.Tree)], part.isAside = true := by
    simp [Tree.isAside]
  refine .last fun _ => .ite (.last fun pubWord => .last fun trees => ?_) (.pure (by simp))
  dsimp only
  split
  · exact .ite (.last fun _ => .ite (.last fun _ => .pure (phrase _)) (.pure (phrase _)))
      (.pure (phrase _))
  · exact .pure (phrase _)

theorem yields_generics : (generics self).Yields fun parts => ∀ part ∈ parts, part.isAside = true := by
  have none : ∀ part ∈ ([] : List Tree), part.isAside = true := by simp
  refine .last fun _ => .ite (.last fun _ => .last fun _ => .last fun _ => .last fun _ => ?_) (.pure none)
  exact .ite (.pure none) (.pure (by simp [Tree.isAside]))

theorem yields_conditions : (conditions self).Yields fun parts => ∀ part ∈ parts, part.isAside = true := by
  have none : ∀ part ∈ ([] : List Tree), part.isAside = true := by simp
  refine .last fun _ => .ite (.last fun _ => .last fun _ => .ite (.pure none) ?_) (.pure none)
  exact .last fun _ => .pure (by simp [Tree.isAside])

end Parts

end Code.Grammar

end RecordMapper
