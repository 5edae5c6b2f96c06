/-
What a source declares is named by words from the root down: a name is read where the grammar wants one, from
a tree of the source, and so it scans as one word and is no keyword. Modules alone may be named `try`. The types
of fields are what the grammar reads as types. Readers take trees from the front, so that what comes after some
of them is still of the source.
-/
import RecordMapper.Proofs.Consumption
import RecordMapper.Proofs.Extracted
import RecordMapper.Proofs.ReadItems
import RecordMapper.Proofs.ScannedTrees

namespace RecordMapper

open Code

namespace Code.Read

/-! ## Answers about a source -/

/-- Every answer of a reader about the trees of a source is good. -/
def Gives {α : Type} (reader : Read α) (good : α → Prop) : Prop :=
  ∀ trees answer rest, (∀ tree ∈ trees, tree.Scans) → reader trees = some (answer, rest) → good answer

namespace Gives

section Answers

variable {α β : Type} {reader : Read α} {next : α → Read β} {middle : α → Prop} {good : β → Prop}

theorem of_yields {reader : Read β} (h : reader.Yields good) : reader.Gives good :=
  fun _ _ _ _ found => h _ _ _ found

theorem pure {answer : β} (h : good answer) : Gives (Pure.pure answer) good := of_yields (.pure h)

theorem fail : Gives Read.fail good := of_yields .fail

/-- What a reader leaves is of the source too. -/
theorem bind [Consumes reader] (h : reader.Gives middle)
    (hn : ∀ answer, middle answer → (next answer).Gives good) : (reader >>= next).Gives good := by
  intro trees answer rest scans found
  obtain ⟨⟨first, between⟩, read, found⟩ := Option.bind_eq_some_iff.mp found
  have left := (Consumes.suffix read).subset
  exact hn first (h _ _ _ scans read) _ _ _ (fun tree hm => scans tree (left hm)) found

theorem last [Consumes reader] (hn : ∀ answer, (next answer).Gives good) : (reader >>= next).Gives good :=
  bind (fun _ _ _ _ _ => trivial) fun answer _ => hn answer

theorem ite {test : Prop} [Decidable test] {first second : Read β} (hf : first.Gives good)
    (hs : second.Gives good) : Gives (if test then first else second) good := by
  split
  · exact hf
  · exact hs

end Answers

section Trees

variable {good : Tree → Prop} {stop : List Tree → Bool}

theorem repeatAtMost {reader : Read (List Tree)} [Consumes reader] {front all : List Tree → Prop}
    (h : reader.Gives front) (empty : all [])
    (more : ∀ parts others, front parts → all others → all (parts ++ others)) (limit : Nat) :
    (Read.repeatAtMost stop reader limit).Gives all := by
  induction limit with
  | zero => exact .last fun _ => .ite (.pure empty) .fail
  | succ limit ih =>
    refine .last fun _ => .ite (.pure empty) ?_
    exact h.bind fun parts first => ih.bind fun others rest => .pure (more parts others first rest)

theorem repeatUntil {reader : Read (List Tree)} [Consumes reader]
    (h : reader.Gives fun parts => ∀ part ∈ parts, good part) :
    (Read.repeatUntil stop reader).Gives fun parts => ∀ part ∈ parts, good part :=
  .last fun _ => repeatAtMost h (by simp)
    (fun parts others first rest part hm => (List.mem_append.mp hm).elim (first part) (rest part)) _

/-- Parts with a separator between them: after a part comes the separator, or what ends them all. -/
theorem separatedUntil {part : Read Tree} [Consumes part] {separator : String} {all : List Tree → Prop}
    (h : part.Gives good) (empty : all []) (single : ∀ tree, good tree → all [tree])
    (more : ∀ tree place others, good tree → all others →
      all (tree :: .token (.punct separator false) place :: others)) :
    (Read.separatedUntil stop separator part).Gives all := by
  have parts (limit : Nat) : (Read.repeatAtMost stop (do
      let first ← part
      if ← sees stop then return [first]
      return [first, ← op separator]) limit).Gives all := by
    induction limit with
    | zero => exact .last fun _ => .ite (.pure empty) .fail
    | succ limit ih =>
      refine .last fun _ => .ite (.pure empty) ?_
      intro trees answer rest scans found
      obtain ⟨⟨parts, between⟩, read, found⟩ := Option.bind_eq_some_iff.mp found
      obtain ⟨⟨others, left⟩, loop, answered⟩ := Option.bind_eq_some_iff.mp found
      cases answered
      have inner : ∀ tree ∈ between, tree.Scans := fun tree hm =>
        scans tree ((Consumes.suffix read).subset hm)
      obtain ⟨⟨first, after⟩, taken, read⟩ := Option.bind_eq_some_iff.mp read
      have own : good first := h _ _ _ scans taken
      change (sees stop >>= _) after = _ at read
      rw [sees_bind] at read
      split at read
      · -- the end is seen again where the next part would start
        next ended =>
        cases read
        obtain rfl : [] = others :=
          (Prod.mk.inj (Option.some.inj ((repeatAtMost_of_stop ended limit).symm.trans loop))).1
        exact single first own
      · obtain ⟨⟨mark, behind⟩, separated, answered⟩ := Option.bind_eq_some_iff.mp read
        cases answered
        obtain ⟨place, rfl⟩ := Yields.op separator _ _ _ separated
        exact more first place others own (ih _ _ _ inner loop)
  exact .last fun _ => parts _

/-- The inside of a group of a source is of the source. -/
theorem group {delimiter : Delimiter} {inside : Read (List Tree)} {good : List Tree → Prop}
    (h : inside.Gives good) :
    (Read.group delimiter inside).Gives fun tree => ∃ opening closing parts,
      tree = .group delimiter opening closing parts ∧ good parts := by
  intro trees answer rest scans found
  unfold Read.group at found
  split at found
  · next opening closing inner more =>
    split at found
    · next same =>
      subst same
      split at found
      · next parts read =>
        cases found
        cases scans _ List.mem_cons_self with
        | group _ _ _ inside => exact ⟨opening, closing, parts, rfl, h _ _ _ inside read⟩
      · cases found
    · cases found
  · cases found

/-- What has no answer is kept as it is written. -/
theorem orWritten {role : Role} {reader : Read (Option Tree)} [Consumes reader]
    (kept : ∀ taken, good (.node role taken)) (h : reader.Gives fun answer? => ∀ tree ∈ answer?, good tree) :
    (Read.orWritten role reader).Gives good := by
  have written : (Read.written reader).Gives fun answer => ∀ tree ∈ answer.1, good tree :=
    .last fun _ => h.bind fun _ good => .last fun _ => .pure good
  refine written.bind fun ⟨answer?, taken⟩ good => .pure ?_
  cases answer? with
  | none => exact kept taken
  | some tree => exact good tree rfl

/-- A name is a word of the source and no keyword. -/
theorem name : Read.name.Gives fun tree => ∃ name place, tree = .token (.word name) place ∧
    IsPathWord name ∧ isKeyword name = false := by
  intro trees tree rest scans found
  obtain ⟨passed, rfl⟩ := nextIf_eq_some.mp found
  obtain ⟨name, place, rfl, free⟩ := isName_cons.mp passed
  cases scans _ List.mem_cons_self with
  | token _ word => exact ⟨name, place, rfl, ⟨word, .inr free⟩, free⟩

end Trees

theorem of_all? {α : Type} {reader : Read α} {good : α → Prop} (h : reader.Gives good) {trees : List Tree}
    (scans : ∀ tree ∈ trees, tree.Scans) {answer : α} (found : Read.all? reader trees = some answer) :
    good answer :=
  h _ _ _ scans (Read.all?_eq_some.mp found)

end Gives

end Code.Read

/-! ## Fields -/

/-- What may stand as the type of a field: what the grammar reads as a type from trees of a source, or a record
without a name. -/
inductive IsFieldType : Tree → Prop
  | read {levels : Nat} {trees rest : List Tree} {type : Tree} : (∀ tree ∈ trees, tree.Scans) →
      Grammar.readers levels (.type true) trees = some (type, rest) → IsFieldType type
  | nameless (parts : List Tree) : IsFieldType (.node .phrase parts)

/-- The fields in the braces of a part have such types. -/
def HoldsFields (part : Tree) : Prop :=
  ∀ opening closing inner, part = .group .brace opening closing inner →
    ∀ tree ∈ inner, ∀ field ∈ fieldOfTree? tree, IsFieldType field.2

theorem HoldsFields.of_isAside {part : Tree} (h : part.isAside = true) : HoldsFields part := by
  rintro opening closing inner rfl
  cases h

theorem HoldsFields.recordBody {parts : List Tree} (h : ∀ part ∈ parts, HoldsFields part)
    {fields : List (String × Tree)} (named : recordBody parts = .named fields) :
    ∀ field ∈ fields, IsFieldType field.2 := by
  unfold RecordMapper.recordBody at named
  split at named
  · next opening closing inner found =>
    cases named
    intro field hm
    obtain ⟨tree, hm, answered⟩ := List.mem_filterMap.mp hm
    exact h _ (List.mem_of_find?_eq_some found) _ _ _ rfl tree hm field answered
  · cases named
  · cases named

/-! ## Items -/

/-- An item that is named by a word if it declares something, and whose fields, if it is a record, have types
that the grammar reads. A module is written around its items, and they are such items in turn. -/
inductive IsNamedItem : Tree → Prop
  | module {name : String} {items : List Tree} (module : WrittenModule name items) (word : IsPathWord name)
    (inside : ∀ item ∈ items, IsNamedItem item) : IsNamedItem module.tree
  | declared {kind : ItemKind} {parts : List Tree} {name : String} {place : Span} : kind ≠ .module →
      declaredName? parts = some (name, place) → IsPathWord name → isKeyword name = false →
      (kind = .record → ∀ part ∈ parts, HoldsFields part) → IsNamedItem (.node (.item kind) parts)
  | other (parts : List Tree) : IsNamedItem (.node (.item .other) parts)

/-- The names of the modules of a declaration are words of a path, and its own is no keyword. -/
structure Declaration.NamedByWords (declaration : Declaration) : Prop where
  home : ∀ name ∈ declaration.home.names, IsPathWord name
  identity : ∃ name, IsPathWord name ∧ isKeyword name = false ∧
    declaration.identity = .ofSegments (declaration.home.names ++ [name])

theorem Declaration.NamedByWords.wellNamed {declaration : Declaration} (h : declaration.NamedByWords) :
    declaration.WellNamed := by
  obtain ⟨words, name, word, free, identity⟩ := h
  refine ⟨words, name, word, ?_, identity⟩
  rintro rfl
  cases free

theorem forall_mem_declarationsIn {good : Declaration → Prop} {home : Home} {trees : List Tree}
    (h : ∀ tree ∈ trees, ∀ declaration ∈ declarationsOf home tree, good declaration) :
    ∀ declaration ∈ declarationsIn home trees, good declaration := by
  induction trees with
  | nil => simp [declarationsIn]
  | cons tree trees ih =>
    obtain ⟨first, others⟩ := List.forall_mem_cons.mp h
    intro declaration hm
    rw [declarationsIn, List.mem_append] at hm
    exact hm.elim (first declaration) (ih others declaration)

namespace IsNamedItem

variable {kind : ItemKind} {parts : List Tree} {item : Tree}

theorem behind (h : IsNamedItem (.node (.item kind) parts)) {front : List Tree}
    (aside : ∀ part ∈ front, part.isAside = true) : IsNamedItem (.node (.item kind) (front ++ parts)) := by
  generalize whole : (.node (.item kind) parts : Code.Tree) = tree at h
  cases h with
  | module module word inside =>
    cases whole
    rw [← List.append_assoc]
    exact .module (module.behind front aside) word inside
  | declared different named word free fields =>
    cases whole
    refine .declared different (by rwa [declaredName?_append aside]) word free fun isRecord => ?_
    exact fun part hm => (List.mem_append.mp hm).elim (fun hm => .of_isAside (aside part hm))
      (fields isRecord part)
  | other =>
    cases whole
    exact .other _

theorem isItem (h : IsNamedItem item) : IsItem item := by
  induction h with
  | module module _ _ ih => exact .module module ih
  | declared different => exact .other _ different
  | other => exact .other _ nofun

/-- Whatever an item declares is named by words in a module whose names are words. -/
theorem namedByWords (h : IsNamedItem item) {home : Home} (words : ∀ name ∈ home.names, IsPathWord name) :
    ∀ declaration ∈ declarationsOf home item, declaration.NamedByWords := by
  induction h generalizing home with
  | @module name items module word _ ih =>
    rw [module.declarationsOf_tree]
    refine forall_mem_declarationsIn fun item hm => ih item hm fun other listed => ?_
    rw [Home.names_inside, List.mem_append, List.mem_singleton] at listed
    rcases listed with listed | rfl
    · exact words other listed
    · exact word
  | @declared kind parts name place different named word free =>
    intro declaration hm
    rw [declarationsOf_item different, Option.mem_toList] at hm
    unfold declarationOf? at hm
    split at hm
    · next found =>
      rw [named] at found
      cases found
      cases hm
      exact ⟨words, name, word, free, rfl⟩
    · cases hm
  | other => simp [declarationsOf, declarationOf?, declarationKind?]

/-- The fields of whatever an item declares have types that the grammar reads. -/
theorem isFieldType (h : IsNamedItem item) (home : Home) :
    ∀ declaration ∈ declarationsOf home item, ∀ field ∈ declaration.writtenFields, IsFieldType field.2 := by
  induction h generalizing home with
  | module module _ _ ih =>
    rw [module.declarationsOf_tree]
    exact forall_mem_declarationsIn fun item hm => ih item hm _
  | @declared kind parts name place different _ _ _ fields =>
    intro declaration hm field written
    rw [declarationsOf_item different, Option.mem_toList] at hm
    unfold declarationOf? at hm
    split at hm
    · next declared _ =>
      cases hm
      unfold Declaration.writtenFields at written
      split at written
      · next same =>
        cases kind with
        | record =>
          obtain ⟨-, body⟩ := DeclarationKind.record.inj ((Option.some.inj declared).trans same)
          exact HoldsFields.recordBody (fields rfl) body field written
        | _ => subst same; cases declared
      · cases written
    · cases hm
  | other => simp [declarationsOf, declarationOf?, declarationKind?]

end IsNamedItem

namespace Code.Grammar

open Read

section Parts

variable {self : Readers} [∀ part, Consumes (self part)] {isPublic : Bool}

theorem gives_items (h : (self .item).Gives IsNamedItem) :
    (repeatUntil atEnd (do return [← self .item])).Gives fun items => ∀ item ∈ items, IsNamedItem item :=
  .repeatUntil <| h.bind fun item good => .pure (by simpa using good)

theorem gives_braced (h : (self .item).Gives IsNamedItem) : (braced self (self .item)).Gives fun tree =>
    ∃ opening closing own items, tree = .group .brace opening closing (own ++ items) ∧
      (∀ tree ∈ own, tree.isNoItem = true) ∧ ∀ item ∈ items, IsNamedItem item := by
  have inside : (do
      let attributes ← enclosedAttributes self
      return attributes ++ (← repeatUntil atEnd (do return [← self .item])) : Read (List Tree)).Gives
      fun parts => ∃ own items, parts = own ++ items ∧ (∀ tree ∈ own, tree.isNoItem = true) ∧
        ∀ item ∈ items, IsNamedItem item :=
    (Gives.of_yields yields_enclosedAttributes).bind fun own noItems =>
      (gives_items h).bind fun items good => .pure ⟨own, items, rfl, noItems, good⟩
  intro trees tree rest scans found
  obtain ⟨opening, closing, _, rfl, own, items, rfl, noItems, good⟩ := Gives.group inside _ _ _ scans found
  exact ⟨opening, closing, own, items, rfl, noItems, good⟩

/-- One keyword may stand where a name does. -/
theorem gives_nameOr {α : Type} {keyword : String} {next : Tree → Read α} {good : α → Prop}
    (h : ∀ name place, (Token.word name).Scans → name = keyword ∨ isKeyword name = false →
      (next (.token (.word name) place)).Gives good) :
    (do if ← sees (isWord keyword) then anyWord >>= next else Read.name >>= next : Read α).Gives good := by
  intro trees answer rest scans found
  rw [sees_bind] at found
  split at found
  · next seen =>
    obtain ⟨⟨tree, between⟩, read, found⟩ := Option.bind_eq_some_iff.mp found
    obtain ⟨passed, rfl⟩ := nextIf_eq_some.mp read
    obtain ⟨name, place, rfl⟩ := isAnyWord_cons.mp passed
    obtain ⟨first, others⟩ := List.forall_mem_cons.mp scans
    cases first with
    | token _ own =>
      exact h name place own (.inl (by simpa [isWord] using seen)) _ _ _ others found
  · refine Gives.bind Gives.name ?_ trees answer rest scans found
    rintro _ ⟨name, place, rfl, word, free⟩
    exact h name place word.scans (.inr free)

/-- A module without a body is another item. -/
theorem gives_moduleItem (h : (self .item).Gives IsNamedItem) :
    (moduleItem self).Gives fun answer => IsNamedItem (.node (.item answer.1) answer.2) := by
  refine (Gives.of_yields (.whenSees (.word_isAside "unsafe"))).bind fun isUnsafe hu =>
    (Gives.of_yields (.word_isAside "mod")).bind fun modWord hm => gives_nameOr fun name place scans free => ?_
  have word : IsPathWord name := ⟨scans, free.imp (by rintro (rfl : name = "try"); decide) id⟩
  have front : ∀ part ∈ isUnsafe ++ [modWord], part.isAside = true := fun part hp =>
    (List.mem_append.mp hp).elim (hu part) fun hp => List.mem_singleton.mp hp ▸ hm
  refine .last fun _ => .ite (.last fun _ => .pure (.other _)) ((gives_braced h).bind ?_)
  rintro _ ⟨opening, closing, own, items, rfl, noItems, good⟩
  let module : WrittenModule name items :=
    ⟨isUnsafe ++ [modWord], place, opening, closing, own, front, noItems⟩
  have written : IsNamedItem (.node (.item .module) (isUnsafe ++ [modWord] ++
      [.node .name [.token (.word name) place], .group .brace opening closing (own ++ items)])) :=
    .module module word good
  exact .pure (by simpa using written)

/-- What starts with a keyword and a name is named by it. -/
theorem gives_declared {α : Type} {text : String} {next : Tree → Tree → Read α} {good : α → Prop}
    (h : ∀ keyword name, (∀ kind more, kind ≠ .module → (kind = .record → ∀ part ∈ more, HoldsFields part) →
      IsNamedItem (.node (.item kind) (keyword :: name :: more))) → (next keyword name).Gives good) :
    (do next (← word text) (← declaredName) : Read α).Gives good := by
  refine (Gives.of_yields (Yields.word text)).bind fun keyword => ?_
  rintro ⟨before, rfl⟩
  have named : declaredName.Gives fun tree => ∃ name place, tree = .node .name [.token (.word name) place] ∧
      IsPathWord name ∧ isKeyword name = false := by
    refine Gives.name.bind ?_
    rintro _ ⟨name, place, rfl, word⟩
    exact .pure ⟨name, place, rfl, word⟩
  refine named.bind ?_
  rintro _ ⟨name, place, rfl, word, free⟩
  refine h _ _ fun kind more different fields => .declared different rfl word free fun isRecord => ?_
  exact List.forall_mem_cons.mpr ⟨nofun, List.forall_mem_cons.mpr ⟨nofun, fields isRecord⟩⟩

section Fields

variable (ht : (self (.type true)).Gives IsFieldType)
include ht

theorem gives_namedField : (namedField self).Gives fun tree =>
    ∀ field ∈ fieldOfTree? tree, IsFieldType field.2 := by
  have typed (front : List Tree) (name colon type : Tree) (h : IsFieldType type) :
      ∀ field ∈ fieldOfTree? (.node .field (front ++ [name, colon, type])), IsFieldType field.2 := by
    intro field answered
    have last : (front ++ [name, colon, type]).getLast? = some type := by simp
    rw [fieldOfTree?, last] at answered
    split at answered
    · next same =>
      cases same
      cases answered
      exact h
    · cases answered
  unfold namedField
  refine .last fun attributes => .last fun visibility => .last fun unnamed => ?_
  dsimp only
  -- the name is read in two ways, and the type in two ways for each
  refine .ite (.last fun name => ?_) (.last fun name => ?_) <;>
    · refine .last fun colon => .last fun nameless => .ite (.last fun word => .last fun group => ?_)
        (ht.bind fun type h => .pure (typed _ _ _ _ h))
      exact .pure (typed _ _ _ _ (.nameless [word, group]))

theorem gives_namedFields : (namedFields self).Gives HoldsFields := by
  have fields : (separatedUntil atEnd "," (namedField self)).Gives fun trees =>
      ∀ tree ∈ trees, ∀ field ∈ fieldOfTree? tree, IsFieldType field.2 := by
    refine .separatedUntil (gives_namedField ht) (fun _ hm => absurd hm List.not_mem_nil)
      (fun tree own => List.forall_mem_singleton.mpr own) fun tree place others own more => ?_
    exact List.forall_mem_cons.mpr ⟨own, List.forall_mem_cons.mpr ⟨nofun, more⟩⟩
  intro trees tree rest scans found
  obtain ⟨opening, closing, parts, rfl, good⟩ := Gives.group fields _ _ _ scans found
  rintro _ _ _ ⟨⟩
  exact good

/-- What follows the name of a record holds its fields. -/
theorem gives_recordBody : (recordBody self).Gives fun parts => ∀ part ∈ parts, HoldsFields part := by
  have token (text : String) : (op text).Gives HoldsFields := by
    refine .of_yields fun trees tree rest found => ?_
    obtain ⟨place, rfl⟩ := Yields.op text _ _ _ found
    exact nofun
  have aside {parts : List Tree} (h : ∀ part ∈ parts, part.isAside = true) : ∀ part ∈ parts, HoldsFields part :=
    fun part hm => .of_isAside (h part hm)
  have behind {front : List Tree} {last : Tree} (h : ∀ part ∈ front, HoldsFields part) (hl : HoldsFields last) :
      ∀ part ∈ front ++ [last], HoldsFields part :=
    fun part hm => (List.mem_append.mp hm).elim (h part) fun hm => List.mem_singleton.mp hm ▸ hl
  have positional : (positionalFields self).Gives HoldsFields := by
    intro trees tree rest scans found
    obtain ⟨opening, closing, parts, rfl, -⟩ := Gives.group (fun _ _ _ _ _ => trivial) _ _ _ scans found
    exact nofun
  refine (Gives.of_yields yields_conditions).bind fun before hb => .last fun _ => .ite ?_ ?_
  · refine positional.bind fun fields hf => (Gives.of_yields yields_conditions).bind fun after ha => ?_
    exact (token ";").bind fun semicolon hs => .pure (List.forall_mem_cons.mpr ⟨hf, behind (aside ha) hs⟩)
  · refine .last fun _ => .ite ?_ ?_
    · exact (gives_namedFields ht).bind fun fields hf => .pure (behind (aside hb) hf)
    · exact (token ";").bind fun semicolon hs => .pure (behind (aside hb) hs)

end Fields

theorem gives_typeAlias (place : ConditionsPlace) :
    (typeAlias self place).Gives fun type => IsNamedItem (.node (.item .alias) type.parts) := by
  unfold typeAlias
  refine gives_declared fun keyword name named => ?_
  dsimp only
  repeat' with_reducible first
    | refine Gives.ite ?_ ?_
    | refine Gives.last fun _ => ?_
  all_goals exact .pure (named .alias _ nofun nofun)

theorem gives_itemBody (ht : (self (.type true)).Gives IsFieldType) (h : (self .item).Gives IsNamedItem) :
    (itemBody self isPublic).Gives fun found? =>
      ∀ found ∈ found?, IsNamedItem (.node (.item found.1) found.2) := by
  have other (parts? : Option (List Tree)) :
      ∀ found ∈ parts?.map (ItemKind.other, ·), IsNamedItem (.node (.item found.1) found.2) := by
    rintro found hm
    obtain ⟨parts, -, rfl⟩ := Option.map_eq_some_iff.mp hm
    exact .other parts
  have one {kind : ItemKind} {parts : List Tree} (h : IsNamedItem (.node (.item kind) parts)) :
      ∀ found ∈ some (kind, parts), IsNamedItem (.node (.item found.1) found.2) := by
    rintro found ⟨⟩
    exact h
  have nothing : ∀ found ∈ (none : Option (ItemKind × List Tree)),
      IsNamedItem (.node (.item found.1) found.2) := nofun
  -- only modules and what declares a name are looked into; every other branch answers another item or nothing
  unfold itemBody
  refine .last fun trees => ?_
  dsimp only
  repeat' with_reducible first
    | refine Gives.ite ?_ ?_
    | exact (gives_moduleItem h).bind fun found named => .pure (one named)
    | refine (gives_typeAlias _).bind fun type named => ?_
    | refine gives_declared fun keyword name named => ?_
    | refine (Gives.of_yields yields_generics).bind fun generics hg => ?_
    | refine (gives_recordBody ht).bind fun body hb => ?_
    | refine Gives.last fun _ => ?_
    | exact Gives.pure (other _)
    | exact Gives.pure (one (.other _))
    | exact Gives.pure nothing
    | exact Gives.fail
  · refine .pure ?_
    split
    · exact nothing
    · exact one named
  · -- a record
    refine .pure (one (named _ _ nofun fun _ part hm => ?_))
    exact (List.mem_append.mp hm).elim (fun hm => .of_isAside (hg part hm)) (hb part)
  -- an enum and a union are left
  all_goals exact .pure (one (named _ _ nofun nofun))

theorem gives_item (ht : (self (.type true)).Gives IsFieldType) (h : (self .item).Gives IsNamedItem) :
    (item self).Gives IsNamedItem := by
  refine Gives.orWritten (fun taken => .other taken) ?_
  refine (Gives.of_yields yields_outerAttributes).bind fun attributes ha =>
    (Gives.of_yields yields_visibility).bind fun visibility hv =>
      (gives_itemBody ht h).bind fun found? named => .pure fun item hm => ?_
  obtain ⟨⟨kind, parts⟩, found, rfl⟩ := Option.map_eq_some_iff.mp hm
  refine (named _ found).behind fun part hm => ?_
  exact (List.mem_append.mp hm).elim (ha part) (hv part)

end Parts

theorem readers_gives_item (levels : Nat) : (readers levels .item).Gives IsNamedItem := by
  induction levels with
  | zero => exact .fail
  | succ levels ih =>
    -- the items inside an item and the types of its fields are read with one level less
    exact gives_item (fun _ _ _ scans found => .read scans found) ih

end Code.Grammar

section Source

variable {text : String} {file : File}

/-- Every item of a source is named, down to any depth. -/
theorem isNamedItem_of_ofText? (h : File.ofText? text = some file) :
    ∀ item ∈ file.items, IsNamedItem item := by
  obtain ⟨trees, scanned, h⟩ := Option.bind_eq_some_iff.mp h
  have items : (do
      let attributes ← Grammar.enclosedAttributes (readersFor trees)
      let items ← Read.repeatUntil atEnd (do return [← readersFor trees .item])
      return ⟨attributes, items⟩ : Read File).Gives fun file => ∀ item ∈ file.items, IsNamedItem item :=
    .last fun _ => (Grammar.gives_items (Grammar.readers_gives_item _)).bind fun _ good => .pure good
  exact items.of_all? (Tree.scans_of_ofChars? scanned) h

theorem isItem_of_ofText? (h : File.ofText? text = some file) : ∀ item ∈ file.items, IsItem item :=
  fun item hm => (isNamedItem_of_ofText? h item hm).isItem

/-- The fields of whatever a source declares have types that the grammar reads. -/
theorem isFieldType_of_ofText? (h : File.ofText? text = some file) (home : Home) :
    ∀ declaration ∈ declarationsIn home file.items, ∀ field ∈ declaration.writtenFields,
      IsFieldType field.2 :=
  forall_mem_declarationsIn fun item hm => (isNamedItem_of_ofText? h item hm).isFieldType home

/-- Whatever a source declares is named by words if the module that it is scanned under is. -/
theorem namedByWords_of_ofText? (h : File.ofText? text = some file) {root : List String}
    (words : ∀ name ∈ root, IsPathWord name) :
    ∀ declaration ∈ declarationsIn (.top root) file.items, declaration.NamedByWords :=
  forall_mem_declarationsIn fun item hm =>
    (isNamedItem_of_ofText? h item hm).namedByWords (by rwa [Home.names_top])

theorem wellNamed_of_ofText? (h : File.ofText? text = some file) {root : List String}
    (words : ∀ name ∈ root, IsPathWord name) :
    ∀ declaration ∈ declarationsIn (.top root) file.items, declaration.WellNamed :=
  fun declaration hm => (namedByWords_of_ofText? h words declaration hm).wellNamed

end Source

end RecordMapper
