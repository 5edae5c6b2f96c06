/-
What is written as Rust has a block for each module that is not empty, a method for each of its functions
and a parameter for each of theirs. Names are compared as texts before they are written and read as Rust
when they are, where blanks and comments do not count. So names that differ are written as different words
if they are words, and not in general. Words are compared as they are spelled: the raw form of a word is
another word.
-/
import RecordMapper.Emission
import RecordMapper.Proofs.Correspondence
import RecordMapper.Proofs.FileChanges
import RecordMapper.Proofs.SpelledPaths
import RecordMapper.Proofs.UniqueNames

namespace RecordMapper

open Code

/-! ## What is written for what -/

/-- A method has the name of a function and a parameter for each of its parameters. -/
structure Mapper.WrittenAs (mapper : Mapper) (method : Method) : Prop where
  name : nameTree mapper.name = .ok method.name
  parameters : List.Forall₂ (fun parameter written => nameTree parameter.name = .ok written.name)
    mapper.parameters method.parameters

/-- A block is for the path of a module's origin and has a method for each of its functions. -/
structure MapperModule.WrittenAs (module : MapperModule) (block : ImplBlock) : Prop where
  origin : module.origin.toPath = .ok block.origin
  methods : List.Forall₂ Mapper.WrittenAs module.functions block.methods

/-- An identity is spelled as the words of a path. -/
structure Identity.InWords (identity : Identity) : Prop where
  nonempty : identity.segments ≠ []
  words : ∀ segment ∈ identity.segments, IsPathWord segment
  spelled : Identity.ofSegments identity.segments = identity

instance (identity : Identity) : Decidable identity.InWords :=
  decidable_of_iff (identity.segments ≠ [] ∧ (∀ segment ∈ identity.segments, IsPathWord segment) ∧
      Identity.ofSegments identity.segments = identity)
    ⟨fun h => ⟨h.1, h.2.1, h.2.2⟩, fun h => ⟨h.nonempty, h.words, h.spelled⟩⟩

/-- Every name in a function is a word. -/
structure Mapper.InWords (mapper : Mapper) : Prop where
  name : IsPathWord mapper.name
  parameters : ∀ parameter ∈ mapper.parameters, IsPathWord parameter.name

instance (mapper : Mapper) : Decidable mapper.InWords :=
  decidable_of_iff (IsPathWord mapper.name ∧ ∀ parameter ∈ mapper.parameters, IsPathWord parameter.name)
    ⟨fun h => ⟨h.1, h.2⟩, fun h => ⟨h.name, h.parameters⟩⟩

/-- Every name in a module is a word or made of words. -/
structure MapperModule.InWords (module : MapperModule) : Prop where
  origin : module.origin.InWords
  functions : ∀ function ∈ module.functions, function.InWords

instance (module : MapperModule) : Decidable module.InWords :=
  decidable_of_iff (module.origin.InWords ∧ ∀ function ∈ module.functions, function.InWords)
    ⟨fun h => ⟨h.1, h.2⟩, fun h => ⟨h.origin, h.functions⟩⟩

theorem text_word (name : String) (place : Span) : (Tree.token (.word name) place).text = name := by
  simp [Tree.text, Tree.textOf, Tree.spacedOf, Tree.spaced, Token.spelling, Token.isJoint,
    Tree.dropLastBlank]

/-- A single tree that is read as a name is the name. -/
theorem eq_of_all?_name {first tree : Tree} (h : Read.all? Read.name [first] = some tree) : tree = first := by
  unfold Read.all? Read.name Read.nextIf at h
  rw [Read.sees_bind] at h
  by_cases front : isName [first] = true
  · rw [if_pos front] at h
    exact (Option.some.inj h).symm
  · rw [if_neg front] at h
    cases h

/-- A word is written as itself. -/
theorem text_of_nameTree {name : String} {tree : Tree} (word : IsPathWord name)
    (h : nameTree name = .ok tree) : tree.text = name := by
  obtain ⟨place, trees, tokens, single⟩ := @exists_ofText? name [] word nofun
  cases single
  rw [String.intercalate_singleton] at tokens
  unfold nameTree at h
  split at h
  · next found read =>
    cases h
    rw [nameOfText?, tokens, Option.bind_some] at read
    rw [eq_of_all?_name read, text_word]
  · cases h

/-- No word is the name of two methods of a block or of two parameters of a method. -/
structure ImplBlock.NamesApart (block : ImplBlock) : Prop where
  methods : (block.methods.map (·.name.text)).Nodup
  parameters : ∀ method ∈ block.methods, (method.parameters.map (·.name.text)).Nodup

theorem Mapper.WrittenAs.nodup {mapper : Mapper} {method : Method} (h : mapper.WrittenAs method)
    (words : mapper.InWords) (apart : mapper.NamesApart) :
    (method.parameters.map (·.name.text)).Nodup := by
  have same : method.parameters.map (·.name.text) = mapper.parameters.map (·.name) :=
    map_eq_of_forall₂ h.parameters fun parameter hp _ named =>
      text_of_nameTree (words.parameters parameter hp) named
  rw [same]
  exact apart.nodup

/-- The names that a block writes: its path, and each method with its parameters. -/
def ImplBlock.names (block : ImplBlock) : List String × List (String × List String) :=
  (block.origin.pathNames, block.methods.map fun method =>
    (method.name.text, method.parameters.map (·.name.text)))

end RecordMapper
