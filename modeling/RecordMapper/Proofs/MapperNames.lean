/-
The name of a function is `mapTo` and the last name of its target without the mark of a raw name, its first
character in upper case. If the last name is a word, this is one too: it goes on with what may go on in an
identifier, and no keyword starts as it does.
-/
import RecordMapper.Emission
import RecordMapper.Proofs.Rerooting
import RecordMapper.Proofs.UpperCase

namespace RecordMapper

open Code Text

/-! ## Words and names -/

/-- A word without the mark of a raw name is an identifier. -/
theorem Code.WordForm.dropRawMark {word : List Char} (h : WordForm word) :
    ∃ c cs, RecordMapper.dropRawMark word = c :: cs ∧ startsIdentifier c = true ∧
      ∀ d ∈ cs, continuesIdentifier d = true := by
  cases h with
  | @plain c cs starts continues =>
    refine ⟨c, cs, ?_, starts, continues⟩
    unfold RecordMapper.dropRawMark
    split
    · next same =>
      obtain ⟨-, rfl⟩ := List.cons.inj same
      have mark := (apart_of_mem_wordMarks '#' (by decide)).2
      rw [continues '#' List.mem_cons_self] at mark
      cases mark
    · rfl
  | @raw c cs starts continues => exact ⟨c, cs, rfl, starts, continues⟩

/-- A word that is no keyword is written as a name. -/
theorem exists_nameTree {name : String} (word : IsPathWord name) (free : isKeyword name = false) :
    ∃ tree, nameTree name = .ok tree := by
  obtain ⟨place, trees, tokens, single⟩ := @exists_ofText? name [] word nofun
  cases single
  rw [String.intercalate_singleton] at tokens
  refine ⟨.token (.word name) place, ?_⟩
  rw [nameTree, nameOfText?, tokens, Option.bind_some, Read.all?, Read.name_word free]

/-! ## Functions -/

theorem toList_mapperName {names : List String} {name : String} (word : IsPathWord name) :
    ∃ cs, (Identity.ofSegments (names ++ [name])).mapperName.toList = 'm' :: 'a' :: 'p' :: cs ∧
      ∀ d ∈ cs, continuesIdentifier d = true := by
  obtain ⟨c, cs, own, starts, continues⟩ := (wordForm_of_scanWord word.scans).dropRawMark
  refine ⟨'T' :: 'o' :: (upperChar c ++ cs), ?_, ?_⟩
  · unfold Identity.mapperName
    rw [simpleName_ofSegments word.ne_empty word.colon_not_mem, String.toList_ofList, own]
    simp only [String.toList_append, String.toList_ofList]
    rfl
  · have front : ['T', 'o'].all continuesIdentifier = true := by decide +kernel
    intro d hd
    have parts : d ∈ ['T', 'o'] ++ (upperChar c ++ cs) := hd
    rcases List.mem_append.mp parts with hd | hd
    · exact List.all_eq_true.mp front d hd
    · rcases List.mem_append.mp hd with hd | hd
      · exact continues_of_mem_upperChar starts hd
      · exact continues d hd

/-- The function to a record whose last name is a word has a word for its name, and no keyword. -/
theorem isPathWord_mapperName {names : List String} {name : String} (word : IsPathWord name) :
    IsPathWord (Identity.ofSegments (names ++ [name])).mapperName ∧
      isKeyword (Identity.ofSegments (names ++ [name])).mapperName = false := by
  obtain ⟨cs, text, continues⟩ := @toList_mapperName names name word
  generalize (Identity.ofSegments (names ++ [name])).mapperName = mapper at text
  have free : isKeyword mapper = false := by
    have apart : ∀ keyword ∈ keywords, ¬['m', 'a', 'p'] <+: keyword.toList := by decide
    by_contra keyword
    have listed : mapper ∈ keywords := by simpa [isKeyword] using keyword
    exact apart mapper listed ⟨cs, by rw [text]; rfl⟩
  have front : ['a', 'p'].all continuesIdentifier = true := by decide +kernel
  have all : ∀ d ∈ 'a' :: 'p' :: cs, continuesIdentifier d = true := by
    intro d hd
    have parts : d ∈ ['a', 'p'] ++ cs := hd
    rcases List.mem_append.mp parts with hd | hd
    · exact List.all_eq_true.mp front d hd
    · exact continues d hd
  refine ⟨⟨?_, .inr free⟩, free⟩
  rw [text]
  have starts : startsIdentifier 'm' = true := by decide +kernel
  have scanned := follows_nil.scanName_eq starts all
  rwa [List.append_nil] at scanned

theorem exists_nameTree_mapperName {names : List String} {name : String} (word : IsPathWord name) :
    ∃ tree, nameTree (Identity.ofSegments (names ++ [name])).mapperName = .ok tree := by
  obtain ⟨own, free⟩ := @isPathWord_mapperName names name word
  exact exists_nameTree own free

end RecordMapper
