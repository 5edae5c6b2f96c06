/-
A word in front of a text is taken whole, however the text goes on, as long as it does not go on with
more of the word. The scanner looks for documentation, brackets and literals before it looks for a
word, and several literals start with a letter, so that most of the work is to rule these out.
-/
import RecordMapper.Code.Lexeme
import Mathlib.Data.List.Basic
import Mathlib.Data.List.TakeWhile

namespace RecordMapper.Code

open Text

/-! ## Characters -/

/-- Characters that are no part of a word. -/
def wordMarks : List Char := ['"', '#', '\'', '\\', '/', '(', '[', '\x7b', ')', ']', '\x7d', ':', ' ']

theorem apart_of_mem_wordMarks :
    ∀ c ∈ wordMarks, startsIdentifier c = false ∧ continuesIdentifier c = false :=
  List.forall_iff_forall_mem.mp (by decide +kernel)

/-- The letters that literals start with may start a word too, or go on with one. -/
theorem identifier_of_mem_letters :
    ∀ c ∈ ['b', 'c', 'r'], startsIdentifier c = true ∧ continuesIdentifier c = true :=
  List.forall_iff_forall_mem.mp (by decide +kernel)

theorem startsIdentifier_ne {c d : Char} (h : startsIdentifier c = true)
    (hd : startsIdentifier d = false) : c ≠ d := by
  rintro rfl
  rw [hd] at h
  cases h

/-- No word starts with a byte order mark. -/
theorem toNat_ne_of_startsIdentifier {c : Char} (h : startsIdentifier c = true) : c.toNat ≠ 0xFEFF := by
  intro mark
  have none_starts : startsIdentifier (Char.ofNat 0xFEFF) = false := by decide +kernel
  rw [← mark, Char.ofNat_toNat, h] at none_starts
  cases none_starts

/-- The code points of blanks. -/
def blankPoints : List Nat :=
  [0x09, 0x0a, 0x0b, 0x0c, 0x0d, 0x20, 0x85, 0xa0, 0x1680, 0x2000, 0x2001, 0x2002, 0x2003, 0x2004,
    0x2005, 0x2006, 0x2007, 0x2008, 0x2009, 0x200a, 0x200e, 0x200f, 0x2028, 0x2029, 0x202f, 0x205f,
    0x3000]

theorem mem_blankPoints_of_isBlank {c : Char} (h : isBlank c = true) : c.toNat ∈ blankPoints := by
  by_cases hc : c = ' '
  · subst hc
    decide
  · simp only [isBlank, hc, decide_false, Bool.false_or, Bool.or_eq_true, Bool.and_eq_true,
      decide_eq_true_eq] at h
    simp only [blankPoints, List.mem_cons, List.not_mem_nil, or_false]
    omega

theorem isBlank_of_startsIdentifier {c : Char} (h : startsIdentifier c = true) :
    isBlank c = false := by
  by_contra hb
  have hp := mem_blankPoints_of_isBlank (Bool.not_eq_false _ ▸ hb)
  have none_starts : ∀ n ∈ blankPoints, startsIdentifier (Char.ofNat n) = false := by decide +kernel
  have := none_starts _ hp
  rw [Char.ofNat_toNat, h] at this
  cases this

theorem startsPunctuation_of_startsIdentifier {c : Char} (rest : List Char)
    (h : startsIdentifier c = true) : startsPunctuation (c :: rest) = false := by
  have marks : punctuation.all (fun d => !startsIdentifier d) = true := by decide +kernel
  have apart : c ∉ punctuation := by
    intro hm
    have := List.all_eq_true.mp marks c hm
    rw [h] at this
    cases this
  have slash : c ≠ '/' := startsIdentifier_ne h (apart_of_mem_wordMarks _ (by decide)).1
  unfold startsPunctuation
  split
  · next heq => exact absurd (List.cons.inj heq).1 slash
  · next heq => exact absurd (List.cons.inj heq).1 slash
  · next heq =>
    obtain ⟨rfl, -⟩ := List.cons.inj heq
    simpa using apart
  · rfl

theorem toNat_lt_of_isHexDigit {c : Char} (h : isHexDigit c = true) : c.toNat < 0x80 := by
  simp only [isHexDigit, Char.isDigit, Bool.or_eq_true, Bool.and_eq_true, decide_eq_true_eq, ge_iff_le,
    Char.le_def, UInt32.le_iff_toNat_le] at h
  change c.val.toNat < 128
  rcases h with (⟨-, h⟩ | ⟨-, h⟩) | ⟨-, h⟩
  · change c.val.toNat ≤ 57 at h
    omega
  · change c.val.toNat ≤ 102 at h
    omega
  · change c.val.toNat ≤ 70 at h
    omega

/-- A letter that is a hexadecimal digit stands for ten or more. -/
theorem hexValue_of_startsIdentifier {c : Char} (h : startsIdentifier c = true)
    (hex : isHexDigit c = true) : c.isDigit = false ∧ 10 ≤ hexValue c := by
  have letters : ∀ n < 0x80, startsIdentifier (Char.ofNat n) = true →
      isHexDigit (Char.ofNat n) = true →
      (Char.ofNat n).isDigit = false ∧ 10 ≤ hexValue (Char.ofNat n) := by decide +kernel
  have := letters c.toNat (toNat_lt_of_isHexDigit hex)
  rw [Char.ofNat_toNat] at this
  exact this h hex

theorem isDigit_of_startsIdentifier {c : Char} (h : startsIdentifier c = true) :
    c.isDigit = false := by
  by_cases hex : isHexDigit c = true
  · exact (hexValue_of_startsIdentifier h hex).1
  · simp only [isHexDigit, Bool.or_eq_true, not_or, Bool.not_eq_true] at hex
    exact hex.1.1

/-! ## What is no literal -/

/-- What may stand behind a word in a path, in a list or in a group. -/
def wordStops : List Char := [':', ' ', ')', ']']

theorem continuesIdentifier_wordStops : ∀ c ∈ wordStops, continuesIdentifier c = false := by
  intro c hc
  have listed : wordStops ⊆ wordMarks := List.forall_iff_forall_mem.mp (by decide)
  exact (apart_of_mem_wordMarks c (listed hc)).2

/-- What may follow the first character of a word: more of the word, and then nothing or what stops it. -/
def Trails (cs : List Char) : Prop :=
  ∀ c ∈ (cs.dropWhile continuesIdentifier).head?, c ∈ wordStops

theorem Trails.of_cons {c : Char} {cs : List Char} (h : Trails (c :: cs))
    (hc : continuesIdentifier c = true) : Trails cs := by
  unfold Trails at h
  rwa [List.dropWhile_cons_of_pos hc] at h

theorem Trails.not_head {c : Char} {cs : List Char} (h : Trails (c :: cs))
    (hc : continuesIdentifier c = false) : c ∈ wordStops := by
  unfold Trails at h
  rw [List.dropWhile_cons_of_neg (by simp [hc])] at h
  exact h c rfl

/-- A raw literal needs a quote after its hash signs. -/
theorem scanRaw_eq_none {style : QuoteStyle} {cs : List Char} (h : Trails cs) :
    scanRaw style cs = none := by
  have no_hash : cs.dropWhile (· = '#') = cs := by
    cases cs with
    | nil => rfl
    | cons c cs =>
      have : c ≠ '#' := by
        rintro rfl
        exact absurd (h.not_head (apart_of_mem_wordMarks _ (by decide)).2) (by decide)
      rw [List.dropWhile_cons_of_neg (by simpa using this)]
  unfold scanRaw
  rw [no_hash]
  split
  · exact absurd (h.not_head (apart_of_mem_wordMarks _ (by decide)).2) (by decide)
  · rfl

theorem scanString_eq_none {c : Char} {cs : List Char} (hc : startsIdentifier c = true)
    (h : Trails cs) : scanString (c :: cs) = none := by
  unfold scanString
  split
  · next heq =>
    obtain ⟨rfl, -⟩ := List.cons.inj heq
    exact absurd rfl (startsIdentifier_ne hc (apart_of_mem_wordMarks _ (by decide)).1)
  · next heq =>
    obtain ⟨rfl, rfl⟩ := List.cons.inj heq
    exact absurd (h.not_head (apart_of_mem_wordMarks _ (by decide)).2) (by decide)
  · next heq =>
    obtain ⟨rfl, rfl⟩ := List.cons.inj heq
    rw [scanRaw_eq_none (h.of_cons (identifier_of_mem_letters _ (by decide)).2)]
    rfl
  · next heq =>
    obtain ⟨rfl, rfl⟩ := List.cons.inj heq
    exact absurd (h.not_head (apart_of_mem_wordMarks _ (by decide)).2) (by decide)
  · next heq =>
    obtain ⟨rfl, rfl⟩ := List.cons.inj heq
    rw [scanRaw_eq_none (h.of_cons (identifier_of_mem_letters _ (by decide)).2)]
    rfl
  · next heq =>
    obtain ⟨rfl, rfl⟩ := List.cons.inj heq
    rw [scanRaw_eq_none h]
    rfl
  · rfl

theorem scanCharacter_eq_none {c : Char} {cs : List Char} (hc : startsIdentifier c = true)
    (h : Trails cs) : scanCharacter (c :: cs) = none := by
  unfold scanCharacter
  split
  · next heq =>
    obtain ⟨rfl, rfl⟩ := List.cons.inj heq
    exact absurd (h.not_head (apart_of_mem_wordMarks _ (by decide)).2) (by decide)
  · next heq =>
    obtain ⟨rfl, -⟩ := List.cons.inj heq
    exact absurd rfl (startsIdentifier_ne hc (apart_of_mem_wordMarks _ (by decide)).1)
  · rfl

theorem scanNumber_eq_none {c : Char} {cs : List Char} (hc : startsIdentifier c = true) :
    scanNumber (c :: cs) = none := by
  have digit := isDigit_of_startsIdentifier hc
  have float : scanFloatDigits (c :: cs) = none := by
    unfold scanFloatDigits
    rw [List.head?_cons, Option.map_some, Option.getD_some, digit]
    rfl
  have whole : scanWhole (c :: cs) = none := by
    have zero : c ≠ '0' := by
      rintro rfl
      cases digit
    unfold scanWhole
    split
    · next heq => exact absurd (List.cons.inj heq).1 zero
    · next heq => exact absurd (List.cons.inj heq).1 zero
    · next heq => exact absurd (List.cons.inj heq).1 zero
    · rfl
    · next other =>
      have rule : c ≠ '_' := by
        rintro rfl
        exact other _ rfl
      have large : (isHexDigit c && decide (hexValue c < 10)) = false := by
        by_cases hex : isHexDigit c = true
        · have := (hexValue_of_startsIdentifier hc hex).2
          simp [hex, this]
        · simp [hex]
      have digits : scanDigits 10 (c :: cs) = some ([], c :: cs) := by
        simp [scanDigits, rule, digit, large]
      change (scanDigits 10 (c :: cs)).bind _ = none
      rw [digits]
      rfl
  simp [scanNumber, numberWithSuffix, withSuffix, float, whole]

theorem scanLiteral_eq_none {c : Char} {cs : List Char} (hc : startsIdentifier c = true)
    (h : Trails cs) : scanLiteral (c :: cs) = none := by
  simp [scanLiteral, scanString_eq_none hc h, scanCharacter_eq_none hc h, scanNumber_eq_none hc]

theorem scanLiteral_raw_eq_none {c : Char} (cs : List Char) (hc : startsIdentifier c = true) :
    scanLiteral ('r' :: '#' :: c :: cs) = none := by
  have hash : c ≠ '#' := startsIdentifier_ne hc (apart_of_mem_wordMarks _ (by decide)).1
  have quote : c ≠ '"' := startsIdentifier_ne hc (apart_of_mem_wordMarks _ (by decide)).1
  have raw : scanRaw .text ('#' :: c :: cs) = none := by
    have after : ('#' :: c :: cs).dropWhile (· = '#') = c :: cs := by simp [hash]
    unfold scanRaw
    rw [after]
    split
    · next heq => exact absurd (List.cons.inj heq).1 quote
    · rfl
  have string : scanString ('r' :: '#' :: c :: cs) = none := by
    change (afterTaking ['r'] (scanRaw .text ('#' :: c :: cs))).map _ = none
    rw [raw]
    rfl
  have character : scanCharacter ('r' :: '#' :: c :: cs) = none := rfl
  have number : scanNumber ('r' :: '#' :: c :: cs) = none :=
    scanNumber_eq_none (identifier_of_mem_letters _ (by decide)).1
  simp [scanLiteral, string, character, number]

theorem Trails.of_prefix {front cs : List Char} (h : Trails cs) (hp : front <+: cs) :
    Trails front := by
  induction front generalizing cs with
  | nil =>
    intro c hc
    cases hc
  | cons c front ih =>
    obtain ⟨rest, rfl⟩ := hp
    by_cases hc : continuesIdentifier c = true
    · have := ih (h.of_cons hc) (List.prefix_append front rest)
      unfold Trails at this ⊢
      rwa [List.dropWhile_cons_of_pos hc]
    · have stop : c ∈ wordStops := h.not_head (by simpa using hc)
      unfold Trails
      rw [List.dropWhile_cons_of_neg hc]
      intro d hd
      cases hd
      exact stop

instance (cs : List Char) : Decidable (Trails cs) :=
  decidable_of_iff ((cs.dropWhile continuesIdentifier).head?.all (· ∈ wordStops) = true)
    (by simp [Trails, Option.all_eq_true])

theorem startsLikeLiteral_eq_false {c : Char} {cs : List Char} (h : Trails cs) :
    startsLikeLiteral (c :: cs) = false := by
  have broken : ∀ mark ∈ ["r\"", "r#\"", "r##", "b\"", "b'", "br\"", "br#", "c\"", "cr\"", "cr#"],
      ∃ first rest, mark.toList = first :: rest ∧ ¬Trails rest := by
    intro mark hm
    have tails : ∀ mark ∈ ["r\"", "r#\"", "r##", "b\"", "b'", "br\"", "br#", "c\"", "cr\"", "cr#"],
        mark.toList ≠ [] ∧ ¬Trails mark.toList.tail := by decide +kernel
    obtain ⟨more, stuck⟩ := tails mark hm
    exact ⟨_, _, (List.cons_head_tail more).symm, stuck⟩
  unfold startsLikeLiteral
  rw [List.any_eq_false]
  intro mark hm hp
  obtain ⟨first, rest, hmark, stuck⟩ := broken mark hm
  rw [hmark, List.isPrefixOf_iff_prefix, List.cons_prefix_cons] at hp
  exact stuck (h.of_prefix hp.2)

/-! ## Words -/

/-- The characters of a word: a name, or a name marked as raw. -/
inductive WordForm : List Char → Prop
  | plain {c : Char} {cs : List Char} (starts : startsIdentifier c = true)
    (continues : ∀ d ∈ cs, continuesIdentifier d = true) : WordForm (c :: cs)
  | raw {c : Char} {cs : List Char} (starts : startsIdentifier c = true)
    (continues : ∀ d ∈ cs, continuesIdentifier d = true) (allowed : c :: cs ∉ neverRaw) :
    WordForm ('r' :: '#' :: c :: cs)

theorem scanName_cons (c : Char) (cs : List Char) :
    scanName (c :: cs) =
      if startsIdentifier c then
        some (c :: cs.takeWhile continuesIdentifier, cs.dropWhile continuesIdentifier)
      else none := rfl

/-- What follows a word: nothing or what stops it. -/
def Follows (rest : List Char) : Prop :=
  ∀ c ∈ rest.head?, c ∈ wordStops

section Follows

variable {c : Char} {cs rest : List Char}

theorem Follows.takeWhile_eq (h : Follows rest) (continues : ∀ d ∈ cs, continuesIdentifier d = true) :
    (cs ++ rest).takeWhile continuesIdentifier = cs ∧
      (cs ++ rest).dropWhile continuesIdentifier = rest := by
  rw [List.takeWhile_append_of_pos continues, List.dropWhile_append_of_pos continues]
  cases rest with
  | nil => simp
  | cons d rest =>
    simp [continuesIdentifier_wordStops d (h d rfl)]

theorem Follows.trails (h : Follows rest) (continues : ∀ d ∈ cs, continuesIdentifier d = true) :
    Trails (cs ++ rest) := by
  unfold Trails
  rwa [(h.takeWhile_eq continues).2]

theorem Follows.scanName_eq (h : Follows rest) (starts : startsIdentifier c = true)
    (continues : ∀ d ∈ cs, continuesIdentifier d = true) :
    scanName (c :: (cs ++ rest)) = some (c :: cs, rest) := by
  rw [scanName_cons, if_pos starts, (h.takeWhile_eq continues).1, (h.takeWhile_eq continues).2]

end Follows

theorem continues_of_scanName {c : Char} {cs : List Char}
    (h : scanName (c :: cs) = some (c :: cs, [])) :
    startsIdentifier c = true ∧ ∀ d ∈ cs, continuesIdentifier d = true := by
  rw [scanName_cons] at h
  split at h
  · next starts =>
    simp only [Option.some.injEq, Prod.mk.injEq, List.cons.injEq, true_and] at h
    exact ⟨starts, List.dropWhile_eq_nil_iff.mp h.2⟩
  · cases h

/-- A text that scans as one word is a word. -/
theorem wordForm_of_scanWord {word : List Char} (h : scanWord word = some (word, [])) :
    WordForm word := by
  unfold scanWord at h
  split at h
  · next cs =>
    obtain ⟨⟨name, rest⟩, scanned, h⟩ := Option.bind_eq_some_iff.mp h
    change (if name ∈ neverRaw then none else some ('r' :: '#' :: name, rest)) = _ at h
    split at h
    · cases h
    · next allowed =>
      simp only [Option.some.injEq, Prod.mk.injEq, List.cons.injEq, true_and] at h
      obtain ⟨rfl, rfl⟩ := h
      cases name with
      | nil => cases scanned
      | cons c cs =>
        obtain ⟨starts, continues⟩ := continues_of_scanName scanned
        exact .raw starts continues allowed
  · cases word with
    | nil => cases h
    | cons c cs =>
      obtain ⟨starts, continues⟩ := continues_of_scanName h
      exact .plain starts continues

theorem scanDoc_eq_none {c : Char} {cs : List Char} (hc : c ≠ '/') : scanDoc (c :: cs) = none := by
  unfold scanDoc
  split
  · next heq => exact absurd (List.cons.inj heq).1 hc
  · next heq => exact absurd (List.cons.inj heq).1 hc
  · next heq => exact absurd (List.cons.inj heq).1 hc
  · next heq => exact absurd (List.cons.inj heq).1 hc
  · rfl

/-- What starts neither documentation nor a bracket is looked at as a literal before anything else. -/
theorem scanLexeme_cons {c : Char} (apart : ∀ d ∈ ['/', '(', '[', '\x7b', ')', ']', '\x7d'], c ≠ d)
    (rest : List Char) :
    scanLexeme (c :: rest) =
      match scanLiteral (c :: rest) with
      | some (kind, taken, rest) => some (.token (.literal kind (String.ofList taken)), taken, rest)
      | none =>
        if c = '\'' then
          (scanLifetime (c :: rest)).map fun (name, rest) =>
            (.token (.lifetime (String.ofList name)), '\'' :: name, rest)
        else if startsPunctuation (c :: rest) then
          some (.token (.punct (String.singleton c) (startsPunctuation rest)), [c], rest)
        else if startsLikeLiteral (c :: rest) then none
        else
          (scanWord (c :: rest)).map fun (name, rest) =>
            (.token (.word (String.ofList name)), name, rest) := by
  unfold scanLexeme
  rw [scanDoc_eq_none (apart _ (by decide))]
  dsimp only
  split
  · next heq => cases heq
  · next heq => exact absurd (List.cons.inj heq).1 (apart _ (by decide))
  · next heq => exact absurd (List.cons.inj heq).1 (apart _ (by decide))
  · next heq => exact absurd (List.cons.inj heq).1 (apart _ (by decide))
  · next heq => exact absurd (List.cons.inj heq).1 (apart _ (by decide))
  · next heq => exact absurd (List.cons.inj heq).1 (apart _ (by decide))
  · next heq => exact absurd (List.cons.inj heq).1 (apart _ (by decide))
  · next heq =>
    obtain ⟨rfl, rfl⟩ := List.cons.inj heq
    rfl

theorem scanLexeme_of_startsIdentifier {c : Char} {cs : List Char}
    (hc : startsIdentifier c = true) (literal : scanLiteral (c :: cs) = none)
    (like : startsLikeLiteral (c :: cs) = false) :
    scanLexeme (c :: cs) = (scanWord (c :: cs)).map fun (name, rest) =>
      (.token (.word (String.ofList name)), name, rest) := by
  have listed : ['/', '(', '[', '\x7b', ')', ']', '\x7d', '\''] ⊆ wordMarks :=
    List.forall_iff_forall_mem.mp (by decide)
  have apart : ∀ d ∈ ['/', '(', '[', '\x7b', ')', ']', '\x7d', '\''], c ≠ d :=
    fun d hd => startsIdentifier_ne hc (apart_of_mem_wordMarks d (listed hd)).1
  rw [scanLexeme_cons fun d hd => apart d (List.mem_append_left ['\''] hd), literal]
  simp [apart '\'' (by decide), startsPunctuation_of_startsIdentifier cs hc, like]

theorem WordForm.exists_cons {word : List Char} (h : WordForm word) :
    ∃ c cs, word = c :: cs ∧ startsIdentifier c = true := by
  cases h with
  | plain starts => exact ⟨_, _, rfl, starts⟩
  | raw => exact ⟨_, _, rfl, (identifier_of_mem_letters _ (by decide)).1⟩

/-- The scanner of words takes a word whole. -/
theorem WordForm.scanWord_eq {word rest : List Char} (hw : WordForm word) (hr : Follows rest) :
    scanWord (word ++ rest) = some (word, rest) := by
  cases hw with
  | @plain c cs starts continues =>
    have trails := hr.trails continues
    rw [List.cons_append]
    unfold scanWord
    split
    · next heq =>
      obtain ⟨rfl, more⟩ := List.cons.inj heq
      rw [more] at trails
      exact absurd (trails.not_head (apart_of_mem_wordMarks _ (by decide)).2) (by decide)
    · exact hr.scanName_eq starts continues
  | @raw c cs starts continues allowed =>
    change (scanName (c :: (cs ++ rest))).bind _ = _
    rw [hr.scanName_eq starts continues]
    exact if_neg allowed

/-- The scanner takes a word from the front of a text. -/
theorem WordForm.scanLexeme_eq {word rest : List Char} (hw : WordForm word) (hr : Follows rest) :
    scanLexeme (word ++ rest) = some (.token (.word (String.ofList word)), word, rest) := by
  have scanned := hw.scanWord_eq hr
  cases hw with
  | @plain c cs starts continues =>
    have trails := hr.trails continues
    rw [List.cons_append] at scanned ⊢
    rw [scanLexeme_of_startsIdentifier starts (scanLiteral_eq_none starts trails)
      (startsLikeLiteral_eq_false trails), scanned]
    rfl
  | @raw c cs starts continues allowed =>
    have like : startsLikeLiteral ('r' :: '#' :: c :: (cs ++ rest)) = false := by
      have hash : c ≠ '#' := startsIdentifier_ne starts (apart_of_mem_wordMarks _ (by decide)).1
      have quote : c ≠ '"' := startsIdentifier_ne starts (apart_of_mem_wordMarks _ (by decide)).1
      simp [startsLikeLiteral, List.isPrefixOf, hash.symm, quote.symm]
    simp only [List.cons_append] at scanned ⊢
    have letter := (identifier_of_mem_letters 'r' (by decide)).1
    rw [scanLexeme_of_startsIdentifier letter (scanLiteral_raw_eq_none _ starts) like, scanned]
    rfl

/-! ## Operators -/

/-- The characters of the operators in types. -/
def operatorCharacters : List Char := "!&*+,-:;<=>?".toList

theorem scanLiteral_operator {c : Char} (hc : c ∈ operatorCharacters) (rest : List Char) :
    scanLiteral (c :: rest) = none := by
  have each : scanString (c :: rest) = none ∧ scanCharacter (c :: rest) = none ∧
      scanFloatDigits (c :: rest) = none ∧ scanWhole (c :: rest) = none := by
    change c ∈ ['!', '&', '*', '+', ',', '-', ':', ';', '<', '=', '>', '?'] at hc
    simp only [List.mem_cons, List.not_mem_nil, or_false] at hc
    rcases hc with rfl | rfl | rfl | rfl | rfl | rfl | rfl | rfl | rfl | rfl | rfl | rfl <;>
      exact ⟨rfl, rfl, rfl, rfl⟩
  obtain ⟨string, character, float, whole⟩ := each
  have number : scanNumber (c :: rest) = none := by
    simp [scanNumber, numberWithSuffix, withSuffix, float, whole]
  simp [scanLiteral, string, character, number]

theorem startsPunctuation_operator {c : Char} (hc : c ∈ operatorCharacters) (rest : List Char) :
    startsPunctuation (c :: rest) = true := by
  have listed : ∀ c ∈ operatorCharacters, c ≠ '/' ∧ punctuation.contains c = true :=
    List.forall_iff_forall_mem.mp (by decide)
  obtain ⟨slash, punct⟩ := listed c hc
  unfold startsPunctuation
  split
  · next heq => exact absurd (List.cons.inj heq).1 slash
  · next heq => exact absurd (List.cons.inj heq).1 slash
  · next heq =>
    obtain ⟨rfl, rfl⟩ := List.cons.inj heq
    exact punct
  · next heq => cases heq

/-- A character of an operator is a lexeme of its own. -/
theorem scanLexeme_operator {c : Char} (hc : c ∈ operatorCharacters) (rest : List Char) :
    scanLexeme (c :: rest) =
      some (.token (.punct (String.singleton c) (startsPunctuation rest)), [c], rest) := by
  have listed : ∀ c ∈ operatorCharacters, c ∉ ['/', '(', '[', '\x7b', ')', ']', '\x7d', '\''] :=
    List.forall_iff_forall_mem.mp (by decide)
  have apart : ∀ d ∈ ['/', '(', '[', '\x7b', ')', ']', '\x7d', '\''], c ≠ d := by
    rintro d hd rfl
    exact listed c hc hd
  rw [scanLexeme_cons fun d hd => apart d (List.mem_append_left ['\''] hd), scanLiteral_operator hc]
  simp only [startsPunctuation_operator hc, if_neg (apart '\'' (by decide)), if_true]

end RecordMapper.Code
