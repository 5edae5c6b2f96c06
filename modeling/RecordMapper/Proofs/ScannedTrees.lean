/-
Every word in the trees of a source text is one that the scanner of words took, and so scans as itself; so does
the name of a lifetime. The property is followed from the characters to lexemes and from these to trees, groups
included.
-/
import RecordMapper.Proofs.SpelledPaths

namespace RecordMapper.Code

open Text

/-! ## From characters -/

theorem scanName_again {cs name rest : List Char} (h : scanName cs = some (name, rest)) :
    scanName name = some (name, []) := by
  cases cs with
  | nil => cases h
  | cons c cs =>
    rw [scanName_cons] at h
    split at h
    · next starts =>
      cases h
      have kept : ∀ d ∈ cs.takeWhile continuesIdentifier, continuesIdentifier d = true :=
        fun d hd => List.mem_takeWhile_imp hd
      rw [scanName_cons, if_pos starts, List.takeWhile_eq_self_iff.mpr kept, List.dropWhile_eq_nil_iff.mpr kept]
    · cases h

/-- What the scanner of words takes scans as one word. -/
theorem scanWord_again {cs word rest : List Char} (h : scanWord cs = some (word, rest)) :
    scanWord word = some (word, []) := by
  unfold scanWord at h
  split at h
  · obtain ⟨⟨name, left⟩, scanned, h⟩ := Option.bind_eq_some_iff.mp h
    change (if name ∈ neverRaw then none else some ('r' :: '#' :: name, left)) = _ at h
    split at h
    · cases h
    · next allowed =>
      cases h
      change (scanName name).bind _ = _
      rw [scanName_again scanned]
      exact if_neg allowed
  · have again := scanName_again h
    unfold scanWord
    split
    · -- a name without the mark of a raw one does not go on with the mark
      have mark := (apart_of_mem_wordMarks '#' (by decide)).2
      rw [(continues_of_scanName again).2 '#' List.mem_cons_self] at mark
      cases mark
    · exact again

/-! ## Lexemes -/

theorem scanWord_of_scanLifetime {cs name rest : List Char} (h : scanLifetime cs = some (name, rest)) :
    ∃ cs rest, scanWord cs = some (name, rest) := by
  unfold scanLifetime at h
  split at h
  · obtain ⟨⟨word, after⟩, scanned, h⟩ := Option.bind_eq_some_iff.mp h
    have same : word = name := by
      dsimp only at h
      split at h
      · cases h
      · split at h
        · cases h
          rfl
        · cases h
      · cases h
        rfl
    exact ⟨_, after, same ▸ scanned⟩
  · cases h

/-- A token scans as it is spelled if it is a word, and a lifetime does after its quote. -/
def Token.Scans : Token → Prop
  | .word name | .lifetime name => scanWord name.toList = some (name.toList, [])
  | _ => True

def Lexeme.Scans : Lexeme → Prop
  | .token leaf => leaf.Scans
  | _ => True

theorem scans_of_scanLexeme {cs taken rest : List Char} {lexeme : Lexeme}
    (h : scanLexeme cs = some (lexeme, taken, rest)) : lexeme.Scans := by
  unfold scanLexeme at h
  split at h
  · cases h
    trivial
  · split at h
    iterate 7 first | (cases h; trivial) | cases h
    split at h
    · cases h
      trivial
    · split at h
      · obtain ⟨⟨name, left⟩, scanned, same⟩ := Option.map_eq_some_iff.mp h
        cases same
        obtain ⟨_, _, scanned⟩ := scanWord_of_scanLifetime scanned
        have again := scanWord_again scanned
        simpa only [Lexeme.Scans, Token.Scans, String.toList_ofList] using again
      · split at h
        · cases h
          trivial
        · split at h
          · cases h
          · obtain ⟨⟨word, left⟩, scanned, same⟩ := Option.map_eq_some_iff.mp h
            cases same
            have again := scanWord_again scanned
            simpa only [Lexeme.Scans, Token.Scans, String.toList_ofList] using again

theorem scans_of_lexemesFrom {steps : Nat} {place : Place} {cs : List Char} {found : List (Lexeme × Span)}
    (h : lexemesFrom steps place cs = some found) : ∀ lexeme ∈ found, lexeme.1.Scans := by
  induction steps generalizing place cs found with
  | zero =>
    cases cs with
    | nil =>
      cases h
      simp
    | cons => cases h
  | succ steps ih =>
    cases cs with
    | nil =>
      cases h
      simp
    | cons c cs =>
      rw [lexemesFrom] at h
      split at h
      · exact ih h
      · split at h
        · exact ih h
        · obtain ⟨⟨lexeme, taken, rest⟩, scanned, h⟩ := Option.bind_eq_some_iff.mp h
          obtain ⟨more, left, h⟩ := Option.bind_eq_some_iff.mp h
          cases h
          exact List.forall_mem_cons.mpr ⟨scans_of_scanLexeme scanned, ih left⟩

/-! ## Trees -/

namespace Tree

/-- A tree without nodes, as trees are before the grammar looks at them, whose words scan as themselves. -/
inductive Scans : Tree → Prop
  | token {leaf : Token} (place : Span) : leaf.Scans → Scans (.token leaf place)
  | group (delimiter : Delimiter) (opening closing : Span) {inner : List Tree} :
      (∀ tree ∈ inner, Scans tree) → Scans (.group delimiter opening closing inner)

theorem scans_ofDoc (inner : Bool) (text : List Char) (place : Span) :
    ∀ tree ∈ ofDoc inner text place, tree.Scans := by
  have punct (text : String) : Scans (.token (.punct text false) place) := .token place trivial
  have word : Scans (.token (.word "doc") place) := by
    refine .token place ?_
    change scanWord "doc".toList = _
    decide +kernel
  have inside : Scans (.group .bracket place place
      [.token (.word "doc") place, .token (.punct "=" false) place,
        .token (literalOfText text) place]) := by
    refine .group _ _ _ fun tree hm => ?_
    simp only [List.mem_cons, List.not_mem_nil, or_false] at hm
    rcases hm with rfl | rfl | rfl
    · exact word
    · exact punct _
    · exact .token place trivial
  intro tree hm
  cases inner <;>
    · simp only [ofDoc, List.mem_cons, List.not_mem_nil, or_false, if_true, if_false,
        Bool.false_eq_true, List.nil_append, List.cons_append] at hm
      rcases hm with rfl | rfl | rfl <;> first | exact punct _ | exact inside

/-- Trees are put together from lexemes without other words; the induction carries what stands in the open
groups. -/
theorem scans_of_assemble {lexemes : List (Lexeme × Span)} (scans : ∀ lexeme ∈ lexemes, lexeme.1.Scans)
    {opened : List Opened} {current trees : List Tree}
    (before : ∀ group ∈ opened, ∀ tree ∈ group.before, tree.Scans)
    (here : ∀ tree ∈ current, tree.Scans) (h : assemble opened current lexemes = some trees) :
    ∀ tree ∈ trees, tree.Scans := by
  induction lexemes generalizing opened current with
  | nil =>
    cases opened with
    | nil =>
      cases h
      exact fun tree hm => here tree (List.mem_reverse.mp hm)
    | cons => cases h
  | cons first lexemes ih =>
    obtain ⟨lexeme, place⟩ := first
    obtain ⟨own, scans⟩ := List.forall_mem_cons.mp scans
    replace ih := @ih scans
    cases lexeme with
    | opening delimiter =>
      exact ih (List.forall_mem_cons.mpr ⟨here, before⟩) (by simp) h
    | closing delimiter =>
      cases opened with
      | nil => cases h
      | cons inner outer =>
        obtain ⟨around, before⟩ := List.forall_mem_cons.mp before
        rw [assemble] at h
        split at h
        · refine ih before (List.forall_mem_cons.mpr ⟨?_, around⟩) h
          exact .group _ _ _ fun tree hm => here tree (List.mem_reverse.mp hm)
        · cases h
    | token leaf => exact ih before (List.forall_mem_cons.mpr ⟨.token place own, here⟩) h
    | doc isInner text =>
      refine ih before (fun tree hm => ?_) h
      rcases List.mem_append.mp hm with hm | hm
      · exact scans_ofDoc isInner text place tree (List.mem_reverse.mp hm)
      · exact here tree hm

theorem scans_of_ofChars? {place : Place} {cs : List Char} {trees : List Tree}
    (h : ofChars? place cs = some trees) : ∀ tree ∈ trees, tree.Scans := by
  obtain ⟨found, scanned, h⟩ := Option.bind_eq_some_iff.mp h
  exact scans_of_assemble (scans_of_lexemesFrom scanned) (by simp) (by simp) h

end Tree

end RecordMapper.Code
