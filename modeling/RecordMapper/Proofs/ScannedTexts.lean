/-
The text of trees is scanned into their tokens again. A piece of a text is cut into its lexemes wherever it
stands, as long as what follows stops its last word, and so a blank may stand between two pieces. What is
put together from the lexemes of trees is these trees without their nodes, at other places.
-/
import RecordMapper.Proofs.ScannedTrees

namespace RecordMapper.Code

open Text

/-! ## Single lexemes -/

/-- What may stand behind a token in the text of trees: nothing, a blank or the end of a group. -/
def Stops (rest : List Char) : Prop :=
  ∀ c ∈ rest.head?, c ∈ [' ', ')', ']']

theorem stops_nil : Stops [] := by simp [Stops]

theorem stops_cons {c : Char} (rest : List Char) (h : c ∈ [' ', ')', ']']) : Stops (c :: rest) := by
  simpa [Stops] using h

section Stops

variable {rest : List Char}

theorem Stops.follows (h : Stops rest) : Follows rest := by
  intro c hc
  exact List.mem_cons_of_mem _ (h c hc)

theorem Stops.startsPunctuation_eq (h : Stops rest) : startsPunctuation rest = false := by
  have stops : ∀ c ∈ [' ', ')', ']'], punctuation.contains c = false :=
    List.forall_iff_forall_mem.mp (by decide)
  unfold startsPunctuation
  split
  · exact absurd (h _ rfl) (by decide)
  · exact absurd (h _ rfl) (by decide)
  · exact stops _ (h _ rfl)
  · rfl

end Stops

/-- No character in quotes starts as a word does. -/
theorem scanSingle_eq_none {style : QuoteStyle} {name rest : List Char} (hw : WordForm name)
    (hr : Follows rest) : scanSingle style (name ++ rest) = none := by
  have quote := (apart_of_mem_wordMarks '\'' (by decide)).2
  unfold scanSingle
  split
  · next heq =>
    obtain ⟨c, cs, rfl, starts⟩ := hw.exists_cons
    obtain ⟨rfl, -⟩ := List.cons.inj heq
    exact absurd rfl (startsIdentifier_ne starts (apart_of_mem_wordMarks _ (by decide)).1)
  · next heq =>
    cases hw with
    | @plain c cs _ continues =>
      obtain ⟨-, heq⟩ := List.cons.inj heq
      cases cs with
      | nil =>
        have heq : rest = '\'' :: _ := heq
        exact absurd (hr '\'' (by rw [heq]; rfl)) (by decide)
      | cons d cs =>
        obtain ⟨rfl, -⟩ := List.cons.inj heq
        rw [continues _ List.mem_cons_self] at quote
        cases quote
    | raw => cases heq
  · rfl

/-- The scanner takes a lifetime with its quote. -/
theorem scanLexeme_lifetime {name rest : List Char} (hw : WordForm name) (hr : Follows rest) :
    scanLexeme ('\'' :: (name ++ rest)) =
      some (.token (.lifetime (String.ofList name)), '\'' :: name, rest) := by
  have literal : scanLiteral ('\'' :: (name ++ rest)) = none := by
    have string : scanString ('\'' :: (name ++ rest)) = none := rfl
    have character : scanCharacter ('\'' :: (name ++ rest)) = none := by
      change (afterTaking ['\''] (scanSingle .text (name ++ rest))).map _ = none
      rw [scanSingle_eq_none hw hr]
      rfl
    have float : scanFloatDigits ('\'' :: (name ++ rest)) = none := rfl
    have whole : scanWhole ('\'' :: (name ++ rest)) = none := rfl
    simp [scanLiteral, string, character, scanNumber, numberWithSuffix, withSuffix, float, whole]
  have lifetime : scanLifetime ('\'' :: (name ++ rest)) = some (name, rest) := by
    change (scanWord (name ++ rest)).bind _ = _
    rw [hw.scanWord_eq hr, Option.bind_some]
    dsimp only
    split
    · exact absurd (hr _ rfl) (by decide)
    · exact absurd (hr _ rfl) (by decide)
    · rfl
  rw [scanLexeme_cons (List.forall_iff_forall_mem.mp (by decide)), literal]
  simp only [lifetime, Option.map_some, if_true]

/-! ### Numbers -/

section Digits

variable {digits rest : List Char}

theorem isDigit_ne {c d : Char} (hc : c.isDigit = true) (hd : d.isDigit = false) : c ≠ d := by
  rintro rfl
  rw [hc] at hd
  cases hd

theorem isDigitOrRule_stops : ∀ c ∈ [' ', ')', ']'], isDigitOrRule c = false :=
  List.forall_iff_forall_mem.mp (by decide)

/-- Digits are taken up to what stops them. -/
theorem dropWhile_digits (all : ∀ d ∈ digits, d.isDigit = true) (hr : Stops rest) :
    (digits ++ rest).dropWhile isDigitOrRule = rest := by
  have taken : ∀ d ∈ digits, isDigitOrRule d = true := fun d hd => by simp [isDigitOrRule, all d hd]
  rw [List.dropWhile_append_of_pos taken]
  cases rest with
  | nil => rfl
  | cons c rest => rw [List.dropWhile_cons_of_neg (by simp [isDigitOrRule_stops c (hr c rfl)])]

/-- Digits alone are no number with a point or an exponent. -/
theorem scanFloatDigits_eq_none (all : ∀ d ∈ digits, d.isDigit = true) (hr : Stops rest) :
    scanFloatDigits (digits ++ rest) = none := by
  unfold scanFloatDigits
  rw [dropWhile_digits all hr]
  cases rest with
  | nil => exact Option.bind_eq_none_iff.mpr fun _ _ => rfl
  | cons c rest =>
    have stop := hr c rfl
    simp only [List.mem_cons, List.not_mem_nil, or_false] at stop
    rcases stop with rfl | rfl | rfl <;> exact Option.bind_eq_none_iff.mpr fun _ _ => rfl

/-- Digits are taken as those of a number in base ten. -/
theorem scanDigits_eq (all : ∀ d ∈ digits, d.isDigit = true) (hr : Stops rest) :
    scanDigits 10 (digits ++ rest) = some (digits, rest) := by
  induction digits with
  | nil =>
    cases rest with
    | nil => rfl
    | cons c rest =>
      have stops : ∀ c ∈ [' ', ')', ']'], c ≠ '_' ∧ c.isDigit = false ∧ isHexDigit c = false :=
        List.forall_iff_forall_mem.mp (by decide)
      obtain ⟨rule, digit, hex⟩ := stops c (hr c rfl)
      simp [scanDigits, rule, digit, hex]
  | cons d digits ih =>
    obtain ⟨digit, others⟩ := List.forall_mem_cons.mp all
    have rule : d ≠ '_' := isDigit_ne digit (by decide)
    have small : d.toNat - 48 < 10 := by
      have large : d.toNat ≤ 57 := (Char.isDigit_iff_toNat.mp digit).2
      omega
    simp [scanDigits, rule, digit, small, ih others, afterTaking]

/-- Digits in front of what stops them are a whole number. -/
theorem scanWhole_eq (some_digit : digits ≠ []) (all : ∀ d ∈ digits, d.isDigit = true)
    (hr : Stops rest) : scanWhole (digits ++ rest) = some (digits, rest) := by
  -- no mark of another base stands in front: its second character is neither a digit nor a stop
  have mark : ∀ {c : Char} {cs : List Char}, c.isDigit = false → c ∉ [' ', ')', ']'] →
      digits ++ rest ≠ '0' :: c :: cs := by
    intro c cs letter stop front
    cases digits with
    | nil => exact some_digit rfl
    | cons d digits =>
      obtain ⟨-, front⟩ := List.cons.inj front
      cases digits with
      | nil =>
        have front : rest = c :: cs := front
        exact stop (hr c (by rw [front]; rfl))
      | cons d digits =>
        obtain ⟨rfl, -⟩ := List.cons.inj front
        rw [all _ (by simp)] at letter
        cases letter
  have number : digits.all (· = '_') = false := by
    obtain ⟨d, others, rfl⟩ := List.exists_cons_of_ne_nil some_digit
    have rule : d ≠ '_' := isDigit_ne (all d List.mem_cons_self) (by decide)
    rw [List.all_cons, decide_eq_false rule, Bool.false_and]
  unfold scanWhole
  split
  · next heq => exact absurd heq (mark (by decide) (by decide))
  · next heq => exact absurd heq (mark (by decide) (by decide))
  · next heq => exact absurd heq (mark (by decide) (by decide))
  · next heq =>
    obtain ⟨d, others, rfl⟩ := List.exists_cons_of_ne_nil some_digit
    obtain ⟨rfl, -⟩ := List.cons.inj heq
    exact absurd (all '_' List.mem_cons_self) (by decide)
  · simp only [scanDigits_eq all hr, Option.bind_some, number, Bool.false_eq_true, if_false,
      List.nil_append]

theorem withSuffix_stops {taken : List Char} (hr : Stops rest) :
    withSuffix (some (taken, rest)) = some (taken, rest) := by
  cases rest with
  | nil => rfl
  | cons c rest =>
    have listed : [' ', ')', ']'] ⊆ wordMarks := List.forall_iff_forall_mem.mp (by decide)
    simp [withSuffix, scanName_cons, (apart_of_mem_wordMarks c (listed (hr c rfl))).1]

theorem scanNumber_digits (some_digit : digits ≠ []) (all : ∀ d ∈ digits, d.isDigit = true)
    (hr : Stops rest) : scanNumber (digits ++ rest) = some (.integer, digits, rest) := by
  have whole : numberWithSuffix (scanWhole (digits ++ rest)) = some (digits, rest) := by
    rw [numberWithSuffix, scanWhole_eq some_digit all hr, withSuffix_stops hr]
    cases rest with
    | nil => rfl
    | cons c rest =>
      simp [continuesIdentifier_wordStops c (hr.follows c rfl)]
  have float : numberWithSuffix (scanFloatDigits (digits ++ rest)) = none := by
    rw [scanFloatDigits_eq_none all hr]
    rfl
  rw [scanNumber, float, whole]
  rfl

/-- The scanner takes a number of digits. -/
theorem scanLexeme_digits (some_digit : digits ≠ []) (all : ∀ d ∈ digits, d.isDigit = true)
    (hr : Stops rest) :
    scanLexeme (digits ++ rest) =
      some (.token (.literal .integer (String.ofList digits)), digits, rest) := by
  have number := scanNumber_digits some_digit all hr
  obtain ⟨d, others, rfl⟩ := List.exists_cons_of_ne_nil some_digit
  have apart : ∀ c, c.isDigit = false → d ≠ c := fun c => isDigit_ne (all d List.mem_cons_self)
  rw [List.cons_append] at number ⊢
  have string : scanString (d :: (others ++ rest)) = none := by
    unfold scanString
    split
    iterate 6 next heq => exact absurd (List.cons.inj heq).1 (apart _ (by decide))
    rfl
  have character : scanCharacter (d :: (others ++ rest)) = none := by
    unfold scanCharacter
    split
    iterate 2 next heq => exact absurd (List.cons.inj heq).1 (apart _ (by decide))
    rfl
  have literal : scanLiteral (d :: (others ++ rest)) = some (.integer, d :: others, rest) := by
    simp [scanLiteral, string, character, number]
  have marks : ∀ c ∈ ['/', '(', '[', '\x7b', ')', ']', '\x7d'], c.isDigit = false :=
    List.forall_iff_forall_mem.mp (by decide)
  rw [scanLexeme_cons fun c hc => apart c (marks c hc), literal]

end Digits

/-! ## Pieces of a text -/

/-- A piece of a text is cut into lexemes wherever it stands, and what stops it is left. -/
def LexesTo (piece : List Char) (lexemes : List Lexeme) : Prop :=
  ∀ place, ∃ (found : List (Lexeme × Span)) (taken : Nat), found.map Prod.fst = lexemes ∧
    taken ≤ piece.length ∧ ∀ steps rest, Stops rest →
      lexemesFrom (steps + taken) place (piece ++ rest) =
        (lexemesFrom steps (place.after piece) rest).map (found ++ ·)

namespace LexesTo

variable {front back inner : List Char} {lexemes more : List Lexeme} {lexeme : Lexeme}

theorem nil : LexesTo [] [] := by
  intro place
  refine ⟨[], 0, rfl, Nat.le_refl _, fun steps rest _ => ?_⟩
  simp [Place.after]

/-- A piece that is one lexeme. -/
theorem single {c : Char} {cs : List Char} (blank : isBlank c = false) (slash : c ≠ '/')
    (scanned : ∀ rest, Stops rest → scanLexeme (c :: (cs ++ rest)) = some (lexeme, c :: cs, rest)) :
    LexesTo (c :: cs) [lexeme] := by
  intro place
  refine ⟨[(lexeme, ⟨place, place.after (c :: cs)⟩)], 1, rfl, by simp, fun steps rest stops => ?_⟩
  exact lexemesFrom_succ blank slash (scanned rest stops)

/-- Pieces that stop each other may stand side by side. -/
theorem append (hf : LexesTo front lexemes) (hb : LexesTo back more)
    (stops : ∀ rest, Stops rest → Stops (back ++ rest)) : LexesTo (front ++ back) (lexemes ++ more) := by
  intro place
  obtain ⟨found, taken, own, few, cut⟩ := hf place
  obtain ⟨others, left, their, fewer, cutBack⟩ := hb (place.after front)
  refine ⟨found ++ others, left + taken, by simp [own, their], ?_, fun steps rest behind => ?_⟩
  · rw [List.length_append]
    omega
  · have after : place.after (front ++ back) = (place.after front).after back := by
      simp [Place.after, List.foldl_append]
    rw [List.append_assoc, ← Nat.add_assoc, cut _ _ (stops rest behind), cutBack _ _ behind, after,
      Option.map_map]
    simp [Function.comp_def]

/-- A blank in front of a piece counts for nothing. -/
theorem blank (h : LexesTo back more) : LexesTo (' ' :: back) more := by
  intro place
  obtain ⟨found, taken, own, few, cut⟩ := h (place.next ' ')
  refine ⟨found, taken + 1, own, by simpa using few, fun steps rest behind => ?_⟩
  rw [List.cons_append, ← Nat.add_assoc, lexemesFrom, if_pos (by decide), cut _ _ behind]
  rfl

/-- A blank between two pieces stops the first. -/
theorem append_blank (hf : LexesTo front lexemes) (hb : LexesTo back more) :
    LexesTo (front ++ ' ' :: back) (lexemes ++ more) :=
  hf.append hb.blank fun _ _ => stops_cons _ (by decide)

/-- An opening bracket needs nothing to stop it. -/
theorem opened {delimiter : Delimiter} {c : Char} (bracket : c ∈ ['(', '['])
    (scanned : ∀ rest, scanLexeme (c :: rest) = some (.opening delimiter, [c], rest))
    (h : LexesTo back more) : LexesTo (c :: back) (.opening delimiter :: more) := by
  intro place
  have apart : ∀ c ∈ ['(', '['], isBlank c = false ∧ c ≠ '/' :=
    List.forall_iff_forall_mem.mp (by decide)
  obtain ⟨found, taken, own, few, cut⟩ := h (place.after [c])
  refine ⟨(.opening delimiter, ⟨place, place.after [c]⟩) :: found, taken + 1, by simp [own],
    by simpa using few, fun steps rest behind => ?_⟩
  rw [List.cons_append, ← Nat.add_assoc,
    lexemesFrom_succ (apart c bracket).1 (apart c bracket).2 (scanned _), cut _ _ behind, Option.map_map]
  rfl

/-- A piece between brackets. -/
theorem enclosed {delimiter : Delimiter} (round : delimiter ≠ .brace) (h : LexesTo inner lexemes) :
    LexesTo (delimiter.opened ++ inner ++ delimiter.closed)
      (.opening delimiter :: lexemes ++ [.closing delimiter]) := by
  cases delimiter with
  | paren =>
    have closed : LexesTo [')'] [.closing .paren] := single rfl (by decide) fun _ _ => rfl
    exact opened (by decide) (fun _ => rfl) (h.append closed fun _ _ => stops_cons _ (by decide))
  | bracket =>
    have closed : LexesTo [']'] [.closing .bracket] := single rfl (by decide) fun _ _ => rfl
    exact opened (by decide) (fun _ => rfl) (h.append closed fun _ _ => stops_cons _ (by decide))
  | brace => exact absurd rfl round

/-- A word as a piece. -/
theorem word {name : String} (hw : WordForm name.toList) : LexesTo name.toList [.token (.word name)] := by
  have scanned : ∀ rest, Stops rest →
      scanLexeme (name.toList ++ rest) = some (.token (.word name), name.toList, rest) := by
    intro rest stops
    rw [hw.scanLexeme_eq stops.follows, String.ofList_toList]
  obtain ⟨c, cs, hname, starts⟩ := hw.exists_cons
  rw [hname] at scanned ⊢
  have slash := startsIdentifier_ne starts (apart_of_mem_wordMarks '/' (by decide)).1
  exact single (isBlank_of_startsIdentifier starts) slash scanned

/-- A lifetime as a piece. -/
theorem lifetime {name : String} (hw : WordForm name.toList) :
    LexesTo ('\'' :: name.toList) [.token (.lifetime name)] := by
  refine single (by decide) (by decide) fun rest stops => ?_
  rw [scanLexeme_lifetime hw stops.follows, String.ofList_toList]

/-- A number of digits as a piece. -/
theorem number {digits : String} (some_digit : digits.toList ≠ [])
    (all : ∀ d ∈ digits.toList, d.isDigit = true) :
    LexesTo digits.toList [.token (.literal .integer digits)] := by
  have scanned : ∀ rest, Stops rest →
      scanLexeme (digits.toList ++ rest) = some (.token (.literal .integer digits), digits.toList, rest) := by
    intro rest stops
    rw [scanLexeme_digits some_digit all stops, String.ofList_toList]
  obtain ⟨d, others, hdigits⟩ := List.exists_cons_of_ne_nil some_digit
  rw [hdigits] at scanned all ⊢
  have digit := all d List.mem_cons_self
  have apart : isBlank d = false := by
    refine Bool.eq_false_iff.mpr fun blank => ?_
    have outside : ∀ n ∈ blankPoints, n < 48 ∨ 57 < n := by decide
    have range : 48 ≤ d.toNat ∧ d.toNat ≤ 57 := Char.isDigit_iff_toNat.mp digit
    have := outside _ (mem_blankPoints_of_isBlank blank)
    omega
  exact single apart (isDigit_ne digit (by decide)) scanned

end LexesTo

/-- The lexemes of an operator that something else follows. -/
def operatorLexemes : List Char → List Lexeme
  | [] => []
  | [c] => [.token (.punct (String.singleton c) false)]
  | c :: rest => .token (.punct (String.singleton c) true) :: operatorLexemes rest

/-- An operator as a piece: its characters are joint. -/
theorem LexesTo.operator {cs : List Char} (all : ∀ c ∈ cs, c ∈ operatorCharacters) :
    LexesTo cs (operatorLexemes cs) := by
  induction cs with
  | nil => exact .nil
  | cons c cs ih =>
    obtain ⟨own, others⟩ := List.forall_mem_cons.mp all
    cases cs with
    | nil =>
      intro place
      refine ⟨[(_, ⟨place, place.after [c]⟩)], 1, rfl, Nat.le_refl _, fun steps rest stops => ?_⟩
      rw [List.singleton_append, lexemesFrom_operator own, stops.startsPunctuation_eq]
      rfl
    | cons d cs =>
      intro place
      obtain ⟨found, taken, same, few, cut⟩ := ih others (place.after [c])
      refine ⟨(.token (.punct (String.singleton c) true), ⟨place, place.after [c]⟩) :: found, taken + 1,
        by rw [List.map_cons, same]; rfl, by simpa using few, fun steps rest stops => ?_⟩
      have joint := startsPunctuation_operator (others d List.mem_cons_self) (cs ++ rest)
      rw [List.cons_append, ← Nat.add_assoc, lexemesFrom_operator own, cut _ _ stops, Option.map_map,
        List.cons_append, joint]
      rfl

/-! ## Trees -/

/-- A text that scans as one word. -/
def IsWordText (text : String) : Prop :=
  scanWord text.toList = some (text.toList, [])

/-- A text of digits. -/
def IsNumberText (text : String) : Prop :=
  text.toList ≠ [] ∧ ∀ d ∈ text.toList, d.isDigit = true

/-- A token that is scanned from its spelling again: a word, a lifetime, an operator that stands off from
what follows, or a number of digits. -/
def Token.Legible : Token → Prop
  | .word name | .lifetime name => IsWordText name
  | .punct text joint => joint = false ∧ ∀ c ∈ text.toList, c ∈ operatorCharacters
  | .literal kind digits => kind = .integer ∧ IsNumberText digits

namespace Tree

mutual

/-- A tree of legible tokens, without braces. -/
def Legible : Tree → Prop
  | token t _ => t.Legible
  | group delimiter _ _ inner => delimiter ≠ .brace ∧ LegibleAll inner
  | node _ parts => LegibleAll parts

/-- Several trees of legible tokens. -/
def LegibleAll : List Tree → Prop
  | [] => True
  | tree :: rest => Legible tree ∧ LegibleAll rest

end

mutual

/-- The lexemes that a tree is put together from. -/
def lexemes : Tree → List Lexeme
  | token (.punct text _) _ => operatorLexemes text.toList
  | token t _ => [.token t]
  | group delimiter _ _ inner => .opening delimiter :: lexemesOf inner ++ [.closing delimiter]
  | node _ parts => lexemesOf parts

/-- The lexemes that several trees are put together from. -/
def lexemesOf : List Tree → List Lexeme
  | [] => []
  | tree :: rest => lexemes tree ++ lexemesOf rest

end

end Tree

/-- A text that ends with a blank, or nothing, is cut into lexemes. -/
def SpacedTo (cs : List Char) (lexemes : List Lexeme) : Prop :=
  cs = [] ∧ lexemes = [] ∨ ∃ piece, cs = piece ++ [' '] ∧ LexesTo piece lexemes

namespace SpacedTo

variable {front back : List Char} {lexemes more : List Lexeme}

theorem append (hf : SpacedTo front lexemes) (hb : SpacedTo back more) :
    SpacedTo (front ++ back) (lexemes ++ more) := by
  obtain ⟨rfl, rfl⟩ | ⟨piece, rfl, cut⟩ := hf
  · exact hb
  · obtain ⟨rfl, rfl⟩ | ⟨other, rfl, cutBack⟩ := hb
    · exact .inr ⟨piece, by simp, by simpa using cut⟩
    · exact .inr ⟨piece ++ ' ' :: other, by simp, cut.append_blank cutBack⟩

theorem dropLastBlank (h : SpacedTo front lexemes) : LexesTo (Tree.dropLastBlank front) lexemes := by
  obtain ⟨rfl, rfl⟩ | ⟨piece, rfl, cut⟩ := h
  · exact .nil
  · simpa [Tree.dropLastBlank] using cut

end SpacedTo

theorem Token.Legible.lexesTo {t : Token} (h : t.Legible) (place : Span) :
    LexesTo t.spelling.toList (Tree.token t place).lexemes ∧ t.isJoint = false := by
  cases t with
  | word name => exact ⟨.word (wordForm_of_scanWord h), rfl⟩
  | lifetime name =>
    refine ⟨?_, rfl⟩
    change LexesTo ("'" ++ name).toList _
    rw [String.toList_append]
    exact .lifetime (wordForm_of_scanWord h)
  | punct text joint =>
    obtain ⟨rfl, all⟩ := h
    exact ⟨.operator all, rfl⟩
  | literal kind digits =>
    obtain ⟨rfl, some_digit, all⟩ := h
    exact ⟨.number some_digit all, rfl⟩

mutual

theorem spacedTo : ∀ tree : Tree, tree.Legible → SpacedTo tree.spaced tree.lexemes
  | .token t place, h => by
    obtain ⟨cut, apart⟩ := Token.Legible.lexesTo h place
    exact .inr ⟨t.spelling.toList, by rw [Tree.spaced, apart]; rfl, cut⟩
  | .group delimiter opening closing inner, h => by
    have cut := (spacedToAll inner h.2).dropLastBlank.enclosed h.1
    refine .inr ⟨_, ?_, cut⟩
    simp [Tree.spaced, h.1]
  | .node role parts, h => spacedToAll parts h

theorem spacedToAll : ∀ trees : List Tree, Tree.LegibleAll trees →
    SpacedTo (Tree.spacedOf trees) (Tree.lexemesOf trees)
  | [], _ => .inl ⟨rfl, rfl⟩
  | tree :: rest, h => (spacedTo tree h.1).append (spacedToAll rest h.2)

end

/-! ## Putting trees together -/

namespace Tree

/-- Trees are put together from lexemes, wherever these stand and whatever was there before. -/
def AssemblesTo (lexemes : List Lexeme) (trees : List Tree) : Prop :=
  ∀ found : List (Lexeme × Span), found.map Prod.fst = lexemes →
    ∃ placed, unplacedAll placed = unplacedAll trees ∧ ∀ opened current more,
      assemble opened current (found ++ more) = assemble opened (placed.reverse ++ current) more

namespace AssemblesTo

variable {lexemes others : List Lexeme} {trees behind inner : List Tree}

theorem nil : AssemblesTo [] [] := by
  intro found own
  obtain rfl := List.map_eq_nil_iff.mp own
  exact ⟨[], rfl, fun _ _ _ => rfl⟩

theorem append (hf : AssemblesTo lexemes trees) (hb : AssemblesTo others behind) :
    AssemblesTo (lexemes ++ others) (trees ++ behind) := by
  intro found own
  obtain ⟨front, back, rfl, first, second⟩ := List.map_eq_append_iff.mp own
  obtain ⟨placed, same, assembled⟩ := hf front first
  obtain ⟨later, also, assembledLater⟩ := hb back second
  refine ⟨placed ++ later, ?_, fun opened current more => ?_⟩
  · rw [unplacedAll_append, unplacedAll_append, same, also]
  · rw [List.append_assoc, assembled, assembledLater, List.reverse_append, List.append_assoc]

theorem token (t : Token) (place : Span) : AssemblesTo [.token t] [.token t place] := by
  intro found own
  obtain ⟨⟨_, span⟩, rfl, rfl⟩ := List.map_eq_singleton_iff.mp own
  exact ⟨[.token t span], rfl, fun _ _ _ => rfl⟩

theorem enclosed (delimiter : Delimiter) (opening closing : Span) (h : AssemblesTo lexemes inner) :
    AssemblesTo (.opening delimiter :: lexemes ++ [.closing delimiter])
      [.group delimiter opening closing inner] := by
  intro found own
  obtain ⟨front, back, rfl, first, last⟩ := List.map_eq_append_iff.mp own
  obtain ⟨⟨_, opener⟩, found, rfl, rfl, within⟩ := List.map_eq_cons_iff.mp first
  obtain ⟨⟨_, closer⟩, rfl, rfl⟩ := List.map_eq_singleton_iff.mp last
  obtain ⟨placed, same, assembled⟩ := h found within
  refine ⟨[.group delimiter opener closer placed], ?_, fun opened current more => ?_⟩
  · simp only [unplacedAll, unplaced, same]
  · have inside := assembled (⟨delimiter, opener, current⟩ :: opened) []
      ((.closing delimiter, closer) :: more)
    simp only [List.cons_append, List.append_assoc, List.nil_append, assemble, inside]
    simp

/-- An operator is put together character by character. -/
theorem operator (place : Span) (cs : List Char) :
    AssemblesTo (operatorLexemes cs) (characters place false cs) := by
  induction cs with
  | nil => exact .nil
  | cons c cs ih =>
    cases cs with
    | nil => exact .token _ _
    | cons d cs => exact (token (.punct (String.singleton c) true) place).append ih

end AssemblesTo

mutual

theorem assemblesTo : ∀ tree : Tree, tree.Legible → AssemblesTo tree.lexemes tree.tokens
  | token t place, h => by
    cases t with
    | punct text joint =>
      obtain ⟨rfl, -⟩ := h
      exact .operator place text.toList
    | _ => exact .token _ _
  | group delimiter opening closing inner, h => (assemblesToAll inner h.2).enclosed delimiter opening closing
  | node _ parts, h => assemblesToAll parts h

theorem assemblesToAll : ∀ trees : List Tree, LegibleAll trees →
    AssemblesTo (lexemesOf trees) (tokensOf trees)
  | [], _ => .nil
  | tree :: rest, h => (assemblesTo tree h.1).append (assemblesToAll rest h.2)

end

/-! ## Texts of trees -/

/-- No byte order mark stands in front. -/
def Unmarked (cs : List Char) : Prop :=
  ∀ c ∈ cs.head?, c.toNat ≠ 0xFEFF

theorem Unmarked.append {front back : List Char} (hf : Unmarked front) (hb : Unmarked back) :
    Unmarked (front ++ back) := by
  cases front with
  | nil => exact hb
  | cons => exact hf

theorem unmarked_of_startsIdentifier {c : Char} (cs : List Char) (h : startsIdentifier c = true) :
    Unmarked (c :: cs) := by
  intro d hd
  cases hd
  exact toNat_ne_of_startsIdentifier h

theorem Unmarked.dropByteOrderMark_eq {cs : List Char} (h : Unmarked cs) : dropByteOrderMark cs = cs := by
  cases cs with
  | nil => rfl
  | cons c cs => rw [dropByteOrderMark, if_neg (h c rfl)]

theorem unmarked_spelling {t : Token} (h : t.Legible) : Unmarked t.spelling.toList := by
  have small : ∀ c ∈ operatorCharacters, c.toNat ≠ 0xFEFF := List.forall_iff_forall_mem.mp (by decide)
  cases t with
  | word name =>
    obtain ⟨c, cs, hname, starts⟩ := (wordForm_of_scanWord h).exists_cons
    change Unmarked name.toList
    rw [hname]
    exact unmarked_of_startsIdentifier cs starts
  | lifetime name =>
    change Unmarked ("'" ++ name).toList
    rw [String.toList_append]
    intro c hc
    cases hc
    decide
  | punct text joint => exact fun c hc => small c (h.2 c (List.mem_of_mem_head? hc))
  | literal kind digits =>
    intro c hc mark
    have digit := h.2.2 c (List.mem_of_mem_head? hc)
    have range : 48 ≤ c.toNat ∧ c.toNat ≤ 57 := Char.isDigit_iff_toNat.mp digit
    omega

mutual

theorem unmarked_spaced : ∀ tree : Tree, tree.Legible → Unmarked tree.spaced
  | token t _, h => by
    refine (unmarked_spelling h).append ?_
    split
    · simp [Unmarked]
    · simp [Unmarked]
  | group delimiter _ _ inner, h => by
    rw [spaced]
    cases delimiter <;> simp [Unmarked, Delimiter.opened]
  | node _ parts, h => unmarked_spacedOf parts h

theorem unmarked_spacedOf : ∀ trees : List Tree, LegibleAll trees → Unmarked (spacedOf trees)
  | [], _ => by simp [Unmarked, spacedOf]
  | tree :: rest, h => (unmarked_spaced tree h.1).append (unmarked_spacedOf rest h.2)

end

theorem Unmarked.dropLastBlank {cs : List Char} (h : Unmarked cs) : Unmarked (dropLastBlank cs) := by
  unfold Tree.dropLastBlank
  split
  · intro c hc
    cases cs with
    | nil => cases hc
    | cons d cs =>
      cases cs with
      | nil => cases hc
      | cons e cs => exact h c hc
  · exact h

/-- The text of legible trees is scanned into their tokens, at other places. -/
theorem exists_ofText?_textOf {trees : List Tree} (h : LegibleAll trees) :
    ∃ placed, ofText? (textOf trees) = some placed ∧
      unplacedAll placed = unplacedAll (tokensOf trees) := by
  have cut := (spacedToAll trees h).dropLastBlank
  obtain ⟨found, taken, own, few, scanned⟩ := cut .start
  obtain ⟨placed, same, assembled⟩ := assemblesToAll trees h found own
  refine ⟨placed, ?_, same⟩
  generalize hpiece : Tree.dropLastBlank (spacedOf trees) = piece at scanned few
  obtain ⟨spare, steps⟩ : ∃ spare, piece.length = spare + taken := ⟨piece.length - taken, by omega⟩
  have whole : Code.lexemes .start piece = some found := by
    have none_left : lexemesFrom spare (Place.start.after piece) [] = some [] := by cases spare <;> rfl
    have all := scanned spare [] stops_nil
    rw [List.append_nil, none_left, Option.map_some, List.append_nil] at all
    rw [Code.lexemes, steps, all]
  have bare : dropByteOrderMark (textOf trees).toList = piece := by
    rw [textOf, String.toList_ofList, (unmarked_spacedOf trees h).dropLastBlank.dropByteOrderMark_eq, hpiece]
  have put := assembled [] [] []
  rw [List.append_nil, List.append_nil] at put
  rw [ofText?, bare, ofChars?, whole, Option.bind_some, put]
  simp [assemble]

end Tree

end RecordMapper.Code
