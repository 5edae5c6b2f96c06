/-
The scanner says where a quoted literal ends; the reader here also says what text it denotes, with the
same states. A text written as a literal is read back whatever it holds and whatever follows the literal:
every character is written so that the reader is between two characters again after it.
-/
import RecordMapper.Code.Lexeme
import Mathlib.Algebra.Group.Nat.Defs
import Mathlib.Data.List.Basic

namespace RecordMapper.Code

open Text.Quoted

/-- What one character of a quoted literal adds to the text that the literal denotes. -/
def QuoteState.adds (state : QuoteState) (c : Char) : List Char :=
  let ordinary := if c = '\\' || c = '\r' then [] else [c]
  match state with
  | .plain => ordinary
  | .carriage => [c]
  | .escape =>
    if c = 'n' then ['\n']
    else if c = 'r' then ['\r']
    else if c = 't' then ['\t']
    else if c = '0' then ['\x00']
    else if c = '\\' || c = '\'' || c = '"' then [c]
    else []
  | .hexEnd first => [Char.ofNat (16 * hexValue first + hexValue c)]
  | .code _ value => if c = '\x7d' then [Char.ofNat value] else []
  | .continued => if c = ' ' || c = '\t' || c = '\n' then [] else ordinary
  | .hex | .codeStart | .continuedCarriage => []

/-- The rest of a literal that denotes a text: the text, and what follows the closing quote. -/
def readQuoted (state : QuoteState) : List Char → Option (List Char × List Char)
  | [] => none
  | c :: rest =>
    if c = '"' && state.mayEnd then some ([], rest)
    else
      (state.step .text c).bind fun next =>
        (readQuoted next rest).map fun (text, rest) => (state.adds c ++ text, rest)

/-- The text that a literal in double quotes denotes. -/
def quotedText? : List Char → Option String
  | '"' :: cs =>
    match readQuoted .plain cs with
    | some (text, []) => some (String.ofList text)
    | _ => none
  | _ => none

/-! ## One character -/

section Step

variable {state next : QuoteState} {c : Char} {cs rest text : List Char}

theorem readQuoted_cons (inside : (c = '"' && state.mayEnd) = false)
    (step : state.step .text c = some next) :
    readQuoted state (c :: cs) =
      (readQuoted next cs).map fun (text, rest) => (state.adds c ++ text, rest) := by
  rw [readQuoted, inside, if_neg Bool.false_ne_true, step]
  rfl

/-- The scanner takes what the reader reads. -/
theorem scanQuoted_of_readQuoted (h : readQuoted state cs = some (text, rest)) :
    ∃ taken, cs = taken ++ rest ∧ scanQuoted .text state cs = some (taken, rest) := by
  induction cs generalizing state text with
  | nil => cases h
  | cons c cs ih =>
    unfold readQuoted at h
    unfold scanQuoted
    by_cases ends : (c = '"' && state.mayEnd) = true
    · rw [if_pos ends] at h ⊢
      obtain ⟨rfl, rfl⟩ := Prod.mk.inj (Option.some.inj h)
      simp only [Bool.and_eq_true, decide_eq_true_eq] at ends
      exact ⟨['"'], by rw [ends.1]; rfl, rfl⟩
    · rw [if_neg ends] at h ⊢
      obtain ⟨next, step, h⟩ := Option.bind_eq_some_iff.mp h
      obtain ⟨⟨more, left⟩, read, same⟩ := Option.map_eq_some_iff.mp h
      obtain ⟨-, rfl⟩ := Prod.mk.inj same
      obtain ⟨taken, rfl, scanned⟩ := ih read
      refine ⟨c :: taken, rfl, ?_⟩
      rw [step]
      simp only [Option.bind_eq_bind, Option.bind_some, scanned]

end Step

/-! ## Numbers of characters -/

theorem hexDigit_spec {n : Nat} (h : n < 16) :
    isHexDigit (hexDigit n) = true ∧ hexValue (hexDigit n) = n ∧ hexDigit n ≠ '"' ∧
      hexDigit n ≠ '\x7d' := by
  have all : ∀ n < 16, isHexDigit (hexDigit n) = true ∧ hexValue (hexDigit n) = n ∧
      hexDigit n ≠ '"' ∧ hexDigit n ≠ '\x7d' := by decide
  exact all n h

theorem length_hexDigits_le {n k : Nat} (h : n < 16 ^ (k + 1)) : (hexDigits n).length ≤ k + 1 := by
  induction k generalizing n with
  | zero =>
    rw [hexDigits, dif_pos (by simpa using h)]
    simp
  | succ k ih =>
    rw [hexDigits]
    split
    · simp
    · have fewer : n / 16 < 16 ^ (k + 1) := by
        rw [Nat.div_lt_iff_lt_mul (by decide)]
        simpa [Nat.pow_succ] using h
      simpa using ih fewer

theorem hexDigits_ne_nil (n : Nat) : hexDigits n ≠ [] := by
  unfold hexDigits
  split <;> simp

/-- A digit of a code point shifts the digits before it. -/
theorem readQuoted_hexDigit {n digits value : Nat} (h : n < 16) (room : digits < 6)
    (rest : List Char) :
    readQuoted (.code digits value) (hexDigit n :: rest) =
      readQuoted (.code (digits + 1) (value * 16 + n)) rest := by
  obtain ⟨hex, number, quote, brace⟩ := hexDigit_spec h
  have step : (QuoteState.code digits value).step .text (hexDigit n) =
      some (.code (digits + 1) (value * 16 + n)) := by
    simp [QuoteState.step, hex, number, room]
  rw [readQuoted_cons (by simp [quote]) step]
  simp [QuoteState.adds, brace]

/-- The digits of a number leave the reader with that number. -/
theorem readQuoted_hexDigits (n digits value : Nat) (room : digits + (hexDigits n).length ≤ 6)
    (rest : List Char) :
    readQuoted (.code digits value) (hexDigits n ++ rest) =
      readQuoted (.code (digits + (hexDigits n).length) (value * 16 ^ (hexDigits n).length + n))
        rest := by
  induction n using hexDigits.induct generalizing rest with
  | case1 n low =>
    rw [hexDigits, dif_pos low] at room ⊢
    simp only [List.cons_append, List.nil_append, List.length_singleton, Nat.pow_one] at room ⊢
    exact readQuoted_hexDigit low (by omega) rest
  | case2 n high ih =>
    rw [hexDigits, dif_neg high] at room ⊢
    simp only [List.length_append, List.length_singleton, List.append_assoc] at room ⊢
    rw [ih (by omega), List.singleton_append,
      readQuoted_hexDigit (Nat.mod_lt n (by decide)) (by omega)]
    have shifted : (value * 16 ^ (hexDigits (n / 16)).length + n / 16) * 16 + n % 16 =
        value * 16 ^ ((hexDigits (n / 16)).length + 1) + n := by
      rw [Nat.pow_succ, ← Nat.mul_assoc, Nat.add_mul]
      omega
    rw [shifted, Nat.add_assoc]

theorem toNat_lt_pow (c : Char) : c.toNat < 16 ^ 6 := by
  have valid := c.valid
  change c.toNat.isValidChar at valid
  unfold Nat.isValidChar at valid
  omega

theorem step_backslash : QuoteState.plain.step .text '\\' = some .escape := rfl

/-- A character is read back from its number. -/
theorem readQuoted_code (c : Char) (rest : List Char) :
    readQuoted .plain (['\\', 'u', '\x7b'] ++ hexDigits c.toNat ++ ['\x7d'] ++ rest) =
      (readQuoted .plain rest).map fun (text, rest) => (c :: text, rest) := by
  have few : (hexDigits c.toNat).length ≤ 6 := length_hexDigits_le (toNat_lt_pow c)
  have some_digit : (hexDigits c.toNat).length ≠ 0 :=
    fun none => hexDigits_ne_nil c.toNat (List.length_eq_zero_iff.mp none)
  have valid : c.toNat.isValidChar := c.valid
  have close : (QuoteState.code (hexDigits c.toNat).length c.toNat).step .text '\x7d' =
      some .plain := by
    simp [QuoteState.step, isHexDigit, some_digit, valid, QuoteStyle.text]
  have mark : QuoteState.escape.step .text 'u' = some .codeStart := rfl
  have brace : QuoteState.codeStart.step .text '\x7b' = some (.code 0 0) := rfl
  simp only [List.append_assoc, List.cons_append, List.nil_append]
  rw [readQuoted_cons (by decide) step_backslash, readQuoted_cons (by decide) mark,
    readQuoted_cons (by decide) brace,
    readQuoted_hexDigits c.toNat 0 0 (by omega), Nat.zero_mul, Nat.zero_add, Nat.zero_add,
    readQuoted_cons (by simp) close]
  simp [QuoteState.adds, Function.comp_def]

/-! ## Whole texts -/

/-- A character with no meaning of its own is read as it is. -/
theorem readQuoted_plain {c : Char} (quote : c ≠ '"') (backslash : c ≠ '\\') (carriage : c ≠ '\r')
    (rest : List Char) :
    readQuoted .plain (c :: rest) =
      (readQuoted .plain rest).map fun (text, rest) => (c :: text, rest) := by
  have step : QuoteState.plain.step .text c = some .plain := by
    simp [QuoteState.step, QuoteStyle.text, backslash, carriage]
  rw [readQuoted_cons (by simp [quote]) step]
  simp [QuoteState.adds, backslash, carriage]

/-- A character is read back from its escape, whatever follows. -/
theorem readQuoted_escape (c : Char) (rest : List Char) :
    readQuoted .plain (escape c ++ rest) =
      (readQuoted .plain rest).map fun (text, rest) => (c :: text, rest) := by
  have short : ∀ letter, QuoteState.escape.step .text letter = some .plain →
      QuoteState.escape.adds letter = [c] →
      readQuoted .plain ('\\' :: letter :: rest) =
        (readQuoted .plain rest).map fun (text, rest) => (c :: text, rest) := by
    intro letter step adds
    rw [readQuoted_cons (by decide) step_backslash, readQuoted_cons (by simp [QuoteState.mayEnd]) step,
      adds]
    simp [QuoteState.adds, Function.comp_def]
  unfold escape
  split
  case h_7 _ _ carriage _ quote backslash =>
    split
    next => exact readQuoted_plain quote backslash carriage rest
    next => exact readQuoted_code c rest
  all_goals exact short _ rfl rfl

/-- A text is read back from its literal, whatever follows the closing quote. -/
theorem readQuoted_flatMap_escape (s rest : List Char) :
    readQuoted .plain (s.flatMap escape ++ '"' :: rest) = some (s, rest) := by
  induction s with
  | nil => rfl
  | cons c s ih =>
    rw [List.flatMap_cons, List.append_assoc, readQuoted_escape, ih]
    rfl

theorem toList_encode (s : String) :
    (encode s).toList = '"' :: (s.toList.flatMap escape ++ ['"']) := by
  rw [encode, String.toList_ofList]
  rfl

/-- A literal denotes the text that it was written for. -/
theorem quotedText?_encode (s : String) : quotedText? (encode s).toList = some s := by
  rw [toList_encode]
  simp only [quotedText?, readQuoted_flatMap_escape, String.ofList_toList]

/-- A literal ends where it was meant to end. -/
theorem scanString_encode (s : String) (rest : List Char) :
    scanString ((encode s).toList ++ rest) = some (.text, (encode s).toList, rest) := by
  obtain ⟨taken, same, scanned⟩ := scanQuoted_of_readQuoted (readQuoted_flatMap_escape s.toList rest)
  have whole : taken = s.toList.flatMap escape ++ ['"'] := by
    refine List.append_cancel_right (?_ : taken ++ rest = _ ++ rest)
    rw [← same, List.append_assoc, List.singleton_append]
  rw [toList_encode, ← whole, List.cons_append, ← same]
  change (afterTaking ['"'] (scanQuoted .text .plain _)).map _ = _
  rw [scanned]
  rfl

/-! ## What a literal shows -/

theorem hexDigit_shows {n : Nat} (h : n < 16) : shows (hexDigit n) = true := by
  have all : ∀ n < 16, shows (hexDigit n) = true := by decide +kernel
  exact all n h

theorem shows_of_mem_hexDigits {n : Nat} {c : Char} (hc : c ∈ hexDigits n) : shows c = true := by
  induction n using hexDigits.induct with
  | case1 n low =>
    rw [hexDigits, dif_pos low, List.mem_singleton] at hc
    exact hc ▸ hexDigit_shows low
  | case2 n high ih =>
    rw [hexDigits, dif_neg high, List.mem_append, List.mem_singleton] at hc
    obtain hc | rfl := hc
    · exact ih hc
    · exact hexDigit_shows (Nat.mod_lt n (by decide))

/-- Every character of a literal shows: it is no control, and it starts no line. -/
theorem shows_of_mem_escape {c d : Char} (hd : d ∈ escape c) : shows d = true := by
  have opening : ['\\', 'u', '\x7b'].all shows = true := by decide +kernel
  have closing : ['\x7d'].all shows = true := by decide +kernel
  unfold escape at hd
  split at hd
  case h_7 =>
    split at hd
    next shown =>
      rw [List.mem_singleton] at hd
      exact hd ▸ shown
    next =>
      simp only [List.mem_append] at hd
      obtain (hd | hd) | hd := hd
      · exact List.all_eq_true.mp opening d hd
      · exact shows_of_mem_hexDigits hd
      · exact List.all_eq_true.mp closing d hd
  -- the other escapes are fixed
  all_goals exact List.all_eq_true.mp (by decide +kernel) d hd

theorem shows_of_mem_encode {s : String} {c : Char} (hc : c ∈ (encode s).toList) :
    shows c = true := by
  have quote : shows '"' = true := by decide +kernel
  rw [toList_encode, List.mem_cons, List.mem_append, List.mem_flatMap, List.mem_singleton] at hc
  obtain rfl | ⟨d, _, hc⟩ | rfl := hc
  · exact quote
  · exact shows_of_mem_escape hc
  · exact quote

end RecordMapper.Code
