/-
What is written without blanks is read back from the front of any input, because texts, arrays and objects
end with a character of their own. The reader counts down with every part that it enters; each part is at
least one character, so the length of what is written is always enough.
-/
import RecordMapper.Schema.Json
import Mathlib.Data.List.Forall2

namespace RecordMapper

/-- The code points of a text. -/
def textCodes (s : String) : List Nat :=
  s.toList.map Char.toNat

theorem isSurrogate_toNat (c : Char) : isSurrogate c.toNat = false := by
  have valid := c.valid
  simp only [isSurrogate, Bool.and_eq_false_iff, decide_eq_false_iff_not]
  change c.toNat.isValidChar at valid
  unfold Nat.isValidChar at valid
  omega

theorem textOfCodes?_textCodes (s : String) : textOfCodes? (textCodes s) = some s := by
  have whole : (s.toList.map Char.toNat).any isSurrogate = false := by
    rw [List.any_map, List.any_eq_false]
    intro c _
    rw [Function.comp_apply, isSurrogate_toNat]
    exact Bool.false_ne_true
  have back : (s.toList.map Char.toNat).map Char.ofNat = s.toList := by
    rw [List.map_map]
    exact (List.map_congr_left fun c _ => Char.ofNat_toNat c).trans (List.map_id' _)
  unfold textOfCodes? textCodes
  rw [whole, back, String.ofList_toList]
  rfl

namespace JsonValue

/-! ## Texts -/

theorem consUnit_of_lt {unit : Nat} (h : unit < 0xD800) (codes : List Nat) :
    consUnit unit codes = unit :: codes := by
  cases codes with
  | nil => rfl
  | cons next rest =>
    rw [consUnit, if_neg]
    omega

theorem hexValue?_hexDigit {n : Nat} (h : n < 16) : hexValue? (Text.Quoted.hexDigit n) = some n := by
  have all : ∀ n < 16, hexValue? (Text.Quoted.hexDigit n) = some n := by decide
  exact all n h

theorem readText_control {code : Nat} (cs : List Char) (h : code < 0x20) :
    readText ('\\' :: 'u' :: '0' :: '0' :: Text.Quoted.hexDigit (code / 16) ::
        Text.Quoted.hexDigit (code % 16) :: cs) =
      (readText cs).map fun read => (code :: read.1, read.2) := by
  have zero : hexValue? '0' = some 0 := rfl
  have unit : 4096 * 0 + 256 * 0 + 16 * (code / 16) + code % 16 = code := by omega
  rw [readText, zero, hexValue?_hexDigit (by omega), hexValue?_hexDigit (by omega)]
  simp only [Option.bind_eq_bind, Option.bind_some, unit]
  cases readText cs with
  | none => rfl
  | some read =>
    simp only [Option.bind_some, consUnit_of_lt (by omega : code < 0xD800), Option.map_some]

theorem readText_short {letter : Char} {code : Nat} (cs : List Char)
    (h : shortEscape? letter = some code) :
    readText ('\\' :: letter :: cs) = (readText cs).map fun read => (code :: read.1, read.2) := by
  rw [readText, h]
  · cases readText cs <;> rfl
  · rintro a b c d rest rfl
    exact nomatch h

theorem readText_plain {c : Char} (cs : List Char) (quote : c ≠ '"') (escape : c ≠ '\\')
    (printed : ¬c.toNat < 0x20) :
    readText (c :: cs) = (readText cs).map fun read => (c.toNat :: read.1, read.2) := by
  rw [readText, if_neg]
  · cases readText cs <;> rfl
  · rintro (low | rfl)
    · exact printed low
    · exact escape rfl
  · exact fun same => quote same
  · rintro a b c d rest same
    exact fun h => escape same
  · rintro letter rest same
    exact fun h => escape same

/-- A character is read back from its escape. -/
theorem readText_jsonEscape (c : Char) (cs : List Char) :
    readText (jsonEscape c ++ cs) = (readText cs).map fun read => (c.toNat :: read.1, read.2) := by
  unfold jsonEscape
  split
  case h_8 quote escape _ _ _ _ _ =>
    split
    next low => exact readText_control cs low
    next printed => exact readText_plain cs (fun h => quote h) escape printed
  all_goals exact readText_short cs rfl

theorem readText_flatMap_jsonEscape (s rest : List Char) :
    readText (s.flatMap jsonEscape ++ '"' :: rest) = some (s.map Char.toNat, rest) := by
  induction s with
  | nil => rfl
  | cons c s ih =>
    rw [List.flatMap_cons, List.append_assoc, readText_jsonEscape, ih]
    rfl

/-! ## Values -/

/-- A text that is read as `value`, whatever follows it. -/
structure Reads (text : String) (value : JsonValue) : Prop where
  starts : ∃ c cs, text.toList = c :: cs ∧ isBlank c = false ∧ c ≠ ']'
  read : ∀ depth rest, text.toList.length ≤ depth →
    readValue depth (text.toList ++ rest) = some (value, rest)

theorem skipBlank_cons {c : Char} (cs : List Char) (h : isBlank c = false) :
    skipBlank (c :: cs) = c :: cs := by
  rw [skipBlank, List.dropWhile_cons_of_neg]
  rw [h]
  exact Bool.false_ne_true

theorem Reads.skipBlank {text : String} {value : JsonValue} (h : Reads text value) (rest : List Char) :
    skipBlank (text.toList ++ rest) = text.toList ++ rest := by
  obtain ⟨c, cs, opening, blank, -⟩ := h.starts
  rw [opening, List.cons_append, skipBlank_cons _ blank]

theorem toList_jsonText (s : String) :
    (jsonText s).toList = '"' :: (s.toList.flatMap jsonEscape ++ ['"']) := by
  rw [jsonText, String.toList_ofList]
  rfl

theorem reads_jsonText (s : String) : Reads (jsonText s) (.text (textCodes s)) where
  starts := ⟨'"', _, toList_jsonText s, rfl, by decide⟩
  read depth rest long := by
    rw [toList_jsonText] at long ⊢
    obtain _ | depth := depth
    · cases long
    · rw [List.cons_append, readValue]
      rw [List.append_assoc]
      exact congrArg _ (readText_flatMap_jsonEscape s.toList rest)

/-! ## Parts and what separates them -/

theorem exists_intercalate_cons (part : String) (parts : List String) :
    ∃ tail, (String.intercalate "," (part :: parts)).toList = part.toList ++ tail := by
  cases parts with
  | nil => exact ⟨[], by rw [String.intercalate_singleton, List.append_nil]⟩
  | cons next parts =>
    rw [String.intercalate_cons_cons, String.append_assoc, String.toList_append]
    exact ⟨_, rfl⟩

/-- Behind a comma the next part starts at once. -/
theorem toList_intercalate_cons (part next : String) (parts : List String) (rest : List Char) :
    (String.intercalate "," (part :: next :: parts)).toList ++ rest =
      part.toList ++ ',' :: ((String.intercalate "," (next :: parts)).toList ++ rest) := by
  rw [String.intercalate_cons_cons, String.toList_append, String.toList_append, List.append_assoc,
    List.append_assoc]
  rfl

theorem length_intercalate_cons (part next : String) (parts : List String) :
    (String.intercalate "," (part :: next :: parts)).toList.length =
      part.toList.length + 1 + (String.intercalate "," (next :: parts)).toList.length := by
  rw [String.intercalate_cons_cons, String.toList_append, String.toList_append, List.length_append,
    List.length_append]
  rfl

theorem skipBlank_intercalate {part : String} {c : Char} {cs : List Char} (opening : part.toList = c :: cs)
    (blank : isBlank c = false) (parts : List String) (rest : List Char) :
    skipBlank ((String.intercalate "," (part :: parts)).toList ++ rest) =
      (String.intercalate "," (part :: parts)).toList ++ rest := by
  obtain ⟨tail, starts⟩ := exists_intercalate_cons part parts
  rw [starts, opening, List.cons_append, List.cons_append, skipBlank_cons _ blank]

/-! ## Arrays -/

/-- The items of an array are read back, with the bracket that ends it. -/
theorem readItems_intercalate {item : String} {value : JsonValue} {items : List String}
    {values : List JsonValue} (first : Reads item value) (others : List.Forall₂ Reads items values)
    (depth : Nat) (rest : List Char)
    (long : (String.intercalate "," (item :: items)).toList.length < depth) :
    readItems depth ((String.intercalate "," (item :: items)).toList ++ ']' :: rest) =
      some (value :: values, rest) := by
  induction others generalizing item value depth with
  | nil =>
    rw [String.intercalate_singleton] at long ⊢
    obtain _ | depth := depth
    · cases long
    · rw [readItems, first.read depth _ (by omega)]
      rfl
  | cons second others ih =>
    obtain ⟨c, cs, opening, blank, -⟩ := second.starts
    rw [length_intercalate_cons] at long
    obtain _ | depth := depth
    · cases long
    · rw [toList_intercalate_cons, readItems, first.read depth _ (by omega)]
      change Option.bind (readItems depth (skipBlank _)) _ = _
      rw [skipBlank_intercalate opening blank, ih second depth (by omega)]
      rfl

theorem readValue_array {c : Char} {cs : List Char} (blank : isBlank c = false) (more : c ≠ ']')
    (depth : Nat) :
    readValue (depth + 1) ('[' :: c :: cs) =
      (readItems depth (c :: cs)).map fun read => (.array read.1, read.2) := by
  rw [readValue]
  dsimp only
  rw [skipBlank_cons _ blank]
  split
  next same => exact absurd (List.head_eq_of_cons_eq same) more
  next => rfl

theorem toList_jsonArray (items : List String) :
    (jsonArray items).toList = '[' :: ((String.intercalate "," items).toList ++ [']']) := by
  rw [jsonArray, String.toList_append, String.toList_append]
  rfl

theorem reads_jsonArray {items : List String} {values : List JsonValue}
    (h : List.Forall₂ Reads items values) : Reads (jsonArray items) (.array values) where
  starts := ⟨'[', _, toList_jsonArray items, rfl, by decide⟩
  read depth rest long := by
    rw [toList_jsonArray, List.length_cons, List.length_append, List.length_singleton] at long
    rw [toList_jsonArray, List.cons_append, List.append_assoc]
    obtain _ | depth := depth
    · cases long
    · cases h with
      | nil => rfl
      | @cons item value items values first others =>
        obtain ⟨tail, starts⟩ := exists_intercalate_cons item items
        obtain ⟨c, cs, opening, blank, more⟩ := first.starts
        have read := readItems_intercalate first others depth rest (by omega)
        rw [starts, opening] at read ⊢
        exact (readValue_array blank more depth).trans (congrArg _ read)

/-! ## Objects -/

/-- A member of an object as it is written. -/
def memberText (member : String × String) : String :=
  jsonText member.1 ++ ":" ++ member.2

/-- Whether a member is read as a key and a value. -/
def ReadsMember (member : String × String) (read : List Nat × JsonValue) : Prop :=
  read.1 = textCodes member.1 ∧ Reads member.2 read.2

theorem toList_memberText (member : String × String) :
    (memberText member).toList =
      '"' :: (member.1.toList.flatMap jsonEscape ++ '"' :: ':' :: member.2.toList) := by
  rw [memberText, String.toList_append, String.toList_append, toList_jsonText]
  simp only [List.cons_append, List.append_assoc, List.nil_append]
  rfl

theorem length_memberText (member : String × String) :
    member.2.toList.length + 3 ≤ (memberText member).toList.length := by
  rw [toList_memberText, List.length_cons, List.length_append, List.length_cons, List.length_cons]
  omega

theorem toList_memberText_append (member : String × String) (rest : List Char) :
    (memberText member).toList ++ rest =
      '"' :: (member.1.toList.flatMap jsonEscape ++ '"' :: ':' :: (member.2.toList ++ rest)) := by
  rw [toList_memberText, List.cons_append, List.append_assoc]
  rfl

/-- The members of an object are read back, with the brace that ends it. -/
theorem readMembers_intercalate {member : String × String} {read : List Nat × JsonValue}
    {members : List (String × String)} {reads : List (List Nat × JsonValue)}
    (first : ReadsMember member read) (others : List.Forall₂ ReadsMember members reads) (depth : Nat)
    (rest : List Char)
    (long : (String.intercalate "," ((member :: members).map memberText)).toList.length < depth) :
    readMembers depth
        ((String.intercalate "," ((member :: members).map memberText)).toList ++ '\x7d' :: rest) =
      some (read :: reads, rest) := by
  rw [List.map_cons] at long ⊢
  have room := length_memberText member
  induction others generalizing member read depth with
  | nil =>
    rw [List.map_nil, String.intercalate_singleton] at long ⊢
    obtain _ | depth := depth
    · cases long
    · rw [toList_memberText_append, readMembers, readText_flatMap_jsonEscape]
      change Option.bind (readValue depth (skipBlank _)) _ = _
      rw [first.2.skipBlank, first.2.read depth _ (by omega), ← textCodes, ← first.1]
      rfl
  | @cons next _ members _ second others ih =>
    rw [List.map_cons, length_intercalate_cons] at long
    obtain _ | depth := depth
    · cases long
    · rw [List.map_cons, toList_intercalate_cons, toList_memberText_append, readMembers,
        readText_flatMap_jsonEscape]
      change Option.bind (readValue depth (skipBlank _)) _ = _
      rw [first.2.skipBlank, first.2.read depth _ (by omega), ← textCodes, ← first.1]
      change Option.bind (readMembers depth (skipBlank _)) _ = _
      rw [skipBlank_intercalate (toList_memberText next) rfl,
        ih second depth (by omega) (length_memberText next)]
      rfl

theorem readValue_object {c : Char} {cs : List Char} (blank : isBlank c = false) (more : c ≠ '\x7d')
    (depth : Nat) :
    readValue (depth + 1) ('\x7b' :: c :: cs) =
      (readMembers depth (c :: cs)).map fun read => (.object read.1, read.2) := by
  rw [readValue]
  dsimp only
  rw [skipBlank_cons _ blank]
  split
  next same => exact absurd (List.head_eq_of_cons_eq same) more
  next => rfl

theorem toList_jsonObject (members : List (String × String)) :
    (jsonObject members).toList =
      '\x7b' :: ((String.intercalate "," (members.map memberText)).toList ++ ['\x7d']) := by
  rw [jsonObject, String.toList_append, String.toList_append]
  rfl

theorem reads_jsonObject {members : List (String × String)} {reads : List (List Nat × JsonValue)}
    (h : List.Forall₂ ReadsMember members reads) : Reads (jsonObject members) (.object reads) where
  starts := ⟨'\x7b', _, toList_jsonObject members, rfl, by decide⟩
  read depth rest long := by
    rw [toList_jsonObject, List.length_cons, List.length_append, List.length_singleton] at long
    rw [toList_jsonObject, List.cons_append, List.append_assoc]
    obtain _ | depth := depth
    · cases long
    · cases h with
      | nil => rfl
      | @cons member _ members _ first others =>
        obtain ⟨tail, starts⟩ := exists_intercalate_cons (memberText member) (members.map memberText)
        have read := readMembers_intercalate first others depth rest (by omega)
        rw [List.map_cons, starts, toList_memberText] at read ⊢
        exact (readValue_object rfl (by decide) depth).trans (congrArg _ read)

theorem reads_jsonObject_singleton (key : String) {text : String} {value : JsonValue} (h : Reads text value) :
    Reads (jsonObject [(key, text)]) (.object [(textCodes key, value)]) :=
  reads_jsonObject (.cons ⟨rfl, h⟩ .nil)

/-- A text that is read back is the first value of its own characters. -/
theorem Reads.readFirst {text : String} {value : JsonValue} (h : Reads text value) :
    readFirst text = some (value, []) := by
  have opening := h.skipBlank []
  rw [List.append_nil] at opening
  have read := h.read (text.toList.length + 1) [] (Nat.le_succ _)
  rw [List.append_nil] at read
  unfold JsonValue.readFirst
  rw [opening]
  exact read

end JsonValue

end RecordMapper
