/-
An index is a header and one `include!` line for each file. The path in a line is a quoted literal, so
whatever characters it has, the line stays one line, the literal ends at its own closing quote, and the
files are found again in order.
-/
import RecordMapper.Build
import RecordMapper.Proofs.QuotedTexts
import RecordMapper.Proofs.SpelledPaths

namespace RecordMapper

open Code Files

/-- What a line of an index says, without the end of the line. -/
def includeStatement (path : PathName) : String :=
  "include!(" ++ Text.Quoted.encode path.text ++ ");"

/-- The files that trees include, in order; none if the trees hold anything else. -/
def includedFiles? : List Tree → Option (List PathName)
  | [] => some []
  | .token (.word "include") _ :: .token (.punct "!" _) _ ::
      .group .paren _ _ [.token (.literal .text literal) _] :: .token (.punct ";" _) _ :: rest =>
    (quotedText? literal.toList).bind fun path => (includedFiles? rest).map (⟨path⟩ :: ·)
  | _ => none

/-- The files that the text of an index includes, in order. -/
def readIndex? (text : String) : Option (List PathName) :=
  (Tree.ofText? text).bind includedFiles?

/-! ## Lines -/

/-- The characters of the word that every line starts with. -/
def macroName : List Char := ['i', 'n', 'c', 'l', 'u', 'd', 'e']

theorem toList_includeStatement (path : PathName) :
    (includeStatement path).toList =
      macroName ++ '!' :: '(' :: ((Text.Quoted.encode path.text).toList ++ [')', ';']) := by
  rw [includeStatement, String.toList_append, String.toList_append, List.append_assoc]
  rfl

theorem toList_includeLine (path : PathName) :
    (includeLine path).toList = (includeStatement path).toList ++ ['\n'] := by
  rw [includeLine, includeStatement, String.toList_append, String.toList_append,
    String.toList_append, String.toList_append, List.append_assoc, List.append_assoc,
    List.append_assoc]
  rfl

/-- Every character of a line shows. -/
theorem shows_of_mem_includeStatement {path : PathName} {c : Char}
    (hc : c ∈ (includeStatement path).toList) : Text.Quoted.shows c = true := by
  have opening : (macroName ++ ['!', '(']).all Text.Quoted.shows = true := by decide +kernel
  have closing : [')', ';'].all Text.Quoted.shows = true := by decide +kernel
  have parts : c ∈ macroName ++ ['!', '('] ++ ((Text.Quoted.encode path.text).toList ++ [')', ';']) := by
    rwa [List.append_assoc, List.cons_append, List.singleton_append, ← toList_includeStatement]
  rcases List.mem_append.mp parts with hc | hc
  · exact List.all_eq_true.mp opening c hc
  · rcases List.mem_append.mp hc with hc | hc
    · exact shows_of_mem_encode hc
    · exact List.all_eq_true.mp closing c hc

theorem splitOn_includeLines (files : List PathName) :
    (files.flatMap fun file => (includeLine file).toList).splitOn '\n' =
      (files.map fun file => (includeStatement file).toList) ++ [[]] := by
  induction files with
  | nil => rfl
  | cons file rest ih =>
    have whole : '\n' ∉ (includeStatement file).toList := by
      intro broken
      have shown := shows_of_mem_includeStatement broken
      revert shown
      decide +kernel
    rw [List.flatMap_cons, toList_includeLine, List.append_assoc, List.singleton_append,
      List.splitOn_append_cons_self_of_not_mem whole, ih]
    rfl

/-! ## Lexemes -/

/-- The call of a macro is a word before its mark. -/
theorem scanLexeme_include (rest : List Char) :
    scanLexeme (macroName ++ '!' :: rest) =
      some (.token (.word "include"), macroName, '!' :: rest) := rfl

theorem scanLexeme_mark (rest : List Char) :
    scanLexeme ('!' :: rest) =
      some (.token (.punct "!" (startsPunctuation rest)), ['!'], rest) := rfl

theorem scanLexeme_semicolon (rest : List Char) :
    scanLexeme (';' :: rest) =
      some (.token (.punct ";" (startsPunctuation rest)), [';'], rest) := rfl

/-- A quoted text before a closing bracket is one lexeme. -/
theorem scanLexeme_encode (s : String) (rest : List Char) :
    scanLexeme ((Text.Quoted.encode s).toList ++ ')' :: rest) =
      some (.token (.literal .text (Text.Quoted.encode s)), (Text.Quoted.encode s).toList,
        ')' :: rest) := by
  have scanned := scanString_encode s (')' :: rest)
  have literal : scanLiteral ((Text.Quoted.encode s).toList ++ ')' :: rest) =
      some (.text, (Text.Quoted.encode s).toList, ')' :: rest) := by
    rw [scanLiteral, scanned]
    rfl
  rw [toList_encode, List.cons_append] at literal ⊢
  rw [scanLexeme, scanDoc_eq_none (by decide)]
  · simp only [literal, ← toList_encode, String.ofList_toList]
  all_goals decide

theorem lexemesFrom_newline (steps : Nat) (place : Place) (rest : List Char) :
    lexemesFrom (steps + 1) place ('\n' :: rest) = lexemesFrom steps (place.next '\n') rest := rfl

/-- The tokens of a line stand in front of the tokens of what follows it, and they name the file. -/
theorem exists_lexemes_includeLine (path : PathName) (rest : List Char) (steps : Nat)
    (place : Place) :
    ∃ after lexemes trees,
      lexemesFrom (steps + 7) place ((includeLine path).toList ++ rest) =
        (lexemesFrom steps after rest).map (lexemes ++ ·) ∧
      (∀ current more, Tree.assemble [] current (lexemes ++ more) =
        Tree.assemble [] (trees.reverse ++ current) more) ∧
      ∀ more, includedFiles? (trees ++ more) = (includedFiles? more).map (path :: ·) := by
  have text : (includeLine path).toList ++ rest = macroName ++ '!' :: '(' ::
      ((Text.Quoted.encode path.text).toList ++ ')' :: ';' :: '\n' :: rest) := by
    rw [toList_includeLine, toList_includeStatement]
    simp
  have word := scanLexeme_include
    ('(' :: ((Text.Quoted.encode path.text).toList ++ ')' :: ';' :: '\n' :: rest))
  have literal := scanLexeme_encode path.text (';' :: '\n' :: rest)
  have start : ∃ cs, (Text.Quoted.encode path.text).toList ++ ')' :: ';' :: '\n' :: rest =
      '"' :: cs := by
    rw [toList_encode]
    exact ⟨_, rfl⟩
  obtain ⟨cs, start⟩ := start
  rw [start] at text word literal
  generalize hp : place.after macroName = p
  generalize hq : p.after ['!'] = q
  generalize hr : q.after ['('] = r
  generalize hs : r.after (Text.Quoted.encode path.text).toList = s
  generalize ht : s.after [')'] = t
  generalize hu : t.after [';'] = u
  refine ⟨u.next '\n',
    [(.token (.word "include"), ⟨place, p⟩), (.token (.punct "!" false), ⟨p, q⟩),
      (.opening .paren, ⟨q, r⟩),
      (.token (.literal .text (Text.Quoted.encode path.text)), ⟨r, s⟩),
      (.closing .paren, ⟨s, t⟩), (.token (.punct ";" false), ⟨t, u⟩)],
    [.token (.word "include") ⟨place, p⟩, .token (.punct "!" false) ⟨p, q⟩,
      .group .paren ⟨q, r⟩ ⟨s, t⟩
        [.token (.literal .text (Text.Quoted.encode path.text)) ⟨r, s⟩],
      .token (.punct ";" false) ⟨t, u⟩],
    ?_, fun current more => rfl, fun more => ?_⟩
  · rw [text]
    rw [macroName, List.cons_append] at word ⊢
    rw [lexemesFrom_succ (by decide) (by decide) word, ← macroName, hp,
      lexemesFrom_succ (by decide) (by decide) (scanLexeme_mark _), hq,
      lexemesFrom_succ (c := '(') (by decide) (by decide) rfl, hr,
      lexemesFrom_succ (by decide) (by decide) literal, hs,
      lexemesFrom_succ (c := ')') (by decide) (by decide) rfl, ht,
      lexemesFrom_succ (by decide) (by decide) (scanLexeme_semicolon _), hu, lexemesFrom_newline]
    cases lexemesFrom steps (u.next '\n') rest <;> rfl
  · simp only [List.cons_append, List.nil_append, includedFiles?, quotedText?_encode,
      Option.bind_some]

/-- The files of lines are found again in order. Every line has more characters than the seven steps that
it takes, so the length of the text is enough. -/
theorem exists_lexemes_includeLines (files : List PathName) (steps : Nat) (place : Place)
    (enough : (files.flatMap fun file => (includeLine file).toList).length ≤ steps) :
    ∃ lexemes trees,
      lexemesFrom steps place (files.flatMap fun file => (includeLine file).toList) =
        some lexemes ∧
      (∀ current, Tree.assemble [] current lexemes = some (current.reverse ++ trees)) ∧
      includedFiles? trees = some files := by
  induction files generalizing steps place with
  | nil =>
    refine ⟨[], [], ?_, fun current => by simp [Tree.assemble], rfl⟩
    cases steps <;> rfl
  | cons file rest ih =>
    have long : 7 ≤ (includeLine file).toList.length := by
      have name : macroName.length = 7 := rfl
      rw [toList_includeLine, toList_includeStatement, List.append_assoc, List.length_append, name]
      exact Nat.le_add_right _ _
    rw [List.flatMap_cons] at enough ⊢
    rw [List.length_append] at enough
    obtain ⟨steps, rfl⟩ := Nat.exists_eq_add_of_le' (by omega : 7 ≤ steps)
    obtain ⟨after, front, tokens, scanned, assembled, read⟩ :=
      exists_lexemes_includeLine file (rest.flatMap fun file => (includeLine file).toList) steps place
    obtain ⟨lexemes, trees, more, assembledMore, readMore⟩ := ih steps after (by omega)
    refine ⟨front ++ lexemes, tokens ++ trees, by rw [scanned, more]; rfl, fun current => ?_, ?_⟩
    · rw [assembled, assembledMore]
      simp
    · rw [read, readMore]
      rfl

/-! ## Whole indexes -/

theorem toList_indexText (files : List PathName) :
    (indexText files).toList =
      generatedHeader.toList ++ files.flatMap fun file => (includeLine file).toList := by
  rw [indexText, String.toList_append, String.toList_join, List.flatMap_map]

/-- The header is a comment and a line of its own. -/
theorem exists_lexemesFrom_header (steps : Nat) (place : Place) (rest : List Char) :
    ∃ after, lexemesFrom (steps + 2) place (generatedHeader.toList ++ rest) =
      lexemesFrom steps after rest := by
  have comment : ∃ taken, scanPlainComment (generatedHeader.toList ++ rest) =
      some (taken, '\n' :: rest) := ⟨_, rfl⟩
  obtain ⟨taken, comment⟩ := comment
  have front : ∃ cs, generatedHeader.toList = '/' :: cs := ⟨_, rfl⟩
  obtain ⟨cs, front⟩ := front
  rw [front, List.cons_append] at comment ⊢
  refine ⟨(place.after taken).next '\n', ?_⟩
  rw [lexemesFrom, if_neg (by decide), comment]
  exact lexemesFrom_newline steps _ rest

/-- Reading the text of an index gives its files back, in order. -/
theorem readIndex?_indexText (files : List PathName) :
    readIndex? (indexText files) = some files := by
  have mark : Tree.dropByteOrderMark (indexText files).toList = (indexText files).toList := by
    rw [toList_indexText]
    rfl
  have room : 2 ≤ generatedHeader.toList.length := by decide
  generalize hbody : (files.flatMap fun file => (includeLine file).toList) = body
  obtain ⟨steps, enough, count⟩ : ∃ steps, body.length ≤ steps ∧
      (indexText files).toList.length = steps + 2 := by
    rw [toList_indexText, hbody, List.length_append]
    exact ⟨generatedHeader.toList.length + body.length - 2, by omega, by omega⟩
  obtain ⟨after, skipped⟩ := exists_lexemesFrom_header steps .start body
  obtain ⟨lexemes, trees, scanned, assembled, read⟩ :=
    exists_lexemes_includeLines files steps after (hbody ▸ enough)
  rw [hbody] at scanned
  rw [readIndex?, Tree.ofText?, mark, Tree.ofChars?, Code.lexemes, count, toList_indexText, hbody,
    skipped, scanned, Option.bind_some, assembled]
  exact read

/-- An index can be read back, whatever the paths of its files are. After the header there is one line
for each file, in order, and nothing else. All that stands in a line shows, so no path breaks a line or
hides in it. The literal of a line ends at its own closing quote, whatever follows, and denotes the path
of the file, and the whole text includes these files in this order. -/
theorem indexText_read_back (files : List PathName) :
    (∃ body : String, indexText files = generatedHeader ++ body ∧
      body.toList.splitOn '\n' =
        (files.map fun file => (includeStatement file).toList) ++ [[]]) ∧
    (∀ file ∈ files,
      (∀ c ∈ (includeStatement file).toList, Text.Quoted.shows c = true) ∧
      (∀ rest, scanString ((Text.Quoted.encode file.text).toList ++ rest) =
        some (.text, (Text.Quoted.encode file.text).toList, rest)) ∧
      quotedText? (Text.Quoted.encode file.text).toList = some file.text) ∧
    readIndex? (indexText files) = some files := by
  refine ⟨⟨String.join (files.map includeLine), rfl, ?_⟩, fun file _ => ⟨?_, ?_, ?_⟩,
    readIndex?_indexText files⟩
  · rw [String.toList_join, List.flatMap_map]
    exact splitOn_includeLines files
  · exact fun c hc => shows_of_mem_includeStatement hc
  · exact scanString_encode file.text
  · exact quotedText?_encode file.text

end RecordMapper
