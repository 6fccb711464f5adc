import SnippetLint.Proofs.Words

/-!
# Functions without a return statement

What the rules `missing-return` look for, said without a search. A header is what a function
begins with, up to the sign that opens its body; the rules then look at single letters.

* Where bodies stand in braces, `[^}]*[^}return]` can stop at any letter of the body, so a header
  counts as soon as some character up to the first `}` is none of the letters of `return`
  (`bracedRule_least`). In particular, the last character of the body is as good as any other.
* In Python, `[^return]*` can run on over the end of the line, but the first line end on its way is
  already good enough for `$`, so a header counts if the rest of its line has none of these letters
  (`pythonRule_least`).

A header can be read at the front of a text in one way only, since blanks are no word characters.
So each header decides for itself, whatever stands before it or after the part that is looked at.
-/

namespace SnippetLint

open Text Cursor Pattern Regex Builtin

/-! ## Headers -/

/-- The letters that a `return` consists of. -/
def returnLetters : List Char := ['r', 'e', 't', 'u', 'n']

/-- The languages in which the body of a function stands in braces. -/
inductive BraceLanguage
  | javaScript
  | java
  | cpp
  | c
  deriving Repr, DecidableEq

namespace BraceLanguage

def language : BraceLanguage → Language
  | javaScript => .javaScript
  | java => .java
  | cpp => .cpp
  | c => .c

/-- What a function begins with, up to its parameters. -/
def signature : BraceLanguage → List (List Char → Prop)
  | javaScript => [(· = "function".toList), Run Unicode.isBlank, Run Unicode.isWord]
  | java => [(· = "public".toList), Run Unicode.isBlank, (· = "static".toList),
      Run Unicode.isBlank, Run Unicode.isWord, Run Unicode.isBlank, Run Unicode.isWord]
  | cpp | c => [Run Unicode.isWord, Run Unicode.isBlank, Run Unicode.isWord]

/-- The parameters of a function and the brace that opens its body. -/
def opening : List (List Char → Prop) :=
  [(· = "(".toList), All (· != ')'), (· = ")".toList), All Unicode.isBlank, (· = ['\x7b'])]

/-- A header, up to and with the brace that opens the body. -/
def Header (l : BraceLanguage) : List Char → Prop := Parts (l.signature ++ opening)

end BraceLanguage

/-- A header in Python, up to and with the colon. -/
def pythonHeader : List (List Char → Prop) :=
  [(· = "def".toList), Run Unicode.isBlank, Run Unicode.isWord, (· = "(".toList),
    All (· != ')'), (· = ")".toList), (· = ":".toList)]

/-- A header ends at one place only: the signature's words and blanks take turns, and each other
run ends before a sign that it cannot take. -/
lemma opening_unambiguous : Unambiguous BraceLanguage.opening :=
  .literal _ (.all (.literal (by decide)) (.literal _ (.all (.literal (by decide))
    (.literal _ .nil))))

lemma BraceLanguage.header_unambiguous (l : BraceLanguage) :
    Unambiguous (l.signature ++ opening) := by
  have hname : Unambiguous (Run Unicode.isWord :: opening) :=
    .run (.literal (by decide)) opening_unambiguous
  have hgap : Unambiguous (Run Unicode.isBlank :: Run Unicode.isWord :: opening) :=
    .run (.run fun _ => isBlank_eq_false_of_isWord) hname
  have htyped : Unambiguous
      (Run Unicode.isWord :: Run Unicode.isBlank :: Run Unicode.isWord :: opening) :=
    .run (.run fun _ => isWord_eq_false_of_isBlank) hgap
  cases l with
  | javaScript => exact .literal _ hgap
  | java =>
    exact .literal _ (.run (.literal (by decide)) (.literal _
      (.run (.run fun _ => isBlank_eq_false_of_isWord) htyped)))
  | cpp | c => exact htyped

lemma pythonHeader_unambiguous : Unambiguous pythonHeader :=
  .literal _ (.run (.run fun _ => isBlank_eq_false_of_isWord) (.run (.literal (by decide))
    (.literal _ (.all (.literal (by decide)) (.literal _ (.literal _ .nil))))))

/-! ## Headers that count -/

/-- The body of a function up to its first closing brace. -/
def stretch (body : List Char) : List Char := body.takeWhile (· != '\x7d')

/-- A header is at the front of a text, and some character of the stretch after it is none of the
letters of `return`. -/
def BraceLanguage.LacksReturn (l : BraceLanguage) (s : List Char) : Prop :=
  ∃ header body, s = header ++ body ∧ l.Header header ∧ ∃ c ∈ stretch body, c ∉ returnLetters

/-- A header is at the front of a text, and the rest of its line has none of the letters of
`return`. -/
def PythonLacksReturn (s : List Char) : Prop :=
  ∃ header rest, s = header ++ rest ∧ Parts pythonHeader header ∧
    ∀ c ∈ firstLine rest, c ∉ returnLetters

/-! ## Bodies in braces -/

/-- The words of `[^}]*[^}return]`. -/
def strayLetter : List (List Char → Prop) :=
  [All (· != '\x7d'), fun w => ∃ c, w = [c] ∧ c ∉ '\x7d' :: returnLetters]

/-- A stretch up to a character that is neither a closing brace nor a letter of `return`. -/
lemma parts_strayLetter {w : List Char} :
    Parts strayLetter w ↔
      ∃ u c, w = u ++ [c] ∧ All (· != '\x7d') u ∧ c ∉ '\x7d' :: returnLetters := by
  constructor
  · intro h
    obtain ⟨u, _, rfl, hu, hlast⟩ := h
    obtain ⟨c, rfl, hc⟩ := parts_singleton.mp hlast
    exact ⟨u, c, rfl, hu, hc⟩
  · intro h
    obtain ⟨u, c, rfl, hu, hc⟩ := h
    exact ⟨u, [c], rfl, hu, parts_singleton.mpr ⟨c, rfl, hc⟩⟩

lemma reads_parameters : Reads parameters (Parts [(· = "(".toList), All (· != ')'),
    (· = ")".toList)]) :=
  (reads_text _).cons ((reads_anyExcept_singleton _).cons ((reads_text _).cons reads_nil))

lemma reads_bodyWithoutReturn : Reads bodyWithoutReturn
    (Parts (All Unicode.isBlank :: (· = ['\x7b']) :: strayLetter)) := by
  have hletter : Reads (oneOf (.except ['\x7d', 'r', 'e', 't', 'u', 'n']))
      fun w => ∃ c, w = [c] ∧ c ∉ '\x7d' :: returnLetters :=
    (reads_oneOf _).congr fun w => by
      simp [CharSet.except, CharSet.contains, returnLetters]
  exact reads_optionalBlanks.cons ((reads_text _).cons
    ((reads_anyExcept_singleton _).cons (hletter.cons reads_nil)))

/-- The expression of the rule. -/
def BraceLanguage.expression : BraceLanguage → PlainRegex
  | javaScript => javaScriptFunction
  | java => javaMethod
  | cpp | c => cFunction

lemma BraceLanguage.reads_expression (l : BraceLanguage) :
    Reads l.expression (Parts (l.signature ++ (opening ++ strayLetter))) := by
  have hend : Reads (seq [parameters, bodyWithoutReturn]) (Parts (opening ++ strayLetter)) :=
    (reads_parameters.cons (reads_bodyWithoutReturn.cons reads_nil)).congr fun _ => parts_pair
  cases l with
  | javaScript => exact (reads_text _).cons (reads_blanks.cons (reads_word.cons hend))
  | java =>
    exact (reads_text _).cons (reads_blanks.cons ((reads_text _).cons (reads_blanks.cons
      (reads_word.cons (reads_blanks.cons (reads_word.cons hend))))))
  | cpp | c => exact reads_word.cons (reads_blanks.cons (reads_word.cons hend))

/-- Every character of the stretch is before the closing brace. -/
lemma ne_brace_of_mem_stretch {body : List Char} {c : Char} (hc : c ∈ stretch body) :
    (c != '\x7d') = true :=
  List.all_eq_true.mp List.all_takeWhile c hc

/-- A stray letter can be reached exactly if there is one in the stretch. -/
lemma strayLetter_iff (body : List Char) :
    (∃ w after, body = w ++ after ∧ Parts strayLetter w) ↔
      ∃ c ∈ stretch body, c ∉ returnLetters := by
  constructor
  · intro h
    obtain ⟨w, after, rfl, hw⟩ := h
    obtain ⟨u, c, rfl, hu, hc⟩ := parts_strayLetter.mp hw
    rw [List.mem_cons, not_or] at hc
    refine ⟨c, ?_, hc.2⟩
    rw [stretch, List.append_assoc, List.takeWhile_append_of_pos hu]
    simp [hc.1]
  · intro h
    obtain ⟨c, hc, hletter⟩ := h
    -- The run takes what comes before the letter, and what comes after it is not looked at.
    obtain ⟨u, v, huv⟩ := List.append_of_mem hc
    have hbody : body = (u ++ [c]) ++ (v ++ body.dropWhile (· != '\x7d')) := by
      have hsplit : stretch body ++ body.dropWhile (· != '\x7d') = body :=
        List.takeWhile_append_dropWhile
      rw [huv] at hsplit
      simpa using hsplit.symm
    have hu : All (· != '\x7d') u := by
      intro d hd
      have hmem : d ∈ stretch body := by simp [huv, hd]
      exact ne_brace_of_mem_stretch hmem
    have hbrace : c ≠ '\x7d' := by simpa using ne_brace_of_mem_stretch hc
    refine ⟨u ++ [c], _, hbody, parts_strayLetter.mpr ⟨u, c, rfl, hu, ?_⟩⟩
    rw [List.mem_cons, not_or]
    exact ⟨hbrace, hletter⟩

/-- A match of the rule is a header with a stray letter in the stretch after it. -/
lemma BraceLanguage.lacksReturn_iff (l : BraceLanguage) (s : List Char) :
    (∃ w after, s = w ++ after ∧ Parts (l.signature ++ (opening ++ strayLetter)) w) ↔
      l.LacksReturn s := by
  constructor
  · intro h
    obtain ⟨w, after, rfl, hw⟩ := h
    rw [← List.append_assoc] at hw
    obtain ⟨header, u, rfl, hheader, hu⟩ := parts_append.mp hw
    exact ⟨header, u ++ after, List.append_assoc _ _ _, hheader,
      (strayLetter_iff _).mp ⟨u, after, rfl, hu⟩⟩
  · intro h
    obtain ⟨header, body, rfl, hheader, hbody⟩ := h
    obtain ⟨u, after, rfl, hu⟩ := (strayLetter_iff body).mpr hbody
    refine ⟨header ++ u, after, (List.append_assoc _ _ _).symm, ?_⟩
    rw [← List.append_assoc]
    exact parts_append.mpr ⟨header, u, rfl, hheader, hu⟩

/-- Where bodies stand in braces, the rule finds the first header whose body has, up to the first
closing brace, a character that is no letter of `return`. Each header of a text decides for itself,
and nothing but the set of the characters of that stretch counts. -/
theorem bracedRule_least (l : BraceLanguage) :
    ∃ rule : Rule,
      (Catalogue.builtin.rulesFor l.language).filter (·.id == "missing-return") = [rule] ∧
      (∀ text : List Char,
        IsLeastOffset ((rule.matcher.firstMatch? text).map (·.offset))
          (offsetsWhere l.LacksReturn text)) ∧
      ∀ before header body : List Char, l.Header header →
        (utf8Length before ∈ offsetsWhere l.LacksReturn (before ++ (header ++ body)) ↔
          ∃ c ∈ stretch body, c ∉ returnLetters) := by
  have hfind : ∀ text : List Char,
      IsLeastOffset (((Matcher.pattern l.expression).firstMatch? text).map (·.offset))
        (offsetsWhere l.LacksReturn text) := by
    intro text
    have hleast := l.reads_expression.find?_least text
    rwa [funext fun s => propext (l.lacksReturn_iff s)] at hleast
  have hdecide : ∀ before header body : List Char, l.Header header →
      (utf8Length before ∈ offsetsWhere l.LacksReturn (before ++ (header ++ body)) ↔
        ∃ c ∈ stretch body, c ∉ returnLetters) := by
    intro before header body hheader
    exact mem_offsetsWhere_of_unambiguous l.header_unambiguous hheader before body
  -- The catalogue is looked up language by language.
  cases l with
  | javaScript => exact ⟨_, rfl, hfind, hdecide⟩
  | java => exact ⟨_, rfl, hfind, hdecide⟩
  | cpp => exact ⟨_, rfl, hfind, hdecide⟩
  | c => exact ⟨_, rfl, hfind, hdecide⟩

/-- A function that returns something other than the letters of `return` counts as well. -/
theorem lacksReturn_main :
    BraceLanguage.c.Header "int main() \x7b".toList ∧
      utf8Length "// é\n".toList ∈ offsetsWhere BraceLanguage.c.LacksReturn
        ("// é\n".toList ++ ("int main() \x7b".toList ++ " return 0; \x7d".toList)) := by
  have hheader : BraceLanguage.c.Header "int main() \x7b".toList :=
    ⟨"int".toList, _, rfl, by decide, " ".toList, _, rfl, by decide, "main".toList, _, rfl,
      by decide, _, _, rfl, rfl, [], _, rfl, by decide, _, _, rfl, rfl, " ".toList, _, rfl,
      by decide, _, [], rfl, rfl, rfl⟩
  obtain ⟨-, -, -, hdecide⟩ := bracedRule_least .c
  exact ⟨hheader, (hdecide _ _ _ hheader).mpr ⟨'0', by decide, by decide⟩⟩

/-! ## The rest of a line in Python -/

/-- The expression up to the end of the line that it asks for. -/
def pythonParts : List PlainRegex :=
  [text "def", blanks, word, parameters, text ":", anyExcept returnLetters]

lemma reads_pythonParts :
    Reads (seq pythonParts) (Parts (pythonHeader ++ [All fun c => !returnLetters.contains c])) := by
  have hend : Reads (seq [parameters, text ":", anyExcept returnLetters])
      (Parts [(· = "(".toList), All (· != ')'), (· = ")".toList), (· = ":".toList),
        All fun c => !returnLetters.contains c]) :=
    (reads_parameters.cons ((reads_text _).cons
      ((reads_anyExcept _).cons reads_nil))).congr fun _ => parts_flatten
  exact (reads_text _).cons (reads_blanks.cons (reads_word.cons hend))

/-- An assertion at the end of a row is asked where the rest of the row ends. -/
lemma matches_seq_look {rs : List PlainRegex} {a : Assertion} {cur stop : Cursor} :
    Matches (seq (rs ++ [.look a])) cur stop ↔ Matches (seq rs) cur stop ∧ a.holds stop = true := by
  -- Along the row, at the end of which the assertion stands.
  induction rs generalizing cur with
  | nil =>
    constructor
    · intro h
      cases h with
      | look ha => exact ⟨.empty _, ha⟩
    · intro h
      obtain ⟨hempty, ha⟩ := h
      cases hempty
      exact .look ha
  | cons r rs ih =>
    rw [List.cons_append, matches_seq_cons, matches_seq_cons, matches_cat_iff, matches_cat_iff]
    simp only [ih]
    constructor
    · intro h
      obtain ⟨mid, hr, hrs, ha⟩ := h
      exact ⟨⟨mid, hr, hrs⟩, ha⟩
    · intro h
      obtain ⟨⟨mid, hr, hrs⟩, ha⟩ := h
      exact ⟨mid, hr, hrs, ha⟩

/-- A run without a letter of `return` that ends at the end of a line covers the rest of the first
line, and that much is enough. -/
lemma firstLine_iff (rest : List Char) :
    (∃ u after, rest = u ++ after ∧ All (fun c => !returnLetters.contains c) u ∧
        firstLine after = []) ↔
      ∀ c ∈ firstLine rest, c ∉ returnLetters := by
  constructor
  · intro h
    obtain ⟨u, after, rfl, hu, hafter⟩ := h
    intro c hc
    -- The run ends where a line does, so it has all of the first line in it.
    have hmem : c ∈ u := by
      rw [firstLine, List.takeWhile_append] at hc
      split at hc
      · rw [firstLine] at hafter
        rwa [hafter, List.append_nil] at hc
      · exact List.takeWhile_subset _ hc
    simpa using hu c hmem
  · intro h
    obtain ⟨after, hrest, hafter⟩ := exists_firstLine_append rest
    exact ⟨firstLine rest, after, hrest, fun c hc => by simpa using h c hc, hafter⟩

/-- A match of the rule is a header whose line goes on without a letter of `return`. -/
lemma matches_pythonFunction_iff (p : Cursor) :
    (∃ stop, Matches pythonFunction p stop) ↔ PythonLacksReturn p.rest := by
  have hparts : pythonFunction = seq (pythonParts ++ [.look (.lineEnd false)]) := rfl
  simp only [hparts, matches_seq_look, reads_pythonParts p, lineEnd_holds_iff, parts_append,
    parts_singleton]
  constructor
  · intro h
    obtain ⟨_, ⟨_, after, hrest, rfl, header, u, rfl, hheader, hu⟩, hend⟩ := h
    rw [rest_skip hrest] at hend
    rw [hrest, List.append_assoc]
    exact ⟨header, u ++ after, rfl, hheader, (firstLine_iff _).mp ⟨u, after, rfl, hu, hend⟩⟩
  · intro h
    obtain ⟨header, rest, hrest, hheader, hline⟩ := h
    obtain ⟨u, after, rfl, hu, hend⟩ := (firstLine_iff rest).mpr hline
    rw [← List.append_assoc] at hrest
    refine ⟨p.skip (header ++ u), ⟨_, after, hrest, rfl, header, u, rfl, hheader, hu⟩, ?_⟩
    rwa [rest_skip hrest]

/-- In Python, the rule finds the first header whose line goes on without a letter of `return`. Each
header of a text decides for itself, and nothing counts but the rest of its line. -/
theorem pythonRule_least :
    ∃ rule : Rule,
      (Catalogue.builtin.rulesFor .python).filter (·.id == "missing-return") = [rule] ∧
      (∀ text : List Char,
        IsLeastOffset ((rule.matcher.firstMatch? text).map (·.offset))
          (offsetsWhere PythonLacksReturn text)) ∧
      ∀ before header rest : List Char, Parts pythonHeader header →
        (utf8Length before ∈ offsetsWhere PythonLacksReturn (before ++ (header ++ rest)) ↔
          ∀ c ∈ firstLine rest, c ∉ returnLetters) := by
  refine ⟨_, rfl, ?_, ?_⟩
  · intro text
    have hfirst := find?_isFirst pythonFunction text
    exact (hfirst.congr fun p _ => matches_pythonFunction_iff p).least
  · intro before header rest hheader
    exact mem_offsetsWhere_of_unambiguous pythonHeader_unambiguous hheader before rest

/-- A `return` on the next line comes too late. -/
theorem pythonLacksReturn_pass :
    Parts pythonHeader "def f(x):".toList ∧
      utf8Length "# é\n".toList ∈ offsetsWhere PythonLacksReturn
        ("# é\n".toList ++ ("def f(x):".toList ++ " pass\n    return x".toList)) := by
  have hheader : Parts pythonHeader "def f(x):".toList :=
    ⟨_, _, rfl, rfl, " ".toList, _, rfl, by decide, "f".toList, _, rfl, by decide, _, _, rfl, rfl,
      "x".toList, _, rfl, by decide, _, _, rfl, rfl, _, [], rfl, rfl, rfl⟩
  obtain ⟨-, -, -, hdecide⟩ := pythonRule_least
  exact ⟨hheader, (hdecide _ _ _ hheader).mpr (by simp [firstLine, returnLetters])⟩

end SnippetLint
