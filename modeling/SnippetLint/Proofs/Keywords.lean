import Mathlib.Data.List.Basic
import Mathlib.Data.Option.Basic
import Mathlib.Tactic.ByContra
import SnippetLint.Generation
import SnippetLint.Defect
import SnippetLint.Proofs.AsciiCase

/-!
# Keywords in messages and prompts

Two choices are made by the words that occur in a text: the category of a message and the template
for a prompt. Both look for words in the lower case form of the text, one after another, and the
first that occurs decides. This file says that the lower case form neither adds a keyword nor hides
one: all that counts is which keywords the text has itself, but for the case of ASCII letters
(`Text.Mentions`), and in which order they are looked for (`Answers`).

Since nothing outside ASCII belongs to a keyword, a choice depends on the ASCII part of the text
only (`mentions_iff_asciiView`), and what is put around a text can only make it earlier
(`Answers.idxOf_le`).
-/

namespace SnippetLint

open Text

/-! ## Texts with words in them -/

/-- A word occurs in a text, but for the case of ASCII letters. -/
def Text.Mentions (word text : String) : Prop :=
  ∃ w, w <:+: text.toList ∧ SameLetters w word.toList

/-- What is seen of a character if only ASCII is seen, and no case. -/
def asciiView (c : Char) : Option Char := if IsAscii c then some c.toLower else none

/-- Two texts that differ in the case of ASCII letters and in which characters outside ASCII they
have, but not in where these are. -/
def Text.SameAscii (s t : String) : Prop := s.toList.map asciiView = t.toList.map asciiView

instance (s t : String) : Decidable (SameAscii s t) :=
  inferInstanceAs (Decidable (s.toList.map asciiView = t.toList.map asciiView))

/-- Texts that differ by case alone are the same within ASCII. -/
lemma Text.SameLetters.sameAscii {s t : String} (h : SameLetters s.toList t.toList) :
    SameAscii s t := by
  have hview : ∀ c : Char, asciiView c = asciiView c.toLower := by
    intro c
    by_cases hc : IsAscii c
    · have hlower : c.toLower.toLower = c.toLower :=
        hc.of_forall (P := fun c => c.toLower.toLower = c.toLower) (by decide +kernel)
      rw [asciiView, asciiView, if_pos hc, if_pos ((isAscii_toLower_iff c).mpr hc), hlower]
    · rw [toLower_of_not_ascii hc]
  have hmap : ∀ u : List Char, u.map asciiView = (u.map Char.toLower).map asciiView := by
    intro u
    rw [List.map_map]
    exact List.map_congr_left fun c _ => hview c
  rw [SameAscii, hmap, h, ← hmap]

/-- Only what is seen of a text decides whether it mentions a plain word. -/
lemma mentions_iff_asciiView {word : String} (h : Plain word.toList) (text : String) :
    Mentions word text ↔ word.toList.map some <:+: text.toList.map asciiView := by
  have hword : ∀ w : List Char,
      SameLetters w word.toList ↔ word.toList.map some = w.map asciiView := by
    intro w
    constructor
    · intro hw
      have hsome : ∀ c ∈ w, asciiView c = some c.toLower :=
        fun c hc => if_pos (h.isAscii_of_sameLetters hw c hc)
      rw [List.map_congr_left hsome, ← h.sameLetters_iff.mp hw, List.map_map]
      rfl
    · intro hw
      have hsome : w.map asciiView = (w.map Char.toLower).map some := by
        rw [List.map_map]
        refine List.map_congr_left fun c hc => if_pos ?_
        -- All that is seen of `w` are letters, so each of its characters is seen.
        by_contra hascii
        have hnone : none ∈ word.toList.map some := by
          rw [hw, List.mem_map]
          exact ⟨c, hc, if_neg hascii⟩
        simp at hnone
      rw [hsome] at hw
      rw [h.sameLetters_iff]
      exact (List.map_injective_iff.mpr (Option.some_injective Char) hw).symm
  simp only [Mentions, hword, List.infix_map_iff]

/-- What a text has outside of ASCII has no part in the words that it mentions. -/
lemma Text.SameAscii.mentions_iff {s t word : String} (h : SameAscii s t)
    (hword : Plain word.toList) : Mentions word s ↔ Mentions word t := by
  rw [mentions_iff_asciiView hword, mentions_iff_asciiView hword, h]

lemma Text.Mentions.within {word text : String} (h : Mentions word text) (front back : String) :
    Mentions word (front ++ text ++ back) := by
  obtain ⟨w, hinfix, hw⟩ := h
  refine ⟨w, ?_, hw⟩
  rw [String.toList_append, String.toList_append]
  exact hinfix.trans ⟨front.toList, back.toList, rfl⟩

/-! ## The first keyword decides -/

/-- Answers with the words that ask for them, in the order in which the words are looked for. -/
abbrev KeywordTable (α : Type) := List (α × List String)

/-- The answer to a text is that of the first entry with a word that the text mentions; a text that
mentions no word of the table has another answer. -/
inductive Answers {α : Type} (text : String) (otherwise : α) : KeywordTable α → α → Prop
  | first {answer : α} {words : List String} {table : KeywordTable α}
      (mentioned : ∃ word ∈ words, Mentions word text) :
      Answers text otherwise ((answer, words) :: table) answer
  | later {answer answer' : α} {words : List String} {table : KeywordTable α}
      (absent : ∀ word ∈ words, ¬ Mentions word text)
      (rest : Answers text otherwise table answer') :
      Answers text otherwise ((answer, words) :: table) answer'
  | otherwise : Answers text otherwise [] otherwise

/-- All words of a table are plain. -/
def PlainTable {α : Type} (table : KeywordTable α) : Prop :=
  ∀ entry ∈ table, ∀ word ∈ entry.2, Plain word.toList

/-- A search for the words in the lower case form of a text gives the answer to the text. -/
lemma answers_find? {α : Type} {table : KeywordTable α} (h : PlainTable table) (text : String)
    (otherwise : α) :
    Answers text otherwise table
      (((table.find? fun entry => entry.2.any fun word =>
        contains word.toList (Unicode.lowercase text.toList)).map Prod.fst).getD otherwise) := by
  induction table with
  | nil => exact .otherwise
  | cons entry table ih =>
    obtain ⟨answer, words⟩ := entry
    -- The search goes through the lower case form, the answer is about the text itself.
    have hwords : ∀ word ∈ words, contains word.toList (Unicode.lowercase text.toList) = true ↔
        Mentions word text :=
      fun word hword => Unicode.contains_lowercase_iff (h _ List.mem_cons_self word hword) _
    have htable : PlainTable table := fun entry hentry => h entry (List.mem_cons_of_mem _ hentry)
    rw [List.find?_cons]
    dsimp only
    split
    · next hany =>
      obtain ⟨word, hword, hcontains⟩ := List.any_eq_true.mp hany
      exact .first ⟨word, hword, (hwords word hword).mp hcontains⟩
    · next hany =>
      refine .later (fun word hword hmentions => ?_) (ih htable)
      have hcontains := List.any_eq_false.mp hany word hword
      exact hcontains ((hwords word hword).mpr hmentions)

namespace Answers

variable {α : Type} {table : KeywordTable α} {text text' : String} {otherwise answer answer' : α}

/-- Texts that mention the same words have the same answers. -/
lemma congr (h : Answers text otherwise table answer)
    (hwords : ∀ entry ∈ table, ∀ word ∈ entry.2, Mentions word text ↔ Mentions word text') :
    Answers text' otherwise table answer := by
  induction h with
  | first mentioned =>
    obtain ⟨word, hword, hmentions⟩ := mentioned
    exact .first ⟨word, hword, (hwords _ List.mem_cons_self word hword).mp hmentions⟩
  | later absent _ ih =>
    refine .later (fun word hword hmentions => absent word hword ?_)
      (ih fun entry hentry => hwords entry (List.mem_cons_of_mem _ hentry))
    exact (hwords _ List.mem_cons_self word hword).mpr hmentions
  | otherwise => exact .otherwise

/-- A table has one answer for a text. -/
lemma unique (h : Answers text otherwise table answer) (h' : Answers text otherwise table answer') :
    answer = answer' := by
  induction h with
  | first mentioned =>
    cases h' with
    | first => rfl
    | later absent _ =>
      obtain ⟨word, hword, hmentions⟩ := mentioned
      exact absurd hmentions (absent word hword)
  | later absent _ ih =>
    cases h' with
    | first mentioned =>
      obtain ⟨word, hword, hmentions⟩ := mentioned
      exact absurd hmentions (absent word hword)
    | later _ rest => exact ih rest
  | otherwise =>
    cases h'
    rfl

/-- An answer is one of the table or the other one. -/
lemma mem (h : Answers text otherwise table answer) :
    answer ∈ table.map Prod.fst ++ [otherwise] := by
  induction h with
  | first => simp
  | later _ _ ih => exact List.mem_cons_of_mem _ ih
  | otherwise => simp

/-- A text that mentions all that another one does has no later answer. -/
lemma idxOf_le [DecidableEq α] (h : Answers text otherwise table answer)
    (h' : Answers text' otherwise table answer')
    (hmore : ∀ word, Mentions word text → Mentions word text')
    (hdistinct : (table.map Prod.fst ++ [otherwise]).Nodup) :
    (table.map Prod.fst ++ [otherwise]).idxOf answer' ≤
      (table.map Prod.fst ++ [otherwise]).idxOf answer := by
  -- Along the table, as long as neither of the two has an answer.
  induction h with
  | @first answer words table mentioned =>
    cases h' with
    | first => exact Nat.le_refl _
    | later absent _ =>
      obtain ⟨word, hword, hmentions⟩ := mentioned
      exact absurd (hmore word hmentions) (absent word hword)
  | @later key answer words table absent rest ih =>
    rw [List.map_cons, List.cons_append] at hdistinct ⊢
    obtain ⟨hkey, hdistinct⟩ := List.nodup_cons.mp hdistinct
    have hne : ∀ {a}, a ∈ table.map Prod.fst ++ [otherwise] → key ≠ a :=
      fun ha => (ne_of_mem_of_not_mem ha hkey).symm
    cases h' with
    | first => simp
    | later _ rest' =>
      rw [List.idxOf_cons_ne _ (hne rest'.mem), List.idxOf_cons_ne _ (hne rest.mem)]
      exact Nat.succ_le_succ (ih rest' hdistinct)
  | otherwise =>
    cases h'
    exact Nat.le_refl _

end Answers

/-! ## Categories and templates -/

/-- The words that put a message into a category. -/
def categoryWords : KeywordTable Category := [
  (.missingReturn, ["return statement"]),
  (.debugPrint, ["console.log", "print", "cout", "printf"]),
  (.varUsage, ["var"]),
  (.unclosedTag, ["unclosed"]),
  (.missingSemicolon, ["semicolon"])]

/-- The words of a prompt that ask for a template. -/
def templateWords : KeywordTable String := [("factorial", ["factorial"]), ("todo", ["todo"])]

/-- All words that are looked for. -/
def keywords : List String :=
  categoryWords.flatMap (·.2) ++ templateWords.flatMap (·.2)

lemma plain_of_mem_keywords : ∀ word ∈ keywords, Plain word.toList := by decide

lemma plain_categoryWords : PlainTable categoryWords := by
  intro entry hentry word hword
  have hmem : word ∈ categoryWords.flatMap (·.2) := List.mem_flatMap.mpr ⟨entry, hentry, hword⟩
  exact plain_of_mem_keywords word (List.mem_append_left _ hmem)

lemma plain_templateWords : PlainTable templateWords := by
  intro entry hentry word hword
  have hmem : word ∈ templateWords.flatMap (·.2) := List.mem_flatMap.mpr ⟨entry, hentry, hword⟩
  exact plain_of_mem_keywords word (List.mem_append_right _ hmem)

/-- A message falls into the first category of which it mentions a word, and into the last one if
there is none. -/
lemma classify_answers (message : String) :
    Answers message .other categoryWords (Category.classify message) := by
  have hfind := answers_find? plain_categoryWords message .other
  have heq : Category.classify message = ((categoryWords.find? fun entry =>
      entry.2.any fun word => contains word.toList (Unicode.lowercase message.toList)).map
        Prod.fst).getD .other := by
    simp only [Category.classify, Category.all, Category.needles, categoryWords, List.find?_cons]
    repeat' split
    all_goals rfl
  rw [heq]
  exact hfind

/-- A prompt gets the first template of which it mentions a word, and the default one if there is
none. -/
lemma selectTemplate_answers (prompt : String) :
    Answers prompt "default" templateWords (selectTemplate prompt) := by
  have hfind := answers_find? plain_templateWords prompt "default"
  have heq : selectTemplate prompt = ((templateWords.find? fun entry =>
      entry.2.any fun word => contains word.toList (Unicode.lowercase prompt.toList)).map
        Prod.fst).getD "default" := by
    simp only [selectTemplate, templateKeywords, templateWords, List.find?_cons, List.any_cons,
      List.any_nil, Bool.or_false]
    cases contains "factorial".toList (Unicode.lowercase prompt.toList) with
    | true => rfl
    | false => cases contains "todo".toList (Unicode.lowercase prompt.toList) <;> rfl
  rw [heq]
  exact hfind

/-- Texts that mention the same words of a table have the same answers, and so have texts of which
the same is seen. -/
lemma Answers.eq_of_sameAscii {α : Type} {table : KeywordTable α} (h : PlainTable table)
    {s t : String} (hsame : SameAscii s t) {otherwise answer answer' : α}
    (hs : Answers s otherwise table answer) (ht : Answers t otherwise table answer') :
    answer = answer' :=
  (hs.congr fun entry hentry word hword => hsame.mentions_iff (h entry hentry word hword)).unique ht

/-- A message has the category of the first word that it has in it, and a prompt asks for a template
likewise; the words are looked for in their order, and the case of ASCII letters is all that does
not count. No character outside ASCII has a part in that: each can be replaced by any other. What is
put around a text never leads to a later category or template. -/
theorem keywords_exact :
    (∀ word ∈ keywords, ∀ text : String,
      (contains word.toList (Unicode.lowercase text.toList) = true ↔ Mentions word text) ∧
      ∀ w, SameLetters w word.toList → ∀ c ∈ w, IsAscii c) ∧
    (∀ message, Answers message .other categoryWords (Category.classify message)) ∧
    (∀ prompt, Answers prompt "default" templateWords (selectTemplate prompt)) ∧
    (∀ s t : String, SameLetters s.toList t.toList ∨ SameAscii s t →
      Category.classify s = Category.classify t ∧ selectTemplate s = selectTemplate t) ∧
    ∀ front text back : String,
      Category.all.idxOf (Category.classify (front ++ text ++ back)) ≤
        Category.all.idxOf (Category.classify text) ∧
      ["factorial", "todo", "default"].idxOf (selectTemplate (front ++ text ++ back)) ≤
        ["factorial", "todo", "default"].idxOf (selectTemplate text) := by
  refine ⟨fun word hword text => ?_, classify_answers, selectTemplate_answers, fun s t h => ?_,
    fun front text back => ?_⟩
  · have hplain := plain_of_mem_keywords word hword
    exact ⟨Unicode.contains_lowercase_iff hplain _, fun w hw => hplain.isAscii_of_sameLetters hw⟩
  · have hsame : SameAscii s t := h.elim SameLetters.sameAscii id
    exact ⟨(classify_answers s).eq_of_sameAscii plain_categoryWords hsame (classify_answers t),
      (selectTemplate_answers s).eq_of_sameAscii plain_templateWords hsame
        (selectTemplate_answers t)⟩
  · have hmore : ∀ word, Mentions word text → Mentions word (front ++ text ++ back) :=
      fun word hword => hword.within front back
    exact ⟨(classify_answers text).idxOf_le (classify_answers _) hmore (by decide),
      (selectTemplate_answers text).idxOf_le (selectTemplate_answers _) hmore (by decide)⟩

/-- The dotted capital `İ` and the Kelvin sign are not read as letters, and may stand for each
other. -/
theorem keywords_exact_letters :
    "print" ∈ keywords ∧
    (contains "print".toList (Unicode.lowercase "Prİnt, PRINT".toList) = true ↔
      Mentions "print" "Prİnt, PRINT") ∧
    SameLetters "PriNT".toList "print".toList ∧ (∀ c ∈ "PriNT".toList, IsAscii c) ∧
    SameAscii "Prİnt VAR" "prKnt var" ∧
    Category.classify "Prİnt VAR" = Category.classify "prKnt var" ∧
    selectTemplate "Prİnt VAR" = selectTemplate "prKnt var" := by
  obtain ⟨hwords, -, -, hsame, -⟩ := keywords_exact
  have hword : "print" ∈ keywords := by decide
  have hletters : SameLetters "PriNT".toList "print".toList := by decide +kernel
  have hview : SameAscii "Prİnt VAR" "prKnt var" := by decide +kernel
  exact ⟨hword, (hwords "print" hword _).1, hletters, (hwords "print" hword "").2 _ hletters, hview,
    hsame _ _ (.inr hview)⟩

end SnippetLint
