import SnippetLint.Proofs.Collection
import SnippetLint.Proofs.RunResult

/-!
# What becomes of an input

Each input stands for some bytes, which are a text or are none. A text that is not blank gets a
report, a blank file is passed over, and everything else makes the whole analysis fail. This file
says so for one input (`Examined`, `Fails`, `analyzeInput_cases`) and for all of them together
(`mapM_analyzeInput_eq_ok`, `mapM_analyzeInput_eq_error`). That the inputs stand for bytes at all
is because they have been collected: `Collects.exists_bytes`.
-/

namespace SnippetLint

namespace Input

/-! ## The bytes of an input -/

/-- The bytes that an input stands for: the standard input, or a file. -/
def bytes? (w : World) (input : Input) : Option ByteArray :=
  if input.isStandard then some w.input
  else match w.files.find input.path with
    | .ok (.file content) => some content
    | _ => none

/-- An input holds a text. -/
def HasText (w : World) (input : Input) (text : String) : Prop :=
  ∃ content, input.bytes? w = some content ∧ String.fromUTF8? content = some text

/-- An input holds bytes that are no text. -/
def NotText (w : World) (input : Input) : Prop :=
  ∃ content, input.bytes? w = some content ∧ String.fromUTF8? content = none

variable {w : World} {input : Input}

/-- An input holds one text at most. -/
lemma HasText.unique {text text' : String} (h : input.HasText w text)
    (h' : input.HasText w text') : text = text' := by
  obtain ⟨content, hbytes, htext⟩ := h
  obtain ⟨content', hbytes', htext'⟩ := h'
  obtain rfl := Option.some.inj (hbytes.symm.trans hbytes')
  exact Option.some.inj (htext.symm.trans htext')

/-- The bytes of an input with a text are that text. -/
lemma HasText.not_notText {text : String} (h : input.HasText w text) : ¬ input.NotText w := by
  intro h'
  obtain ⟨content, hbytes, htext⟩ := h
  obtain ⟨content', hbytes', hbad⟩ := h'
  obtain rfl := Option.some.inj (hbytes.symm.trans hbytes')
  cases hbad.symm.trans htext

/-- Bytes are a text or they are none. -/
lemma hasText_or_notText {content : ByteArray} (h : input.bytes? w = some content) :
    (∃ text, input.HasText w text) ∨ input.NotText w := by
  cases htext : String.fromUTF8? content with
  | none => exact .inr ⟨content, h, htext⟩
  | some text => exact .inl ⟨text, content, h, htext⟩

lemma bytes?_standard (h : input.isStandard = true) : input.bytes? w = some w.input := by
  rw [bytes?, if_pos h]

/-- The bytes of an input with a path are those of the file there. -/
lemma bytes?_file {content : ByteArray} (h : input.path ≠ standardPath)
    (hfind : w.files.find input.path = .ok (.file content)) : input.bytes? w = some content := by
  have hstandard : ¬ input.isStandard = true := by simpa [isStandard] using h
  rw [bytes?, if_neg hstandard, hfind]

/-- An input that is not the standard input has its bytes from a file. -/
lemma find_of_bytes? {content : ByteArray} (h : input.isStandard = false)
    (hbytes : input.bytes? w = some content) : w.files.find input.path = .ok (.file content) := by
  rw [bytes?, h, if_neg Bool.false_ne_true] at hbytes
  split at hbytes
  · next content' hfind => rw [hfind, Option.some.inj hbytes]
  · cases hbytes

/-! ## Collected inputs -/

/-- A path that tells a language is not that of the standard input. -/
lemma ne_standardPath_of_known {path : String} (h : (Language.ofPath? path).isSome) :
    path ≠ standardPath := by
  rintro rfl
  revert h
  decide

variable {language : Option String} {globs : List Glob.Matcher}

/-- The inputs that a path contributes stand for bytes: each comes from a file that has been found.
-/
lemma Contributes.exists_bytes (hfiles : w.files.root.WellFormed) {earlier : List String}
    {path : String} {inputs : List Input}
    (h : Contributes w.files language globs earlier path inputs) :
    ∀ input ∈ inputs, ∃ content, input.bytes? w = some content := by
  cases h with
  | standard => exact List.forall_mem_singleton.mpr ⟨_, bytes?_standard rfl⟩
  | standardAgain => simp
  | file other leads => exact List.forall_mem_singleton.mpr ⟨_, bytes?_file other leads⟩
  | directory other leads exact =>
    intro input hinput
    obtain ⟨names, hnames, rfl⟩ := List.mem_map.mp hinput
    obtain ⟨⟨content, hget⟩, hknown, -, -⟩ := (exact names).mp hnames
    have htree := FileSystem.wellFormed_of_find hfiles leads
    exact ⟨content, bytes?_file (ne_standardPath_of_known hknown)
      (FileSystem.find_joined htree leads hget)⟩

/-- Whatever has been collected can be found again. -/
lemma Collects.exists_bytes (hfiles : w.files.root.WellFormed) {earlier paths : List String}
    {inputs : List Input} (h : Collects w.files language globs earlier paths inputs) :
    ∀ input ∈ inputs, ∃ content, input.bytes? w = some content := by
  induction h with
  | nil => simp
  | cons head tail ih =>
    intro input hinput
    exact (List.mem_append.mp hinput).elim (head.exists_bytes hfiles input) (ih input)

lemma Contributes.exists_standard_iff {earlier : List String} {path : String}
    {inputs : List Input} (h : Contributes w.files language globs earlier path inputs) :
    (∃ input ∈ inputs, input.isStandard = true) ↔ path = standardPath ∧ standardPath ∉ earlier := by
  cases h with
  | standard first => exact ⟨fun _ => ⟨rfl, first⟩, fun _ => ⟨_, List.mem_cons_self, rfl⟩⟩
  | standardAgain again => simp [again]
  | file other => simp [isStandard, other]
  | directory other leads exact =>
    simp only [other, false_and, iff_false]
    intro h
    obtain ⟨input, hinput, hstandard⟩ := h
    obtain ⟨names, hnames, rfl⟩ := List.mem_map.mp hinput
    have hne := ne_standardPath_of_known ((exact names).mp hnames).known
    exact hne (by simpa [isStandard] using hstandard)

/-- The standard input is among the inputs if its path is among the paths. -/
lemma Collects.exists_standard_iff {earlier paths : List String} {inputs : List Input}
    (h : Collects w.files language globs earlier paths inputs) :
    (∃ input ∈ inputs, input.isStandard = true) ↔
      standardPath ∈ paths ∧ standardPath ∉ earlier := by
  induction h with
  | nil => simp
  | @cons earlier path paths inputs rest head tail ih =>
    have hsplit : (∃ input ∈ inputs ++ rest, input.isStandard = true) ↔
        (∃ input ∈ inputs, input.isStandard = true) ∨ ∃ input ∈ rest, input.isStandard = true := by
      simp only [List.mem_append, or_and_right, exists_or]
    rw [hsplit, head.exists_standard_iff, ih, List.mem_cons, List.mem_append, List.mem_singleton]
    by_cases hpath : path = standardPath
    · simp [hpath]
    · simp [hpath, Ne.symm hpath]

end Input

open Input

/-! ## One input -/

/-- What becomes of an input that does not make the analysis fail: a blank file is passed over, and
a text that is not blank is analyzed. -/
inductive Examined (w : World) (analyzer : Analyzer) (input : Input) : Option FileReport → Prop
  | skipped {text : String} (file : input.isStandard = false) (has : input.HasText w text)
      (blank : isBlankText text = true) : Examined w analyzer input none
  | analyzed {text : String} (has : input.HasText w text) (code : isBlankText text = false) :
      Examined w analyzer input (some ⟨input.path, Language.display input.language,
        analyzer.analyze text input.language⟩)

/-- An input makes the analysis fail: it holds no text, or it is the standard input and blank. -/
inductive Fails (w : World) (input : Input) : Failure → Prop
  | notText (bad : input.NotText w) : Fails w input
      (if input.isStandard then .unreadableInput else .unreadable input.path .notText)
  | blank {text : String} (standard : input.isStandard = true) (has : input.HasText w text)
      (blank : isBlankText text = true) : Fails w input (.blank ⟨.code⟩)

variable {w : World} {analyzer : Analyzer} {input : Input}

/-- An input of which something has become does not make the analysis fail. -/
lemma Examined.not_fails {found : Option FileReport} (h : Examined w analyzer input found)
    (failure : Failure) : ¬ Fails w input failure := by
  intro hfails
  cases hfails with
  | notText bad =>
    cases h with
    | skipped _ has => exact has.not_notText bad
    | analyzed has => exact has.not_notText bad
  | blank standard has' blank =>
    cases h with
    | skipped file => simp [file] at standard
    | analyzed has code =>
      obtain rfl := has.unique has'
      simp [code] at blank

/-- It depends on the input alone what becomes of it. -/
lemma Examined.unique {found found' : Option FileReport} (h : Examined w analyzer input found)
    (h' : Examined w analyzer input found') : found = found' := by
  -- An input has one text, and that is either blank or not.
  cases h with
  | skipped _ has blank =>
    cases h' with
    | skipped => rfl
    | analyzed has' code =>
      obtain rfl := has.unique has'
      simp [blank] at code
  | analyzed has code =>
    cases h' with
    | skipped _ has' blank =>
      obtain rfl := has.unique has'
      simp [blank] at code
    | analyzed has' =>
      obtain rfl := has.unique has'
      rfl

/-- What is read is what a file holds. -/
lemma FileSystem.find_of_read {fs : FileSystem} {path text : String}
    (h : fs.read path = .ok text) :
    ∃ content, fs.find path = .ok (.file content) ∧ String.fromUTF8? content = some text := by
  rw [read] at h
  obtain ⟨t, hfind, h⟩ := bind_eq_ok.mp h
  split at h
  · cases h
  · next content =>
    split at h
    · next text' htext =>
      cases h
      exact ⟨content, hfind, htext⟩
    · cases h

namespace Run

lemma readInput_of_hasText {text : String} (h : input.HasText w text) :
    readInput w input = .ok text := by
  obtain ⟨content, hbytes, htext⟩ := h
  rw [readInput]
  cases hstandard : input.isStandard with
  | true =>
    obtain rfl := Option.some.inj ((bytes?_standard hstandard).symm.trans hbytes)
    rw [if_pos rfl, htext]
  | false =>
    rw [if_neg Bool.false_ne_true, FileSystem.read, find_of_bytes? hstandard hbytes]
    simp [bind, Except.bind, htext, Except.mapError]

lemma readInput_of_notText (h : input.NotText w) : readInput w input =
    .error (if input.isStandard then .unreadableInput else .unreadable input.path .notText) := by
  obtain ⟨content, hbytes, htext⟩ := h
  rw [readInput]
  cases hstandard : input.isStandard with
  | true =>
    obtain rfl := Option.some.inj ((bytes?_standard hstandard).symm.trans hbytes)
    rw [if_pos rfl, if_pos rfl, htext]
  | false =>
    rw [if_neg Bool.false_ne_true, if_neg Bool.false_ne_true, FileSystem.read,
      find_of_bytes? hstandard hbytes]
    simp [bind, Except.bind, htext, Except.mapError]

/-- What is read is what the input holds. -/
lemma hasText_of_readInput {text : String} (h : readInput w input = .ok text) :
    input.HasText w text := by
  rw [readInput] at h
  rw [HasText]
  cases hstandard : input.isStandard with
  | true =>
    rw [hstandard, if_pos rfl] at h
    split at h
    · next htext =>
      cases h
      exact ⟨w.input, bytes?_standard hstandard, htext⟩
    · cases h
  | false =>
    rw [hstandard, if_neg Bool.false_ne_true] at h
    cases hread : w.files.read input.path with
    | error reason =>
      rw [hread] at h
      cases h
    | ok text' =>
      rw [hread] at h
      obtain rfl : text' = text := Except.ok.inj h
      obtain ⟨content, hfind, htext⟩ := FileSystem.find_of_read hread
      exact ⟨content, bytes?_file (by simpa [isStandard] using hstandard) hfind, htext⟩

/-- An input that stands for bytes is examined, or makes the analysis fail. -/
lemma analyzeInput_cases (assistant : Assistant) {content : ByteArray}
    (h : input.bytes? w = some content) :
    (∃ found, Examined w assistant.analyzer input found ∧
      (analyzeInput w assistant input).2 = .ok found) ∨
    ∃ failure, Fails w input failure ∧ (analyzeInput w assistant input).2 = .error failure := by
  rw [analyzeInput]
  obtain ⟨text, htext⟩ | hbad := hasText_or_notText h
  · rw [readInput_of_hasText htext]
    simp only [Assistant.analyze]
    cases hblank : isBlankText text with
    | false => exact .inl ⟨_, .analyzed htext hblank, rfl⟩
    | true =>
      cases hstandard : input.isStandard with
      | true => exact .inr ⟨_, .blank hstandard htext hblank, rfl⟩
      | false => exact .inl ⟨_, .skipped hstandard htext hblank, rfl⟩
  · rw [readInput_of_notText hbad]
    exact .inr ⟨_, .notText hbad, rfl⟩

/-- What comes of an input has been examined, whatever the files are. -/
lemma examined_of_analyzeInput {assistant : Assistant} {found : Option FileReport}
    (h : (analyzeInput w assistant input).2 = .ok found) :
    Examined w assistant.analyzer input found := by
  cases hread : readInput w input with
  | error reason =>
    rw [analyzeInput, hread] at h
    cases h
  | ok text =>
    obtain ⟨content, hbytes, -⟩ := hasText_of_readInput hread
    obtain ⟨found', hexamined, hfound⟩ | ⟨failure, -, hfailure⟩ :=
      analyzeInput_cases assistant hbytes
    · obtain rfl := Except.ok.inj (hfound.symm.trans h)
      exact hexamined
    · cases hfailure.symm.trans h

/-! ## All inputs -/

variable {inputs : List Input} {assistant : Assistant}

/-- If no input fails, each is examined. -/
lemma mapM_analyzeInput_eq_ok {found : List (Option FileReport)}
    (h : inputs.mapM (fun input => (analyzeInput w assistant input).2) = .ok found) :
    List.Forall₂ (Examined w assistant.analyzer) inputs found :=
  (mapM_eq_ok.mp h).imp fun _ _ => examined_of_analyzeInput

/-- If some input fails, the first of them counts. -/
lemma mapM_analyzeInput_eq_error
    (hbytes : ∀ input ∈ inputs, ∃ content, input.bytes? w = some content) {failure : Failure}
    (h : inputs.mapM (fun input => (analyzeInput w assistant input).2) = .error failure) :
    ∃ front input back, inputs = front ++ input :: back ∧
      (∀ j ∈ front, ∀ f, ¬ Fails w j f) ∧ Fails w input failure := by
  obtain ⟨front, input, back, rfl, hfront, hinput⟩ := mapM_eq_error.mp h
  refine ⟨front, input, back, rfl, ?_, ?_⟩
  -- Those in front of the first failure have been analyzed, so none of them fails.
  · intro j hj f hfails
    obtain ⟨content, hcontent⟩ := hbytes j (by simp [hj])
    obtain ⟨found, hfound⟩ := hfront j hj
    obtain ⟨found', hexamined, -⟩ | ⟨failure', -, hfailure⟩ := analyzeInput_cases assistant hcontent
    · exact hexamined.not_fails f hfails
    · cases hfailure.symm.trans hfound
  · obtain ⟨content, hcontent⟩ := hbytes input (by simp)
    obtain ⟨found, -, hfound⟩ | ⟨failure', hfails, hfailure⟩ :=
      analyzeInput_cases assistant hcontent
    · cases hfound.symm.trans hinput
    · obtain rfl := Except.error.inj (hfailure.symm.trans hinput)
      exact hfails

/-- The analysis of all inputs gives the reports of those that have one. -/
lemma analyzeInputs_yields (w : World) (assistant : Assistant) (inputs : List Input) :
    Yields (analyzeInputs w assistant inputs)
      ((inputs.mapM fun input => (analyzeInput w assistant input).2).map (·.filterMap id)) := by
  have htell : Yields ((inputs.map (analyzeInput w assistant)).forM fun result =>
      result.1.forM tell) (.ok ()) := by
    induction inputs with
    | nil => exact yields_pure ()
    | cons input inputs ih => exact (yields_forM_tell _).bind_ok ih
  rw [analyzeInputs]
  refine htell.bind_ok ?_
  have hmap : (inputs.map (analyzeInput w assistant)).mapM (·.2) =
      inputs.mapM fun input => (analyzeInput w assistant input).2 := List.mapM_map
  rw [hmap]
  cases hresult : inputs.mapM fun input => (analyzeInput w assistant input).2 with
  | ok found => exact (yields_attempt_ok rfl).bind_ok (yields_pure _)
  | error failure => exact (yields_attempt_error rfl).bind_error

end Run

end SnippetLint
