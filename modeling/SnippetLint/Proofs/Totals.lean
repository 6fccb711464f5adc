import SnippetLint.Proofs.Listing

/-!
# The verdict and the totals of a report

Whether the quality is good enough is worked out three times: for the report that programs read,
for the status that ends the report for readers, and for the exit code. All three come down to the
number of files that are not good enough (`Report.below`), which is zero or not. The totals of a
report are counts of that kind too, so for two lists of files they add up.
-/

namespace SnippetLint

namespace Report

variable (files files' : List FileReport) (m : UInt8)

/-- The number of files in a report that do not have the quality that is asked for. -/
def below (r : Report) : Nat := r.files.countP fun e => e.result.codeQuality < r.minQuality

/-- The entries of a report that are too low are those of the files that do not pass. -/
lemma below_ofFiles : (ofFiles files m).below = files.countP fun file => !file.passes m := by
  show (files.map entry).countP _ = _
  rw [List.countP_map]
  refine List.countP_congr fun file _ => ?_
  rw [Function.comp, decide_eq_true_eq, FileReport.passes, Bool.not_eq_true',
    decide_eq_false_iff_not, UInt8.not_le]
  rfl

/-- A report is passed if no file in it is too low. -/
lemma passed_iff_below : (ofFiles files m).passed = true ↔ (ofFiles files m).below = 0 := by
  rw [passed_iff, below_ofFiles, List.countP_eq_zero]
  simp only [FileReport.passes, Bool.not_eq_true', decide_eq_false_iff_not, not_not]

/-! ## The status -/

/-- The status of a report for readers. -/
def status (r : Report) : Piece :=
  if r.below = 0 then styled .green "PASSED"
  else styled .red ("FAILED (" ++ decimal r.below ++ " below minimum)")

/-- The status stands at the end, behind the number of files. -/
lemma pretty_eq : ∃ front, pretty files m = front ++
    [plain ("  Files: " ++ decimal (ofFiles files m).filesAnalyzed ++ "  "),
      (ofFiles files m).status, lineEnd, lineEnd] := by
  -- The command counts the files that do not pass, the status the entries of the report.
  have hstatus : prettyStatus files m =
      [plain "  ", styled .dimmed ("Minimum quality: " ++ decimal m.toNat)] ++
        [plain ("  Files: " ++ decimal (ofFiles files m).filesAnalyzed ++ "  "),
          (ofFiles files m).status, lineEnd] := by
    rw [prettyStatus, status, below_ofFiles]
    rfl
  rw [pretty, hstatus, ← List.append_assoc, List.append_assoc _ _ [lineEnd]]
  exact ⟨_, rfl⟩

lemma text_status_of_below {r : Report} (h : r.below ≠ 0) :
    r.status.text = "FAILED (" ++ decimal r.below ++ " below minimum)" := by
  rw [status, if_neg h]
  rfl

/-- Only a report in which no file is too low says that it is passed. -/
lemma text_status_eq_passed_iff {r : Report} : r.status.text = "PASSED" ↔ r.below = 0 := by
  by_cases h : r.below = 0
  · simp [status, h, styled]
  · simp only [text_status_of_below h, h, iff_false]
    -- The two texts differ in their first letter.
    intro htext
    have hlist := congrArg String.toList htext
    simp at hlist

/-! ## Totals -/

lemma totalIssues_append : (ofFiles (files ++ files') m).totalIssues =
    (ofFiles files m).totalIssues + (ofFiles files' m).totalIssues := by
  simp only [totalIssues_eq, List.map_append, List.sum_append]

lemma below_append : (ofFiles (files ++ files') m).below =
    (ofFiles files m).below + (ofFiles files' m).below := by
  simp only [below_ofFiles, List.countP_append]

/-- A report that is passed is passed with any smaller minimum. -/
lemma passed_of_le {m m' : UInt8} (hle : m ≤ m') (h : (ofFiles files m').passed = true) :
    (ofFiles files m).passed = true := by
  rw [passed_iff] at h ⊢
  exact fun file hfile => UInt8.le_trans hle (h file hfile)

end Report

/-! ## The exit code -/

/-- What an analysis prints is the report of its inputs, if there are any, and its exit code says
whether the report is passed. -/
inductive Reported (w : World) (a : AnalyzeArguments) (o : Outcome) : Prop
  | nothing {config : Config} {rules : Catalogue} (ready : Ready w a config rules [])
      (output : o.output = []) (code : o.exitCode = 0)
  | report {config : Config} {rules : Catalogue} {inputs : List Input}
      {found : List (Option FileReport)} (ready : Ready w a config rules inputs)
      (nonempty : inputs ≠ [])
      (examined : List.Forall₂ (Examined w ⟨rules, config.scoring⟩) inputs found)
      (output : o.output =
        Run.formatReport a.format (found.filterMap id) (effectiveMinimum a config))
      (code : o.exitCode =
        if (Report.ofFiles (found.filterMap id) (effectiveMinimum a config)).passed then 0 else 1)

/-- An analysis that does not fail prints its report. -/
lemma Invocation.run_reported {w : World} {i : Invocation} {a : AnalyzeArguments}
    (hcommand : i.command = .analyze a) (hcode : (i.run w).exitCode ≠ 2) :
    Reported w a (i.run w) := by
  obtain ⟨text, answer, hanswer, hexit, hprinted⟩ | ⟨failure, -, hfailed, -⟩ := run_answer i w
  · rw [hcommand] at hanswer
    obtain ⟨config, rules, inputs, hready, hverdict⟩ := Run.ready_of_answer hanswer
    obtain ⟨rfl, houtput, hpassed⟩ | ⟨hnonempty, found, hexamined, houtput, hpassed⟩ :=
      Run.output_of_verdict hverdict
    · refine .nothing hready (hprinted.trans houtput) ?_
      rw [hexit, hpassed, if_pos rfl]
    · refine .report hready hnonempty hexamined (hprinted.trans houtput) ?_
      rw [hexit, hpassed]
      rfl
  · exact absurd hfailed hcode

namespace Report

/-- The report for programs, the status for readers and the exit code agree whether the quality is
good enough, and how many files are not. The totals are those of the files: they add up for two
lists, for which both have to be passed. A higher minimum can only make things worse. -/
theorem totals_agree (files files' : List FileReport) (m : UInt8) :
    ((ofFiles files m).passed = true ↔ ∀ file ∈ files, m ≤ file.result.codeQuality) ∧
    (∃ front status, pretty files m = front ++
        [plain ("  Files: " ++ decimal files.length ++ "  "), status, lineEnd, lineEnd] ∧
      (status.text = "PASSED" ↔ (ofFiles files m).passed = true) ∧
      ((ofFiles files m).passed = false → status.text = "FAILED (" ++
        decimal ((ofFiles files m).files.countP fun e => e.result.codeQuality < m) ++
        " below minimum)")) ∧
    (ofFiles files m).filesAnalyzed = files.length ∧
    (ofFiles files m).files.length = files.length ∧
    (ofFiles files m).totalIssues = (files.map fun file => file.result.errors.length).sum ∧
    (ofFiles (files ++ files') m).files = (ofFiles files m).files ++ (ofFiles files' m).files ∧
    (ofFiles (files ++ files') m).totalIssues =
      (ofFiles files m).totalIssues + (ofFiles files' m).totalIssues ∧
    (ofFiles (files ++ files') m).below = (ofFiles files m).below + (ofFiles files' m).below ∧
    (ofFiles (files ++ files') m).passed =
      ((ofFiles files m).passed && (ofFiles files' m).passed) ∧
    (∀ m', m ≤ m' → (ofFiles files m').passed = true → (ofFiles files m).passed = true) ∧
    ∀ (w : World) (i : Invocation) (a : AnalyzeArguments), i.command = .analyze a →
      (i.run w).exitCode ≠ 2 → Reported w a (i.run w) := by
  refine ⟨passed_iff files m, ?_, rfl, List.length_map _, totalIssues_eq files m,
    List.map_append, totalIssues_append files files' m, below_append files files' m,
    List.all_append, fun m' => passed_of_le files, fun w i a => Invocation.run_reported⟩
  obtain ⟨front, hfront⟩ := pretty_eq files m
  refine ⟨front, (ofFiles files m).status, hfront, ?_, fun hfailed => ?_⟩
  · rw [text_status_eq_passed_iff, passed_iff_below]
  · have hbelow : (ofFiles files m).below ≠ 0 := by
      rw [Ne, ← passed_iff_below, hfailed]
      exact Bool.false_ne_true
    exact text_status_of_below hbelow

/-- A file with one defect. -/
def debugged : FileReport := ⟨"a.py", "python", Analyzer.builtin.analyze "print(1)" "PY"⟩

/-- The quality of the file is enough for its own value and for nothing above it. -/
theorem totals_agree_boundary :
    let w : World := ⟨Run.configuredFiles, none, .empty⟩
    let a : AnalyzeArguments :=
      { paths := ["a.py"], config := some "lint.yaml", minQuality := some 76 }
    (ofFiles [debugged] 75).passed = true ∧
    (∃ front status, pretty [debugged] 76 = front ++
        [plain ("  Files: " ++ decimal 1 ++ "  "), status, lineEnd, lineEnd] ∧
      status.text = "FAILED (" ++ decimal 1 ++ " below minimum)") ∧
    (Invocation.run ⟨0, .analyze a⟩ w).exitCode = 1 ∧
    Reported w a (Invocation.run ⟨0, .analyze a⟩ w) := by
  intro w a
  have hquality : debugged.result.codeQuality = 75 := by decide +kernel
  obtain ⟨hpassed, -⟩ := totals_agree [debugged] [] 75
  obtain ⟨hpassed', ⟨front, status, hfront, -, hfailed⟩, -, -, -, -, -, -, -, -, hrun⟩ :=
    totals_agree [debugged] [] 76
  have hnot : (ofFiles [debugged] 76).passed = false := by
    rw [← Bool.not_eq_true, hpassed']
    simp [hquality]
  have hbelow : ((ofFiles [debugged] 76).files.countP fun e => e.result.codeQuality < 76) = 1 := by
    decide +kernel
  rw [hbelow] at hfailed
  have hcode : (Invocation.run ⟨0, .analyze a⟩ w).exitCode = 1 := by decide +kernel
  have hanswers : (Invocation.run ⟨0, .analyze a⟩ w).exitCode ≠ 2 := by
    rw [hcode]
    decide
  exact ⟨hpassed.mpr (by simp [hquality]), ⟨front, status, hfront, hfailed hnot⟩, hcode,
    hrun w _ a rfl hanswers⟩

end Report

end SnippetLint
