import SnippetLint.Proofs.JsonText
import SnippetLint.Proofs.Variation
import SnippetLint.Report.Json

/-!
# Reports are found again in their text

A report that is printed as JSON can be read back, and nothing of it is lost. Reading does not mind
in which order members stand, nor that there are others beside them.
-/

namespace SnippetLint

open Json

/-! ## What is read where -/

/-- What is read from a defect. -/
def Defect.shape : Shape := .record [("rule", .single), ("line", .single), ("type", .single),
  ("message", .single), ("suggestion", .single), ("consequence", .single)]

/-- What is read from the members of an analysis. -/
def Analysis.fields : List (String × Shape) := [("hasErrors", .single),
  ("errors", .list Defect.shape), ("summary", .single), ("codeQuality", .single),
  ("suggestions", .list .single)]

/-- What is read from a file of a report: the members of the analysis stand beside the others. -/
def ReportEntry.shape : Shape := .record ([("path", .single), ("language", .single),
  ("quality_band", .single)] ++ Analysis.fields)

/-- What is read from a report. -/
def Report.shape : Shape := .record [("version", .single), ("min_quality", .single),
  ("passed", .single), ("files_analyzed", .single), ("total_issues", .single),
  ("files", .list ReportEntry.shape)]

/-! ## Reading does not mind variations -/

/-- A defect is read alike from all variations of a value. -/
lemma Defect.stable_ofJson : Stable Defect.shape Defect.ofJson := by
  refine stable_of_record (fun _ => rfl) fun h => ?_
  refine (h.required "rule" (by decide) stable_string).bind_eq fun _ => ?_
  refine (h.required "line" (by decide) stable_word).bind_eq fun _ => ?_
  refine (h.required "type" (by decide) (stable_name _ _)).bind_eq fun _ => ?_
  refine (h.required "message" (by decide) stable_string).bind_eq fun _ => ?_
  refine (h.required "suggestion" (by decide) stable_string).bind_eq fun _ => ?_
  refine (h.required "consequence" (by decide) stable_string).bind_eq fun _ => ?_
  exact .refl _

/-- An analysis is read alike from fields that vary; it stands beside the other fields of an entry.
-/
lemma Analysis.ofFields_agree {fields fields' : Fields}
    (h : FieldsVary ReportEntry.shape fields fields') :
    Agree Eq (Analysis.ofFields fields) (Analysis.ofFields fields') := by
  refine (h.required "hasErrors" (by decide) stable_bool).bind_eq fun _ => ?_
  refine (h.required "errors" (by decide) (stable_list Defect.stable_ofJson)).bind_eq fun _ => ?_
  refine (h.required "summary" (by decide) stable_string).bind_eq fun _ => ?_
  refine (h.required "codeQuality" (by decide) stable_byte).bind_eq fun _ => ?_
  refine (h.required "suggestions" (by decide) (stable_list stable_string)).bind_eq fun _ => ?_
  exact .refl _

/-- An entry is read alike from all variations of a value. -/
lemma ReportEntry.stable_ofJson : Stable ReportEntry.shape ReportEntry.ofJson := by
  refine stable_of_objectFields (fun _ => rfl) (fun h => ?_) fun _ _ => .error _ _
  refine (h.required "path" (by decide) stable_string).bind_eq fun _ => ?_
  refine (h.required "language" (by decide) stable_string).bind_eq fun _ => ?_
  refine (h.required "quality_band" (by decide) (stable_name _ _)).bind_eq fun _ => ?_
  exact (Analysis.ofFields_agree h).bind_eq fun _ => .refl _

/-- A report is read alike from all variations of a value. -/
lemma Report.stable_ofJson : Stable Report.shape Report.ofJson := by
  refine stable_of_record (fun _ => rfl) fun h => ?_
  refine (h.required "version" (by decide) stable_string).bind_eq fun _ => ?_
  refine (h.required "min_quality" (by decide) stable_byte).bind_eq fun _ => ?_
  refine (h.required "passed" (by decide) stable_bool).bind_eq fun _ => ?_
  refine (h.required "files_analyzed" (by decide) stable_word).bind_eq fun _ => ?_
  refine (h.required "total_issues" (by decide) stable_word).bind_eq fun _ => ?_
  exact (h.required "files" (by decide) (stable_list ReportEntry.stable_ofJson)).bind_eq
    fun _ => .refl _

/-! ## What is written is read -/

namespace Json

/-- Members with different names are fields, whatever names are known. -/
lemma objectFields_of_nodup {members : List (String × Json)} (h : (members.map (·.1)).Nodup)
    (names : List String) : objectFields names members = .ok fun name => members.lookup name := by
  have hnone : (names.find? fun name => 1 < members.countP (·.1 == name)) = none := by
    rw [List.find?_eq_none]
    intro name _
    have hcount := List.nodup_iff_count.mp h name
    rw [List.count, List.countP_map] at hcount
    exact decide_eq_true_iff.not.mpr (Nat.not_lt.mpr hcount)
  rw [objectFields, hnone]

/-- Members that have just the known names, each once, are fields. -/
lemma objectFields_of_names {names : List String} {members : List (String × Json)}
    (hnames : members.map (·.1) = names) (h : names.Nodup) :
    objectFields names members = .ok fun name => members.lookup name :=
  objectFields_of_nodup (hnames ▸ h) names

lemma record_of_names {names : List String} {members : List (String × Json)}
    (hnames : members.map (·.1) = names) (h : names.Nodup) :
    record names (.object members) = .ok fun name => members.lookup name :=
  objectFields_of_names hnames h

/-- A byte is read as it is written. -/
lemma asByte_toNat (n : UInt8) : asByte (.nat n.toNat) = .ok n := by
  rw [asByte, asNatBelow, if_pos n.toNat_lt_size]
  simp [Except.map]

/-- A number that fits into a word is read as one. -/
lemma asWord_of_lt {n : Nat} (h : n < UInt64.size) : asWord (.nat n) = .ok n := by
  rw [asWord, asNatBelow, if_pos h]

/-- A list is read if each item is. -/
lemma asList_map {α : Type} {encode : α → Json} {decode : Json → Decoded α} {as : List α}
    (h : ∀ a ∈ as, decode (encode a) = .ok a) :
    asList decode (.array (as.map encode)) = .ok as := by
  rw [asList, mapM_eq_ok, List.forall₂_map_left_iff, List.forall₂_same]
  exact h

end Json

/-- A severity is read by the name that is written for it. -/
lemma Severity.ofJson_toJson (s : Severity) : Severity.ofJson s.toJson = .ok s := by
  cases s <;> rfl

lemma QualityBand.ofJson_toJson (b : QualityBand) : QualityBand.ofJson b.toJson = .ok b := by
  cases b <;> rfl

/-- A defect is read as it is written if its line fits into a word. -/
lemma Defect.ofJson_toJson {d : Defect} (h : d.line < UInt64.size) :
    Defect.ofJson d.toJson = .ok d := by
  refine bind_eq_ok.mpr ⟨_, record_of_names rfl (by decide), ?_⟩
  refine bind_eq_ok.mpr ⟨d.rule, rfl, ?_⟩
  refine bind_eq_ok.mpr ⟨d.line, asWord_of_lt h, ?_⟩
  refine bind_eq_ok.mpr ⟨d.severity, d.severity.ofJson_toJson, ?_⟩
  refine bind_eq_ok.mpr ⟨d.message, rfl, ?_⟩
  refine bind_eq_ok.mpr ⟨d.suggestion, rfl, ?_⟩
  exact bind_eq_ok.mpr ⟨d.consequence, rfl, rfl⟩

/-- The numbers of an analysis fit into words. -/
def Analysis.Fits (a : Analysis) : Prop := ∀ d ∈ a.errors, d.line < UInt64.size

/-- An entry is read as it is written if its lines fit into words. -/
lemma ReportEntry.ofJson_toJson {e : ReportEntry} (h : e.result.Fits) :
    ReportEntry.ofJson e.toJson = .ok e := by
  refine bind_eq_ok.mpr ⟨_, objectFields_of_names rfl (by decide), ?_⟩
  refine bind_eq_ok.mpr ⟨e.path, rfl, ?_⟩
  refine bind_eq_ok.mpr ⟨e.language, rfl, ?_⟩
  refine bind_eq_ok.mpr ⟨e.band, e.band.ofJson_toJson, ?_⟩
  refine bind_eq_ok.mpr ⟨e.result, ?_, rfl⟩
  refine bind_eq_ok.mpr ⟨e.result.hasErrors, rfl, ?_⟩
  refine bind_eq_ok.mpr ⟨e.result.errors, asList_map fun d hd => Defect.ofJson_toJson (h d hd), ?_⟩
  refine bind_eq_ok.mpr ⟨e.result.summary, rfl, ?_⟩
  refine bind_eq_ok.mpr ⟨e.result.codeQuality, asByte_toNat _, ?_⟩
  exact bind_eq_ok.mpr ⟨e.result.suggestions, asList_map fun _ _ => rfl, rfl⟩

/-- The numbers of a report fit into words. -/
structure Report.Fits (r : Report) : Prop where
  filesAnalyzed : r.filesAnalyzed < UInt64.size
  totalIssues : r.totalIssues < UInt64.size
  files : ∀ e ∈ r.files, e.result.Fits

/-- A report is read as it is written if its numbers fit into words. -/
lemma Report.ofJson_toJson {r : Report} (h : r.Fits) : Report.ofJson r.toJson = .ok r := by
  refine bind_eq_ok.mpr ⟨_, record_of_names rfl (by decide), ?_⟩
  refine bind_eq_ok.mpr ⟨r.version, rfl, ?_⟩
  refine bind_eq_ok.mpr ⟨r.minQuality, asByte_toNat _, ?_⟩
  refine bind_eq_ok.mpr ⟨r.passed, rfl, ?_⟩
  refine bind_eq_ok.mpr ⟨r.filesAnalyzed, asWord_of_lt h.filesAnalyzed, ?_⟩
  refine bind_eq_ok.mpr ⟨r.totalIssues, asWord_of_lt h.totalIssues, ?_⟩
  exact bind_eq_ok.mpr
    ⟨r.files, asList_map fun e he => ReportEntry.ofJson_toJson (h.files e he), rfl⟩

/-! ## Reports as texts -/

lemma plain_array_map {α : Type} {encode : α → Json} {as : List α}
    (h : ∀ a ∈ as, (encode a).Plain) : (Json.array (as.map encode)).Plain :=
  .array (by simpa using h)

lemma Defect.plain_toJson (d : Defect) : d.toJson.Plain := by
  refine .object ?_
  simp [Severity.toJson, Plain.string, Plain.nat]

lemma ReportEntry.plain_toJson (e : ReportEntry) : e.toJson.Plain := by
  have herrors := plain_array_map fun d (_ : d ∈ e.result.errors) => d.plain_toJson
  have hsuggestions := plain_array_map fun s (_ : s ∈ e.result.suggestions) => Plain.string s
  refine .object ?_
  simp [Analysis.members, QualityBand.toJson, Plain.string, Plain.nat, Plain.bool, herrors,
    hsuggestions]

/-- A report is written with texts, truth values and natural numbers, so its text can be read. -/
lemma Report.plain_toJson (r : Report) : r.toJson.Plain := by
  have hfiles := plain_array_map fun e (_ : e ∈ r.files) => e.plain_toJson
  refine .object ?_
  simp [Plain.string, Plain.nat, Plain.bool, hfiles]

/-- The lines of all defects fit into words, and so do the numbers of files and of defects. This is
no restriction for what a machine with words of 64 bits can hold. -/
structure FitsWords (files : List FileReport) : Prop where
  lines : ∀ f ∈ files, ∀ d ∈ f.result.errors, d.line < UInt64.size
  count : files.length < UInt64.size
  issues : (files.flatMap (·.result.errors)).length < UInt64.size

/-- The report on files that fit into words does so itself. -/
lemma FitsWords.fits_ofFiles {files : List FileReport} (h : FitsWords files) (minQuality : UInt8) :
    (Report.ofFiles files minQuality).Fits where
  filesAnalyzed := h.count
  totalIssues := h.issues
  files := List.forall_mem_map.mpr h.lines

/-- A report is found again in the text that is printed for it. Other orders of the members, and
members that are not known, make no difference to any value that is read as a report. -/
theorem jsonText_lossless {files : List FileReport} (h : FitsWords files) (minQuality : UInt8) :
    (Json.parse? (Report.ofFiles files minQuality).jsonText).map Report.ofJson =
        some (.ok (Report.ofFiles files minQuality)) ∧
      ∀ j j', Varies Report.shape j j' →
        ∀ r, Report.ofJson j' = .ok r ↔ Report.ofJson j = .ok r := by
  refine ⟨?_, fun j j' hvaries => (Report.stable_ofJson hvaries).eq_ok_iff⟩
  rw [Report.jsonText, parse?_pretty (Report.plain_toJson _), Option.map_some,
    Report.ofJson_toJson (h.fits_ofFiles minQuality)]

/-- The report of a file with the greatest line, and with texts that are hard to write. -/
def oddFile : FileReport where
  path := "a \"b\"\\.py"
  language := "text"
  result :=
    { hasErrors := true
      errors := [⟨"", 18446744073709551615, .info, "\x00\x1f\n", "é\u2028😀", "\\u0041"⟩]
      summary := ""
      codeQuality := 255
      suggestions := ["\t", "/"] }

/-- The report of that file with its members backwards. Beside the analysis stands a member that is
only known in a defect. -/
def oddVariation : Json := .object [
  ("files", .array [.object (("line", .null) :: ([("path", .string oddFile.path),
    ("language", .string oddFile.language), ("quality_band", oddFile.result.band.toJson)] ++
      oddFile.result.members))]),
  ("total_issues", .nat 1), ("files_analyzed", .nat 1), ("passed", .bool true),
  ("min_quality", .nat 70), ("version", .string programVersion)]

/-- A file with quotes, control characters and characters outside ASCII, and a variation of its
report. -/
theorem jsonText_lossless_odd :
    FitsWords [oddFile] ∧
    (Json.parse? (Report.ofFiles [oddFile] 70).jsonText).map Report.ofJson =
        some (.ok (Report.ofFiles [oddFile] 70)) ∧
    Varies Report.shape (Report.ofFiles [oddFile] 70).toJson oddVariation ∧
    ∀ r, Report.ofJson oddVariation = .ok r ↔
      Report.ofJson (Report.ofFiles [oddFile] 70).toJson = .ok r := by
  have hfits : FitsWords [oddFile] := ⟨by decide, by decide, by decide⟩
  have hvaries : Varies Report.shape (Report.ofFiles [oddFile] 70).toJson oddVariation := by
    refine .trans (.member ?_ [_, _, _, _, _] []) (.permute _ (List.reverse_perm _).symm)
    refine .item [] ?_ []
    exact .extend (by decide) _ _
  obtain ⟨hread, hsame⟩ := jsonText_lossless hfits 70
  exact ⟨hfits, hread, hvaries, hsame _ _ hvaries⟩

end SnippetLint
