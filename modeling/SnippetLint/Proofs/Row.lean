import SnippetLint.Proofs.Detection
import SnippetLint.Proofs.ReportText

/-!
# The rows of the list of rules

A row shows a rule in four columns (`Row.Shows`): its identifier, the severity of its defects, what
is known of their line, and their message. A row that says on which line the defects are can only be
that of a rule which always reports this line (`Row.Of.shows_line_iff`), so it is right about every
defect that the rule reports (`Row.Of.announces`).
-/

namespace SnippetLint

/-- Different numbers are written differently. -/
lemma decimal_injective {n m : Nat} (h : decimal n = decimal m) : n = m := by
  have hdigits : Text.decimal n = Text.decimal m := String.ofList_injective h
  rw [← Json.digitsValue_decimal n, hdigits, Json.digitsValue_decimal]

namespace Row

/-! ## Columns -/

/-- A cell of a row: a text that is filled up with blanks to the width of its column, and one blank
more. -/
def cell (width : Nat) (s : String) : String :=
  s ++ .ofList (List.replicate (width - s.length + 1) ' ')

/-- What a row says about the gravity of defects. -/
def severityText : Severity → String
  | .error => "error"
  | .warning => "warning"
  | .info => "info"

/-- A row shows an identifier, a severity, something about a line, and a message. -/
def Shows (row id : String) (severity : Severity) (line message : String) : Prop :=
  row = "  " ++ cell 20 id ++ cell 8 (severityText severity) ++ cell 12 line ++ message

/-- A cell is a filled column and the blank that separates it from the next one. -/
lemma padded_append_blank (width : Nat) (s : String) : padded width s ++ " " = cell width s := by
  apply String.toList_injective
  simp [padded_eq, cell, List.replicate_succ']

/-- A number in a cell ends where the blanks begin. -/
lemma takeWhile_cell_line (n : Nat) (rest : String) :
    ((cell 12 ("line " ++ decimal n) ++ rest).toList.drop 5).takeWhile Char.isDigit =
      Text.decimal n := by
  have hcell : (cell 12 ("line " ++ decimal n) ++ rest).toList.drop 5 = Text.decimal n ++ ' ' ::
      (List.replicate (12 - ("line " ++ decimal n).length) ' ' ++ rest.toList) := by
    simp [cell, decimal, List.replicate_succ]
  rw [hcell, List.takeWhile_append_of_pos (Json.isDigit_of_mem_decimal n),
    List.takeWhile_cons_of_neg (by decide), List.append_nil]

variable {row id message : String} {severity : Severity}

/-- A row says one thing about the line at most. -/
lemma Shows.line_unique {n m : Nat} (h : Shows row id severity ("line " ++ decimal n) message)
    (h' : Shows row id severity ("line " ++ decimal m) message) : n = m := by
  have hcells := h.symm.trans h'
  simp only [String.append_assoc, String.append_right_inj] at hcells
  have hdigits := takeWhile_cell_line n message
  rw [hcells, takeWhile_cell_line, ← String.ofList_inj] at hdigits
  exact (decimal_injective hdigits).symm

/-- A row that says that the first match counts does not say on which line it is. -/
lemma Shows.not_line (h : Shows row id severity "first match" message) (n : Nat) :
    ¬ Shows row id severity ("line " ++ decimal n) message := by
  intro h'
  have hcells := h.symm.trans h'
  simp only [String.append_assoc, String.append_right_inj] at hcells
  -- The two cells differ in their first letter.
  have hlist := congrArg String.toList hcells
  simp [cell] at hlist

/-! ## Rules -/

/-- A row is that of a rule: it shows the identifier, the severity and the message of the rule, and
the line that the rule reports if that is always the same. -/
inductive Of (r : Rule) (row : String) : Prop
  | fixed {n : Nat} (line : r.line = .fixed n)
      (shows : Shows row r.id r.severity ("line " ++ decimal n) r.message)
  | firstMatch (line : r.line = .firstMatch)
      (shows : Shows row r.id r.severity "first match" r.message)

lemma shows_ruleRow (r : Rule) :
    Shows (Run.ruleRow r) r.id r.severity (Run.lineText r.line) r.message := by
  have hseverity : r.severity.name = severityText r.severity := by cases r.severity <;> rfl
  rw [Shows, Run.ruleRow, hseverity, ← padded_append_blank, ← padded_append_blank,
    ← padded_append_blank]
  simp only [String.append_assoc]

/-- What is listed for a rule is a row of the rule. -/
lemma of_ruleRow (r : Rule) : Of r (Run.ruleRow r) := by
  have hshows := shows_ruleRow r
  cases hline : r.line with
  | fixed n =>
    rw [hline] at hshows
    exact .fixed hline hshows
  | firstMatch =>
    rw [hline] at hshows
    exact .firstMatch hline hshows

lemma forall₂_of_map (rules : List Rule) : List.Forall₂ Of rules (rules.map Run.ruleRow) :=
  List.forall₂_map_right_iff.mpr (List.forall₂_same.mpr fun r _ => of_ruleRow r)

/-- A row says which line a rule reports only if that is always the same. -/
lemma Of.shows_line_iff {r : Rule} {row : String} (h : Of r row) (n : Nat) :
    Shows row r.id r.severity ("line " ++ decimal n) r.message ↔ r.line = .fixed n := by
  cases h with
  | @fixed m line shows =>
    rw [line, RuleLine.fixed.injEq]
    constructor
    · exact fun h => shows.line_unique h
    · rintro rfl
      exact shows
  | firstMatch line shows =>
    rw [line]
    exact iff_of_false (shows.not_line n) (by simp)

/-! ## Defects -/

/-- A row announces a defect: it shows the rule, the severity and the message of the defect, and if
it says on which line that is, then the defect is on this line. -/
structure Announces (row : String) (d : Defect) : Prop where
  shows : Shows row d.rule d.severity ("line " ++ decimal d.line) d.message ∨
    Shows row d.rule d.severity "first match" d.message
  line : ∀ n, Shows row d.rule d.severity ("line " ++ decimal n) d.message → d.line = n

/-- A row of a rule announces whatever the rule has to say. -/
lemma Of.announces {r : Rule} {row code : String} {l : Language} {d : Defect} (h : Of r row)
    (htells : r.Tells code l d) : Announces row d := by
  have hline : ∀ n, r.line = .fixed n → d.line = n := by
    intro n hn
    obtain ⟨_, -, hline⟩ := Option.map_eq_some_iff.mp htells.line
    rw [hn] at hline
    exact hline.symm
  constructor
  · rw [htells.id, htells.severity, htells.message]
    cases h with
    | fixed line shows => exact .inl (hline _ line ▸ shows)
    | firstMatch line shows => exact .inr shows
  · intro n hn
    rw [htells.id, htells.severity, htells.message] at hn
    exact hline n ((h.shows_line_iff n).mp hn)

end Row

end SnippetLint
