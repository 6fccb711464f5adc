import SnippetLint.Analysis
import SnippetLint.Proofs.Score
import SnippetLint.Proofs.UnclosedTag

/-!
# A snippet within a larger text

A defect of a snippet stays one when the snippet stands within a larger text, with any text in
front of it and further lines after it. What stands in front is only a matter of where a match
starts. For what follows there are two arguments:

* a pattern that asks for nothing but ends of lines has the same matches, since the snippet ends
  at the end of a line (`Matches.carry`);
* an opening tag has its `>` within the snippet, and the rest of its line does not change
  (`UnclosedAt.append_lineFeed`). Another tag may begin before the snippet and end within it, but
  `unclosedTag_least` says that none is lost for that reason.
-/

namespace SnippetLint

open Text Cursor Pattern Builtin

/-! ## Matches within a larger text -/

namespace Pattern

/-- An expression that asks for ends of lines at most. -/
def Regex.asksLineEnds {α : Type} : Regex α → Bool
  | .empty => true
  | .set _ _ => true
  | .look a => a == .lineEnd false
  | .cat r s => r.asksLineEnds && s.asksLineEnds
  | .alt r s => r.asksLineEnds && s.asksLineEnds
  | .plus r _ => r.asksLineEnds

/-- What follows `cur`, and then another line, follows `cur'`. -/
def CarriedBy (after : List Char) (cur cur' : Cursor) : Prop :=
  cur'.rest = cur.rest ++ '\n' :: after

/-- The end of the text becomes the end of a line. -/
lemma CarriedBy.lineEnd {after : List Char} {cur cur' : Cursor} (h : CarriedBy after cur cur')
    (hend : (Assertion.lineEnd false).holds cur = true) :
    (Assertion.lineEnd false).holds cur' = true := by
  rw [lineEnd_holds_iff] at hend ⊢
  rw [h, firstLine_append_lineFeed, hend]

/-- A match is found again wherever its text is followed by another line. -/
lemma Matches.carry {α : Type} {r : Regex α} {cur stop : Cursor} (h : Matches r cur stop)
    (hasks : r.asksLineEnds = true) {after : List Char} {cur' : Cursor}
    (hcur : CarriedBy after cur cur') :
    ∃ stop', Matches r cur' stop' ∧ CarriedBy after stop stop' := by
  -- Along the match: the same characters are read, and an end of a line stays one.
  induction h generalizing cur' with
  | empty cur => exact ⟨cur', .empty cur', hcur⟩
  | set hrest hc =>
    have hrest' := hcur
    rw [CarriedBy, hrest, List.cons_append] at hrest'
    exact ⟨_, .set hrest' hc, rfl⟩
  | look ha =>
    obtain rfl := eq_of_beq hasks
    exact ⟨cur', .look (hcur.lineEnd ha), hcur⟩
  | cat _ _ ihr ihs =>
    obtain ⟨hr, hs⟩ := Bool.and_eq_true_iff.mp hasks
    obtain ⟨mid', hfirst, hmid⟩ := ihr hr hcur
    obtain ⟨stop', hsecond, hstop⟩ := ihs hs hmid
    exact ⟨stop', .cat hfirst hsecond, hstop⟩
  | altLeft _ ih =>
    obtain ⟨stop', hmatch, hstop⟩ := ih (Bool.and_eq_true_iff.mp hasks).1 hcur
    exact ⟨stop', .altLeft hmatch, hstop⟩
  | altRight _ ih =>
    obtain ⟨stop', hmatch, hstop⟩ := ih (Bool.and_eq_true_iff.mp hasks).2 hcur
    exact ⟨stop', .altRight hmatch, hstop⟩
  | plusLast _ ih =>
    obtain ⟨stop', hmatch, hstop⟩ := ih hasks hcur
    exact ⟨stop', .plusLast hmatch, hstop⟩
  | plusMore _ _ ihturn ihloop =>
    obtain ⟨mid', hturn, hmid⟩ := ihturn hasks hcur
    obtain ⟨stop', hloop, hstop⟩ := ihloop hasks hmid
    exact ⟨stop', .plusMore hturn hloop, hstop⟩

end Pattern

/-! ## Tags within a larger text -/

/-- A `>` that is there already is the first one of a longer text. -/
lemma afterTag_append_of_mem {s : List Char} (hs : '>' ∈ s) (t : List Char) :
    afterTag (s ++ t) = afterTag s ++ t := by
  obtain ⟨u, v, rfl, hu⟩ := List.eq_append_cons_of_mem hs
  rw [List.append_assoc, afterTag_append hu, afterTag_append hu, List.cons_append, afterTag_cons,
    afterTag_cons]

/-- A tag without a closing tag on its line does not get one on the lines that follow. -/
lemma UnclosedAt.append_lineFeed {opens closes : List Char → Prop} {s : List Char}
    (h : UnclosedAt opens closes s) {after : List Char} (hopens : opens (s ++ '\n' :: after)) :
    UnclosedAt opens closes (s ++ '\n' :: after) := by
  refine ⟨hopens, List.mem_append_left _ h.ends, ?_⟩
  rw [afterTag_append_of_mem h.ends, firstLine_append_lineFeed]
  exact h.unclosed

lemma OpensDiv.append {s : List Char} (h : OpensDiv s) (t : List Char) : OpensDiv (s ++ t) :=
  h.trans (List.prefix_append s t)

/-- A tag that is opened at the front of a text is opened in front of whatever follows. -/
lemma OpensTag.append {s : List Char} (h : OpensTag s) (t : List Char) : OpensTag (s ++ t) := by
  obtain ⟨c, rest, rfl, hc⟩ := h
  exact ⟨c, rest ++ t, rfl, hc⟩

/-! ## Rules that go on reporting -/

/-- What a matcher finds in a text it goes on finding within any larger one. -/
def Matcher.Persists (m : Matcher) : Prop :=
  ∀ before text after : List Char, (m.firstMatch? text).isSome →
    (m.firstMatch? (before ++ (text ++ '\n' :: after))).isSome

/-- A pattern that asks for ends of lines at most goes on matching. -/
lemma persists_pattern {p : PlainRegex} (hasks : p.asksLineEnds = true) :
    (Matcher.pattern p).Persists := by
  intro before text after h
  obtain ⟨cur, hcur, stop, hstop⟩ := (find?_isFirst p text).isSome_iff.mp h
  obtain ⟨u, v, rfl, rfl⟩ := mem_places.mp hcur
  have hcarried : CarriedBy after (between u v) (between (before ++ u) (v ++ '\n' :: after)) := by
    rw [CarriedBy, rest_between, rest_between]
  obtain ⟨stop', hstop', -⟩ := hstop.carry hasks hcarried
  refine (find?_isFirst p _).isSome_iff.mpr ⟨_, mem_places.mpr ⟨_, _, ?_, rfl⟩, stop', hstop'⟩
  simp only [List.append_assoc]

/-- A matcher that finds the least offset of a kind of text persists if these texts stay of their
kind when a line is put after them. -/
lemma persists_of_least {m : Matcher} {P : List Char → Prop}
    (hleast : ∀ text, IsLeastOffset ((m.firstMatch? text).map (·.offset)) (offsetsWhere P text))
    (hP : ∀ s after, P s → P (s ++ '\n' :: after)) : m.Persists := by
  intro before text after h
  rw [← Option.isSome_map, (hleast text).isSome_iff] at h
  rw [← Option.isSome_map, (hleast _).isSome_iff]
  obtain ⟨_, u, v, rfl, rfl, hv⟩ := h
  refine ⟨_, before ++ u, v ++ '\n' :: after, ?_, rfl, hP v after hv⟩
  simp only [List.append_assoc]

lemma persists_unclosedDiv : (Matcher.unclosedTag openDiv closeDiv).Persists :=
  persists_of_least unclosedDiv_least fun _ _ hs => hs.append_lineFeed (hs.opens.append _)

lemma persists_unclosedTag : (Matcher.unclosedTag openTag closeTag).Persists :=
  persists_of_least unclosedAny_least fun _ _ hs => hs.append_lineFeed (hs.opens.append _)

/-- A rule that goes on reporting the same defect. -/
structure Rule.Persistent (r : Rule) : Prop where
  persists : r.matcher.Persists
  fixed : ∃ line, r.line = .fixed line

lemma persistent_rule (id message : String) (line : Nat) {m : Matcher} (h : m.Persists) :
    (rule id message line m).Persistent :=
  ⟨h, line, rfl⟩

/-- Every rule of the catalogue goes on reporting. -/
lemma persistent_of_mem_rules {entry : Language × Rule} (h : entry ∈ Builtin.rules) :
    entry.2.Persistent := by
  revert entry
  simp only [Builtin.rules, List.forall_mem_cons, List.not_mem_nil, false_implies, implies_true,
    and_true]
  have hpattern : ∀ {id message : String} {line : Nat} {p : PlainRegex}, p.asksLineEnds = true →
      (rule id message line (.pattern p)).Persistent :=
    fun hasks => persistent_rule _ _ _ (persists_pattern hasks)
  -- One line for each language, in the order of the catalogue.
  exact ⟨hpattern rfl, hpattern rfl, hpattern rfl,
    hpattern rfl, hpattern rfl,
    hpattern rfl, hpattern rfl,
    hpattern rfl, hpattern rfl,
    hpattern rfl, hpattern rfl,
    persistent_rule _ _ _ persists_unclosedDiv, persistent_rule _ _ _ persists_unclosedTag,
    hpattern rfl, hpattern rfl⟩

/-- The defect of such a rule is the same in the larger text, line and all, since its line is a
fixed one. -/
lemma Rule.Persistent.defect?_eq {r : Rule} (h : r.Persistent) (t a b : String)
    (language : Language) :
    r.defect? t language = none ∨
      r.defect? t language = r.defect? (a ++ t ++ "\n" ++ b) language := by
  obtain ⟨line, hline⟩ := h.fixed
  have hlarger : (a ++ t ++ "\n" ++ b).toList = a.toList ++ (t.toList ++ '\n' :: b.toList) := by
    simp [String.toList_append]
  cases hfound : r.matcher.firstMatch? t.toList with
  | none =>
    left
    simp [defect?, evaluate, hfound]
  | some place =>
    right
    have hpersists := h.persists a.toList t.toList b.toList (by rw [hfound]; rfl)
    rw [← hlarger] at hpersists
    obtain ⟨place', hfound'⟩ := Option.isSome_iff_exists.mp hpersists
    -- The line is fixed, so it does not matter where either match starts.
    simp only [defect?, evaluate, hfound, hfound', hline, Option.map_some]

/-! ## Whole analyses -/

/-- Results that are found in both of two ways come in the same order. -/
lemma filterMap_sublist_filterMap {α β : Type} {f g : α → Option β} {l : List α}
    (h : ∀ x ∈ l, f x = none ∨ f x = g x) : (l.filterMap f).Sublist (l.filterMap g) := by
  induction l with
  | nil => exact .slnil
  | cons x l ih =>
    have hrest := ih fun y hy => h y (List.mem_cons_of_mem x hy)
    rcases h x List.mem_cons_self with hx | hx
    · rw [List.filterMap_cons_none hx]
      exact hrest.trans ((List.sublist_cons_self x l).filterMap g)
    · rw [List.filterMap_cons, List.filterMap_cons, hx]
      cases g x with
      | none => exact hrest
      | some y => exact hrest.cons_cons y

/-- The defects of a snippet are among those of the larger text, in their order. -/
lemma detect_sublist (name t a b : String) :
    (Catalogue.builtin.detect t name).Sublist
      (Catalogue.builtin.detect (a ++ t ++ "\n" ++ b) name) := by
  unfold Catalogue.detect
  cases Language.parse? name with
  | none => exact .refl []
  | some language =>
    refine filterMap_sublist_filterMap fun r hr => ?_
    obtain ⟨entry, hentry, rfl⟩ := List.mem_map.mp hr
    exact (persistent_of_mem_rules (List.mem_filter.mp hentry).1).defect?_eq t a b language

/-- A text is not blank if part of it is not. -/
lemma isBlankText_of_embedded {t a b : String} (h : isBlankText (a ++ t ++ "\n" ++ b) = true) :
    isBlankText t = true := by
  simp only [isBlankText, Text.isBlankText, String.toList_append, List.all_append,
    Bool.and_eq_true] at h
  exact h.1.1.2

/-- Passing over blank code loses no defect of a snippet in a larger text, which is blank only if
the snippet is. -/
lemma defects_sublist (s : Scoring) (name t a b : String) :
    ((⟨.builtin, s⟩ : Analyzer).defects t name).Sublist
      ((⟨.builtin, s⟩ : Analyzer).defects (a ++ t ++ "\n" ++ b) name) := by
  unfold Analyzer.defects
  by_cases hblank : isBlankText t = true
  · rw [if_pos hblank]
    exact List.nil_sublist _
  · have hlarger : ¬ isBlankText (a ++ t ++ "\n" ++ b) = true :=
      fun h => hblank (isBlankText_of_embedded h)
    rw [if_neg hblank, if_neg hlarger]
    exact detect_sublist name t a b

/-- Within a larger text a snippet loses no defect of the built-in rules, and the larger text never
has a better score. -/
theorem analyze_embedded (name t a b : String) :
    (Catalogue.builtin.detect t name).Sublist
        (Catalogue.builtin.detect (a ++ t ++ "\n" ++ b) name) ∧
      ∀ s : Scoring,
        ((⟨.builtin, s⟩ : Analyzer).analyze t name).errors.Sublist
            ((⟨.builtin, s⟩ : Analyzer).analyze (a ++ t ++ "\n" ++ b) name).errors ∧
          (s.validate = .ok () →
            ((⟨.builtin, s⟩ : Analyzer).analyze (a ++ t ++ "\n" ++ b) name).codeQuality ≤
              ((⟨.builtin, s⟩ : Analyzer).analyze t name).codeQuality) := by
  refine ⟨detect_sublist name t a b, fun s => ⟨defects_sublist s name t a b, fun hvalid => ?_⟩⟩
  exact Scoring.score_antitone hvalid (defects_sublist s name t a b).length_le

/-- A tag that begins before the snippet swallows the one within it, which is reported all the
same. -/
theorem analyze_embedded_div :
    ({} : Scoring).validate = .ok () ∧
      (Analyzer.builtin.analyze ("<b " ++ "<div>" ++ "\n" ++ "</div>") "html").codeQuality ≤
        (Analyzer.builtin.analyze "<div>" "html").codeQuality :=
  ⟨rfl, ((analyze_embedded "html" "<div>" "<b " "</div>").2 {}).2 rfl⟩

end SnippetLint
