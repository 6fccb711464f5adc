import Mathlib.Algebra.BigOperators.Group.List.Basic
import Mathlib.Algebra.GroupWithZero.Nat
import Mathlib.Data.List.Induction
import SnippetLint.Proofs.Layering

/-!
# What a catalogue detects, however it came about

A catalogue comes about by adding one rule after another, now for this language and now for that
(`Catalogue.push_induction`). What a language gets in this way does not show what was added for
others in between (`rulesFor_pushAll`), and everything else about a catalogue follows from the rules
of its languages:

* the number of its rules is the sum over all languages (`Catalogue.size_eq_sum`);
* a text gets one defect from each rule of its language that fires, in the order of the rules, and no
  other (`Catalogue.detect_forall₂`). What a defect says about its rule is `Rule.Tells`.

So one more rule makes itself felt in one place at most, behind all defects that its language had.
-/

namespace SnippetLint

/-- What is found in a list is found at those members where there is something to find, one after
another. -/
lemma forall₂_filterMap {α β : Type} (f : α → Option β) (as : List α) :
    List.Forall₂ (fun a b => f a = some b) (as.filter fun a => (f a).isSome) (as.filterMap f) := by
  induction as with
  | nil => exact .nil
  | cons a as ih =>
    cases ha : f a with
    | none =>
      have hskip : ¬ (f a).isSome = true := by simp [ha]
      rw [List.filter_cons, if_neg hskip, List.filterMap_cons_none ha]
      exact ih
    | some b =>
      have hkeep : (f a).isSome = true := by simp [ha]
      rw [List.filter_cons, if_pos hkeep, List.filterMap_cons_some ha]
      exact .cons ha ih

/-! ## One rule -/

namespace Rule

variable {r : Rule} {code : String} {l : Language} {d : Defect}

/-- What a rule looks for is in a text. -/
def fires (r : Rule) (code : String) : Bool := (r.matcher.firstMatch? code.toList).isSome

/-- A defect is what a rule has to say about a text: it has the name, the severity and the wording of
the rule, the line that the rule comes to, and what is explained about such wording in a language. -/
structure Tells (r : Rule) (code : String) (l : Language) (d : Defect) : Prop where
  id : d.rule = r.id
  line : r.evaluate code = some d.line
  severity : d.severity = r.severity
  message : d.message = r.message
  suggestion : d.suggestion = (Category.classify r.message).suggestion (some l)
  consequence : d.consequence = (Category.classify r.message).consequence

/-- A rule says one thing about a text, and that is the defect it reports. -/
lemma tells_iff : r.Tells code l d ↔ r.defect? code l = some d := by
  rw [defect?, Option.map_eq_some_iff]
  constructor
  · intro h
    obtain ⟨rule, line, severity, message, suggestion, consequence⟩ := d
    obtain ⟨rfl, hline, rfl, rfl, rfl, rfl⟩ := h
    exact ⟨line, hline, rfl⟩
  · intro h
    obtain ⟨line, hline, rfl⟩ := h
    exact ⟨rfl, hline, rfl, rfl, rfl, rfl⟩

/-- A rule has a defect to report exactly if it fires. -/
lemma isSome_defect? (r : Rule) (code : String) (l : Language) :
    (r.defect? code l).isSome = r.fires code := by
  rw [defect?, evaluate, Option.isSome_map, Option.isSome_map, fires]

end Rule

namespace Catalogue

variable {c : Catalogue} {code name : String} {l : Language}

/-! ## Rules added one after another -/

/-- Every catalogue comes about by adding one rule after another. -/
@[elab_as_elim]
lemma push_induction {motive : Catalogue → Prop} (empty : motive empty)
    (push : ∀ c l r, motive c → motive (push c l r)) (c : Catalogue) : motive c := by
  obtain ⟨entries⟩ := c
  induction entries using List.reverseRecOn with
  | nil => exact empty
  | append_singleton entries entry ih => exact push ⟨entries⟩ entry.1 entry.2 ih

lemma pushAll_concat (c : Catalogue) (entries : List (Language × Rule)) (l : Language) (r : Rule) :
    c.pushAll (entries ++ [(l, r)]) = (c.pushAll entries).push l r :=
  List.foldl_concat _ _ _ _

/-- Every catalogue comes from rules added one after another. -/
lemma exists_eq_pushAll (c : Catalogue) : ∃ entries, c = empty.pushAll entries := by
  induction c using push_induction with
  | empty => exact ⟨[], rfl⟩
  | push c l r ih =>
    obtain ⟨entries, rfl⟩ := ih
    exact ⟨entries ++ [(l, r)], (pushAll_concat _ _ _ _).symm⟩

/-- Each addition makes a catalogue larger by one, also if the rule is there already. -/
lemma size_pushAll (c : Catalogue) (entries : List (Language × Rule)) :
    (c.pushAll entries).size = c.size + entries.length := by
  induction entries using List.reverseRecOn with
  | nil => rfl
  | append_singleton entries entry ih =>
    rw [pushAll_concat, size_push, ih, List.length_append, List.length_singleton, Nat.add_assoc]

lemma length_rulesFor_push (c : Catalogue) (l m : Language) (r : Rule) :
    ((c.push l r).rulesFor m).length = (c.rulesFor m).length + if m = l then 1 else 0 := by
  by_cases h : l = m
  · rw [h, rulesFor_push_self, List.length_append, List.length_singleton, if_pos rfl]
  · rw [rulesFor_push_of_ne c h, if_neg (Ne.symm h), Nat.add_zero]

/-- The rules of a catalogue are those of all languages together. -/
lemma size_eq_sum (c : Catalogue) :
    c.size = (Language.all.map fun l => (c.rulesFor l).length).sum := by
  induction c using push_induction with
  | empty => rfl
  | push c l r ih =>
    -- Each language is listed once, so the rule counts once.
    have hone : (Language.all.map fun m => if m = l then 1 else 0).sum = 1 := by
      cases l <;> rfl
    simp only [length_rulesFor_push]
    rw [size_push, ih, List.sum_map_add, hone]

lemma isEmpty_iff_size (c : Catalogue) : c.isEmpty = true ↔ c.size = 0 := beq_iff_eq

/-- There is a rule as soon as one was added. -/
lemma isEmpty_pushAll (c : Catalogue) (entries : List (Language × Rule)) :
    (c.pushAll entries).isEmpty = true ↔ c.isEmpty = true ∧ entries = [] := by
  rw [isEmpty_iff_size, isEmpty_iff_size, size_pushAll, Nat.add_eq_zero_iff,
    List.length_eq_zero_iff]

/-- There is no rule at all if no language has one. -/
lemma isEmpty_iff (c : Catalogue) : c.isEmpty = true ↔ ∀ l, c.rulesFor l = [] := by
  induction c using push_induction with
  | empty => exact iff_of_true rfl fun _ => rfl
  | push c l r _ =>
    -- Neither side holds of a catalogue that has just got a rule.
    refine iff_of_false (fun h => ?_) fun h => ?_
    · rw [isEmpty_iff_size, size_push] at h
      cases h
    · have hlast := rulesFor_push_self c l r
      rw [h l] at hlast
      exact List.append_ne_nil_of_right_ne_nil _ (List.cons_ne_nil r []) hlast.symm

/-! ## What is detected -/

/-- A text gets one defect from each rule of its language that fires. -/
lemma detect_forall₂ (hname : Language.parse? name = some l) (c : Catalogue) (code : String) :
    List.Forall₂ (fun r d => r.Tells code l d) ((c.rulesFor l).filter (·.fires code))
      (c.detect code name) := by
  rw [detect_eq hname]
  simp only [Rule.tells_iff, ← Rule.isSome_defect? _ code l]
  exact forall₂_filterMap _ _

lemma detect_push_self (hname : Language.parse? name = some l) (c : Catalogue) (r : Rule)
    (code : String) :
    (c.push l r).detect code name = c.detect code name ++ (r.defect? code l).toList := by
  rw [detect_eq hname, detect_eq hname, rulesFor_push_self, List.filterMap_append]
  cases h : r.defect? code l <;> simp [h]

lemma detect_push_of_ne (hname : Language.parse? name ≠ some l) (c : Catalogue) (r : Rule)
    (code : String) : (c.push l r).detect code name = c.detect code name := by
  cases hother : Language.parse? name with
  | none => rw [detect_eq_nil hother, detect_eq_nil hother]
  | some m =>
    -- The text names another language, whose rules are as they were.
    have hne : l ≠ m := fun h => hname (h ▸ hother)
    rw [detect_eq hother, detect_eq hother, rulesFor_push_of_ne c hne]

/-- A rule that fires is heard behind the others. -/
lemma exists_detect_push_eq (hname : Language.parse? name = some l) (c : Catalogue) {r : Rule}
    (hfires : r.fires code = true) :
    ∃ d, r.Tells code l d ∧ (c.push l r).detect code name = c.detect code name ++ [d] := by
  rw [← r.isSome_defect? code l] at hfires
  obtain ⟨d, hd⟩ := Option.isSome_iff_exists.mp hfires
  refine ⟨d, Rule.tells_iff.mpr hd, ?_⟩
  rw [detect_push_self hname, hd, Option.toList_some]

/-- A rule that does not fire is not heard. -/
lemma detect_push_of_silent (hname : Language.parse? name = some l) (c : Catalogue) {r : Rule}
    (hfires : r.fires code = false) : (c.push l r).detect code name = c.detect code name := by
  rw [← r.isSome_defect? code l, Option.isSome_eq_false_iff, Option.isNone_iff_eq_none] at hfires
  rw [detect_push_self hname, hfires, Option.toList_none, List.append_nil]

/-- A run of additions gives each language the rules that were added for it, in their order and
behind those that it had, and the number of rules grows by one with each. Whatever the run was, a
text gets one defect from each rule of its language that fires, in the order of the rules, and a
text of an unknown language gets none. So one more rule leaves the defects of the other languages as
they are, and puts one defect at most behind those of its own. -/
theorem pushAll_exact :
    (∀ c : Catalogue, ∃ added, c = empty.pushAll added) ∧
    (∀ (start : Catalogue) (added : List (Language × Rule)),
      (∀ l, (start.pushAll added).rulesFor l =
        start.rulesFor l ++ (added.filter (·.1 == l)).map (·.2)) ∧
      (start.pushAll added).size = start.size + added.length ∧
      ((start.pushAll added).isEmpty = true ↔ start.isEmpty = true ∧ added = []) ∧
      ∀ added', (∀ l, added'.filter (·.1 == l) = added.filter (·.1 == l)) → ∀ code name,
        (start.pushAll added').detect code name = (start.pushAll added).detect code name) ∧
    empty.isEmpty = true ∧ builtin.isEmpty = false ∧
    (∀ c : Catalogue, c.size = (Language.all.map fun l => (c.rulesFor l).length).sum ∧
      (c.isEmpty = true ↔ ∀ l, c.rulesFor l = [])) ∧
    (∀ (c : Catalogue) (code name : String),
      (∀ l, Language.parse? name = some l →
        List.Forall₂ (fun r d => r.Tells code l d) ((c.rulesFor l).filter (·.fires code))
          (c.detect code name)) ∧
      (Language.parse? name = none → c.detect code name = [])) ∧
    ∀ (c : Catalogue) (k : Language) (r : Rule) (code name : String),
      (Language.parse? name ≠ some k →
        (c.push k r).detect code name = c.detect code name) ∧
      (Language.parse? name = some k →
        (r.fires code = true → ∃ d, r.Tells code k d ∧
          (c.push k r).detect code name = c.detect code name ++ [d]) ∧
        (r.fires code = false → (c.push k r).detect code name = c.detect code name)) := by
  refine ⟨exists_eq_pushAll, fun start added => ⟨rulesFor_pushAll start added,
    size_pushAll start added, isEmpty_pushAll start added, fun added' hsame code name => ?_⟩,
    rfl, rfl, fun c => ⟨size_eq_sum c, isEmpty_iff c⟩, fun c code name => ⟨fun l hname => ?_,
    fun hname => detect_eq_nil hname c code⟩, fun c k r code name => ⟨fun hname => ?_,
    fun hname => ⟨fun hfires => ?_, fun hfires => ?_⟩⟩⟩
  · -- Only what was added for each language counts, and that is the same in both runs.
    refine detect_congr (fun l => ?_) code name
    rw [rulesFor_pushAll, rulesFor_pushAll, hsame]
  · exact detect_forall₂ hname c code
  · exact detect_push_of_ne hname c r code
  · exact exists_detect_push_eq hname c hfires
  · exact detect_push_of_silent hname c hfires

/-- A rule that reports the first line with a marker. -/
def markerRule : Rule where
  id := "marker"
  message := "Marker left in the code"
  severity := .warning
  line := .firstMatch
  matcher := .pattern (Pattern.Regex.text "TODO")

/-- The same rule is added twice for Python, and in between for another language. -/
def markedTwice : List (Language × Rule) :=
  [(.python, markerRule), (.css, markerRule), (.python, markerRule)]

/-- A rule that is there twice reports twice. -/
theorem pushAll_exact_twice :
    Language.parse? "\u2003Py" = some .python ∧ Language.parse? "Klingon" = none ∧
    (∀ l, [(.css, markerRule), (.python, markerRule), (.python, markerRule)].filter (·.1 == l) =
      markedTwice.filter (·.1 == l)) ∧
    (∀ code name, (builtin.pushAll
      [(.css, markerRule), (.python, markerRule), (.python, markerRule)]).detect code name =
        (builtin.pushAll markedTwice).detect code name) ∧
    List.Forall₂ (fun r d => r.Tells "print(1)\n# TODO" .python d)
      (((builtin.pushAll markedTwice).rulesFor .python).filter (·.fires "print(1)\n# TODO"))
      ((builtin.pushAll markedTwice).detect "print(1)\n# TODO" "\u2003Py") ∧
    (builtin.pushAll markedTwice).detect "print(1)\n# TODO" "Klingon" = [] ∧
    (builtin.push .css markerRule).detect "print(1)\n# TODO" "\u2003Py" =
      builtin.detect "print(1)\n# TODO" "\u2003Py" ∧
    markerRule.fires "print(1)\n# TODO" = true ∧
    (∃ d, markerRule.Tells "print(1)\n# TODO" .python d ∧
      (builtin.push .python markerRule).detect "print(1)\n# TODO" "\u2003Py" =
        builtin.detect "print(1)\n# TODO" "\u2003Py" ++ [d]) ∧
    markerRule.fires "print(1)" = false ∧
    (builtin.push .python markerRule).detect "print(1)" "\u2003Py" =
      builtin.detect "print(1)" "\u2003Py" := by
  obtain ⟨-, hrun, -, -, -, hdetect, hpush⟩ := pushAll_exact
  have hname : Language.parse? "\u2003Py" = some .python := by decide +kernel
  have hunknown : Language.parse? "Klingon" = none := by decide +kernel
  have hother : Language.parse? "\u2003Py" ≠ some .css := by decide +kernel
  have hsame : ∀ l, [(.css, markerRule), (.python, markerRule),
      (.python, markerRule)].filter (·.1 == l) = markedTwice.filter (·.1 == l) := by
    intro l
    cases l <;> rfl
  have hfires : markerRule.fires "print(1)\n# TODO" = true := by decide +kernel
  have hsilent : markerRule.fires "print(1)" = false := by decide +kernel
  obtain ⟨-, -, -, hreordered⟩ := hrun builtin markedTwice
  obtain ⟨hone, hnone⟩ := hdetect (builtin.pushAll markedTwice) "print(1)\n# TODO" "\u2003Py"
  exact ⟨hname, hunknown, hsame, hreordered _ hsame, hone _ hname, (hdetect _ _ _).2 hunknown,
    (hpush _ _ _ _ _).1 hother, hfires, ((hpush _ _ _ _ _).2 hname).1 hfires, hsilent,
    ((hpush _ _ _ _ _).2 hname).2 hsilent⟩

end Catalogue

end SnippetLint
