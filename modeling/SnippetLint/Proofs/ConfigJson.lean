import SnippetLint.Proofs.JsonEdits

/-!
# Configurations are found again in JSON

A configuration that is written as JSON can be read back. A member may be left out if it has its
default, at any level and together with any others, and of two members the value may be `null`
instead; a `null` anywhere else is refused. What has been read and is written again is read as the
same configuration.

For scoring parameters, for rules and for whole configurations it is first said what reading comes
down to (`ofJson_eq_ok_iff`), then what is read if members are edited as they may be
(`ofJson_edit`), and at last that nothing is read if a member is `null` that must not be.
-/

namespace SnippetLint

open Json

/-! ## Scoring parameters -/

namespace Scoring

/-- The members that have their defaults. -/
def DefaultAt (s : Scoring) : Place → Prop
  | [.key "clean_score"] => s.cleanScore = 100
  | [.key "baseline"] => s.baseline = 90
  | [.key "penalty"] => s.penalty = 15
  | _ => False

/-- Scoring parameters are read field by field, each with its default. -/
lemma ofJson_eq_ok_iff {j : Json} {s : Scoring} : ofJson j = .ok s ↔
    ∃ fields, j.record ["clean_score", "baseline", "penalty"] = .ok fields ∧
      fields.withDefault "clean_score" 100 asByte = .ok s.cleanScore ∧
      fields.withDefault "baseline" 90 asByte = .ok s.baseline ∧
      fields.withDefault "penalty" 15 asByte = .ok s.penalty := by
  unfold ofJson
  simp only [bind_eq_ok]
  constructor
  · intro h
    obtain ⟨fields, hfields, clean, hclean, baseline, hbaseline, penalty, hpenalty, hs⟩ := h
    cases hs
    exact ⟨fields, hfields, hclean, hbaseline, hpenalty⟩
  · intro h
    obtain ⟨fields, hfields, hclean, hbaseline, hpenalty⟩ := h
    exact ⟨fields, hfields, _, hclean, _, hbaseline, _, hpenalty, rfl⟩

/-- Scoring parameters are read without the members that have their defaults. -/
lemma ofJson_edit {s : Scoring} {e : Edits} (hdrop : ∀ p, e p = .drop → s.DefaultAt p)
    (hclear : ∀ p, e p ≠ .clear) : ofJson (s.toJson.edit e) = .ok s := by
  refine ofJson_eq_ok_iff.mpr ⟨_, record_edit (by simp) e _, ?_, ?_, ?_⟩
  · exact withDefault_editedFields rfl (hdrop _) (hclear _) fun _ => asByte_toNat _
  · exact withDefault_editedFields rfl (hdrop _) (hclear _) fun _ => asByte_toNat _
  · exact withDefault_editedFields rfl (hdrop _) (hclear _) fun _ => asByte_toNat _

/-- Scoring parameters are written with numbers, so their text can be read. -/
lemma plain_toJson (s : Scoring) : s.toJson.Plain := by
  refine .object ?_
  simp [Plain.nat]

/-- No scoring parameter may be `null`. -/
lemma ofJson_edit_ne_ok {s : Scoring} {e : Edits} {p : Place} (hp : s.toJson.HasMember p)
    (hclear : e p = .clear) (s' : Scoring) : ofJson (s.toJson.edit e) ≠ .ok s' := by
  intro h
  obtain ⟨fields, hfields, hclean, hbaseline, hpenalty⟩ := ofJson_eq_ok_iff.mp h
  obtain rfl := eq_editedFields (by simp) hfields
  cases hp with
  | here found =>
    have hmem := mem_of_lookup found
    simp only [List.mem_cons, Prod.mk.injEq, List.not_mem_nil, or_false] at hmem
    obtain ⟨rfl, rfl⟩ | ⟨rfl, rfl⟩ | ⟨rfl, rfl⟩ := hmem
    · exact withDefault_ne_ok found hclear nofun _ hclean
    · exact withDefault_ne_ok found hclear nofun _ hbaseline
    · exact withDefault_ne_ok found hclear nofun _ hpenalty
  | inside found inner =>
    have hmem := mem_of_lookup found
    simp only [List.mem_cons, Prod.mk.injEq, List.not_mem_nil, or_false] at hmem
    obtain ⟨rfl, rfl⟩ | ⟨rfl, rfl⟩ | ⟨rfl, rfl⟩ := hmem <;> cases inner

end Scoring

/-! ## Rules -/

namespace CustomRule

/-- The members that have their defaults. -/
def DefaultAt (r : CustomRule) : Place → Prop
  | [.key "severity"] => r.severity = .error
  | [.key "line"] => r.line = none
  | _ => False

/-- A rule without its line if that is edited to be `null`. -/
def cleared (r : CustomRule) (e : Edits) : CustomRule :=
  { r with line := if e [.key "line"] = .clear then none else r.line }

lemma ofJson_eq_ok_iff {j : Json} {r : CustomRule} : ofJson j = .ok r ↔
    ∃ fields, j.record ["id", "language", "pattern", "message", "severity", "line"] = .ok fields ∧
      fields.required "id" asString = .ok r.id ∧
      fields.required "language" asString = .ok r.language ∧
      fields.required "pattern" asString = .ok r.pattern ∧
      fields.required "message" asString = .ok r.message ∧
      fields.withDefault "severity" .error Severity.ofJson = .ok r.severity ∧
      fields.withDefault "line" none (asOption asWord) = .ok r.line := by
  unfold ofJson
  simp only [bind_eq_ok]
  constructor
  · intro h
    obtain ⟨fields, hfields, id, hid, language, hlanguage, pattern, hpattern, message, hmessage,
      severity, hseverity, line, hline, hr⟩ := h
    cases hr
    exact ⟨fields, hfields, hid, hlanguage, hpattern, hmessage, hseverity, hline⟩
  · intro h
    obtain ⟨fields, hfields, hid, hlanguage, hpattern, hmessage, hseverity, hline⟩ := h
    exact ⟨fields, hfields, _, hid, _, hlanguage, _, hpattern, _, hmessage, _, hseverity, _, hline,
      rfl⟩

/-- The line of a rule fits into a word. -/
def FitsWord (r : CustomRule) : Prop := ∀ n ∈ r.line, n < UInt64.size

/-- A line that has been read fits into a word. -/
lemma fitsWord_of_ofJson {j : Json} {r : CustomRule} (h : ofJson j = .ok r) : r.FitsWord := by
  intro n hn
  obtain ⟨fields, -, -, -, -, -, -, hline⟩ := ofJson_eq_ok_iff.mp h
  obtain hnone | ⟨value, hvalue⟩ := exists_of_withDefault hline
  · cases hnone.symm.trans hn
  · exact lt_of_asOption_asWord hvalue hn

lemma plain_toJson (r : CustomRule) : r.toJson.Plain := by
  have hline : (ofOption .nat r.line).Plain := plain_ofOption
  refine .object ?_
  simp [Severity.toJson, Plain.string, hline]

/-- A rule of which the line is not cleared stays as it is. -/
lemma cleared_eq_self {r : CustomRule} {e : Edits} (h : e [.key "line"] ≠ .clear) :
    r.cleared e = r := by
  rw [cleared, if_neg h]

/-- The line of a rule is read again whatever is edited inside of it, since a number has no members.
-/
lemma asOption_line {line : Option Nat} (h : ∀ n ∈ line, n < UInt64.size) (e : Edits) :
    asOption asWord ((ofOption .nat line).edit e) = .ok line := by
  cases line with
  | none => rfl
  | some n =>
    show (asWord (.nat n)).map some = _
    rw [asWord_of_lt (h n rfl)]
    rfl

/-- A rule is read without its severity or its line if these have their defaults. -/
lemma ofJson_edit {r : CustomRule} {e : Edits} (hfits : r.FitsWord)
    (hdrop : ∀ p, e p = .drop → r.DefaultAt p) (hclear : ∀ p, e p = .clear → p = [.key "line"]) :
    ofJson (r.toJson.edit e) = .ok (r.cleared e) := by
  -- What has no default cannot be left out, and it cannot be `null` either.
  have hkeep (name : String) (hdefault : ¬ r.DefaultAt [.key name]) (hname : name ≠ "line") :
      e [.key name] = .keep := by
    refine Edit.eq_keep (fun h => hdefault (hdrop _ h)) fun h => hname ?_
    simpa using hclear _ h
  have hseverity : e [.key "severity"] ≠ .clear := fun h => by simpa using hclear _ h
  refine ofJson_eq_ok_iff.mpr ⟨_, record_edit (by simp) e _, ?_, ?_, ?_, ?_, ?_, ?_⟩
  · exact required_editedFields rfl (hkeep "id" nofun (by decide)) rfl
  · exact required_editedFields rfl (hkeep "language" nofun (by decide)) rfl
  · exact required_editedFields rfl (hkeep "pattern" nofun (by decide)) rfl
  · exact required_editedFields rfl (hkeep "message" nofun (by decide)) rfl
  · exact withDefault_editedFields rfl (hdrop _) hseverity fun _ => Severity.ofJson_toJson _
  · exact withDefault_none_editedFields rfl (hdrop _) (asOption_line hfits _)

/-- Nothing in a rule but its line may be `null`. -/
lemma ofJson_edit_ne_ok {r : CustomRule} {e : Edits} {p : Place} (hp : r.toJson.HasMember p)
    (hclear : e p = .clear) (hline : p ≠ [.key "line"]) (r' : CustomRule) :
    ofJson (r.toJson.edit e) ≠ .ok r' := by
  intro h
  obtain ⟨fields, hfields, hid, hlanguage, hpattern, hmessage, hseverity, -⟩ :=
    ofJson_eq_ok_iff.mp h
  obtain rfl := eq_editedFields (by simp) hfields
  cases hp with
  | here found =>
    have hmem := mem_of_lookup found
    simp only [List.mem_cons, Prod.mk.injEq, List.not_mem_nil, or_false] at hmem
    obtain ⟨rfl, rfl⟩ | ⟨rfl, rfl⟩ | ⟨rfl, rfl⟩ | ⟨rfl, rfl⟩ | ⟨rfl, rfl⟩ | ⟨rfl, rfl⟩ := hmem
    · exact required_ne_ok found hclear nofun _ hid
    · exact required_ne_ok found hclear nofun _ hlanguage
    · exact required_ne_ok found hclear nofun _ hpattern
    · exact required_ne_ok found hclear nofun _ hmessage
    · exact withDefault_ne_ok found hclear nofun _ hseverity
    · exact hline rfl
  | inside found inner =>
    have hmem := mem_of_lookup found
    simp only [List.mem_cons, Prod.mk.injEq, List.not_mem_nil, or_false] at hmem
    obtain ⟨-, rfl⟩ | ⟨-, rfl⟩ | ⟨-, rfl⟩ | ⟨-, rfl⟩ | ⟨-, rfl⟩ | ⟨-, rfl⟩ := hmem
    · cases inner
    · cases inner
    · cases inner
    · cases inner
    · cases inner
    · exact not_hasMember_ofOption inner

end CustomRule

/-! ## Configurations -/

namespace Config

/-- The members that have their defaults. -/
def DefaultAt (c : Config) : Place → Prop
  | [.key "version"] => c.version = ""
  | [.key "scoring"] => c.scoring = {}
  | .key "scoring" :: place => c.scoring.DefaultAt place
  | [.key "min_quality"] => c.minQuality = none
  | [.key "excluded_paths"] => c.excludedPaths = []
  | [.key "rules"] => c.rules = []
  | .key "rules" :: .item i :: place => ∃ r, c.rules[i]? = some r ∧ r.DefaultAt place
  | _ => False

/-- The members whose value may be `null`: the minimum quality and the line of a rule. -/
def MayBeNull (p : Place) : Prop :=
  p = [.key "min_quality"] ∨ ∃ i, p = [.key "rules", .item i, .key "line"]

/-- A configuration without what is edited to be `null`. -/
def cleared (c : Config) (e : Edits) : Config :=
  { c with
    minQuality := if e [.key "min_quality"] = .clear then none else c.minQuality
    rules := c.rules.mapIdx fun i r => r.cleared ((e.within (.key "rules")).within (.item i)) }

/-- The lines of the rules fit into words. This is no restriction for what a machine with words of
64 bits can hold. -/
def FitsWords (c : Config) : Prop := ∀ r ∈ c.rules, r.FitsWord

lemma ofJson_eq_ok_iff {j : Json} {c : Config} : ofJson j = .ok c ↔
    ∃ fields,
      j.record ["version", "scoring", "min_quality", "excluded_paths", "rules"] = .ok fields ∧
      fields.withDefault "version" "" asString = .ok c.version ∧
      fields.withDefault "scoring" {} Scoring.ofJson = .ok c.scoring ∧
      fields.withDefault "min_quality" none (asOption asByte) = .ok c.minQuality ∧
      fields.withDefault "excluded_paths" [] (asList asString) = .ok c.excludedPaths ∧
      fields.withDefault "rules" [] (asList CustomRule.ofJson) = .ok c.rules := by
  unfold ofJson
  simp only [bind_eq_ok]
  constructor
  · intro h
    obtain ⟨fields, hfields, version, hversion, scoring, hscoring, minimum, hminimum, paths, hpaths,
      rules, hrules, hc⟩ := h
    cases hc
    exact ⟨fields, hfields, hversion, hscoring, hminimum, hpaths, hrules⟩
  · intro h
    obtain ⟨fields, hfields, hversion, hscoring, hminimum, hpaths, hrules⟩ := h
    exact ⟨fields, hfields, _, hversion, _, hscoring, _, hminimum, _, hpaths, _, hrules, rfl⟩

lemma asOption_minQuality (minimum : Option UInt8) (e : Edits) :
    asOption asByte ((ofOption (fun n => .nat n.toNat) minimum).edit e) = .ok minimum := by
  cases minimum with
  | none => rfl
  | some n =>
    show (asByte (.nat n.toNat)).map some = _
    rw [asByte_toNat]
    rfl

/-- Excluded paths are strings, so no edit reaches into them. -/
lemma asList_paths (paths : List String) (e : Edits) :
    asList asString ((array (paths.map .string)).edit e) = .ok paths := by
  refine asList_edit_eq_ok_iff.mpr ⟨rfl, fun i path path' hpath hpath' => ?_⟩
  obtain rfl := Option.some.inj (hpath.symm.trans hpath')
  rfl

section

variable {c : Config} {e : Edits}

/-- Of scoring parameters that are kept, only members with their defaults are left out. -/
lemma scoring_drop (hdrop : ∀ p, e p = .drop → c.DefaultAt p) (hkeep : e [.key "scoring"] = .keep)
    (p : Place) (h : e.within (.key "scoring") p = .drop) : c.scoring.DefaultAt p := by
  cases p with
  | nil => cases hkeep.symm.trans h  -- the place of the scoring parameters themselves
  | cons s p => exact hdrop _ h

lemma scoring_clear (hclear : ∀ p, e p = .clear → MayBeNull p) (p : Place) :
    e.within (.key "scoring") p ≠ .clear := by
  intro h
  obtain hplace | ⟨i, hplace⟩ := hclear _ h <;> simp at hplace

/-- The rules are read one by one. -/
lemma asList_rules (hfits : c.FitsWords) (hdrop : ∀ p, e p = .drop → c.DefaultAt p)
    (hclear : ∀ p, e p = .clear → MayBeNull p) :
    asList CustomRule.ofJson ((array (c.rules.map CustomRule.toJson)).edit
      (e.within (.key "rules"))) = .ok (c.cleared e).rules := by
  refine asList_edit_eq_ok_iff.mpr ⟨by simp [cleared], fun i r r' hr hr' => ?_⟩
  have hcleared : r' = r.cleared ((e.within (.key "rules")).within (.item i)) := by
    simpa [cleared, hr] using hr'.symm
  rw [hcleared]
  refine CustomRule.ofJson_edit (hfits r (List.mem_of_getElem? hr)) (fun p h => ?_) fun p h => ?_
  · obtain ⟨r₀, hr₀, hdefault⟩ := hdrop _ h
    rwa [← Option.some.inj (hr₀.symm.trans hr)]
  · obtain hplace | ⟨k, hplace⟩ := hclear _ h
    · simp at hplace
    · simp only [List.cons.injEq] at hplace
      exact hplace.2.2

/-- A configuration is read without the members that have their defaults, and without what may be
`null` and is. -/
lemma ofJson_edit (hfits : c.FitsWords)
    (hdrop : ∀ p, e p = .drop → c.DefaultAt p) (hclear : ∀ p, e p = .clear → MayBeNull p) :
    ofJson (c.toJson.edit e) = .ok (c.cleared e) := by
  -- Of the members of the configuration itself, only the minimum may be replaced by `null`.
  have hvalue (name : String) (hname : name ≠ "min_quality") : e [.key name] ≠ .clear := by
    intro h
    obtain hplace | ⟨i, hplace⟩ := hclear _ h
    · exact hname (by simpa using hplace)
    · cases hplace
  refine ofJson_eq_ok_iff.mpr ⟨_, record_edit (by simp) e _, ?_, ?_, ?_, ?_, ?_⟩
  · exact withDefault_editedFields rfl (hdrop _) (hvalue _ (by decide)) fun _ => rfl
  · refine withDefault_editedFields rfl (hdrop _) (hvalue _ (by decide)) fun hkeep => ?_
    exact Scoring.ofJson_edit (scoring_drop hdrop hkeep) (scoring_clear hclear)
  · exact withDefault_none_editedFields rfl (hdrop _) (asOption_minQuality _ _)
  · exact withDefault_editedFields rfl (hdrop _) (hvalue _ (by decide)) fun _ => asList_paths _ _
  · refine withDefault_editedFields rfl (fun h => ?_) (hvalue _ (by decide)) fun _ => ?_
    · have hrules : c.rules = [] := hdrop _ h
      simp [cleared, hrules]
    · exact asList_rules hfits hdrop hclear

/-- A path has no members. -/
lemma not_hasMember_paths {paths : List String} {p : Place} :
    ¬ (array (paths.map .string)).HasMember p := by
  intro h
  cases h with
  | item found inner =>
    rw [List.getElem?_map, Option.map_eq_some_iff] at found
    obtain ⟨path, -, rfl⟩ := found
    cases inner

/-- No member may be `null` but the minimum quality and the lines of rules, unless something around
it is left out. -/
lemma ofJson_edit_ne_ok {p : Place} (hp : c.toJson.HasMember p) (hclear : e p = .clear)
    (hnull : ¬ MayBeNull p) (haround : ∀ q, q <+: p → e q ≠ .drop) (c' : Config) :
    ofJson (c.toJson.edit e) ≠ .ok c' := by
  intro h
  obtain ⟨fields, hfields, hversion, hscoring, -, hpaths, hrules⟩ := ofJson_eq_ok_iff.mp h
  obtain rfl := eq_editedFields (by simp) hfields
  cases hp with
  | here found =>
    have hmem := mem_of_lookup found
    simp only [List.mem_cons, Prod.mk.injEq, List.not_mem_nil, or_false] at hmem
    obtain ⟨rfl, rfl⟩ | ⟨rfl, rfl⟩ | ⟨rfl, rfl⟩ | ⟨rfl, rfl⟩ | ⟨rfl, rfl⟩ := hmem
    · exact withDefault_ne_ok found hclear nofun _ hversion
    · exact withDefault_ne_ok found hclear nofun _ hscoring
    · exact hnull (.inl rfl)
    · exact withDefault_ne_ok found hclear nofun _ hpaths
    · exact withDefault_ne_ok found hclear nofun _ hrules
  | @inside _ name _ place found inner =>
    -- Only the scoring parameters and the rules have members of their own.
    have hdrop : e [.key name] ≠ .drop := haround _ ⟨place, rfl⟩
    have hmem := mem_of_lookup found
    simp only [List.mem_cons, Prod.mk.injEq, List.not_mem_nil, or_false] at hmem
    obtain ⟨rfl, rfl⟩ | ⟨rfl, rfl⟩ | ⟨rfl, rfl⟩ | ⟨rfl, rfl⟩ | ⟨rfl, rfl⟩ := hmem
    · cases inner
    · exact withDefault_ne_ok_of_inside found hdrop nofun (Scoring.ofJson_edit_ne_ok inner hclear)
        _ hscoring
    · exact not_hasMember_ofOption inner
    · exact not_hasMember_paths inner
    · refine withDefault_ne_ok_of_inside found hdrop nofun ?_ _ hrules
      cases inner with
      | @item _ i _ place hitem inner =>
        rw [List.getElem?_map, Option.map_eq_some_iff] at hitem
        obtain ⟨r, hr, rfl⟩ := hitem
        refine asList_edit_ne_ok hr (CustomRule.ofJson_edit_ne_ok inner hclear ?_)
        intro hplace
        exact hnull (.inr ⟨i, by rw [hplace]⟩)

/-- Nothing is cleared if nothing is edited to be `null`. -/
lemma cleared_eq_self (hclear : ∀ p, e p ≠ .clear) : c.cleared e = c := by
  have hrules : (c.cleared e).rules = c.rules := by
    refine List.ext_getElem (by simp [cleared]) fun i hi hi' => ?_
    simp only [cleared, List.getElem_mapIdx]
    exact CustomRule.cleared_eq_self (hclear _)
  have hminimum : (c.cleared e).minQuality = c.minQuality := if_neg (hclear _)
  calc c.cleared e
    _ = { c with minQuality := (c.cleared e).minQuality, rules := (c.cleared e).rules } := rfl
    _ = c := by rw [hminimum, hrules]

/-- A configuration that is written is read again. -/
lemma ofJson_toJson (hfits : c.FitsWords) : ofJson c.toJson = .ok c := by
  have hsame : c.cleared (fun _ => .keep) = c := cleared_eq_self nofun
  have hedit := ofJson_edit (c := c) (e := fun _ => .keep) hfits nofun nofun
  rwa [edit_keep, hsame] at hedit

lemma plain_toJson (c : Config) : c.toJson.Plain := by
  have hpaths := plain_array_map fun path (_ : path ∈ c.excludedPaths) => Plain.string path
  have hrules := plain_array_map fun r (_ : r ∈ c.rules) => r.plain_toJson
  refine .object ?_
  simp [Plain.string, c.scoring.plain_toJson, plain_ofOption, hpaths, hrules]

/-- What has been read fits into words. -/
lemma fitsWords_of_ofJson {j : Json} (h : ofJson j = .ok c) : c.FitsWords := by
  intro r hr
  obtain ⟨fields, -, -, -, -, -, hrules⟩ := ofJson_eq_ok_iff.mp h
  obtain hrules | ⟨rules, hrules⟩ := exists_of_withDefault hrules
  · rw [hrules] at hr
    cases hr
  · obtain ⟨rule, hrule⟩ := exists_of_asList hrules hr
    exact CustomRule.fitsWord_of_ofJson hrule

/-- A configuration survives being written, as a value and as a text. Members that have their
defaults may be left out, any of them together. A minimum quality or a line that is `null` is
absent, and `null` instead of any other value is refused. So to write what has been read, and to
read and write it again, makes no difference. -/
theorem json_survives (h : c.FitsWords) :
    ofJson c.toJson = .ok c ∧
      (Json.parse? (c.toJson.pretty.push '\n')).map ofJson = some (.ok c) ∧
      (∀ e : Edits, (∀ p, e p = .drop → c.DefaultAt p) → (∀ p, e p ≠ .clear) →
        ofJson (c.toJson.edit e) = .ok c) ∧
      (∀ e : Edits, (∀ p, e p = .drop → c.DefaultAt p) → (∀ p, e p = .clear → MayBeNull p) →
        ofJson (c.toJson.edit e) = .ok (c.cleared e)) ∧
      (∀ (e : Edits) (p : Place), c.toJson.HasMember p → e p = .clear → ¬ MayBeNull p →
        (∀ q, q <+: p → e q ≠ .drop) → ∃ reason, ofJson (c.toJson.edit e) = .error reason) ∧
      ∀ j j', (ofJson j).map toJson = .ok j' → (ofJson j').map toJson = .ok j' := by
  refine ⟨ofJson_toJson h, ?_, fun e hdrop hclear => ?_, fun e => ofJson_edit h,
    fun e p hp hclear hnull haround => ?_, fun j j' hj => ?_⟩
  · rw [parse?_pretty c.plain_toJson, Option.map_some, ofJson_toJson h]
  · rw [ofJson_edit h hdrop fun p hp => absurd hp (hclear p), cleared_eq_self hclear]
  · cases hread : ofJson (c.toJson.edit e) with
    | ok c' => exact absurd hread (ofJson_edit_ne_ok hp hclear hnull haround c')
    | error reason => exact ⟨reason, rfl⟩
  · cases hread : ofJson j with
    | error reason => rw [hread] at hj; cases hj
    | ok c' =>
      rw [hread] at hj
      cases hj
      rw [ofJson_toJson (fitsWords_of_ofJson hread)]
      rfl

end

/-- A configuration with defaults at every level, and with the greatest line. -/
def sparse : Config where
  scoring := { baseline := 80 }
  minQuality := some 70
  rules := [⟨"first", "python", "TODO", "", .error, some 18446744073709551615⟩,
    ⟨"second", "css", "\"", "é", .info, none⟩]

/-- The members of that configuration that have their defaults. -/
def sparseDefaults : List Place :=
  [[.key "version"], [.key "scoring", .key "clean_score"], [.key "scoring", .key "penalty"],
    [.key "excluded_paths"], [.key "rules", .item 0, .key "severity"],
    [.key "rules", .item 1, .key "line"]]

/-- A configuration as the list of its first values. -/
def sparseValues : Json := .array [.string "", .array [.nat 90]]

/-- A configuration with defaults at several places, left out and replaced by `null`. -/
theorem json_survives_sparse :
    sparse.FitsWords ∧
    (∀ p ∈ sparseDefaults, sparse.DefaultAt p) ∧
    (Json.parse? (sparse.toJson.pretty.push '\n')).map ofJson = some (.ok sparse) ∧
    ofJson (sparse.toJson.edit (Edits.listed sparseDefaults [])) = .ok sparse ∧
    ofJson (sparse.toJson.edit (Edits.listed sparseDefaults
      [[.key "min_quality"], [.key "rules", .item 0, .key "line"]])) = .ok { sparse with
        minQuality := none
        rules := [⟨"first", "python", "TODO", "", .error, none⟩,
          ⟨"second", "css", "\"", "é", .info, none⟩] } ∧
    (∃ reason, ofJson (sparse.toJson.edit (Edits.listed []
      [[.key "rules", .item 1, .key "severity"]])) = .error reason) ∧
    (ofJson sparseValues).map toJson = .ok (toJson { scoring := { cleanScore := 90 } }) ∧
    (ofJson (toJson { scoring := { cleanScore := 90 } })).map toJson =
      .ok (toJson { scoring := { cleanScore := 90 } }) := by
  have hfits : sparse.FitsWords := by simp [FitsWords, CustomRule.FitsWord, sparse, UInt64.size]
  have hdefaults : ∀ p ∈ sparseDefaults, sparse.DefaultAt p := by
    simp [sparseDefaults, DefaultAt, Scoring.DefaultAt, CustomRule.DefaultAt, sparse]
  have hvalues : (ofJson sparseValues).map toJson =
      .ok (toJson { scoring := { cleanScore := 90 } }) := rfl
  obtain ⟨-, htext, hdropped, hcleared, hrefused, hagain⟩ := json_survives hfits
  refine ⟨hfits, hdefaults, htext, ?_, ?_, ?_, hvalues, hagain _ _ hvalues⟩
  · exact hdropped _ (fun p hp => hdefaults p (Edits.listed_eq_drop hp)) fun p hp => by
      simpa using Edits.listed_eq_clear hp
  · refine hcleared _ (fun p hp => hdefaults p (Edits.listed_eq_drop hp)) fun p hp => ?_
    have hmem := Edits.listed_eq_clear hp
    simp only [List.mem_cons, List.not_mem_nil, or_false] at hmem
    obtain rfl | rfl := hmem
    · exact .inl rfl
    · exact .inr ⟨0, rfl⟩
  · refine hrefused _ [.key "rules", .item 1, .key "severity"] ?_ rfl ?_ fun q _ hq => ?_
    · exact .inside rfl (.item rfl (.here rfl))
    · simp [MayBeNull]
    · simpa using Edits.listed_eq_drop hq

end Config

end SnippetLint
