import Mathlib.Data.List.Induction
import SnippetLint.Generation
import SnippetLint.Proofs.NameOrder

/-!
# What a store of templates answers

A store comes about by insertions, and the templates of a language by registrations. In both the
last one counts: for a language the templates that were inserted last, and for a name the body that
was registered last. A name that was never registered is answered by the default template, which is
what was registered last under its own name, if anything was.

What the templates of a language hold is followed from one registration to the next
(`LanguageTemplates.Holds`, `Holds.register`), and so for all of them (`TemplateSource.holds`).
-/

namespace SnippetLint

open Template (defaultName)

/-- Something was entered under a key if the key is among those of the entries. -/
lemma isSome_lookup_reverse_iff {α β : Type} [BEq α] [LawfulBEq α] (entries : List (α × β))
    (key : α) : (entries.reverse.lookup key).isSome ↔ key ∈ entries.map (·.1) := by
  rw [Option.isSome_iff_ne_none, Ne, List.lookup_eq_none_iff, List.mem_map]
  simp only [List.mem_reverse, bne_iff_ne]
  push Not
  exact exists_congr fun entry => and_congr_right fun _ => eq_comm

/-- How the templates of a language come about: from a default body, and from bodies that are then
registered under names, one after another. -/
structure TemplateSource where
  defaultBody : String
  registrations : List (String × String)
  deriving Repr, DecidableEq

namespace TemplateSource

/-- The templates that are registered. -/
def templates (s : TemplateSource) : LanguageTemplates :=
  s.registrations.foldl (fun ts r => ts.register r.1 r.2) (.ofDefault s.defaultBody)

/-- The body that was registered last under a name. -/
def lastBody? (s : TemplateSource) (name : String) : Option String :=
  s.registrations.reverse.lookup name

/-- The default template after all registrations. -/
def default (s : TemplateSource) : Template :=
  ⟨defaultName, (s.lastBody? defaultName).getD s.defaultBody⟩

/-- One more registration. -/
def register (s : TemplateSource) (name body : String) : TemplateSource :=
  { s with registrations := s.registrations ++ [(name, body)] }

lemma templates_register (s : TemplateSource) (name body : String) :
    (s.register name body).templates = s.templates.register name body :=
  List.foldl_concat _ _ _ _

lemma lastBody?_register (s : TemplateSource) (name body other : String) :
    (s.register name body).lastBody? other =
      if other = name then some body else s.lastBody? other := by
  unfold register lastBody?
  rw [List.reverse_concat, List.lookup_cons]
  by_cases h : other = name
  · rw [if_pos h, beq_iff_eq.mpr h]
  · rw [if_neg h, beq_eq_false_iff_ne.mpr h]

end TemplateSource

/-! ## Putting a template in its place -/

section

variable {t u v : Template} {ts : List Template}

lemma ne_of_name_lt (h : t.name < u.name) : t.name ≠ u.name :=
  fun heq => String.lt_irrefl _ (heq ▸ h)

lemma insertByName_of_eq (h : t.name = u.name) : insertByName t (u :: ts) = t :: ts := by
  rw [insertByName, if_pos h]

lemma insertByName_of_lt (h : t.name < u.name) : insertByName t (u :: ts) = t :: u :: ts := by
  rw [insertByName, if_neg (ne_of_name_lt h), if_pos h]

lemma insertByName_of_gt (h : u.name < t.name) :
    insertByName t (u :: ts) = u :: insertByName t ts := by
  rw [insertByName, if_neg (ne_of_name_lt h).symm, if_neg (String.lt_asymm h)]

/-- The template is there, and the others that have a place keep it. -/
lemma mem_insertByName (h : v ∈ insertByName t ts) : v = t ∨ v ∈ ts := by
  induction ts with
  | nil => exact .inl (List.mem_singleton.mp h)
  | cons u ts ih =>
    obtain hlt | heq | hgt := Std.lt_trichotomy t.name u.name
    · rw [insertByName_of_lt hlt] at h
      exact List.mem_cons.mp h
    · rw [insertByName_of_eq heq] at h
      exact (List.mem_cons.mp h).imp_right (List.mem_cons_of_mem u)
    · rw [insertByName_of_gt hgt] at h
      obtain rfl | hmem := List.mem_cons.mp h
      · exact .inr List.mem_cons_self
      · exact (ih hmem).imp_right (List.mem_cons_of_mem u)

/-- Templates stay in the order of their names. -/
lemma insertByName_pairwise (h : ts.Pairwise (·.name < ·.name)) :
    (insertByName t ts).Pairwise (·.name < ·.name) := by
  induction ts with
  | nil => exact List.pairwise_singleton _ _
  | cons u ts ih =>
    obtain ⟨hu, hts⟩ := List.pairwise_cons.mp h
    -- The template comes to stand in front of `u`, in its place, or somewhere behind it.
    obtain hlt | heq | hgt := Std.lt_trichotomy t.name u.name
    · rw [insertByName_of_lt hlt]
      refine List.pairwise_cons.mpr ⟨fun w hw => ?_, h⟩
      obtain rfl | hw := List.mem_cons.mp hw
      · exact hlt
      · exact String.lt_trans hlt (hu w hw)
    · rw [insertByName_of_eq heq]
      exact List.pairwise_cons.mpr ⟨fun w hw => heq ▸ hu w hw, hts⟩
    · rw [insertByName_of_gt hgt]
      refine List.pairwise_cons.mpr ⟨fun w hw => ?_, ih hts⟩
      obtain rfl | hw := mem_insertByName hw
      · exact hgt
      · exact hu w hw

lemma find?_cons_of_name_eq {name : String} (h : t.name = name) :
    (t :: ts).find? (·.name == name) = some t :=
  List.find?_cons_of_pos (beq_iff_eq.mpr h)

lemma find?_cons_of_name_ne {name : String} (h : t.name ≠ name) :
    (t :: ts).find? (·.name == name) = ts.find? (·.name == name) :=
  List.find?_cons_of_neg (mt beq_iff_eq.mp h)

/-- A template is found under its name. -/
lemma find?_insertByName_self (t : Template) (ts : List Template) :
    (insertByName t ts).find? (·.name == t.name) = some t := by
  induction ts with
  | nil => exact find?_cons_of_name_eq rfl
  | cons u ts ih =>
    obtain hlt | heq | hgt := Std.lt_trichotomy t.name u.name
    · rw [insertByName_of_lt hlt, find?_cons_of_name_eq rfl]
    · rw [insertByName_of_eq heq, find?_cons_of_name_eq rfl]
    · rw [insertByName_of_gt hgt, find?_cons_of_name_ne (ne_of_name_lt hgt), ih]

/-- Under any other name the same is found as before. -/
lemma find?_insertByName_of_ne (ts : List Template) {name : String} (h : t.name ≠ name) :
    (insertByName t ts).find? (·.name == name) = ts.find? (·.name == name) := by
  induction ts with
  | nil => exact find?_cons_of_name_ne h
  | cons u ts ih =>
    obtain hlt | heq | hgt := Std.lt_trichotomy t.name u.name
    · rw [insertByName_of_lt hlt, find?_cons_of_name_ne h]
    · rw [insertByName_of_eq heq, find?_cons_of_name_ne h, find?_cons_of_name_ne (heq ▸ h)]
    · rw [insertByName_of_gt hgt, List.find?_cons, List.find?_cons, ih]

/-- Two templates may be put in in either order if the first has the smaller name. -/
lemma insertByName_comm_of_lt (h : t.name < v.name) (ts : List Template) :
    insertByName t (insertByName v ts) = insertByName v (insertByName t ts) := by
  induction ts with
  | nil =>
    show insertByName t [v] = insertByName v [t]
    rw [insertByName_of_lt h, insertByName_of_gt h]
    rfl
  | cons u ts ih =>
    -- By the place of the second template: where it is put before or instead of the head, the first
    -- one is put before the head anyway.
    obtain hvu | hvu | huv := Std.lt_trichotomy v.name u.name
    · rw [insertByName_of_lt hvu, insertByName_of_lt h, insertByName_of_lt (String.lt_trans h hvu),
        insertByName_of_gt h, insertByName_of_lt hvu]
    · rw [insertByName_of_eq hvu, insertByName_of_lt h, insertByName_of_lt (hvu ▸ h),
        insertByName_of_gt h, insertByName_of_eq hvu]
    · rw [insertByName_of_gt huv]
      obtain htu | htu | hut := Std.lt_trichotomy t.name u.name
      · rw [insertByName_of_lt htu, insertByName_of_lt htu, insertByName_of_gt h,
          insertByName_of_gt huv]
      · rw [insertByName_of_eq htu, insertByName_of_eq htu, insertByName_of_gt h]
      · rw [insertByName_of_gt hut, insertByName_of_gt hut, insertByName_of_gt huv, ih]

/-- Templates of different names may be put in in either order. -/
lemma insertByName_comm (h : t.name ≠ v.name) (ts : List Template) :
    insertByName t (insertByName v ts) = insertByName v (insertByName t ts) := by
  obtain hlt | heq | hgt := Std.lt_trichotomy t.name v.name
  · exact insertByName_comm_of_lt hlt ts
  · exact absurd heq h
  · exact (insertByName_comm_of_lt hgt ts).symm

end

/-! ## Registrations -/

namespace LanguageTemplates

/-- Templates are what has been registered: each name but that of the default template has the body
that was registered last under it, and all of them stand in the order of their names. -/
structure Holds (ts : LanguageTemplates) (s : TemplateSource) : Prop where
  default : ts.default = s.default
  named : ∀ name, name ≠ defaultName →
    ts.others.find? (·.name == name) = (s.lastBody? name).map (⟨name, ·⟩)
  ordered : ts.others.Pairwise (·.name < ·.name)
  others : ∀ t ∈ ts.others, t.name ≠ defaultName

lemma holds_ofDefault (body : String) : (ofDefault body).Holds ⟨body, []⟩ where
  default := rfl
  named := fun _ _ => rfl
  ordered := .nil
  others := by simp [ofDefault]

variable {ts : LanguageTemplates} {s : TemplateSource}

/-- What holds after some registrations holds after the next one. -/
lemma Holds.register (h : ts.Holds s) (name body : String) :
    (ts.register name body).Holds (s.register name body) := by
  unfold LanguageTemplates.register
  by_cases hname : name = defaultName
  · -- The default template is replaced, and the others stay.
    rw [if_pos hname]
    subst hname
    refine ⟨?_, fun other hother => ?_, h.ordered, h.others⟩
    · rw [TemplateSource.default, TemplateSource.lastBody?_register, if_pos rfl]
      rfl
    · rw [TemplateSource.lastBody?_register, if_neg hother]
      exact h.named other hother
  · -- A template is put in, and the default one stays.
    rw [if_neg hname]
    refine ⟨?_, fun other hother => ?_, insertByName_pairwise h.ordered, fun t ht => ?_⟩
    · rw [TemplateSource.default, TemplateSource.lastBody?_register, if_neg (Ne.symm hname)]
      exact h.default
    · rw [TemplateSource.lastBody?_register]
      by_cases heq : other = name
      · subst heq
        rw [if_pos rfl]
        exact find?_insertByName_self ⟨other, body⟩ _
      · rw [if_neg heq, ← h.named other hother]
        exact find?_insertByName_of_ne _ (Ne.symm heq)
    · obtain rfl | ht := mem_insertByName ht
      · exact hname
      · exact h.others t ht

/-- A name is answered by what was registered last under it, or else by the default template. -/
lemma Holds.get_eq (h : ts.Holds s) (name : String) : ts.get name =
    match s.lastBody? name with
    | some body => ⟨name, body⟩
    | none => ts.default := by
  unfold get
  by_cases hname : name = defaultName
  · have hnone : ts.others.find? (·.name == name) = none := by
      rw [List.find?_eq_none]
      intro t ht
      rw [beq_iff_eq, hname]
      exact h.others t ht
    rw [hnone, Option.getD_none, h.default, TemplateSource.default, hname]
    cases s.lastBody? defaultName <;> rfl
  · rw [h.named name hname]
    cases s.lastBody? name <;> rfl

/-- The names behind the first one are those that were registered. -/
lemma Holds.mem_others_iff (h : ts.Holds s) (name : String) :
    name ∈ ts.others.map (·.name) ↔
      name ≠ defaultName ∧ name ∈ s.registrations.map (·.1) := by
  have hfind : name ∈ ts.others.map (·.name) ↔ (ts.others.find? (·.name == name)).isSome := by
    rw [List.find?_isSome, List.mem_map]
    simp only [beq_iff_eq]
  rw [← isSome_lookup_reverse_iff]
  by_cases hname : name = defaultName
  · simp only [hname, ne_eq, not_true, false_and, iff_false, List.mem_map, not_exists, not_and]
    exact h.others
  · rw [hfind, h.named name hname, Option.isSome_map, TemplateSource.lastBody?]
    simp only [ne_eq, hname, not_false_iff, true_and]

/-- Behind the first one, names are in the order of their bytes. -/
lemma Holds.bytes_pairwise (h : ts.Holds s) :
    (ts.others.map (·.name)).Pairwise (Text.bytes · < Text.bytes ·) :=
  List.pairwise_map.mpr (h.ordered.imp Text.bytes_lt_bytes)

/-- Two registrations under different names may be made in either order. -/
lemma register_comm (ts : LanguageTemplates) {a b : String} (h : a ≠ b) (x y : String) :
    (ts.register a x).register b y = (ts.register b y).register a x := by
  unfold register
  by_cases ha : a = defaultName
  · have hb : b ≠ defaultName := fun hb => h (ha.trans hb.symm)
    simp only [if_pos ha, if_neg hb]
  · by_cases hb : b = defaultName
    · simp only [if_neg ha, if_pos hb]
    · simp only [if_neg ha, if_neg hb]
      rw [insertByName_comm (t := ⟨b, y⟩) (v := ⟨a, x⟩) h.symm]

end LanguageTemplates

namespace TemplateSource

/-- Templates hold what was registered, whatever that was. -/
lemma holds (s : TemplateSource) : s.templates.Holds s := by
  obtain ⟨body, registrations⟩ := s
  induction registrations using List.reverseRecOn with
  | nil => exact LanguageTemplates.holds_ofDefault body
  | append_singleton registrations r ih =>
    have hstep := ih.register r.1 r.2
    rwa [← templates_register] at hstep

/-- Two registrations that follow each other under different names may change places. -/
lemma templates_swap (body : String) (front back : List (String × String)) {a b : String}
    (h : a ≠ b) (x y : String) :
    (⟨body, front ++ (a, x) :: (b, y) :: back⟩ : TemplateSource).templates =
      (⟨body, front ++ (b, y) :: (a, x) :: back⟩ : TemplateSource).templates := by
  unfold templates
  simp only [List.foldl_append, List.foldl_cons]
  rw [LanguageTemplates.register_comm _ h]

end TemplateSource

/-! ## Insertions -/

namespace TemplateStore

/-- The store after some insertions. -/
def ofInsertions (run : List (Language × TemplateSource)) : TemplateStore :=
  run.foldl (fun s i => s.insert i.1 i.2.templates) .empty

/-- What was inserted last for a language. -/
def lastFor? (run : List (Language × TemplateSource)) (l : Language) : Option TemplateSource :=
  run.reverse.lookup l

/-- The templates of a language are those that were inserted last. -/
lemma templatesFor?_ofInsertions (run : List (Language × TemplateSource)) (l : Language) :
    (ofInsertions run).templatesFor? l = (lastFor? run l).map TemplateSource.templates := by
  unfold lastFor?
  induction run using List.reverseRecOn with
  | nil => rfl
  | append_singleton run i ih =>
    have hstep : ofInsertions (run ++ [i]) = (ofInsertions run).insert i.1 i.2.templates :=
      List.foldl_concat _ _ _ _
    rw [hstep, List.reverse_concat, List.lookup_cons]
    by_cases h : l = i.1
    · rw [beq_iff_eq.mpr h, h, templatesFor?_insert_self]
      rfl
    · rw [beq_eq_false_iff_ne.mpr h, templatesFor?_insert_of_ne _ h, ih]

lemma mem_languages_ofInsertions (run : List (Language × TemplateSource)) (l : Language) :
    l ∈ (ofInsertions run).languages ↔ l ∈ run.map (·.1) := by
  unfold languages
  have hall : l ∈ Language.all := by cases l <;> decide
  rw [List.mem_filter, templatesFor?_ofInsertions, Option.isSome_map, lastFor?,
    isSome_lookup_reverse_iff]
  exact and_iff_right hall

/-- What is generated is the template that the prompt selects among those that were inserted last
for the language that is named. -/
lemma generate_ofInsertions (run : List (Language × TemplateSource)) (prompt language : String) :
    (ofInsertions run).generate prompt language =
      match (Language.parse? language).bind (lastFor? run) with
      | some s => (s.templates.get (selectTemplate prompt)).body
      | none => placeholder prompt (trimmed language) := by
  unfold generate select?
  cases Language.parse? language with
  | none => rfl
  | some l =>
    simp only [Option.bind_some, templatesFor?_ofInsertions]
    cases lastFor? run l <;> rfl

/-- A store has the templates that were inserted last for each language, and lists these languages
in their order, each once. Among the templates of a language, a name has the body that was
registered last under it, or is answered by the default template, for which the same holds; their
names stand in the order of their bytes behind `default`. It makes no difference in which order
different names are registered. Code is generated from just these templates. -/
theorem answers_last (run : List (Language × TemplateSource)) :
    (∀ l, (ofInsertions run).templatesFor? l = (lastFor? run l).map TemplateSource.templates) ∧
    (ofInsertions run).languages.Sublist Language.all ∧
    (ofInsertions run).languages.Nodup ∧
    (∀ l, l ∈ (ofInsertions run).languages ↔ l ∈ run.map (·.1)) ∧
    (∀ s : TemplateSource,
      (∀ name, s.templates.get name = match s.lastBody? name with
        | some body => ⟨name, body⟩
        | none => s.templates.default) ∧
      s.templates.default = ⟨"default", (s.lastBody? "default").getD s.defaultBody⟩ ∧
      ∃ others, s.templates.names = "default" :: others ∧
        others.Pairwise (Text.bytes · < Text.bytes ·) ∧
        ∀ name, name ∈ others ↔ name ≠ "default" ∧ name ∈ s.registrations.map (·.1)) ∧
    (∀ body front back a b x y, a ≠ b →
      (⟨body, front ++ (a, x) :: (b, y) :: back⟩ : TemplateSource).templates =
        (⟨body, front ++ (b, y) :: (a, x) :: back⟩ : TemplateSource).templates) ∧
    ∀ prompt language, (ofInsertions run).generate prompt language =
      match (Language.parse? language).bind (lastFor? run) with
      | some s => (s.templates.get (selectTemplate prompt)).body
      | none => placeholder prompt (trimmed language) := by
  have hordered : Language.all.Nodup := by decide
  refine ⟨templatesFor?_ofInsertions run, List.filter_sublist, hordered.filter _,
    mem_languages_ofInsertions run, fun s => ?_, fun body front back a b x y h => ?_,
    generate_ofInsertions run⟩
  · have hs := s.holds
    exact ⟨hs.get_eq, hs.default, s.templates.others.map (·.name), rfl, hs.bytes_pairwise,
      hs.mem_others_iff⟩
  · exact TemplateSource.templates_swap body front back h x y

/-- Templates of which the default one is replaced between two others, one of which is replaced
as well. -/
def repeated : TemplateSource :=
  ⟨"first", [("todo", "a"), ("default", "b"), ("\u00e9", "c"), ("todo", "d")]⟩

/-- A run of insertions with a language that comes twice, the second time with a template of its
own. -/
theorem answers_last_repeated :
    let store := ofInsertions [(.css, ⟨"old", []⟩), (.html, ⟨"page", []⟩), (.css, repeated)]
    store.templatesFor? .css = some repeated.templates ∧
    repeated.templates.get "todo" = ⟨"todo", "d"⟩ ∧
    repeated.templates.get "factorial" = ⟨"default", "b"⟩ ∧
    repeated.templates =
      (⟨"first", [("default", "b"), ("todo", "a"), ("\u00e9", "c"), ("todo", "d")]⟩ :
        TemplateSource).templates ∧
    store.generate "A Factorial" " CSS" = "b" := by
  intro store
  obtain ⟨htemplates, -, -, -, hregistered, hswap, hgenerate⟩ := answers_last
    [(.css, ⟨"old", []⟩), (.html, ⟨"page", []⟩), (.css, repeated)]
  obtain ⟨hget, hdefault, -⟩ := hregistered repeated
  have hfactorial : repeated.templates.get "factorial" = ⟨"default", "b"⟩ :=
    (hget "factorial").trans hdefault
  refine ⟨htemplates .css, hget "todo", hfactorial,
    hswap "first" [] [("\u00e9", "c"), ("todo", "d")] "todo" "default" "a" "b" (by decide), ?_⟩
  have hname : Language.parse? " CSS" = some .css := by decide +kernel
  have hselected : selectTemplate "A Factorial" = "factorial" := by decide +kernel
  refine (hgenerate "A Factorial" " CSS").trans ?_
  rw [hname, hselected]
  exact congrArg Template.body hfactorial

end TemplateStore

end SnippetLint
