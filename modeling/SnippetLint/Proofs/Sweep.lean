import Mathlib.Tactic.Lemma
import SnippetLint.Pattern.Search
import SnippetLint.Proofs.Place

/-!
# What a sweep finds

A sweep goes through a text once, from its end to its start, and still finds for every place
whether a match starts there and where one ends. The argument behind it:

* `Onward r ends cur stop` says that a way from `cur` leads through `r` and then on to `stop`;
* `Frontier.Sound` is the invariant of a sweep: the note of each position is the end of a way on
  *after* that position, and is missing only if there is no such way;
* `step_sound` is the step lemma, by induction on the expression, and `table_sound` what follows
  for a whole sweep, by induction on the text.

Which of several ends is noted does not matter here, so the statements speak of *an* end.
-/

namespace SnippetLint.Pattern

variable {α β : Type}

/-! ## Matches of an expression -/

lemma matches_set_iff {s : CharSet} {note : α} {cur stop : Cursor} :
    Matches (.set s note) cur stop ↔
      ∃ c rest, cur.rest = c :: rest ∧ s.contains c = true ∧ stop = cur.past c rest := by
  constructor
  · intro h
    cases h with
    | set hrest hc => exact ⟨_, _, hrest, hc, rfl⟩
  · intro h
    obtain ⟨c, rest, hrest, hc, rfl⟩ := h
    exact .set hrest hc

/-- A match of two expressions one after another is one of each, with a place between them. -/
lemma matches_cat_iff {r s : Regex α} {cur stop : Cursor} :
    Matches (.cat r s) cur stop ↔ ∃ mid, Matches r cur mid ∧ Matches s mid stop := by
  constructor
  · intro h
    cases h with
    | cat hr hs => exact ⟨_, hr, hs⟩
  · intro h
    obtain ⟨mid, hr, hs⟩ := h
    exact .cat hr hs

lemma matches_alt_iff {r s : Regex α} {cur stop : Cursor} :
    Matches (.alt r s) cur stop ↔ Matches r cur stop ∨ Matches s cur stop := by
  constructor
  · intro h
    cases h with
    | altLeft h => exact .inl h
    | altRight h => exact .inr h
  · intro h
    rcases h with h | h
    · exact .altLeft h
    · exact .altRight h

/-- A match of a loop is one turn or one turn and the rest of the loop. -/
lemma Matches.plus_induction {r : Regex α} {greedy : Bool}
    {motive : ∀ cur stop, Matches (.plus r greedy) cur stop → Prop}
    (last : ∀ cur stop (turn : Matches r cur stop), motive cur stop (.plusLast turn))
    (more : ∀ cur mid stop (turn : Matches r cur mid) (loop : Matches (.plus r greedy) mid stop),
      motive mid stop loop → motive cur stop (.plusMore turn loop))
    {cur stop : Cursor} (h : Matches (.plus r greedy) cur stop) : motive cur stop h := by
  -- The expression is given by an equation, so that an induction over the match keeps it.
  have key : ∀ {s : Regex α} {cur stop : Cursor}, Matches s cur stop → s = .plus r greedy →
      ∃ h, motive cur stop h := by
    intro s cur stop h hs
    induction h with
    | plusLast turn =>
      cases hs
      exact ⟨_, last _ _ turn⟩
    | plusMore turn _ _ ih =>
      cases hs
      obtain ⟨loop, hloop⟩ := ih rfl
      exact ⟨_, more _ _ _ turn loop hloop⟩
    | _ => cases hs
  exact (key h rfl).2

/-- A repetition matches whatever one with fewer matches for a turn does. -/
lemma Matches.plus_mono {r : Regex α} {s : Regex β} {greedy : Bool}
    (hrs : ∀ {cur stop}, Matches r cur stop → Matches s cur stop) {cur stop : Cursor}
    (h : Matches (.plus r greedy) cur stop) : Matches (.plus s greedy) cur stop := by
  induction h using Matches.plus_induction with
  | last cur stop turn => exact .plusLast (hrs turn)
  | more cur mid stop turn loop ih => exact .plusMore (hrs turn) ih

/-- The notes of an expression have no part in what it matches. -/
@[simp] lemma matches_map {f : α → β} {r : Regex α} {cur stop : Cursor} :
    Matches (r.map f) cur stop ↔ Matches r cur stop := by
  induction r generalizing cur stop with
  | empty | look a =>
    constructor <;> intro h <;> cases h <;> constructor <;> assumption
  | set s note => simp only [Regex.map, matches_set_iff]
  | cat r s ihr ihs => simp only [Regex.map, matches_cat_iff, ihr, ihs]
  | alt r s ihr ihs => simp only [Regex.map, matches_alt_iff, ihr, ihs]
  | plus r greedy ih =>
    exact ⟨Matches.plus_mono ih.mp, Matches.plus_mono ih.mpr⟩

/-- A match takes nothing, or it leaves less of the text. -/
lemma Matches.eq_or_length_lt {r : Regex α} {cur stop : Cursor} (h : Matches r cur stop) :
    stop = cur ∨ stop.rest.length < cur.rest.length := by
  induction h with
  | empty | look _ => exact .inl rfl
  | set hrest _ =>
    right
    simp [Cursor.past, hrest]
  | altLeft _ ih | altRight _ ih | plusLast _ ih => exact ih
  | cat _ _ ih₁ ih₂ | plusMore _ _ ih₁ ih₂ =>
    obtain rfl | h₁ := ih₁
    · exact ih₂
    · obtain rfl | h₂ := ih₂
      · exact .inr h₁
      · exact .inr (h₂.trans h₁)

/-- A match reads a part of the text. -/
lemma Matches.exists_skip {r : Regex α} {cur stop : Cursor} (h : Matches r cur stop) :
    ∃ w, cur.rest = w ++ stop.rest ∧ stop = cur.skip w := by
  induction h with
  | empty | look _ => exact ⟨[], rfl, rfl⟩
  | set hrest _ => exact ⟨[_], hrest, Cursor.past_eq_skip hrest⟩
  | altLeft _ ih | altRight _ ih | plusLast _ ih => exact ih
  | cat _ _ ih₁ ih₂ | plusMore _ _ ih₁ ih₂ =>
    obtain ⟨u, hu, rfl⟩ := ih₁
    obtain ⟨v, hv, rfl⟩ := ih₂
    exact ⟨u ++ v, by rw [hu, hv, List.append_assoc], (Cursor.skip_append _ _ _).symm⟩

/-- No match ends before it starts. -/
lemma Matches.offset_le {r : Regex α} {cur stop : Cursor} (h : Matches r cur stop) :
    cur.offset ≤ stop.offset := by
  obtain ⟨w, -, rfl⟩ := h.exists_skip
  rw [Cursor.offset_skip]
  omega

/-- Two matches in a row take nothing only if neither takes anything. -/
lemma Matches.eq_of_cat {r s : Regex α} {cur mid : Cursor} (hr : Matches r cur mid)
    (hs : Matches s mid cur) : mid = cur := by
  obtain h | h := hr.eq_or_length_lt
  · exact h
  · obtain h' | h' := hs.eq_or_length_lt
    · exact h'.symm
    · omega

/-- A match that has taken something does not come back to where it started. -/
lemma Matches.ne_of_cat {r s : Regex α} {cur mid stop : Cursor} (hr : Matches r cur mid)
    (hs : Matches s mid stop) (hne : mid ≠ cur) : stop ≠ cur := by
  intro hstop
  subst hstop
  exact hne (Matches.eq_of_cat hr hs)

/-- A loop that takes nothing is done after a turn that takes nothing. -/
lemma Matches.turn_of_plus {r : Regex α} {greedy : Bool} {cur stop : Cursor}
    (h : Matches (.plus r greedy) cur stop) (hstop : stop = cur) : Matches r cur cur := by
  induction h using Matches.plus_induction with
  | last cur stop turn => rwa [hstop] at turn
  | more cur mid stop turn loop ih =>
    rw [hstop] at loop
    rwa [Matches.eq_of_cat turn loop] at turn

/-- A match that takes something takes it in a turn of the loop. -/
lemma Matches.plus_taken {r : Regex α} {greedy : Bool} {cur stop : Cursor}
    (h : Matches (.plus r greedy) cur stop) (hne : stop ≠ cur) :
    ∃ mid, mid ≠ cur ∧ Matches r cur mid ∧
      (stop = mid ∨ Matches (.plus r greedy) mid stop) := by
  induction h using Matches.plus_induction with
  | last cur stop turn => exact ⟨stop, hne, turn, .inl rfl⟩
  | more cur mid stop turn loop ih =>
    by_cases hmid : mid = cur
    · subst hmid
      exact ih hne
    · exact ⟨mid, hmid, turn, .inr loop⟩

/-! ## Ends of the ways on -/

/-- A way from `cur` leads through `r` and then on to `stop`. -/
def Onward (r : Regex α) (ends : Cursor → Cursor → Prop) (cur stop : Cursor) : Prop :=
  ∃ mid, Matches r cur mid ∧ ends mid stop

/-- `found` is one of the ends there are; it is missing only if there is none. -/
def Chosen (found : Option Cursor) (ends : Cursor → Prop) : Prop :=
  match found with
  | none => ∀ stop, ¬ ends stop
  | some stop => ends stop

namespace Chosen

variable {o o' : Option Cursor} {P Q : Cursor → Prop} {e f : Entry}

lemma congr (h : Chosen o P) (hPQ : ∀ stop, P stop ↔ Q stop) : Chosen o Q := by
  rwa [← (funext fun stop => propext (hPQ stop) : P = Q)]

/-- The second of two ways is only needed if the first has no end. -/
lemma orElse (h : Chosen o P) (h' : Chosen o' Q) :
    Chosen (o <|> o') fun stop => P stop ∨ Q stop := by
  cases o with
  | some stop => exact .inl h
  | none =>
    refine h'.congr fun stop => ?_
    simp [h stop]

/-- The order in which ends are tried does not matter for whether one is found. -/
lemma taken_andThen (hpass : e.passes = true) (he : Chosen e.taken P) (hf : Chosen f.taken Q) :
    Chosen (e.andThen f).taken fun stop => P stop ∨ Q stop := by
  obtain ⟨sooner, passes, later⟩ := e
  obtain ⟨sooner', passes', later'⟩ := f
  obtain rfl : passes = true := hpass
  cases sooner <;> cases sooner' <;> cases later <;> cases later' <;>
    simp_all [Chosen, Entry.taken, Entry.andThen]

lemma taken_orElse (he : Chosen e.taken P) (hf : Chosen f.taken Q) :
    Chosen (e.orElse f).taken fun stop => P stop ∨ Q stop := by
  have h := he.orElse hf
  cases hpass : e.passes <;>
    simpa [Entry.orElse, hpass, Entry.taken, Option.or_assoc] using h

/-- An expression that can be left with nothing taken has the ends of what comes after it as well.
-/
lemma resolve (he : Chosen e.taken P) (ho : Chosen o Q) :
    Chosen (e.resolve o) fun stop => P stop ∨ e.passes = true ∧ Q stop := by
  obtain ⟨sooner, passes, later⟩ := e
  cases sooner <;> cases passes <;> cases o <;> cases later <;>
    simp_all [Chosen, Entry.taken, Entry.resolve]

end Chosen

/-! ## The invariant of a sweep -/

/-- Every position's note is an end of the ways on after it from `cur`, where `ends` are the ends
of the ways on after the expression. -/
def Frontier.Sound (cur : Cursor) : Frontier → (Cursor → Cursor → Prop) → Prop
  | .empty, _ | .look _, _ => True
  | .set _ note, ends => Chosen note (ends cur)
  | .cat r s, ends => Sound cur r (Onward s ends) ∧ Sound cur s ends
  | .alt r s, ends => Sound cur r ends ∧ Sound cur s ends
  | .plus r greedy, ends =>
    Sound cur r fun mid stop => ends mid stop ∨ Onward (.plus r greedy) ends mid stop

lemma Frontier.Sound.congr {cur : Cursor} {f : Frontier} {ends ends' : Cursor → Cursor → Prop}
    (h : f.Sound cur ends) (hends : ∀ mid stop, ends mid stop ↔ ends' mid stop) :
    f.Sound cur ends' := by
  have : ends = ends' := by
    funext mid stop
    exact propext (hends mid stop)
  rwa [← this]

/-- The expression that a frontier belongs to. -/
def Frontier.plain (f : Frontier) : PlainRegex := f.map fun _ => ()

/-- A step changes the notes of a frontier and not its expression. -/
lemma plain_settle (cur : Cursor) (f : Frontier) (onward : Option Cursor) :
    ((f.step cur).settle onward).plain = f.plain := by
  induction f generalizing onward with
  | empty | set | look => rfl
  | cat r s ihr ihs | alt r s ihr ihs =>
    simp only [Frontier.plain, Frontier.step, Regex.map] at ihr ihs ⊢
    rw [ihr, ihs]
  | plus r greedy ih =>
    simp only [Frontier.plain, Frontier.step, Regex.map] at ih ⊢
    rw [ih]

@[simp] lemma matches_plain {f : Frontier} {cur stop : Cursor} :
    Matches f.plain cur stop ↔ Matches f cur stop := matches_map

/-- A step changes nothing about what a frontier matches. -/
@[simp] lemma matches_settle {cur mid stop : Cursor} {f : Frontier} {onward : Option Cursor} :
    Matches ((f.step cur).settle onward) mid stop ↔ Matches f mid stop := by
  rw [← matches_plain, plain_settle, matches_plain]

lemma onward_congr {r : Regex α} {s : Regex β} {ends : Cursor → Cursor → Prop}
    (hrs : ∀ cur stop, Matches r cur stop ↔ Matches s cur stop) (cur stop : Cursor) :
    Onward r ends cur stop ↔ Onward s ends cur stop := by
  simp only [Onward, hrs]

/-- What one step of a sweep has to deliver for an expression at `cur`. -/
structure Step.Sound (s : Step) (cur : Cursor) (f : Frontier) (ends : Cursor → Cursor → Prop) :
    Prop where
  /-- The expression can be left with nothing taken if it matches the empty text. -/
  passes : s.entry.passes = true ↔ Matches f cur cur
  /-- The other ways in take a character. -/
  taken : Chosen s.entry.taken fun stop => ∃ mid, mid ≠ cur ∧ Matches f cur mid ∧ ends mid stop
  /-- The notes for this place are right again. -/
  settled : ∀ onward, Chosen onward (ends cur) → (s.settle onward).Sound cur ends

/-- The ways in that take a character and those that do not are all there are. -/
lemma Step.Sound.resolve {s : Step} {cur : Cursor} {f : Frontier}
    {ends : Cursor → Cursor → Prop} (h : s.Sound cur f ends) {onward : Option Cursor}
    (honward : Chosen onward (ends cur)) :
    Chosen (s.entry.resolve onward) (Onward f ends cur) := by
  refine (h.taken.resolve honward).congr fun stop => ?_
  rw [h.passes]
  constructor
  · intro hway
    rcases hway with ⟨mid, -, hmid, hstop⟩ | ⟨hcur, hstop⟩
    · exact ⟨mid, hmid, hstop⟩
    · exact ⟨cur, hcur, hstop⟩
  · intro hway
    obtain ⟨mid, hmid, hstop⟩ := hway
    by_cases hne : mid = cur
    · subst hne
      exact .inr ⟨hmid, hstop⟩
    · exact .inl ⟨mid, hne, hmid, hstop⟩

/-! ## One step -/

/-- The notes right of `cur` are right; at the end of the text they are not looked at. -/
def Frontier.SoundAfter (cur : Cursor) (f : Frontier) (ends : Cursor → Cursor → Prop) : Prop :=
  ∀ c rest, cur.rest = c :: rest → f.Sound (cur.past c rest) ends

/-- One character: the way in is the note for the place after it, if the character is in the set. -/
lemma step_sound_set {cur : Cursor} {s : CharSet} {note : Option Cursor}
    {ends : Cursor → Cursor → Prop} (h : Frontier.SoundAfter cur (.set s note) ends) :
    (Frontier.step cur (.set s note)).Sound cur (.set s note) ends := by
  refine ⟨?_, ?_, fun _ honward => honward⟩
  · simp only [Frontier.step, Bool.false_eq_true, matches_set_iff, false_iff]
    intro hset
    obtain ⟨c, rest, -, -, hcur⟩ := hset
    exact cur.past_ne c rest hcur.symm
  · simp only [Frontier.step, Entry.taken, matches_set_iff]
    -- A character is taken exactly if the next one is in the set.
    by_cases hafter : cur.after.any s.contains = true
    · obtain ⟨c, hhead, hc⟩ := (Option.any_eq_true _ _).mp hafter
      obtain ⟨rest, hrest⟩ := List.head?_eq_some_iff.mp hhead
      have hnote : Chosen note (ends (cur.past c rest)) := h c rest hrest
      simp only [if_pos hafter, Option.orElse_eq_orElse, Option.orElse_eq_or, Option.or_none]
      refine hnote.congr fun stop => ?_
      constructor
      · intro hstop
        exact ⟨_, cur.past_ne c rest, ⟨c, rest, hrest, hc, rfl⟩, hstop⟩
      · intro hway
        obtain ⟨mid, -, ⟨c', rest', hrest', -, rfl⟩, hstop⟩ := hway
        obtain ⟨rfl, rfl⟩ := List.cons.inj (hrest.symm.trans hrest')
        exact hstop
    · rw [if_neg hafter]
      intro stop hway
      obtain ⟨mid, -, ⟨c, rest, hrest, hc, -⟩, -⟩ := hway
      exact hafter (by simp [Cursor.after, hrest, hc])

/-- Something is taken by both parts together if it is taken by the first or, after nothing, by
the second. -/
lemma step_sound_cat {cur : Cursor} {r s : Frontier} {ends : Cursor → Cursor → Prop}
    (hr : (r.step cur).Sound cur r (Onward s ends)) (hs : (s.step cur).Sound cur s ends) :
    (Frontier.step cur (.cat r s)).Sound cur (.cat r s) ends := by
  refine ⟨?_, ?_, fun onward honward => ⟨?_, hs.settled onward honward⟩⟩
  · have hcat : Matches (.cat r s) cur cur ↔ Matches r cur cur ∧ Matches s cur cur := by
      constructor
      · intro h
        obtain ⟨mid, hfirst, hsecond⟩ := matches_cat_iff.mp h
        obtain rfl := Matches.eq_of_cat hfirst hsecond
        exact ⟨hfirst, hsecond⟩
      · exact fun ⟨hfirst, hsecond⟩ => .cat hfirst hsecond
    rw [hcat, ← hr.passes, ← hs.passes]
    simp only [Frontier.step, Entry.andThen]
    split <;> simp_all
  · simp only [Frontier.step]
    -- Only if the first part passes can the second one be the first to take something.
    by_cases hpass : (r.step cur).entry.passes = true
    · refine (Chosen.taken_andThen hpass hr.taken hs.taken).congr fun stop => ?_
      constructor
      · intro hway
        rcases hway with ⟨mid, hne, hfirst, last, hsecond, hstop⟩ | ⟨mid, hne, hsecond, hstop⟩
        · exact ⟨last, Matches.ne_of_cat hfirst hsecond hne, .cat hfirst hsecond, hstop⟩
        · exact ⟨mid, hne, .cat (hr.passes.mp hpass) hsecond, hstop⟩
      · intro hway
        obtain ⟨last, hne, hcat, hstop⟩ := hway
        obtain ⟨mid, hfirst, hsecond⟩ := matches_cat_iff.mp hcat
        by_cases hmid : mid = cur
        · subst hmid
          exact .inr ⟨last, hne, hsecond, hstop⟩
        · exact .inl ⟨mid, hmid, hfirst, last, hsecond, hstop⟩
    · rw [Entry.andThen, if_neg hpass]
      refine hr.taken.congr fun stop => ?_
      constructor
      · intro hway
        obtain ⟨mid, hne, hfirst, last, hsecond, hstop⟩ := hway
        exact ⟨last, Matches.ne_of_cat hfirst hsecond hne, .cat hfirst hsecond, hstop⟩
      · intro hway
        obtain ⟨last, hne, hcat, hstop⟩ := hway
        obtain ⟨mid, hfirst, hsecond⟩ := matches_cat_iff.mp hcat
        refine ⟨mid, ?_, hfirst, last, hsecond, hstop⟩
        intro heq
        subst heq
        exact hpass (hr.passes.mpr hfirst)
  · refine (hr.settled _ (hs.resolve honward)).congr ?_
    exact onward_congr fun cur stop => matches_settle.symm

/-- Two ways: each of them has its own ends. -/
lemma step_sound_alt {cur : Cursor} {r s : Frontier} {ends : Cursor → Cursor → Prop}
    (hr : (r.step cur).Sound cur r ends) (hs : (s.step cur).Sound cur s ends) :
    (Frontier.step cur (.alt r s)).Sound cur (.alt r s) ends := by
  refine ⟨?_, ?_, fun onward honward => ⟨hr.settled onward honward, hs.settled onward honward⟩⟩
  · rw [matches_alt_iff, ← hr.passes, ← hs.passes]
    simp only [Frontier.step, Entry.orElse]
    split <;> simp_all
  · refine (hr.taken.taken_orElse hs.taken).congr fun stop => ?_
    simp only [matches_alt_iff, or_and_right, and_or_left, exists_or]

/-- A loop is gone through by its turns: the ways on after a turn are those after the loop and
those through the loop again. -/
lemma step_sound_plus {cur : Cursor} {r : Frontier} {greedy : Bool}
    {ends : Cursor → Cursor → Prop}
    (h : (r.step cur).Sound cur r fun mid stop => ends mid stop ∨
      Onward (.plus r greedy) ends mid stop) :
    (Frontier.step cur (.plus r greedy)).Sound cur (.plus r greedy) ends := by
  have htaken : Chosen (r.step cur).entry.taken fun stop =>
      ∃ mid, mid ≠ cur ∧ Matches (.plus r greedy) cur mid ∧ ends mid stop := by
    refine h.taken.congr fun stop => ?_
    constructor
    · intro hway
      obtain ⟨mid, hne, hturn, hstop | ⟨last, hloop, hstop⟩⟩ := hway
      · exact ⟨mid, hne, .plusLast hturn, hstop⟩
      · exact ⟨last, Matches.ne_of_cat hturn hloop hne, .plusMore hturn hloop, hstop⟩
    · intro hway
      obtain ⟨last, hne, hloop, hstop⟩ := hway
      obtain ⟨mid, hmid, hturn, rfl | hloop⟩ := hloop.plus_taken hne
      · exact ⟨_, hmid, hturn, .inl hstop⟩
      · exact ⟨mid, hmid, hturn, .inr ⟨last, hloop, hstop⟩⟩
  -- A loop that takes nothing leads to where it started, which adds no end of its own.
  have hall : ∀ stop,
      ((∃ mid, mid ≠ cur ∧ Matches (.plus r greedy) cur mid ∧ ends mid stop) ∨ ends cur stop) ↔
        (ends cur stop ∨ Onward (.plus r greedy) ends cur stop) := by
    intro stop
    constructor
    · intro hway
      rcases hway with ⟨mid, -, hmid, hstop⟩ | hstop
      · exact .inr ⟨mid, hmid, hstop⟩
      · exact .inl hstop
    · intro hway
      rcases hway with hstop | ⟨mid, hmid, hstop⟩
      · exact .inr hstop
      · by_cases hne : mid = cur
        · subst hne
          exact .inr hstop
        · exact .inl ⟨mid, hne, hmid, hstop⟩
  refine ⟨?_, htaken, ?_⟩
  · rw [Frontier.step, h.passes]
    exact ⟨.plusLast, fun hloop => hloop.turn_of_plus rfl⟩
  · intro onward honward
    have hagain : Chosen
        (if greedy then (r.step cur).entry.taken <|> onward
          else onward <|> (r.step cur).entry.taken)
        fun stop => ends cur stop ∨ Onward (.plus r greedy) ends cur stop := by
      cases greedy with
      | true => exact (htaken.orElse honward).congr hall
      | false => exact (honward.orElse htaken).congr fun stop => or_comm.trans (hall stop)
    refine (h.settled _ hagain).congr fun mid stop => or_congr_right ?_
    refine onward_congr (fun cur stop => ?_) mid stop
    exact ⟨Matches.plus_mono matches_settle.mpr, Matches.plus_mono matches_settle.mp⟩

/-- One step of a sweep keeps the notes right. -/
theorem step_sound {cur : Cursor} {f : Frontier} {ends : Cursor → Cursor → Prop}
    (h : f.SoundAfter cur ends) : (f.step cur).Sound cur f ends := by
  -- Over the expression. The empty text and assertions take nothing, so there is no other way in.
  induction f generalizing ends with
  | empty =>
    refine ⟨?_, ?_, fun _ _ => trivial⟩
    · simpa [Frontier.step] using Matches.empty cur
    · intro stop hway
      obtain ⟨mid, hne, hmid, -⟩ := hway
      cases hmid
      exact hne rfl
  | set s note => exact step_sound_set h
  | look a =>
    refine ⟨?_, ?_, fun _ _ => trivial⟩
    · simp only [Frontier.step]
      refine ⟨.look, fun hlook => ?_⟩
      cases hlook with
      | look ha => exact ha
    · intro stop hway
      obtain ⟨mid, hne, hmid, -⟩ := hway
      cases hmid
      exact hne rfl
  | cat r s ihr ihs =>
    exact step_sound_cat (ihr fun c rest hrest => (h c rest hrest).1)
      (ihs fun c rest hrest => (h c rest hrest).2)
  | alt r s ihr ihs =>
    exact step_sound_alt (ihr fun c rest hrest => (h c rest hrest).1)
      (ihs fun c rest hrest => (h c rest hrest).2)
  | plus r greedy ih =>
    exact step_sound_plus (ih h)

/-! ## A whole sweep -/

/-- What a sweep has to hold when it has passed some places: its notes belong to the expression,
and its table lists the places, each with the end of a match that starts there. -/
structure Sweep.Sound (s : Sweep) (r : PlainRegex) (passed : List Cursor) : Prop where
  plain : s.frontier.plain = r
  places : s.table.map Prod.fst = passed
  ends : ∀ entry ∈ s.table, Chosen entry.2 (Matches r entry.1)

/-- A sweep begins with no place passed and no note taken. -/
lemma begin_sound (r : PlainRegex) : (Sweep.begin r).Sound r [] := by
  refine ⟨?_, rfl, by simp [Sweep.begin]⟩
  change Frontier.plain (r.map fun _ => none) = r
  induction r with
  | empty | set | look => rfl
  | cat r s ihr ihs | alt r s ihr ihs =>
    simp only [Frontier.plain, Regex.map] at ihr ihs ⊢
    rw [ihr, ihs]
  | plus r greedy ih =>
    simp only [Frontier.plain, Regex.map] at ih ⊢
    rw [ih]

/-- A complete match ends where it is, so at the next place `Eq` gives the ends of the ways on. -/
lemma visit_sound {s : Sweep} {r : PlainRegex} {cur : Cursor} {passed : List Cursor}
    (h : s.Sound r passed) (hnotes : s.frontier.SoundAfter cur Eq) :
    (s.visit cur).Sound r (cur :: passed) ∧ (s.visit cur).frontier.Sound cur Eq := by
  have hstep := step_sound hnotes
  have hhere : Chosen (some cur) (Eq cur) := rfl
  refine ⟨⟨?_, ?_, ?_⟩, hstep.settled _ hhere⟩
  · rw [Sweep.visit, plain_settle, h.plain]
  · rw [Sweep.visit, List.map_cons, h.places]
  · intro entry hentry
    rcases hentry with _ | ⟨_, hentry⟩
    · refine (hstep.resolve hhere).congr fun stop => ?_
      simp [Onward, ← h.plain]
    · exact h.ends entry hentry

/-- A sweep over the places from `cur` on, last place first. -/
def Sweep.over (r : PlainRegex) (cur : Cursor) (rest : List Char) : Sweep :=
  (cur.placesFrom rest).reverse.foldl Sweep.visit (.begin r)

/-- A sweep holds what it has to when it has passed all places of a text, the last one first. -/
lemma over_sound (r : PlainRegex) {cur : Cursor} {rest : List Char} (hrest : cur.rest = rest) :
    (Sweep.over r cur rest).Sound r (cur.placesFrom rest) ∧
      (Sweep.over r cur rest).frontier.Sound cur Eq := by
  induction rest generalizing cur with
  | nil =>
    -- No character follows, so the notes that the sweep begins with are not looked at.
    refine visit_sound (begin_sound r) ?_
    intro c rest hcons
    simp [hrest] at hcons
  | cons c rest ih =>
    have hover : Sweep.over r cur (c :: rest) =
        (Sweep.over r (cur.past c rest) rest).visit cur := by
      simp [Sweep.over, Cursor.placesFrom]
    obtain ⟨hpassed, hnotes⟩ := ih (show (cur.past c rest).rest = rest from rfl)
    rw [hover, Cursor.placesFrom]
    refine visit_sound hpassed ?_
    intro c' rest' hcons
    obtain ⟨rfl, rfl⟩ := List.cons.inj (hrest.symm.trans hcons)
    exact hnotes

/-- The table of a text has all its places in order, each with the end of a match that starts
there; the end is missing only if no match does. -/
theorem table_sound (r : PlainRegex) (text : List Char) :
    (r.table text).map Prod.fst = Cursor.places text ∧
      ∀ entry ∈ r.table text, Chosen entry.2 (Matches r entry.1) := by
  have htable : r.table text = (Sweep.over r (Cursor.start text) text).table := by
    rw [Regex.table, Cursor.trail_eq, Sweep.over, Cursor.places]
  obtain ⟨h, -⟩ := over_sound r (show (Cursor.start text).rest = text from rfl)
  rw [htable]
  exact ⟨h.places, h.ends⟩

end SnippetLint.Pattern
