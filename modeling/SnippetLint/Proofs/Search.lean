import Mathlib.Data.List.Find
import SnippetLint.Proofs.Sweep
import SnippetLint.Rule

/-!
# What a search finds

The statements about sweeps, read back for the ways in which a text is searched:

* `find?_isFirst`: the leftmost match starts at the first place where any match starts;
* `occursIn_iff`: an expression occurs in a text if a match starts at one of its places;
* `unclosedTag_isFirst`: passing over the tags that overlap one before loses nothing, provided
  that tags which overlap end at the same place;
* `findAll_iterates`: the matches found one after another start at ascending places and do not
  overlap, and a match that is not among them is hidden by one that is.
-/

namespace SnippetLint.Pattern

/-- All matches that start at one of the places are accepted or none is. -/
def EndsAlike (r : PlainRegex) (accept : Cursor → Bool) (ps : List Cursor) : Prop :=
  ∀ p ∈ ps, ∀ stop stop', Matches r p stop → Matches r p stop' → accept stop = accept stop'

namespace MatchTable

/-- The matches of a table, also those that overlap. -/
def spansAt (t : MatchTable) : List Span :=
  t.filterMap fun (cur, found) => found.map (Span.mk cur)

@[simp] lemma spansAt_cons_none (cur : Cursor) (t : MatchTable) :
    spansAt ((cur, none) :: t) = spansAt t := rfl

@[simp] lemma spansAt_cons_some (cur stop : Cursor) (t : MatchTable) :
    spansAt ((cur, some stop) :: t) = ⟨cur, stop⟩ :: spansAt t := rfl

/-- The matches of a table are those noted for its places. -/
lemma mem_spansAt {t : MatchTable} {s : Span} :
    s ∈ spansAt t ↔ (s.start, some s.stop) ∈ t := by
  simp only [spansAt, List.mem_filterMap, Prod.exists, Option.map_eq_some_iff]
  constructor
  · intro h
    obtain ⟨cur, found, hmem, stop, rfl, rfl⟩ := h
    exact hmem
  · intro hmem
    exact ⟨s.start, some s.stop, hmem, s.stop, rfl, rfl⟩

/-- The first match of a table is the first of its matches. -/
lemma first?_eq_head? (t : MatchTable) : t.first? = (spansAt t).head? := by
  induction t with
  | nil => rfl
  | cons entry t ih =>
    obtain ⟨cur, _ | stop⟩ := entry
    · rw [first?, ih, spansAt_cons_none]
    · rfl

/-- A search that goes on after each match takes its matches from the table. -/
lemma mem_spansFrom {low : Nat} {afterMatch : Bool} {t : MatchTable} {s : Span}
    (h : s ∈ spansFrom low afterMatch t) : (s.start, some s.stop) ∈ t := by
  induction t generalizing low afterMatch with
  | nil => simp [spansFrom] at h
  | cons entry t ih =>
    obtain ⟨cur, found⟩ := entry
    rw [spansFrom.eq_def] at h
    dsimp only at h
    -- A place is passed over if it lies within a match, if no match starts there, or if only an
    -- empty one does where another match ends.
    split at h
    · exact List.mem_cons_of_mem _ (ih h)
    · rcases found with _ | stop
      · exact List.mem_cons_of_mem _ (ih h)
      · dsimp only at h
        split at h
        · exact List.mem_cons_of_mem _ (ih h)
        · rcases List.mem_cons.mp h with rfl | h
          · exact List.mem_cons_self
          · exact List.mem_cons_of_mem _ (ih h)

/-- The first accepted match of a table starts at the first place that has an accepted match. -/
lemma find?_spansAt_isFirst {r : PlainRegex} (accept : Cursor → Bool) {t : MatchTable}
    (halike : EndsAlike r accept (t.map Prod.fst))
    (hends : ∀ entry ∈ t, Chosen entry.2 (Matches r entry.1)) :
    IsFirst (fun p => ∃ stop, Matches r p stop ∧ accept stop = true) (t.map Prod.fst)
      (((spansAt t).find? fun s => accept s.stop).map (·.start)) := by
  induction t with
  | nil => simp [IsFirst, spansAt]
  | cons entry t ih =>
    have hrest := ih (fun p hp => halike p (List.mem_cons_of_mem _ hp))
      fun entry hentry => hends entry (List.mem_cons_of_mem _ hentry)
    have hentry := hends entry List.mem_cons_self
    obtain ⟨cur, _ | stop⟩ := entry
    · refine hrest.cons ?_
      intro h
      obtain ⟨stop, hstop, -⟩ := h
      exact hentry stop hstop
    · rw [spansAt_cons_some]
      cases haccept : accept stop with
      | true =>
        simp only [List.find?_cons, haccept]
        exact .head ⟨stop, hentry, haccept⟩
      | false =>
        simp only [List.find?_cons, haccept]
        -- Another match at this place would have been accepted no more than this one.
        refine hrest.cons ?_
        intro h
        obtain ⟨stop', hstop', haccept'⟩ := h
        rw [halike cur List.mem_cons_self stop stop' hentry hstop', haccept'] at haccept
        cases haccept

/-- A search that goes on after each match passes over the matches that start within it. If they
are accepted only together with it, none that counts is passed over. -/
lemma find?_spansFrom (accept : Cursor → Bool) (low : Nat) (afterMatch : Bool) {t : MatchTable}
    (hpair : (t.map Prod.fst).Pairwise (·.offset < ·.offset))
    (htakes : ∀ s ∈ spansAt t, s.start.offset < s.stop.offset)
    (hshare : ∀ s ∈ spansAt t, ∀ s' ∈ spansAt t, s.start.offset < s'.start.offset →
      s'.start.offset < s.stop.offset → accept s'.stop = accept s.stop) :
    (spansFrom low afterMatch t).find? (fun s => accept s.stop) =
      (spansAt t).find? fun s => decide (low ≤ s.start.offset) && accept s.stop := by
  induction t generalizing low afterMatch with
  | nil => rfl
  | cons entry t ih =>
    obtain ⟨cur, found⟩ := entry
    have hlater : ∀ s ∈ spansAt t, cur.offset < s.start.offset := by
      intro s hs
      rw [List.map_cons, List.pairwise_cons] at hpair
      exact hpair.1 s.start (List.mem_map_of_mem (mem_spansAt.mp hs))
    have hpair' := (List.pairwise_cons.mp hpair).2
    cases found with
    | none =>
      rw [spansAt_cons_none] at htakes hshare ⊢
      simp only [spansFrom]
      split <;> exact ih _ _ hpair' htakes hshare
    | some stop =>
      rw [spansAt_cons_some] at htakes hshare ⊢
      have htail := fun low afterMatch => ih low afterMatch hpair'
        (fun s hs => htakes s (List.mem_cons_of_mem _ hs))
        fun s hs s' hs' => hshare s (List.mem_cons_of_mem _ hs) s' (List.mem_cons_of_mem _ hs')
      have hstop : cur.offset < stop.offset := htakes ⟨cur, stop⟩ List.mem_cons_self
      simp only [spansFrom]
      by_cases hlow : cur.offset < low
      -- The match starts within the one before and is passed over.
      · have hbefore : ¬ low ≤ cur.offset := by omega
        simp [hlow, htail, hbefore]
      · have hfrom : low ≤ cur.offset := by omega
        have hnonempty : ¬ (stop.offset = cur.offset ∧ cur.offset = low ∧ afterMatch = true) := by
          omega
        rw [if_neg hlow, if_neg hnonempty]
        cases haccept : accept stop with
        | true => simp [haccept, hfrom]
        | false =>
          -- The search goes on at the end of this match; those within it are not accepted either.
          simp only [List.find?_cons, haccept, Bool.and_false, htail]
          refine List.find?_congr fun s hs => ?_
          have hstart := hlater s hs
          by_cases hwithin : s.start.offset < stop.offset
          · have hsame := hshare ⟨cur, stop⟩ List.mem_cons_self s (List.mem_cons_of_mem _ hs)
              hstart hwithin
            simp [hsame, haccept]
          · have h₁ : stop.offset ≤ s.start.offset := by omega
            have h₂ : low ≤ s.start.offset := by omega
            simp [h₁, h₂]

end MatchTable

open MatchTable Cursor

/-! ## One expression -/

/-- The leftmost match starts at the first place where any match starts. -/
theorem find?_isFirst (r : PlainRegex) (text : List Char) :
    IsFirst (fun p => ∃ stop, Matches r p stop) (places text) ((r.find? text).map (·.start)) := by
  obtain ⟨hplaces, hends⟩ := table_sound r text
  have halike : EndsAlike r (fun _ => true) ((r.table text).map Prod.fst) :=
    fun _ _ _ _ _ _ => rfl
  have hfirst := find?_spansAt_isFirst _ halike hends
  have hhead : (spansAt (r.table text)).find? (fun _ => true) = r.find? text := by
    rw [Regex.find?, first?_eq_head?]
    cases spansAt (r.table text) <;> rfl
  rw [hplaces, hhead] at hfirst
  exact hfirst.congr fun p _ => by simp

/-- An expression occurs in a text if a match starts at one of its places. -/
lemma occursIn_iff (r : PlainRegex) (text : List Char) :
    r.occursIn text = true ↔ ∃ p ∈ places text, ∃ stop, Matches r p stop := by
  rw [Regex.occursIn, ← (find?_isFirst r text).isSome_iff, Option.isSome_map]

/-! ## Opening tags without a closing tag -/

/-- Matches that overlap end at the same place, and every match takes something. -/
structure SharesEnds (r : PlainRegex) (text : List Char) : Prop where
  takes : ∀ p ∈ places text, ∀ stop, Matches r p stop → p.offset < stop.offset
  share : ∀ p ∈ places text, ∀ q ∈ places text, ∀ stop stop', Matches r p stop →
    Matches r q stop' → p.offset ≤ q.offset → q.offset < stop.offset → stop'.rest = stop.rest

/-- If tags that overlap end at the same place, the first unclosed one of all tags is found. -/
theorem unclosedTag_isFirst {opening : PlainRegex} (closing : PlainRegex) {text : List Char}
    (h : SharesEnds opening text) :
    IsFirst (fun p => ∃ stop, Matches opening p stop ∧ closing.occursIn stop.lineRest = false)
      (places text) ((Matcher.unclosedTag opening closing).firstMatch? text) := by
  obtain ⟨hplaces, hends⟩ := table_sound opening text
  have hspan : ∀ s ∈ spansAt (opening.table text),
      s.start ∈ places text ∧ Matches opening s.start s.stop := by
    intro s hs
    rw [mem_spansAt] at hs
    exact ⟨hplaces ▸ List.mem_map_of_mem hs, hends _ hs⟩
  let accept : Cursor → Bool := fun stop => !closing.occursIn stop.lineRest
  -- A closing tag is looked for in what follows an opening tag, so the same end is all it takes.
  have hsame : ∀ p ∈ places text, ∀ q ∈ places text, ∀ stop stop', Matches opening p stop →
      Matches opening q stop' → p.offset ≤ q.offset → q.offset < stop.offset →
      accept stop' = accept stop := by
    intro p hp q hq stop stop' hstop hstop' hle hlt
    simp only [accept, lineRest, h.share p hp q hq stop stop' hstop hstop' hle hlt]
  have halike : EndsAlike opening accept ((opening.table text).map Prod.fst) := by
    rw [hplaces]
    intro p hp stop stop' hstop hstop'
    exact hsame p hp p hp stop' stop hstop' hstop le_rfl (h.takes p hp stop' hstop')
  have hskip := find?_spansFrom accept 0 false (hplaces ▸ places_pairwise text)
    (fun s hs => h.takes _ (hspan s hs).1 _ (hspan s hs).2)
    fun s hs s' hs' hlt hwithin => hsame _ (hspan s hs).1 _ (hspan s' hs').1 _ _ (hspan s hs).2
      (hspan s' hs').2 hlt.le hwithin
  have hfind : (Matcher.unclosedTag opening closing).firstMatch? text =
      ((spansAt (opening.table text)).find? fun s => accept s.stop).map (·.start) := by
    simp only [Nat.zero_le, decide_true, Bool.true_and] at hskip
    rw [← hskip]
    rfl
  have hfirst := find?_spansAt_isFirst accept halike hends
  rw [hplaces, ← hfind] at hfirst
  exact hfirst.congr fun p _ => by simp [accept]

/-! ## Matches one after another -/

/-- A search that goes on after a match does not meet a match that starts within it, nor an empty
one at its end. -/
def Span.Hides (s t : Span) : Prop :=
  s.start.offset < t.start.offset ∧ t.start.offset < s.stop.offset ∨
    t.start.offset = s.stop.offset ∧ t.stop.offset = t.start.offset

/-- The matches in a text that a search meets if it goes on after each of them. -/
structure Iterates (r : PlainRegex) (text : List Char) (spans : List Span) : Prop where
  sound : ∀ s ∈ spans, s.start ∈ places text ∧ Matches r s.start s.stop
  ascending : spans.Pairwise fun s t =>
    s.start.offset < t.start.offset ∧ s.stop.offset ≤ t.start.offset
  complete : ∀ p ∈ places text, (∃ stop, Matches r p stop) →
    ∃ stop, Matches r p stop ∧ (⟨p, stop⟩ ∈ spans ∨ ∃ s ∈ spans, s.Hides ⟨p, stop⟩)

namespace MatchTable

variable {low : Nat} {afterMatch : Bool} {t : MatchTable}

/-- The places of a table ascend, and no match ends before it starts. -/
structure Ordered (t : MatchTable) : Prop where
  places : (t.map Prod.fst).Pairwise (·.offset < ·.offset)
  spans : ∀ p stop, (p, some stop) ∈ t → p.offset ≤ stop.offset

lemma Ordered.tail {entry : Cursor × Option Cursor} (h : Ordered (entry :: t)) : Ordered t where
  places := (List.pairwise_cons.mp h.places).2
  spans p stop hp := h.spans p stop (List.mem_cons_of_mem _ hp)

/-- Later matches start behind the place in front of them. -/
lemma Ordered.lt_start {cur : Cursor} {found : Option Cursor} (h : Ordered ((cur, found) :: t))
    {s : Span} (hs : (s.start, some s.stop) ∈ t) : cur.offset < s.start.offset :=
  (List.pairwise_cons.mp h.places).1 s.start (List.mem_map_of_mem hs)

/-- A search that goes on from somewhere finds nothing before. -/
lemma low_le_of_mem_spansFrom (ht : Ordered t) {s : Span} (hs : s ∈ spansFrom low afterMatch t) :
    low ≤ s.start.offset := by
  fun_induction spansFrom low afterMatch t with
  | case1 => cases hs
  | case2 _ _ _ _ _ _ ih | case3 _ _ _ _ _ ih | case4 _ _ _ _ _ _ _ ih => exact ih ht.tail hs
  | case5 low _ cur _ hlow stop _ ih =>
    rcases List.mem_cons.mp hs with rfl | hs
    · exact not_lt.mp hlow
    · have hstop := ht.spans cur stop List.mem_cons_self
      have := ih ht.tail hs
      omega

/-- Matches found one after another start later and later, each where the one before has ended or
after that. -/
lemma spansFrom_pairwise (low : Nat) (afterMatch : Bool) (ht : Ordered t) :
    (spansFrom low afterMatch t).Pairwise fun s s' =>
      s.start.offset < s'.start.offset ∧ s.stop.offset ≤ s'.start.offset := by
  fun_induction spansFrom low afterMatch t with
  | case1 => exact .nil
  | case2 _ _ _ _ _ _ ih | case3 _ _ _ _ _ ih | case4 _ _ _ _ _ _ _ ih => exact ih ht.tail
  | case5 _ _ cur _ _ stop _ ih =>
    refine List.pairwise_cons.mpr ⟨fun s hs => ?_, ih ht.tail⟩
    exact ⟨ht.lt_start (mem_spansFrom hs), low_le_of_mem_spansFrom ht.tail hs⟩

/-- A match of the table is met or hidden, unless the search begins behind it, or has just found a
match where it is empty. -/
lemma mem_spansFrom_or_hidden (low : Nat) (afterMatch : Bool) (ht : Ordered t) {s : Span}
    (hs : (s.start, some s.stop) ∈ t) :
    (s ∈ spansFrom low afterMatch t ∨ ∃ s' ∈ spansFrom low afterMatch t, s'.Hides s) ∨
      s.start.offset < low ∨
      afterMatch = true ∧ s.start.offset = low ∧ s.stop.offset = s.start.offset := by
  -- Along the search; for a later match, `low` is the end of the match that was met last.
  fun_induction spansFrom low afterMatch t with
  | case1 => cases hs
  | case2 _ _ cur _ _ hlow ih =>
    rcases List.mem_cons.mp hs with hs | hs
    · obtain ⟨rfl, -⟩ := Prod.mk.inj hs
      exact .inr (.inl hlow)
    · exact ih ht.tail hs
  | case3 _ _ cur _ _ ih =>
    rcases List.mem_cons.mp hs with hs | hs
    · cases (Prod.mk.inj hs).2
    · exact ih ht.tail hs
  | case4 _ _ cur _ _ stop hempty ih =>
    rcases List.mem_cons.mp hs with hs | hs
    · obtain ⟨rfl, hstop⟩ := Prod.mk.inj hs
      obtain rfl := Option.some.inj hstop
      exact .inr (.inr ⟨hempty.2.2, hempty.2.1, hempty.1⟩)
    · exact ih ht.tail hs
  | case5 _ _ cur rest _ stop _ ih =>
    rcases List.mem_cons.mp hs with hs | hs
    · obtain ⟨rfl, hstop⟩ := Prod.mk.inj hs
      obtain rfl := Option.some.inj hstop
      exact .inl (.inl List.mem_cons_self)
    · have hlt := ht.lt_start hs
      -- What the search for the rest leaves out starts within this match or is empty at its end.
      have hhead : ∀ h : Span.Hides ⟨cur, stop⟩ s,
          ∃ s' ∈ ⟨cur, stop⟩ :: spansFrom stop.offset true rest, s'.Hides s :=
        fun h => ⟨_, List.mem_cons_self, h⟩
      rcases ih ht.tail hs with (hmem | ⟨s', hs', hhides⟩) | hwithin | ⟨-, hend, hempty⟩
      · exact .inl (.inl (List.mem_cons_of_mem _ hmem))
      · exact .inl (.inr ⟨s', List.mem_cons_of_mem _ hs', hhides⟩)
      · exact .inl (.inr (hhead (.inl ⟨hlt, hwithin⟩)))
      · exact .inl (.inr (hhead (.inr ⟨hend, hempty⟩)))

end MatchTable

/-- The matches found one after another are those that a search meets. -/
theorem findAll_iterates (r : PlainRegex) (text : List Char) :
    Iterates r text (r.findAll text) := by
  obtain ⟨hplaces, hends⟩ := table_sound r text
  have hentry : ∀ p stop, (p, some stop) ∈ r.table text → Matches r p stop :=
    fun p stop hp => hends _ hp
  have hordered : Ordered (r.table text) :=
    ⟨hplaces ▸ places_pairwise text, fun p stop hp => (hentry p stop hp).offset_le⟩
  refine ⟨fun s hs => ?_, spansFrom_pairwise 0 false hordered, fun p hp hstop => ?_⟩
  · have hmem := mem_spansFrom hs
    exact ⟨hplaces ▸ List.mem_map_of_mem hmem, hentry _ _ hmem⟩
  · rw [← hplaces] at hp
    obtain ⟨⟨_, found⟩, hmem, rfl⟩ := List.mem_map.mp hp
    obtain ⟨stop, hstop⟩ := hstop
    cases found with
    | none => exact absurd hstop (hends _ hmem stop)
    | some stop =>
      refine ⟨stop, hentry _ _ hmem, ?_⟩
      rcases mem_spansFrom_or_hidden 0 false hordered (s := ⟨_, stop⟩) hmem with h | h | h
      · exact h
      · exact absurd h (Nat.not_lt_zero _)
      · cases h.1

/-! ## What a rule looks for -/

/-- Whatever a rule looks for, what it finds starts at a place of the text. -/
theorem firstMatch?_mem_places {m : Matcher} {text : List Char} {p : Cursor}
    (h : m.firstMatch? text = some p) : p ∈ places text := by
  have htable : ∀ (r : PlainRegex) (s : Span), (s.start, some s.stop) ∈ r.table text →
      s.start ∈ places text := by
    intro r s hs
    rw [← (table_sound r text).1]
    exact List.mem_map_of_mem hs
  cases m with
  | pattern r =>
    obtain ⟨s, hs, rfl⟩ := Option.map_eq_some_iff.mp h
    rw [Regex.find?, first?_eq_head?] at hs
    exact htable r s (mem_spansAt.mp (List.mem_of_head? hs))
  | unclosedTag opening closing =>
    obtain ⟨s, hs, rfl⟩ := Option.map_eq_some_iff.mp h
    exact htable opening s (mem_spansFrom (List.mem_of_find?_eq_some hs))

end SnippetLint.Pattern
