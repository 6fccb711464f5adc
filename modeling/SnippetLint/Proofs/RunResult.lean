import SnippetLint.Program.Run
import SnippetLint.Proofs.Steps

/-!
# What runs come to

What a part of a run answers and prints, apart from what it tells on the way. Most parts answer the
same whatever has happened before (`Run.Yields`); for the others it can still be said what holds of
every answer (`Run.Ensures`). All parts are silent (`Run.Silent`) but the last one of a command,
which cannot give up any more. So a command that gives up has printed nothing
(`Run.reserved_command`), and one that does not prints what its last part prints (`Run.Delivers`).

What a whole command comes to is `Run.answer`; `Invocation.run_answer` says what comes out of a run
by it.
-/

namespace SnippetLint

namespace Run

variable {α β : Type}

/-- A part of a run answers, or gives up for a reason, whatever has happened before. -/
def Yields (m : Run α) (result : Except Failure α) : Prop := ∀ s, (m.run.run s).1 = result

/-- A part of a run has only answers with a property, if it does not give up. -/
def Ensures (m : Run α) (P : α → Prop) : Prop := ∀ s a, (m.run.run s).1 = .ok a → P a

/-- A part of a run prints nothing. -/
def Silent (m : Run α) : Prop := ∀ s, (m.run.run s).2.output = s.output

/-- A part of a run prints nothing if it gives up. -/
def Reserved (m : Run α) : Prop :=
  ∀ s failure, (m.run.run s).1 = .error failure → (m.run.run s).2.output = s.output

/-- A part of a run prints a text and answers, or prints nothing and gives up, whatever has happened
before. -/
def Delivers (m : Run α) (result : Except Failure (StyledText × α)) : Prop :=
  ∀ s, ((m.run.run s).1, (m.run.run s).2.output) = match result with
    | .ok (text, a) => (.ok a, s.output ++ text)
    | .error failure => (.error failure, s.output)

section

variable {m : Run α} {f : α → Run β} {s s' : Effects}

/-! ## One part after another -/

/-- The next part goes on with an answer and with all that has been done. -/
lemma bind_run_ok {a : α} (h : m.run.run s = (.ok a, s')) :
    (m >>= f).run.run s = (f a).run.run s' := by
  -- The layers of a run are taken apart here and in the next lemma.
  change (ExceptT.bindCont f (m.run.run s).1).run (m.run.run s).2 = _
  rw [h]
  rfl

/-- There is no next part after giving up. -/
lemma bind_run_error {failure : Failure} (h : m.run.run s = (.error failure, s')) :
    (m >>= f).run.run s = (.error failure, s') := by
  change (ExceptT.bindCont f (m.run.run s).1).run (m.run.run s).2 = _
  rw [h]
  rfl

/-- All that two parts can do: the first one gives up, or the next one goes on with its answer. -/
lemma bind_run_cases (m : Run α) (f : α → Run β) (s : Effects) :
    (∃ failure s', m.run.run s = (.error failure, s') ∧
      (m >>= f).run.run s = (.error failure, s')) ∨
    ∃ a s', m.run.run s = (.ok a, s') ∧ (m >>= f).run.run s = (f a).run.run s' := by
  rcases hm : m.run.run s with ⟨failure | a, s'⟩
  · exact .inl ⟨failure, s', rfl, bind_run_error hm⟩
  · exact .inr ⟨a, s', rfl, bind_run_ok hm⟩

lemma Yields.run_eq {result : Except Failure α} (h : Yields m result) (s : Effects) :
    m.run.run s = (result, (m.run.run s).2) := Prod.ext (h s) rfl

/-! ## Answers -/

lemma yields_pure (a : α) : Yields (pure a) (.ok a) := fun _ => rfl

lemma yields_throw (failure : Failure) : Yields (throw failure : Run α) (.error failure) :=
  fun _ => rfl

lemma yields_tell (e : Event) : Yields (tell e) (.ok ()) := fun _ => rfl

/-- A run goes on with a result. -/
lemma yields_attempt_ok {ε : Type} {failure : ε → Failure} {result : Except ε α} {a : α}
    (h : result = .ok a) : Yields (attempt failure result) (.ok a) := by
  rw [h]
  exact fun _ => rfl

/-- A run gives up for want of a result. -/
lemma yields_attempt_error {ε : Type} {failure : ε → Failure} {result : Except ε α} {e : ε}
    (h : result = .error e) : Yields (attempt failure result) (.error (failure e)) := by
  rw [h]
  exact fun _ => rfl

/-- There is one answer only. -/
lemma Yields.unique {result result' : Except Failure α} (h : Yields m result)
    (h' : Yields m result') : result = result' :=
  (h { files := ⟨.empty, []⟩ }).symm.trans (h' _)

/-- What the next part answers is what both answer. -/
lemma Yields.bind_ok {a : α} {result : Except Failure β} (h : Yields m (.ok a))
    (hf : Yields (f a) result) : Yields (m >>= f) result := by
  intro s
  rw [bind_run_ok (h.run_eq s)]
  exact hf _

/-- Once a part has given up, so has the whole. -/
lemma Yields.bind_error {failure : Failure} (h : Yields m (.error failure)) :
    Yields (m >>= f) (.error failure) := by
  intro s
  rw [bind_run_error (h.run_eq s)]

lemma Yields.discard {a : α} (h : Yields m (.ok a)) : Yields (discard m) (.ok ()) :=
  h.bind_ok (yields_pure ())

/-- Only the last part of a run matters to what holds of the answer. -/
lemma Ensures.bind {P : β → Prop} (hf : ∀ a, Ensures (f a) P) : Ensures (m >>= f) P := by
  intro s b hb
  obtain ⟨failure, s', -, hrun⟩ | ⟨a, s', -, hrun⟩ := bind_run_cases m f s
  · rw [hrun] at hb
    cases hb
  · rw [hrun] at hb
    exact hf a s' b hb

/-- An answer that is given at once is the only one. -/
lemma ensures_pure {P : α → Prop} {a : α} (h : P a) : Ensures (pure a) P := by
  intro s b hb
  change Except.ok a = .ok b at hb
  obtain rfl := Except.ok.inj hb
  exact h

/-! ## What is printed -/

lemma silent_pure (a : α) : Silent (pure a) := fun _ => rfl

lemma silent_tell (e : Event) : Silent (tell e) := fun _ => rfl

lemma silent_get : Silent (get : Run Effects) := fun _ => rfl

/-- What would come after giving up is not printed either. -/
lemma silent_throw_bind {f : Unit → Run β} (failure : Failure) :
    Silent (throw failure >>= f) := fun _ => rfl

lemma silent_attempt {ε : Type} (failure : ε → Failure) (result : Except ε α) :
    Silent (attempt failure result) := fun _ => rfl

/-- Silence is kept from one part to the next. -/
lemma Silent.bind (hm : Silent m) (hf : ∀ a, Silent (f a)) : Silent (m >>= f) := by
  intro s
  have hsilent := hm s
  obtain ⟨failure, s', hfirst, hrun⟩ | ⟨a, s', hfirst, hrun⟩ := bind_run_cases m f s
  · rw [hfirst] at hsilent
    rw [hrun, hsilent]
  · rw [hfirst] at hsilent
    rw [hrun, hf a s', hsilent]

/-- A part whose answer is not used prints no more for that. -/
lemma Silent.discard (hm : Silent m) : Silent (discard m) := hm.bind fun _ => silent_pure ()

/-- What never prints anything does not print before it gives up. -/
lemma Silent.reserved (hm : Silent m) : Reserved m := fun s _ _ => hm s

/-- What is silent until its last part prints nothing before it gives up there. -/
lemma Reserved.bind (hm : Silent m) (hf : ∀ a, Reserved (f a)) : Reserved (m >>= f) := by
  intro s failure hfailed
  have hsilent := hm s
  obtain ⟨reason, s', hfirst, hrun⟩ | ⟨a, s', hfirst, hrun⟩ := bind_run_cases m f s
  · rw [hfirst] at hsilent
    rw [hrun, hsilent]
  · rw [hfirst] at hsilent
    rw [hrun] at hfailed ⊢
    rw [hf a s' failure hfailed, hsilent]

/-- To print is the last thing that is done, and it does not fail. -/
lemma reserved_print (text : StyledText) (a : α) :
    Reserved (do print text; return a) := by
  intro s failure hfailed
  cases hfailed

lemma delivers_pure (a : α) : Delivers (pure a) (.ok ([], a)) := by
  intro s
  dsimp only
  rw [List.append_nil]
  rfl

/-- What is printed last is all that is delivered besides the answer. -/
lemma delivers_print (text : StyledText) (a : α) :
    Delivers (do print text; return a) (.ok (text, a)) := fun _ => rfl

/-- After a silent part that answers it is the next part that counts. -/
lemma Silent.delivers_bind {a : α} {result : Except Failure (StyledText × β)} (hm : Silent m)
    (h : Yields m (.ok a)) (hf : Delivers (f a) result) : Delivers (m >>= f) result := by
  intro s
  rw [bind_run_ok (h.run_eq s), hf, hm s]

/-- If a silent part gives up, nothing is delivered. -/
lemma Silent.delivers_bind_error {failure : Failure} (hm : Silent m)
    (h : Yields m (.error failure)) : Delivers (m >>= f) (.error failure) := by
  intro s
  rw [bind_run_error (h.run_eq s)]
  dsimp only
  rw [hm s]

end

/-! ## The parts of a run -/

lemma yields_forM_tell (events : List Event) : Yields (events.forM tell) (.ok ()) := by
  induction events with
  | nil => exact yields_pure ()
  | cons e events ih => exact (yields_tell e).bind_ok ih

/-- Nothing is printed along a list if nothing is printed for any of its members. -/
lemma silent_forM {f : α → Run Unit} (hf : ∀ a, Silent (f a)) (as : List α) :
    Silent (as.forM f) := by
  induction as with
  | nil => exact silent_pure ()
  | cons a as ih => exact (hf a).bind fun _ => ih

/-- Globs are told about, but not printed. -/
lemma silent_excludedGlobs (config : Config) : Silent (excludedGlobs config) :=
  (silent_attempt _ _).bind fun _ => (silent_forM silent_tell _).bind fun _ => silent_pure _

/-- Reading a configuration prints nothing. -/
lemma silent_loadConfig (w : World) (explicit : Option String) :
    Silent (loadConfig w explicit) := by
  rw [loadConfig]
  split
  · exact silent_pure _
  · refine (silent_tell _).bind fun _ => (silent_attempt _ _).bind fun config => ?_
    refine (silent_attempt _ _).bind fun _ => ?_
    exact (silent_excludedGlobs config).discard.bind fun _ => silent_pure _

/-- The inputs are analyzed first, and all of them, before anything is printed. -/
lemma silent_analyzeInputs (w : World) (assistant : Assistant) (inputs : List Input) :
    Silent (analyzeInputs w assistant inputs) :=
  (silent_forM (fun _ => silent_forM silent_tell _) _).bind fun _ =>
    (silent_attempt _ _).bind fun _ => silent_pure _

lemma silent_makeParent (path : String) : Silent (makeParent path) := by
  rw [makeParent]
  dsimp only
  generalize String.ofList ((Path.parent? path.toList).getD []) = parent
  split
  · refine silent_get.bind fun s => ?_
    exact Silent.bind (fun _ => rfl) fun _ => silent_attempt _ _
  · exact silent_pure ()

/-- A new file is written before anything is printed, whether that succeeds or not. -/
lemma silent_writeNew (path code : String) : Silent (writeNew path code) := by
  refine silent_get.bind fun s => ?_
  dsimp only
  split
  · exact silent_throw_bind _
  · refine (silent_makeParent path).bind fun _ => silent_get.bind fun _ => ?_
    exact (silent_attempt _ _).bind fun _ _ => rfl

/-! ## Commands -/

/-- An analysis prints its report when nothing can fail any more. -/
lemma reserved_analyze (w : World) (a : AnalyzeArguments) : Reserved (analyze w a) := by
  rw [analyze]
  split
  · exact (silent_throw_bind _).reserved
  · refine .bind (silent_loadConfig w a.config) fun config => ?_
    dsimp only
    split
    · exact (silent_throw_bind _).reserved
    · refine .bind (silent_attempt _ _) fun rules => .bind (silent_excludedGlobs config) fun _ => ?_
      refine .bind (silent_attempt _ _) fun inputs => ?_
      split
      · exact (silent_pure _).reserved
      · exact .bind (silent_analyzeInputs _ _ _) fun _ => reserved_print _ _

/-- Code is printed, or said to be written, when nothing can fail any more. -/
lemma reserved_generate (g : GenerateArguments) : Reserved (generate g) := by
  refine .bind (silent_attempt _ _) fun code => .bind (silent_tell _) fun _ => ?_
  cases g.output with
  | none => exact reserved_print _ _
  | some path => exact .bind (silent_writeNew path code) fun _ => reserved_print _ _

/-- Only a configuration can make a list of rules fail, and that is read first. -/
lemma reserved_rules (w : World) (r : RulesArguments) : Reserved (rules w r) :=
  .bind (silent_loadConfig w r.config) fun _ => .bind (silent_attempt _ _) fun _ =>
    reserved_print _ _

/-- A command that gives up has printed nothing. -/
lemma reserved_command (w : World) (c : Command) : Reserved (command w c) := by
  cases c with
  | analyze a => exact reserved_analyze w a
  | generate g => exact reserved_generate g
  | rules r => exact reserved_rules w r

/-- What a command prints and answers, or why it gives up. -/
def answer (w : World) (c : Command) : Except Failure (StyledText × Answer) :=
  match (command w c).run.run { files := w.files } with
  | (.ok answer, effects) => .ok (effects.output, answer)
  | (.error failure, _) => .error failure

variable {w : World} {c : Command}

/-- What a command delivers is its answer. -/
lemma Delivers.answer {result : Except Failure (StyledText × Answer)}
    (h : Delivers (command w c) result) : answer w c = result := by
  have hs := h { files := w.files }
  rw [Run.answer]
  rcases hrun : (command w c).run.run { files := w.files } with ⟨result', effects⟩
  rw [hrun] at hs
  cases result with
  | ok delivered =>
    obtain ⟨text, answer⟩ := delivered
    obtain ⟨rfl, houtput⟩ := Prod.mk.inj hs
    dsimp only
    rw [houtput, List.nil_append]
  | error failure =>
    obtain ⟨rfl, -⟩ := Prod.mk.inj hs
    rfl

/-- For giving up it does not matter what has been printed. -/
lemma Yields.answer_error {failure : Failure} (h : Yields (command w c) (.error failure)) :
    Run.answer w c = .error failure := by
  rw [Run.answer, h.run_eq]

/-- What holds of every answer holds of that of a whole command. -/
lemma Ensures.of_answer {P : Answer → Prop} (h : Ensures (command w c) P) {text : StyledText}
    {answer : Answer} (hanswer : Run.answer w c = .ok (text, answer)) : P answer := by
  rw [Run.answer] at hanswer
  rcases hrun : (command w c).run.run { files := w.files } with ⟨result, effects⟩
  rw [hrun] at hanswer
  cases result with
  | error failure => cases hanswer
  | ok answer' =>
    cases hanswer
    exact h _ _ (congrArg Prod.fst hrun)

/-- Only an analysis finds that something is not good enough. -/
lemma passed_of_not_analyze (hcommand : ∀ a, c ≠ .analyze a) {text : StyledText} {answer : Answer}
    (hanswer : Run.answer w c = .ok (text, answer)) : answer.passed = true := by
  have hensures : Ensures (command w c) fun answer => answer.passed = true := by
    cases c with
    | analyze a => exact absurd rfl (hcommand a)
    | rules a => exact .bind fun _ => .bind fun _ => .bind fun _ => ensures_pure rfl
    | generate a =>
      refine .bind fun code => .bind fun _ => ?_
      cases a.output with
      | none => exact .bind fun _ => ensures_pure rfl
      | some path => exact .bind fun _ => .bind fun _ => ensures_pure rfl
  exact hensures.of_answer hanswer

end Run

/-! ## What comes out -/

namespace Invocation

open Run

variable {i : Invocation} {w : World}

/-- What is said when a run gives up. -/
def noticeOf (failure : Failure) : Message :=
  { failure.message with text := "Error: " ++ failure.message.text }

lemma run_of_answer (i : Invocation) (w : World) {answer : Answer} {effects : Effects}
    (h : (Run.command w i.command).run.run { files := w.files } = (.ok answer, effects)) :
    i.run w = .ofAnswer answer effects := by
  rw [run, h]

/-- A command that gives up decides what comes out of its run. -/
lemma run_of_failure (i : Invocation) (w : World) {failure : Failure} {effects : Effects}
    (h : (Run.command w i.command).run.run { files := w.files } = (.error failure, effects)) :
    i.run w = .ofFailure failure effects := by
  rw [run, h]

/-- What comes out of a run is what its command prints and answers, or why it gives up, and then
nothing is printed. -/
lemma run_answer (i : Invocation) (w : World) :
    (∃ text answer, Run.answer w i.command = .ok (text, answer) ∧
      (i.run w).exitCode = (if answer.passed then 0 else 1) ∧ (i.run w).output = text) ∨
    ∃ failure, Run.answer w i.command = .error failure ∧
      (i.run w).exitCode = 2 ∧ (i.run w).output = [] ∧
      (i.run w).notice = some (noticeOf failure) := by
  have hreserved := reserved_command w i.command { files := w.files }
  rcases hresult : (Run.command w i.command).run.run { files := w.files } with ⟨result, effects⟩
  rw [hresult] at hreserved
  rw [Run.answer, hresult]
  cases result with
  | ok answer =>
    rw [run_of_answer i w hresult]
    exact .inl ⟨effects.output, answer, rfl, rfl, rfl⟩
  | error failure =>
    rw [run_of_failure i w hresult]
    exact .inr ⟨failure, rfl, rfl, hreserved failure rfl, rfl⟩

/-- What comes out of a run that does not give up. -/
lemma run_of_answer_ok {text : StyledText} {answer : Answer}
    (h : Run.answer w i.command = .ok (text, answer)) :
    (i.run w).exitCode = (if answer.passed then 0 else 1) ∧ (i.run w).output = text := by
  obtain ⟨text', answer', hanswer, houtcome⟩ | ⟨failure, hfailure, -⟩ := run_answer i w
  · cases h.symm.trans hanswer
    exact houtcome
  · cases h.symm.trans hfailure

/-- What comes out of a run that gives up. -/
lemma run_of_answer_error {failure : Failure} (h : Run.answer w i.command = .error failure) :
    (i.run w).exitCode = 2 ∧ (i.run w).output = [] ∧
      (i.run w).notice = some (noticeOf failure) := by
  obtain ⟨text, answer, hanswer, -⟩ | ⟨failure', hfailure, houtcome⟩ := run_answer i w
  · cases h.symm.trans hanswer
  · cases h.symm.trans hfailure
    exact houtcome

end Invocation

end SnippetLint
