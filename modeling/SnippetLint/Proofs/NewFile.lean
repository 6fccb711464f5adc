import Mathlib.Data.List.Induction
import SnippetLint.Proofs.Growth
import SnippetLint.Proofs.Resolve
import SnippetLint.Proofs.RunResult

/-!
# Writing a new file

Code is generated into a file only if nothing is at its path. The path is followed twice, though: to
see whether anything is there, and again to write the file, after the directories on the way have
been made. A double dot after a directory that was missing leads nowhere the first time and upwards
the second time, so that the path may lead to a file that has been there before. This cannot happen
to a path that is `Grounded`, in which every double dot comes after segments that lead somewhere.

In every case the file that the path leads to in the end is the only one that differs
(`Invocation.generate_writes_new_file`).
-/

namespace SnippetLint

namespace FileSystem

open FileTree

variable {fs fs' : FileSystem}

/-! ## Paths that lead to the same place later on -/

/-- The double dots of a path come where the path is known to lead somewhere. -/
def Grounded (fs : FileSystem) (path : String) : Prop :=
  ∃ known rest, Path.segments path.toList = known ++ rest ∧ ['.', '.'] ∉ rest ∧
    ∃ place, known.foldlM fs.step (fs.origin path.toList) = .ok place

/-- One comes to a place by some segments if one comes there by the first of them and then by the
others. -/
lemma follow_append {front back : List (List Char)} {place last : Place} :
    (front ++ back).foldlM fs.step place = .ok last ↔
      ∃ next, front.foldlM fs.step place = .ok next ∧ back.foldlM fs.step next = .ok last := by
  rw [List.foldlM_append, bind_eq_ok]

lemma follow_cons {segment : List Char} {segments : List (List Char)} {place last : Place} :
    (segment :: segments).foldlM fs.step place = .ok last ↔
      ∃ next, fs.step place segment = .ok next ∧ segments.foldlM fs.step next = .ok last := by
  rw [List.foldlM_cons, bind_eq_ok]

/-- Without double dots a path leads downwards only. -/
lemma above_of_follow {segments : List (List Char)} (hdots : ['.', '.'] ∉ segments)
    {place last : Place} (h : segments.foldlM fs.step place = .ok last) : place <+: last := by
  induction segments generalizing place with
  | nil =>
    obtain rfl : place = last := Except.ok.inj h
    exact List.prefix_rfl
  | cons segment segments ih =>
    rw [List.mem_cons, not_or] at hdots
    obtain ⟨next, hstep, hrest⟩ := follow_cons.mp h
    have hnext := ih hdots.2 hrest
    obtain ⟨-, ⟨-, rfl⟩ | ⟨hup, -⟩ | ⟨-, rfl, -⟩⟩ := step_eq_ok_iff.mp hstep
    · exact hnext
    · exact absurd hup.symm hdots.1
    · exact (List.prefix_append place _).trans hnext

/-- A way downwards to something that has been there before has been there before. -/
lemma Extends.follow_back (h : Extends fs fs') {segments : List (List Char)}
    (hdots : ['.', '.'] ∉ segments) {place last : Place}
    (hfollow : segments.foldlM fs'.step place = .ok last) (hlast : fs.root.kindAt last ≠ .nothing) :
    segments.foldlM fs.step place = .ok last := by
  -- Along the segments: all that is passed is above `last`, so it has been there before as well.
  induction segments generalizing place with
  | nil => exact hfollow
  | cons segment segments ih =>
    have hway := above_of_follow hdots hfollow
    rw [List.mem_cons, not_or] at hdots
    obtain ⟨next, hstep, hrest⟩ := follow_cons.mp hfollow
    have hnext := above_of_follow hdots.2 hrest
    refine follow_cons.mpr ⟨next, ?_, ih hdots.2 hrest⟩
    rw [step_eq_ok_iff] at hstep ⊢
    obtain ⟨hplace, hsegment⟩ := hstep
    -- What is a directory now and was there was no file, since a file would still be one.
    have hbefore : fs.root.kindAt place = .directory := by
      cases hkind : fs.root.kindAt place with
      | directory => rfl
      | nothing => exact absurd hkind (kindAt_ne_nothing_of_above hway hlast)
      | file content =>
        obtain ⟨content', hfile⟩ := h.file place content hkind
        simp [hplace] at hfile
    refine ⟨hbefore, hsegment.imp_right (Or.imp_right ?_)⟩
    rintro ⟨hname, rfl, -⟩
    exact ⟨hname, rfl, kindAt_ne_nothing_of_above hnext hlast⟩

/-- If a grounded path comes to lead to something that has been there before, it has led there
before. -/
lemma Grounded.resolve (hpath : fs.Grounded path) (h : Extends fs fs') {place : Place}
    (hresolve : fs'.resolve path = .ok place) (hplace : fs.root.kindAt place ≠ .nothing) :
    fs.resolve path = .ok place := by
  obtain ⟨known, rest, hsegments, hdots, before, hknown⟩ := hpath
  obtain ⟨hne, hfollow⟩ := resolve_eq_ok_iff.mp hresolve
  rw [hsegments, h.origin] at hfollow
  obtain ⟨before', hknown', hrest⟩ := follow_append.mp hfollow
  obtain rfl : before = before' := Except.ok.inj ((h.follow hknown).symm.trans hknown')
  refine resolve_eq_ok_iff.mpr ⟨hne, ?_⟩
  rw [hsegments]
  exact follow_append.mpr ⟨before, hknown, h.follow_back hdots hrest hplace⟩

/-- A path leads to something if there is something at its place. -/
lemma hasPath_of_resolve {path : String} {place : Place} (h : fs.resolve path = .ok place)
    (hplace : fs.root.kindAt place ≠ .nothing) : fs.hasPath path = true := by
  obtain ⟨t, ht⟩ := Option.ne_none_iff_exists'.mp (mt kindAt_eq_nothing_iff.mpr hplace)
  rw [hasPath, find_eq_ok_iff.mpr ⟨place, h, ht⟩]
  rfl

/-! ## Writing -/

lemma dropWhile_reverse_of_getLast?_ne {α : Type} [BEq α] [LawfulBEq α] {l : List α} {a : α}
    (h : l.getLast? ≠ some a) : (l.reverse.dropWhile (· == a)).reverse = l := by
  induction l using List.reverseRecOn with
  | nil => rfl
  | append_singleton l b _ =>
    have hb : (b == a) = false := by simpa using h
    simp [hb]

/-- A text is written to the place that the path leads to then, which has been no directory, and
nothing else changes. -/
lemma write_eq_ok {path text : String} (h : fs.write path text = .ok fs') :
    Extends fs fs' ∧ ∃ place, fs'.resolve path = .ok place ∧
      fs'.root.kindAt place = .file text.toUTF8 ∧ fs.root.kindAt place ≠ .directory ∧
      ∀ other ≠ place, fs'.root.kindAt other = fs.root.kindAt other := by
  obtain ⟨⟨place, segment⟩, hlast, h⟩ := bind_eq_ok.mp h
  obtain ⟨front, hsegments, hfront, hplace⟩ := lastStep_eq_ok hlast
  dsimp only at h
  split at h
  · cases h
  next hname =>
  rw [Bool.or_eq_true, not_or, Bool.not_eq_true, beq_iff_eq] at hname
  obtain ⟨hname, hslash⟩ := hname
  rw [dropWhile_reverse_of_getLast?_ne hslash] at hsegments
  obtain ⟨hold, rfl⟩ : fs.root.kindAt (place ++ [String.ofList segment]) ≠ .directory ∧
      fs' = fs.put (place ++ [String.ofList segment]) (.file text.toUTF8) := by
    split at h
    · cases h
    · next hget =>
      refine ⟨?_, (Except.ok.inj h).symm⟩
      rw [Ne, kindAt_eq_directory_iff]
      rintro ⟨entries, hentries⟩
      exact hget entries hentries
  have hextends := Extends.put hplace hold (kindAt_file_below text.toUTF8) (.inr ⟨_, rfl⟩)
  have hnew : (fs.put (place ++ [String.ofList segment]) (.file text.toUTF8)).root.kindAt
      (place ++ [String.ofList segment]) = .file text.toUTF8 := kindAt_put_below hplace _ _ []
  refine ⟨hextends, _, resolve_eq_ok_iff.mpr ⟨?_, ?_⟩, hnew, hold,
    fun other hother => kindAt_put_of_ne hplace hold (kindAt_file_below _) hother⟩
  -- The empty path has one segment, which is no name.
  · intro hempty
    have hsingle : [] ++ [[]] = front ++ [segment] := by rwa [hempty] at hsegments
    obtain ⟨-, hsegment⟩ := List.append_inj' hsingle rfl
    obtain rfl : [] = segment := List.singleton_inj.mp hsegment
    cases hname
  · rw [hsegments, hextends.origin]
    refine follow_append.mpr ⟨place, hextends.follow hfront, follow_cons.mpr ⟨_, ?_, rfl⟩⟩
    refine step_eq_ok_iff.mpr ⟨hextends.directory place hplace, .inr (.inr ⟨hname, rfl, ?_⟩)⟩
    rw [hnew]
    rintro ⟨⟩

end FileSystem

/-! ## Runs that write -/

namespace Run

open FileSystem

lemma get_run (s : Effects) : (get : Run Effects).run.run s = (.ok s, s) := rfl

/-- Before a file is written, nothing is added but directories. -/
lemma makeParent_run (path : String) (s : Effects) :
    ∃ made, Grows s.files made ∧
      ((makeParent path).run.run s = (.ok (), { s with files := made }) ∨
        ∃ failure, (makeParent path).run.run s = (.error failure, { s with files := made })) := by
  rw [makeParent]
  dsimp only
  generalize String.ofList ((Path.parent? path.toList).getD []) = parent
  split
  · refine ⟨_, makeDirectories_grows s.files parent, ?_⟩
    cases hresult : (s.files.makeDirectories parent).1 with
    | ok made =>
      left
      change ((s.files.makeDirectories parent).1.mapError (Failure.directoryNotMade parent), _) = _
      rw [hresult]
      rfl
    | error reason =>
      right
      refine ⟨.directoryNotMade parent reason, ?_⟩
      change ((s.files.makeDirectories parent).1.mapError (Failure.directoryNotMade parent), _) = _
      rw [hresult]
      rfl
  · exact ⟨s.files, .refl s.files, .inl rfl⟩

/-- All that writing a new file can do: to leave everything as it is if something is at the path,
to fail after some directories have been made, or to write the file after that. -/
inductive WritesNew (path code : String) (s : Effects) : Except Failure Unit × Effects → Prop
  | taken (there : s.files.hasPath path = true) :
      WritesNew path code s (.error (.outputExists path), s)
  | failed {made : FileSystem} (free : s.files.hasPath path = false) (grows : Grows s.files made)
      (failure : Failure) : WritesNew path code s (.error failure, { s with files := made })
  | written {made files : FileSystem} (free : s.files.hasPath path = false)
      (grows : Grows s.files made) (write : made.write path code = .ok files) :
      WritesNew path code s (.ok (), { s with files := files })

lemma writeNew_run (path code : String) (s : Effects) :
    WritesNew path code s ((writeNew path code).run.run s) := by
  rw [writeNew, bind_run_ok (get_run s)]
  cases hthere : s.files.hasPath path with
  | true =>
    rw [if_pos rfl]
    exact .taken hthere
  | false =>
    rw [if_neg Bool.false_ne_true]
    dsimp only
    obtain ⟨made, hgrows, hrun | ⟨failure, hrun⟩⟩ := makeParent_run path s
    · rw [bind_run_ok hrun, bind_run_ok (get_run _)]
      cases hwrite : made.write path code with
      | ok files => exact .written hthere hgrows hwrite
      | error reason => exact .failed hthere hgrows (.notWritten path reason)
    · rw [bind_run_error hrun]
      exact .failed hthere hgrows failure

end Run

/-! ## What comes out of generating code -/

open FileSystem FileTree

/-- All that can come out of generating code. -/
inductive Generates (w : World) (g : GenerateArguments) (o : Outcome) : Prop
  | blank (prompt : isBlankText g.prompt = true) (code : o.exitCode = 2) (files : o.files = w.files)
  | printed (prompt : isBlankText g.prompt = false) (nowhere : g.output = none)
      (code : o.exitCode = 0) (files : o.files = w.files)
      (output : o.output = [plain (TemplateStore.bundled.generate g.prompt g.language)])
  | taken {path : String} (prompt : isBlankText g.prompt = false) (output : g.output = some path)
      (there : w.files.hasPath path = true) (code : o.exitCode = 2) (files : o.files = w.files)
  | failed {path : String} (prompt : isBlankText g.prompt = false) (output : g.output = some path)
      (free : w.files.hasPath path = false) (code : o.exitCode = 2) (grows : Grows w.files o.files)
  | written {path : String} {made : FileSystem} (prompt : isBlankText g.prompt = false)
      (output : g.output = some path) (free : w.files.hasPath path = false) (code : o.exitCode = 0)
      (grows : Grows w.files made)
      (write : made.write path (TemplateStore.bundled.generate g.prompt g.language) = .ok o.files)

namespace Invocation

open Run

lemma run_generates (w : World) (verbosity : Nat) (g : GenerateArguments) :
    Generates w g ((⟨verbosity, .generate g⟩ : Invocation).run w) := by
  cases hprompt : isBlankText g.prompt with
  | true =>
    have hblank : Assistant.builtin.generate g.prompt g.language = .error ⟨.prompt⟩ := by
      rw [Assistant.generate, if_pos hprompt]
    have hrun : (generate g).run.run { files := w.files } =
        (.error (.blank ⟨.prompt⟩), { files := w.files }) := by
      rw [generate, hblank]
      exact bind_run_error rfl
    rw [run_of_failure ⟨verbosity, .generate g⟩ w hrun]
    exact .blank hprompt rfl rfl
  | false =>
    have hcode : Assistant.builtin.generate g.prompt g.language =
        .ok (TemplateStore.bundled.generate g.prompt g.language) := by
      rw [Assistant.generate, hprompt, if_neg Bool.false_ne_true]
      rfl
    generalize htext : TemplateStore.bundled.generate g.prompt g.language = text at hcode
    cases houtput : g.output with
    | none =>
      have hrun : (generate g).run.run { files := w.files } = (.ok {},
          { files := w.files, output := [plain text],
            events := [generationEvent g.prompt g.language] }) := by
        rw [generate, hcode, houtput]
        rfl
      rw [run_of_answer ⟨verbosity, .generate g⟩ w hrun]
      exact .printed hprompt houtput rfl rfl (by rw [htext]; rfl)
    | some path =>
      have hrun : (generate g).run.run { files := w.files } =
          (writeNew path text >>= fun _ => (do
            print [plain ("Wrote " ++ path ++ " (" ++
              decimal (Text.lineCount text.toList) ++ " lines)\n")]
            return {} : Run Answer)).run.run
              { files := w.files, events := [generationEvent g.prompt g.language] } := by
        rw [generate, hcode, houtput]
        rfl
      have hwrites := writeNew_run path text
        { files := w.files, events := [generationEvent g.prompt g.language] }
      generalize hresult : (writeNew path text).run.run _ = result at hwrites
      -- Nothing fails any more once the file has been written.
      cases hwrites with
      | taken there =>
        rw [run_of_failure ⟨verbosity, .generate g⟩ w (hrun.trans (bind_run_error hresult))]
        exact .taken hprompt houtput there rfl rfl
      | failed free grows failure =>
        rw [run_of_failure ⟨verbosity, .generate g⟩ w (hrun.trans (bind_run_error hresult))]
        exact .failed hprompt houtput free rfl grows
      | written free grows write =>
        rw [run_of_answer ⟨verbosity, .generate g⟩ w (hrun.trans (bind_run_ok hresult))]
        exact .written hprompt houtput free rfl grows (by rw [htext]; exact write)

end Invocation

namespace Generates

variable {w : World} {g : GenerateArguments} {o : Outcome}

lemma exitCode (h : Generates w g o) : o.exitCode = 0 ∨ o.exitCode = 2 := by
  cases h with
  | printed _ _ code => exact .inl code
  | written _ _ _ code => exact .inl code
  | blank _ code => exact .inr code
  | taken _ _ _ code => exact .inr code
  | failed _ _ _ code => exact .inr code

/-- A request that is refused changes nothing. -/
lemma unchanged (h : Generates w g o)
    (hrefused : isBlankText g.prompt = true ∨ ∃ path ∈ g.output, w.files.hasPath path = true) :
    o.files = w.files ∧ o.exitCode = 2 := by
  cases h with
  | blank _ code files => exact ⟨files, code⟩
  | taken _ _ _ code files => exact ⟨files, code⟩
  | printed prompt nowhere => simp [prompt, nowhere] at hrefused
  | failed prompt output free => simp [prompt, output, free] at hrefused
  | written prompt output free => simp [prompt, output, free] at hrefused

lemma unchanged_of_nowhere (h : Generates w g o) (hnowhere : g.output = none) :
    o.files = w.files := by
  cases h with
  | blank _ _ files => exact files
  | printed _ _ _ files => exact files
  | taken _ output => simp [hnowhere] at output
  | failed _ output => simp [hnowhere] at output
  | written _ output => simp [hnowhere] at output

/-- If a run fails, no file has changed and none has been made. -/
lemma same_files (h : Generates w g o) (hcode : o.exitCode = 2) (place : Place)
    (content : ByteArray) : o.files.root.get? place = some (.file content) ↔
      w.files.root.get? place = some (.file content) := by
  cases h with
  | blank _ _ files => rw [files]
  | taken _ _ _ _ files => rw [files]
  | failed _ _ _ _ grows =>
    rw [← kindAt_eq_file_iff, ← kindAt_eq_file_iff, grows.kindAt_file_iff]
  | printed _ _ code => simp [hcode] at code
  | written _ _ _ code => simp [hcode] at code

/-- Without a path, what would be written is printed. -/
lemma printed_text (h : Generates w { g with output := none } o)
    (hprompt : isBlankText g.prompt = false) : o.exitCode = 0 ∧
      ∀ color, o.output.render color = TemplateStore.bundled.generate g.prompt g.language := by
  cases h with
  | printed _ _ code _ output =>
    refine ⟨code, fun color => ?_⟩
    rw [output]
    simp [StyledText.render, Piece.render, plain, String.join]
  | blank prompt => simp [hprompt] at prompt
  | taken _ output => cases output
  | failed _ output => cases output
  | written _ output => cases output

/-- If a run succeeds, its path has led nowhere and leads to the written file now, and no other file
has changed. What the path leads to now was there before only if the path was not grounded. -/
lemma exists_place (h : Generates w g o) (hcode : o.exitCode = 0) {path : String}
    (hpath : g.output = some path) :
    isBlankText g.prompt = false ∧ w.files.hasPath path = false ∧
      ∃ place, o.files.resolve path = .ok place ∧
        o.files.root.get? place =
          some (.file (TemplateStore.bundled.generate g.prompt g.language).toUTF8) ∧
        (∀ other ≠ place, ∀ content, o.files.root.get? other = some (.file content) ↔
          w.files.root.get? other = some (.file content)) ∧
        (w.files.Grounded path → w.files.root.get? place = none) := by
  cases h with
  | blank _ code => simp [hcode] at code
  | printed _ nowhere => simp [hpath] at nowhere
  | taken _ _ _ code => simp [hcode] at code
  | failed _ _ _ code => simp [hcode] at code
  | written prompt output free _ grows write =>
    obtain rfl : path = _ := Option.some.inj (hpath.symm.trans output)
    obtain ⟨hextends, place, hresolve, htext, -, hother⟩ := write_eq_ok write
    refine ⟨prompt, free, place, hresolve, kindAt_eq_file_iff.mp htext, fun other hne content => ?_,
      fun hgrounded => ?_⟩
    · rw [← kindAt_eq_file_iff, ← kindAt_eq_file_iff, hother other hne, grows.kindAt_file_iff]
    · rw [← kindAt_eq_nothing_iff]
      -- A grounded path would have led there before, so it was not free.
      by_contra hplace
      have hbefore := hgrounded.resolve (grows.toExtends.trans hextends) hresolve hplace
      rw [hasPath_of_resolve hbefore hplace] at free
      cases free

/-- Files are kept where the path is grounded, or none is written. -/
lemma kept (h : Generates w g o) (hgrounded : ∀ path ∈ g.output, w.files.Grounded path)
    {place : Place} {content : ByteArray} (hfile : w.files.root.get? place = some (.file content)) :
    o.files.root.get? place = some (.file content) := by
  obtain hcode | hcode := h.exitCode
  · cases houtput : g.output with
    | none => rwa [h.unchanged_of_nowhere houtput]
    | some path =>
      obtain ⟨-, -, written, -, -, hother, hfree⟩ := h.exists_place hcode houtput
      have hne : place ≠ written := by
        rintro rfl
        simp [hfree (hgrounded path houtput)] at hfile
      exact (hother place hne content).mpr hfile
  · exact (h.same_files hcode place content).mpr hfile

end Generates

namespace Invocation

/-- Nothing changes if the prompt is blank or something is at the path, and no file changes if the
run fails. If code is generated into a file, nothing was at its path, the path leads to a file with
the very text that is printed without a path, and no other file differs. Files that have been there
are kept, then, unless the path has come to lead to one of them on account of a double dot after a
directory that was missing. -/
theorem generate_writes_new_file (w : World) (verbosity : Nat) (g : GenerateArguments) :
    let o := (⟨verbosity, .generate g⟩ : Invocation).run w
    let printed := (⟨verbosity, .generate { g with output := none }⟩ : Invocation).run w
    (o.exitCode = 0 ∨ o.exitCode = 2) ∧
    (isBlankText g.prompt = true ∨ (∃ path ∈ g.output, w.files.hasPath path = true) →
      o.files = w.files ∧ o.exitCode = 2) ∧
    (o.exitCode = 2 → ∀ place content, o.files.root.get? place = some (.file content) ↔
      w.files.root.get? place = some (.file content)) ∧
    (g.output = none → o.files = w.files) ∧
    (o.exitCode = 0 → ∀ path ∈ g.output, w.files.hasPath path = false ∧ printed.exitCode = 0 ∧
      ∃ place, o.files.resolve path = .ok place ∧
        (∀ color, o.files.root.get? place =
          some (.file (StyledText.render color printed.output).toUTF8)) ∧
        (∀ other ≠ place, ∀ content, o.files.root.get? other = some (.file content) ↔
          w.files.root.get? other = some (.file content)) ∧
        (w.files.Grounded path → w.files.root.get? place = none)) ∧
    ((∀ path ∈ g.output, w.files.Grounded path) → ∀ place content,
      w.files.root.get? place = some (.file content) →
        o.files.root.get? place = some (.file content)) := by
  intro o printed
  have ho : Generates w g o := run_generates w verbosity g
  have hprinted : Generates w { g with output := none } printed := run_generates w verbosity _
  refine ⟨ho.exitCode, ho.unchanged, ho.same_files, ho.unchanged_of_nowhere,
    fun hcode path hpath => ?_, fun hgrounded place content => ho.kept hgrounded⟩
  obtain ⟨hprompt, hfree, place, hresolve, htext, hother, hbefore⟩ := ho.exists_place hcode hpath
  obtain ⟨hcode', hrender⟩ := hprinted.printed_text hprompt
  refine ⟨hfree, hcode', place, hresolve, fun color => ?_, hother, hbefore⟩
  rw [hrender color]
  exact htext

/-- A working directory with a file and an empty directory. -/
def keptFiles : World :=
  ⟨{ root := .directory [("keep.py", .file "print(1)".toUTF8), ("sub", .empty)],
     workingDirectory := [] }, none, .empty⟩

/-- A new file is written into a new directory, which the path names after it has gone up again. -/
theorem generate_writes_new_file_up :
    let g : GenerateArguments := ⟨"factorial", "python", some "sub/../new/a.py"⟩
    let o := (⟨0, .generate g⟩ : Invocation).run keptFiles
    o.exitCode = 0 ∧ keptFiles.files.Grounded "sub/../new/a.py" ∧
      keptFiles.files.root.get? ["keep.py"] = some (.file "print(1)".toUTF8) ∧
      o.files.root.get? ["keep.py"] = some (.file "print(1)".toUTF8) ∧
      ∃ place, o.files.resolve "sub/../new/a.py" = .ok place ∧
        keptFiles.files.root.get? place = none ∧
        ∃ content, o.files.root.get? place = some (.file content) := by
  intro g o
  have hcode : o.exitCode = 0 := by decide +kernel
  have hgrounded : keptFiles.files.Grounded "sub/../new/a.py" :=
    ⟨["sub".toList, "..".toList], ["new".toList, "a.py".toList], by decide, by decide, [],
      by decide +kernel⟩
  have hkeep : keptFiles.files.root.get? ["keep.py"] = some (.file "print(1)".toUTF8) := rfl
  obtain ⟨-, -, -, -, hwritten, hkept⟩ := generate_writes_new_file keptFiles 0 g
  obtain ⟨-, -, place, hresolve, htext, -, hfree⟩ := hwritten hcode _ rfl
  refine ⟨hcode, hgrounded, hkeep, hkept ?_ _ _ hkeep, place, hresolve, hfree hgrounded, _,
    htext false⟩
  rintro path ⟨⟩
  exact hgrounded

/-- A path that goes up from a directory that is missing can lead to a file, which is lost. -/
theorem exists_file_overwritten :
    ¬ ∀ (w : World) (verbosity : Nat) (g : GenerateArguments) (place : FileSystem.Place)
      (content : ByteArray), w.files.root.get? place = some (.file content) →
        ((⟨verbosity, .generate g⟩ : Invocation).run w).files.root.get? place =
          some (.file content) := by
  intro h
  let g : GenerateArguments := ⟨"factorial", "python", some "missing/../keep.py"⟩
  let o := (⟨0, .generate g⟩ : Invocation).run keptFiles
  have hkept : o.files.root.get? ["keep.py"] = some (.file "print(1)".toUTF8) := h _ _ _ _ _ rfl
  have hcode : o.exitCode = 0 := by decide +kernel
  have hresolve : o.files.resolve "missing/../keep.py" = .ok ["keep.py"] := by decide +kernel
  obtain ⟨-, -, place, hplace, htext, -⟩ := (run_generates keptFiles 0 g).exists_place hcode rfl
  obtain rfl : ["keep.py"] = place := Except.ok.inj (hresolve.symm.trans hplace)
  have hsame : TemplateStore.bundled.generate g.prompt g.language = "print(1)" := by
    simpa [String.toByteArray_inj] using htext.symm.trans hkept
  exact absurd hsame (by decide +kernel)

end Invocation

end SnippetLint
