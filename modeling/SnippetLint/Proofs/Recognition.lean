import SnippetLint.Proofs.AsciiCase
import SnippetLint.Proofs.Extension
import SnippetLint.Proofs.WhiteSpace

/-!
# Which texts name a language

The texts that name a language, the extensions that tell one, and the paths of the files that are in
one are described here without the lower case form of a text and without the parts of a path. A name
is one of a short list, up to the case of ASCII letters, with blanks around it
(`Language.names_iff`); an extension is one of another list, without blanks
(`Language.ofExtension?_eq_some_iff`); and of a path only the last component counts, of which the
extension is what follows the last dot, unless that comes first (`Path.LastComponent`,
`Path.nameExtension?_eq_some_iff`).
-/

namespace SnippetLint

/-! ## Names and extensions -/

namespace Language

open Text

/-- The names and the extensions of all languages are plain words without blanks. -/
lemma plain_words : ∀ l ∈ all, ∀ word ∈ l.names ++ l.extensions,
    Plain word.toList ∧ word.toList ≠ [] ∧ word.toList.any Unicode.isBlank = false := by
  decide +kernel

lemma plain_name {l : Language} {name : String} (h : name ∈ l.names) : Plain name.toList :=
  (plain_words l (mem_all l) name (List.mem_append_left _ h)).1

lemma plain_extension {l : Language} {ext : String} (h : ext ∈ l.extensions) : Plain ext.toList :=
  (plain_words l (mem_all l) ext (List.mem_append_right _ h)).1

/-- A name in any spelling has no blanks. -/
lemma isBlank_of_sameLetters {l : Language} {name : String} (hname : name ∈ l.names)
    {w : List Char} (hw : SameLetters w name.toList) : ∀ c ∈ w, Unicode.isBlank c = false := by
  obtain ⟨hplain, -, hblank⟩ := plain_words l (mem_all l) name (List.mem_append_left _ hname)
  intro c hc
  have hascii : IsAscii c := hplain.isAscii_of_sameLetters hw c hc
  have hlower : c.toLower ∈ name.toList := by
    rw [← hplain.sameLetters_iff.mp hw]
    exact List.mem_map_of_mem hc
  have hsame : Unicode.isBlank c.toLower = Unicode.isBlank c :=
    hascii.of_forall (P := fun c => Unicode.isBlank c.toLower = Unicode.isBlank c)
      (by decide +kernel)
  rw [← hsame]
  exact Bool.eq_false_iff.mpr (List.any_eq_false.mp hblank _ hlower)

/-- A text names a language if it is one of the names in any spelling, with blanks around it. -/
lemma names_iff (s : List Char) (l : Language) :
    Names s l ↔ ∃ front word back, s = front ++ word ++ back ∧
      (∀ c ∈ front, Unicode.isBlank c = true) ∧ (∀ c ∈ back, Unicode.isBlank c = true) ∧
      ∃ name ∈ l.names, SameLetters word name.toList := by
  constructor
  · rintro ⟨name, hname, hlower⟩
    obtain ⟨front, back, hs, hfront, hback⟩ := exists_blanks_trim s
    exact ⟨front, trim s, back, hs, hfront, hback, name, hname,
      (Unicode.lowercase_eq_iff (plain_name hname) _).mp hlower⟩
  · rintro ⟨front, word, back, rfl, hfront, hback, name, hname, hword⟩
    have hne : word ≠ [] := by
      rintro rfl
      have hname' := (plain_words l (mem_all l) name (List.mem_append_left _ hname)).2.1
      exact hname' (List.map_eq_nil_iff.mp hword.symm)
    refine ⟨name, hname, ?_⟩
    rw [trim_of_blanks hfront hback (isBlank_of_sameLetters hname hword) hne]
    exact (Unicode.lowercase_eq_iff (plain_name hname) _).mpr hword

/-- A search that can end at one language only finds that one, in whatever order it goes on. -/
lemma find?_eq_some_iff {order : List Language} (horder : ∀ l, l ∈ order) {p : Language → Bool}
    (hunique : ∀ l m, p l = true → p m = true → l = m) (l : Language) :
    order.find? p = some l ↔ p l = true := by
  constructor
  · exact List.find?_some
  · intro hl
    obtain ⟨m, hm⟩ := Option.isSome_iff_exists.mp (List.find?_isSome.mpr ⟨l, horder l, hl⟩)
    rw [hm, hunique m l (List.find?_some hm) hl]

/-- No name is shared by two languages, and no extension is. -/
lemma eq_of_shared : ∀ l ∈ all, ∀ m ∈ all,
    ((∃ name ∈ l.names, name ∈ m.names) ∨ ∃ ext ∈ l.extensions, ext ∈ m.extensions) → l = m := by
  decide

/-- A text names one language at most. -/
lemma Names.unique {s : List Char} {l m : Language} (hl : Names s l) (hm : Names s m) : l = m := by
  obtain ⟨name, hname, hlower⟩ := hl
  obtain ⟨name', hname', hlower'⟩ := hm
  obtain rfl := String.toList_inj.mp (hlower.symm.trans hlower')
  exact eq_of_shared l (mem_all l) m (mem_all m) (.inl ⟨name, hname, hname'⟩)

lemma contains_map_toList {words : List String} {w : List Char} :
    (words.map String.toList).contains w = true ↔ ∃ word ∈ words, w = word.toList := by
  simp only [List.contains_iff_mem, List.mem_map]
  exact exists_congr fun word => and_congr_right fun _ => eq_comm

/-- An identifier is parsed as the language that it names. -/
lemma parse?_eq_some_iff (s : String) (l : Language) : parse? s = some l ↔ Names s.toList l := by
  rw [parse?, find?_eq_some_iff mem_all, contains_map_toList, Names]
  intro l m hl hm
  exact Names.unique (contains_map_toList.mp hl) (contains_map_toList.mp hm)

/-- A text is an extension of a language in any spelling. -/
def HasExtension (l : Language) (ext : List Char) : Prop :=
  ∃ e ∈ l.extensions, SameLetters ext e.toList

/-- The search among the extensions of a language looks for an extension in any spelling. -/
lemma contains_extensions_iff (l : Language) (ext : List Char) :
    (l.extensions.map String.toList).contains (Unicode.lowercase ext) = true ↔
      l.HasExtension ext := by
  rw [contains_map_toList]
  refine exists_congr fun e => and_congr_right fun he => ?_
  exact Unicode.lowercase_eq_iff (plain_extension he) ext

lemma HasExtension.unique {l m : Language} {ext : List Char} (hl : l.HasExtension ext)
    (hm : m.HasExtension ext) : l = m := by
  obtain ⟨e, he, hsame⟩ := hl
  obtain ⟨e', he', hsame'⟩ := hm
  rw [(plain_extension he).sameLetters_iff] at hsame
  rw [(plain_extension he').sameLetters_iff] at hsame'
  obtain rfl := String.toList_inj.mp (hsame.symm.trans hsame')
  exact eq_of_shared l (mem_all l) m (mem_all m) (.inr ⟨e, he, he'⟩)

/-- The languages can be gone through in any order. -/
lemma find?_extensions_eq_some_iff {order : List Language} (horder : ∀ l, l ∈ order)
    (ext : List Char) (l : Language) :
    (order.find? fun l => (l.extensions.map String.toList).contains (Unicode.lowercase ext)) =
      some l ↔ l.HasExtension ext := by
  rw [find?_eq_some_iff horder, contains_extensions_iff]
  intro l m hl hm
  exact ((contains_extensions_iff l ext).mp hl).unique ((contains_extensions_iff m ext).mp hm)

lemma ofExtension?_eq_some_iff (ext : List Char) (l : Language) :
    ofExtension? ext = some l ↔ l.HasExtension ext :=
  find?_extensions_eq_some_iff mem_all ext l

end Language

/-! ## The last component of a path -/

namespace Path

/-- What may follow the last component of a path: slashes, and single dots between them. -/
inductive Silent : List Char → Prop
  | nil : Silent []
  | slash {s : List Char} (rest : Silent s) : Silent ('/' :: s)
  | dot {s : List Char} (rest : Silent s) : Silent ('/' :: '.' :: s)

/-- A path ends with a component, apart from what does not count. -/
def LastComponent (path name : List Char) : Prop :=
  ∃ front back, path = front ++ name ++ back ∧ (front = [] ∨ front.getLast? = some '/') ∧
    Silent back ∧ name ≠ [] ∧ name ≠ ['.'] ∧ '/' ∉ name

/-- Behind a component nothing follows but segments that do not count. -/
lemma segments_of_silent {back : List Char} (h : Silent back) {name : List Char}
    (hname : '/' ∉ name) :
    ∃ rest, segments (name ++ back) = name :: rest ∧ ∀ s ∈ rest, s = [] ∨ s = ['.'] := by
  induction h generalizing name with
  | nil => exact ⟨[], by rw [List.append_nil, segments, Text.splitAt_of_notMem hname], by simp⟩
  | @slash s _ ih =>
    obtain ⟨rest, hrest, hsilent⟩ := ih (show '/' ∉ [] by simp)
    refine ⟨[] :: rest, ?_, by simpa using hsilent⟩
    rw [segments, Text.splitAt_append_cons, Text.splitAt_of_notMem hname]
    exact congrArg _ hrest
  | @dot s _ ih =>
    obtain ⟨rest, hrest, hsilent⟩ := ih (show '/' ∉ ['.'] by decide)
    refine ⟨['.'] :: rest, ?_, by simpa using hsilent⟩
    rw [segments, Text.splitAt_append_cons, Text.splitAt_of_notMem hname]
    exact congrArg _ hrest

/-- Segments that do not count are a silent end of a path. -/
lemma silent_of_segments {rest : List (List Char)} (h : ∀ s ∈ rest, s = [] ∨ s = ['.']) :
    Silent (rest.flatMap ('/' :: ·)) := by
  induction rest with
  | nil => exact .nil
  | cons s rest ih =>
    have hrest := ih fun s hs => h s (List.mem_cons_of_mem _ hs)
    rw [List.flatMap_cons]
    obtain rfl | rfl := h s List.mem_cons_self
    · exact hrest.slash
    · exact hrest.dot

end Path

/-- A text is put together again from the parts before one of its parts, that part, and the parts
after it. -/
lemma Text.eq_of_splitAt {separator : Char} {s : List Char} {before after : List (List Char)}
    {part : List Char} (h : splitAt separator s = before ++ part :: after) :
    s = before.flatMap (· ++ [separator]) ++ part ++ after.flatMap (separator :: ·) ∧
      separator ∉ part := by
  induction s generalizing before part after with
  | nil =>
    rw [splitAt] at h
    cases before with
    | nil =>
      obtain ⟨rfl, rfl⟩ := List.cons.inj h
      exact ⟨rfl, by simp⟩
    | cons b before => simp at h
  | cons c s ih =>
    obtain ⟨first, rest, hfirst⟩ := List.exists_cons_of_ne_nil (splitAt_ne_nil separator s)
    rw [splitAt, hfirst] at h
    dsimp only at h
    split at h
    -- A separator puts an empty part in front of the others; any other character belongs to the
    -- first.
    · next hc =>
      cases before with
      | nil =>
        obtain ⟨rfl, rfl⟩ := List.cons.inj h
        obtain ⟨hs, -⟩ := ih (show splitAt separator s = [] ++ first :: rest from hfirst)
        exact ⟨by simpa [hc] using hs, by simp⟩
      | cons b before =>
        obtain ⟨rfl, hparts⟩ := List.cons.inj h
        obtain ⟨hs, hpart⟩ := ih (hfirst.trans hparts)
        exact ⟨by simpa [hc] using hs, hpart⟩
    · next hc =>
      cases before with
      | nil =>
        obtain ⟨rfl, rfl⟩ := List.cons.inj h
        obtain ⟨hs, hpart⟩ := ih (show splitAt separator s = [] ++ first :: rest from hfirst)
        exact ⟨by simpa using hs, by simp [Ne.symm hc, hpart]⟩
      | cons b before =>
        obtain ⟨rfl, hparts⟩ := List.cons.inj h
        have hsplit : splitAt separator s = (first :: before) ++ part :: after := by
          rw [hfirst, hparts]
          rfl
        obtain ⟨hs, hpart⟩ := ih hsplit
        exact ⟨by simpa using hs, hpart⟩

namespace Path

/-- The last of the components that count is the last component. -/
lemma getLast?_components_iff (path name : List Char) :
    (components path).getLast? = some name ↔ LastComponent path name := by
  rw [components]
  constructor
  · intro h
    rw [List.getLast?_filter, List.find?_eq_some_iff_append] at h
    obtain ⟨hname, behind, before, hsegments, hbehind⟩ := h
    obtain ⟨hempty, hdot⟩ : name ≠ [] ∧ name ≠ ['.'] := by simpa using hname
    -- The search goes through the segments backwards.
    have hsplit : segments path = before.reverse ++ name :: behind.reverse := by
      rw [← List.reverse_inj, hsegments]
      simp
    obtain ⟨hpath, hslash⟩ := Text.eq_of_splitAt hsplit
    refine ⟨_, _, hpath, ?_, ?_, hempty, hdot, hslash⟩
    · rw [List.flatMap_reverse]
      cases before <;> simp
    · refine silent_of_segments fun s hs => ?_
      have hsilent := hbehind s (List.mem_reverse.mp hs)
      by_contra hcounts
      rw [not_or] at hcounts
      simp [hcounts] at hsilent
  · rintro ⟨front, back, rfl, hfront, hback, hempty, hdot, hslash⟩
    -- What is behind the name gives segments that do not count.
    obtain ⟨rest, hrest, hsilent⟩ := segments_of_silent hback hslash
    have hsegments : ∃ before, segments (front ++ name ++ back) = before ++ name :: rest := by
      rw [List.append_assoc]
      obtain rfl | hlast := hfront
      · exact ⟨[], hrest⟩
      · obtain ⟨front, rfl⟩ := List.getLast?_eq_some_iff.mp hlast
        refine ⟨segments front, ?_⟩
        rw [List.append_assoc, List.singleton_append, segments, Text.splitAt_append_cons]
        exact congrArg _ hrest
    obtain ⟨before, hbefore⟩ := hsegments
    have hnone : (rest.filter fun s => s != [] && s != ['.']) = [] := by
      rw [List.filter_eq_nil_iff]
      intro s hs
      obtain rfl | rfl := hsilent s hs <;> simp
    rw [hbefore, List.filter_append, List.filter_cons_of_pos (by simp [hempty, hdot]), hnone]
    simp

/-- A path has one last component at most. -/
lemma LastComponent.unique {path name name' : List Char} (h : LastComponent path name)
    (h' : LastComponent path name') : name = name' := by
  rw [← getLast?_components_iff] at h h'
  exact Option.some.inj (h.symm.trans h')

/-- A double dot at the end of a path is not the name of a file. -/
lemma fileName?_eq_some_iff (path name : List Char) :
    fileName? path = some name ↔ LastComponent path name ∧ name ≠ ['.', '.'] := by
  rw [fileName?, Option.filter_eq_some_iff, getLast?_components_iff, bne_iff_ne]

lemma takeWhile_bne_of_notMem {c : Char} {s : List Char} (h : c ∉ s) (rest : List Char) :
    (s ++ c :: rest).takeWhile (· != c) = s := by
  have hall : ∀ d ∈ s, (d != c) = true :=
    fun d hd => bne_iff_ne.mpr (ne_of_mem_of_not_mem hd h)
  rw [List.takeWhile_append_of_pos hall]
  simp

lemma nameExtension?_of_notMem {name : List Char} (h : '.' ∉ name) :
    nameExtension? name = none := by
  have hall : ∀ c ∈ name.reverse, (c != '.') = true :=
    fun c hc => bne_iff_ne.mpr (ne_of_mem_of_not_mem (List.mem_reverse.mp hc) h)
  have htake : name.reverse.takeWhile (· != '.') = name.reverse :=
    List.takeWhile_eq_self_iff.mpr hall
  rw [nameExtension?, htake, List.length_reverse, if_neg (by omega)]

lemma nameExtension?_append {stem ext : List Char} (h : '.' ∉ ext) :
    nameExtension? (stem ++ '.' :: ext) = if stem = [] then none else some ext := by
  have hreverse : (stem ++ '.' :: ext).reverse = ext.reverse ++ '.' :: stem.reverse := by simp
  have hbehind : (stem ++ '.' :: ext).reverse.takeWhile (· != '.') = ext.reverse := by
    rw [hreverse, takeWhile_bne_of_notMem (by simpa using h)]
  have hlength : (stem ++ '.' :: ext).length = stem.length + ext.length + 1 := by
    simp only [List.length_append, List.length_cons]
    omega
  rw [nameExtension?, hbehind, List.reverse_reverse, List.length_reverse, hlength]
  cases stem with
  | nil => simp
  | cons c stem => simp

/-- The extension follows the last dot, if there is something before that dot. -/
lemma nameExtension?_eq_some_iff (name ext : List Char) :
    nameExtension? name = some ext ↔ ∃ stem, name = stem ++ '.' :: ext ∧ stem ≠ [] ∧ '.' ∉ ext := by
  constructor
  · intro h
    by_cases hdot : '.' ∈ name
    -- The last dot of a name is the first one if it is read backwards.
    · obtain ⟨behind, front, hname, hbehind⟩ :=
        List.eq_append_cons_of_mem (List.mem_reverse.mpr hdot)
      have hsplit : name = front.reverse ++ '.' :: behind.reverse := by
        rw [← List.reverse_inj, hname]
        simp
      have hext : '.' ∉ behind.reverse := by simpa using hbehind
      rw [hsplit, nameExtension?_append hext] at h
      split at h
      · cases h
      · next hstem =>
        obtain rfl := Option.some.inj h
        exact ⟨front.reverse, hsplit, hstem, hext⟩
    · rw [nameExtension?_of_notMem hdot] at h
      cases h
  · rintro ⟨stem, rfl, hstem, hext⟩
    rw [nameExtension?_append hext, if_neg hstem]

end Path

/-! ## What is recognized -/

namespace Language

open Text

/-- A path leads to a file of a language if its last component ends with an extension of it. -/
lemma ofPath?_eq_some_iff (path : String) (l : Language) :
    ofPath? path = some l ↔ ∃ name, Path.LastComponent path.toList name ∧ name ≠ ['.', '.'] ∧
      ∃ stem ext, name = stem ++ '.' :: ext ∧ stem ≠ [] ∧ '.' ∉ ext ∧ l.HasExtension ext := by
  simp only [ofPath?, Path.extension?, Option.bind_eq_some_iff, Path.fileName?_eq_some_iff,
    Path.nameExtension?_eq_some_iff, ofExtension?_eq_some_iff]
  constructor
  · rintro ⟨ext, ⟨name, ⟨hlast, hdots⟩, stem, hname, hstem, hext⟩, hl⟩
    exact ⟨name, hlast, hdots, stem, ext, hname, hstem, hext, hl⟩
  · rintro ⟨name, hlast, hdots, stem, ext, hname, hstem, hext, hl⟩
    exact ⟨ext, ⟨name, ⟨hlast, hdots⟩, stem, hname, hstem, hext⟩, hl⟩

/-- Nothing of a path counts but its last component. -/
lemma ofPath?_eq_of_lastComponent {path path' : String} {name : List Char}
    (h : Path.LastComponent path.toList name) (h' : Path.LastComponent path'.toList name) :
    ofPath? path = ofPath? path' := by
  rw [← Path.getLast?_components_iff] at h h'
  rw [ofPath?, ofPath?, Path.extension?, Path.extension?, Path.fileName?, Path.fileName?, h, h']

lemma isAscii_of_parse? {s : String} {l : Language} (h : parse? s = some l) :
    ∀ c ∈ trim s.toList, IsAscii c := by
  obtain ⟨name, hname, hlower⟩ := (parse?_eq_some_iff s l).mp h
  have hplain := plain_name hname
  exact hplain.isAscii_of_sameLetters ((Unicode.lowercase_eq_iff hplain _).mp hlower)

lemma HasExtension.isAscii {l : Language} {ext : List Char} (h : l.HasExtension ext) :
    ∀ c ∈ ext, IsAscii c := by
  obtain ⟨e, he, hsame⟩ := h
  exact (plain_extension he).isAscii_of_sameLetters hsame

/-- A text names a language if it is one of its names in any spelling, with blanks around it. An
extension tells a language if it is one of its extensions in any spelling, without blanks, and it
tells one language only, in whatever order the languages are gone through. A path leads to a file of
a language if its last component has such an extension, and no other component counts. Nothing
outside ASCII is part of a name or of an extension. -/
theorem recognized_exactly :
    (∀ s l, parse? s = some l ↔ ∃ front word back, s.toList = front ++ word ++ back ∧
      (∀ c ∈ front, Unicode.isBlank c = true) ∧ (∀ c ∈ back, Unicode.isBlank c = true) ∧
      ∃ name ∈ l.names, SameLetters word name.toList) ∧
    (∀ ext l, ofExtension? ext = some l ↔ l.HasExtension ext) ∧
    (∀ ext (l m : Language), l.HasExtension ext → m.HasExtension ext → l = m) ∧
    (∀ order : List Language, order.Perm all → ∀ ext, (order.find? fun l =>
      (l.extensions.map String.toList).contains (Unicode.lowercase ext)) = ofExtension? ext) ∧
    (∀ path l, ofPath? path = some l ↔ ∃ name, Path.LastComponent path.toList name ∧
      name ≠ ['.', '.'] ∧
      ∃ stem ext, name = stem ++ '.' :: ext ∧ stem ≠ [] ∧ '.' ∉ ext ∧ l.HasExtension ext) ∧
    (∀ (path path' : String) (name : List Char), Path.LastComponent path.toList name →
      Path.LastComponent path'.toList name → ofPath? path = ofPath? path') ∧
    (∀ s l, parse? s = some l → ∀ c ∈ trim s.toList, IsAscii c) ∧
    ∀ ext l, ofExtension? ext = some l → ∀ c ∈ ext, IsAscii c := by
  refine ⟨fun s l => ?_, ofExtension?_eq_some_iff, fun ext l m => HasExtension.unique,
    fun order horder ext => ?_, ofPath?_eq_some_iff, fun path path' name h h' => ?_,
    fun s l => isAscii_of_parse?, fun ext l h => ?_⟩
  · rw [parse?_eq_some_iff, names_iff]
  · have hall : ∀ l, l ∈ order := fun l => horder.mem_iff.mpr (mem_all l)
    ext l
    rw [find?_extensions_eq_some_iff hall, ofExtension?_eq_some_iff]
  · exact ofPath?_eq_of_lastComponent h h'
  · exact ((ofExtension?_eq_some_iff ext l).mp h).isAscii

/-- A path that ends with a hidden file, or goes on after its last component. -/
theorem recognized_exactly_trailing :
    cpp.HasExtension "Hpp".toList ∧ (∀ l : Language, l.HasExtension "Hpp".toList → cpp = l) ∧
    all.reverse.Perm all ∧ (all.reverse.find? fun l =>
      (l.extensions.map String.toList).contains (Unicode.lowercase "Hpp".toList)) =
        ofExtension? "Hpp".toList ∧
    Path.LastComponent "../.a.Hpp//./".toList ".a.Hpp".toList ∧
    Path.LastComponent ".a.Hpp".toList ".a.Hpp".toList ∧
    ofPath? "../.a.Hpp//./" = ofPath? ".a.Hpp" ∧ ofPath? ".a.Hpp" = some .cpp ∧
    parse? "\u2003JS\u0085" = some .javaScript ∧
    (∀ c ∈ trim "\u2003JS\u0085".toList, IsAscii c) ∧
    ofExtension? "Hpp".toList = some .cpp ∧ ∀ c ∈ "Hpp".toList, IsAscii c := by
  obtain ⟨-, hextends, hunique, horder, hpath, hlast, hname, hascii⟩ := recognized_exactly
  have hpp : cpp.HasExtension "Hpp".toList := ⟨"hpp", by decide, by decide +kernel⟩
  have htells : ofExtension? "Hpp".toList = some .cpp := (hextends _ _).mpr hpp
  have hperm : all.reverse.Perm all := List.reverse_perm all
  have hlong : Path.LastComponent "../.a.Hpp//./".toList ".a.Hpp".toList :=
    ⟨"../".toList, "//./".toList, by decide +kernel, .inr (by decide +kernel),
      .slash (.dot (.slash .nil)), by decide, by decide, by decide⟩
  have hshort : Path.LastComponent ".a.Hpp".toList ".a.Hpp".toList :=
    ⟨[], [], by decide, .inl rfl, .nil, by decide, by decide, by decide⟩
  have hfile : ofPath? ".a.Hpp" = some .cpp :=
    (hpath _ _).mpr ⟨_, hshort, by decide, ".a".toList, "Hpp".toList, by decide, by decide,
      by decide, hpp⟩
  have hparse : parse? "\u2003JS\u0085" = some .javaScript := by decide +kernel
  exact ⟨hpp, fun l => hunique _ _ _ hpp, hperm, horder _ hperm _, hlong, hshort,
    hlast _ _ _ hlong hshort, hfile, hparse, hname _ _ hparse, htells, hascii _ _ htells⟩

end Language

end SnippetLint
