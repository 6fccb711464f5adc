import Mathlib.Data.List.TakeDrop
import SnippetLint.Json.Reader

/-!
# The text of a JSON value

A value that is written with `Json.pretty` can be read again with `Json.parse?`: nothing is lost on
the way, whatever characters its strings hold. This file goes from the parts of a value to the
value: numbers, then strings, then items and members. All of them are read from the front of a
text, so each statement has a rest that is left over; a number asks of this rest that it does not
go on with digits.
-/

namespace SnippetLint.Json

open Text (decimalDigit hexDigit charOfCodePoint?)

/-! ## Numbers -/

/-- A text that a number does not go on with. -/
def Ends (rest : List Char) : Prop :=
  ∀ c ∈ rest.head?, c.isDigit = false ∧ c ≠ '.' ∧ c ≠ 'e' ∧ c ≠ 'E'

lemma ends_comma (rest : List Char) : Ends (',' :: rest) := by simp [Ends]

lemma ends_newLine (depth : Nat) (rest : List Char) : Ends (newLine depth ++ rest) := by
  simp [Ends, newLine]

/-- A digit stands for its number, and only zero is written as `0`. -/
lemma decimalDigit_spec {n : Nat} (h : n < 10) :
    (decimalDigit n).isDigit = true ∧ (decimalDigit n).toNat - '0'.toNat = n ∧
      (decimalDigit n = '0' → n = 0) := by
  have hall : ∀ n < 10, (decimalDigit n).isDigit = true ∧
      (decimalDigit n).toNat - '0'.toNat = n ∧ (decimalDigit n = '0' → n = 0) := by decide
  exact hall n h

lemma decimal_ne_nil (n : Nat) : Text.decimal n ≠ [] := by
  rw [Text.decimal]
  split <;> simp

lemma isDigit_of_mem_decimal (n : Nat) : ∀ c ∈ Text.decimal n, c.isDigit = true := by
  fun_induction Text.decimal n with
  | case1 n hn => simpa using (decimalDigit_spec hn).1
  | case2 n hn ih =>
    intro c hc
    obtain hc | hc := List.mem_append.mp hc
    · exact ih c hc
    · rw [List.mem_singleton.mp hc]
      exact (decimalDigit_spec (Nat.mod_lt n (by decide))).1

/-- The digits of a number make this number. -/
lemma digitsValue_decimal (n : Nat) : digitsValue (Text.decimal n) = n := by
  fun_induction Text.decimal n with
  | case1 n hn => simpa [digitsValue] using (decimalDigit_spec hn).2.1
  | case2 n hn ih =>
    have hlast := (decimalDigit_spec (Nat.mod_lt n (by decide : 0 < 10))).2.1
    rw [digitsValue] at ih ⊢
    rw [List.foldl_append, ih, List.foldl_cons, List.foldl_nil, hlast]
    omega

/-- A number does not begin with a zero, except for zero. -/
lemma head?_decimal {n : Nat} (h : 0 < n) : (Text.decimal n).head? ≠ some '0' := by
  fun_induction Text.decimal n with
  | case1 n hn =>
    intro hzero
    have := (decimalDigit_spec hn).2.2 (by simpa using hzero)
    omega
  | case2 n hn ih =>
    obtain ⟨c, digits, hdigits⟩ := List.exists_cons_of_ne_nil (decimal_ne_nil (n / 10))
    rw [hdigits] at ih ⊢
    exact ih (by omega)

/-- The digits at the front of a text are taken up to its rest. -/
lemma takeDigits?_append {digits rest : List Char} (hdigits : ∀ c ∈ digits, c.isDigit = true)
    (hne : digits ≠ []) (hrest : Ends rest) :
    takeDigits? (digits ++ rest) = some (digits, rest) := by
  have hnone : rest.takeWhile Char.isDigit = [] ∧ rest.dropWhile Char.isDigit = rest := by
    cases rest with
    | nil => simp
    | cons c rest => simp [(hrest c rfl).1]
  rw [takeDigits?, List.span_eq_takeWhile_dropWhile, List.takeWhile_append_of_pos hdigits,
    List.dropWhile_append_of_pos hdigits, hnone.1, hnone.2, List.append_nil]
  cases digits with
  | nil => exact absurd rfl hne
  | cons c digits => rfl

/-- No fraction is begun by what does not go on with a number. -/
lemma takeFraction?_of_ends {rest : List Char} (h : Ends rest) :
    takeFraction? rest = some ([], rest) := by
  cases rest with
  | nil => rfl
  | cons c rest =>
    have hc := (h c rfl).2.1
    simp [takeFraction?, hc]

lemma takeExponent?_of_ends {rest : List Char} (h : Ends rest) :
    takeExponent? rest = some ([], rest) := by
  cases rest with
  | nil => rfl
  | cons c rest =>
    obtain ⟨-, -, he, hE⟩ := h c rfl
    simp [takeExponent?, he, hE]

/-- A natural number is read as it is written. -/
lemma readUnsigned_decimal (n : Nat) {rest : List Char} (h : Ends rest) :
    readUnsigned false (Text.decimal n ++ rest) = some (.nat n, rest) := by
  have hzero : ¬ ((Text.decimal n).length > 1 ∧ (Text.decimal n).head? = some '0') := by
    rintro ⟨hlength, hhead⟩
    obtain rfl | hpos := Nat.eq_zero_or_pos n
    · simp [Text.decimal] at hlength
    · exact head?_decimal hpos hhead
  rw [readUnsigned, takeDigits?_append (isDigit_of_mem_decimal n) (decimal_ne_nil n) h]
  simp only [Option.bind_eq_bind, Option.bind_some]
  rw [if_neg hzero, takeFraction?_of_ends h]
  simp only [Option.bind_some]
  rw [takeExponent?_of_ends h]
  simp [digitsValue_decimal]

/-! ## Strings -/

/-- A control character is found again from the two digits that are written for it. -/
lemma hex4?_control {n : Nat} (h : n < 0x20) :
    hex4? '0' '0' (hexDigit (n / 16)) (hexDigit (n % 16)) = some n := by
  have hall : ∀ n < 0x20, hex4? '0' '0' (hexDigit (n / 16)) (hexDigit (n % 16)) = some n := by
    decide
  exact hall n h

/-- A code point below the surrogates that is written in full is read, whatever comes after it. If
that is written in full as well, the reader looks at both before it goes back to the second. -/
lemma readStringRest_codePoint {a b c d : Char} {n : Nat} (hn : hex4? a b c d = some n)
    (hlow : n < 0xD800) (taken rest : List Char) :
    readStringRest taken ('\\' :: 'u' :: a :: b :: c :: d :: rest) =
      readStringRest (Char.ofNat n :: taken) rest := by
  have hchar : charOfCodePoint? n = some (Char.ofNat n) := if_pos (.inl hlow)
  have hsingle : ¬ (0xD800 ≤ n ∧ n < 0xDC00) := by omega
  rw [readStringRest.eq_def]
  -- Two code points in a row, or one; no other equation of the reader applies.
  split
  case h_3 heq =>
    simp only [List.cons.injEq, true_and] at heq
    obtain ⟨rfl, rfl, rfl, rfl, rfl⟩ := heq
    simp [hn, hchar, hsingle]
  case h_4 heq =>
    simp only [List.cons.injEq, true_and] at heq
    obtain ⟨rfl, rfl, rfl, rfl, rfl⟩ := heq
    simp [hn, hchar]
  case h_5 hshort heq =>
    simp only [List.cons.injEq, true_and] at heq
    exact absurd heq.2.symm (hshort _ _ _ _ _ heq.1.symm)
  case h_6 hother heq =>
    simp only [List.cons.injEq] at heq
    exact absurd heq.2.symm (hother _ _ heq.1.symm)
  all_goals simp at *

/-- A character of a string is read as it is written. -/
lemma readStringRest_encodeChar (c : Char) (taken rest : List Char) :
    readStringRest taken (encodeChar c ++ rest) = readStringRest (c :: taken) rest := by
  rw [encodeChar.eq_def]
  split
  case h_8 =>
    split
    · next hcontrol =>
      have hread := readStringRest_codePoint (hex4?_control hcontrol) (by omega) taken rest
      rwa [Char.ofNat_toNat] at hread
    · next hcontrol =>
      change readStringRest taken (c :: rest) = _
      rw [readStringRest.eq_def]
      split
      case h_6 heq =>
        obtain ⟨rfl, rfl⟩ := List.cons.inj heq
        exact if_neg hcontrol
      all_goals simp_all
  all_goals
    change readStringRest taken ('\\' :: _) = _
    rw [readStringRest.eq_def]
    simp

/-- A string is read as it is written. -/
lemma readStringRest_encode (s taken rest : List Char) :
    readStringRest taken (s.flatMap encodeChar ++ '"' :: rest) =
      some (taken.reverse ++ s, rest) := by
  induction s generalizing taken with
  | nil => simp [readStringRest]
  | cons c s ih =>
    rw [List.flatMap_cons, List.append_assoc, readStringRest_encodeChar, ih]
    simp

/-! ## Values -/

/-- A value whose numbers are natural numbers. -/
inductive Plain : Json → Prop
  | null : Plain .null
  | bool (b : Bool) : Plain (.bool b)
  | nat (n : Nat) : Plain (.nat n)
  | string (s : String) : Plain (.string s)
  | array {items : List Json} (each : ∀ item ∈ items, Plain item) : Plain (.array items)
  | object {members : List (String × Json)} (each : ∀ m ∈ members, Plain m.2) :
      Plain (.object members)

/-- A character that a value can begin with: it is no blank, and it closes nothing. -/
def Opens (c : Char) : Prop := c ∉ [' ', '\t', '\n', '\r', ']', '\x7d']

instance : DecidablePred Opens := fun c => inferInstanceAs (Decidable (c ∉ _))

lemma opens_of_isDigit {c : Char} (h : c.isDigit = true) : Opens c := by
  intro hc
  simp only [List.mem_cons, List.not_mem_nil, or_false] at hc
  obtain rfl | rfl | rfl | rfl | rfl | rfl := hc <;> exact absurd h (by decide)

/-- The text of a value begins with a character that opens one. -/
lemma exists_cons_prettyAt {j : Json} (h : j.Plain) (depth : Nat) :
    ∃ c text, prettyAt depth j = c :: text ∧ Opens c := by
  cases h with
  | null => exact ⟨'n', _, rfl, by decide⟩
  | bool b =>
    cases b with
    | true => exact ⟨'t', _, rfl, by decide⟩
    | false => exact ⟨'f', _, rfl, by decide⟩
  | nat n =>
    obtain ⟨c, digits, hdigits⟩ := List.exists_cons_of_ne_nil (decimal_ne_nil n)
    exact ⟨c, digits, hdigits, opens_of_isDigit (isDigit_of_mem_decimal n c (by simp [hdigits]))⟩
  | string s => exact ⟨'"', _, rfl, by decide⟩
  | @array items each => cases items <;> exact ⟨'[', _, rfl, by decide⟩
  | @object members each => cases members <;> exact ⟨'\x7b', _, rfl, by decide⟩

lemma skipBlanks_cons (c : Char) (h : c ∉ [' ', '\t', '\n', '\r']) (s : List Char) :
    skipBlanks (c :: s) = c :: s := by
  rw [skipBlanks, List.dropWhile_cons_of_neg]
  simpa using h

/-- Nothing is skipped in front of a value. -/
lemma skipBlanks_of_opens {c : Char} (h : Opens c) (s : List Char) :
    skipBlanks (c :: s) = c :: s :=
  skipBlanks_cons c (fun hc => h (List.mem_append_left [']', '\x7d'] hc)) s

/-- A line feed and the blanks of its depth are skipped. -/
@[simp] lemma skipBlanks_newLine (depth : Nat) (s : List Char) :
    skipBlanks (newLine depth ++ s) = skipBlanks s := by
  have hblanks : ∀ n, skipBlanks (List.replicate n ' ' ++ s) = skipBlanks s := by
    intro n
    induction n with
    | zero => rfl
    | succ n ih => exact ih
  exact hblanks (2 * depth)

@[simp] lemma readValue_newLine (fuel depth : Nat) (s : List Char) :
    readValue fuel (newLine depth ++ s) = readValue fuel s := by
  cases fuel with
  | zero => simp [readValue]
  | succ fuel => rw [readValue, readValue, skipBlanks_newLine]

@[simp] lemma readItems_newLine (fuel depth : Nat) (s : List Char) :
    readItems fuel (newLine depth ++ s) = readItems fuel s := by
  cases fuel with
  | zero => simp [readItems]
  | succ fuel => rw [readItems, readItems, readValue_newLine]

@[simp] lemma readMembers_newLine (fuel depth : Nat) (s : List Char) :
    readMembers fuel (newLine depth ++ s) = readMembers fuel s := by
  cases fuel with
  | zero => simp [readMembers]
  | succ fuel => rw [readMembers, readMembers, skipBlanks_newLine]

/-- A value is read from the front of a text as it is written, however deep it stands. -/
def Readable (j : Json) : Prop :=
  ∀ depth fuel rest, 2 * (prettyAt depth j).length ≤ fuel → Ends rest →
    readValue fuel (prettyAt depth j ++ rest) = some (j, rest)

/-- Items that can be read one by one can be read together. -/
lemma readItems_joined {items : List Json} (each : ∀ item ∈ items, Readable item)
    (hne : items ≠ []) (depth outer fuel : Nat) (rest : List Char)
    (hfuel : 2 * (joined (',' :: newLine depth) (prettyItems depth items)).length < fuel) :
    readItems fuel (joined (',' :: newLine depth) (prettyItems depth items) ++
      (newLine outer ++ ']' :: rest)) = some (items, rest) := by
  -- Along the items: a comma or the bracket follows, and the text that is left gets shorter.
  induction items generalizing fuel with
  | nil => exact absurd rfl hne
  | cons item items ih =>
    obtain ⟨hitem, hitems⟩ := List.forall_mem_cons.mp each
    obtain ⟨fuel, rfl⟩ : ∃ n, fuel = n + 1 := ⟨fuel - 1, by omega⟩
    cases items with
    | nil =>
      simp only [prettyItems, joined] at hfuel ⊢
      rw [readItems, hitem depth fuel _ (by omega) (ends_newLine _ _)]
      simp [skipBlanks_cons ']' (by decide)]
    | cons next items =>
      have hjoined : joined (',' :: newLine depth) (prettyItems depth (item :: next :: items)) =
          prettyAt depth item ++ ',' :: (newLine depth ++
            joined (',' :: newLine depth) (prettyItems depth (next :: items))) := by
        simp [prettyItems, joined]
      rw [hjoined] at hfuel ⊢
      simp only [List.length_append, List.length_cons] at hfuel
      have hnext := ih hitems (List.cons_ne_nil _ _) fuel (by omega)
      rw [List.append_assoc, List.cons_append, List.append_assoc, readItems,
        hitem depth fuel _ (by omega) (ends_comma _)]
      simp [skipBlanks_cons ',' (by decide), hnext]

/-- How reading goes on after a member. -/
def afterMember (fuel : Nat) (key : String) (value : Json) :
    List Char → Option (List (String × Json) × List Char)
  | ',' :: rest =>
    (readMembers fuel rest).map fun (members, rest) => ((key, value) :: members, rest)
  | '\x7d' :: rest => some ([(key, value)], rest)
  | _ => none

/-- A member is read as it is written, and what comes after it says how to go on. -/
lemma readMembers_member {value : Json} (hvalue : Readable value) (key : String) {depth fuel : Nat}
    {rest : List Char} (hfuel : 2 * (prettyAt depth value).length ≤ fuel) (hrest : Ends rest) :
    readMembers (fuel + 1) (encodeString key ++ ':' :: ' ' :: (prettyAt depth value ++ rest)) =
      afterMember fuel key value (skipBlanks rest) := by
  have hblank (s : List Char) : readValue fuel (' ' :: s) = readValue fuel s := by
    cases fuel with
    | zero => simp [readValue]
    | succ fuel => rw [readValue, readValue, show skipBlanks (' ' :: s) = skipBlanks s from rfl]
  rw [encodeString, List.append_assoc, List.cons_append, readMembers,
    skipBlanks_cons '"' (by decide)]
  simp only [List.singleton_append, readStringRest_encode, Option.bind_eq_bind, Option.bind_some,
    List.reverse_nil, List.nil_append]
  rw [skipBlanks_cons ':' (by decide)]
  simp only [hblank, hvalue depth fuel rest hfuel hrest, Option.bind_some, String.ofList_toList]
  rfl

/-- Members of which the values can be read one by one can be read together. -/
lemma readMembers_joined {members : List (String × Json)} (each : ∀ m ∈ members, Readable m.2)
    (hne : members ≠ []) (depth outer fuel : Nat) (rest : List Char)
    (hfuel : 2 * (joined (',' :: newLine depth) (prettyMembers depth members)).length < fuel) :
    readMembers fuel (joined (',' :: newLine depth) (prettyMembers depth members) ++
      (newLine outer ++ '\x7d' :: rest)) = some (members, rest) := by
  induction members generalizing fuel with
  | nil => exact absurd rfl hne
  | cons member members ih =>
    obtain ⟨key, value⟩ := member
    obtain ⟨hvalue, hmembers⟩ := List.forall_mem_cons.mp each
    replace hvalue : Readable value := hvalue
    obtain ⟨fuel, rfl⟩ : ∃ n, fuel = n + 1 := ⟨fuel - 1, by omega⟩
    cases members with
    | nil =>
      simp only [prettyMembers, joined, List.length_append, List.length_cons] at hfuel ⊢
      rw [List.append_assoc, List.cons_append, List.cons_append,
        readMembers_member hvalue key (by omega) (ends_newLine _ _), skipBlanks_newLine,
        skipBlanks_cons '\x7d' (by decide), afterMember]
    | cons next members =>
      have hjoined : joined (',' :: newLine depth)
            (prettyMembers depth ((key, value) :: next :: members)) =
          encodeString key ++ ':' :: ' ' :: (prettyAt depth value ++ ',' :: (newLine depth ++
            joined (',' :: newLine depth) (prettyMembers depth (next :: members)))) := by
        simp [prettyMembers, joined]
      rw [hjoined] at hfuel ⊢
      simp only [List.length_append, List.length_cons] at hfuel
      have hnext := ih hmembers (List.cons_ne_nil _ _) fuel (by omega)
      rw [List.append_assoc, List.cons_append, List.cons_append, List.append_assoc,
        List.cons_append, List.append_assoc,
        readMembers_member hvalue key (by omega) (ends_comma _), skipBlanks_cons ',' (by decide),
        afterMember, readMembers_newLine, hnext, Option.map_some]

/-- A value that can be read with some fuel left can be read. -/
lemma readable_of_succ {j : Json} (h : j.Plain)
    (hread : ∀ depth fuel rest, 2 * (prettyAt depth j).length ≤ fuel + 1 → Ends rest →
      readValue (fuel + 1) (prettyAt depth j ++ rest) = some (j, rest)) : Readable j := by
  intro depth fuel rest hfuel hrest
  cases fuel with
  | zero =>
    obtain ⟨c, text, hfirst, -⟩ := exists_cons_prettyAt h depth
    simp [hfirst] at hfuel
  | succ fuel => exact hread depth fuel rest hfuel hrest

/-- Numbers are read as they are written, at any depth. -/
lemma readable_nat (n : Nat) : Readable (.nat n) := by
  refine readable_of_succ (.nat n) fun depth fuel rest _ hrest => ?_
  obtain ⟨c, digits, hdigits⟩ := List.exists_cons_of_ne_nil (decimal_ne_nil n)
  have hdigit := isDigit_of_mem_decimal n c (by simp [hdigits])
  have hread := readUnsigned_decimal n hrest
  rw [prettyAt, readValue]
  rw [hdigits, List.cons_append] at hread ⊢
  rw [skipBlanks_of_opens (opens_of_isDigit hdigit)]
  -- No digit begins any other value.
  split <;> simp_all

/-- Strings are read as they are written, whatever characters they have. -/
lemma readable_string (s : String) : Readable (.string s) := by
  refine readable_of_succ (.string s) fun depth fuel rest _ hrest => ?_
  rw [prettyAt, encodeString, List.append_assoc, List.cons_append, readValue,
    skipBlanks_cons '"' (by decide)]
  simp only [List.singleton_append, readStringRest_encode]
  simp

/-! ### Arrays and objects -/

/-- The text of parts between brackets, with a line for every part. -/
def bracketed (opening closing : Char) (depth : Nat) (parts : List (List Char)) : List Char :=
  opening :: newLine (depth + 1) ++ joined (',' :: newLine (depth + 1)) parts ++ newLine depth ++
    [closing]

lemma bracketed_append (opening closing : Char) (depth : Nat) (parts : List (List Char))
    (rest : List Char) : bracketed opening closing depth parts ++ rest =
      opening :: (newLine (depth + 1) ++ (joined (',' :: newLine (depth + 1)) parts ++
        (newLine depth ++ closing :: rest))) := by
  simp [bracketed]

/-- The text within brackets is shorter than the text with them, so the fuel for it is enough. -/
lemma length_joined_lt (opening closing : Char) (depth : Nat) (parts : List (List Char)) :
    (joined (',' :: newLine (depth + 1)) parts).length <
      (bracketed opening closing depth parts).length := by
  simp only [bracketed, List.length_append, List.length_cons]
  omega

/-- What is joined begins as its first part does. -/
lemma exists_cons_joined {c : Char} {text part : List Char} (h : part = c :: text)
    (separator : List Char) (parts : List (List Char)) :
    ∃ text, joined separator (part :: parts) = c :: text := by
  cases parts with
  | nil => exact ⟨text, h⟩
  | cons next parts =>
    exact ⟨text ++ separator ++ joined separator (next :: parts), by simp [joined, h]⟩

/-- After an opening bracket and a new line, items are read. -/
lemma readValue_bracket {c : Char} (h : Opens c) (fuel depth : Nat) (s : List Char) :
    readValue (fuel + 1) ('[' :: (newLine depth ++ c :: s)) =
      (readItems fuel (c :: s)).map fun (items, rest) => (.array items, rest) := by
  have hclose : c ≠ ']' := fun heq => absurd h (heq ▸ by decide)
  rw [readValue, skipBlanks_cons '[' (by decide)]
  simp [skipBlanks_of_opens h, hclose]

/-- After an opening brace and a new line, members are read. -/
lemma readValue_brace {c : Char} (h : Opens c) (fuel depth : Nat) (s : List Char) :
    readValue (fuel + 1) ('\x7b' :: (newLine depth ++ c :: s)) =
      (readMembers fuel (c :: s)).map fun (members, rest) => (.object members, rest) := by
  have hclose : c ≠ '\x7d' := fun heq => absurd h (heq ▸ by decide)
  rw [readValue, skipBlanks_cons '\x7b' (by decide)]
  simp [skipBlanks_of_opens h, hclose]

/-- An array is read as it is written if its items are. -/
lemma readable_array {items : List Json} (h : Plain (.array items))
    (each : ∀ item ∈ items, Readable item) : Readable (.array items) := by
  refine readable_of_succ h fun depth fuel rest hfuel _ => ?_
  cases items with
  | nil => rfl
  | cons item items =>
    have htext : prettyAt depth (.array (item :: items)) =
        bracketed '[' ']' depth (prettyItems (depth + 1) (item :: items)) := by
      rw [prettyAt, bracketed]
    have hlength := length_joined_lt '[' ']' depth (prettyItems (depth + 1) (item :: items))
    rw [htext] at hfuel ⊢
    have hitems := readItems_joined each (List.cons_ne_nil _ _) (depth + 1) depth fuel rest
      (by omega)
    have hitem : item.Plain := by
      cases h with
      | array each => exact each item List.mem_cons_self
    -- An item begins behind the bracket, so the array is not taken for an empty one.
    obtain ⟨c, text, hfirst, hopens⟩ := exists_cons_prettyAt hitem (depth + 1)
    obtain ⟨text, hjoined⟩ := exists_cons_joined hfirst (',' :: newLine (depth + 1))
      (prettyItems (depth + 1) items)
    rw [bracketed_append]
    rw [prettyItems, hjoined, List.cons_append] at hitems ⊢
    rw [readValue_bracket hopens, hitems, Option.map_some]

lemma readable_object {members : List (String × Json)} (h : Plain (.object members))
    (each : ∀ m ∈ members, Readable m.2) : Readable (.object members) := by
  refine readable_of_succ h fun depth fuel rest hfuel _ => ?_
  cases members with
  | nil => rfl
  | cons member members =>
    obtain ⟨key, value⟩ := member
    have htext : prettyAt depth (.object ((key, value) :: members)) =
        bracketed '\x7b' '\x7d' depth (prettyMembers (depth + 1) ((key, value) :: members)) := by
      rw [prettyAt, bracketed]
    have hlength :=
      length_joined_lt '\x7b' '\x7d' depth (prettyMembers (depth + 1) ((key, value) :: members))
    rw [htext] at hfuel ⊢
    have hmembers := readMembers_joined each (List.cons_ne_nil _ _) (depth + 1) depth fuel rest
      (by omega)
    have hfirst : encodeString key ++ ':' :: ' ' :: prettyAt (depth + 1) value =
        '"' :: (key.toList.flatMap encodeChar ++ ['"'] ++
          ':' :: ' ' :: prettyAt (depth + 1) value) := rfl
    obtain ⟨text, hjoined⟩ := exists_cons_joined hfirst (',' :: newLine (depth + 1))
      (prettyMembers (depth + 1) members)
    rw [bracketed_append]
    rw [prettyMembers, hjoined, List.cons_append] at hmembers ⊢
    rw [readValue_brace (by decide), hmembers, Option.map_some]

/-- A value whose numbers are natural numbers can be read. -/
theorem readable_of_plain {j : Json} (h : j.Plain) : Readable j := by
  induction h with
  | null => exact readable_of_succ .null fun _ _ _ _ _ => rfl
  | bool b => cases b <;> exact readable_of_succ (.bool _) fun _ _ _ _ _ => rfl
  | nat n => exact readable_nat n
  | string s => exact readable_string s
  | array each ih => exact readable_array (.array each) ih
  | object each ih => exact readable_object (.object each) ih

/-- A value whose numbers are natural numbers is found again in its text. -/
theorem parse?_pretty {j : Json} (h : j.Plain) : parse? (j.pretty.push '\n') = some j := by
  rw [parse?, pretty, String.toList_push, String.toList_ofList]
  have hread := readable_of_plain h 0 (2 * (prettyAt 0 j ++ ['\n']).length + 2) ['\n']
    (by simp; omega) (by simp [Ends])
  simp only [hread]
  rfl

end SnippetLint.Json
