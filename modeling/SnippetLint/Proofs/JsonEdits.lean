import SnippetLint.Proofs.ReportJson

/-!
# Edited values

Members of a JSON value may be left out, or their values may be replaced by `null`. Which of them
are edited, and how, is said by their places (`Json.Edits`), so any number of members can be edited
at once and at any depth. Of an object, the fields that are left are known one by one
(`Json.record_edit`), and so are the items of a list (`Json.asList_edit_eq_ok_iff`).
-/

namespace SnippetLint.Json

/-! ## Places and edits -/

/-- A step from a value to one inside of it. -/
inductive Step
  | key (name : String)
  | item (index : Nat)
  deriving Repr, DecidableEq

/-- A place in a value: the steps that lead there. -/
abbrev Place := List Step

/-- What is done to a member: it stays, it is left out, or its value is replaced by `null`. -/
inductive Edit
  | keep
  | drop
  | clear
  deriving Repr, DecidableEq

lemma Edit.eq_keep {edit : Edit} (hdrop : edit ≠ .drop) (hclear : edit ≠ .clear) :
    edit = .keep := by
  cases edit with
  | keep => rfl
  | drop => exact absurd rfl hdrop
  | clear => exact absurd rfl hclear

/-- What is done where. -/
abbrev Edits := Place → Edit

/-- What is done behind a step. -/
def Edits.within (e : Edits) (s : Step) : Edits := fun place => e (s :: place)

/-- Some members are left out, and the values of others are replaced by `null`. -/
def Edits.listed (dropped cleared : List Place) : Edits := fun place =>
  if place ∈ dropped then .drop else if place ∈ cleared then .clear else .keep

/-- Only what is listed is left out. -/
lemma Edits.listed_eq_drop {dropped cleared : List Place} {place : Place}
    (h : Edits.listed dropped cleared place = .drop) : place ∈ dropped := by
  unfold Edits.listed at h
  split_ifs at h with hdropped
  exact hdropped

/-- Only what is listed is replaced. -/
lemma Edits.listed_eq_clear {dropped cleared : List Place} {place : Place}
    (h : Edits.listed dropped cleared place = .clear) : place ∈ cleared := by
  unfold Edits.listed at h
  split_ifs at h with _ hcleared
  exact hcleared

mutual

/-- A value with its members edited. -/
def edit (e : Edits) : Json → Json
  | array items => array (editItems e 0 items)
  | object members => object (editMembers e members)
  | j => j

/-- Items, of which the first has some index, with their members edited. -/
def editItems (e : Edits) (index : Nat) : List Json → List Json
  | [] => []
  | item :: items => edit (e.within (.item index)) item :: editItems e (index + 1) items

/-- Edited members. -/
def editMembers (e : Edits) : List (String × Json) → List (String × Json)
  | [] => []
  | (name, value) :: members =>
    match e [.key name] with
    | .keep => (name, edit (e.within (.key name)) value) :: editMembers e members
    | .drop => editMembers e members
    | .clear => (name, null) :: editMembers e members

end

/-- There is a member at a place. -/
inductive HasMember : Json → Place → Prop
  | here {members : List (String × Json)} {name : String} {value : Json}
      (found : members.lookup name = some value) : HasMember (.object members) [.key name]
  | inside {members : List (String × Json)} {name : String} {value : Json} {place : Place}
      (found : members.lookup name = some value) (inner : HasMember value place) :
      HasMember (.object members) (.key name :: place)
  | item {items : List Json} {index : Nat} {value : Json} {place : Place}
      (found : items[index]? = some value) (inner : HasMember value place) :
      HasMember (.array items) (.item index :: place)

lemma mem_of_lookup {members : List (String × Json)} {name : String} {value : Json}
    (h : members.lookup name = some value) : (name, value) ∈ members := by
  obtain ⟨front, back, rfl, -⟩ := List.lookup_eq_some_iff.mp h
  simp

/-- A number has no members, and neither has one that is absent. -/
lemma not_hasMember_ofOption {α : Type} {toNat : α → Nat} {a : Option α} {p : Place} :
    ¬ (ofOption (fun a => .nat (toNat a)) a).HasMember p := by
  intro h
  cases a <;> cases h

/-- A number can be read as a text, and so can the absence of one. -/
lemma plain_ofOption {α : Type} {toNat : α → Nat} {a : Option α} :
    (ofOption (fun a => .nat (toNat a)) a).Plain := by
  cases a with
  | none => exact .null
  | some a => exact .nat _

mutual

/-- A value stays as it is if nothing is done to it. -/
lemma edit_keep (j : Json) : j.edit (fun _ => .keep) = j :=
  match j with
  | null | bool _ | nat _ | number _ | string _ => by rw [edit] <;> simp
  | array items => by rw [edit, editItems_keep]
  | object members => by rw [edit, editMembers_keep]

lemma editItems_keep (index : Nat) (items : List Json) :
    editItems (fun _ => .keep) index items = items :=
  match items with
  | [] => by rw [editItems]
  | item :: items => by
    rw [editItems, editItems_keep]
    exact congrArg (· :: items) (edit_keep item)

lemma editMembers_keep (members : List (String × Json)) :
    editMembers (fun _ => .keep) members = members :=
  match members with
  | [] => by rw [editMembers]
  | (name, value) :: members => by
    rw [editMembers, editMembers_keep]
    exact congrArg (fun value => (name, value) :: members) (edit_keep value)

end

/-! ## Fields -/

/-- The fields that are left of an object. -/
def editedFields (e : Edits) (members : List (String × Json)) : Fields := fun name =>
  match e [.key name] with
  | .keep => (members.lookup name).map (edit (e.within (.key name)))
  | .drop => none
  | .clear => (members.lookup name).map fun _ => null

/-- A field of an edited object is the field before, as the edits leave it. -/
lemma lookup_editMembers (e : Edits) (members : List (String × Json)) (name : String) :
    (editMembers e members).lookup name = editedFields e members name := by
  unfold editedFields
  -- The first member of a name decides: if it is left out, so are all the others of that name.
  induction members with
  | nil => cases e [.key name] <;> rfl
  | cons member members ih =>
    obtain ⟨key, value⟩ := member
    rw [editMembers, List.lookup_cons]
    by_cases h : name = key
    · subst h
      cases hedit : e [.key name] with
      | keep => simp
      | drop => exact ih.trans (by rw [hedit])
      | clear => simp
    · have hkey : (name == key) = false := beq_eq_false_iff_ne.mpr h
      cases e [.key key] with
      | keep => rw [List.lookup_cons, hkey, ih]
      | drop => rw [ih, hkey]
      | clear => rw [List.lookup_cons, hkey, ih]

/-- Edits add no names, so an object has each name once afterwards if it had before. -/
lemma names_editMembers_sublist (e : Edits) (members : List (String × Json)) :
    ((editMembers e members).map (·.1)).Sublist (members.map (·.1)) := by
  induction members with
  | nil => exact List.Sublist.refl _
  | cons member members ih =>
    obtain ⟨name, value⟩ := member
    rw [editMembers]
    cases e [.key name] with
    | keep => exact ih.cons_cons name
    | drop => exact ih.cons name
    | clear => exact ih.cons_cons name

/-- What is read of an edited record are the fields that are left. -/
lemma record_edit {members : List (String × Json)} (h : (members.map (·.1)).Nodup) (e : Edits)
    (names : List String) :
    record names ((object members).edit e) = .ok (editedFields e members) := by
  have hfields : (fun name => (editMembers e members).lookup name) = editedFields e members :=
    funext fun name => lookup_editMembers e members name
  rw [edit, record, objectFields_of_nodup (h.sublist (names_editMembers_sublist e members)),
    hfields]

/-- An edited object is read as its edited fields or not at all. -/
lemma eq_editedFields {members : List (String × Json)} (h : (members.map (·.1)).Nodup)
    {e : Edits} {names : List String} {fields : Fields}
    (hfields : record names ((object members).edit e) = .ok fields) :
    fields = editedFields e members :=
  Except.ok.inj (hfields.symm.trans (record_edit h e names))

section

variable {α : Type} {e : Edits} {members : List (String × Json)} {name : String} {value : Json}
  {decode : Json → Decoded α}

lemma editedFields_of_keep (hvalue : members.lookup name = some value)
    (hkeep : e [.key name] = .keep) :
    editedFields e members name = some (value.edit (e.within (.key name))) := by
  rw [editedFields, hkeep, hvalue]
  rfl

lemma editedFields_of_drop (hdrop : e [.key name] = .drop) :
    editedFields e members name = none := by
  rw [editedFields, hdrop]

lemma editedFields_of_clear (hvalue : members.lookup name = some value)
    (hclear : e [.key name] = .clear) : editedFields e members name = some .null := by
  rw [editedFields, hclear, hvalue]
  rfl

/-- A field that is there is decoded. -/
lemma required_of_some {fields : Fields} (h : fields name = some value) :
    fields.required name decode = decode value := by
  rw [Fields.required, h]

lemma withDefault_of_some {fields : Fields} (h : fields name = some value) (default : α) :
    fields.withDefault name default decode = decode value := by
  rw [Fields.withDefault, h]

lemma withDefault_of_none {fields : Fields} (h : fields name = none) (default : α) :
    fields.withDefault name default decode = .ok default := by
  rw [Fields.withDefault, h]

/-- A field that is kept is decoded with whatever is edited inside of it. -/
lemma required_editedFields {a : α} (hvalue : members.lookup name = some value)
    (hkeep : e [.key name] = .keep) (hdecode : decode (value.edit (e.within (.key name))) = .ok a) :
    (editedFields e members).required name decode = .ok a := by
  rw [required_of_some (editedFields_of_keep hvalue hkeep), hdecode]

/-- A field with a default may be left out if it has its default. -/
lemma withDefault_editedFields {default a : α} (hvalue : members.lookup name = some value)
    (hdrop : e [.key name] = .drop → a = default) (hclear : e [.key name] ≠ .clear)
    (hdecode : e [.key name] = .keep → decode (value.edit (e.within (.key name))) = .ok a) :
    (editedFields e members).withDefault name default decode = .ok a := by
  cases hedit : e [.key name] with
  | keep => rw [withDefault_of_some (editedFields_of_keep hvalue hedit), hdecode hedit]
  | drop => rw [withDefault_of_none (editedFields_of_drop hedit), hdrop hedit]
  | clear => exact absurd hedit hclear

/-- A field that may be absent is absent if its value is `null`. -/
lemma withDefault_none_editedFields {a : Option α} (hvalue : members.lookup name = some value)
    (hdrop : e [.key name] = .drop → a = none)
    (hdecode : asOption decode (value.edit (e.within (.key name))) = .ok a) :
    (editedFields e members).withDefault name none (asOption decode) =
      .ok (if e [.key name] = .clear then none else a) := by
  cases hedit : e [.key name] with
  | keep => rw [withDefault_of_some (editedFields_of_keep hvalue hedit), hdecode, if_neg nofun]
  | drop => rw [withDefault_of_none (editedFields_of_drop hedit), hdrop hedit, if_neg nofun]
  | clear => rw [withDefault_of_some (editedFields_of_clear hvalue hedit), if_pos rfl, asOption]

/-- A value that must not be `null` cannot be decoded if it is. -/
lemma required_ne_ok (hvalue : members.lookup name = some value) (hclear : e [.key name] = .clear)
    (hnull : ∀ a, decode .null ≠ .ok a) (a : α) :
    (editedFields e members).required name decode ≠ .ok a := by
  rw [required_of_some (editedFields_of_clear hvalue hclear)]
  exact hnull a

/-- A value that must not be `null` is not taken for its default when it is cleared. -/
lemma withDefault_ne_ok {default : α} (hvalue : members.lookup name = some value)
    (hclear : e [.key name] = .clear) (hnull : ∀ a, decode .null ≠ .ok a) (a : α) :
    (editedFields e members).withDefault name default decode ≠ .ok a := by
  rw [withDefault_of_some (editedFields_of_clear hvalue hclear)]
  exact hnull a

/-- Nor can a value that has such an edit inside of it, unless it is left out as a whole. -/
lemma withDefault_ne_ok_of_inside {default : α} (hvalue : members.lookup name = some value)
    (hdrop : e [.key name] ≠ .drop) (hnull : ∀ a, decode .null ≠ .ok a)
    (hdecode : ∀ a, decode (value.edit (e.within (.key name))) ≠ .ok a) (a : α) :
    (editedFields e members).withDefault name default decode ≠ .ok a := by
  cases hedit : e [.key name] with
  | keep =>
    rw [withDefault_of_some (editedFields_of_keep hvalue hedit)]
    exact hdecode a
  | drop => exact absurd hedit hdrop
  | clear => exact withDefault_ne_ok hvalue hedit hnull a

/-- What is read is the default or has been decoded. -/
lemma exists_of_withDefault {fields : Fields} {default a : α}
    (h : fields.withDefault name default decode = .ok a) :
    a = default ∨ ∃ value, decode value = .ok a := by
  rw [Fields.withDefault] at h
  cases hvalue : fields name with
  | none =>
    rw [hvalue] at h
    exact .inl (Except.ok.inj h).symm
  | some value =>
    rw [hvalue] at h
    exact .inr ⟨value, h⟩

end

/-! ## Items -/

/-- Each item is edited by what is said of its index. -/
lemma editItems_eq_mapIdx (e : Edits) (index : Nat) (items : List Json) :
    editItems e index items =
      items.mapIdx fun i item => item.edit (e.within (.item (index + i))) := by
  induction items generalizing index with
  | nil => rfl
  | cons item items ih =>
    rw [editItems, ih, List.mapIdx_cons]
    simp only [Nat.add_zero, Nat.add_assoc, Nat.add_comm 1]

/-- An edited list is decoded item by item. -/
lemma asList_edit_eq_ok_iff {α β : Type} {encode : α → Json} {decode : Json → Decoded β}
    {as : List α} {bs : List β} {e : Edits} :
    asList decode ((array (as.map encode)).edit e) = .ok bs ↔
      as.length = bs.length ∧ ∀ i a b, as[i]? = some a → bs[i]? = some b →
        decode ((encode a).edit (e.within (.item i))) = .ok b := by
  rw [edit, asList, mapM_eq_ok, editItems_eq_mapIdx, List.forall₂_iff_get]
  simp only [List.length_mapIdx, List.length_map, Nat.zero_add, List.get_eq_getElem,
    List.getElem_mapIdx, List.getElem_map]
  refine and_congr_right fun hlength => ⟨fun h i a b ha hb => ?_, fun h i ha hb => ?_⟩
  · obtain ⟨hi, rfl⟩ := List.getElem?_eq_some_iff.mp ha
    obtain ⟨hi', rfl⟩ := List.getElem?_eq_some_iff.mp hb
    exact h i hi hi'
  · exact h i _ _ (List.getElem?_eq_getElem ha) (List.getElem?_eq_getElem hb)

/-- A list cannot be decoded if one of its items cannot. -/
lemma asList_edit_ne_ok {α β : Type} {encode : α → Json} {decode : Json → Decoded β} {as : List α}
    {e : Edits} {i : Nat} {a : α} (ha : as[i]? = some a)
    (hdecode : ∀ b, decode ((encode a).edit (e.within (.item i))) ≠ .ok b) (bs : List β) :
    asList decode ((array (as.map encode)).edit e) ≠ .ok bs := by
  intro h
  obtain ⟨hlength, heach⟩ := asList_edit_eq_ok_iff.mp h
  have hi : i < bs.length := hlength ▸ (List.getElem?_eq_some_iff.mp ha).1
  exact hdecode _ (heach i a _ ha (List.getElem?_eq_getElem hi))

/-- Every item that is read has been decoded. -/
lemma exists_of_asList {α : Type} {decode : Json → Decoded α} {j : Json} {as : List α}
    (h : asList decode j = .ok as) {a : α} (ha : a ∈ as) : ∃ item, decode item = .ok a := by
  unfold asList at h
  split at h
  · obtain ⟨item, -, hitem⟩ := exists_of_mem_right (mapM_eq_ok.mp h) ha
    exact ⟨item, hitem⟩
  · cases h

/-- What is read as a word fits into one. -/
lemma lt_of_asWord {j : Json} {n : Nat} (h : asWord j = .ok n) : n < UInt64.size := by
  unfold asWord asNatBelow at h
  split at h
  · split at h
    · next hlt => rwa [← Except.ok.inj h]
    · cases h
  · cases h

lemma lt_of_asOption_asWord {j : Json} {a : Option Nat} (h : asOption asWord j = .ok a) {n : Nat}
    (hn : n ∈ a) : n < UInt64.size := by
  unfold asOption at h
  split at h
  · cases h
    cases hn
  · cases hword : asWord j with
    | error reason => rw [hword] at h; cases h
    | ok m =>
      rw [hword] at h
      cases h
      exact lt_of_asWord (hword.trans (congrArg Except.ok (Option.some.inj hn)))

end SnippetLint.Json
