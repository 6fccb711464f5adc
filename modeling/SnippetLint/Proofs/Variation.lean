import Mathlib.Data.List.Find
import Mathlib.Data.List.Perm.Basic
import SnippetLint.Json.Decode
import SnippetLint.Proofs.Steps

/-!
# Values that are decoded alike

The order of the members of an object means nothing, and members that are not known do not count.
`Varies` says when one value comes from another in this way. Which members are known depends on
what is read at a place, so it is about a `Shape`: a single value, a list, a record with named
fields, or nothing at all. A decoder is `Stable` for a shape if it has the same answer for all
variations of a value; that is shown for each way to build decoders, from single values to records.
-/

namespace SnippetLint.Json

/-- What is read at a place of a value. -/
inductive Shape
  | single
  | list (item : Shape)
  /-- A record with the shapes of its fields. -/
  | record (fields : List (String × Shape))
  /-- Nothing is read there. -/
  | ignored

namespace Shape

/-- The names that are known. -/
def names : Shape → List String
  | record fields => fields.map (·.1)
  | _ => []

/-- What is read from a member. -/
def member : Shape → String → Shape
  | record fields, name => (fields.lookup name).getD ignored
  | _, _ => single

/-- What is read from an item. A record may stand there as the list of its values. -/
def item : Shape → Nat → Shape
  | list s, _ => s
  | s, i => (s.names[i]?).elim single s.member

end Shape

/-- A value has the members of another one in any order, and maybe others that are not known, at
any level. Where nothing is read, it may have anything. -/
inductive Varies : Shape → Json → Json → Prop
  | refl (s : Shape) (j : Json) : Varies s j j
  | trans {s : Shape} {i j k : Json} (first : Varies s i j) (second : Varies s j k) : Varies s i k
  | ignored (j j' : Json) : Varies .ignored j j'
  | permute (s : Shape) {members members' : List (String × Json)} (order : members.Perm members') :
      Varies s (.object members) (.object members')
  | extend {fields : List (String × Shape)} {name : String}
      (unknown : name ∉ (Shape.record fields).names) (value : Json)
      (members : List (String × Json)) :
      Varies (.record fields) (.object members) (.object ((name, value) :: members))
  | member {s : Shape} {name : String} {value value' : Json}
      (inner : Varies (s.member name) value value') (front back : List (String × Json)) :
      Varies s (.object (front ++ (name, value) :: back))
        (.object (front ++ (name, value') :: back))
  | item {s : Shape} (front : List Json) {value value' : Json}
      (inner : Varies (s.item front.length) value value') (back : List Json) :
      Varies s (.array (front ++ value :: back)) (.array (front ++ value' :: back))

/-! ## Answers that agree -/

/-- Two decodings both give something, or both nothing. The reasons do not matter: which of several
is told depends on the order of the members. -/
inductive Agree {α β : Type} (R : α → β → Prop) : Decoded α → Decoded β → Prop
  | ok {a : α} {b : β} (related : R a b) : Agree R (.ok a) (.ok b)
  | error (e e' : DecodeError) : Agree R (.error e) (.error e')

section

variable {α β : Type}

/-- What depends on answers that are related agrees if it does for all related answers. -/
lemma Agree.bind {R : α → α → Prop} {S : β → β → Prop} {x y : Decoded α} {f g : α → Decoded β}
    (h : Agree R x y) (hfg : ∀ a b, R a b → Agree S (f a) (g b)) : Agree S (x >>= f) (y >>= g) := by
  cases h with
  | ok related => exact hfg _ _ related
  | error e e' => exact .error e e'

/-- What depends on an answer only agrees if the answers do. -/
lemma Agree.bind_eq {S : β → β → Prop} {x y : Decoded α} {f g : α → Decoded β} (h : Agree Eq x y)
    (hfg : ∀ a, Agree S (f a) (g a)) : Agree S (x >>= f) (y >>= g) :=
  h.bind fun a _ hab => hab ▸ hfg a

lemma Agree.refl (x : Decoded α) : Agree Eq x x := by
  cases x with
  | ok a => exact .ok rfl
  | error e => exact .error e e

lemma Agree.trans {x y z : Decoded α} (h : Agree Eq x y) (h' : Agree Eq y z) : Agree Eq x z := by
  cases h with
  | ok related => exact related ▸ h'
  | error e e' =>
    cases h' with
    | error _ e'' => exact .error e e''

/-- Decodings that agree have the same answers. -/
lemma Agree.eq_ok_iff {x y : Decoded α} (h : Agree Eq x y) (a : α) : y = .ok a ↔ x = .ok a := by
  cases h with
  | ok related => rw [related]
  | error e e' => simp

end

/-! ## Fields that vary -/

/-- Fields of which the known ones vary. -/
def FieldsVary (s : Shape) (fields fields' : Fields) : Prop :=
  ∀ name ∈ s.names, Option.Rel (Varies (s.member name)) (fields name) (fields' name)

lemma rel_varies_refl (s : Shape) (field : Option Json) : Option.Rel (Varies s) field field := by
  cases field with
  | none => exact .none
  | some value => exact .some (.refl s value)

/-- The fields of objects vary if the objects have the same number of members with each known name,
and if those that occur once vary. -/
lemma objectFields_agree {s : Shape} {members members' : List (String × Json)}
    (hcount : ∀ name ∈ s.names,
      members.countP (·.1 == name) = members'.countP (·.1 == name))
    (hlookup : ∀ name ∈ s.names, members.countP (·.1 == name) ≤ 1 →
      Option.Rel (Varies (s.member name)) (members.lookup name) (members'.lookup name)) :
    Agree (FieldsVary s) (objectFields s.names members) (objectFields s.names members') := by
  have hsame : (s.names.find? fun name => 1 < members'.countP (·.1 == name)) =
      s.names.find? fun name => 1 < members.countP (·.1 == name) :=
    List.find?_congr fun name hname => by rw [hcount name hname]
  rw [objectFields, objectFields, hsame]
  split
  · exact .error _ _
  · next hnone =>
    refine .ok fun name hname => hlookup name hname ?_
    simpa using List.find?_eq_none.mp hnone name hname

lemma lookup_eq_head?_filter (members : List (String × Json)) (name : String) :
    members.lookup name = (members.filter (·.1 == name)).head?.map (·.2) := by
  induction members with
  | nil => rfl
  | cons m members ih =>
    obtain ⟨key, value⟩ := m
    rw [List.lookup_cons, List.filter_cons, ih, Bool.beq_comm]
    cases key == name <;> rfl

/-- Members in another order are the same fields. -/
lemma objectFields_permute (s : Shape) {members members' : List (String × Json)}
    (h : members.Perm members') :
    Agree (FieldsVary s) (objectFields s.names members) (objectFields s.names members') := by
  refine objectFields_agree (fun name _ => h.countP_eq _) fun name _ hcount => ?_
  -- A known name comes once at most, so there is only one order of its members.
  have hfilter : members.filter (·.1 == name) = members'.filter (·.1 == name) := by
    have horder := h.filter (·.1 == name)
    rw [List.countP_eq_length_filter] at hcount
    match hmembers : members.filter (·.1 == name) with
    | [] =>
      rw [hmembers] at horder
      exact hmembers.trans horder.nil_eq
    | [m] =>
      rw [hmembers] at horder
      exact hmembers.trans horder.singleton_eq
    | _ :: _ :: _ => simp [hmembers] at hcount
  rw [lookup_eq_head?_filter, lookup_eq_head?_filter, hfilter]
  exact rel_varies_refl _ _

/-- A member that is not known is no field. -/
lemma objectFields_extend {s : Shape} {name : String} (unknown : name ∉ s.names) (value : Json)
    (members : List (String × Json)) :
    Agree (FieldsVary s) (objectFields s.names members)
      (objectFields s.names ((name, value) :: members)) := by
  have hne : ∀ name' ∈ s.names, (name == name') = false ∧ (name' == name) = false := by
    intro name' hname'
    have hne : name ≠ name' := fun heq => unknown (heq ▸ hname')
    simp [hne, hne.symm]
  refine objectFields_agree (fun name' hname' => ?_) fun name' hname' _ => ?_
  · rw [List.countP_cons_of_neg (by simp [(hne name' hname').1])]
  · rw [List.lookup_cons, (hne name' hname').2]
    exact rel_varies_refl _ _

/-- A member that varies is a field that varies. -/
lemma objectFields_member {s : Shape} {name : String} {value value' : Json}
    (h : Varies (s.member name) value value') (front back : List (String × Json)) :
    Agree (FieldsVary s) (objectFields s.names (front ++ (name, value) :: back))
      (objectFields s.names (front ++ (name, value') :: back)) := by
  refine objectFields_agree (fun name' _ => by simp [List.countP_cons]) fun name' _ hcount => ?_
  clear hcount
  induction front with
  | nil =>
    rw [List.nil_append, List.nil_append, List.lookup_cons, List.lookup_cons]
    split
    · next hname =>
      rw [eq_of_beq hname]
      exact .some h
    · exact rel_varies_refl _ _
  | cons m front ih =>
    rw [List.cons_append, List.cons_append, List.lookup_cons, List.lookup_cons]
    split
    · exact rel_varies_refl _ _
    · exact ih

/-- A record as the list of its values: when one item varies, the field of that name varies, and no
other. -/
lemma rel_lookup_zip {s : Shape} {value value' : Json} (back : List Json) {front : List Json}
    {names : List String} (h : Varies ((names[front.length]?).elim .single s.member) value value')
    (name : String) : Option.Rel (Varies (s.member name))
      ((names.zip (front ++ value :: back)).lookup name)
      ((names.zip (front ++ value' :: back)).lookup name) := by
  induction names generalizing front with
  | nil => exact rel_varies_refl _ _
  | cons first names ih =>
    cases front with
    | nil =>
      rw [List.nil_append, List.nil_append, List.zip_cons_cons, List.zip_cons_cons,
        List.lookup_cons, List.lookup_cons]
      split
      · next hname =>
        rw [eq_of_beq hname]
        exact .some h
      · exact rel_varies_refl _ _
    | cons item front =>
      rw [List.cons_append, List.cons_append, List.zip_cons_cons, List.zip_cons_cons,
        List.lookup_cons, List.lookup_cons]
      split
      · exact rel_varies_refl _ _
      · exact ih h

/-- The values of a record that stands there as a list may vary as well. -/
lemma record_item {fields : List (String × Shape)} {front : List Json} {value value' : Json}
    (h : Varies ((Shape.record fields).item front.length) value value') (back : List Json) :
    Agree (FieldsVary (.record fields))
      (record (Shape.record fields).names (.array (front ++ value :: back)))
      (record (Shape.record fields).names (.array (front ++ value' :: back))) := by
  have hlength : (front ++ value' :: back).length = (front ++ value :: back).length := by simp
  rw [record, record, hlength]
  split
  · exact .error _ _
  · exact .ok fun name _ => rel_lookup_zip back h name

/-! ## Decoders that do not mind -/

/-- A decoder has the same answers for all variations of a value. -/
def Stable {α : Type} (s : Shape) (decode : Json → Decoded α) : Prop :=
  ∀ ⦃j j'⦄, Varies s j j' → Agree Eq (decode j) (decode j')

section

variable {α β : Type} {s : Shape}

/-- Nothing can vary in a value that is neither a list nor an object. -/
lemma stable_of_fails {decode : Json → Decoded α}
    (harray : ∀ items, ∃ e, decode (.array items) = .error e)
    (hobject : ∀ members, ∃ e, decode (.object members) = .error e) : Stable .single decode := by
  have hobjects (members members' : List (String × Json)) :
      Agree Eq (decode (.object members)) (decode (.object members')) := by
    obtain ⟨e, he⟩ := hobject members
    obtain ⟨e', he'⟩ := hobject members'
    rw [he, he']
    exact .error e e'
  intro j j' hvaries
  generalize hs : Shape.single = s at hvaries
  -- Variations of arrays are arrays, and those of objects are objects.
  induction hvaries with
  | refl => exact .refl _
  | trans _ _ ih ih' => exact (ih hs).trans (ih' hs)
  | ignored => cases hs
  | permute => exact hobjects _ _
  | extend => exact hobjects _ _
  | member => exact hobjects _ _
  | @item _ front value value' _ back =>
    obtain ⟨e, he⟩ := harray (front ++ value :: back)
    obtain ⟨e', he'⟩ := harray (front ++ value' :: back)
    rw [he, he']
    exact .error e e'

lemma stable_string : Stable .single asString :=
  stable_of_fails (fun _ => ⟨_, rfl⟩) fun _ => ⟨_, rfl⟩

lemma stable_bool : Stable .single asBool :=
  stable_of_fails (fun _ => ⟨_, rfl⟩) fun _ => ⟨_, rfl⟩

lemma stable_byte : Stable .single asByte :=
  stable_of_fails (fun _ => ⟨_, rfl⟩) fun _ => ⟨_, rfl⟩

lemma stable_word : Stable .single asWord :=
  stable_of_fails (fun _ => ⟨_, rfl⟩) fun _ => ⟨_, rfl⟩

/-- Where a single value is read, nothing but `null` varies into `null`. -/
lemma Varies.null_iff {j j' : Json} (h : Varies .single j j') : j' = .null ↔ j = .null := by
  generalize hs : Shape.single = s at h
  induction h with
  | refl => rfl
  | trans _ _ ih ih' => exact (ih' hs).trans (ih hs)
  | ignored => cases hs
  | permute | extend | member | item => simp

/-- A name that is written as an object is that of its only member, whose value is `null`. -/
lemma asName_object_agree (all : List α) (name : α → String)
    {members members' : List (String × Json)}
    (h : ∀ key, members = [(key, .null)] ↔ members' = [(key, .null)]) :
    Agree Eq (asName all name (.object members)) (asName all name (.object members')) := by
  have hfails {members : List (String × Json)} (hne : ∀ key, members ≠ [(key, .null)]) :
      asName all name (.object members) = .error (.expected "a name") := by
    match members with
    | [] => rfl
    | [(key, value)] =>
      cases value with
      | null => exact absurd rfl (hne key)
      | _ => rfl
    | (_, value) :: _ :: _ => cases value <;> rfl
  by_cases hkey : ∃ key, members = [(key, .null)]
  · obtain ⟨key, hmembers⟩ := hkey
    rw [hmembers, (h key).mp hmembers]
    exact .refl _
  · rw [not_exists] at hkey
    rw [hfails hkey, hfails fun key => (not_congr (h key)).mp (hkey key)]
    exact .error _ _

/-- An object names something only if it has one member, and that has no value. -/
lemma stable_name (all : List α) (name : α → String) : Stable .single (asName all name) := by
  intro j j' hvaries
  generalize hs : Shape.single = s at hvaries
  induction hvaries with
  | refl => exact .refl _
  | trans _ _ ih ih' => exact (ih hs).trans (ih' hs)
  | ignored => cases hs
  | permute _ order =>
    refine asName_object_agree all name fun key => ⟨fun h => ?_, fun h => ?_⟩
    · exact (h ▸ order).singleton_eq.symm
    · exact (h ▸ order).eq_singleton
  | extend => cases hs
  | member inner front back =>
    subst hs
    refine asName_object_agree all name fun key => ?_
    cases front <;> simp [inner.null_iff]
  | item => exact .error _ _

/-- A list is decoded item by item. -/
lemma stable_list {decode : Json → Decoded α} (h : Stable s decode) :
    Stable (.list s) (asList decode) := by
  intro j j' hvaries
  generalize hs : Shape.list s = s' at hvaries
  induction hvaries with
  | refl => exact .refl _
  | trans _ _ ih ih' => exact (ih hs).trans (ih' hs)
  | ignored => cases hs
  | permute => exact .error _ _
  | extend => cases hs
  | member => exact .error _ _
  | @item _ front value value' inner back =>
    subst hs
    rw [asList, asList, List.mapM_append, List.mapM_append, List.mapM_cons, List.mapM_cons]
    exact (Agree.refl _).bind_eq fun _ =>
      ((h inner).bind_eq fun _ => .refl _).bind_eq fun _ => .refl _

/-- A record that stands there as an object is decoded field by field. -/
lemma stable_of_objectFields {decode : Json → Decoded α} {body : Fields → Decoded α}
    {fields : List (String × Shape)}
    (hobject : ∀ members, decode (.object members) =
      objectFields (Shape.record fields).names members >>= body)
    (hbody : ∀ {f f'}, FieldsVary (.record fields) f f' → Agree Eq (body f) (body f'))
    (harray : ∀ {front value value'},
      Varies ((Shape.record fields).item front.length) value value' → ∀ back,
        Agree Eq (decode (.array (front ++ value :: back)))
          (decode (.array (front ++ value' :: back)))) :
    Stable (.record fields) decode := by
  intro j j' hvaries
  generalize hs : Shape.record fields = s at hvaries
  induction hvaries with
  | refl => exact .refl _
  | trans _ _ ih ih' => exact (ih hs).trans (ih' hs)
  | ignored => cases hs
  | permute _ order =>
    subst hs
    rw [hobject, hobject]
    exact (objectFields_permute _ order).bind fun _ _ => hbody
  | extend unknown value members =>
    obtain rfl := Shape.record.inj hs
    rw [hobject, hobject]
    exact (objectFields_extend unknown value members).bind fun _ _ => hbody
  | member inner front back =>
    subst hs
    rw [hobject, hobject]
    exact (objectFields_member inner front back).bind fun _ _ => hbody
  | item front inner back =>
    subst hs
    exact harray inner back

/-- A record is decoded field by field. -/
lemma stable_of_record {decode : Json → Decoded α} {body : Fields → Decoded α}
    {fields : List (String × Shape)}
    (hdecode : ∀ j, decode j = j.record (Shape.record fields).names >>= body)
    (hbody : ∀ {f f'}, FieldsVary (.record fields) f f' → Agree Eq (body f) (body f')) :
    Stable (.record fields) decode := by
  refine stable_of_objectFields (fun _ => hdecode _) hbody fun inner back => ?_
  rw [hdecode, hdecode]
  exact (record_item inner back).bind fun _ _ => hbody

/-- A field that must be there is decoded as it is. -/
lemma FieldsVary.required {decode : Json → Decoded α} {fields fields' : Fields}
    (h : FieldsVary s fields fields') (name : String) (hname : name ∈ s.names)
    (hdecode : Stable (s.member name) decode) :
    Agree Eq (fields.required name decode) (fields'.required name decode) := by
  have hfield := h name hname
  rw [Fields.required, Fields.required]
  cases hvalue : fields name with
  | none =>
    cases hvalue' : fields' name with
    | none => exact .error _ _
    | some value' =>
      rw [hvalue, hvalue'] at hfield
      cases hfield
  | some value =>
    cases hvalue' : fields' name with
    | none =>
      rw [hvalue, hvalue'] at hfield
      cases hfield
    | some value' =>
      rw [hvalue, hvalue'] at hfield
      cases hfield with
      | some hvaries => exact hdecode hvaries

end

end SnippetLint.Json
