import SnippetLint.Language

/-!
# Templates

The templates of a language answer to names. One of them, under the name `default`, is always
there and answers for every name that no other template has. A store holds the templates of some
languages.
-/

namespace SnippetLint

/-- The name of the template that answers when no other does. -/
def Template.defaultName : String := "default"

/-- A named text. -/
structure Template where
  name : String
  body : String
  deriving Repr, DecidableEq

/-- The templates of one language: the body of the default one, and the others in the order of
their names. -/
structure LanguageTemplates where
  defaultBody : String
  others : List Template
  deriving Repr, DecidableEq

/-- Puts a template into a list that is ordered by name, in place of one of the same name. -/
def insertByName (t : Template) : List Template → List Template
  | [] => [t]
  | u :: rest =>
    if t.name = u.name then t :: rest
    else if t.name < u.name then t :: u :: rest
    else u :: insertByName t rest

namespace LanguageTemplates

/-- A default template and no other. -/
def ofDefault (body : String) : LanguageTemplates := ⟨body, []⟩

/-- Registers a body under a name; the last registration of a name counts. -/
def register (ts : LanguageTemplates) (name body : String) : LanguageTemplates :=
  if name = Template.defaultName then { ts with defaultBody := body }
  else { ts with others := insertByName ⟨name, body⟩ ts.others }

/-- The default template. -/
def default (ts : LanguageTemplates) : Template := ⟨Template.defaultName, ts.defaultBody⟩

/-- The template that answers to a name. -/
def get (ts : LanguageTemplates) (name : String) : Template :=
  (ts.others.find? (·.name == name)).getD ts.default

/-- The names of the templates, `default` first. -/
def names (ts : LanguageTemplates) : List String := Template.defaultName :: ts.others.map (·.name)

end LanguageTemplates

/-- The templates of languages, last insertion first. -/
structure TemplateStore where
  entries : List (Language × LanguageTemplates)
  deriving Repr, DecidableEq

namespace TemplateStore

/-- The store without templates. -/
def empty : TemplateStore := ⟨[]⟩

/-- Sets the templates of a language. -/
def insert (s : TemplateStore) (language : Language) (ts : LanguageTemplates) : TemplateStore :=
  ⟨(language, ts) :: s.entries⟩

/-- The templates of a language. -/
def templatesFor? (s : TemplateStore) (language : Language) : Option LanguageTemplates :=
  s.entries.lookup language

/-- The languages that have templates. -/
def languages (s : TemplateStore) : List Language :=
  Language.all.filter fun l => (s.templatesFor? l).isSome

/-! ## Setting templates -/

/-- The templates that were set last are the templates of a language. -/
@[simp]
theorem templatesFor?_insert_self (s : TemplateStore) (l : Language) (ts : LanguageTemplates) :
    (s.insert l ts).templatesFor? l = some ts := by
  simp [insert, templatesFor?]

/-- The templates of other languages stay. -/
@[simp]
theorem templatesFor?_insert_of_ne (s : TemplateStore) {l m : Language} (h : l ≠ m)
    (ts : LanguageTemplates) : (s.insert m ts).templatesFor? l = s.templatesFor? l := by
  have hb : (l == m) = false := by simpa using h
  simp [insert, templatesFor?, List.lookup_cons, hb]

end TemplateStore

end SnippetLint
