/-!
# Symbols

A symbol is an atom with a non-empty name: tags and attribute names are symbols, so that a plain
string in tag position can be told apart from a tag. The module also holds the shorthand spelling
of symbol names, in which an underscore stands for a hyphen.
-/

namespace MarkupTree

/-- An atom with a non-empty name. Two symbols are equal exactly when their names are. -/
structure Symbol where
  /-- The text of the symbol. -/
  name : String
  /-- A symbol always has a name. -/
  name_ne_empty : name ≠ ""
deriving DecidableEq

/-- Why something cannot name a symbol. -/
inductive NameError where
  /-- The name is not text but a value of the given type. -/
  | notText (typeName : String)
  /-- The name is the empty text. -/
  | empty
deriving DecidableEq

/-- The wording of a refused name. -/
def NameError.message : NameError → String
  | .notText typeName => "Symbol name must be a string, got " ++ typeName
  | .empty => "Symbol name cannot be empty"

namespace Symbol

/-- The symbol of a given name, which must not be empty. -/
def ofName (name : String) : Except NameError Symbol :=
  if h : name = "" then .error .empty else .ok ⟨name, h⟩

/-- Symbols with the same name are the same. -/
@[ext] theorem ext {s t : Symbol} (h : s.name = t.name) : s = t := by
  cases s; cases t; cases h; rfl

@[simp] theorem ofName_empty : ofName "" = .error .empty := rfl

@[simp] theorem ofName_name (s : Symbol) : ofName s.name = .ok s := by
  simp [ofName, s.name_ne_empty]

/-- A symbol is made of its own name. -/
theorem ofName_eq_ok_iff {name : String} {s : Symbol} : ofName name = .ok s ↔ s.name = name := by
  constructor
  · intro h
    unfold ofName at h
    split at h
    · cases h
    · cases h; rfl
  · rintro rfl
    exact ofName_name s

/-! ## Reserved heads -/

/-- The head of a node whose payload is written without escaping. -/
def rawString : Symbol := ⟨"raw-string", by decide⟩

/-- The head of a node that is written as a markup comment. -/
def comment : Symbol := ⟨"comment", by decide⟩

/-- The head of the optional attribute list of the SXML notation. -/
def attributeList : Symbol := ⟨"@", by decide⟩

/-- A marker is a head that does not name an element. -/
def IsMarker (s : Symbol) : Prop := s = rawString ∨ s = comment

instance (s : Symbol) : Decidable s.IsMarker := inferInstanceAs (Decidable (_ ∨ _))

@[simp] theorem rawString_ne_comment : rawString ≠ comment := by decide

@[simp] theorem comment_ne_rawString : comment ≠ rawString := by decide

@[simp] theorem isMarker_rawString : rawString.IsMarker := .inl rfl

@[simp] theorem isMarker_comment : comment.IsMarker := .inr rfl

/-- A marker is known by its name. -/
theorem isMarker_iff_name {s : Symbol} :
    s.IsMarker ↔ s.name = "raw-string" ∨ s.name = "comment" := by
  rw [IsMarker, Symbol.ext_iff, Symbol.ext_iff, rawString, comment]

/-! ## Shorthand names -/

/-- Why a shorthand does not spell a symbol. -/
inductive ShorthandError where
  /-- Names that begin with two underscores are kept for other uses. -/
  | reserved (shorthand : String)
  /-- What is left of the shorthand cannot name a symbol. -/
  | unnamed (cause : NameError)
deriving DecidableEq

/-- The wording of a refused shorthand: a reserved name is reported as it stands. -/
def ShorthandError.message : ShorthandError → String
  | .reserved shorthand => shorthand
  | .unnamed cause => cause.message

/-- Leaves out the last character if it is an underscore. -/
def dropTrailingUnderscore (cs : List Char) : List Char :=
  if cs.getLast? = some '_' then cs.dropLast else cs

/-- Writes a hyphen for every underscore. -/
def hyphenate (cs : List Char) : List Char :=
  cs.map fun c => if c = '_' then '-' else c

/-- The symbol that a shorthand spells: a trailing underscore is dropped, so that words reserved
elsewhere stay within reach, and the others become hyphens. -/
def ofShorthand (shorthand : String) : Except ShorthandError Symbol :=
  let cs := shorthand.toList
  if ['_', '_'].isPrefixOf cs then
    .error (.reserved shorthand)
  else
    (ofName (String.ofList (hyphenate (dropTrailingUnderscore cs)))).mapError .unnamed

/-- No underscore is left in a name. -/
theorem not_mem_hyphenate (cs : List Char) : '_' ∉ hyphenate cs := by
  simp only [hyphenate, List.mem_map, not_exists, not_and]
  intro c _ h
  split at h
  · exact absurd h (by decide)
  · contradiction

end Symbol

end MarkupTree
