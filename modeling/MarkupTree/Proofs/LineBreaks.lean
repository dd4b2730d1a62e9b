import MarkupTree.InvalidNode
import MarkupTree.Proofs.NodeTree
import MarkupTree.Proofs.Slots

/-!
# Texts on one line

What is shown in a message stays on one line: quoted texts, numbers, values and nodes of any depth
have no line breaks in them, whatever the texts are that they are made of.
-/

namespace MarkupTree

namespace Text

/-- A line feed or a carriage return. -/
def IsLineBreak (c : Char) : Prop := c = '\n' ∨ c = '\r'

instance (c : Char) : Decidable (IsLineBreak c) := inferInstanceAs (Decidable (_ ∨ _))

/-- Characters none of which ends the line. -/
def Unbroken (cs : List Char) : Prop := ∀ c ∈ cs, ¬ IsLineBreak c

instance (cs : List Char) : Decidable (Unbroken cs) := List.decidableBAll _ cs

/-- A text on one line. -/
def OneLine (s : String) : Prop := Unbroken s.toList

instance (s : String) : Decidable (OneLine s) := inferInstanceAs (Decidable (Unbroken _))

/-! ## Parts of a text -/

@[simp] theorem unbroken_nil : Unbroken [] := by simp [Unbroken]

/-- A first character and those behind it break no line. -/
@[simp] theorem unbroken_cons {c : Char} {cs : List Char} :
    Unbroken (c :: cs) ↔ ¬ IsLineBreak c ∧ Unbroken cs := List.forall_mem_cons

/-- One run of characters after the other. -/
@[simp] theorem unbroken_append {cs ds : List Char} :
    Unbroken (cs ++ ds) ↔ Unbroken cs ∧ Unbroken ds := List.forall_mem_append

/-- Characters that all occur in an unbroken run are unbroken, in whatever order. -/
theorem Unbroken.of_subset {cs ds : List Char} (h : Unbroken ds) (hsub : cs ⊆ ds) : Unbroken cs :=
  fun c hc => h c (hsub hc)

/-- Only a line break that is repeated breaks a line. -/
theorem unbroken_replicate (n : Nat) {c : Char} (h : ¬ IsLineBreak c) :
    Unbroken (List.replicate n c) := fun _ hc => (List.eq_of_mem_replicate hc) ▸ h

/-- A text is on one line when its characters are unbroken. -/
theorem oneLine_ofList {cs : List Char} : OneLine (String.ofList cs) ↔ Unbroken cs := by
  rw [OneLine, String.toList_ofList]

/-- One text after the other. -/
@[simp] theorem oneLine_append {s t : String} : OneLine (s ++ t) ↔ OneLine s ∧ OneLine t := by
  rw [OneLine, String.toList_append, unbroken_append, OneLine, OneLine]

/-! ## Digits -/

/-- No digit of any base up to sixteen is a line break. -/
theorem not_isLineBreak_digitChar : ∀ n < 16, ¬ IsLineBreak (Nat.digitChar n) := by decide

/-- The digits of a number are no line breaks, in decimal and in hexadecimal. -/
theorem unbroken_toDigits {base : Nat} (hbase : 1 < base) (hlimit : base ≤ 16) (n : Nat) :
    Unbroken (Nat.toDigits base n) := by
  induction n using Nat.strongRecOn with
  | ind n ih =>
    rw [Nat.toDigits_eq_if hbase]
    split
    · next h => simp [not_isLineBreak_digitChar n (by omega)]
    · next h =>
      have hlt : n / base < n := Nat.div_lt_self (by omega) hbase
      have hlast : n % base < base := Nat.mod_lt n (by omega)
      simp [not_isLineBreak_digitChar _ (Nat.lt_of_lt_of_le hlast hlimit), ih _ hlt]

/-- An integer is written with decimal digits and a sign. -/
theorem isDigit_or_eq_hyphen_of_mem_toString {i : Int} {c : Char} (h : c ∈ (toString i).toList) :
    c.isDigit ∨ c = '-' := by
  have hdigit : ∀ n : Nat, c ∈ n.repr.toList → c.isDigit := by
    intro n hn
    rw [Nat.toList_repr] at hn
    exact Nat.isDigit_of_mem_toDigits (by decide) (by decide) hn
  rw [Int.toString_eq_repr, Int.repr_eq_if] at h
  split at h
  · exact .inl (hdigit _ h)
  · rw [String.toList_append, List.mem_append] at h
    rcases h with hsign | hdigits
    · exact .inr (List.mem_singleton.mp hsign)
    · exact .inl (hdigit _ hdigits)

/-- An integer is written on one line. -/
theorem oneLine_int (i : Int) : OneLine (toString i) := by
  intro c hc hbreak
  have hchar := isDigit_or_eq_hyphen_of_mem_toString hc
  rcases hbreak with rfl | rfl
  · exact absurd hchar (by decide)
  · exact absurd hchar (by decide)

/-! ## Quoted texts -/

/-- Filling up a number with zeros does not break a line. -/
theorem unbroken_hexDigits (width n : Nat) : Unbroken (hexDigits width n) :=
  unbroken_append.mpr ⟨unbroken_replicate _ (by decide),
    unbroken_toDigits (by decide) (by decide) n⟩

/-- An escape consists of a backslash, a letter and digits. -/
theorem unbroken_codePointEscape (c : Char) : Unbroken (codePointEscape c) := by
  simp only [codePointEscape]
  split_ifs <;> simp [unbroken_hexDigits] <;> decide

/-- Whatever the character is, no line break is written for it. -/
theorem unbroken_quotedChar {mark : Char} (hmark : ¬ IsLineBreak mark) (c : Char) :
    Unbroken (quotedChar mark c) := by
  unfold quotedChar
  split_ifs with hescaped hfeed hreturn
  · rcases hescaped with rfl | rfl
    · simp [hmark]; decide
    · decide
  · decide
  · decide
  · decide
  · simp [IsLineBreak, hfeed, hreturn]
  · exact unbroken_codePointEscape c

/-- A text is quoted on one line, whatever the text is. -/
theorem oneLine_quoted (s : String) : OneLine (quoted s) := by
  have hmark : ¬ IsLineBreak (quoteMark s.toList) := by
    unfold quoteMark
    split_ifs <;> decide
  rw [quoted, oneLine_ofList]
  simp only [List.cons_append, unbroken_cons, unbroken_append, unbroken_nil]
  refine ⟨hmark, fun c hc => ?_, hmark, trivial⟩
  obtain ⟨d, -, hd⟩ := List.mem_flatMap.mp hc
  exact unbroken_quotedChar hmark d c hd

/-- Items on one line stay on one line with separators between them. -/
theorem oneLine_intercalate {separator : String} (hseparator : OneLine separator)
    {items : List String} (h : ∀ item ∈ items, OneLine item) :
    OneLine (separator.intercalate items) := by
  rw [OneLine, String.toList_intercalate]
  induction items with
  | nil => exact unbroken_nil
  | cons item items ih =>
    obtain ⟨hitem, hitems⟩ := List.forall_mem_cons.mp h
    cases items with
    | nil => simpa [OneLine] using hitem
    | cons next items =>
      rw [List.map_cons, List.map_cons, List.intercalate_cons_cons, ← List.map_cons]
      exact unbroken_append.mpr ⟨unbroken_append.mpr ⟨hitem, hseparator⟩, ih hitems⟩

end Text

open Text

/-! ## Numbers -/

namespace Number.Binary64

/-- A decimal is written with digits, a point, a sign and the letter of the exponent. -/
theorem oneLine_write (l : Layout) (d : Decimal) : OneLine (l.write d) := by
  have hdigits (n : Nat) : Unbroken (Nat.toDigits 10 n) :=
    unbroken_toDigits (by decide) (by decide) n
  have hzeros (n : Nat) : Unbroken (List.replicate n '0') := unbroken_replicate n (by decide)
  simp only [Layout.write, oneLine_ofList]
  generalize hds : Nat.toDigits 10 d.digits = ds
  have hds : Unbroken ds := hds ▸ hdigits d.digits
  have htake (n : Nat) : Unbroken (ds.take n) := hds.of_subset (List.take_subset n ds)
  have hdrop (n : Nat) : Unbroken (ds.drop n) := hds.of_subset (List.drop_subset n ds)
  split_ifs
  · simp +decide [hds, hzeros]
  · simp +decide [htake, hdrop]
  · simp +decide [hds, hzeros]
  -- With an exponent, which is negative or not.
  all_goals
    refine unbroken_append.mpr ⟨?_, ?_⟩
    · split <;> simp_all +decide
    · simp +decide [padLeft, hdigits, hzeros]

/-- The text of a number has one of three forms, all of them on one line. -/
theorem oneLine_text (x : Binary64) : OneLine x.text := by
  unfold text
  split
  · decide
  · split <;> decide
  · dsimp only
    split_ifs <;> simp +decide [oneLine_write]

end Number.Binary64

/-! ## Values and nodes -/

/-- Items on one line stay on one line with commas between them. -/
theorem oneLine_commaSeparated {items : List String} (h : ∀ item ∈ items, OneLine item) :
    OneLine (commaSeparated items) := oneLine_intercalate (by decide) h

/-- A symbol is shown on one line, whatever its name is. -/
theorem Symbol.oneLine_display (s : Symbol) : OneLine s.display := by
  simp only [Symbol.display, oneLine_append]
  exact ⟨⟨by decide, oneLine_quoted s.name⟩, by decide⟩

namespace Node

/-- An attribute is shown on one line, whatever its name and its value are. -/
theorem oneLine_displayAttribute (a : String × String) : OneLine (displayAttribute a) := by
  simp only [displayAttribute, oneLine_append]
  exact ⟨⟨⟨⟨by decide, oneLine_quoted a.1⟩, by decide⟩, oneLine_quoted a.2⟩, by decide⟩

/-- A node of one of the three kinds that have a text and nothing else. -/
theorem oneLine_textual {opening : String} (h : OneLine opening) (content : String) :
    OneLine (opening ++ quoted content ++ ")") := by
  simp only [oneLine_append]
  exact ⟨⟨h, oneLine_quoted content⟩, by decide⟩

theorem oneLine_display (n : Node) : OneLine n.display := by
  induction n using treeInduction with
  | text content => exact oneLine_textual (by decide) content
  | raw content => exact oneLine_textual (by decide) content
  | comment content => exact oneLine_textual (by decide) content
  | element tag attributes children ih =>
    have hattributes : OneLine (commaSeparated (attributes.map displayAttribute)) :=
      oneLine_commaSeparated (List.forall_mem_map.mpr fun a _ => oneLine_displayAttribute a)
    have hchildren : OneLine (commaSeparated (displayAll children)) := by
      rw [displayAll_eq_map]
      exact oneLine_commaSeparated (List.forall_mem_map.mpr ih)
    change OneLine (_ ++ quoted tag ++ _ ++ commaSeparated (attributes.map displayAttribute) ++ _ ++
      commaSeparated (displayAll children) ++ _)
    simp only [oneLine_append]
    exact ⟨⟨⟨⟨⟨⟨by decide, oneLine_quoted tag⟩, by decide⟩, hattributes⟩, by decide⟩, hchildren⟩,
      by decide⟩

end Node

namespace Value

/-- Brackets around items on one line, and the comma behind a single item of a tuple. -/
theorem oneLine_displaySequence (kind : SequenceKind) {items : List String}
    (h : ∀ item ∈ items, OneLine item) : OneLine (displaySequence kind items) := by
  have hitems := oneLine_commaSeparated h
  unfold displaySequence
  split <;> simp only [oneLine_append]
  · exact ⟨⟨by decide, hitems⟩, by decide⟩
  · exact ⟨⟨by decide, h _ List.mem_cons_self⟩, by decide⟩
  · exact ⟨⟨by decide, hitems⟩, by decide⟩

mutual

/-- A value of any depth is shown on one line. -/
theorem oneLine_display : ∀ v : Value, OneLine v.display
  | .text s => oneLine_quoted s
  | .null => by decide
  | .bool b => by cases b <;> decide
  | .int i => oneLine_int i
  | .float x => Number.Binary64.oneLine_text x
  | .sequence kind items => oneLine_displaySequence kind (oneLine_displayAll items)
  | .mapping entries => by
    simp only [display, oneLine_append]
    exact ⟨⟨by decide, oneLine_commaSeparated (oneLine_displayEntries entries)⟩, by decide⟩
  | .symbol s => s.oneLine_display
  | .node n => n.oneLine_display

/-- All items of a sequence are shown on one line. -/
theorem oneLine_displayAll : ∀ vs : List Value, ∀ item ∈ displayAll vs, OneLine item
  | [] => nofun
  | v :: vs => List.forall_mem_cons.mpr ⟨oneLine_display v, oneLine_displayAll vs⟩

/-- All entries of a mapping are shown on one line. -/
theorem oneLine_displayEntries :
    ∀ entries : List (Value × Value), ∀ item ∈ displayEntries entries, OneLine item
  | [] => nofun
  | (key, value) :: entries => by
    refine List.forall_mem_cons.mpr ⟨?_, oneLine_displayEntries entries⟩
    simp only [oneLine_append]
    exact ⟨⟨oneLine_display key, by decide⟩, oneLine_display value⟩

end

end Value

/-! ## Reports -/

/-- A path of any length is shown on one line. -/
theorem Path.oneLine_text (path : Path) : OneLine path.text := by
  rw [Path.text, oneLine_append]
  refine ⟨by decide, ?_⟩
  induction path with
  | nil => decide
  | cons i path ih =>
    simp only [Path.indices, oneLine_append]
    exact ⟨⟨⟨by decide, oneLine_int i⟩, by decide⟩, ih⟩

/-- What a reason quotes as it stands. -/
def Reason.verbatim : Reason → String
  | .attributeValue name => name.name
  | .other text => text
  | _ => ""

/-- The wording of a reason breaks the line only through what it quotes as it stands. -/
theorem Reason.oneLine_text_iff (reason : Reason) :
    OneLine reason.text ↔ OneLine reason.verbatim := by
  cases reason with
  | attributeValue name =>
    change OneLine (_ ++ name.name ++ _) ↔ OneLine name.name
    simp only [oneLine_append]
    exact ⟨fun h => h.1.2, fun h => ⟨⟨by decide, h⟩, by decide⟩⟩
  | other text => rfl
  -- All other texts are long literals, which are decided faster as lists of characters.
  | _ => exact ⟨fun _ => by decide, fun _ => oneLine_ofList.mpr (by decide)⟩

/-- Of all that a message is put together from, only what the reason quotes as it stands can break
the line. -/
theorem InvalidNode.oneLine_message_iff (e : InvalidNode) :
    OneLine e.message ↔ OneLine e.reason.verbatim := by
  have hpath := e.path.oneLine_text
  have hnode := e.node.oneLine_display
  rw [← e.reason.oneLine_text_iff]
  change OneLine (_ ++ e.path.text ++ _ ++ e.reason.text ++ _ ++ e.node.display) ↔ _
  simp only [oneLine_append]
  exact ⟨fun h => h.1.1.2, fun h => ⟨⟨⟨⟨⟨by decide, hpath⟩, by decide⟩, h⟩, by decide⟩, hnode⟩⟩

end MarkupTree
