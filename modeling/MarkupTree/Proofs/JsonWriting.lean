import MarkupTree.Json.Decode

/-!
# Writing JSON documents

A document as a text of characters that can be printed: a space stands behind each comma and each
colon, and what is beyond ASCII is written as code point escapes. What the writer is for is said
about the decoder, which reads back what has been written.
-/

namespace MarkupTree.Json

/-! ## The writer -/

/-- The letter or sign that stands for a character behind a backslash. -/
def shortEscape? : Char → Option Char
  | '"' => some '"'
  | '\\' => some '\\'
  | '\x08' => some 'b'
  | '\x0c' => some 'f'
  | '\n' => some 'n'
  | '\r' => some 'r'
  | '\t' => some 't'
  | _ => none

/-- A number below `16 ^ 4` in four hexadecimal digits. -/
def hexDigits (n : Nat) : List Char :=
  [(n / 4096).digitChar, (n / 256 % 16).digitChar, (n / 16 % 16).digitChar, (n % 16).digitChar]

/-- A code point escape. -/
def writeCodeUnit (n : Nat) : List Char := '\\' :: 'u' :: hexDigits n

/-- A character of a string. One that needs more than four hexadecimal digits is written as a
surrogate pair. -/
def writeChar (c : Char) : List Char :=
  match shortEscape? c with
  | some letter => ['\\', letter]
  | none =>
    if 0x20 ≤ c.toNat ∧ c.toNat < 0x7f then [c]
    else if c.toNat < 0x10000 then writeCodeUnit c.toNat
    else
      writeCodeUnit (0xd800 + (c.toNat - 0x10000) / 0x400) ++
        writeCodeUnit (0xdc00 + (c.toNat - 0x10000) % 0x400)

/-- A string up to its closing quote. -/
def writeBody (characters : List Char) : List Char := characters.flatMap writeChar ++ ['"']

/-- A string. -/
def writeText (s : String) : List Char := '"' :: writeBody s.toList

/-- An integer. -/
def writeInt : Int → List Char
  | .ofNat n => Nat.toDigits 10 n
  | .negSucc n => '-' :: Nat.toDigits 10 (n + 1)

mutual

/-- A document as a text. -/
def write : Json → List Char
  | .null => "null".toList
  | .bool b => if b then "true".toList else "false".toList
  | .int i => writeInt i
  | .float x => x.text.toList
  | .text s => writeText s
  | .array items => '[' :: writeItems items
  | .object members => '{' :: writeMembers members

/-- The items of an array and the closing bracket. -/
def writeItems : List Json → List Char
  | [] => [']']
  | [item] => item.write ++ [']']
  | item :: items => item.write ++ ',' :: ' ' :: writeItems items

/-- The members of an object and the closing brace. -/
def writeMembers : List (String × Json) → List Char
  | [] => ['}']
  | [(name, value)] => writeText name ++ ':' :: ' ' :: value.write ++ ['}']
  | (name, value) :: members =>
    writeText name ++ ':' :: ' ' :: value.write ++ ',' :: ' ' :: writeMembers members

end

/-! ## The characters of a text -/

/-- A character of ASCII that can be printed. -/
def IsPlain (c : Char) : Prop := 0x20 ≤ c.toNat ∧ c.toNat < 0x7f

instance : DecidablePred IsPlain := fun c => by
  unfold IsPlain
  infer_instance

/-- The characters of a word are plain if a test of each of them says so. -/
theorem isPlain_of_all {cs : List Char} (h : (cs.all fun c => decide (IsPlain c)) = true) :
    ∀ c ∈ cs, IsPlain c := by
  simpa using h

/-- Hexadecimal digits are plain. -/
theorem isPlain_hexDigits {n : Nat} (hn : n < 0x10000) : ∀ c ∈ hexDigits n, IsPlain c := by
  have hdigit : ∀ n < 16, IsPlain n.digitChar := by decide
  have h1 := hdigit (n / 4096) (by omega)
  have h2 := hdigit (n / 256 % 16) (by omega)
  have h3 := hdigit (n / 16 % 16) (by omega)
  have h4 := hdigit (n % 16) (by omega)
  simp [hexDigits, h1, h2, h3, h4]

/-- A code point escape is plain. -/
theorem isPlain_writeCodeUnit {n : Nat} (hn : n < 0x10000) : ∀ c ∈ writeCodeUnit n, IsPlain c := by
  have hmark : IsPlain '\\' ∧ IsPlain 'u' := by decide
  simpa [writeCodeUnit, hmark] using isPlain_hexDigits hn

/-- The letter or sign of a short escape is plain. -/
theorem isPlain_shortEscape? {c letter : Char} (h : shortEscape? c = some letter) :
    IsPlain letter := by
  unfold shortEscape? at h
  split at h <;> simp_all <;> subst h <;> decide

/-- Whatever the character is, it is written in plain characters. -/
theorem isPlain_writeChar (character : Char) : ∀ c ∈ writeChar character, IsPlain c := by
  -- No character lies beyond 0x10ffff, so four digits are enough for each half of a pair.
  have hvalid : character.toNat < 0xd800 ∨ 0xdfff < character.toNat ∧ character.toNat < 0x110000 :=
    character.valid
  have hslash : IsPlain '\\' := by decide
  unfold writeChar
  split
  next letter h => simp [hslash, isPlain_shortEscape? h]
  next =>
    split
    next h => exact List.forall_mem_singleton.mpr h
    next =>
      split
      next h => exact isPlain_writeCodeUnit h
      next =>
        rw [List.forall_mem_append]
        exact ⟨isPlain_writeCodeUnit (by omega), isPlain_writeCodeUnit (by omega)⟩

/-- Strings are written in plain characters. -/
theorem isPlain_writeText (s : String) : ∀ c ∈ writeText s, IsPlain c := by
  have hquote : IsPlain '"' := by decide
  simp only [writeText, writeBody, List.forall_mem_cons, List.forall_mem_append, List.mem_flatMap]
  refine ⟨hquote, ?_, by simpa using hquote⟩
  rintro c ⟨character, -, hc⟩
  exact isPlain_writeChar character c hc

/-- Decimal digits are plain. -/
theorem isPlain_toDigits (n : Nat) : ∀ c ∈ Nat.toDigits 10 n, IsPlain c := by
  intro c hc
  have hdigit := Nat.isDigit_of_mem_toDigits (by decide) (by decide) hc
  -- Digits are told by their code points, which lie within those of plain characters.
  have hrange : '0'.toNat ≤ c.toNat ∧ c.toNat ≤ '9'.toNat := by
    simpa [Char.isDigit, UInt32.le_iff_toNat_le] using hdigit
  exact ⟨Nat.le_trans (by decide) hrange.1, Nat.lt_of_le_of_lt hrange.2 (by decide)⟩

/-- Integers are written in plain characters. -/
theorem isPlain_writeInt (i : Int) : ∀ c ∈ writeInt i, IsPlain c := by
  have hsign : IsPlain '-' := by decide
  cases i with
  | ofNat n => exact isPlain_toDigits n
  | negSucc n => exact List.forall_mem_cons.mpr ⟨hsign, isPlain_toDigits (n + 1)⟩

/-- The signs between the items of an array are plain. -/
theorem isPlain_writeItems {items : List Json} (h : ∀ item ∈ items, ∀ c ∈ item.write, IsPlain c) :
    ∀ c ∈ writeItems items, IsPlain c := by
  have hmarks : IsPlain ']' ∧ IsPlain ',' ∧ IsPlain ' ' := by decide
  induction items with
  | nil => simpa [writeItems] using hmarks.1
  | cons item items ih =>
    obtain ⟨hitem, hitems⟩ := List.forall_mem_cons.mp h
    cases items with
    | nil => simpa [writeItems, hmarks, or_imp, forall_and] using hitem
    | cons => simpa [writeItems, hmarks, or_imp, forall_and] using ⟨hitem, ih hitems⟩

/-- So are the signs between the members of an object, and their names. -/
theorem isPlain_writeMembers {members : List (String × Json)}
    (h : ∀ member ∈ members, ∀ c ∈ member.2.write, IsPlain c) :
    ∀ c ∈ writeMembers members, IsPlain c := by
  have hmarks : IsPlain '}' ∧ IsPlain ':' ∧ IsPlain ',' ∧ IsPlain ' ' := by decide
  induction members with
  | nil => simpa [writeMembers] using hmarks.1
  | cons member members ih =>
    obtain ⟨hvalue, hmembers⟩ := List.forall_mem_cons.mp h
    have hname := isPlain_writeText member.1
    cases members with
    | nil => simpa [writeMembers, hmarks, or_imp, forall_and] using ⟨hname, hvalue⟩
    | cons => simpa [writeMembers, hmarks, or_imp, forall_and] using ⟨hname, hvalue, ih hmembers⟩

/-- Documents that come back when they are written: no number has a fraction or an exponent, the
decoder takes the integers, and no object has a name twice. -/
inductive ComesBack {ε : Type} (limits : Limits ε) : Json → Prop
  /-- The absent value. -/
  | null : ComesBack limits .null
  /-- A truth value. -/
  | bool (b) : ComesBack limits (.bool b)
  /-- An integer that is not too long. -/
  | int {i} (h : limits.integer (Nat.toDigits 10 i.natAbs).length = .ok ()) :
      ComesBack limits (.int i)
  /-- A string. -/
  | text (s) : ComesBack limits (.text s)
  /-- An array. -/
  | array {items} (h : ∀ item ∈ items, ComesBack limits item) : ComesBack limits (.array items)
  /-- An object. -/
  | object {members} (hnames : (members.map Prod.fst).Nodup)
      (h : ∀ member ∈ members, ComesBack limits member.2) : ComesBack limits (.object members)

section ComesBack

variable {ε : Type} {limits : Limits ε} {document : Json}

/-- Documents are written in characters of ASCII, without line ends. -/
theorem isPlain_write (h : ComesBack limits document) : ∀ c ∈ document.write, IsPlain c := by
  have hmarks : IsPlain '[' ∧ IsPlain '{' := by decide
  induction h with
  | null => exact isPlain_of_all rfl
  | bool b => cases b <;> exact isPlain_of_all rfl
  | int => exact isPlain_writeInt _
  | text s => exact isPlain_writeText s
  | array h ih => simpa [write, hmarks] using isPlain_writeItems ih
  | object hnames h ih => simpa [write, hmarks] using isPlain_writeMembers ih

end ComesBack

end MarkupTree.Json
