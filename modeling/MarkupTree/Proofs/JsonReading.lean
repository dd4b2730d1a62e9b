import MarkupTree.Proofs.JsonWriting
import Mathlib.Data.List.Basic
import Mathlib.Tactic.IntervalCases

/-!
# Reading strings and integers in JSON texts

Where a string or an integer has been written, decoding yields it, and goes on right behind it
(`Yields.stringBody_writeBody`, `scalar?_writeInt`). An integer has to be followed by something that
does not go on a number.
-/

namespace MarkupTree.Json

open Number.Binary64

/-! ## Places -/

namespace Cursor

variable {c : Cursor} {mark first : Char} {rest : List Char}

/-- A place with a text left is that text at some position. -/
theorem exists_eq_mk {cs : List Char} (h : c.rest = cs) : ∃ position, c = ⟨position, cs⟩ := by
  subst h
  exact ⟨c.position, rfl⟩

/-- Skipping twice is skipping once. -/
theorem skip_skip (c : Cursor) (m n : Nat) : (c.skip m).skip n = c.skip (m + n) := by
  simp [skip, Nat.add_assoc]

/-- Behind a text that has been skipped comes what follows it. -/
theorem rest_skip_of_append {cs : List Char} (h : c.rest = cs ++ rest) :
    (c.skip cs.length).rest = rest := by
  simp [skip, h]

/-- Behind one character. -/
theorem rest_skip_one (h : c.rest = mark :: rest) : (c.skip 1).rest = rest := by
  simp [skip, h]

/-- Behind two characters. -/
theorem rest_skip_two (h : c.rest = mark :: first :: rest) : (c.skip 2).rest = rest := by
  simp [skip, h]

/-- Space is skipped up to the first character that is none. -/
theorem skipSpace_eq_skip {space : List Char} (h : c.rest = space ++ rest)
    (hspace : ∀ s ∈ space, isSpace s) (hrest : ∀ s ∈ rest.head?, ¬ isSpace s) :
    c.skipSpace = c.skip space.length := by
  have hstop : rest.takeWhile isSpace = [] := by
    cases rest with
    | nil => rfl
    | cons s rest => exact List.takeWhile_cons_of_neg (hrest s rfl)
  rw [skipSpace, h, List.takeWhile_append_of_pos hspace, hstop, List.append_nil]

/-- Where a sign stands there is no space to skip. -/
theorem skipSpace_of_mark (h : c.rest = mark :: rest) (hmark : ¬ isSpace mark) :
    c.skipSpace = c := by
  have hnone : c.rest = [] ++ mark :: rest := h
  exact skipSpace_eq_skip hnone (by simp) (by simpa using hmark)

/-- A bracket without space behind it. -/
theorem past_of_mark (h : c.rest = mark :: first :: rest) (hfirst : ¬ isSpace first) :
    c.past = c.skip 1 :=
  skipSpace_of_mark (rest_skip_one h) hfirst

/-- A comma or a colon with a space behind it. -/
theorem past_skipSpace_of_mark (h : c.rest = mark :: ' ' :: first :: rest)
    (hmark : ¬ isSpace mark) (hfirst : ¬ isSpace first) : c.skipSpace.past = c.skip 2 := by
  have hrest : (c.skip 1).rest = [' '] ++ first :: rest := rest_skip_one h
  rw [skipSpace_of_mark h hmark, past,
    skipSpace_eq_skip hrest (by simp [isSpace]) (by simpa using hfirst), skip_skip]
  rfl

/-- Space up to the end of the text is skipped. -/
theorem rest_skipSpace_of_space (h : ∀ s ∈ c.rest, isSpace s) : c.skipSpace.rest = [] := by
  have hall : c.rest = c.rest ++ [] := (List.append_nil _).symm
  rw [skipSpace_eq_skip hall h (by simp)]
  exact rest_skip_of_append hall

end Cursor

open Cursor

/-! ## Reading strings -/

section Strings

/-- A short escape stands for the character that it was written for, and is no code point escape. -/
theorem simpleEscape?_of_shortEscape? {c letter : Char} (h : shortEscape? c = some letter) :
    letter ≠ 'u' ∧ simpleEscape? letter = some c := by
  unfold shortEscape? at h
  split at h <;> simp_all <;> subst h <;> decide

/-- A quote and a backslash are always escaped. -/
theorem ne_of_shortEscape?_eq_none {c : Char} (h : shortEscape? c = none) : c ≠ '"' ∧ c ≠ '\\' := by
  constructor <;> rintro rfl <;> cases h

/-- A hexadecimal digit has the value that it was written for. -/
theorem hexValue?_digitChar : ∀ n < 16, hexValue? n.digitChar = some n := by
  decide

/-- Four hexadecimal digits are read as the number that they were written for, unless they end the
text. -/
theorem codeUnit?_hexDigits {n : Nat} (hn : n < 0x10000) {rest : List Char} (hrest : rest ≠ []) :
    codeUnit? (hexDigits n ++ rest) = some n := by
  obtain ⟨next, rest, rfl⟩ := List.exists_cons_of_ne_nil hrest
  have h1 := hexValue?_digitChar (n / 4096) (by omega)
  have h2 := hexValue?_digitChar (n / 256 % 16) (by omega)
  have h3 := hexValue?_digitChar (n / 16 % 16) (by omega)
  have h4 := hexValue?_digitChar (n % 16) (by omega)
  simp [hexDigits, codeUnit?, h1, h2, h3, h4]
  omega

variable {ε α : Type} {limits : Limits ε} {start : Nat} {c d u : Cursor} {rest : List Char}

/-- Decoding yields something, and goes on at a place. -/
def Yields {cs : List Char} (outcome : Except ε (α × After cs)) (a : α) (d : Cursor) : Prop :=
  ∃ h, outcome = .ok (a, ⟨d, h⟩)

/-- A code point escape outside the surrogates stands for a character of its own. -/
theorem codePoint_of_unit {n : Nat} (h : u.rest = 'u' :: (hexDigits n ++ rest)) (hrest : rest ≠ [])
    (hn : n < 0xd800 ∨ 0xe000 ≤ n ∧ n < 0x10000) :
    codePoint limits u = .ok (Char.ofNat n, 4) := by
  have hunit : codeUnit? (u.skip 1).rest = some n := by
    simpa [Cursor.skip, h] using codeUnit?_hexDigits (by omega) hrest
  have hhigh : isHighSurrogate n = false := by
    simp [isHighSurrogate]
    omega
  have hlow : isLowSurrogate n = false := by
    simp [isLowSurrogate]
    omega
  have hchar : charOfCodeUnit limits n = .ok (Char.ofNat n) := by
    simp [charOfCodeUnit, hhigh, hlow]
  rw [codePoint]
  simp only [hunit, hhigh, hchar]
  -- A second escape may follow, but the first one is not half of a pair.
  split <;> rfl

/-- Two code point escapes that are a surrogate pair stand for one character. -/
theorem codePoint_of_pair {high low : Nat}
    (h : u.rest = 'u' :: (hexDigits high ++ (writeCodeUnit low ++ rest))) (hrest : rest ≠ [])
    (hhigh : 0xd800 ≤ high ∧ high < 0xdc00) (hlow : 0xdc00 ≤ low ∧ low < 0xe000) :
    codePoint limits u = .ok (joinSurrogates high low, 10) := by
  have hfirst : codeUnit? (u.skip 1).rest = some high := by
    simpa [Cursor.skip, h] using codeUnit?_hexDigits (by omega) (by simp [writeCodeUnit])
  have hsecond : codeUnit? (hexDigits low ++ rest) = some low :=
    codeUnit?_hexDigits (by omega) hrest
  have hlength : 4 < (hexDigits low ++ rest).length := by
    have := List.length_pos_iff.mpr hrest
    simp [hexDigits]
    omega
  have hdrop : (u.skip 1).rest.drop 4 = '\\' :: 'u' :: (hexDigits low ++ rest) := by
    simp [Cursor.skip, h, hexDigits, writeCodeUnit]
  have hhigh' : isHighSurrogate high = true := by simp [isHighSurrogate, hhigh]
  have hlow' : isLowSurrogate low = true := by simp [isLowSurrogate, hlow]
  rw [codePoint]
  simp only [hfirst, hdrop, hhigh', hlength, hsecond, hlow']
  rfl

namespace Yields

variable {character letter : Char} {characters : List Char}

/-- A quote ends the string. -/
theorem stringBody_quote (h : c.rest = '"' :: rest) :
    Yields (stringBody limits start c) [] (c.skip 1) := by
  -- Which branch is taken depends on the text at the place, so the place is taken apart.
  obtain ⟨position, rfl⟩ := Cursor.exists_eq_mk h
  refine ⟨by simp [Cursor.skip], ?_⟩
  rw [stringBody]
  rfl

/-- A backslash and a letter or sign are read as one character. -/
theorem stringBody_escape (h : c.rest = '\\' :: letter :: rest) (hletter : letter ≠ 'u')
    (hescape : simpleEscape? letter = some character)
    (hbody : Yields (stringBody limits start (c.skip 2)) characters d) :
    Yields (stringBody limits start c) (character :: characters) d := by
  obtain ⟨hd, hbody⟩ := hbody
  obtain ⟨position, rfl⟩ := Cursor.exists_eq_mk h
  refine ⟨Nat.lt_of_lt_of_le hd (Cursor.length_rest_skip_le _ _), ?_⟩
  rw [stringBody]
  simp [hescape, hbody]

/-- A code point escape, or a pair of them, is read as one character. -/
theorem stringBody_codePoint {n : Nat} (h : c.rest = '\\' :: 'u' :: rest)
    (hcode : codePoint limits (c.skip 1) = .ok (character, n))
    (hbody : Yields (stringBody limits start (c.skip (n + 2))) characters d) :
    Yields (stringBody limits start c) (character :: characters) d := by
  obtain ⟨hd, hbody⟩ := hbody
  obtain ⟨position, rfl⟩ := Cursor.exists_eq_mk h
  refine ⟨Nat.lt_of_lt_of_le hd (Cursor.length_rest_skip_le _ _), ?_⟩
  rw [stringBody]
  simp [hcode, hbody, bind, Except.bind]
  rfl

/-- Any other character that is no control character is read as itself. -/
theorem stringBody_plain (h : c.rest = character :: rest) (hquote : character ≠ '"')
    (hslash : character ≠ '\\') (hplain : 0x20 ≤ character.toNat)
    (hbody : Yields (stringBody limits start (c.skip 1)) characters d) :
    Yields (stringBody limits start c) (character :: characters) d := by
  obtain ⟨hd, hbody⟩ := hbody
  obtain ⟨position, rfl⟩ := Cursor.exists_eq_mk h
  refine ⟨Nat.lt_of_lt_of_le hd (Cursor.length_rest_skip_le _ _), ?_⟩
  have hcontrol : ¬ character.toNat < 0x20 := by omega
  rw [stringBody]
  simp [hslash, hcontrol, hbody]

/-- A character that has been written is read, and then the rest of the string. -/
theorem stringBody_writeChar (h : c.rest = writeChar character ++ rest) (hrest : rest ≠ [])
    (hbody : Yields (stringBody limits start (c.skip (writeChar character).length)) characters d) :
    Yields (stringBody limits start c) (character :: characters) d := by
  -- It is a short escape, the character itself, a code point escape or a pair of them.
  cases hshort : shortEscape? character with
  | some letter =>
    obtain ⟨hletter, hescape⟩ := simpleEscape?_of_shortEscape? hshort
    have hwrite : writeChar character = ['\\', letter] := by rw [writeChar, hshort]
    rw [hwrite] at h hbody
    exact stringBody_escape h hletter hescape hbody
  | none =>
    by_cases hprintable : 0x20 ≤ character.toNat ∧ character.toNat < 0x7f
    · obtain ⟨hquote, hslash⟩ := ne_of_shortEscape?_eq_none hshort
      have hwrite : writeChar character = [character] := by simp [writeChar, hshort, hprintable]
      rw [hwrite] at h hbody
      exact stringBody_plain h hquote hslash hprintable.1 hbody
    have hvalid : character.toNat < 0xd800 ∨
        0xdfff < character.toNat ∧ character.toNat < 0x110000 := character.valid
    by_cases hunit : character.toNat < 0x10000
    · have hwrite : writeChar character = writeCodeUnit character.toNat := by
        simp [writeChar, hshort, hprintable, hunit]
      rw [hwrite] at h hbody
      have hcode : codePoint limits (c.skip 1) = .ok (Char.ofNat character.toNat, 4) :=
        codePoint_of_unit (rest_skip_one h) hrest (by omega)
      rw [Char.ofNat_toNat] at hcode
      exact stringBody_codePoint h hcode hbody
    · obtain ⟨high, hhigh⟩ : ∃ high, high = 0xd800 + (character.toNat - 0x10000) / 0x400 := ⟨_, rfl⟩
      obtain ⟨low, hlow⟩ : ∃ low, low = 0xdc00 + (character.toNat - 0x10000) % 0x400 := ⟨_, rfl⟩
      have hwrite : writeChar character = writeCodeUnit high ++ writeCodeUnit low := by
        simp [writeChar, hshort, hprintable, hunit, hhigh, hlow]
      rw [hwrite] at h hbody
      rw [List.append_assoc] at h
      have hcode : codePoint limits (c.skip 1) = .ok (joinSurrogates high low, 10) :=
        codePoint_of_pair (rest_skip_one h) hrest (by omega) (by omega)
      -- Putting the halves together undoes how they were taken apart.
      have hsum : 0x10000 + (high - 0xd800) * 0x400 + (low - 0xdc00) = character.toNat := by omega
      rw [joinSurrogates, hsum, Char.ofNat_toNat] at hcode
      exact stringBody_codePoint h hcode hbody

/-- A string that has been written is read up to its closing quote. -/
theorem stringBody_writeBody (h : c.rest = writeBody characters ++ rest) :
    Yields (stringBody limits start c) characters (c.skip (writeBody characters).length) := by
  induction characters generalizing c with
  | nil => exact stringBody_quote h
  | cons character characters ih =>
    have hcons : writeBody (character :: characters) =
        writeChar character ++ writeBody characters := by
      simp [writeBody]
    rw [hcons, List.append_assoc] at h
    rw [hcons, List.length_append, ← skip_skip]
    exact stringBody_writeChar h (by simp [writeBody]) (ih (rest_skip_of_append h))

end Yields

end Strings

/-! ## Reading numbers -/

section Numbers

variable {rest : List Char}

/-- What follows does not go on a number: no digit, point or exponent. -/
def EndsNumber (rest : List Char) : Prop :=
  ∀ c ∈ rest.head?, c.isDigit = false ∧ c ≠ '.' ∧ c ≠ 'e' ∧ c ≠ 'E'

/-- The digits of a number are read as the number. -/
theorem natOfDigits_toDigits (n : Nat) : natOfDigits (Nat.toDigits 10 n) = n := by
  rw [natOfDigits, ← Nat.ofDigitChars_eq_foldl, Nat.ofDigitChars_ten_toDigits]

/-- A number begins with a digit. -/
theorem exists_toDigits_eq_cons (n : Nat) : ∃ c cs, Nat.toDigits 10 n = c :: cs ∧ c.isDigit := by
  obtain ⟨c, cs, hcs⟩ := List.exists_cons_of_ne_nil (Nat.toDigits_ne_nil : Nat.toDigits 10 n ≠ [])
  have hmem : c ∈ Nat.toDigits 10 n := by simp [hcs]
  exact ⟨c, cs, hcs, Nat.isDigit_of_mem_toDigits (by decide) (by decide) hmem⟩

/-- An integer begins with a digit or its sign. -/
theorem exists_writeInt_eq_cons (i : Int) :
    ∃ c cs, writeInt i = c :: cs ∧ (c.isDigit ∨ c = '-') := by
  cases i with
  | ofNat n =>
    obtain ⟨c, cs, h, hdigit⟩ := exists_toDigits_eq_cons n
    exact ⟨c, cs, h, .inl hdigit⟩
  | negSucc n => exact ⟨'-', _, rfl, .inr rfl⟩

/-- A number has no sign. -/
theorem head?_toDigits_ne_hyphen (n : Nat) : (Nat.toDigits 10 n).head? ≠ some '-' := by
  obtain ⟨c, cs, h, hdigit⟩ := exists_toDigits_eq_cons n
  rw [h]
  rintro ⟨⟩
  cases hdigit

/-- Only the number zero begins with a zero. -/
theorem head?_toDigits_ne_zero {n : Nat} (hn : 0 < n) : (Nat.toDigits 10 n).head? ≠ some '0' := by
  induction n using Nat.strongRecOn with
  | ind n ih =>
    rw [Nat.toDigits_eq_if (by decide)]
    split
    · interval_cases n <;> decide
    · -- The first digit is also that of the number without its last digit.
      rw [List.head?_append_of_ne_nil _ Nat.toDigits_ne_nil]
      exact ih (n / 10) (by omega) (by omega)

namespace EndsNumber

/-- The digits of a number end where the number does. -/
theorem takeWhile_isDigit (h : EndsNumber rest) : rest.takeWhile Char.isDigit = [] := by
  cases rest with
  | nil => rfl
  | cons c rest => exact List.takeWhile_cons_of_neg (by simp [(h c rfl).1])

/-- There is no fraction behind the end of a number. -/
theorem fractionLength_eq_zero (h : EndsNumber rest) : fractionLength rest = 0 := by
  unfold fractionLength
  split
  · exact absurd rfl (h _ rfl).2.1
  · rfl

/-- There is no exponent behind the end of a number. -/
theorem exponentLength_eq_zero (h : EndsNumber rest) : exponentLength rest = 0 := by
  cases rest with
  | nil => rfl
  | cons c rest =>
    obtain ⟨-, -, he, hE⟩ := h c rfl
    simp [exponentLength, he, hE]

/-- All digits of a number are read: a leading zero would end it early, but only zero has one. -/
theorem wholeLength_toDigits (h : EndsNumber rest) (n : Nat) :
    wholeLength (Nat.toDigits 10 n ++ rest) = (Nat.toDigits 10 n).length := by
  rcases n.eq_zero_or_pos with rfl | hn
  · rfl
  have hdigits : (Nat.toDigits 10 n ++ rest).takeWhile Char.isDigit = Nat.toDigits 10 n := by
    rw [List.takeWhile_append_of_pos fun c hc =>
      Nat.isDigit_of_mem_toDigits (by decide) (by decide) hc, h.takeWhile_isDigit, List.append_nil]
  unfold wholeLength
  split
  next cs heq =>
    have hhead := head?_toDigits_ne_zero hn
    rw [← List.head?_append_of_ne_nil _ (Nat.toDigits_ne_nil (b := 10)), heq] at hhead
    exact absurd rfl hhead
  next => rw [hdigits]

/-- An integer that has been written is read, sign and digits. -/
theorem number?_writeInt (h : EndsNumber rest) (i : Int) :
    number? (writeInt i ++ rest) = some (.int i, (writeInt i).length) := by
  have hne (n : Nat) : (Nat.toDigits 10 n).length ≠ 0 := by simp [Nat.toDigits_ne_nil]
  cases i with
  | ofNat n =>
    simp [number?, writeInt, head?_toDigits_ne_hyphen n, h.wholeLength_toDigits n, hne n,
      h.fractionLength_eq_zero, h.exponentLength_eq_zero, natOfDigits_toDigits]
  | negSucc n =>
    simp [number?, writeInt, h.wholeLength_toDigits (n + 1), hne (n + 1), h.fractionLength_eq_zero,
      h.exponentLength_eq_zero, natOfDigits_toDigits]
    omega

end EndsNumber

/-- No word has a digit in its first two places, where every integer has one. -/
theorem words_have_no_digit : ∀ word ∈ words, ∃ a b cs, word.1.toList = a :: b :: cs ∧
    a.isDigit = false ∧ b.isDigit = false := by
  simp [words]

/-- An integer does not begin like a word. -/
theorem find?_words_writeInt (i : Int) (rest : List Char) :
    (words.find? fun (word, _) => word.toList.isPrefixOf (writeInt i ++ rest)) = none := by
  rw [List.find?_eq_none]
  intro word hword
  obtain ⟨a, b, cs, hcs, ha, hb⟩ := words_have_no_digit word hword
  simp only [hcs]
  -- Without a sign the first place tells them apart, with a sign the second one.
  cases i with
  | ofNat n =>
    obtain ⟨c, cs, h, hdigit⟩ := exists_toDigits_eq_cons n
    have hne : a ≠ c := by
      rintro rfl
      exact Bool.false_ne_true (ha.symm.trans hdigit)
    simp [writeInt, h, hne]
  | negSucc n =>
    obtain ⟨c, cs, h, hdigit⟩ := exists_toDigits_eq_cons (n + 1)
    have hne : b ≠ c := by
      rintro rfl
      exact Bool.false_ne_true (hb.symm.trans hdigit)
    simp [writeInt, h, hne]

/-- An integer that has been written is read as it is. -/
theorem scalar?_writeInt (h : EndsNumber rest) (i : Int) :
    scalar? (writeInt i ++ rest) = some (.int i, (writeInt i).length) := by
  rw [scalar?, find?_words_writeInt]
  exact h.number?_writeInt i

/-- The digits of an integer are counted without its sign. -/
theorem digitCount_writeInt (i : Int) (rest : List Char) :
    digitCount (writeInt i ++ rest) (writeInt i).length = (Nat.toDigits 10 i.natAbs).length := by
  cases i with
  | ofNat n => simp [digitCount, writeInt, head?_toDigits_ne_hyphen n]
  | negSucc n => simp [digitCount, writeInt]

end Numbers

end MarkupTree.Json
