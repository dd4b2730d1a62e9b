import MarkupTree.Proofs.JsonReading
import MarkupTree.Proofs.SymbolSteps

/-!
# Decoding JSON documents

Decoding a text that has been written yields the document again (`decodeWithin_write`), with any
space around it, and under any limits that take its integers. So every document is the decoding of
some text unless it has a fractional number or a name twice, and no two documents are written as the
same text (`write_injective`). Decoding rounds fractional numbers, which are left out.
-/

namespace MarkupTree.Json

open Cursor

/-! ## The steps of decoding -/

namespace Yields

variable {ε : Type} {limits : Limits ε} {c d e : Cursor} {first : Char} {rest : List Char}

/-- A quote begins a string. -/
theorem value_text {characters : List Char} (h : c.rest = '"' :: rest)
    (hbody : Yields (stringBody limits c.position (c.skip 1)) characters d) :
    Yields (value limits c) (.text (String.ofList characters)) d := by
  obtain ⟨hd, hbody⟩ := hbody
  obtain ⟨position, rfl⟩ := Cursor.exists_eq_mk h
  refine ⟨Nat.lt_of_lt_of_le hd (Cursor.length_rest_skip_le _ _), ?_⟩
  rw [value]
  simp [hbody]

/-- What begins with no quote, bracket or brace is a word or a number. -/
theorem value_scalar {document : Json} {n : Nat} (h : c.rest = first :: rest)
    (hfirst : first ≠ '"' ∧ first ≠ '[' ∧ first ≠ '{')
    (hscalar : scalar? c.rest = some (document, n + 1))
    (hlimit : document.isInteger → limits.integer (digitCount c.rest (n + 1)) = .ok ()) :
    Yields (value limits c) document (c.skip (n + 1)) := by
  obtain ⟨position, rfl⟩ := Cursor.exists_eq_mk h
  obtain ⟨hquote, hbracket, hbrace⟩ := hfirst
  refine ⟨Cursor.length_rest_skip_lt (Nat.succ_pos n) (by simp), ?_⟩
  rw [value]
  simp
  rw [hscalar]
  by_cases hint : document.isInteger
  · simp [hint, hlimit hint]
  · simp [hint]
    rfl

/-- A closing bracket right behind the opening one ends an array without items. -/
theorem value_array_nil (h : c.rest = '[' :: ']' :: rest) :
    Yields (value limits c) (.array []) (c.skip 2) := by
  have hpast := past_of_mark h (by decide)
  obtain ⟨position, rfl⟩ := Cursor.exists_eq_mk h
  refine ⟨Cursor.length_rest_skip_lt (by decide) (by simp), ?_⟩
  rw [value]
  simp [hpast, Cursor.skip]
  rfl

/-- Any other array goes on with its first item. -/
theorem value_array {documents : List Json} (h : c.rest = '[' :: first :: rest)
    (hfirst : ¬ isSpace first ∧ first ≠ ']')
    (hitems : Yields (items limits (c.skip 1)) documents d) :
    Yields (value limits c) (.array documents) d := by
  rw [← past_of_mark h hfirst.1] at hitems
  obtain ⟨hd, hitems⟩ := hitems
  -- What comes behind the bracket rules out the array without items.
  have hpast : ∀ after, c.past.rest ≠ ']' :: after := by
    simp [past_of_mark h hfirst.1, Cursor.skip, h, hfirst.2]
  obtain ⟨position, rfl⟩ := Cursor.exists_eq_mk h
  refine ⟨hd.trans (Cursor.length_rest_past_lt (by simp)), ?_⟩
  rw [value]
  simp [hitems]

/-- A closing brace right behind the opening one ends an object without members. -/
theorem value_object_nil (h : c.rest = '{' :: '}' :: rest) :
    Yields (value limits c) (.object []) (c.skip 2) := by
  have hpast := past_of_mark h (by decide)
  obtain ⟨position, rfl⟩ := Cursor.exists_eq_mk h
  refine ⟨Cursor.length_rest_skip_lt (by decide) (by simp), ?_⟩
  rw [value]
  simp [hpast, Cursor.skip]
  rfl

/-- Any other object goes on with its first name. -/
theorem value_object {entries : List (String × Json)} (h : c.rest = '{' :: '"' :: rest)
    (hmembers : Yields (members limits (c.skip 1)) entries d) :
    Yields (value limits c) (ofMembers entries) d := by
  rw [← past_of_mark h (by decide)] at hmembers
  obtain ⟨hd, hmembers⟩ := hmembers
  have hpast : ∀ after, c.past.rest ≠ '}' :: after := by
    simp [past_of_mark h (by decide), Cursor.skip, h]
  obtain ⟨position, rfl⟩ := Cursor.exists_eq_mk h
  refine ⟨hd.trans (Cursor.length_rest_past_lt (by simp)), ?_⟩
  rw [value]
  simp [hmembers]

/-- A closing bracket behind an item ends the array. -/
theorem items_single {document : Json} (hvalue : Yields (value limits c) document e)
    (hend : e.rest = ']' :: rest) : Yields (items limits c) [document] (e.skip 1) := by
  obtain ⟨he, hvalue⟩ := hvalue
  refine ⟨Nat.lt_of_le_of_lt (Cursor.length_rest_skip_le _ 1) he, ?_⟩
  rw [items]
  simp [hvalue, bind, Except.bind, skipSpace_of_mark hend (by decide), hend]
  rfl

/-- A comma behind an item is followed by the other items. -/
theorem items_cons {document : Json} {others : List Json}
    (hvalue : Yields (value limits c) document e) (hend : e.rest = ',' :: ' ' :: first :: rest)
    (hfirst : ¬ isSpace first) (hitems : Yields (items limits (e.skip 2)) others d) :
    Yields (items limits c) (document :: others) d := by
  rw [← past_skipSpace_of_mark hend (by decide) hfirst] at hitems
  rw [← skipSpace_of_mark hend (by decide)] at hend
  obtain ⟨he, hvalue⟩ := hvalue
  obtain ⟨hd, hitems⟩ := hitems
  have hspace := Cursor.length_rest_skipSpace_le e
  have hpast := Cursor.length_rest_past_le e.skipSpace
  refine ⟨by omega, ?_⟩
  rw [items]
  simp [hvalue, bind, Except.bind, hend, hitems]
  rfl

section Members

variable {characters afterName afterColon : List Char} {document : Json} {colon : Cursor}
  (h : c.rest = '"' :: afterName)
  (hname : Yields (stringBody limits c.position (c.skip 1)) characters colon)
  (hcolon : colon.rest = ':' :: ' ' :: first :: afterColon) (hfirst : ¬ isSpace first)
  (hvalue : Yields (value limits (colon.skip 2)) document e)
include h hname hcolon hfirst hvalue

/-- A closing brace behind a member ends the object. -/
theorem members_single (hend : e.rest = '}' :: rest) :
    Yields (members limits c) [(String.ofList characters, document)] (e.skip 1) := by
  rw [← past_skipSpace_of_mark hcolon (by decide) hfirst] at hvalue
  rw [← skipSpace_of_mark hcolon (by decide)] at hcolon
  obtain ⟨hn, hname⟩ := hname
  obtain ⟨he, hvalue⟩ := hvalue
  have hskip := Cursor.length_rest_skip_le c 1
  have hspace := Cursor.length_rest_skipSpace_le colon
  have hpast := Cursor.length_rest_past_le colon.skipSpace
  have hskip' := Cursor.length_rest_skip_le e 1
  refine ⟨by omega, ?_⟩
  rw [members]
  simp [h, hname, bind, Except.bind, hcolon, hvalue, skipSpace_of_mark hend (by decide), hend]
  rfl

/-- A comma behind a member is followed by the other members. -/
theorem members_cons {others : List (String × Json)} (hend : e.rest = ',' :: ' ' :: '"' :: rest)
    (hmembers : Yields (members limits (e.skip 2)) others d) :
    Yields (members limits c) ((String.ofList characters, document) :: others) d := by
  rw [← past_skipSpace_of_mark hcolon (by decide) hfirst] at hvalue
  rw [← skipSpace_of_mark hcolon (by decide)] at hcolon
  rw [← past_skipSpace_of_mark hend (by decide) (by decide)] at hmembers
  rw [← skipSpace_of_mark hend (by decide)] at hend
  obtain ⟨hn, hname⟩ := hname
  obtain ⟨he, hvalue⟩ := hvalue
  obtain ⟨hd, hmembers⟩ := hmembers
  have hskip := Cursor.length_rest_skip_le c 1
  have hspace := Cursor.length_rest_skipSpace_le colon
  have hpast := Cursor.length_rest_past_le colon.skipSpace
  have hspace' := Cursor.length_rest_skipSpace_le e
  have hpast' := Cursor.length_rest_past_le e.skipSpace
  refine ⟨by omega, ?_⟩
  rw [members]
  simp [h, hname, bind, Except.bind, hcolon, hvalue, hend, hmembers]
  rfl

end Members

end Yields

/-! ## Reading what was written -/

section ReadsBack

variable {ε : Type} {limits : Limits ε} {document : Json} {documents : List Json}
  {entries : List (String × Json)} {c : Cursor} {rest : List Char}

/-- A document is read where it has been written, up to the end of its text. -/
def ReadsBack (limits : Limits ε) (document : Json) : Prop :=
  ∀ (c : Cursor) (rest), c.rest = document.write ++ rest → EndsNumber rest →
    Yields (value limits c) document (c.skip document.write.length)

/-- A comma, a bracket or a brace ends a number. -/
theorem endsNumber_cons {mark : Char} (h : mark ∈ [',', ']', '}'])
    (rest : List Char) : EndsNumber (mark :: rest) := by
  rintro _ ⟨⟩
  simp only [List.mem_cons, List.not_mem_nil, or_false] at h
  rcases h with rfl | rfl | rfl <;> decide

/-- A document begins with no space and no closing bracket. -/
theorem exists_write_eq_cons (h : ComesBack limits document) :
    ∃ first cs, document.write = first :: cs ∧ ¬ isSpace first ∧ first ≠ ']' := by
  cases h with
  | null => exact ⟨'n', _, rfl, by decide⟩
  | bool b =>
    cases b with
    | false => exact ⟨'f', _, rfl, by decide⟩
    | true => exact ⟨'t', _, rfl, by decide⟩
  | @int i h =>
    obtain ⟨first, cs, hcs, hfirst⟩ := exists_writeInt_eq_cons i
    refine ⟨first, cs, hcs, ?_⟩
    rcases hfirst with hdigit | rfl
    · have hmarks : ([' ', '\t', '\n', '\r', ']'].all fun s => !s.isDigit) = true := rfl
      have hne : ∀ s ∈ [' ', '\t', '\n', '\r', ']'], first ≠ s := by
        rintro s hs rfl
        have hmark := List.all_eq_true.mp hmarks first hs
        rw [hdigit] at hmark
        exact Bool.false_ne_true hmark
      simpa [isSpace, and_assoc] using hne
    · decide
  | text s => exact ⟨'"', _, rfl, by decide⟩
  | array => exact ⟨'[', _, rfl, by decide⟩
  | object => exact ⟨'{', _, rfl, by decide⟩

/-- The items of an array begin with no space and no closing bracket either. -/
theorem exists_writeItems_eq_cons (h : ComesBack limits document) (documents : List Json) :
    ∃ first cs, writeItems (document :: documents) = first :: cs ∧
      ¬ isSpace first ∧ first ≠ ']' := by
  obtain ⟨first, cs, hcs, hfirst⟩ := exists_write_eq_cons h
  cases documents with
  | nil => exact ⟨first, cs ++ [']'], by simp [writeItems, hcs], hfirst⟩
  | cons next others =>
    exact ⟨first, cs ++ ',' :: ' ' :: writeItems (next :: others), by simp [writeItems, hcs],
      hfirst⟩

/-- The members of an object begin with the quote of a name. -/
theorem exists_writeMembers_eq_cons (member : String × Json) (members : List (String × Json)) :
    ∃ cs, writeMembers (member :: members) = '"' :: cs := by
  cases members with
  | nil => exact ⟨_, rfl⟩
  | cons => exact ⟨_, rfl⟩

/-- A string is read back, whatever characters it has. -/
theorem readsBack_text (s : String) : ReadsBack limits (.text s) := by
  intro c rest h _
  have hbody : (c.skip 1).rest = writeBody s.toList ++ rest := by
    simp [Cursor.skip, h, write, writeText]
  have hyields : Yields (value limits c) (.text (String.ofList s.toList))
      ((c.skip 1).skip (writeBody s.toList).length) :=
    Yields.value_text h (Yields.stringBody_writeBody hbody)
  rw [skip_skip, String.ofList_toList] at hyields
  rw [write, writeText, List.length_cons, Nat.add_comm]
  exact hyields

/-- An integer is read back if the decoder takes that many digits. -/
theorem readsBack_int {i : Int} (h : limits.integer (Nat.toDigits 10 i.natAbs).length = .ok ()) :
    ReadsBack limits (.int i) := by
  intro c rest hc hrest
  have hscalar := scalar?_writeInt hrest i
  have hcount := digitCount_writeInt i rest
  rw [write] at hc ⊢
  rw [← hc] at hscalar hcount
  obtain ⟨first, cs, hcs, hfirst⟩ := exists_writeInt_eq_cons i
  rw [hcs] at hc hscalar hcount ⊢
  refine Yields.value_scalar hc ?_ hscalar ?_
  · rcases hfirst with hdigit | rfl
    · refine ⟨?_, ?_, ?_⟩ <;> rintro rfl <;> cases hdigit
    · decide
  · intro _
    rw [List.length_cons] at hcount
    rw [hcount, h]

/-- A word is read back, whatever follows it. -/
theorem readsBack_word {first : Char} {letters : List Char}
    (hwrite : document.write = first :: letters) (hfirst : first ≠ '"' ∧ first ≠ '[' ∧ first ≠ '{')
    (hint : document.isInteger = false)
    (hscalar : ∀ rest, scalar? (document.write ++ rest) = some (document, letters.length + 1)) :
    ReadsBack limits document := by
  intro c rest h _
  have hword : scalar? c.rest = some (document, letters.length + 1) := h ▸ hscalar rest
  rw [hwrite] at h ⊢
  exact Yields.value_scalar h hfirst hword fun hinteger => by simp [hint] at hinteger

/-- The word for the absent value is read back. -/
theorem readsBack_null : ReadsBack limits .null :=
  readsBack_word rfl (by decide) rfl fun _ => rfl

/-- The words for the truth values are read back. -/
theorem readsBack_bool (b : Bool) : ReadsBack limits (.bool b) := by
  cases b with
  | false => exact readsBack_word rfl (by decide) rfl fun _ => rfl
  | true => exact readsBack_word rfl (by decide) rfl fun _ => rfl

/-- The items of an array are read one after the other, up to the closing bracket. -/
theorem items_writeItems (hne : documents ≠ []) (hwritten : ∀ d ∈ documents, ComesBack limits d)
    (hreads : ∀ d ∈ documents, ReadsBack limits d) (h : c.rest = writeItems documents ++ rest) :
    Yields (items limits c) documents (c.skip (writeItems documents).length) := by
  -- Behind each item stands a comma or a bracket, so a number that is an item ends there.
  induction documents generalizing c with
  | nil => exact absurd rfl hne
  | cons document documents ih =>
    obtain ⟨hdocument, hdocuments⟩ := List.forall_mem_cons.mp hreads
    cases documents with
    | nil =>
      have hitem : c.rest = document.write ++ ']' :: rest := by simpa [writeItems] using h
      have hvalue := hdocument c _ hitem (endsNumber_cons (by simp) rest)
      simpa [writeItems, skip_skip] using hvalue.items_single (rest_skip_of_append hitem)
    | cons next others =>
      have hitem : c.rest =
          document.write ++ ',' :: ' ' :: (writeItems (next :: others) ++ rest) := by
        simpa [writeItems] using h
      have hvalue := hdocument c _ hitem (endsNumber_cons (by simp) _)
      have hend := rest_skip_of_append hitem
      have hitems := ih (by simp) (fun d hd => hwritten d (by simp [hd])) hdocuments
        (rest_skip_two hend)
      obtain ⟨first, cs, hcs, hfirst, -⟩ :=
        exists_writeItems_eq_cons (hwritten next (by simp)) others
      rw [hcs] at hend
      simpa [writeItems, skip_skip, Nat.add_assoc, Nat.add_comm 2] using
        hvalue.items_cons hend hfirst hitems

/-- The name of a member, the colon and the value are read in the same way whatever comes behind
them. -/
theorem yields_entry {name : String} (hwritten : ComesBack limits document)
    (hreads : ReadsBack limits document) (hrest : EndsNumber rest)
    (h : c.rest = writeText name ++ ':' :: ' ' :: (document.write ++ rest)) :
    let colon := c.skip (writeText name).length
    let e := (colon.skip 2).skip document.write.length
    Yields (stringBody limits c.position (c.skip 1)) name.toList colon ∧
      (∃ first cs, colon.rest = ':' :: ' ' :: first :: cs ∧ ¬ isSpace first) ∧
      Yields (value limits (colon.skip 2)) document e ∧ e.rest = rest := by
  intro colon e
  have hname : Yields (stringBody limits c.position (c.skip 1)) name.toList
      ((c.skip 1).skip (writeBody name.toList).length) :=
    Yields.stringBody_writeBody (rest_skip_one h)
  rw [skip_skip, Nat.add_comm] at hname
  have hcolon : colon.rest = ':' :: ' ' :: (document.write ++ rest) := rest_skip_of_append h
  have hvalue : (colon.skip 2).rest = document.write ++ rest := rest_skip_two hcolon
  obtain ⟨first, cs, hcs, hfirst, -⟩ := exists_write_eq_cons hwritten
  refine ⟨hname, ⟨first, cs ++ rest, ?_, hfirst⟩, hreads _ rest hvalue hrest,
    rest_skip_of_append hvalue⟩
  rw [hcolon, hcs]
  rfl

/-- The members of an object are read one after the other, up to the closing brace. -/
theorem members_writeMembers (hne : entries ≠ [])
    (hwritten : ∀ entry ∈ entries, ComesBack limits entry.2)
    (hreads : ∀ entry ∈ entries, ReadsBack limits entry.2)
    (h : c.rest = writeMembers entries ++ rest) :
    Yields (members limits c) entries (c.skip (writeMembers entries).length) := by
  induction entries generalizing c with
  | nil => exact absurd rfl hne
  | cons entry entries ih =>
    obtain ⟨name, document⟩ := entry
    obtain ⟨hdocument, hothers⟩ := List.forall_mem_cons.mp hwritten
    obtain ⟨hread, hentries⟩ := List.forall_mem_cons.mp hreads
    cases entries with
    | nil =>
      have hc : c.rest = writeText name ++ ':' :: ' ' :: (document.write ++ '}' :: rest) := by
        simpa [writeMembers] using h
      obtain ⟨hname, ⟨first, cs, hcolon, hfirst⟩, hvalue, hend⟩ :=
        yields_entry hdocument hread (endsNumber_cons (by simp) rest) hc
      have hyields := Yields.members_single hc hname hcolon hfirst hvalue hend
      simpa [writeMembers, skip_skip, Nat.add_assoc, Nat.add_comm 2] using hyields
    | cons next others =>
      have hc : c.rest = writeText name ++ ':' :: ' ' ::
          (document.write ++ ',' :: ' ' :: (writeMembers (next :: others) ++ rest)) := by
        simpa [writeMembers] using h
      obtain ⟨hname, ⟨first, cs, hcolon, hfirst⟩, hvalue, hend⟩ :=
        yields_entry hdocument hread (endsNumber_cons (by simp) _) hc
      have hmembers := ih (by simp) hothers hentries (rest_skip_two hend)
      obtain ⟨cs', hcs'⟩ := exists_writeMembers_eq_cons next others
      rw [hcs'] at hend
      have hyields := Yields.members_cons hc hname hcolon hfirst hvalue hend hmembers
      simpa [writeMembers, skip_skip, Nat.add_assoc, Nat.add_comm 2, Nat.add_comm 4] using hyields

/-- Every document that comes back is read where it has been written. -/
theorem readsBack_of_comesBack (h : ComesBack limits document) : ReadsBack limits document := by
  -- Writing recurs on the document and decoding on the place; the place is for all to begin with.
  induction h with
  | null => exact readsBack_null
  | bool b => exact readsBack_bool b
  | int h => exact readsBack_int h
  | text s => exact readsBack_text s
  | @array items h ih =>
    intro c rest hc _
    cases items with
    | nil => exact Yields.value_array_nil hc
    | cons item items =>
      obtain ⟨first, cs, hcs, hfirst⟩ := exists_writeItems_eq_cons (h item (by simp)) items
      have hitems := items_writeItems (by simp) h ih (rest_skip_one hc)
      rw [write, hcs] at hc
      simpa [write, skip_skip, Nat.add_comm 1] using Yields.value_array hc hfirst hitems
  | @object members hnames h ih =>
    intro c rest hc _
    cases members with
    | nil => exact Yields.value_object_nil hc
    | cons member members =>
      obtain ⟨cs, hcs⟩ := exists_writeMembers_eq_cons member members
      have hmembers := members_writeMembers (by simp) h ih (rest_skip_one hc)
      rw [write, hcs] at hc
      have hvalue := Yields.value_object hc hmembers
      -- No name comes twice, so no member takes the place of another one.
      rw [ofMembers_eq_object hnames] at hvalue
      simpa [write, skip_skip, Nat.add_comm 1] using hvalue

end ReadsBack

/-! ## Whole texts -/

section Texts

variable {ε : Type} {limits : Limits ε} {document : Json} {before after : List Char}

/-- Space ends a number, and so does the end of the text. -/
theorem endsNumber_of_space (h : ∀ s ∈ after, isSpace s) : EndsNumber after := by
  intro c hc
  have hspace := h c (List.mem_of_mem_head? hc)
  simp only [isSpace, Bool.or_eq_true, decide_eq_true_eq] at hspace
  rcases hspace with ((rfl | rfl) | rfl) | rfl <;> decide

/-- No byte order mark stands in front of a document that was written. -/
theorem head?_ne_byteOrderMark (h : ComesBack limits document)
    (hbefore : ∀ s ∈ before, isSpace s) :
    (before ++ (document.write ++ after)).head? ≠ some '\ufeff' := by
  cases before with
  | nil =>
    obtain ⟨first, cs, hcs, -⟩ := exists_write_eq_cons h
    have hplain : IsPlain first := isPlain_write h first (by simp [hcs])
    rw [List.nil_append, hcs]
    rintro ⟨⟩
    revert hplain
    decide
  | cons s before =>
    rintro ⟨⟩
    exact absurd (hbefore _ List.mem_cons_self) (by decide)

/-- A document that has been written, with any space around it, is decoded to itself. -/
theorem decodeWithin_write (h : ComesBack limits document)
    (hbefore : ∀ s ∈ before, isSpace s) (hafter : ∀ s ∈ after, isSpace s) :
    decodeWithin limits (before ++ (document.write ++ after)) = .ok document := by
  obtain ⟨first, cs, hcs, hfirst, -⟩ := exists_write_eq_cons h
  have hspace := skipSpace_eq_skip (c := ⟨0, before ++ (document.write ++ after)⟩) rfl hbefore
    (by simpa [hcs] using hfirst)
  have hrest := rest_skip_of_append (c := ⟨0, before ++ (document.write ++ after)⟩) rfl
  have hvalue := readsBack_of_comesBack h _ after hrest (endsNumber_of_space hafter)
  have hend := rest_skip_of_append hrest
  rw [← hspace] at hvalue hend
  obtain ⟨hd, hvalue⟩ := hvalue
  -- Behind the document there is space up to the end of the text.
  have hend' := rest_skipSpace_of_space (by rwa [hend])
  rw [decodeWithin, if_neg (head?_ne_byteOrderMark h hbefore)]
  simp [hvalue, hend', bind, Except.bind, pure, Except.pure]

/-- A document that has been written is decoded to itself. -/
theorem decodeWithin_write_self (h : ComesBack limits document) :
    decodeWithin limits document.write = .ok document := by
  have hdecode : decodeWithin limits ([] ++ (document.write ++ [])) = .ok document :=
    decodeWithin_write h (by simp) (by simp)
  simpa using hdecode

/-- In particular so it is where nothing limits the decoder. -/
theorem decode_write (h : ComesBack .none document) : decode document.write = .ok document :=
  decodeWithin_write_self h

/-- No two documents are written as the same text. -/
theorem write_injective {document' : Json} (h : ComesBack .none document)
    (h' : ComesBack .none document') (hwrite : document.write = document'.write) :
    document = document' := by
  have hdecode := decode_write h
  rw [hwrite, decode_write h'] at hdecode
  exact (Except.ok.inj hdecode).symm

end Texts

end MarkupTree.Json
