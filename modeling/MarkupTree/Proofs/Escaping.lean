import MarkupTree.Markup.Entity
import Mathlib.Data.List.Basic
import Mathlib.Logic.ExistsUnique

/-!
# Escaping one character at a time

`escapeChars` replaces one character after the other in the whole text. This module shows that the
five passes amount to a single one, in which every character is written by itself (`escapeChar`):
that is so for every table in which no pass replaces what an earlier one has put in
(`foldl_replaceChar_eq_flatMap`). What follows from that:

* `Decodes.apply_escapeChars_append`: whatever decodes the five entities from left to right gives
  the text back, so `escape` is injective;
* `escape_eq_ofList_and_decodes_escape`: both together, for whole texts;
* `not_mem_delimiters_of_mem_escapeChars`: none of the characters `<`, `>`, `"` and `'` is left;
* `existsUnique_entity_of_escapeChars_eq`: every ampersand that is left begins one of the five
  entities.
-/

namespace MarkupTree.Markup

/-! ## The single pass -/

/-- What stands for a character in markup: its entity, or the character itself. -/
def escapeChar : Char → List Char
  | '&' => "&amp;".toList
  | '<' => "&lt;".toList
  | '>' => "&gt;".toList
  | '"' => "&quot;".toList
  | '\'' => "&apos;".toList
  | c => [c]

/-- What a table puts in the place of a character. -/
def substitute : List (Char × String) → Char → List Char
  | [], c => [c]
  | (d, entity) :: table, c => if c = d then entity.toList else substitute table c

/-- A text without any of the characters that a table replaces stays as it is. -/
theorem flatMap_substitute_of_notMem {table : List (Char × String)} {cs : List Char}
    (h : ∀ entry ∈ table, entry.1 ∉ cs) : cs.flatMap (substitute table) = cs := by
  induction table with
  | nil => exact List.flatMap_singleton' cs
  | cons entry table ih =>
    obtain ⟨hentry, htable⟩ := List.forall_mem_cons.mp h
    -- No character of the text is the one that the first entry is about.
    have hsame : ∀ d ∈ cs, substitute (entry :: table) d = substitute table d := by
      intro d hd
      rw [substitute, if_neg]
      rintro rfl
      exact hentry hd
    rw [List.flatMap_congr hsame, ih htable]

/-- Passes over a text amount to a single one when none of them replaces anything that an earlier
one has put in. -/
theorem foldl_replaceChar_eq_flatMap {table : List (Char × String)}
    (h : table.Pairwise fun earlier later => later.1 ∉ earlier.2.toList) (cs : List Char) :
    table.foldl (fun cs entry => replaceChar entry.1 entry.2.toList cs) cs =
      cs.flatMap (substitute table) := by
  induction h generalizing cs with
  | nil => exact (List.flatMap_singleton' cs).symm
  | @cons entry table hentry _ ih =>
    rw [List.foldl_cons, ih, replaceChar, List.flatMap_assoc]
    refine List.flatMap_congr fun d _ => ?_
    rw [substitute]
    -- What the first pass puts in is none of the later passes' business.
    by_cases hd : d = entry.1
    · rw [if_pos hd, if_pos hd]
      exact flatMap_substitute_of_notMem hentry
    · rw [if_neg hd, if_neg hd, List.flatMap_singleton]

theorem substitute_entities (c : Char) : substitute entities c = escapeChar c := by
  fun_cases escapeChar c
  · rfl
  · rfl
  · rfl
  · rfl
  · rfl
  · next hamp hlt hgt hquot hapos =>
    have h : ∀ entry ∈ entities, entry.1 ∉ [c] := by simp_all [entities, eq_comm]
    simpa using flatMap_substitute_of_notMem h

/-- The passes over the whole text amount to one pass in which no character sees its neighbours. The
ampersand has to come first: it is the only escaped character that an entity holds. -/
theorem escapeChars_eq_flatMap (cs : List Char) : escapeChars cs = cs.flatMap escapeChar := by
  have horder : entities.Pairwise fun earlier later => later.1 ∉ earlier.2.toList := by decide
  rw [← funext substitute_entities]
  exact foldl_replaceChar_eq_flatMap horder cs

theorem escapeChars_append (as bs : List Char) :
    escapeChars (as ++ bs) = escapeChars as ++ escapeChars bs := by
  simp only [escapeChars_eq_flatMap, List.flatMap_append]

theorem escapeChars_cons (c : Char) (cs : List Char) :
    escapeChars (c :: cs) = escapeChar c ++ escapeChars cs := by
  rw [escapeChars_eq_flatMap, escapeChars_eq_flatMap, List.flatMap_cons]

/-! ## Decoding -/

/-- A pass from left to right that puts the character in the place of each entity that it comes upon
and copies every character that is no ampersand. It may do anything with other ampersands. -/
structure Decodes (decode : List Char → List Char) : Prop where
  /-- There is nothing to decode at the end. -/
  nil : decode [] = []
  /-- An entity stands for its character, whatever follows. -/
  entity : ∀ entry ∈ entities, ∀ cs, decode (entry.2.toList ++ cs) = entry.1 :: decode cs
  /-- Only an ampersand begins an entity. -/
  other : ∀ c cs, c ≠ '&' → decode (c :: cs) = c :: decode cs

section Decodes

variable {decode : List Char → List Char} (h : Decodes decode)
include h

/-- Decoding takes back one escaped character, whatever follows it. -/
theorem Decodes.apply_escapeChar_append (c : Char) (cs : List Char) :
    decode (escapeChar c ++ cs) = c :: decode cs := by
  fun_cases escapeChar c
  · exact h.entity ('&', "&amp;") (by decide) cs
  · exact h.entity ('<', "&lt;") (by decide) cs
  · exact h.entity ('>', "&gt;") (by decide) cs
  · exact h.entity ('"', "&quot;") (by decide) cs
  · exact h.entity ('\'', "&apos;") (by decide) cs
  · next hamp _ _ _ _ => exact h.other c cs hamp

/-- Decoding takes escaping back, also for a text that holds entities or parts of them. -/
theorem Decodes.apply_escapeChars_append (cs ds : List Char) :
    decode (escapeChars cs ++ ds) = cs ++ decode ds := by
  induction cs with
  | nil => rfl
  | cons c cs ih =>
    rw [escapeChars_cons, List.append_assoc, h.apply_escapeChar_append, ih, List.cons_append]

theorem Decodes.apply_escapeChars (cs : List Char) : decode (escapeChars cs) = cs := by
  have happend := h.apply_escapeChars_append cs []
  rwa [List.append_nil, h.nil, List.append_nil] at happend

end Decodes

/-- Reads a text from left to right and puts the character in the place of each entity. -/
def unescapeChars : List Char → List Char
  | '&' :: 'a' :: 'm' :: 'p' :: ';' :: cs => '&' :: unescapeChars cs
  | '&' :: 'l' :: 't' :: ';' :: cs => '<' :: unescapeChars cs
  | '&' :: 'g' :: 't' :: ';' :: cs => '>' :: unescapeChars cs
  | '&' :: 'q' :: 'u' :: 'o' :: 't' :: ';' :: cs => '"' :: unescapeChars cs
  | '&' :: 'a' :: 'p' :: 'o' :: 's' :: ';' :: cs => '\'' :: unescapeChars cs
  | c :: cs => c :: unescapeChars cs
  | [] => []

theorem decodes_unescapeChars : Decodes unescapeChars where
  nil := rfl
  entity := by
    intro entry hentry cs
    simp only [entities, List.mem_cons, List.not_mem_nil, or_false] at hentry
    rcases hentry with rfl | rfl | rfl | rfl | rfl <;> rfl
  other := by
    intro c cs hc
    rw [unescapeChars]
    all_goals
      intro _ hamp
      exact absurd hamp hc

theorem unescapeChars_escapeChars (cs : List Char) : unescapeChars (escapeChars cs) = cs :=
  decodes_unescapeChars.apply_escapeChars cs

theorem escapeChars_injective : Function.Injective escapeChars :=
  Function.LeftInverse.injective unescapeChars_escapeChars

theorem escape_injective : Function.Injective escape := by
  intro s t h
  have hchars : escapeChars s.toList = escapeChars t.toList := by
    rw [← toList_escape, ← toList_escape, h]
  exact String.toList_inj.mp (escapeChars_injective hchars)

/-- A text with its entities decoded. -/
def unescape (s : String) : String := String.ofList (unescapeChars s.toList)

/-- Replacing the five characters one after the other in the whole text is the same as replacing
each by itself, and decoding gives every text back, one that holds entities or parts of them too.
That is so for `unescape` and for any other way to decode the five entities from left to right. -/
theorem escape_eq_ofList_and_decodes_escape (s : String) :
    escape s = String.ofList (s.toList.flatMap escapeChar) ∧
    unescape (escape s) = s ∧
    ∀ decode, Decodes decode → decode (escape s).toList = s.toList := by
  refine ⟨?_, ?_, fun decode hdecode => ?_⟩
  · rw [escape, escapeChars_eq_flatMap]
  · rw [unescape, toList_escape, unescapeChars_escapeChars, String.ofList_toList]
  · rw [toList_escape, hdecode.apply_escapeChars]

/-- An entity in the text is neither left alone nor decoded twice. -/
theorem decodes_escape_of_entity_in_text :
    Decodes unescapeChars ∧ escape "&lt;&am'" = "&amp;lt;&amp;am&apos;" ∧
    unescapeChars (escape "&lt;&am'").toList = "&lt;&am'".toList := by
  obtain ⟨-, -, hdecode⟩ := escape_eq_ofList_and_decodes_escape "&lt;&am'"
  exact ⟨decodes_unescapeChars, by decide, hdecode unescapeChars decodes_unescapeChars⟩

/-! ## What an escaped text is made of -/

/-- The characters that delimit tags and attribute values in markup. -/
def delimiters : List Char := ['<', '>', '"', '\'']

theorem not_mem_delimiters_of_mem_escapeChar {c d : Char} (hd : d ∈ escapeChar c) :
    d ∉ delimiters := by
  have hall : (escapeChar c).all (· ∉ delimiters) = true := by
    fun_cases escapeChar c
    · rfl
    · rfl
    · rfl
    · rfl
    · rfl
    · simp_all [delimiters]
  exact of_decide_eq_true (List.all_eq_true.mp hall d hd)

/-- An escaped text holds no delimiter of markup. -/
theorem not_mem_delimiters_of_mem_escapeChars {cs : List Char} {d : Char}
    (hd : d ∈ escapeChars cs) : d ∉ delimiters := by
  rw [escapeChars_eq_flatMap, List.mem_flatMap] at hd
  obtain ⟨c, -, hd⟩ := hd
  exact not_mem_delimiters_of_mem_escapeChar hd

/-- The texts of the five entities. -/
def entityTexts : List String := ["&amp;", "&lt;", "&gt;", "&quot;", "&apos;"]

/-- No entity is the beginning of another one. -/
theorem eq_of_entity_prefix {cs : List Char} {e e' : String} (he : e ∈ entityTexts)
    (he' : e' ∈ entityTexts) (h : e.toList <+: cs) (h' : e'.toList <+: cs) : e = e' := by
  have key : ∀ e ∈ entityTexts, ∀ e' ∈ entityTexts, e.toList <+: e'.toList → e = e' := by
    decide
  -- Of two texts that the same text begins with, one begins with the other.
  rcases List.prefix_or_prefix_of_prefix h h' with hpre | hpre
  · exact key e he e' he' hpre
  · exact (key e' he' e he hpre).symm

/-- An ampersand in an escaped character is the first character of its entity. -/
theorem escapeChar_eq_append_ampersand {c : Char} {as bs : List Char}
    (h : escapeChar c = as ++ '&' :: bs) :
    as = [] ∧ ∃ e ∈ entityTexts, e.toList = escapeChar c := by
  -- Entities are spelled without a second ampersand.
  have htail : '&' ∉ (escapeChar c).tail := by
    fun_cases escapeChar c <;> simp
  have hnil : as = [] := by
    cases as with
    | nil => rfl
    | cons a as => rw [h] at htail; simp at htail
  refine ⟨hnil, ?_⟩
  subst hnil
  revert h
  fun_cases escapeChar c
  · exact fun _ => ⟨"&amp;", by decide, rfl⟩
  · exact fun _ => ⟨"&lt;", by decide, rfl⟩
  · exact fun _ => ⟨"&gt;", by decide, rfl⟩
  · exact fun _ => ⟨"&quot;", by decide, rfl⟩
  · exact fun _ => ⟨"&apos;", by decide, rfl⟩
  · next hamp _ _ _ _ =>
    intro h
    exact absurd (List.cons.inj h).1 hamp

/-- Wherever an ampersand stands in an escaped text, it begins exactly one of the entities. -/
theorem existsUnique_entity_of_escapeChars_eq {cs as bs : List Char}
    (h : escapeChars cs = as ++ '&' :: bs) :
    ∃! e, e ∈ entityTexts ∧ e.toList <+: '&' :: bs := by
  have hexists : ∃ e ∈ entityTexts, e.toList <+: '&' :: bs := by
    induction cs generalizing as with
    | nil => simp at h
    | cons c cs ih =>
      rw [escapeChars_cons, List.append_eq_append_iff] at h
      -- The ampersand lies behind the first escaped character, or inside it.
      rcases h with ⟨as', -, h⟩ | ⟨cs', hc, h⟩
      · exact ih h
      · cases cs' with
        | nil =>
          have hrest : escapeChars cs = [] ++ '&' :: bs := h.symm
          exact ih hrest
        | cons a cs' =>
          obtain ⟨rfl, hbs⟩ := List.cons.inj h
          obtain ⟨rfl, e, he, hec⟩ := escapeChar_eq_append_ampersand hc
          refine ⟨e, he, ?_⟩
          rw [hec, hc, hbs]
          exact ⟨escapeChars cs, rfl⟩
  obtain ⟨e, he, hpre⟩ := hexists
  exact ⟨e, ⟨he, hpre⟩, fun e' h' => eq_of_entity_prefix h'.1 he h'.2 hpre⟩

end MarkupTree.Markup
