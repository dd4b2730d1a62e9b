import Mathlib.Data.List.TakeWhile
import MarkupTree.Proofs.ConversionSteps

/-!
# What the conversion from SXML notes

The conversion notes the name of every attribute without a value that it comes upon before it fails.
`visits` lists everything that a value makes the conversion look at, in order and without regard to
failures: the entries of the attribute list of an element before its body, and the items of the body
from left to right. The conversion succeeds exactly when all of that is sound, and what it notes are
the names among the visits up to the first one that is not (`follows_convert`).
-/

namespace MarkupTree.Sxml

/-! ## Visits -/

/-- Something that the conversion looks at. -/
inductive Visit where
  /-- An item behind the head of an attribute list. -/
  | entry (entry : Value)
  /-- A value in a body, or the whole value, that is neither a text nor a list with a head. -/
  | untagged (v : Value)

namespace Visit

/-- Whether the conversion goes on after a visit: an entry has one item or two. -/
def sound : Visit → Bool
  | .entry (.sequence _ [_]) => true
  | .entry (.sequence _ [_, _]) => true
  | _ => false

/-- The name of an entry whose value is missing or absent. -/
def unvalued? : Visit → Option Value
  | .entry (.sequence _ [name]) => some name
  | .entry (.sequence _ [name, .null]) => some name
  | _ => none

/-- The conversion goes on after exactly the entries that can be converted. -/
theorem sound_entry_iff {entry : Value} : (Visit.entry entry).sound = true ↔ IsEntry entry := by
  constructor
  · intro h
    unfold sound at h
    split at h
    · next kind name heq => cases heq; exact ⟨kind, [name], rfl, .inl rfl⟩
    · next kind name value heq => cases heq; exact ⟨kind, [name, value], rfl, .inr rfl⟩
    · cases h
  · rintro ⟨kind, items, rfl, hlength | hlength⟩
    · obtain ⟨name, rfl⟩ := List.length_eq_one_iff.mp hlength
      rfl
    · obtain ⟨name, value, rfl⟩ := List.length_eq_two.mp hlength
      rfl

/-- An entry without a value does not end the conversion. -/
theorem sound_of_unvalued? {visit : Visit} {name : Value} (h : visit.unvalued? = some name) :
    visit.sound := by
  unfold unvalued? at h
  split at h
  · rfl
  · rfl
  · cases h

/-- The names without a value among visits, up to the first visit that ends the conversion. -/
def noted (visits : List Visit) : List Value := (visits.takeWhile sound).filterMap unvalued?

/-- A single visit notes the name that it has, whether or not it ends the conversion. -/
theorem noted_singleton (visit : Visit) : noted [visit] = visit.unvalued?.toList := by
  cases hsound : visit.sound with
  | true => cases hname : visit.unvalued? <;> simp [noted, hsound, hname]
  | false =>
    have hnone : visit.unvalued? = none := by
      rw [Option.eq_none_iff_forall_ne_some]
      intro name hname
      rw [sound_of_unvalued? hname] at hsound
      cases hsound
    simp [noted, hsound, hnone]

/-- After sound visits what the others note is noted too. -/
theorem noted_append_of_sound {visits : List Visit} (h : ∀ visit ∈ visits, visit.sound)
    (others : List Visit) : noted (visits ++ others) = noted visits ++ noted others := by
  rw [noted, List.takeWhile_append_of_pos h, List.filterMap_append, noted, noted,
    List.takeWhile_eq_self_iff.mpr h]

/-- After a visit that ends the conversion nothing more is noted. -/
theorem noted_append_of_not_sound {visits : List Visit} (h : ¬ ∀ visit ∈ visits, visit.sound)
    (others : List Visit) : noted (visits ++ others) = noted visits := by
  have hlength : (visits.takeWhile sound).length ≠ visits.length := fun heq =>
    h (List.takeWhile_eq_self_iff.mp ((List.takeWhile_prefix sound).eq_of_length heq))
  rw [noted, List.takeWhile_append, if_neg hlength, noted]

end Visit

mutual

/-- What the conversion of a value looks at: the entries of an attribute list before the body, and
the items of the body from left to right. -/
def visits : Value → List Visit
  | .text _ => []
  | .sequence _ (_ :: second :: rest) =>
    match attributeEntries? second with
    | some entries => entries.map .entry ++ visitsAll rest
    | none => visits second ++ visitsAll rest
  | .sequence _ [_] => []
  | v => [.untagged v]

/-- What the conversion of the items of a body looks at. -/
def visitsAll : List Value → List Visit
  | [] => []
  | v :: vs => visits v ++ visitsAll vs

end

/-- With an attribute list in slot 1 the body begins behind it. -/
theorem visits_of_attributeEntries? (kind : SequenceKind) (tag : Value) {second : Value}
    {entries : List Value} (h : attributeEntries? second = some entries) (rest : List Value) :
    visits (.sequence kind (tag :: second :: rest)) = entries.map .entry ++ visitsAll rest := by
  rw [visits, h]

/-- Without an attribute list the body begins in slot 1. -/
theorem visits_of_attributeEntries?_eq_none (kind : SequenceKind) (tag : Value) {second : Value}
    (h : attributeEntries? second = none) (rest : List Value) :
    visits (.sequence kind (tag :: second :: rest)) = visitsAll (second :: rest) := by
  rw [visits, h, visitsAll]

/-! ## Conversions that follow visits -/

/-- A conversion succeeds exactly when all visits are sound, and it notes the names among them up to
the first one that is not. -/
structure Follows {α : Type} (m : Traced α) (visits : List Visit) : Prop where
  /-- What is noted. -/
  notices_eq : m.notices = Visit.noted visits
  /-- When the conversion succeeds. -/
  exists_result_iff : (∃ a, m.result = .ok a) ↔ ∀ visit ∈ visits, visit.sound

namespace Follows

variable {α β : Type} {m : Traced α}

/-- A result at hand visits nothing. -/
theorem pure (a : α) : Follows (Pure.pure a : Traced α) [] := ⟨rfl, by simp⟩

/-- One conversion after the other follows the visits of both. -/
theorem bind {vs ws : List Visit} (hm : Follows m vs) {f : α → Traced β}
    (hf : ∀ a, Follows (f a) ws) : Follows (m >>= f) (vs ++ ws) := by
  cases hresult : m.result with
  | ok a =>
    have hsound := hm.exists_result_iff.mp ⟨a, hresult⟩
    refine ⟨?_, ?_⟩
    · rw [Traced.notices_bind_of_ok hresult, Visit.noted_append_of_sound hsound, hm.notices_eq,
        (hf a).notices_eq]
    · rw [Traced.result_bind, hresult, List.forall_mem_append, and_iff_right hsound]
      exact (hf a).exists_result_iff
  | error e =>
    -- Nothing is visited any more after a visit that is not sound.
    have hsound : ¬ ∀ visit ∈ vs, visit.sound := by
      rw [← hm.exists_result_iff, hresult]
      rintro ⟨a, ha⟩
      cases ha
    refine ⟨?_, ?_⟩
    · rw [Traced.notices_bind_of_error hresult, Visit.noted_append_of_not_sound hsound,
        hm.notices_eq]
    · rw [Traced.result_bind, hresult, List.forall_mem_append]
      constructor
      · rintro ⟨b, hb⟩
        cases hb
      · exact fun h => absurd h.1 hsound

/-- What is made of the result visits nothing more. -/
theorem bind_pure {vs : List Visit} (hm : Follows m vs) (f : α → β) :
    Follows (m >>= fun a => Pure.pure (f a)) vs := by
  have h := hm.bind fun a => pure (f a)
  rwa [List.append_nil] at h

/-- What becomes of an error changes neither what is noted nor when there is one. -/
theorem mapError {vs : List Visit} (hm : Follows m vs) (f : InvalidNode → InvalidNode) :
    Follows (m.mapError f) vs := by
  refine ⟨hm.notices_eq, ?_⟩
  simp only [Traced.result_mapError, mapError_eq_ok_iff]
  exact hm.exists_result_iff

end Follows

/-! ## The passes -/

/-- An entry notes its name exactly when its value is missing or absent. -/
theorem notices_convertAttribute (entry : Value) :
    (convertAttribute entry).notices = (Visit.entry entry).unvalued?.toList := by
  unfold convertAttribute
  split
  · rfl
  · rfl
  · next kind name value hvalue =>
    have hnone : (Visit.entry (.sequence kind [name, value])).unvalued? = none := by
      cases value <;> first | rfl | exact absurd rfl hvalue
    rw [hnone]
    rfl
  · next hone habsent htwo =>
    have hnone : (Visit.entry entry).unvalued? = none := by
      unfold Visit.unvalued?
      split
      · next h => cases h; exact absurd rfl (hone _ _)
      · next h => cases h; exact absurd rfl (habsent _ _)
      · rfl
    rw [hnone]
    rfl

/-- The conversion of an entry visits the entry. -/
theorem follows_convertAttribute (entry : Value) :
    Follows (convertAttribute entry) [.entry entry] := by
  have hresult : (∃ pair, (convertAttribute entry).result = .ok pair) ↔
      (Visit.entry entry).sound = true := by
    simp only [convertAttribute_eq_ok_iff, exists_entryConvertsTo_iff, Visit.sound_entry_iff]
  refine ⟨?_, by rw [hresult, List.forall_mem_singleton]⟩
  rw [notices_convertAttribute, Visit.noted_singleton]

/-- The entries of an attribute list are visited from left to right. -/
theorem follows_convertAttributes (entries : List Value) :
    Follows (convertAttributes entries) (entries.map .entry) := by
  induction entries with
  | nil => exact .pure []
  | cons entry entries ih =>
    rw [convertAttributes, List.map_cons, ← List.singleton_append]
    exact (follows_convertAttribute entry).bind fun first => ih.bind_pure _

/-- The items of a body are visited from left to right, each with all that is in it. -/
theorem follows_convertBody (i : Nat) {body : List Value}
    (h : ∀ v ∈ body, Follows (convert v) (visits v)) :
    Follows (convertBody i body) (visitsAll body) := by
  induction body generalizing i with
  | nil => rw [convertBody_nil]; exact .pure []
  | cons v vs ih =>
    obtain ⟨hv, hvs⟩ := List.forall_mem_cons.mp h
    rw [convertBody_cons, visitsAll]
    exact (hv.mapError _).bind fun first => (ih (i + 1) hvs).bind_pure _

/-- A value that is neither a text nor a list with a head ends the conversion. -/
theorem follows_of_notTagged {v : Value} {e : InvalidNode} (hconvert : convert v = .failed e)
    (hvisits : visits v = [.untagged v]) : Follows (convert v) (visits v) := by
  rw [hconvert, hvisits]
  exact ⟨rfl, by simp [Visit.sound]⟩

/-- The conversion looks at what is listed, and at nothing behind the first thing that ends it. -/
theorem follows_convert (v : Value) : Follows (convert v) (visits v) := by
  induction v using Value.slotInduction with
  | sequence kind items ih =>
    cases items with
    | nil => exact follows_of_notTagged (by rw [convert] <;> simp) (by rw [visits] <;> simp)
    | cons tag rest =>
      cases rest with
      | nil => rw [convert, visits]; exact .pure _
      | cons second rest =>
        simp only [List.forall_mem_cons] at ih
        obtain ⟨-, hsecond, hrest⟩ := ih
        -- Slot 1 is an attribute list, or else the first item of the body.
        cases hentries : attributeEntries? second with
        | none =>
          rw [convert_of_attributeEntries?_eq_none kind tag hentries,
            visits_of_attributeEntries?_eq_none kind tag hentries]
          exact (follows_convertBody 1 (List.forall_mem_cons.mpr ⟨hsecond, hrest⟩)).bind_pure _
        | some entries =>
          rw [convert_of_attributeEntries? kind tag hentries,
            visits_of_attributeEntries? kind tag hentries]
          exact ((follows_convertAttributes entries).mapError _).bind fun attributes =>
            (follows_convertBody 2 hrest).bind_pure _
  | atom v hv =>
    cases v with
    | text content => rw [convert_text, visits]; exact .pure _
    | sequence kind items => cases hv
    | _ => exact follows_of_notTagged (by rw [convert] <;> simp) (by rw [visits] <;> simp)

end MarkupTree.Sxml
