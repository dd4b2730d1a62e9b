import MarkupTree.Proofs.FirstFailure
import MarkupTree.Symbol

/-!
# The names that shorthands spell

A shorthand loses an underscore at its end, and the others become hyphens. So what a shorthand
spells never holds an underscore, and a name is spelled by the shorthand that has underscores in the
place of its hyphens and one more at the end (`shorthandOf`). The shorthand that comes about in this
way is refused when it begins with two underscores, and the one of the empty name spells nothing:
`ofShorthand_eq_iff_and_spells_iff` says which names are left. A hyphen in a shorthand stays what it
is, so all names without underscores are spelled by themselves.
-/

namespace MarkupTree.Symbol

/-! ## The end of a shorthand -/

/-- An underscore at the end is dropped, whatever stands before it. -/
theorem dropTrailingUnderscore_append_underscore (cs : List Char) :
    dropTrailingUnderscore (cs ++ ['_']) = cs := by
  simp [dropTrailingUnderscore]

/-- Either nothing is dropped, or one underscore from the end. -/
theorem eq_dropTrailingUnderscore_or_eq_append (cs : List Char) :
    cs = dropTrailingUnderscore cs ∨ cs = dropTrailingUnderscore cs ++ ['_'] := by
  by_cases h : cs.getLast? = some '_'
  · obtain ⟨init, rfl⟩ := List.getLast?_eq_some_iff.mp h
    right
    rw [dropTrailingUnderscore_append_underscore]
  · left
    exact (if_neg h).symm

/-- At most the end is dropped. -/
theorem dropTrailingUnderscore_isPrefix (cs : List Char) : dropTrailingUnderscore cs <+: cs := by
  rcases eq_dropTrailingUnderscore_or_eq_append cs with h | h
  · exact ⟨[], by rw [List.append_nil, ← h]⟩
  · exact ⟨['_'], h.symm⟩

/-- Nothing is left only of nothing and of a single underscore. -/
theorem dropTrailingUnderscore_eq_nil_iff {cs : List Char} :
    dropTrailingUnderscore cs = [] ↔ cs = [] ∨ cs = ['_'] := by
  constructor
  · intro h
    have hcs := eq_dropTrailingUnderscore_or_eq_append cs
    rwa [h, List.nil_append] at hcs
  · rintro (rfl | rfl) <;> rfl

/-! ## One character for another -/

/-- Writes a character in the place of another one. -/
def exchange (old new : Char) (cs : List Char) : List Char :=
  cs.map fun c => if c = old then new else c

theorem hyphenate_eq_exchange (cs : List Char) : hyphenate cs = exchange '_' '-' cs := rfl

section Exchange

variable {old new : Char} {cs : List Char}

/-- A character that is not there is not exchanged. -/
theorem exchange_of_notMem (h : old ∉ cs) : exchange old new cs = cs := by
  have hsame : ∀ c ∈ cs, (if c = old then new else c) = id c := by
    intro c hc
    have hne : c ≠ old := fun heq => h (heq ▸ hc)
    rw [if_neg hne, id]
  rw [exchange, List.map_congr_left hsame, List.map_id]

/-- A character that is exchanged for another one is there no more. -/
theorem notMem_exchange (h : old ≠ new) : old ∉ exchange old new cs := by
  rw [exchange, List.mem_map]
  rintro ⟨c, -, hc⟩
  by_cases heq : c = old
  · exact h (by rw [← hc, if_pos heq])
  · exact heq (by rw [← hc, if_neg heq])

/-- Writing a character for one that did not occur before can be taken back. -/
theorem exchange_exchange (h : new ∉ cs) : exchange new old (exchange old new cs) = cs := by
  have hsame : ∀ c ∈ cs,
      (if (if c = old then new else c) = new then old else if c = old then new else c) = id c := by
    intro c hc
    have hne : c ≠ new := fun heq => h (heq ▸ hc)
    by_cases hold : c = old
    · rw [if_pos hold, if_pos rfl, hold, id]
    · rw [if_neg hold, if_neg hne, id]
  rw [exchange, exchange, List.map_map]
  exact (List.map_congr_left hsame).trans (List.map_id cs)

end Exchange

/-! ## Outcomes -/

/-- The only name that is refused is the empty one. -/
theorem ofName_eq_error_iff {name : String} {e : NameError} :
    ofName name = .error e ↔ e = .empty ∧ name = "" := by
  unfold ofName
  split
  · next h => simp [h, eq_comm]
  · next h => simp [h]

section Outcomes

variable {shorthand : String}

/-- Two underscores at the beginning are refused before anything else is looked at. -/
theorem ofShorthand_of_reserved (h : ['_', '_'] <+: shorthand.toList) :
    ofShorthand shorthand = .error (.reserved shorthand) :=
  if_pos (List.isPrefixOf_iff_prefix.mpr h)

theorem ofShorthand_of_not_reserved (h : ¬ ['_', '_'] <+: shorthand.toList) :
    ofShorthand shorthand =
      (ofName (String.ofList (hyphenate (dropTrailingUnderscore shorthand.toList)))).mapError
        .unnamed :=
  if_neg (mt List.isPrefixOf_iff_prefix.mp h)

/-- A shorthand is reserved by its first two characters, and reported as it stands. -/
theorem ofShorthand_eq_reserved_iff {name : String} :
    ofShorthand shorthand = .error (.reserved name) ↔
      name = shorthand ∧ ['_', '_'] <+: shorthand.toList := by
  by_cases h : ['_', '_'] <+: shorthand.toList
  · simp [ofShorthand_of_reserved h, h, eq_comm]
  · simp [ofShorthand_of_not_reserved h, h, mapError_eq_error_iff]

/-- Only an empty shorthand and a single underscore leave no name. -/
theorem ofShorthand_eq_unnamed_iff {cause : NameError} :
    ofShorthand shorthand = .error (.unnamed cause) ↔
      cause = .empty ∧ (shorthand = "" ∨ shorthand = "_") := by
  have hchars : shorthand = "" ∨ shorthand = "_" ↔
      dropTrailingUnderscore shorthand.toList = [] := by
    rw [dropTrailingUnderscore_eq_nil_iff, ← String.toList_inj, ← String.toList_inj]
    rfl
  by_cases h : ['_', '_'] <+: shorthand.toList
  · -- Two underscores leave one.
    have hlong : dropTrailingUnderscore shorthand.toList ≠ [] := by
      rw [Ne, dropTrailingUnderscore_eq_nil_iff]
      rintro (hnil | hone)
      · simp [hnil] at h
      · simp [hone] at h
    simp [ofShorthand_of_reserved h, hchars, hlong]
  · rw [ofShorthand_of_not_reserved h, mapError_eq_error_iff, hchars]
    simp only [ofName_eq_error_iff, hyphenate, String.ofList_eq_empty_iff, List.map_eq_nil_iff]
    constructor
    · rintro ⟨_, ⟨rfl, hnil⟩, hcause⟩
      exact ⟨(ShorthandError.unnamed.inj hcause).symm, hnil⟩
    · rintro ⟨rfl, hnil⟩
      exact ⟨.empty, ⟨rfl, hnil⟩, rfl⟩

/-- A shorthand is the symbol whose name it spells. -/
theorem ofShorthand_eq_ok_iff {s : Symbol} :
    ofShorthand shorthand = .ok s ↔
      ¬ ['_', '_'] <+: shorthand.toList ∧
        s.name.toList = hyphenate (dropTrailingUnderscore shorthand.toList) := by
  by_cases h : ['_', '_'] <+: shorthand.toList
  · simp [ofShorthand_of_reserved h, h]
  · rw [ofShorthand_of_not_reserved h, mapError_eq_ok_iff, ofName_eq_ok_iff, ← String.toList_inj,
      String.toList_ofList]
    exact (and_iff_right h).symm

/-- Every other shorthand is a symbol, and no underscore is left in its name. -/
theorem exists_ofShorthand_eq_ok_iff :
    (∃ s, ofShorthand shorthand = .ok s ∧ '_' ∉ s.name.toList) ↔
      ¬ ['_', '_'] <+: shorthand.toList ∧ ¬ (shorthand = "" ∨ shorthand = "_") := by
  constructor
  · rintro ⟨s, hs, -⟩
    refine ⟨(ofShorthand_eq_ok_iff.mp hs).1, fun hshort => ?_⟩
    have herror := ofShorthand_eq_unnamed_iff.mpr ⟨rfl, hshort⟩
    rw [hs] at herror
    cases herror
  · rintro ⟨hreserved, hshort⟩
    cases h : ofShorthand shorthand with
    | ok s =>
      refine ⟨s, rfl, ?_⟩
      rw [(ofShorthand_eq_ok_iff.mp h).2]
      exact not_mem_hyphenate _
    | error e =>
      cases e with
      | reserved name => exact absurd (ofShorthand_eq_reserved_iff.mp h).2 hreserved
      | unnamed cause => exact absurd (ofShorthand_eq_unnamed_iff.mp h).2 hshort

end Outcomes

/-! ## Names within reach -/

/-- A shorthand spells the name of its symbol. -/
def Spells (shorthand name : String) : Prop :=
  ∃ s, ofShorthand shorthand = .ok s ∧ s.name = name

theorem spells_iff {shorthand name : String} :
    Spells shorthand name ↔ ¬ ['_', '_'] <+: shorthand.toList ∧ name ≠ "" ∧
      name.toList = hyphenate (dropTrailingUnderscore shorthand.toList) := by
  constructor
  · rintro ⟨s, hs, rfl⟩
    obtain ⟨hreserved, hname⟩ := ofShorthand_eq_ok_iff.mp hs
    exact ⟨hreserved, s.name_ne_empty, hname⟩
  · rintro ⟨hreserved, hempty, hname⟩
    exact ⟨⟨name, hempty⟩, ofShorthand_eq_ok_iff.mpr ⟨hreserved, hname⟩, rfl⟩

/-- The names that shorthands without hyphens spell. -/
structure WithinReach (name : String) : Prop where
  /-- There is something to spell. -/
  ne_empty : name ≠ ""
  /-- No underscore is left. -/
  underscore_notMem : '_' ∉ name.toList
  /-- The spelling of a single hyphen is reserved. -/
  ne_hyphen : name ≠ "-"
  /-- So is that of two hyphens with anything behind them. -/
  not_startsWith_hyphens : ¬ ['-', '-'] <+: name.toList

/-- The shorthand that spells a name: underscores for its hyphens, and one to be dropped. -/
def shorthandOf (name : String) : String :=
  String.ofList (exchange '-' '_' name.toList ++ ['_'])

/-- The shorthand of a name has an underscore for each hyphen, and one at the end. -/
theorem toList_shorthandOf (name : String) :
    (shorthandOf name).toList = exchange '-' '_' name.toList ++ ['_'] := by
  rw [shorthandOf, String.toList_ofList]

/-- The shorthand of a name has no hyphen. -/
theorem hyphen_notMem_shorthandOf (name : String) : '-' ∉ (shorthandOf name).toList := by
  have hname : '-' ∉ exchange '-' '_' name.toList := notMem_exchange (by decide)
  simpa [toList_shorthandOf] using hname

/-- What a shorthand begins with that is made for a name. -/
theorem prefix_exchange_append_iff {cs : List Char} (hempty : cs ≠ []) (h : '_' ∉ cs) :
    ['_', '_'] <+: exchange '-' '_' cs ++ ['_'] ↔ cs = ['-'] ∨ ['-', '-'] <+: cs := by
  have hunderscore : ∀ c ∈ cs, '_' = (if c = '-' then '_' else c) ↔ '-' = c := by
    intro c hc
    have hne : c ≠ '_' := fun heq => h (heq ▸ hc)
    by_cases hhyphen : c = '-'
    · simp [hhyphen]
    · simp [hhyphen, hne.symm, Ne.symm hhyphen]
  -- The underscore at the end counts only for a name of a single character.
  rcases cs with _ | ⟨c, _ | ⟨d, cs⟩⟩
  · exact absurd rfl hempty
  · have hc := hunderscore c (by simp)
    simp [exchange, List.cons_prefix_cons, hc, eq_comm]
  · have hc := hunderscore c (by simp)
    have hd := hunderscore d (by simp)
    simp [exchange, List.cons_prefix_cons, hc, hd]

/-- A name is spelled by the shorthand made for it, unless that is reserved. -/
theorem spells_shorthandOf {name : String} (h : WithinReach name) :
    Spells (shorthandOf name) name := by
  have hempty : name.toList ≠ [] := mt String.toList_eq_nil_iff.mp h.ne_empty
  have hhyphen : name.toList ≠ ['-'] := fun heq => h.ne_hyphen (String.toList_inj.mp heq)
  rw [spells_iff, toList_shorthandOf, prefix_exchange_append_iff hempty h.underscore_notMem,
    dropTrailingUnderscore_append_underscore, hyphenate_eq_exchange,
    exchange_exchange h.underscore_notMem]
  exact ⟨not_or.mpr ⟨hhyphen, h.not_startsWith_hyphens⟩, h.ne_empty, rfl⟩

/-- Every hyphen of a name has been an underscore of the shorthand, if that holds no hyphens. -/
theorem exchange_eq_of_spells {shorthand name : String} (hshorthand : '-' ∉ shorthand.toList)
    (h : Spells shorthand name) :
    exchange '-' '_' name.toList = dropTrailingUnderscore shorthand.toList := by
  obtain ⟨-, -, hname⟩ := spells_iff.mp h
  have hdropped : '-' ∉ dropTrailingUnderscore shorthand.toList :=
    fun hmem => hshorthand ((dropTrailingUnderscore_isPrefix _).subset hmem)
  rw [hname, hyphenate_eq_exchange, exchange_exchange hdropped]

/-- What a shorthand without hyphens spells has a spelling that is not reserved. -/
theorem withinReach_of_spells {shorthand name : String} (hshorthand : '-' ∉ shorthand.toList)
    (h : Spells shorthand name) : WithinReach name := by
  obtain ⟨hreserved, hempty, hname⟩ := spells_iff.mp h
  have hback := exchange_eq_of_spells hshorthand h
  refine ⟨hempty, ?_, ?_, ?_⟩
  · rw [hname]
    exact not_mem_hyphenate _
  · rintro rfl
    have hdrop : dropTrailingUnderscore shorthand.toList = ['_'] := hback.symm
    -- A single underscore is left only when another one has been dropped.
    rcases eq_dropTrailingUnderscore_or_eq_append shorthand.toList with heq | heq
    · rw [hdrop] at heq
      rw [heq] at hdrop
      exact absurd hdrop (by decide)
    · rw [hdrop] at heq
      exact hreserved (heq ▸ List.prefix_rfl)
  · intro hhyphens
    have hunderscores : ['_', '_'] <+: exchange '-' '_' name.toList :=
      hhyphens.map fun c => if c = '-' then '_' else c
    rw [hback] at hunderscores
    exact hreserved (hunderscores.trans (dropTrailingUnderscore_isPrefix _))

/-- A hyphen in a shorthand is kept, so every name without underscores spells itself. -/
theorem exists_spells_iff {name : String} :
    (∃ shorthand, Spells shorthand name) ↔ name ≠ "" ∧ '_' ∉ name.toList := by
  constructor
  · rintro ⟨shorthand, h⟩
    obtain ⟨-, hempty, hname⟩ := spells_iff.mp h
    refine ⟨hempty, ?_⟩
    rw [hname]
    exact not_mem_hyphenate _
  · rintro ⟨hempty, h⟩
    have hreserved : ¬ ['_', '_'] <+: name.toList := fun hpre => h (hpre.subset (by simp))
    have hlast : name.toList.getLast? ≠ some '_' := fun hl => h (List.mem_of_getLast? hl)
    refine ⟨name, spells_iff.mpr ⟨hreserved, hempty, ?_⟩⟩
    rw [dropTrailingUnderscore, if_neg hlast, hyphenate_eq_exchange, exchange_of_notMem h]

/-- What a shorthand comes to, for all shorthands: the first two characters reserve it, there are
two shorthands that leave no name, and any other is a symbol without underscores. A name is spelled
without hyphens exactly when it holds no underscore and is neither empty nor a single hyphen nor
begins with two of them, and then the shorthand made for it is one that spells it. With hyphens
every name can be spelled that is not empty and holds no underscore. -/
theorem ofShorthand_eq_iff_and_spells_iff :
    (∀ shorthand,
      (∀ name, ofShorthand shorthand = .error (.reserved name) ↔
        name = shorthand ∧ ['_', '_'] <+: shorthand.toList) ∧
      (∀ cause, ofShorthand shorthand = .error (.unnamed cause) ↔
        cause = .empty ∧ (shorthand = "" ∨ shorthand = "_")) ∧
      ((∃ s, ofShorthand shorthand = .ok s ∧ '_' ∉ s.name.toList) ↔
        ¬ ['_', '_'] <+: shorthand.toList ∧ ¬ (shorthand = "" ∨ shorthand = "_"))) ∧
    ∀ name,
      ((∃ shorthand, '-' ∉ shorthand.toList ∧ Spells shorthand name) ↔ WithinReach name) ∧
      (Spells (shorthandOf name) name ↔ WithinReach name) ∧
      ((∃ shorthand, Spells shorthand name) ↔ name ≠ "" ∧ '_' ∉ name.toList) := by
  refine ⟨fun shorthand => ⟨fun _ => ofShorthand_eq_reserved_iff,
    fun _ => ofShorthand_eq_unnamed_iff, exists_ofShorthand_eq_ok_iff⟩,
    fun name => ⟨?_, ?_, exists_spells_iff⟩⟩
  · constructor
    · rintro ⟨shorthand, hshorthand, h⟩
      exact withinReach_of_spells hshorthand h
    · intro h
      exact ⟨shorthandOf name, hyphen_notMem_shorthandOf name, spells_shorthandOf h⟩
  · exact ⟨withinReach_of_spells (hyphen_notMem_shorthandOf name), spells_shorthandOf⟩

/-- A hyphen spells itself, though no shorthand without hyphens does. -/
theorem not_exists_spells_hyphen_iff_withinReach :
    ¬ ((∃ shorthand, Spells shorthand "-") ↔ WithinReach "-") := by
  intro h
  have hspells : Spells "-" "-" := ⟨⟨"-", by decide⟩, rfl, rfl⟩
  exact (h.mp ⟨"-", hspells⟩).ne_hyphen rfl

end MarkupTree.Symbol
