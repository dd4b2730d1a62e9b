import MarkupTree.Json
import MarkupTree.Json.Notation
import MarkupTree.Proofs.FirstFailure

/-!
# What turning names into symbols does at one level

A document that spells a tree is taken apart level by level: the text at the head of an array
becomes a symbol, which is a marker or the tag of an element. There is one lemma for each form that
an array can have. An object keeps its members, in order, as long as its names are distinct
(`Json.ofMembers_eq_object`).
-/

namespace MarkupTree

namespace Json

/-! ## Objects with distinct names -/

/-- A new name comes last. -/
theorem insertMember_of_notMem {members : List (String × Json)} {name : String}
    (h : name ∉ members.map Prod.fst) (value : Json) :
    insertMember members name value = members ++ [(name, value)] := by
  induction members with
  | nil => rfl
  | cons member members ih =>
    rw [List.map_cons, List.mem_cons, not_or] at h
    obtain ⟨hname, hmembers⟩ := h
    rw [insertMember, if_neg (Ne.symm hname), ih hmembers, List.cons_append]

theorem foldl_insertMember_eq_append {acc members : List (String × Json)}
    (h : ((acc ++ members).map Prod.fst).Nodup) :
    members.foldl (fun acc (name, value) => insertMember acc name value) acc = acc ++ members := by
  induction members generalizing acc with
  | nil => rw [List.foldl_nil, List.append_nil]
  | cons member members ih =>
    obtain ⟨name, value⟩ := member
    have hname : name ∉ acc.map Prod.fst := by
      rw [List.map_append, List.nodup_append] at h
      exact fun hmem => h.2.2 name hmem name List.mem_cons_self rfl
    -- The member is put last, so what is left goes in behind it.
    have hrest : ((acc ++ [(name, value)] ++ members).map Prod.fst).Nodup := by
      rwa [List.append_assoc]
    rw [List.foldl_cons]
    dsimp only
    rw [insertMember_of_notMem hname, ih hrest, List.append_assoc, List.singleton_append]

/-- Members with distinct names are all kept, in order. -/
theorem ofMembers_eq_object {members : List (String × Json)} (h : (members.map Prod.fst).Nodup) :
    ofMembers members = .object members := by
  rw [ofMembers, foldl_insertMember_eq_append (by rwa [List.nil_append]), List.nil_append]

end Json

namespace Value

/-! ## The standard notation -/

theorem symbolizeAll_eq_mapM (vs : List Value) : symbolizeAll vs = vs.mapM symbolize := by
  induction vs with
  | nil => rfl
  | cons v vs ih => rw [symbolizeAll, List.mapM_cons, ih]

theorem symbolizeName_name (s : Symbol) : symbolizeName (.text s.name) = .ok (.symbol s) := by
  have hname : (Value.text s.name).isFalsy = false := by simp [isFalsy, s.name_ne_empty]
  rw [symbolizeName, hname, Symbol.ofValue, Symbol.ofName_name]
  rfl

/-- The names of a mapping become symbols, and its values stay what they are. -/
theorem symbolizeAttributes_mapping (pairs : List (Symbol × Value)) :
    symbolizeAttributes (.mapping (pairs.map fun (name, value) => (.text name.name, value))) =
      .ok (.mapping (pairs.map fun (name, value) => (.symbol name, value))) := by
  rw [symbolizeAttributes]
  refine bind_eq_ok_iff.mpr ⟨_, mapM_map_eq_ok_map ?_, rfl⟩
  intro pair _
  exact bind_eq_ok_iff.mpr ⟨_, symbolizeName_name pair.1, rfl⟩

/-- What follows a marker stays as it is. -/
theorem symbolize_marker {s : Symbol} (h : s.IsMarker) (rest : List Value) :
    (Value.list (.text s.name :: rest)).symbolize = .ok (.list (.symbol s :: rest)) := by
  rw [symbolize, dif_neg s.name_ne_empty, if_pos h]

/-- The attribute slot and the children of an element are converted each in its own way. -/
theorem symbolize_element {tag : Symbol} (htag : ¬ tag.IsMarker) {slot slot' : Value}
    {children children' : List Value} (hslot : slot.symbolizeAttributes = .ok slot')
    (hchildren : List.Forall₂ (fun child child' => child.symbolize = .ok child')
      children children') :
    (Value.list (.text tag.name :: slot :: children)).symbolize =
      .ok (.list (.symbol tag :: slot' :: children')) := by
  rw [symbolize, dif_neg tag.name_ne_empty, if_neg htag]
  refine bind_eq_ok_iff.mpr ⟨slot', hslot, bind_eq_ok_iff.mpr ⟨children', ?_, rfl⟩⟩
  rw [symbolizeAll_eq_mapM]
  exact mapM_eq_ok_iff.mpr hchildren

/-! ## The SXML notation -/

/-- Every item of an array is converted in the same way, whatever its head is. -/
theorem symbolizeSxml_list (head : Symbol) (rest : List Value) :
    (Value.list (.text head.name :: rest)).symbolizeSxml =
      .list (.symbol head :: rest.map symbolizeSxml) := by
  rw [symbolizeSxml, dif_neg head.name_ne_empty, symbolizeSxmlAll_eq_map]

end Value

end MarkupTree
