import MarkupTree.Proofs.JsonDecoding
import MarkupTree.Proofs.JsonSpelling
import MarkupTree.Proofs.LogLines

/-!
# Rendering what has been spelled

From a node to its markup through the whole program: a node is spelled as a document of a notation,
the document is written as a text, the text is sent as bytes to standard input, and a run prints the
markup of the node (`execute_spelling`). So every node that a notation can spell is rendered by some
run, on every system whose output takes the markup.
-/

namespace MarkupTree

/-! ## Loading what was written -/

/-- Without carriage returns no line end changes. -/
theorem Text.normalizeNewlines_of_notMem {cs : List Char} (h : '\r' ∉ cs) :
    normalizeNewlines cs = cs := by
  fun_induction normalizeNewlines cs with
  | case1 => simp at h
  | case2 => simp at h
  | case3 c cs _ _ ih => rw [ih (List.not_mem_of_not_mem_cons h)]
  | case4 => rfl

/-- Bytes that are characters of ASCII are decoded one by one. -/
theorem Text.Utf8.decodeFrom_map_ofNat {cs : List Char} (h : ∀ c ∈ cs, c.toNat < 0x80)
    (position : Nat) : decodeFrom none position (cs.map fun c => UInt8.ofNat c.toNat) = .ok cs := by
  induction cs generalizing position with
  | nil => rfl
  | cons c cs ih =>
    obtain ⟨hc, hcs⟩ := List.forall_mem_cons.mp h
    have hbyte : (UInt8.ofNat c.toNat).toNat = c.toNat := by
      simp
      omega
    -- A byte below 0x80 is a character by itself; it begins no sequence.
    have hbegin : begin? position c.toNat = some ⟨position, c.toNat, c.toNat, 0, 0, 0⟩ :=
      if_pos hc
    rw [List.map_cons, decodeFrom, hbyte]
    simp only [hbegin, ih hcs, if_true, Char.ofNat_toNat]
    rfl

namespace Json

/-- The bytes of the text of a document. -/
def bytes (document : Json) : List UInt8 := document.write.map fun c => UInt8.ofNat c.toNat

variable {ε : Type} {limits : Limits ε} {document : Json}

/-- What has been written is not changed on the way from the bytes to the text. -/
theorem decode_bytes (h : ComesBack limits document) :
    Text.Utf8.decode document.bytes = .ok document.write ∧
      Text.normalizeNewlines document.write = document.write := by
  have hplain := isPlain_write h
  constructor
  · exact Text.Utf8.decodeFrom_map_ofNat (fun c hc => (hplain c hc).2.trans (by decide)) 0
  · refine Text.normalizeNewlines_of_notMem fun hmem => ?_
    exact absurd (hplain _ hmem) (by decide)

end Json

namespace CommandLine

variable {document : Json}

/-- A document is loaded from the bytes that it was written to. -/
theorem loadDocument_bytes (system : System) (h : document.ComesBack (.taking system.half)) :
    system.loadDocument (.ok document.bytes) = .ok document := by
  obtain ⟨hdecode, hlines⟩ := Json.decode_bytes h
  have hload : parseDocument system.half document.bytes = .ok document := by
    rw [parseDocument, hdecode]
    exact congrArg (Except.mapError _) (hlines.symm ▸ Json.decodeWithin_write_self h)
  exact hload

/-- Nothing in a document that was written is too long if the system takes its integers. -/
theorem longInteger?_bytes (system : System)
    (h : document.ComesBack (.integers system.digitLimit)) :
    system.longInteger? (.ok document.bytes) = none := by
  obtain ⟨hdecode, hlines⟩ := Json.decode_bytes h
  have htext : documentText? (.ok document.bytes) = some document.write := by
    rw [documentText?]
    simp only [Except.toOption, Option.map_some, hdecode, hlines]
  have hlong : Json.longInteger? system.digitLimit document.write = none := by
    rw [Json.longInteger?, Json.decodeWithin_write_self h]
  rw [System.longInteger?, htext]
  exact hlong

end CommandLine

/-! ## Spelling and rendering -/

namespace Node

/-- A node as a document of a notation. -/
def spelling : CommandLine.Dialect → Node → Json
  | .esxml => toJson
  | .sxml => toSxmlJson

/-- Whether a notation can spell a node: each rules out something else. -/
def SpellableIn (dialect : CommandLine.Dialect) (n : Node) : Prop :=
  n.Everywhere HasSpellableNames ∧
    match dialect with
    | .esxml => n.Everywhere HasDistinctNames
    | .sxml => n.Everywhere IsNotRaw

variable {ε : Type} (limits : Json.Limits ε) {n : Node}

/-- The spelling of a node in the standard notation consists of strings in arrays and objects. -/
theorem comesBack_toJson (hdistinct : n.Everywhere HasDistinctNames) :
    n.toJson.ComesBack limits := by
  induction n using treeInduction with
  | text content => exact .text content
  | raw content => exact .array (by simpa using ⟨.text _, .text _⟩)
  | comment content => exact .array (by simpa using ⟨.text _, .null, .text _⟩)
  | element tag attributes children ih =>
    obtain ⟨hnodup, hchildren⟩ := everywhere_element_iff.mp hdistinct
    -- An object cannot have a name twice, so the names of the attributes have to be distinct.
    have hnames : (attributeMembers attributes).map Prod.fst = attributes.map Prod.fst := by
      simp [attributeMembers]
    have hattributes : (Json.object (attributeMembers attributes)).ComesBack limits := by
      refine .object (hnames ▸ hnodup) ?_
      simp only [attributeMembers, List.forall_mem_map]
      exact fun _ _ => .text _
    rw [toJson, Json.ofMembers_eq_object (hnames ▸ hnodup), toJsonAll_eq_map]
    refine .array ?_
    simp only [List.forall_mem_cons, List.forall_mem_map]
    exact ⟨.text tag, hattributes, fun child hchild => ih child hchild (hchildren child hchild)⟩

/-- The spelling of a node in SXML consists of strings in arrays. -/
theorem comesBack_toSxmlJson (n : Node) : n.toSxmlJson.ComesBack limits := by
  induction n using treeInduction with
  | text content => exact .text content
  | raw content => exact .null
  | comment content => exact .array (by simpa using ⟨.text _, .text _⟩)
  | element tag attributes children ih =>
    have hentry : ∀ entry ∈ attributeEntries attributes, entry.ComesBack limits := by
      simp only [attributeEntries, List.forall_mem_map]
      exact fun _ _ => .array (by simpa using ⟨.text _, .text _⟩)
    rw [toSxmlJson, toSxmlJsonAll_eq_map]
    refine .array ?_
    simp only [List.forall_mem_cons, List.forall_mem_map]
    exact ⟨.text tag, .array (List.forall_mem_cons.mpr ⟨.text _, hentry⟩), ih⟩

/-- So the spelling of a node can be written and read back in either notation. -/
theorem comesBack_spelling {dialect : CommandLine.Dialect} (h : n.SpellableIn dialect) :
    (n.spelling dialect).ComesBack limits := by
  cases dialect with
  | esxml => exact comesBack_toJson limits h.2
  | sxml => exact comesBack_toSxmlJson limits n

/-- The tree that the spelling builds is read as the node. -/
theorem exists_buildsTree_spelling {dialect : CommandLine.Dialect} (h : n.SpellableIn dialect) :
    ∃ tree, CommandLine.BuildsTree dialect (n.spelling dialect) (.ok tree) ∧ tree.read = .ok n := by
  cases dialect with
  | esxml =>
    obtain ⟨tree, htree, hread⟩ := exists_symbolize_toJson_and_read h.1 h.2
    exact ⟨tree, .esxml htree, hread⟩
  | sxml =>
    obtain ⟨tree, htree, hread⟩ := bind_eq_ok_iff.mp (read_symbolizeSxml_toSxmlJson h.1 h.2)
    exact ⟨tree, htree ▸ .sxml _, hread⟩

end Node

namespace CommandLine

/-- The spelling of a node on standard input is rendered as the markup of the node. -/
theorem execute_spelling {dialect : Dialect} {n : Node} (h : n.SpellableIn dialect)
    (system : System) (folder : Folder) (stamp : String) :
    execute system ["render", "--format", dialect.name, standardInput]
        (n.spelling dialect).bytes folder stamp =
      .ok (system.print ⟨0, n.markup ++ "\n", ""⟩) := by
  have hsettings : readSettings ["render", "--format", dialect.name, standardInput] =
      .ok ⟨false, some ⟨dialect, standardInput⟩⟩ := readSettings_render dialect (by decide)
  obtain ⟨tree, htree, hread⟩ := Node.exists_buildsTree_spelling h
  have hload := loadDocument_bytes system (Node.comesBack_spelling _ h)
  have hstop := longInteger?_bytes system (Node.comesBack_spelling _ h)
  exact execute_of_endsIn hsettings hstop (.written hload htree hread)

end CommandLine

end MarkupTree
