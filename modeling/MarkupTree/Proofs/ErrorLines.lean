import MarkupTree.Proofs.LineBreaks
import MarkupTree.Proofs.MessagePath
import MarkupTree.Proofs.ReadingSteps
import MarkupTree.Proofs.RenderRuns
import MarkupTree.Proofs.SxmlFault

/-!
# The error line of a run

A run that rejects a tree prints one error message. The message is on one line unless the report is
about the value of an attribute whose name has a line break in it: the reason quotes the name as it
stands, and a document can put any text there (`errors_of_rejects`,
`not_oneLine_errors_of_broken_name`).
-/

namespace MarkupTree

open Text (OneLine)

/-! ## Reasons -/

namespace Value

theorem reason_ne_other_of_shapeFault {v : Value} {reason : Reason} (h : ShapeFault v reason)
    (text : String) : reason ≠ .other text := by
  cases h <;> simp

theorem reason_ne_other_of_readAttributes_eq_error {slot : Value} {fault : Fault}
    (h : slot.readAttributes = .error fault) (text : String) : fault.reason ≠ .other text := by
  cases readAttributes_eq_error_iff.mp h with
  | slot => simp
  | entry => simp
  | pair _ _ hpair => cases hpair <;> simp

/-- Reading has a reason of its own for every fault. -/
theorem reason_ne_other_of_read_eq_error {v : Value} {e : InvalidNode} (h : v.read = .error e)
    (text : String) : e.reason ≠ .other text := by
  induction v using slotInduction generalizing e with
  | sequence kind items ih =>
    cases read_eq_error_iff.mp h with
    | shape hshape => exact reason_ne_other_of_shapeFault hshape text
    | attributes _ _ _ hslot => exact reason_ne_other_of_readAttributes_eq_error hslot text
    | child _ _ _ _ _ hchild =>
      have hreason := ih _ (by simp) hchild
      exact hreason
  | atom v hv =>
    cases read_eq_error_iff.mp h with
    | shape hshape => exact reason_ne_other_of_shapeFault hshape text
    | _ => cases hv

end Value

/-- So has the conversion from SXML. -/
theorem Sxml.reason_ne_other_of_toStandard_eq_error {v : Value} {e : InvalidNode}
    (h : toStandard v = .error e) (text : String) : e.reason ≠ .other text := by
  cases locatesFault_of_toStandard_eq_error h <;> simp

namespace CommandLine

/-! ## Rejected documents -/

/-- A document is rejected with a report, because it spells no tree or because the tree cannot be
written. -/
inductive Rejects (dialect : Dialect) (json : Json) (e : InvalidNode) : Prop
  /-- The document spells no tree. -/
  | unbuilt (h : BuildsTree dialect json (.error e))
  /-- The tree cannot be written. -/
  | unread {tree} (htree : BuildsTree dialect json (.ok tree)) (h : tree.toMarkup = .error e)

theorem Rejects.reason_ne_other {dialect : Dialect} {json : Json} {e : InvalidNode}
    (h : Rejects dialect json e) (text : String) : e.reason ≠ .other text := by
  cases h with
  | unbuilt h =>
    generalize hbuilt : Except.error e = built at h
    cases h with
    | esxml => cases hbuilt
    | sxml => exact Sxml.reason_ne_other_of_toStandard_eq_error hbuilt.symm text
  | unread _ h => exact Value.reason_ne_other_of_read_eq_error (map_eq_error_iff.mp h) text

/-- The message of a report that a document is rejected with breaks the line exactly when the reason
names an attribute whose name does. -/
theorem Rejects.oneLine_message_iff {dialect : Dialect} {json : Json} {e : InvalidNode}
    (h : Rejects dialect json e) :
    OneLine e.message ↔ ∀ name, e.reason = .attributeValue name → OneLine name.name := by
  rw [e.oneLine_message_iff]
  constructor
  · intro hverbatim name hname
    rwa [hname] at hverbatim
  · intro hnames
    cases hreason : e.reason with
    | attributeValue name => exact hnames name hreason
    | other text => exact absurd hreason (h.reason_ne_other text)
    | _ => decide

/-- A run on a rejected document ends with the report. -/
theorem Rejects.result_eq {render : RenderSettings} {input : Except OpenError (List UInt8)}
    {json : Json} {e : InvalidNode} {outcome : Outcome} (h : Rejects render.dialect json e)
    (hload : loadDocument input = .ok json) (hends : EndsIn render (loadDocument input) outcome) :
    outcome.result = .error e.message := by
  cases h with
  | unbuilt h => rw [hends.unique (.unbuilt hload h)]
  | unread htree h => rw [hends.unique (.rejected hload htree (map_eq_error_iff.mp h))]

/-- Every message names the root, where its path begins. -/
theorem exists_message_eq (e : InvalidNode) :
    ∃ rest, "Error: " ++ e.message = "Error: Invalid esxml node at root" ++ rest := by
  have hroot : "Error: " ++ ("Invalid esxml node at " ++ "root") =
      "Error: Invalid esxml node at root" := by decide
  refine ⟨e.path.indices ++ (": " ++ e.details), ?_⟩
  rw [e.message_eq_append, Path.text, ← hroot]
  simp only [String.append_assoc]

/-! ## Runs on rejected documents -/

section Runs

variable {arguments : List String} {render : RenderSettings} {stdin : List UInt8} {folder : Folder}
  {json : Json} {e : InvalidNode}

theorem Rejects.run_eq (he : Rejects render.dialect json e)
    (h : readSettings arguments = .ok ⟨false, some render⟩)
    (hload : loadDocument (render.input stdin folder) = .ok json) (stamp : String) :
    run arguments stdin folder stamp = .ok ⟨1, "", "Error: " ++ e.message ++ "\n"⟩ := by
  obtain ⟨outcome, hends, hrun⟩ := exists_run_eq render stdin folder stamp
  rw [hrun arguments false h]
  simp [Outcome.toRun, he.result_eq hload hends]

/-- A run on a rejected document prints the message of the report, which names the root and is on
one line unless the reason names an attribute whose name is not. -/
theorem errors_of_rejects (h : readSettings arguments = .ok ⟨false, some render⟩) (stamp : String)
    (hload : loadDocument (render.input stdin folder) = .ok json)
    (he : Rejects render.dialect json e) :
    let line := "Error: " ++ e.message
    run arguments stdin folder stamp = .ok ⟨1, "", line ++ "\n"⟩ ∧
      (∃ rest, line = "Error: Invalid esxml node at root" ++ rest) ∧
      (OneLine line ↔ ∀ name, e.reason = .attributeValue name → OneLine name.name) := by
  refine ⟨he.run_eq h hload stamp, exists_message_eq e, ?_⟩
  rw [Text.oneLine_append, he.oneLine_message_iff]
  exact and_iff_right (by decide)

end Runs

/-! ### A name with a line feed -/

/-- The bytes of the document `["p",{"a\nb":1}]`. -/
def brokenNameBytes : List UInt8 :=
  [91, 34, 112, 34, 44, 123, 34, 97, 92, 110, 98, 34, 58, 49, 125, 93]

/-- The document in which an attribute with a line feed in its name has a number as its value. -/
def brokenNameDocument : Json := .array [.text "p", .object [("a\nb", .int 1)]]

/-- The report about the number. -/
def brokenNameReport : InvalidNode :=
  Fault.atPath ⟨.attributeValue ⟨"a\nb", by decide⟩, .int 1⟩ [1]

theorem loadDocument_brokenNameBytes :
    loadDocument (.ok brokenNameBytes) = .ok brokenNameDocument := by
  -- The decoder recurses along the length of what is left, which `rfl` alone does not unfold.
  with_unfolding_all rfl

theorem rejects_brokenNameDocument : Rejects .esxml brokenNameDocument brokenNameReport :=
  .unread (.esxml (Json.symbolize_toValue brokenNameDocument)) rfl

theorem readSettings_render_only : readSettings ["render"] = .ok ⟨false, some ⟨.esxml, "-"⟩⟩ := rfl

/-- The run whose error message is the one about the number. -/
theorem errors_of_rejects_broken_name :
    let line := "Error: " ++ brokenNameReport.message
    readSettings ["render"] = .ok ⟨false, some ⟨.esxml, "-"⟩⟩ ∧
      loadDocument (.ok brokenNameBytes) = .ok brokenNameDocument ∧
      Rejects .esxml brokenNameDocument brokenNameReport ∧
      run ["render"] brokenNameBytes ⟨[]⟩ "" = .ok ⟨1, "", line ++ "\n"⟩ ∧
      (∃ rest, line = "Error: Invalid esxml node at root" ++ rest) ∧
      (OneLine line ↔
        ∀ name, brokenNameReport.reason = .attributeValue name → OneLine name.name) :=
  ⟨readSettings_render_only, loadDocument_brokenNameBytes, rejects_brokenNameDocument,
    errors_of_rejects readSettings_render_only "" loadDocument_brokenNameBytes
      rejects_brokenNameDocument⟩

/-- The name breaks the error message into two lines. -/
theorem not_oneLine_errors_of_broken_name :
    let line := "Error: Invalid esxml node at root[1]: value of attribute 'a\nb' must be a string: 1"
    run ["render"] brokenNameBytes ⟨[]⟩ "" = .ok ⟨1, "", line ++ "\n"⟩ ∧ ¬ OneLine line := by
  refine ⟨?_, by decide⟩
  exact rejects_brokenNameDocument.run_eq readSettings_render_only loadDocument_brokenNameBytes ""

end CommandLine

end MarkupTree
