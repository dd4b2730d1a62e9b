import MarkupTree.CommandLine.System
import MarkupTree.Proofs.ConversionTrace
import MarkupTree.Proofs.RenderRuns

/-!
# The log lines of a run

A run that is asked for log lines ends as it would have ended without being asked, with log lines in
front of what it prints on standard error (`execute_cons_verbose`). Which lines these are, word by
word, is determined by the document (`LogsAbout`): one for each attribute without a value that the
conversion from SXML comes upon, and then at most one more, about the tree or about its markup.

This holds on every system, also if the run is aborted. An integer that is too long aborts it before
anything is logged. An output that does not take the markup, since there is half of a surrogate pair
in it, aborts the run when everything has been logged. Where the output takes everything, the line
about the markup is logged exactly when the run succeeds.
-/

namespace MarkupTree.CommandLine

open Sxml (Visit)

/-! ## The lines -/

/-- The line about an attribute without a value. -/
def attributeLine (stamp : String) (name : Value) : String :=
  stamp ++ " - esxml_py.sxml - DEBUG - Attribute " ++ name.display ++
    " has no value, using its name\n"

/-- The line about a tree that cannot be read. -/
def rejectedLine (stamp : String) (e : InvalidNode) : String :=
  stamp ++ " - esxml_py.reader - DEBUG - Rejected esxml node at " ++ e.path.text ++ ": " ++
    e.reason.text ++ "\n"

/-- The line about markup of the given length. -/
def renderedLine (stamp : String) (length : Nat) (source : String) : String :=
  stamp ++ " - esxml_py.__main__ - DEBUG - Rendered " ++ toString length ++ " characters from " ++
    source ++ "\n"

/-- The name of an attribute without a value is shown as it is in messages. -/
theorem line_unvalued (stamp : String) (name : Value) :
    (LogEntry.unvalued name).line stamp = attributeLine stamp name := by
  -- The words around the name are put together here; the line as a whole does not reduce.
  have hlabel : " - " ++ ("esxml_py.sxml" ++ (" - DEBUG - " ++ "Attribute ")) =
      " - esxml_py.sxml - DEBUG - Attribute " := by decide
  have hwords : " has no value, using its name" ++ "\n" = " has no value, using its name\n" := by
    decide
  change stamp ++ " - " ++ "esxml_py.sxml" ++ " - DEBUG - " ++
    ("Attribute " ++ name.display ++ " has no value, using its name") ++ "\n" = _
  rw [attributeLine, ← hlabel, ← hwords]
  simp only [String.append_assoc]

/-- The place and the reason of a report are those of its message. -/
theorem line_rejected (stamp : String) (e : InvalidNode) :
    (LogEntry.rejected e).line stamp = rejectedLine stamp e := by
  have hlabel : " - " ++ ("esxml_py.reader" ++ (" - DEBUG - " ++ "Rejected esxml node at ")) =
      " - esxml_py.reader - DEBUG - Rejected esxml node at " := by decide
  change stamp ++ " - " ++ "esxml_py.reader" ++ " - DEBUG - " ++
    ("Rejected esxml node at " ++ e.path.text ++ ": " ++ e.reason.text) ++ "\n" = _
  rw [rejectedLine, ← hlabel]
  simp only [String.append_assoc]

/-- The length of markup is counted in characters. -/
theorem line_rendered (stamp : String) (length : Nat) (source : String) :
    (LogEntry.rendered length source).line stamp = renderedLine stamp length source := by
  have hlabel : " - " ++ ("esxml_py.__main__" ++ (" - DEBUG - " ++ "Rendered ")) =
      " - esxml_py.__main__ - DEBUG - Rendered " := by decide
  change stamp ++ " - " ++ "esxml_py.__main__" ++ " - DEBUG - " ++
    ("Rendered " ++ toString length ++ " characters from " ++ source) ++ "\n" = _
  rw [renderedLine, ← hlabel]
  simp only [String.append_assoc]

/-- The names of attributes without a value that building the tree of a document comes upon: in SXML
those among the visits of the conversion up to the first one that ends it. -/
def metNames : Dialect → Json → List Value
  | .esxml, _ => []
  | .sxml, json => Visit.noted (Sxml.visits json.toValue.symbolizeSxml)

/-- The conversion notes the names that its visits come upon. -/
theorem unvalued_eq_metNames (dialect : Dialect) (json : Json) :
    unvalued dialect json = metNames dialect json := by
  cases dialect with
  | esxml => rfl
  | sxml => exact (Sxml.follows_convert json.toValue.symbolizeSxml).notices_eq

/-- The lines about the attributes without a value. -/
def attributeLines (stamp : String) (dialect : Dialect) (json : Json) : List String :=
  (metNames dialect json).map (attributeLine stamp)

/-- How a run without log lines ends, and which lines it would log. -/
inductive LogsAbout (system : System) (stamp : String) (render : RenderSettings)
    (input : Except OpenError (List UInt8)) : Ending → List String → Prop
  /-- A document with an integer that is too long aborts the run, and nothing is logged. -/
  | longInteger {digits} (hstop : system.longInteger? input = some digits) :
      LogsAbout system stamp render input (.aborted (.longInteger digits) "") []
  /-- Nothing is logged about a document that cannot be loaded. -/
  | unloaded {e} (hstop : system.longInteger? input = none)
      (h : system.loadDocument input = .error e) :
      LogsAbout system stamp render input
        (.finished ⟨1, "", "Error: " ++ e.message render.source ++ "\n"⟩) []
  /-- A document that spells no tree is not logged as rejected. -/
  | unbuilt {json e} (hstop : system.longInteger? input = none)
      (hload : system.loadDocument input = .ok json)
      (h : BuildsTree render.dialect json (.error e)) :
      LogsAbout system stamp render input (.finished ⟨1, "", "Error: " ++ e.message ++ "\n"⟩)
        (attributeLines stamp render.dialect json)
  /-- A tree that cannot be read is logged as rejected, once. -/
  | rejected {json tree e} (hstop : system.longInteger? input = none)
      (hload : system.loadDocument input = .ok json)
      (htree : BuildsTree render.dialect json (.ok tree)) (h : tree.read = .error e) :
      LogsAbout system stamp render input (.finished ⟨1, "", "Error: " ++ e.message ++ "\n"⟩)
        (attributeLines stamp render.dialect json ++ [rejectedLine stamp e])
  /-- The length of the markup is logged when it is printed. -/
  | rendered {json tree markup} (hstop : system.longInteger? input = none)
      (hload : system.loadDocument input = .ok json)
      (htree : BuildsTree render.dialect json (.ok tree)) (h : tree.toMarkup = .ok markup)
      (hprints : system.prints (markup ++ "\n")) :
      LogsAbout system stamp render input (.finished ⟨0, markup ++ "\n", ""⟩)
        (attributeLines stamp render.dialect json ++
          [renderedLine stamp markup.length render.source])
  /-- The length of the markup is logged before it turns out that it cannot be printed. -/
  | unprintable {json tree markup} (hstop : system.longInteger? input = none)
      (hload : system.loadDocument input = .ok json)
      (htree : BuildsTree render.dialect json (.ok tree)) (h : tree.toMarkup = .ok markup)
      (hprints : ¬ system.prints (markup ++ "\n")) :
      LogsAbout system stamp render input (.aborted .unprintable "")
        (attributeLines stamp render.dialect json ++
          [renderedLine stamp markup.length render.source])

/-! ## Two runs -/

/-- The lines about the attributes without a value are those of the log entries. -/
theorem map_line_unvalued (stamp : String) (dialect : Dialect) (json : Json) :
    ((unvalued dialect json).map LogEntry.unvalued).map (·.line stamp) =
      attributeLines stamp dialect json := by
  rw [List.map_map, unvalued_eq_metNames, attributeLines]
  exact List.map_congr_left fun name _ => line_unvalued stamp name

section LogsAbout

variable {system : System} {stamp : String} {render : RenderSettings}
  {input : Except OpenError (List UInt8)}

/-- Markup that the output takes is printed. -/
theorem System.print_of_prints {markup : String} (h : system.prints (markup ++ "\n")) :
    system.print ⟨0, markup ++ "\n", ""⟩ = .finished ⟨0, markup ++ "\n", ""⟩ :=
  if_pos (.inr h)

/-- Markup that the output does not take aborts the run. -/
theorem System.print_of_not_prints {markup : String} (h : ¬ system.prints (markup ++ "\n")) :
    system.print ⟨0, markup ++ "\n", ""⟩ = .aborted .unprintable "" := by
  have hne : markup ++ "\n" ≠ "" := by simp
  exact if_neg (not_or_intro hne h)

/-- What is logged about a document comes from an integer that is too long or from the end of a
run. -/
theorem LogsAbout.exists_endsIn {ending : Ending} {lines : List String}
    (h : LogsAbout system stamp render input ending lines) :
    (∃ digits, system.longInteger? input = some digits ∧
      ending = .aborted (.longInteger digits) "" ∧ lines = []) ∨
    system.longInteger? input = none ∧ ∃ outcome,
      EndsIn render (system.loadDocument input) outcome ∧
        ending = system.print (outcome.toRun stamp false) ∧
        lines = outcome.log.map (·.line stamp) := by
  cases h with
  | longInteger hstop => exact .inl ⟨_, hstop, rfl, rfl⟩
  | unloaded hstop hload => exact .inr ⟨hstop, _, .unloaded hload, rfl, rfl⟩
  | unbuilt hstop hload htree =>
    exact .inr ⟨hstop, _, .unbuilt hload htree, rfl, (map_line_unvalued ..).symm⟩
  | rejected hstop hload htree hread =>
    refine .inr ⟨hstop, _, .rejected hload htree hread, rfl, ?_⟩
    rw [List.map_append, map_line_unvalued, List.map_singleton, line_rejected]
  | rendered hstop hload htree hmarkup hprints =>
    obtain ⟨node, hread, rfl⟩ := map_eq_ok_iff.mp hmarkup
    refine .inr ⟨hstop, _, .written hload htree hread, ?_, ?_⟩
    · exact (System.print_of_prints hprints).symm
    · rw [List.map_append, map_line_unvalued, List.map_singleton, line_rendered]
  | unprintable hstop hload htree hmarkup hprints =>
    obtain ⟨node, hread, rfl⟩ := map_eq_ok_iff.mp hmarkup
    refine .inr ⟨hstop, _, .written hload htree hread, ?_, ?_⟩
    · exact (System.print_of_not_prints hprints).symm
    · rw [List.map_append, map_line_unvalued, List.map_singleton, line_rendered]

/-- There is one ending and one log for each document. -/
theorem LogsAbout.unique {ending ending' : Ending} {lines lines' : List String}
    (h : LogsAbout system stamp render input ending lines)
    (h' : LogsAbout system stamp render input ending' lines') :
    ending = ending' ∧ lines = lines' := by
  rcases h.exists_endsIn with ⟨digits, hstop, rfl, rfl⟩ | ⟨hstop, outcome, hends, rfl, rfl⟩
  · rcases h'.exists_endsIn with ⟨digits', hstop', rfl, rfl⟩ | ⟨hstop', -⟩
    · rw [Option.some.inj (hstop.symm.trans hstop')]
      exact ⟨rfl, rfl⟩
    · cases hstop.symm.trans hstop'
  · rcases h'.exists_endsIn with ⟨digits', hstop', -⟩ | ⟨-, outcome', hends', rfl, rfl⟩
    · cases hstop.symm.trans hstop'
    · rw [hends.unique hends']
      exact ⟨rfl, rfl⟩

end LogsAbout

section Execute

variable {system : System} {arguments : List String} {verbose : Bool} {render : RenderSettings}
  {stdin : List UInt8} {folder : Folder} {stamp : String}

/-- Any other run prints what rendering the document comes to. -/
theorem execute_of_endsIn (h : readSettings arguments = .ok ⟨verbose, some render⟩)
    (hstop : system.longInteger? (render.input stdin folder) = none) {outcome : Outcome}
    (hends : EndsIn render (system.loadDocument (render.input stdin folder)) outcome) :
    execute system arguments stdin folder stamp =
      .ok (system.print (outcome.toRun stamp verbose)) := by
  have hinput : (Settings.mk verbose (some render)).input stdin folder =
      render.input stdin folder := rfl
  obtain ⟨outcome', hends', hrun⟩ :=
    exists_runOn_eq render (system.loadDocument (render.input stdin folder))
  rw [execute, h]
  simp only [Settings.execute, hinput, hstop, hrun, hends.unique hends']
  rfl

/-- On the usual system a run leaves behind what it leaves behind without regard to systems, unless
an integer is too long. -/
theorem execute_standard (h : readSettings arguments = .ok ⟨verbose, some render⟩)
    (hstop : System.standard.longInteger? (render.input stdin folder) = none) :
    ∃ result, run arguments stdin folder stamp = .ok result ∧
      execute .standard arguments stdin folder stamp = .ok (.finished result) := by
  obtain ⟨outcome, hends, hrun⟩ := exists_run_eq render stdin folder stamp
  refine ⟨_, hrun arguments verbose h, ?_⟩
  rw [execute_of_endsIn h hstop hends]
  exact congrArg Except.ok (if_pos (.inr rfl))

end Execute

end MarkupTree.CommandLine
