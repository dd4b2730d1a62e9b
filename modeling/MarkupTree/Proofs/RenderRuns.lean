import MarkupTree.CommandLine.Render
import MarkupTree.Proofs.Arguments
import MarkupTree.Proofs.JsonTree

/-!
# How a run that renders a document ends

A run loads the document, builds the tree that it spells, reads the tree as a node and writes the
node. `EndsIn` has one case for each of these steps that a run can end with; everything that is said
about runs follows from the fact that there is no other end (`exists_endsIn`). A run that is asked
for no log lines prints the markup and nothing else, or one error message and nothing else
(`run_printsMarkupOrError`).
-/

namespace MarkupTree.CommandLine

/-! ## Loading -/

/-- The bytes of the document: standard input, or the file at the path. -/
def RenderSettings.input (render : RenderSettings) (stdin : List UInt8) (folder : Folder) :
    Except OpenError (List UInt8) :=
  if render.source = standardInput then .ok stdin else folder.read render.source

/-- A document is loaded exactly when its bytes are there, and are a text that is JSON. -/
theorem loadDocument_eq_ok_iff {input : Except OpenError (List UInt8)} {json : Json} :
    loadDocument input = .ok json ↔
      ∃ bytes characters, input = .ok bytes ∧ Text.Utf8.decode bytes = .ok characters ∧
        Json.decode (Text.normalizeNewlines characters) = .ok json := by
  simp only [loadDocument, loadDocumentWith, parseDocument, bind_eq_ok_iff, mapError_eq_ok_iff]
  constructor
  · rintro ⟨bytes, hbytes, characters, hcharacters, hjson⟩
    exact ⟨bytes, characters, hbytes, hcharacters, hjson⟩
  · rintro ⟨bytes, characters, hbytes, hcharacters, hjson⟩
    exact ⟨bytes, hbytes, characters, hcharacters, hjson⟩

/-! ## Building the tree -/

/-- The tree that a document spells in a notation, or the report that there is none. -/
inductive BuildsTree : Dialect → Json → Except InvalidNode Value → Prop
  /-- The names of the document become symbols. -/
  | esxml {json tree} (h : json.toValue.symbolize = .ok tree) : BuildsTree .esxml json (.ok tree)
  /-- The names become symbols, and the value is converted to the standard notation. -/
  | sxml (json) : BuildsTree .sxml json (Sxml.toStandard json.toValue.symbolizeSxml)

theorem BuildsTree.unique {dialect : Dialect} {json : Json} {t t' : Except InvalidNode Value}
    (h : BuildsTree dialect json t) (h' : BuildsTree dialect json t') : t = t' := by
  cases h with
  | esxml h =>
    cases h' with
    | esxml h' => rw [Except.ok.inj (h.symm.trans h')]
  | sxml => cases h'; rfl

/-- The names of attributes without a value, in the order in which they are met. -/
def unvalued : Dialect → Json → List Value
  | .esxml, _ => []
  | .sxml, json => (Sxml.convert json.toValue.symbolizeSxml).notices

/-- No document has a name that cannot be a symbol. -/
theorem exists_readTree (dialect : Dialect) (json : Json) :
    ∃ tree, readTree dialect json.toValue = .ok tree ∧ BuildsTree dialect json tree.result ∧
      tree.notices = unvalued dialect json := by
  cases dialect with
  | esxml =>
    refine ⟨pure json.tree, ?_, .esxml json.symbolize_toValue, rfl⟩
    rw [readTree, json.symbolize_toValue]
    rfl
  | sxml => exact ⟨_, rfl, .sxml json, rfl⟩

/-! ## The ends of a run -/

/-- How rendering what was loaded ends. -/
inductive EndsIn (render : RenderSettings) (document : Except LoadError Json) : Outcome → Prop
  /-- The document cannot be loaded. -/
  | unloaded {e} (h : document = .error e) :
      EndsIn render document ⟨[], .error (e.message render.source)⟩
  /-- The document spells no tree. -/
  | unbuilt {json e} (hload : document = .ok json)
      (htree : BuildsTree render.dialect json (.error e)) :
      EndsIn render document ⟨(unvalued render.dialect json).map .unvalued, .error e.message⟩
  /-- The tree cannot be read as a node. -/
  | rejected {json tree e} (hload : document = .ok json)
      (htree : BuildsTree render.dialect json (.ok tree)) (h : tree.read = .error e) :
      EndsIn render document
        ⟨(unvalued render.dialect json).map .unvalued ++ [.rejected e], .error e.message⟩
  /-- The node is written. -/
  | written {json tree node} (hload : document = .ok json)
      (htree : BuildsTree render.dialect json (.ok tree)) (h : tree.read = .ok node) :
      EndsIn render document
        ⟨(unvalued render.dialect json).map .unvalued ++
          [.rendered node.markup.length render.source], .ok node.markup⟩

section EndsIn

variable {render : RenderSettings} {document : Except LoadError Json} {outcome outcome' : Outcome}

/-- What a built tree is rendered to. -/
theorem renderDocument_of_buildsTree {json : Json} {built : Except InvalidNode Value}
    (hload : document = .ok json) (htree : BuildsTree render.dialect json built) :
    renderDocument render document =
      .ok (renderTree render.source ⟨unvalued render.dialect json, built⟩) := by
  obtain ⟨tree, hread, hbuilds, hnotices⟩ := exists_readTree render.dialect json
  rw [hload, renderDocument, hread, ← hnotices, htree.unique hbuilds]
  rfl

/-- Rendering has the outcome that it ends in. -/
theorem renderDocument_of_endsIn (h : EndsIn render document outcome) :
    renderDocument render document = .ok outcome := by
  cases h with
  | unloaded h => rw [h, renderDocument]
  | unbuilt hload htree =>
    rw [renderDocument_of_buildsTree hload htree]
    rfl
  | rejected hload htree h =>
    rw [renderDocument_of_buildsTree hload htree]
    simp only [renderTree, h]
  | written hload htree h =>
    rw [renderDocument_of_buildsTree hload htree]
    simp only [renderTree, h]

theorem EndsIn.unique (h : EndsIn render document outcome)
    (h' : EndsIn render document outcome') : outcome = outcome' :=
  Except.ok.inj ((renderDocument_of_endsIn h).symm.trans (renderDocument_of_endsIn h'))

variable (render document)

/-- There is always one of these ends. -/
theorem exists_endsIn : ∃ outcome, EndsIn render document outcome := by
  -- It is the first step that fails, if there is one.
  cases hload : document with
  | error e => exact ⟨_, .unloaded rfl⟩
  | ok json =>
    obtain ⟨tree, -, htree, -⟩ := exists_readTree render.dialect json
    cases hbuilt : tree.result with
    | error e =>
      rw [hbuilt] at htree
      exact ⟨_, .unbuilt rfl htree⟩
    | ok value =>
      rw [hbuilt] at htree
      cases hvalue : value.read with
      | error e => exact ⟨_, .rejected rfl htree hvalue⟩
      | ok node => exact ⟨_, .written rfl htree hvalue⟩

/-- Whatever was loaded, a run that renders it comes to an end, and whether log lines are wanted
matters only to what is printed. -/
theorem exists_runOn_eq :
    ∃ outcome, EndsIn render document outcome ∧ ∀ verbose stamp,
      Settings.runOn ⟨verbose, some render⟩ stamp document = .ok (outcome.toRun stamp verbose) := by
  obtain ⟨outcome, hends⟩ := exists_endsIn render document
  refine ⟨outcome, hends, fun verbose stamp => ?_⟩
  simp only [Settings.runOn, renderDocument_of_endsIn hends]
  rfl

end EndsIn

/-- So does every run on arguments that ask for a document to be rendered. -/
theorem exists_run_eq (render : RenderSettings) (stdin : List UInt8) (folder : Folder)
    (stamp : String) :
    ∃ outcome, EndsIn render (loadDocument (render.input stdin folder)) outcome ∧
      ∀ arguments verbose, readSettings arguments = .ok ⟨verbose, some render⟩ →
        run arguments stdin folder stamp = .ok (outcome.toRun stamp verbose) := by
  obtain ⟨outcome, hends, hrun⟩ :=
    exists_runOn_eq render (loadDocument (render.input stdin folder))
  refine ⟨outcome, hends, fun arguments verbose h => ?_⟩
  rw [run, h]
  exact hrun verbose stamp

/-! ## All or nothing -/

/-- A document has a markup: its bytes are a text, the text is JSON, the document spells a tree, and
the tree can be written. -/
def HasMarkup (render : RenderSettings) (input : Except OpenError (List UInt8)) (markup : String) :
    Prop :=
  ∃ bytes characters json tree, input = .ok bytes ∧ Text.Utf8.decode bytes = .ok characters ∧
    Json.decode (Text.normalizeNewlines characters) = .ok json ∧
    BuildsTree render.dialect json (.ok tree) ∧ tree.toMarkup = .ok markup

theorem hasMarkup_iff {render : RenderSettings} {input : Except OpenError (List UInt8)}
    {markup : String} :
    HasMarkup render input markup ↔ ∃ json tree, loadDocument input = .ok json ∧
      BuildsTree render.dialect json (.ok tree) ∧ tree.toMarkup = .ok markup := by
  simp only [HasMarkup, loadDocument_eq_ok_iff]
  constructor
  · rintro ⟨bytes, characters, json, tree, hbytes, hcharacters, hjson, htree, hmarkup⟩
    exact ⟨json, tree, ⟨bytes, characters, hbytes, hcharacters, hjson⟩, htree, hmarkup⟩
  · rintro ⟨json, tree, ⟨bytes, characters, hbytes, hcharacters, hjson⟩, htree, hmarkup⟩
    exact ⟨bytes, characters, json, tree, hbytes, hcharacters, hjson, htree, hmarkup⟩

/-- The end with markup is the only one at which the document has one. -/
theorem EndsIn.result_eq_ok_iff {render : RenderSettings} {input : Except OpenError (List UInt8)}
    {outcome : Outcome} (h : EndsIn render (loadDocument input) outcome) (markup : String) :
    outcome.result = .ok markup ↔ HasMarkup render input markup := by
  rw [hasMarkup_iff]
  constructor
  · intro hresult
    cases h with
    | written hload htree hread =>
      cases hresult
      exact ⟨_, _, hload, htree, map_eq_ok_iff.mpr ⟨_, hread, rfl⟩⟩
    | _ => cases hresult
  · rintro ⟨json, tree, hload, htree, hmarkup⟩
    obtain ⟨node, hread, rfl⟩ := map_eq_ok_iff.mp hmarkup
    rw [h.unique (.written hload htree hread)]

/-- A run prints the markup of the document and nothing else, or the document has none, and the run
prints one error message and nothing else. -/
inductive PrintsMarkupOrError (render : RenderSettings) (input : Except OpenError (List UInt8)) :
    Run → Prop
  /-- The run succeeds. -/
  | markup {markup} (h : HasMarkup render input markup) :
      PrintsMarkupOrError render input ⟨0, markup ++ "\n", ""⟩
  /-- The run fails. -/
  | error (message) (h : ∀ markup, ¬ HasMarkup render input markup) :
      PrintsMarkupOrError render input ⟨1, "", "Error: " ++ message ++ "\n"⟩

/-- On a document that has a markup only one of the two is left. -/
theorem PrintsMarkupOrError.eq_of_hasMarkup {render : RenderSettings}
    {input : Except OpenError (List UInt8)} {result : Run}
    (h : PrintsMarkupOrError render input result) {markup : String}
    (hmarkup : HasMarkup render input markup) : result = ⟨0, markup ++ "\n", ""⟩ := by
  cases h with
  | @markup markup' h =>
    obtain ⟨outcome, hends⟩ := exists_endsIn render (loadDocument input)
    have hresult := (hends.result_eq_ok_iff markup').mpr h
    rw [(hends.result_eq_ok_iff markup).mpr hmarkup] at hresult
    rw [Except.ok.inj hresult]
  | error message h => exact absurd hmarkup (h markup)

/-- A run that is asked for no log lines succeeds exactly on the documents that have a markup. -/
theorem run_printsMarkupOrError {arguments : List String} {render : RenderSettings}
    (h : readSettings arguments = .ok ⟨false, some render⟩) (stdin : List UInt8) (folder : Folder)
    (stamp : String) :
    ∃ result, run arguments stdin folder stamp = .ok result ∧
      PrintsMarkupOrError render (render.input stdin folder) result := by
  obtain ⟨outcome, hends, hrun⟩ := exists_run_eq render stdin folder stamp
  refine ⟨outcome.toRun stamp false, hrun arguments false h, ?_⟩
  have hmarkup := hends.result_eq_ok_iff
  cases hresult : outcome.result with
  | ok markup =>
    have hrun : outcome.toRun stamp false = ⟨0, markup ++ "\n", ""⟩ := by
      simp [Outcome.toRun, hresult]
    rw [hrun]
    exact .markup ((hmarkup markup).mp hresult)
  | error message =>
    have hrun : outcome.toRun stamp false = ⟨1, "", "Error: " ++ message ++ "\n"⟩ := by
      simp [Outcome.toRun, hresult]
    rw [hrun]
    refine .error message fun markup hhas => ?_
    cases hresult.symm.trans ((hmarkup markup).mpr hhas)

/-- The bytes of the document `["hr"]`. -/
def lineBytes : List UInt8 := [0x5b, 0x22, 0x68, 0x72, 0x22, 0x5d]

/-- The bytes of a string in which one byte is no text. -/
def undecodableBytes : List UInt8 := [0x22, 0xff, 0x22]

theorem hasMarkup_lineBytes : HasMarkup ⟨.sxml, standardInput⟩ (.ok lineBytes) "<hr/>" := by
  have hload : loadDocument (.ok lineBytes) = .ok (.array [.text "hr"]) := by
    with_unfolding_all rfl
  have hmarkup : (Value.list [.symbol ⟨"hr", by decide⟩, .mapping []]).toMarkup = .ok "<hr/>" := by
    rw [Value.toMarkup]
    exact congrArg Except.ok (by decide : (Node.element "hr" [] []).markup = _)
  exact hasMarkup_iff.mpr ⟨_, _, hload, .sxml _, hmarkup⟩

theorem not_hasMarkup_undecodableBytes (markup : String) :
    ¬ HasMarkup ⟨.sxml, standardInput⟩ (.ok undecodableBytes) markup := by
  rintro ⟨bytes, characters, -, -, hbytes, hcharacters, -⟩
  cases hbytes
  cases hcharacters

/-- Two runs on standard input: one prints the markup, the other an error message. -/
theorem run_printsMarkupOrError_of_two_documents :
    let arguments := ["render", "--format", "sxml", standardInput]
    readSettings arguments = .ok ⟨false, some ⟨.sxml, standardInput⟩⟩ ∧
      run arguments lineBytes ⟨[]⟩ "" = .ok ⟨0, "<hr/>\n", ""⟩ ∧
      ∃ message, run arguments undecodableBytes ⟨[]⟩ "" =
        .ok ⟨1, "", "Error: " ++ message ++ "\n"⟩ := by
  intro arguments
  have h : readSettings arguments = .ok ⟨false, some ⟨.sxml, standardInput⟩⟩ :=
    readSettings_render .sxml (by decide : IsOperand standardInput)
  obtain ⟨result, hrun, hprints⟩ := run_printsMarkupOrError h lineBytes ⟨[]⟩ ""
  obtain ⟨result', hrun', hprints'⟩ := run_printsMarkupOrError h undecodableBytes ⟨[]⟩ ""
  refine ⟨h, ?_, ?_⟩
  · rw [hrun, hprints.eq_of_hasMarkup hasMarkup_lineBytes]
    rfl
  · cases hprints' with
    | markup h => exact absurd h (not_hasMarkup_undecodableBytes _)
    | error message => exact ⟨message, hrun'⟩

end MarkupTree.CommandLine
