import LiveLint.Proofs.Source.Pool
import LiveLint.Proofs.Text.ShellWords

/-! # Linters from settings

Any settings give a linter of the kind that they ask for, except that a command must be a command
line. One that is badly quoted is found out when the linter is made, and so it is no failure of
a request. A command without words and one that is not found are failures of their requests. -/

namespace LiveLint
open Text

namespace Linter

/-- Linters that run a command. -/
def IsCommand : Linter → Prop
  | .command _ => True
  | .service _ | .builtIn _ => False

/-- The time that a linter gets by its configuration: at least half a second. -/
def timeoutOf (c : LintConfig) : Binary64 := (Binary64.ofRatio false 1 2).max c.requestTimeout

theorem ofConfig_service {c : LintConfig} (h : c.backend = .http) :
    ∃ s, ofConfig c = .ok (.service s) := by
  rw [ofConfig, h]
  exact ⟨_, rfl⟩

theorem ofConfig_command {c : LintConfig} (h : c.backend = .command) {ws : List (List Char)}
    (line : CommandLine c.command.toList ws) :
    ofConfig c = .ok (.command ⟨ws.map String.ofList, timeoutOf c⟩) := by
  have words : splitCommand (.text c.command) = .ok (ws.map String.ofList) :=
    shellWords_ok_iff.mpr ⟨ws, line, rfl⟩
  rw [ofConfig, h]
  simp only [Command.ofValues, words]
  rfl

theorem ofConfig_fault {c : LintConfig} (h : c.backend = .command) {f : Fault}
    (fails : splitCommand (.text c.command) = .error f) : ofConfig c = .error f := by
  rw [ofConfig, h]
  simp only [Command.ofValues, fails]
  rfl

theorem ofConfig_badly_quoted {c : LintConfig} (h : c.backend = .command)
    (noLine : ∀ ws, ¬ CommandLine c.command.toList ws) :
    ∃ f, f.IsBadQuoting ∧ ofConfig c = .error f := by
  obtain ⟨f, bad, fails⟩ := shellWords_error noLine
  exact ⟨f, bad, ofConfig_fault h fails⟩

end Linter

namespace Source

variable (world : World) (document : Value)

/-- A command that cannot be run is a failure of the transport. -/
theorem request_not_run {c : Command} (h : c.argv = [] ∨ world.process = .notFound) :
    ∃ detail, ((Source.mk (.command c) false).request world document).2 =
      .failure (.transport detail) := by
  cases words : c.argv with
  | nil => exact ⟨"No lint command configured.", by
      simp [request, Linter.run, words, outcomeOf, Response.failed]⟩
  | cons name args =>
    have missing := h.resolve_left (by simp [words])
    exact ⟨"Lint command not found: " ++ name, by
      simp [request, Linter.run, words, missing, Command.readEnd, outcomeOf, Response.failed]⟩

theorem request_isKnown {l : Linter} (external : l.IsExternal) :
    ((Source.mk l false).request world document).2.IsKnown := Linter.run_isKnown external world _

end Source

/-- **Settings give a linter unless their command is badly quoted.** The linter is a command
exactly if the settings ask for one, its words are those of the command line, and whatever
happens, its requests come to an outcome: without words, and where the command is not found, to
a failure of the transport. A badly quoted command is a fault instead. -/
theorem configured_unless_badly_quoted (raw : Value) :
    let config := LintConfig.ofValue raw
    let badlyQuoted := config.backend = .command ∧ ∀ ws, ¬ CommandLine config.command.toList ws
    (badlyQuoted → ∃ f, f.IsBadQuoting ∧ Linter.ofConfig config = .error f) ∧
    (¬ badlyQuoted → ∃ l, Linter.ofConfig config = .ok l ∧
      (l.IsCommand ↔ config.backend = .command) ∧
      ∀ world document, ((Source.mk l false).request world document).2.IsKnown) ∧
    ∀ ws, config.backend = .command → CommandLine config.command.toList ws →
      ∃ c : Command, Linter.ofConfig config = .ok (.command c) ∧ c.argv = ws.map String.ofList ∧
        ∀ world document, ws = [] ∨ world.process = .notFound →
          ∃ detail, ((Source.mk (.command c) false).request world document).2 =
            .failure (.transport detail) := by
  intro config badlyQuoted
  refine ⟨fun h => Linter.ofConfig_badly_quoted h.1 h.2, fun h => ?_, fun ws command line => ?_⟩
  · cases backend : config.backend with
    | http =>
      obtain ⟨s, made⟩ := Linter.ofConfig_service backend
      refine ⟨_, made, ⟨False.elim, fun e => nomatch e⟩, fun world document => ?_⟩
      exact Source.request_isKnown world document trivial
    | command =>
      obtain ⟨ws, line⟩ : ∃ ws, CommandLine config.command.toList ws := by
        by_contra none
        exact h ⟨backend, not_exists.mp none⟩
      refine ⟨_, Linter.ofConfig_command backend line, ⟨fun _ => rfl, fun _ => trivial⟩,
        fun world document => ?_⟩
      exact Source.request_isKnown world document trivial
  · refine ⟨_, Linter.ofConfig_command command line, rfl, fun world document h => ?_⟩
    exact Source.request_not_run world document (h.imp_left fun none => by rw [none]; rfl)

/-- A command line with a quoted word, in settings with a field that makes no sense. -/
theorem configured_quoted_command :
    let raw := Value.dict [("backend", .text " Command"), ("command", .text "lint 'a b' "),
      ("debounce_ms", .list [])]
    let config := LintConfig.ofValue raw
    let words := ["lint".toList, "a b".toList]
    (config.backend = .command ∧ CommandLine config.command.toList words) ∧
      ∃ c : Command, Linter.ofConfig config = .ok (.command c) ∧ c.argv = ["lint", "a b"] := by
  intro raw config words
  have backend : config.backend = .command := by decide +kernel
  have line : CommandLine config.command.toList words := commandLine_iff.mpr (by decide +kernel)
  obtain ⟨c, made, argv, -⟩ := (configured_unless_badly_quoted raw).2.2 words backend line
  exact ⟨⟨backend, line⟩, c, made, argv⟩

/-- A quotation mark that is not closed is a fault where the linter is made, before there could
be a request that fails. -/
theorem open_quotation_faults :
    Linter.ofConfig (.ofValue (.dict [("backend", .text "command"), ("command", .text "lint 'x")])) =
      .error .openQuotation :=
  Linter.ofConfig_fault (by decide +kernel) (by decide +kernel)

end LiveLint
