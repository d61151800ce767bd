import MudTestbed.Proofs.Scenario.References

/-!
# What a scenario report says

A report's verdict and counts agree with its results. A cancelled result never passes, and
every result of a run is built so (`ProbeResult.Sound`): each result of a run is passed,
failed or cancelled, exactly one of the three, and the three counts add up to the number of
results (`count_passed_add_failed_add_cancelled`).

The text summary is a list of lines (`ReportLine`), each printed with its line feed
(`ScenarioReport.render_eq_join`): the header; for each group a blank line, its title and, per
result, a verdict line followed, for a result that did not pass and has output, by one line per
line of the trimmed output; the abort, when there is one; the teardown errors; a blank line
and the summary. The verdict lines are the results in group order
(`ScenarioReport.lines_verdicts`), and the summary, last, gives the verdict and the counts.
-/

namespace MudTestbed

set_option autoImplicit false

/-! ### Counting results -/

theorem ProbeResult.Sound.passed_eq_false_of_cancelled {x : ProbeResult} (h : x.Sound)
    (hc : x.isCancelled = true) : x.passed = false := by
  cases hp : x.passed
  · rfl
  · obtain ⟨o, ho, -⟩ := h.mp hp
    rw [ProbeResult.isCancelled, ho, beq_iff_eq] at hc
    cases hc

theorem count_passed_add_failed_add_cancelled (xs : List ProbeResult)
    (h : ∀ x ∈ xs, x.isCancelled = true → x.passed = false) :
    (xs.filter (·.passed)).length + (xs.filter fun x => !x.passed && !x.isCancelled).length +
      (xs.filter (·.isCancelled)).length = xs.length := by
  induction xs with
  | nil => rfl
  | cons x rest ih =>
    have hrest := ih fun y hy => h y (List.mem_cons_of_mem x hy)
    have hx := h x List.mem_cons_self
    simp only [List.filter_cons, List.length_cons]
    cases hp : x.passed <;> cases hc : x.isCancelled
    · simp only [Bool.not_false, Bool.and_self, if_true, Bool.false_eq_true, if_false,
        List.length_cons]
      omega
    · simp only [Bool.not_false, Bool.not_true, Bool.and_false, Bool.false_eq_true, if_false,
        if_true, List.length_cons]
      omega
    · simp only [if_true, Bool.not_true, Bool.false_and, Bool.false_eq_true, if_false,
        List.length_cons]
      omega
    · exact absurd (hx hc) (by simp [hp])

namespace ScenarioReport

variable (r : ScenarioReport)

theorem passed_iff : r.passed = true ↔ r.aborted = none ∧ ∀ x ∈ r.results, x.passed = true := by
  simp [passed, List.all_eq_true]

end ScenarioReport

theorem infix_flatMap_of_mem {α β : Type} {f : α → List β} {l : List α} {a : α} (h : a ∈ l) :
    f a <:+: l.flatMap f := by
  obtain ⟨s, t, rfl⟩ := List.append_of_mem h
  exact ⟨s.flatMap f, t.flatMap f, by simp⟩

/-! ### The lines of the text summary -/

def ProbeResult.verdictLine (x : ProbeResult) : String :=
  let padded := x.verdict ++ String.ofList (List.replicate (9 - x.verdict.length) ' ')
  s!"  {padded} {x.spec.toText} (expected {x.spec.expect.title}, observed {x.observation.describe})"

theorem ProbeResult.verdictLine_eq (x : ProbeResult) :
    x.verdictLine = "  " ++ (if x.isCancelled then "CANCELLED" else if x.passed then "PASS" else "FAIL") ++
      (String.ofList (List.replicate (9 - x.verdict.length) ' ') ++
        s!" {x.spec.toText} (expected {x.spec.expect.title}, observed {x.observation.describe})") := by
  have htext (s : String) : toString s = s := rfl
  simp only [verdictLine, verdict, htext, String.append_assoc]

/-- A line of the text summary, by what it shows. -/
inductive ReportLine where
  | header (scenario : String)
  | blank
  | groupTitle (name : String)
  | verdict (x : ProbeResult)
  /-- A line of the output of a result. -/
  | output (x : ProbeResult) (line : String)
  | aborted (a : Abort)
  | teardown (error : String)
  /-- The verdict of the report, with the counts of passed, all and cancelled results. -/
  | summary (passed : Bool) (passedCount total cancelled : Nat)

namespace ReportLine

/-- The text of a line, without its line feed. -/
def text : ReportLine → String
  | header s => s!"scenario: {s}"
  | blank => ""
  | groupTitle name => s!"[{name}]"
  | verdict x => x.verdictLine
  | output _ line => s!"            | {line}"
  | aborted a => s!"ABORTED in {a.state.title}: {a.error}"
  | teardown e => s!"teardown: {e}"
  | summary passed k n c =>
    (if passed then "PASSED" else "FAILED") ++ s!": {k} of {n} probes passed" ++
      if c = 0 then "" else s!" ({c} cancelled)"

/-! The equations of `text`, stated once so that `simp` need not derive them from the match. -/

@[simp] theorem text_header (s : String) : (header s).text = s!"scenario: {s}" := rfl
@[simp] theorem text_blank : blank.text = "" := rfl
@[simp] theorem text_groupTitle (name : String) : (groupTitle name).text = s!"[{name}]" := rfl
@[simp] theorem text_verdict (x : ProbeResult) : (verdict x).text = x.verdictLine := rfl
@[simp] theorem text_output (x : ProbeResult) (line : String) :
    (output x line).text = s!"            | {line}" := rfl
@[simp] theorem text_aborted (a : Abort) :
    (aborted a).text = s!"ABORTED in {a.state.title}: {a.error}" := rfl
@[simp] theorem text_teardown (e : String) : (teardown e).text = s!"teardown: {e}" := rfl
@[simp] theorem text_summary (passed : Bool) (k n c : Nat) :
    (summary passed k n c).text = (if passed then "PASSED" else "FAILED") ++
      s!": {k} of {n} probes passed" ++ if c = 0 then "" else s!" ({c} cancelled)" := rfl

def verdict? : ReportLine → Option ProbeResult
  | verdict x => some x
  | _ => none

def output? : ReportLine → Option (ProbeResult × String)
  | output x line => some (x, line)
  | _ => none

def aborted? : ReportLine → Option Abort
  | aborted a => some a
  | _ => none

end ReportLine

namespace ScenarioReport

variable (r : ScenarioReport)

def resultBlock (x : ProbeResult) : List ReportLine :=
  .verdict x :: if !x.passed && !(Text.trim x.output).isEmpty then
    (Text.lines (Text.trim x.output)).map (.output x) else []

def groupBlock (g : GroupReport) : List ReportLine :=
  .blank :: .groupTitle g.name :: g.results.flatMap resultBlock

def lines (r : ScenarioReport) : List ReportLine :=
  .header r.scenario :: r.groups.flatMap groupBlock ++ r.aborted.elim [] (fun a => [.blank, .aborted a]) ++
    r.teardownErrors.map .teardown ++
    [.blank, .summary r.passed (r.results.filter (·.passed)).length r.results.length r.cancelledProbes]

theorem resultLines_eq (x : ProbeResult) : resultLines x = (resultBlock x).map ReportLine.text := by
  unfold resultLines resultBlock
  dsimp only
  split
  · rw [List.map_cons, List.map_map]
    rfl
  · rfl

theorem groupLines_eq (g : GroupReport) : groupLines g = (groupBlock g).map ReportLine.text := by
  have h : resultLines = fun x => (resultBlock x).map ReportLine.text := funext resultLines_eq
  simp only [groupLines, groupBlock, List.map_cons, List.map_flatMap, h]
  rfl

theorem render_eq_join (r : ScenarioReport) :
    r.render = String.join (r.lines.map fun l => l.text ++ "\n") := by
  have h : groupLines = fun g => (groupBlock g).map ReportLine.text := funext groupLines_eq
  have htext (s : String) : toString s = s := rfl
  unfold render lines
  dsimp only
  cases r.aborted <;> cases r.cancelledProbes <;>
    simp [h, htext, List.map_flatMap, List.map_map, String.append_assoc, Function.comp_def]

/-! The lines of each kind, read off the summary in order. -/

theorem resultBlock_verdicts (x : ProbeResult) :
    (resultBlock x).filterMap ReportLine.verdict? = [x] := by
  unfold resultBlock
  split <;> simp [ReportLine.verdict?, List.filterMap_map, Function.comp_def]

theorem resultBlock_outputs (x : ProbeResult) :
    (resultBlock x).filterMap ReportLine.output? =
      if !x.passed && !(Text.trim x.output).isEmpty then
        (Text.lines (Text.trim x.output)).map (x, ·) else [] := by
  unfold resultBlock
  split
  · simp [ReportLine.output?, List.filterMap_cons, List.filterMap_map, Function.comp_def]
  · rfl

theorem resultBlock_aborts (x : ProbeResult) : (resultBlock x).filterMap ReportLine.aborted? = [] := by
  unfold resultBlock
  split <;> simp [ReportLine.aborted?]

theorem lines_verdicts : r.lines.filterMap ReportLine.verdict? = r.results := by
  unfold lines results groupBlock
  cases r.aborted <;>
    simp [List.filterMap_cons, List.filterMap_flatMap, resultBlock_verdicts, ReportLine.verdict?]

theorem lines_outputs : r.lines.filterMap ReportLine.output? = r.results.flatMap fun x =>
    if !x.passed && !(Text.trim x.output).isEmpty then
      (Text.lines (Text.trim x.output)).map (x, ·) else [] := by
  unfold lines results groupBlock
  cases r.aborted <;>
    simp [List.filterMap_cons, List.filterMap_flatMap, resultBlock_outputs, ReportLine.output?,
      List.flatMap_assoc]

theorem lines_aborts : r.lines.filterMap ReportLine.aborted? = r.aborted.toList := by
  unfold lines groupBlock
  cases r.aborted <;>
    simp [List.filterMap_cons, List.filterMap_flatMap, resultBlock_aborts, ReportLine.aborted?,
      List.filterMap_map, Function.comp_def]

theorem resultBlock_infix_lines {x : ProbeResult} (hx : x ∈ r.results) :
    resultBlock x <:+: r.lines := by
  obtain ⟨g, hg, hxg⟩ := List.mem_flatMap.mp hx
  have hgroup : resultBlock x <:+: groupBlock g :=
    (infix_flatMap_of_mem hxg).trans ((List.suffix_cons _ _).trans (List.suffix_cons _ _)).isInfix
  have hgroups : r.groups.flatMap groupBlock <:+: r.lines :=
    ⟨[.header r.scenario], r.aborted.elim [] (fun a => [.blank, .aborted a]) ++
      r.teardownErrors.map .teardown ++
      [.blank, .summary r.passed (r.results.filter (·.passed)).length r.results.length
        r.cancelledProbes], by simp [lines]⟩
  exact hgroup.trans ((infix_flatMap_of_mem hg).trans hgroups)

theorem lines_getLast : r.lines.getLast? = some (.summary r.passed
    (r.results.filter (·.passed)).length r.results.length r.cancelledProbes) := by
  have hsplit : r.lines = (.header r.scenario :: (r.groups.flatMap groupBlock ++
      r.aborted.elim [] (fun a => [.blank, .aborted a]) ++ r.teardownErrors.map .teardown) ++
      [.blank]) ++ [.summary r.passed (r.results.filter (·.passed)).length r.results.length
        r.cancelledProbes] := by
    simp [lines]
  rw [hsplit, List.getLast?_concat]

end ScenarioReport

theorem Scenario.run_results_sound {σ : Type} (ctl : ControllerBehavior σ) (config : ControllerConfig)
    (sc : Scenario) (tb : Testbed σ) : ∀ x ∈ ((sc.run ctl config).run tb).1.results, x.Sound :=
  Scenario.run_results ctl config sc tb (Q := ProbeResult.Sound) fun live _ =>
    Drive.scenario_results ctl _ sc live fun _ _ s _ spec _ => s.runProbe_sound spec

/-- A run's report agrees with itself: its verdict, its counts and its text. -/
theorem Scenario.run_report_counts_and_text_agree {σ : Type} (ctl : ControllerBehavior σ)
    (config : ControllerConfig) (sc : Scenario) (tb : Testbed σ) :
    let R := ((sc.run ctl config).run tb).1
    (R.passed = true ↔ R.aborted = none ∧ ∀ x ∈ R.results, x.passed = true) ∧
    (∀ x ∈ R.results, ¬ (x.isCancelled = true ∧ x.passed = true)) ∧
    (R.results.filter (·.passed)).length + R.failedProbes + R.cancelledProbes =
      R.results.length ∧
    R.render = String.join (R.lines.map fun l => l.text ++ "\n") ∧
    R.lines.filterMap ReportLine.verdict? = R.results ∧
    (∀ x ∈ R.results, ∃ rest, (ReportLine.verdict x).text =
      "  " ++ (if x.isCancelled then "CANCELLED" else if x.passed then "PASS" else "FAIL") ++ rest) ∧
    (∀ x ∈ R.results, ScenarioReport.resultBlock x <:+: R.lines) ∧
    R.lines.filterMap ReportLine.output? = R.results.flatMap (fun x =>
      if !x.passed && !(Text.trim x.output).isEmpty then
        (Text.lines (Text.trim x.output)).map (x, ·) else []) ∧
    R.lines.filterMap ReportLine.aborted? = R.aborted.toList ∧
    R.lines.getLast? = some (.summary R.passed (R.results.filter (·.passed)).length
      R.results.length R.cancelledProbes) ∧
    ∀ b k n c, (ReportLine.summary b k n c).text =
      (if b then "PASSED" else "FAILED") ++ s!": {k} of {n} probes passed" ++
        if c = 0 then "" else s!" ({c} cancelled)" := by
  intro R
  have hsound := Scenario.run_results_sound ctl config sc tb
  have hcancelled : ∀ x ∈ R.results, x.isCancelled = true → x.passed = false :=
    fun x hx => (hsound x hx).passed_eq_false_of_cancelled
  refine ⟨R.passed_iff, fun x hx ⟨hc, hp⟩ => ?_, count_passed_add_failed_add_cancelled _ hcancelled,
    R.render_eq_join, R.lines_verdicts, fun x _ => ⟨_, x.verdictLine_eq⟩,
    fun x hx => R.resultBlock_infix_lines hx, R.lines_outputs, R.lines_aborts, R.lines_getLast,
    fun _ _ _ _ => rfl⟩
  rw [hcancelled x hx hc] at hp
  cases hp

end MudTestbed
