import RegistryMend.Proofs.Schedule.Libraries
import RegistryMend.Proofs.Settings.Validation
import RegistryMend.Service.Deployment

/-! # Runs with a cron expression

Validation counts the fields of a cron expression, while the scheduler reads them. So settings can
be accepted with an expression that the scheduler refuses, and as the first pass comes before the
scheduler, such a run makes its pass and fails then. With an expression that is read the exit code
is that of the first pass.
-/

namespace RegistryMend.Service

open RegistryMend.Repair
open RegistryMend.Schedule (Cron Crontab FirstUnreadable Library)
open RegistryMend.Settings (Draft validate)
open Work

variable {κ α : Type} {session after ready final : Session Premises}

/-- A pass has an exit code, however it ends. -/
theorem runOnce_ok (plan : Plan) (layout : Option FileFault) (schema : SchemaFile)
    (session : Session Premises) :
    ∃ exitCode after, (runOnce plan layout schema).runIn session = (.ok exitCode, after) := by
  rw [runOnce, runIn_bind, runIn_attempt]
  dsimp only
  cases ((prepare layout schema >>= fun _ => repair plan).runIn session).1 with
  | ok _ => exact ⟨0, _, rfl⟩
  | error failure => exact ⟨1, _, rfl⟩

section

variable {library : Library} {plan : Plan} {layout : Option FileFault} {schema : SchemaFile}
  {expression : String} {server : Cron → Server κ α} {exitCode : Nat}

/-- If the scheduler starts and is served to its end, the exit code is that of the first pass. That
there is a schedule is told once the scheduler has started. -/
theorem run_of_trigger {cron : Cron} {started : κ} {served : α} (scheduled : expression ≠ "")
    (first : (runOnce plan layout schema).runIn session = (.ok exitCode, after))
    (read : library.trigger expression = .ok cron)
    (starts : ((server cron).start (repair plan)).runIn after = (.ok started, ready))
    (ends : ((server cron).serve started (repair plan)).runIn
      { ready with events := ready.events.push (.scheduled expression) } = (.ok served, final)) :
    (run plan expression layout schema (Server.due library expression server)).runIn session =
      (.ok (exitCode, some served), { final with events := final.events.push .schedulerStopped }) := by
  rw [run, runIn_bind, first]
  simp only [if_neg scheduled, serveSchedule, Server.due, read, Except.mapError, runIn_bind,
    runIn_ofExcept, starts, runIn_report, runIn_attempt, ends, runIn_pure]

/-- If the scheduler refuses the expression, the run fails with what the first pass left. -/
theorem run_of_trigger_error {problem : Schedule.CronProblem} (scheduled : expression ≠ "")
    (first : (runOnce plan layout schema).runIn session = (.ok exitCode, after))
    (refused : library.trigger expression = .error problem) :
    (run plan expression layout schema (Server.due library expression server)).runIn session =
      (.error (.cron problem), after) := by
  rw [run, runIn_bind, first]
  simp only [if_neg scheduled, serveSchedule, Server.due, refused, Except.mapError, runIn_bind,
    runIn_ofExcept]

end

/-- An accepted expression has the five words that were given. -/
theorem words_of_validate {draft : Draft} {settings : Settings} {text : String}
    (accepted : validate draft = .ok settings) (given : draft.cronExpression = some text)
    (scheduled : settings.cronExpression ≠ "") :
    Text.words settings.cronExpression.toList = Text.words text.toList ∧
      (Text.words text.toList).length = 5 := by
  have checked := (Settings.checked_of_validate accepted).cronExpression
  rw [given] at checked
  obtain ⟨spaced, none_ | five⟩ := Settings.checkCron_singleSpaced checked
  · refine absurd ?_ scheduled
    rw [spaced, Settings.singleSpaced, none_]
    rfl
  · exact ⟨by rw [spaced, Settings.words_singleSpaced], five⟩

/-- What becomes of a cron expression that validation accepts. The first pass ends with an exit
code. If every field of the expression can be read, then the scheduler repeats the pass, and the
exit code of the run is that of the first pass. If not, the first field that cannot be read makes
the run fail, and what it leaves is what the first pass left. -/
theorem cron_mode {library : Library} (reads : library.ReadsCrontab) {draft : Draft}
    {settings : Settings} {text : String} (accepted : validate draft = .ok settings)
    (given : draft.cronExpression = some text) (scheduled : settings.cronExpression ≠ "")
    (deployment : Deployment) (server : Cron → Server κ α) (session : Session Premises) :
    ∃ exitCode after, (deployment.pass settings).runIn session = (.ok exitCode, after) ∧
      (Crontab (Text.words text.toList) →
        ∃ cron, library.trigger settings.cronExpression = .ok cron ∧
          ∀ started ready served final,
            ((server cron).start (repair (deployment.laidOut.plan settings))).runIn after =
              (.ok started, ready) →
            ((server cron).serve started (repair (deployment.laidOut.plan settings))).runIn
              { ready with events := ready.events.push (.scheduled settings.cronExpression) } =
                (.ok served, final) →
            (deployment.application settings
                (Server.due library settings.cronExpression server)).runIn session =
              (.ok (exitCode, some served),
                { final with events := final.events.push .schedulerStopped })) ∧
      (¬ Crontab (Text.words text.toList) →
        ∃ field, FirstUnreadable field (Text.words text.toList) ∧
          library.trigger settings.cronExpression = .error (.badField field) ∧
          (deployment.application settings
              (Server.due library settings.cronExpression server)).runIn session =
            (.error (.cron (.badField field)), after)) := by
  obtain ⟨words, five⟩ := words_of_validate accepted given scheduled
  obtain ⟨exitCode, after, first⟩ := runOnce_ok (deployment.laidOut.plan settings)
    deployment.makeBlobDirectory.2 deployment.schemaFile session
  have parsing := reads settings.cronExpression (words ▸ five)
  rw [← Library.trigger_of_five (words ▸ five), words] at parsing
  refine ⟨exitCode, after, first, ?_, ?_⟩
  · intro crontab
    obtain ⟨cron, read⟩ := parsing.1 crontab
    exact ⟨cron, read, fun _ _ _ _ starts ends => run_of_trigger scheduled first read starts ends⟩
  · intro other
    obtain ⟨field, unreadable, refused⟩ := parsing.2 other
    exact ⟨field, unreadable, refused, run_of_trigger_error scheduled first refused⟩

theorem cron_mode_late_minute :
    let settings : Settings := { cronExpression := "60 * * * *" }
    let deployment : Deployment := { root := "/" }
    let session : Session Premises := { store := deployment.premises }
    let server : Cron → Server Unit (Except Failure Unit) := fun _ =>
      { start := fun _ => return (), serve := fun _ => Work.attempt }
    Library.standard.ReadsCrontab ∧
      validate { cronExpression := some " 60 *\t* * *" } = .ok settings ∧
      ∃ exitCode after, (deployment.pass settings).runIn session = (.ok exitCode, after) ∧
        (deployment.application settings
            (Server.due .standard settings.cronExpression server)).runIn session =
          (.error (.cron (.badField .minute)), after) := by
  intro settings deployment session server
  have accepted : validate { cronExpression := some " 60 *\t* * *" } = .ok settings := by rfl
  obtain ⟨exitCode, after, first, -, refused⟩ := cron_mode Library.readsCrontab_standard accepted rfl
    (by decide) deployment server session
  have five : (Text.words settings.cronExpression.toList).length = 5 := by decide +kernel
  have parsed : Cron.parse settings.cronExpression = .error (.badField .minute) := by
    decide +kernel
  have words : Text.words " 60 *\t* * *".toList = Text.words settings.cronExpression.toList := by
    decide +kernel
  have unreadable : ¬ Crontab (Text.words " 60 *\t* * *".toList) := by
    rw [words]
    exact (Schedule.firstUnreadable_of_parse parsed).not_crontab
  obtain ⟨field, -, again, fails⟩ := refused unreadable
  obtain rfl : field = .minute := by
    rw [Library.trigger_of_five five] at again
    cases parsed.symm.trans again
    rfl
  exact ⟨Library.readsCrontab_standard, accepted, exitCode, after, first, fails⟩

end RegistryMend.Service
