import RegistryMend.Proofs.Schedule.Grammar
import RegistryMend.Schedule.Scheduler

/-! # What is relied on of a scheduling library

A library reads cron expressions by their grammar, puts a job in place of one with the same id when it
is asked to, and keeps no jobs beyond its shutdown. The library that keeps jobs in memory does.
-/

namespace RegistryMend.Schedule

namespace Library

/-- A job that is to replace others with its id is the only one with it, and leaves those with other
ids as they are. -/
def Replaces (library : Library) : Prop :=
  ∀ id job jobs, ∃ after, library.addJob true id job jobs = .ok after ∧
    after.filter (·.1 = id) = [(id, job)] ∧
    ∀ other, other ≠ id → after.filter (·.1 = other) = jobs.filter (·.1 = other)

/-- No job is left at shutdown. -/
def Drops (library : Library) : Prop :=
  ∀ jobs, library.atShutdown jobs = []

/-- Five words are read if every field can be read from its word, and otherwise the first field that
cannot is at fault. -/
def ReadsCrontab (library : Library) : Prop :=
  ∀ expression, (Text.words expression.toList).length = 5 →
    (Crontab (Text.words expression.toList) → ∃ due, library.fromCrontab expression = .ok due) ∧
    (¬Crontab (Text.words expression.toList) → ∃ field,
      FirstUnreadable field (Text.words expression.toList) ∧
      library.fromCrontab expression = .error (.badField field))

theorem replaces_standard : standard.Replaces := by
  intro id job jobs
  refine ⟨jobs.filter (·.1 ≠ id) ++ [(id, job)], rfl, ?_, fun other differ => ?_⟩
  · simp [List.filter_filter]
  · rw [List.filter_append, List.filter_filter]
    have alike : ∀ entry ∈ jobs, (decide (entry.1 = other) && decide (entry.1 ≠ id)) =
        decide (entry.1 = other) := by
      intro entry _
      by_cases same : entry.1 = other
      · simp [same, differ]
      · simp [same]
    rw [List.filter_congr alike]
    simp [differ.symm]

theorem drops_standard : standard.Drops := fun _ => rfl

theorem readsCrontab_standard : standard.ReadsCrontab := fun _ => parse_of_five

variable {library : Library}

/-- Expressions with another number of words are refused before they are read. -/
theorem trigger_of_five {expression : String} (five : (Text.words expression.toList).length = 5) :
    library.trigger expression = library.fromCrontab expression :=
  if_pos five

/-- Any text is an expression exactly if its words are. -/
theorem ReadsCrontab.exists_trigger_iff (reads : library.ReadsCrontab) {expression : String} :
    (∃ due, library.trigger expression = .ok due) ↔ Crontab (Text.words expression.toList) := by
  by_cases five : (Text.words expression.toList).length = 5
  · rw [trigger_of_five five]
    refine ⟨fun ⟨due, read⟩ => ?_, (reads expression five).1⟩
    by_contra other
    obtain ⟨field, -, refused⟩ := (reads expression five).2 other
    rw [read] at refused
    cases refused
  · rw [trigger, if_neg five]
    exact iff_of_false nofun fun crontab => five crontab.length_eq.symm

end Library

end RegistryMend.Schedule
