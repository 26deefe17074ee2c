import RegistryMend.Schedule.Cron

/-! # When a cron expression is due

A cron expression is due at the minutes of which every part is covered by a piece of its field.
-/

namespace RegistryMend.Schedule

/-- A minute of a calendar. -/
structure CalendarMinute where
  minute : Nat
  hour : Nat
  day : Nat
  month : Nat
  /-- The day of the week; Monday is zero. -/
  dayOfWeek : Nat
  /-- The last day of the month. -/
  lastDay : Nat
deriving DecidableEq, Repr

/-- The part of a minute that a field is about. -/
def CalendarMinute.part (time : CalendarMinute) : Field → Nat
  | .minute => time.minute
  | .hour => time.hour
  | .day => time.day
  | .month => time.month
  | .dayOfWeek => time.dayOfWeek

/-- Whether a piece of a field covers a value, given the last day of the month. -/
def Piece.covers (range : Range) (lastDay value : Nat) : Piece → Bool
  | every step => (value - range.low) % step.getD 1 == 0
  | values first last step =>
    first ≤ value && value ≤ last.getD range.high && (value - first) % step.getD 1 == 0
  | named first last => range.low + first ≤ value && value ≤ range.low + last
  | lastOfAll => value == lastDay

/-- Whether a cron expression is due at a minute. -/
def Cron.isDue (cron : Cron) (time : CalendarMinute) : Bool :=
  Field.all.all fun field =>
    (cron.pieces field).any (Piece.covers field.range time.lastDay (time.part field))

example :
    let cron : Cron := {
      minute := [.every (some 15)], hour := [.values 2 (some 4) none], day := [.lastOfAll]
      month := [.named 1 1], dayOfWeek := [.every none] }
    cron.isDue ⟨45, 3, 28, 2, 6, 28⟩ = true ∧ cron.isDue ⟨45, 3, 27, 2, 5, 28⟩ = false := by decide

end RegistryMend.Schedule
