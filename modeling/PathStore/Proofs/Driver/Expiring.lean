/-
This file shows how long the URLs live that are signed until a requested expiry. The time until the expiry is a
difference of two numbers, rounded once and cut to whole seconds; the URL lives no longer than that exactly if a whole
second is left and the difference is not rounded up to a whole number.
-/
import PathStore.Driver
import PathStore.Proofs.Driver.Steps
import PathStore.Proofs.Number.Rounding
import PathStore.Proofs.Program.Outcomes

namespace PathStore

namespace Instant

/-- The seconds since the start of 1970. -/
def seconds (instant : Instant) : ℚ := instant.microseconds / 1000000

/-- Whether the year of an instant has four digits. -/
def IsInCalendar (instant : Instant) : Prop :=
  least.microseconds ≤ instant.microseconds ∧ instant.microseconds ≤ greatest.microseconds

theorem timestamp_eq (instant : Instant) : instant.timestamp = Binary64.ofRat instant.seconds := by
  rw [timestamp, seconds, Rat.mkRat_eq_div]
  rfl

theorem IsInCalendar.seconds_le {instant : Instant} (dated : instant.IsInCalendar) :
    instant.seconds ≤ 2 ^ 38 := by
  have bounded : (instant.microseconds : ℚ) ≤ 253402300799999999 := by exact_mod_cast dated.2
  rw [seconds]
  linarith

end Instant

theorem Failure.wholePart_of_truncate? {value : Binary64} {whole : Int} (found : value.truncate? = some whole) :
    wholePart value = .ok whole := by
  cases value with
  | finite => simp only [wholePart, found]
  | infinite => cases found
  | nan => cases found

namespace Driver

section Lifetime

variable {clock : Clock} {instant : Instant} {now : ℚ} (proper : clock.reading.IsProper)
  (reads : clock.reading.toRat? = some now) (dated : instant.IsInCalendar)
  (exact : instant.timestamp.toRat? = some instant.seconds) (later : now < instant.seconds)

include proper reads dated in
/-- The time until an instant of the calendar is not too great for the format. -/
theorem add_lt_of_isInCalendar : instant.seconds - now + 2 ^ 970 < 2 ^ 1024 := by
  have bounded := proper.abs_add_le reads
  rw [show (2 : ℚ) ^ 971 = 2 * 2 ^ 970 from pow_succ' 2 970] at bounded
  have small : (2 : ℚ) ^ 38 < 2 ^ 970 := pow_lt_pow_right₀ one_lt_two (by decide)
  have near := dated.seconds_le
  have back := neg_abs_le now
  generalize (2 : ℚ) ^ 970 = half at *
  generalize (2 : ℚ) ^ 1024 = limit at *
  linarith

include proper reads dated exact later in
/-- The whole seconds until a later instant are those of the rounded difference. -/
theorem secondsUntil_eq : ∃ whole, (Binary64.ofRat (instant.seconds - now)).truncate? = some whole ∧
    clock.secondsUntil instant = .ok whole := by
  obtain ⟨significand, exponent, -, found⟩ :=
    Binary64.exists_toRat?_ofRat (sub_pos.mpr later) (add_lt_of_isInCalendar proper reads dated)
  have truncated := Binary64.truncate?_of_toRat? found (by positivity)
  refine ⟨_, truncated, ?_⟩
  rw [Clock.secondsUntil, Binary64.minus_of_toRat? exact reads, Failure.wholePart_of_truncate? truncated]

include proper reads dated exact later in
/-- The lifetime until a later instant is no longer than the time until then exactly if this has a whole second and is
not rounded up to a whole number. -/
theorem exists_lifetime {driver : Driver} (positive : 0 < driver.defaultExpiry) :
    ∃ lifetime, driver.lifetime clock (some instant) = .ok lifetime ∧
      ((lifetime : ℚ) ≤ instant.seconds - now ↔
        1 ≤ instant.seconds - now ∧ ¬Binary64.RoundsUpToWhole (instant.seconds - now)) := by
  obtain ⟨whole, truncated, remaining⟩ := secondsUntil_eq proper reads dated exact later
  refine ⟨if 0 < whole then whole else driver.defaultExpiry, ?_, ?_⟩
  · rw [lifetime, remaining]
    rfl
  by_cases one : 1 ≤ instant.seconds - now
  · obtain ⟨same, found, filled, kept⟩ :=
      Binary64.exists_truncate?_ofRat one (add_lt_of_isInCalendar proper reads dated)
    obtain rfl := Option.some.inj (truncated.symm.trans found)
    rw [if_pos (Int.lt_of_lt_of_le Int.one_pos filled), kept, and_iff_right one]
  · have longer : 1 ≤ if 0 < whole then whole else driver.defaultExpiry := by split <;> omega
    have longer : (1 : ℚ) ≤ (if 0 < whole then whole else driver.defaultExpiry : Int) := by exact_mod_cast longer
    exact iff_of_false (fun le => one (longer.trans le)) fun both => one both.1

end Lifetime

section Signed

variable {σ : Type} (answer : (call : Call) → σ → Except Failure call.Reply × σ) (driver : Driver)
  (workspace : Workspace σ) (clock : Clock) {path : String}

/-- A URL for a path is asked of the store with the lifetime until its expiry, and nothing else is. -/
theorem calls_urlFor (valid : Path.isValid path = true) {expiry : Option Instant} {lifetime : Int}
    (lives : driver.lifetime clock expiry = .ok lifetime) :
    (Workspace.run answer (driver.urlFor clock path { expiry }) workspace).2.calls =
      workspace.calls ++ [.sign (driver.root.keyFor path) lifetime] := by
  have run : (Workspace.run answer (driver.urlFor clock path { expiry }) workspace).2 =
      (Workspace.perform answer (.store (.sign (driver.root.keyFor path) lifetime)) workspace).2 := by
    rw [urlFor, checkPath_of_isValid valid, pure_bind, lives]
    rfl
  rw [run, Workspace.calls, Workspace.calls, Workspace.perform, Workspace.note, List.filterMap_append]
  rfl

/-- A URL until a later expiry asks the store for a lifetime. It is no longer than the time until then exactly if this
has a whole second and is not rounded up to a whole number; it never is where the expiry is at most twice the reading of
the clock. A URL signed at that reading for such a lifetime has a deadline no later than the expiry. -/
theorem urlFor_ends_by_expiry_iff {instant : Instant} {now : ℚ} (valid : Path.isValid path = true)
    (positive : 0 < driver.defaultExpiry) (proper : clock.reading.IsProper) (reads : clock.reading.toRat? = some now)
    (dated : instant.IsInCalendar) (exact : instant.timestamp.toRat? = some instant.seconds)
    (later : now < instant.seconds) :
    ∃ lifetime : Int,
      (Workspace.run answer (driver.urlFor clock path { expiry := some instant }) workspace).2.calls =
        workspace.calls ++ [.sign (driver.root.keyFor path) lifetime] ∧
      ((lifetime : ℚ) ≤ instant.seconds - now ↔
        1 ≤ instant.seconds - now ∧ ¬Binary64.RoundsUpToWhole (instant.seconds - now)) ∧
      (instant.seconds ≤ 2 * now → ¬Binary64.RoundsUpToWhole (instant.seconds - now)) ∧
      (0 ≤ now → (lifetime : ℚ) ≤ instant.seconds - now →
        ∃ second, clock.seconds = .ok second ∧ (second : ℚ) + lifetime ≤ instant.seconds) := by
  obtain ⟨lifetime, lives, bounded⟩ := exists_lifetime proper reads dated exact later positive
  refine ⟨lifetime, calls_urlFor answer driver workspace clock valid lives, bounded, ?_, ?_⟩
  · rintro near ⟨whole, beyond, rounded⟩
    have instantProper : instant.timestamp.IsProper := instant.timestamp_eq ▸ Binary64.isProper_ofRat _
    obtain ⟨count, power, few, least, multiple⟩ := instantProper.exists_sub proper exact reads later.le near
    have stays := Binary64.toRat?_ofRat_of_exact (sub_pos.mpr later) few least
      (add_lt_of_isInCalendar proper reads dated) multiple
    rw [stays] at rounded
    exact beyond.ne (Option.some.inj rounded)
  · intro natural within
    refine ⟨_, Failure.wholePart_of_truncate? (Binary64.truncate?_of_toRat? reads natural), ?_⟩
    have floored := Int.floor_le now
    linarith

end Signed

/-- A URL that is asked for from half a second after a whole one until three quarters after the next minute lives no
longer than until then. -/
theorem urlFor_ends_within_minute :
    let clock : Clock := ⟨.ofRat (1700000000 + 1 / 2)⟩
    ∃ lifetime : Int,
      (Workspace.run (Store.answer clock)
        (urlFor ⟨.ofDirectory "/reg/", 10, 3600, .standard⟩ clock "/a" { expiry := some ⟨1700000060750000⟩ })
        { store := { bucket := .sample } }).2.calls = [.sign "reg/a" lifetime] ∧
      (lifetime : ℚ) ≤ 60 + 1 / 4 ∧
      ∃ second, clock.seconds = .ok second ∧ (second : ℚ) + lifetime ≤ 1700000060 + 3 / 4 := by
  intro clock
  have key : (⟨.ofDirectory "/reg/", 10, 3600, .standard⟩ : Driver).root.keyFor "/a" = "reg/a" := by decide
  have expiry : (⟨1700000060750000⟩ : Instant).seconds = 1700000060 + 3 / 4 := by decide +kernel
  obtain ⟨lifetime, asked, bounded, exact, ends⟩ := urlFor_ends_by_expiry_iff (Store.answer clock)
    ⟨.ofDirectory "/reg/", 10, 3600, .standard⟩ { store := { bucket := .sample } } clock
    (by decide : Path.isValid "/a" = true) (by decide) (Binary64.isProper_ofRat _)
    (by decide +kernel : clock.reading.toRat? = some (1700000000 + 1 / 2))
    (⟨by decide, by decide⟩ : Instant.IsInCalendar ⟨1700000060750000⟩) (by decide +kernel) (by decide +kernel)
  rw [expiry] at bounded exact ends
  have within := bounded.mpr ⟨by norm_num, exact (by norm_num)⟩
  rw [key] at asked
  exact ⟨lifetime, asked, by linarith, ends (by norm_num) within⟩

/-- A URL until half a second after the reading of the clock lives for the time of all URLs without an expiry. -/
theorem urlFor_outlives_next_half_second :
    let clock : Clock := ⟨.ofInt 1700000000⟩
    let instant : Instant := ⟨1700000000500000⟩
    clock.reading.toRat? = some 1700000000 ∧ instant.timestamp.toRat? = some instant.seconds ∧
      1700000000 < instant.seconds ∧
      (Workspace.run (Store.answer clock)
        (urlFor ⟨.ofDirectory "", 10, 3600, .standard⟩ clock "/a" { expiry := some instant })
        { store := { bucket := .sample } }).2.calls = [.sign "a" 3600] ∧
      ¬(3600 : ℚ) ≤ instant.seconds - 1700000000 := by
  intro clock instant
  have key : (⟨.ofDirectory "", 10, 3600, .standard⟩ : Driver).root.keyFor "/a" = "a" := by decide
  have lives : (⟨.ofDirectory "", 10, 3600, .standard⟩ : Driver).lifetime clock (some instant) = .ok 3600 :=
    Outcome.toOption_eq_some_iff.mp (by decide +kernel)
  have asked := calls_urlFor (Store.answer clock) _ { store := { bucket := .sample } } clock
    (by decide : Path.isValid "/a" = true) lives
  rw [key] at asked
  exact ⟨by decide +kernel, by decide +kernel, by decide +kernel, asked, by decide +kernel⟩

end Driver
end PathStore
