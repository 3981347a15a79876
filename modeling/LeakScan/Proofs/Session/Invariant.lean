import LeakScan.Proofs.Session.Run

/-!
# What a session shows at any time

The fields of a session agree with each other in every state that events lead to (`View.Sound`):
whether it has ended is told alike by its state, its progress, its finishing time and an answer to
one who asks; until then progress is from 0 to 99; results and statistics belong to a complete
session only, and the statistics count the results. Each operation keeps this, so every run does.
-/

namespace LeakScan
set_option autoImplicit false

namespace Stats

/-- The number of leaks of a severity. -/
def leaks (s : Stats) : Severity → Nat
  | .critical => s.critical
  | .high => s.high
  | .medium => s.medium
  | .low => s.low

theorem leaks_ofResults (results : List Result) (totalFiles : Int) (severity : Severity) :
    (ofResults results totalFiles).leaks severity =
      results.countP (·.severity = severity) := by
  cases severity <;> rfl

/-- Every result has one of the four severities. -/
theorem length_eq_countP (results : List Result) :
    results.length = results.countP (·.severity = .critical) +
      results.countP (·.severity = .high) + results.countP (·.severity = .medium) +
      results.countP (·.severity = .low) := by
  induction results with
  | nil => rfl
  | cons r results ih =>
    simp only [List.length_cons, List.countP_cons, ih]
    cases r.severity <;> simp <;> omega

end Stats

namespace Session

variable {T : Type}

/-- A session has ended: it is complete or failed. -/
def View.Ended (v : View T) : Prop := v.state = .complete ∨ v.state = .failed

/-- The fields of a session agree. -/
structure View.Sound (v : View T) : Prop where
  ended_iff_hundred : v.Ended ↔ v.progress = 100
  ended_iff_finished : v.Ended ↔ v.finishedAt.isSome = true
  ended_iff_done : v.Ended ↔ v.done = true
  range : ¬ v.Ended → 0 ≤ v.progress ∧ v.progress ≤ 99
  noFile : v.Ended → v.file = .null
  results : v.results ≠ [] → v.state = .complete
  total : v.stats.totalLeaks = v.results.length
  sum : v.stats.totalLeaks = v.stats.critical + v.stats.high + v.stats.medium + v.stats.low
  counts : ∀ severity, v.stats.leaks severity = v.results.countP (·.severity = severity)
  idle : v.state ≠ .complete → v.stats = .none

namespace View

variable {v : View T}

theorem ended_iff_isTerminal : v.Ended ↔ v.state.isTerminal = true := by
  unfold Ended
  cases v.state <;> simp [ScanState.isTerminal]

/-- Before the end there are no results and no statistics. -/
theorem Sound.going (sound : v.Sound) (going : ¬ v.Ended) :
    v.results = [] ∧ v.stats = .none ∧ v.finishedAt = none ∧ v.done = false := by
  have notComplete : v.state ≠ .complete := fun complete => going (Or.inl complete)
  refine ⟨?_, sound.idle notComplete, ?_, ?_⟩
  · exact Decidable.byContradiction fun some => notComplete (sound.results some)
  · have unfinished := mt sound.ended_iff_finished.mpr going
    simpa using unfinished
  · have waits := mt sound.ended_iff_done.mpr going
    simpa using waits

/-- A session that goes on is sound if its progress is in range and nothing else is set. -/
theorem sound_of_going (going : ¬ v.Ended) (range : 0 ≤ v.progress ∧ v.progress ≤ 99)
    (unset : v.results = [] ∧ v.stats = .none ∧ v.finishedAt = none ∧ v.done = false) :
    v.Sound := by
  obtain ⟨results, stats, unfinished, waits⟩ := unset
  constructor
  · exact ⟨fun ended => absurd ended going, fun hundred => by omega⟩
  · simp [going, unfinished]
  · simp [going, waits]
  · exact fun _ => range
  · exact fun ended => absurd ended going
  · exact fun some => absurd results some
  · simp [results, stats, Stats.none]
  · simp [stats, Stats.none]
  · intro severity
    rw [results, stats]
    cases severity <;> rfl
  · exact fun _ => stats

/-- A session that ends is sound if its statistics count its results and a failed one has none. -/
theorem sound_finish {now : T} {state : ScanState} {status : String}
    (ended : state = .complete ∨ state = .failed) (totalFiles : Int)
    (counted : v.stats = .ofResults v.results totalFiles)
    (failed : state ≠ .complete → v.results = [] ∧ totalFiles = 0) :
    (v.finish now state status).Sound := by
  constructor
  · simp [Ended, finish, ended]
  · simp [Ended, finish, ended]
  · simp [Ended, finish, ended]
  · exact fun going => absurd ended going
  · exact fun _ => rfl
  · intro some
    exact Decidable.byContradiction fun other => some (failed other).1
  · simp [finish, counted, Stats.ofResults]
  · simp only [finish, counted, Stats.ofResults]
    exact Stats.length_eq_countP v.results
  · intro severity
    simp only [finish, counted]
    exact Stats.leaks_ofResults v.results totalFiles severity
  · intro other
    obtain ⟨results, noFiles⟩ := failed other
    simp only [finish, counted, results, noFiles]
    rfl

end View

open View

theorem sound_create (id kind source : String) :
    (create id kind source : Session T).view.Sound := by
  rw [view_create]
  exact sound_of_going (by simp [Ended]) (by simp) (by simp)

variable {s : Session T}

theorem sound_advance (sound : s.view.Sound) (progress : Int) (status : String) (file : Json) :
    (s.advance progress status file).view.Sound := by
  rw [view_advance]
  split
  · exact sound
  · rename_i going
    rw [← ended_iff_isTerminal] at going
    obtain ⟨low, high⟩ := sound.range going
    exact sound_of_going (by simp [Ended]) ⟨by simp only; omega, by simp only; omega⟩
      (sound.going going)

theorem sound_complete (sound : s.view.Sound) (now : T) (results : List Result)
    (totalFiles : Int) : (s.complete now results totalFiles).view.Sound := by
  rw [view_complete]
  split
  · exact sound
  · exact sound_finish (Or.inl rfl) totalFiles rfl fun other => absurd rfl other

theorem sound_fail (sound : s.view.Sound) (now : T) (reason : String) :
    (s.fail now reason).view.Sound := by
  rw [view_fail]
  split
  · exact sound
  · exact sound_finish (Or.inr rfl) 0 rfl fun _ => ⟨rfl, rfl⟩

/-- Every event keeps a session sound. -/
theorem sound_step {t : Timed T} (sound : t.session.view.Sound) (e : Event T) :
    (t.step e).session.view.Sound := by
  cases e with
  | advance progress status file => exact sound_advance sound progress status file
  | complete results totalFiles => exact sound_complete sound t.now results totalFiles
  | fail reason => exact sound_fail sound t.now reason
  | clock now => exact sound

theorem sound_run {t : Timed T} (sound : t.session.view.Sound) (events : List (Event T)) :
    (t.run events).session.view.Sound := by
  induction events generalizing t with
  | nil => exact sound
  | cons e events ih => exact ih (sound_step sound e)

/-- **A session is sound after every run**, and its report says that it did not succeed exactly if
it has failed. -/
theorem view_run_sound (id kind source : String) (start : T) (events : List (Event T)) :
    let s := (Timed.run ⟨create id kind source, start⟩ events).session
    s.view.Sound ∧ (s.report.success = false ↔ s.view.state = .failed) := by
  intro s
  refine ⟨sound_run (sound_create id kind source) events, ?_⟩
  simp only [report, view]
  cases s.state <;> decide

end Session
end LeakScan
