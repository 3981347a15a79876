import Mathlib.Algebra.Order.Ring.Rat
import LeakScan.Proofs.Session.Run
import LeakScan.Session.Registry

/-!
# The lifetime of a session

Where times are exact numbers, a session is live unless it has ended longer ago than the time to
live, and to be live is not to have expired (`Session.expired_eq_false_iff`). A session that has
expired stays so: time goes on, and no event touches the time at which a session has ended.
-/

namespace LeakScan
set_option autoImplicit false

/-- Times that are exact numbers: an order that sums and differences keep. -/
class ExactTime (T : Type) extends AddCommGroup T, LinearOrder T, IsOrderedAddMonoid T where
  /-- A time in whole milliseconds. -/
  wholeMillis : T → Except Double.WholeFault Int

variable {T : Type}

instance ExactTime.instTime [ExactTime T] : Time T where
  sub := fun a b => a - b
  lt := fun a b => a < b
  zero := 0
  decideLt := fun a b => inferInstanceAs (Decidable (a < b))
  millis := ExactTime.wholeMillis

/-- Rational seconds. -/
instance : ExactTime Rat where
  wholeMillis t := .ok ((t * 1000).num.tdiv (t * 1000).den)

namespace Session

theorem isSome_finishedAt (s : Session T) : s.finishedAt.isSome = s.isTerminal := by
  obtain ⟨id, kind, source, phase⟩ := s
  cases phase <;> rfl

variable [ExactTime T] {s : Session T} {ttl now later : T}

/-- A session can be seen at a time: it is kept for ever, has not ended, or has ended within the
time to live. -/
def Live (s : Session T) (ttl now : T) : Prop :=
  ttl ≤ 0 ∨ s.finishedAt = none ∨ ∃ t, s.finishedAt = some t ∧ now - ttl ≤ t

theorem expired_iff :
    s.expired ttl now = true ↔ 0 < ttl ∧ ∃ t, s.finishedAt = some t ∧ t < now - ttl := by
  unfold expired
  cases s.finishedAt with
  | none => simp
  | some t =>
    simp only [Bool.and_eq_true, decide_eq_true_eq, Option.some.injEq, exists_eq_left']
    exact Iff.rfl

theorem expired_eq_false_iff : s.expired ttl now = false ↔ s.Live ttl now := by
  rw [← Bool.not_eq_true, expired_iff, not_and_or, not_lt, Live]
  refine or_congr_right ?_
  cases s.finishedAt with
  | none => simp
  | some t => simp

instance : Decidable (s.Live ttl now) :=
  decidable_of_iff (s.expired ttl now = false) expired_eq_false_iff

theorem live_of_unfinished (unfinished : s.isTerminal = false) : s.Live ttl now := by
  rw [← isSome_finishedAt, Option.isSome_eq_false_iff, Option.isNone_iff_eq_none] at unfinished
  exact Or.inr (Or.inl unfinished)

/-- What has expired stays expired as time goes on. -/
theorem expired_mono (onward : now ≤ later) (expired : s.expired ttl now = true) :
    s.expired ttl later = true := by
  obtain ⟨positive, t, finished, past⟩ := expired_iff.mp expired
  exact expired_iff.mpr ⟨positive, t, finished, past.trans_le (sub_le_sub_right onward ttl)⟩

end Session

namespace Session

variable {s : Session T}

/-- A session after an event. -/
def after (s : Session T) (now : T) (e : Event T) : Session T := (Timed.step ⟨s, now⟩ e).session

theorem id_after (s : Session T) (now : T) (e : Event T) : (s.after now e).id = s.id := by
  obtain ⟨id, kind, source, phase⟩ := s
  cases e <;> cases phase <;> rfl

/-- Once a session has ended, no event changes it. -/
theorem after_of_terminal (ended : s.isTerminal = true) (now : T) (e : Event T) :
    s.after now e = s := by
  obtain ⟨id, kind, source, phase⟩ := s
  cases phase with
  | pending => cases ended
  | running progress status file => cases ended
  | complete results totalFiles finishedAt => cases e <;> rfl
  | failed reason finishedAt => cases e <;> rfl

/-- No event brings back a session that has expired. -/
theorem expired_after [ExactTime T] {ttl now : T} (expired : s.expired ttl now = true)
    (e : Event T) : (s.after now e).expired ttl now = true := by
  obtain ⟨-, t, finished, -⟩ := expired_iff.mp expired
  have ended : s.isTerminal = true := by rw [← isSome_finishedAt, finished, Option.isSome_some]
  rw [after_of_terminal ended]
  exact expired

end Session
end LeakScan
