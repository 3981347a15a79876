import LeakScan.Proofs.Service.Job
import LeakScan.Proofs.Service.Run

/-!
# Questions change no other answer

A question drops expired sessions from the registry and leaves the rest of a service alone. So two
runs that differ by some questions go through services whose registries differ, but only in sessions
that have expired (`Registry.Alike`), and these are dropped before anything is looked up. Every step
keeps them alike and has the same answer in both, but for the number of sessions held
(`Timed.alike_step`).
-/

namespace LeakScan
set_option autoImplicit false

variable {T : Type}

namespace Registry

variable [ExactTime T] {r r' : Registry T} {sessions others : Sessions T} {now later : T}

/-- A later purge drops what an earlier one has dropped. -/
theorem purge_purge (onward : now ≤ later) :
    (r.purge sessions now).purge sessions later = r.purge sessions later := by
  simp only [purge, List.filter_filter]
  congr 1
  apply List.filter_congr
  intro id _
  cases sessions.get? id with
  | none => rfl
  | some s =>
    cases expired : s.expired r.ttl now with
    | false => simp [expired]
    | true => simp [expired, Session.expired_mono onward expired]

/-- What happens to a session now drops no member and saves none. -/
theorem purge_modify {f : Session T → Session T} (keeps : ∀ s, (f s).id = s.id)
    (ends : ∀ s, (f s).finishedAt = s.finishedAt ∨
      s.finishedAt = none ∧ (f s).finishedAt = some now) (other : String) :
    r.purge (sessions.modify other f) now = r.purge sessions now := by
  apply purge_congr
  intro id
  have same (s : Session T) : (f s).expired r.ttl now = s.expired r.ttl now := by
    rcases ends s with same | ⟨unfinished, finished⟩
    · rw [Session.expired, same, Session.expired]
    · have going : s.expired r.ttl now = false := by rw [Session.expired, unfinished]
      rw [going, Session.expired_eq_false_iff, Session.Live, finished]
      rcases le_or_gt r.ttl 0 with forever | positive
      · exact Or.inl forever
      · exact Or.inr (Or.inr ⟨now, rfl, sub_le_self now positive.le⟩)
  rw [Sessions.get?_modify keeps]
  cases sessions.get? id with
  | none => rfl
  | some s =>
    simp only [Option.map_some, Option.any_some]
    split <;> simp [same]

/-- Two registries of the same sessions differ only in what has expired, and the second holds no
more than the first. -/
structure Alike (sessions : Sessions T) (now : T) (r r' : Registry T) : Prop where
  purged : r.purge sessions now = r'.purge sessions now
  fewer : r'.members.Sublist r.members

namespace Alike

theorem refl (sessions : Sessions T) (now : T) (r : Registry T) : Alike sessions now r r :=
  ⟨rfl, List.Sublist.refl _⟩

theorem purge (alike : Alike sessions now r r') : Alike sessions now r (r'.purge sessions now) :=
  ⟨alike.purged.trans (purge_purge le_rfl).symm, List.filter_sublist.trans alike.fewer⟩

theorem add (alike : Alike sessions now r r') (id : String) :
    r.add sessions now id = r'.add sessions now id := by
  simp only [Registry.add, alike.purged]

theorem get (alike : Alike sessions now r r') (id : String) :
    r.get sessions now id = r'.get sessions now id := by
  simp only [Registry.get, alike.purged]

theorem mono (alike : Alike sessions now r r') (onward : now ≤ later) :
    Alike sessions later r r' where
  purged := by rw [← purge_purge onward, alike.purged, purge_purge onward]
  fewer := alike.fewer

/-- Registries stay alike as long as the sessions change in a way that drops no member. -/
theorem of_purge_eq (alike : Alike sessions now r r')
    (same : ∀ r : Registry T, r.purge others now = r.purge sessions now) :
    Alike others now r r' where
  purged := by rw [same, alike.purged, same]
  fewer := alike.fewer

end Alike

end Registry

namespace Service

/-- Two answers are the same, or the second counts no more sessions than the first. -/
inductive Answer.Agrees : Answer T → Answer T → Prop where
  | same (a : Answer T) : Agrees a a
  | fewer {held held' : Nat} (le : held' ≤ held) : Agrees (.counted held) (.counted held')

namespace Timed

variable [ExactTime T]

/-- Two services are the same at the same time, but for what has expired in their registries. -/
inductive Alike : Timed T → Timed T → Prop where
  | intro {s : Service T} {now : T} {r : Registry T}
      (registry : Registry.Alike s.sessions now s.registry r) :
      Alike ⟨s, now⟩ ⟨{ s with registry := r }, now⟩

theorem Alike.refl (w : Timed T) : Alike w w := .intro (Registry.Alike.refl _ _ _)

variable {host : Host} {listings : Nat} {w w' : Timed T}

/-- Every step keeps services alike and has the same answer in both. -/
theorem alike_step (alike : Alike w w') (e : Step T) :
    Alike (w.step host listings e).1 (w'.step host listings e).1 ∧
      (w.step host listings e).2.Agrees (w'.step host listings e).2 := by
  obtain ⟨registry⟩ := alike
  rename_i s now r
  cases e with
  | start request =>
    simp only [step, start, nextId]
    cases Task.ofRequest s.limit request with
    | error e => exact ⟨.intro registry, .same _⟩
    | ok task =>
      cases Time.millis now with
      | error e => exact ⟨.intro registry, .same _⟩
      | ok millis =>
        refine ⟨?_, .same _⟩
        have grown (id : String) := registry.of_purge_eq fun r : Registry T =>
          Registry.purge_append (r := r) (s := .create id task.kind task.source) rfl
        simp only [Except.map, enqueue, (grown _).add]
        exact Alike.refl _
  | run index =>
    have dropped (id : String) (c : Course) (r : Registry T) :
        r.purge (s.sessions.modify id fun s => s.follow now c) now = r.purge s.sessions now :=
      Registry.purge_modify (fun s => Session.id_follow s now c)
        (fun s => Session.finishedAt_follow s now c) id
    simp only [step, Service.run]
    cases s.queue[index]? with
    | none => exact ⟨.intro registry, .same _⟩
    | some job =>
      simp only [runJob]
      cases s.sessions.get? job.session with
      | none => exact ⟨.intro registry, .same _⟩
      | some session => exact ⟨.intro (registry.of_purge_eq (dropped job.session _)), .same _⟩
  | ask id question =>
    simp only [step, answer_eq, registry.get, registry.purged]
    exact ⟨Alike.refl _, .same _⟩
  | count => exact ⟨.intro registry, .fewer registry.fewer.length_le⟩
  | pass elapsed onward =>
    exact ⟨.intro (registry.mono (le_add_of_nonneg_right onward)), .same _⟩

/-- A question in the second service alone keeps the services alike. -/
theorem alike_ask (alike : Alike w w') (id : String) (question : Question) :
    Alike w (w'.step host listings (.ask id question)).1 := by
  obtain ⟨registry⟩ := alike
  simp only [step, answer_eq]
  exact .intro registry.purge

end Timed

/-- A step of a run, or a question that is put in between. -/
inductive Item (T : Type) [ExactTime T] where
  | own (e : Step T)
  | further (id : String) (question : Question)

section

variable [ExactTime T]

/-- The steps of a run without the questions put in between. -/
def own (items : List (Item T)) : List (Step T) :=
  items.filterMap fun
    | .own e => some e
    | .further .. => none

/-- The answers to the steps of a run, where questions are put in between. -/
def Timed.ownAnswers (host : Host) (listings : Nat) (w : Timed T) :
    List (Item T) → List (Answer T)
  | [] => []
  | .own e :: items =>
    let (w, a) := w.step host listings e
    a :: w.ownAnswers host listings items
  | .further id question :: items =>
    (w.step host listings (.ask id question)).1.ownAnswers host listings items

theorem Timed.ownAnswers_agree {host : Host} {listings : Nat} {w w' : Timed T}
    (alike : Alike w w') (items : List (Item T)) :
    List.Forall₂ Answer.Agrees (w.answers host listings (own items))
      (w'.ownAnswers host listings items) := by
  induction items generalizing w w' with
  | nil => exact .nil
  | cons item items ih =>
    cases item with
    | own e =>
      obtain ⟨alike, agrees⟩ := alike_step alike e
      exact .cons agrees (ih alike)
    | further id question => exact ih (alike_ask alike id question)

/-- **Questions change no other answer.** Whatever is done with a service, and however long it
takes, further questions about any identifiers may be put at any places: what else is done has the
same answers. Only the number of sessions held may be less. -/
theorem answers_undisturbed (host : Host) (listings : Nat) (w : Timed T) (items : List (Item T)) :
    List.Forall₂ Answer.Agrees (w.answers host listings (own items))
      (w.ownAnswers host listings items) :=
  Timed.ownAnswers_agree (Timed.Alike.refl w) items

end

end Service
end LeakScan
