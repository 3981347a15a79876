import LeakScan.Proofs.Session.Registry
import LeakScan.Service.Basic

/-!
# Runs of a service

Requests come in, jobs are run, questions are asked, sessions are counted and time goes on, in any
order. Each of these is a step (`Timed.step`): it changes the service and has an answer. A run is
some steps, one after another; what those who use the service see of it are its answers.
-/

namespace LeakScan.Service
set_option autoImplicit false

/-- What may be asked about a session. -/
inductive Question where
  | progress
  | report
  | session
  | done
  | exported (format : String)

/-- What is told of a session. -/
inductive Told (T : Type) where
  | progress (p : Progress)
  | report (r : Report)
  | session (s : Session T)
  | done (ended : Bool)
  | exported (text : Except Export.UnknownFormat String)

/-- Something that is done with a service, or with the clock, which does not go back. -/
inductive Step (T : Type) [ExactTime T] where
  | start (request : ScanRequest)
  | run (index : Nat)
  | ask (id : String) (question : Question)
  | count
  | pass (elapsed : T) (onward : 0 ≤ elapsed)

/-- What comes of a step. -/
inductive Answer (T : Type) where
  | started (outcome : Except StartFault String)
  | ran (trace : Trace)
  | told (reply : Except NotFound (Told T))
  | counted (held : Nat)
  | passed

/-- A service and the time that the clock shows. -/
structure Timed (T : Type) where
  service : Service T
  now : T

variable {T : Type}

/-- What a question is told of a session. -/
def Question.tell (s : Session T) : Question → Told T
  | progress => .progress s.showProgress
  | report => .report s.report
  | session => .session s
  | done => .done s.isTerminal
  | exported format => .exported (Export.named s.results format)

/-- Answers a question about the session of an identifier. -/
def answer [Time T] (s : Service T) (now : T) (id : String) :
    Question → Service T × Except NotFound (Told T)
  | .progress =>
    let (s, found) := s.progress now id
    (s, found.map .progress)
  | .report =>
    let (s, found) := s.report now id
    (s, found.map .report)
  | .session =>
    let (s, found) := s.session now id
    (s, found.map .session)
  | .done =>
    let (s, found) := s.isDone now id
    (s, found.map .done)
  | .exported format =>
    let (s, found) := s.exported now id format
    (s, found.map .exported)

/-- Every question is a look-up, and what it is told is told of the session found. -/
theorem answer_eq [Time T] (s : Service T) (now : T) (id : String) (question : Question) :
    s.answer now id question =
      ({ s with registry := s.registry.purge s.sessions now },
        (s.registry.get s.sessions now id).2.map question.tell) := by
  have looked : (s.registry.get s.sessions now id).1 = s.registry.purge s.sessions now :=
    Registry.get_fst
  cases found : (s.registry.get s.sessions now id).2 <;> cases question <;>
    simp [answer, progress, report, isDone, exported, ask, session, looked, found, Except.map,
      Question.tell]

namespace Timed

variable [ExactTime T]

/-- What a step does, where jobs ask `host` and list no more than `listings` directories. -/
def step (host : Host) (listings : Nat) (w : Timed T) : Step T → Timed T × Answer T
  | .start request =>
    match w.service.start w.now request with
    | .ok (s, id) => ({ w with service := s }, .started (.ok id))
    | .error e => (w, .started (.error e))
  | .run index =>
    let (s, trace) := w.service.run host w.now listings index
    ({ w with service := s }, .ran trace)
  | .ask id question =>
    let (s, reply) := w.service.answer w.now id question
    ({ w with service := s }, .told reply)
  | .count => (w, .counted w.service.registry.size)
  | .pass elapsed _ => ({ w with now := w.now + elapsed }, .passed)

/-- What some steps do, one after another. -/
def run (host : Host) (listings : Nat) (w : Timed T) (steps : List (Step T)) : Timed T :=
  steps.foldl (fun w e => (w.step host listings e).1) w

/-- The answers to some steps, one after another. -/
def answers (host : Host) (listings : Nat) (w : Timed T) : List (Step T) → List (Answer T)
  | [] => []
  | e :: steps =>
    let (w, a) := w.step host listings e
    a :: w.answers host listings steps

end Timed
end LeakScan.Service
