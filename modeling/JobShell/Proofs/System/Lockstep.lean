import JobShell.Builtin.Run
import JobShell.Proofs.System.Outcome

/-!
# Runs in lockstep

Two sessions that differ in nothing but their histories.  Two activities run in
lockstep when they make the same calls, whatever the replies are: only where one
of them lists its history the other one lists its own, and the children that
they make may differ in the histories that they have been given.
-/

namespace JobShell

def Session.withHistory (session : Session) (history : History) : Session :=
  { session with history }

/-- The sessions have related histories, and everything else in common. -/
structure Session.Agrees (related : History → History → Prop)
    (session twin : Session) : Prop where
  histories : related session.history twin.history
  rest : twin = session.withHistory twin.history

/-- The children do the same for sessions that agree. -/
inductive Task.Alike (related : History → History → Prop) :
    Task → Task → Prop where
  | stage {session twin : Session} (agree : session.Agrees related twin)
      (command : Command) (launch : Option Launch) (wiring : Wiring)
      (group : Option Pid) (background : Bool) :
      Alike related (.stage session command launch wiring group background)
        (.stage twin command launch wiring group background)
  | subshell {session twin : Session} (agree : session.Agrees related twin)
      (sequence : Sequence) :
        Alike related (.subshell session sequence) (.subshell twin sequence)

namespace Activity

/-- Writes lines in turn, up to one that does not arrive. -/
def listing (out : Descriptor) : List String → Activity (Except Failure PUnit)
  | [] => pure (.ok ⟨⟩)
  | line :: rest => do
    match ← writeText out (line ++ "\n") with
    | .ok () => listing out rest
    | .error errno => pure (.error (.file (.system errno)))

/-- The activities run in lockstep, and where both have come to a result the
results agree. -/
inductive Lockstep (related : History → History → Prop) {α β : Type}
    (agree : α → β → Prop) : Activity α → Activity β → Prop where
  | ret {value : α} {other : β} (agrees : agree value other) :
      Lockstep related agree (.ret value) (.ret other)
  | call {call : Call} {next : call.Reply → Activity α}
      {other : call.Reply → Activity β}
      (goOn : ∀ reply, Lockstep related agree (next reply) (other reply)) :
      Lockstep related agree (.call call next) (.call call other)
  | fork {task twin : Task} {next : Except Errno Pid → Activity α}
      {other : Except Errno Pid → Activity β} (alike : task.Alike related twin)
      (goOn : ∀ reply, Lockstep related agree (next reply) (other reply)) :
      Lockstep related agree (.call (.fork task) next)
        (.call (.fork twin) other)
  | listing {history twin : History} {next : Except Failure PUnit → Activity α}
      {other : Except Failure PUnit → Activity β} (out : Descriptor)
      (histories : related history twin)
      (goOn : ∀ outcome,
        Lockstep related agree (next outcome) (other outcome)) :
      Lockstep related agree
        (listing out (Builtin.historyLines history.entries) >>= next)
        (listing out (Builtin.historyLines twin.entries) >>= other)

namespace Lockstep

variable {related : History → History → Prop} {α β γ δ : Type}

theorem refl {agree : α → α → Prop} (reflexive : ∀ value, agree value value)
    (activity : Activity α) : Lockstep related agree activity activity := by
  induction activity with
  | ret value => exact .ret (reflexive value)
  | call call next induction => exact .call induction

theorem bind {agree : α → β → Prop} {final : γ → δ → Prop} {first : Activity α}
    {second : Activity β} {next : α → Activity γ} {other : β → Activity δ}
    (lockstep : Lockstep related agree first second)
    (goOn : ∀ value twin, agree value twin →
      Lockstep related final (next value) (other twin)) :
    Lockstep related final (first >>= next) (second >>= other) := by
  induction lockstep with
  | ret agrees => exact goOn _ _ agrees
  | call _ induction => exact .call induction
  | fork alike _ induction => exact .fork alike induction
  | listing out histories _ induction =>
      -- the list stays in front, and what comes behind it grows
      rw [bind_assoc, bind_assoc]
      exact .listing out histories induction

theorem after {final : γ → δ → Prop} (first : Activity α)
    {next : α → Activity γ} {other : α → Activity δ}
    (goOn : ∀ value, Lockstep related final (next value) (other value)) :
    Lockstep related final (first >>= next) (first >>= other) := by
  have same : Lockstep related Eq first first := .refl (fun _ => rfl) first
  refine same.bind ?_
  rintro value _ rfl
  exact goOn value

/-- Whatever the replies are, the first of the two comes to a value that agrees
with some value. -/
theorem ensures {agree : α → β → Prop} {first : Activity α}
    {second : Activity β} (lockstep : Lockstep related agree first second) :
    first.Ensures fun value => ∃ other, agree value other := by
  induction lockstep with
  | ret agrees => exact .ret ⟨_, agrees⟩
  | call _ induction => exact .call induction
  | fork _ _ induction => exact .call induction
  | listing out _ _ induction =>
      exact .bind (.trivial _) fun outcome _ => induction outcome

end Lockstep

end Activity

namespace Shell

open Activity

variable {related : History → History → Prop} {α β : Type}

/-- The ends of two runs of an action: the same outcome, and sessions that
agree. -/
structure EndsAlike (related : History → History → Prop)
    (ended twin : Except Failure α × Session) : Prop where
  outcome : twin.1 = ended.1
  sessions : ended.2.Agrees related twin.2

/-- The action does the same in sessions that agree. -/
def IsBlind (related : History → History → Prop) (action : Shell α) : Prop :=
  ∀ session twin : Session, session.Agrees related twin →
    Lockstep related (EndsAlike related)
      (action.run.run session : Activity (Except Failure α × Session))
      (action.run.run twin : Activity (Except Failure α × Session))

namespace IsBlind

theorem pure (value : α) : IsBlind related (pure value : Shell α) :=
  fun _ _ agree => .ret ⟨rfl, agree⟩

theorem throw (failure : Failure) : IsBlind related (throw failure : Shell α) :=
  fun _ _ agree => .ret ⟨rfl, agree⟩

theorem ofOutcome (outcome : Except Failure α) :
    IsBlind related (ofOutcome outcome) := by
  cases outcome with
  | ok value => exact .pure value
  | error failure => exact .throw failure

theorem bind {action : Shell α} {next : α → Shell β}
    (blind : IsBlind related action)
    (goOn : ∀ value, IsBlind related (next value)) :
    IsBlind related (action >>= next) := by
  intro session twin agree
  have rest : ∀ ended other : Except Failure α × Session,
      EndsAlike related ended other →
      Lockstep related (EndsAlike related)
        ((ExceptT.bindCont next ended.1).run ended.2)
        ((ExceptT.bindCont next other.1).run other.2) := by
    rintro ⟨outcome, between⟩ ⟨_, other⟩ ⟨same, agree⟩
    cases same
    cases outcome with
    | ok value => exact goOn value between other agree
    | error failure => exact .ret ⟨rfl, agree⟩
  exact (blind session twin agree).bind rest

theorem lift (activity : Activity α) :
    IsBlind related (liftM activity : Shell α) := by
  intro session twin agree
  change Lockstep related _
    ((activity >>= fun value => Pure.pure (value, session)) >>=
      fun result : α × Session => Pure.pure (Except.ok result.1, result.2))
    ((activity >>= fun value => Pure.pure (value, twin)) >>=
      fun result : α × Session => Pure.pure (Except.ok result.1, result.2))
  rw [bind_assoc, bind_assoc]
  exact .after activity fun _ => .ret ⟨rfl, agree⟩

theorem attempt {action : Shell α} (blind : IsBlind related action) :
    IsBlind related (attempt action) := by
  intro session twin agree
  refine (blind session twin agree).bind ?_
  rintro ⟨outcome, after⟩ ⟨_, other⟩ ⟨same, agree⟩
  cases same
  exact .ret ⟨rfl, agree⟩

theorem discard {action : Shell α} (blind : IsBlind related action) :
    IsBlind related (Functor.discard action) := by
  rw [discard_eq_bind]
  exact blind.bind fun _ => .pure ()

/-- What comes next does not depend on the history. -/
theorem get_bind {next : Session → Shell α}
    (same : ∀ (session : Session) history,
      next (session.withHistory history) = next session)
    (blind : ∀ session, IsBlind related (next session)) :
    IsBlind related (get >>= next) := by
  intro session twin agree
  have unchanged : next twin = next session := by
    rw [agree.rest]
    exact same session twin.history
  change Lockstep related _ ((next session).run.run session : Activity _)
    ((next twin).run.run twin : Activity _)
  rw [unchanged]
  exact blind session session twin agree

theorem modify {change : Session → Session}
    (keeps : ∀ session, (change session).history = session.history)
    (apart : ∀ (session : Session) history,
      change (session.withHistory history) =
        (change session).withHistory history) :
    IsBlind related (modify change : Shell PUnit) := by
  intro session twin agree
  have histories : related (change session).history (change twin).history := by
    rw [keeps, keeps]
    exact agree.histories
  have rest :
      change twin = (change session).withHistory (change twin).history :=
    calc change twin
      _ = change (session.withHistory twin.history) :=
      congrArg change agree.rest
      _ = (change session).withHistory twin.history :=
        apart session twin.history
      _ = (change session).withHistory (change twin).history := by rw [keeps]
  exact .ret ⟨rfl, histories, rest⟩

theorem modifyJobs (change : JobTable → JobTable) :
    IsBlind related (modifyJobs change) :=
  modify (fun _ => rfl) (fun _ _ => rfl)

theorem print (descriptor : Descriptor) (line : String) :
    IsBlind related (print descriptor line) := by
  refine .bind (.lift _) fun reply => ?_
  cases reply with
  | ok => exact .pure ()
  | error errno => exact .throw _

theorem forM {lines : List α} {action : α → Shell PUnit}
    (blind : ∀ line, IsBlind related (action line)) :
    IsBlind related (lines.forM action) := by
  induction lines with
  | nil => exact .pure PUnit.unit
  | cons line rest induction => exact (blind line).bind fun _ => induction

theorem fork_bind {task : Session → Task} {next : Except Errno Pid → Shell α}
    (alike : ∀ session twin : Session, session.Agrees related twin →
      (task session).Alike related (task twin))
    (blind : ∀ reply, IsBlind related (next reply)) :
    IsBlind related
      (get >>= fun session => Activity.fork (task session) >>= next) := by
  intro session twin agree
  exact .fork (alike session twin agree) fun reply =>
    blind reply session twin agree

/-- What follows looks at the outcome of the action only. -/
theorem ends_lockstep {action : Shell α} (blind : IsBlind related action)
    {session twin : Session} (agree : session.Agrees related twin)
    {next : Except Failure α × Session → Activity β}
    (same : ∀ outcome between other,
      next (outcome, other) = next (outcome, between)) :
    Lockstep related Eq ((action.run.run session : Activity _) >>= next)
      ((action.run.run twin : Activity _) >>= next) := by
  refine (blind session twin agree).bind ?_
  rintro ⟨outcome, between⟩ ⟨_, other⟩ ⟨ended, _⟩
  cases ended
  rw [same outcome between other]
  exact .refl (fun _ => rfl) _

end IsBlind

theorem run_forM_print (out : Descriptor) (lines : List String)
    (session : Session) :
    ((lines.forM (Shell.print out)).run.run session : Activity
      (Except Failure PUnit × Session)) =
      listing out lines >>= fun outcome => pure (outcome, session) := by
  induction lines with
  | nil => rfl
  | cons line rest induction =>
      change Interaction.call _ _ = Interaction.call _ _
      congr 1
      funext reply
      cases reply with
      | ok => exact induction
      | error errno => rfl

/-- Only the list of the history shows which one it is. -/
theorem isBlind_listHistory (out : Descriptor) :
    IsBlind related (get >>= fun session =>
      (Builtin.historyLines session.history.entries).forM
        (Shell.print out)) := by
  intro session twin agree
  have ends : ∀ outcome, Lockstep related (EndsAlike related)
      (pure (outcome, session) : Activity (Except Failure PUnit × Session))
        (pure (outcome, twin)) :=
    fun _ => .ret ⟨rfl, agree⟩
  have lists := Lockstep.listing out agree.histories ends
  rw [← run_forM_print, ← run_forM_print] at lists
  exact lists

end Shell

end JobShell
