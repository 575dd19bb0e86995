import JobShell.Proofs.Execution.Reports
import JobShell.Proofs.Job.Shown
import Mathlib.Logic.Function.Basic

/-!
# The shell among its children

The children change at any time, the signals of their changes arrive at any
later time, and in between the shell takes in, one call after the other, what
has become of them.  How a look at a child is answered is left open.
-/

namespace JobShell

namespace Interaction

/-- Whatever the replies are, the program asks this. -/
inductive MustAsk {Op : Type} {Reply : Op → Type} {α : Type} (wanted : Op) :
    Interaction Op Reply α → Prop where
  | now (next : Reply wanted → Interaction Op Reply α) :
      MustAsk wanted (.call wanted next)
  | later {op : Op} {next : Reply op → Interaction Op Reply α}
      (all : ∀ reply, MustAsk wanted (next reply)) :
        MustAsk wanted (.call op next)

end Interaction

namespace Shell

/-- What a sync has still to do. -/
abbrev Sync : Type := Activity (Except Failure (List Job) × Session)

theorem run_syncJobs {session : Session} (relay : session.relay.isSome) :
    (syncJobs.run.run session : Sync) =
      .call .takeChildEvent fun event =>
        if event then
          poll session.jobs.registered >>= fun answers =>
            pure (.ok (session.jobs.reap answers).1, withLook session answers)
        else pure (.ok [], session) := by
  have present : session.relay.isNone = false := by simpa using relay
  change ((if session.relay.isNone then reap
    else liftM Activity.takeChildEvent >>= fun event =>
      if event then reap else pure [] : Shell (List Job)).run.run session :
        Activity _) = _
  rw [present]
  change Interaction.call _ _ = Interaction.call _ _
  congr 1
  funext event
  cases event with
  | false => rfl
  | true => exact run_reap session

/-- What is left of a look at the children: some have answered, and some are
still to be asked. -/
def looking (session : Session) (answers : List (Pid × WaitAnswer))
    (awaited : List Pid) : Sync :=
  poll awaited >>= fun others =>
    pure (.ok (session.jobs.reap (answers ++ others)).1,
      withLook session (answers ++ others))

theorem looking_nil (session : Session) (answers : List (Pid × WaitAnswer)) :
    looking session answers [] =
      .ret (.ok (session.jobs.reap answers).1, withLook session answers) := by
  have all : answers ++ [] = answers := List.append_nil answers
  change Interaction.ret _ = _
  rw [all]

theorem looking_cons (session : Session) (answers : List (Pid × WaitAnswer))
    (pid : Pid) (awaited : List Pid) :
    looking session answers (pid :: awaited) =
      .call (.wait pid .poll) fun answer =>
        looking session (answers ++ [(pid, answer)]) awaited := by
  change Interaction.call _ _ = Interaction.call _ _
  congr 1
  funext answer
  change (poll awaited >>= fun others => pure ((pid, answer) :: others)) >>= _ =
    _
  rw [bind_assoc, looking]
  simp only [pure_bind, List.append_assoc, List.singleton_append]

theorem mustAsk_looking {pid : Pid} {awaited : List Pid}
    (member : pid ∈ awaited) (session : Session)
    (answers : List (Pid × WaitAnswer)) :
    (looking session answers awaited).MustAsk (.wait pid .poll) := by
  induction awaited generalizing answers with
  | nil => cases member
  | cons first awaited induction =>
      rw [looking_cons]
      rcases List.mem_cons.mp member with rfl | later
      · exact .now _
      · exact .later fun answer => induction later _

end Shell

/-- `undelivered` are the children whose signals have still to arrive.  `left`
is what is left to do of the sync that is under way, if one is, and `answers`
are those that it has been given. -/
structure Scene where
  session : Session
  children : Pid → Child
  undelivered : List Pid
  signals : SignalState
  left : Option Shell.Sync
  answers : List (Pid × WaitAnswer)

namespace Scene

/-- The job table, with the answers noted that a sync under way has been
given. -/
def table (scene : Scene) : JobTable :=
  scene.session.jobs.recordAnswers scene.answers

/-- No answer has brought the last change of the child to the shell. -/
def Unrecorded (scene : Scene) (pid : Pid) : Prop :=
  (scene.children pid).unrecorded = true

/-- The sync that is under way comes to ask for the child, whatever it is
answered. -/
def StillPolls (scene : Scene) (pid : Pid) : Prop :=
  ∃ left, scene.left = some left ∧ left.MustAsk (.wait pid .poll)

/-- What happens around the shell: a registered child changes, and the signals
of some changes arrive, one or several at once. -/
inductive Stirs : Scene → Scene → Prop where
  | change {scene : Scene} {pid : Pid}
      (registered : pid ∈ scene.table.registered)
      (alive : (scene.children pid).state.isFinished = false)
      (state : ChildState) :
      Stirs scene { scene with
        children := Function.update scene.children pid (.changed state)
        undelivered := scene.undelivered ++ [pid] }
  | deliver {scene : Scene} {waiting : List Pid}
      (fewer : waiting.Sublist scene.undelivered)
      (some : waiting ≠ scene.undelivered) :
      Stirs scene { scene with
        undelivered := waiting
        signals := (scene.signals.receive .chld).2 }

/-- The next call of the sync that is under way, or its end. -/
inductive Works (look : Pid → Child → WaitAnswer) : Scene → Scene → Prop where
  | take {scene : Scene} {next : Bool → Shell.Sync}
      (left : scene.left = some (.call .takeChildEvent next)) :
      Works look scene { scene with
        signals := scene.signals.takeChildEvent.2
        left := some (next scene.signals.takeChildEvent.1) }
  | look {scene : Scene} {pid : Pid} {next : WaitAnswer → Shell.Sync}
      (left : scene.left = some (.call (.wait pid .poll) next))
      {answer : WaitAnswer}
      (answered : look pid (scene.children pid) = answer) :
      Works look scene { scene with
        children :=
          Function.update scene.children pid
            ((scene.children pid).lookedAt answer)
        answers := scene.answers ++ [(pid, answer)]
        left := some (next answer) }
  | finish {scene : Scene} {outcome : Except Failure (List Job)}
      {session : Session} (left : scene.left = some (.ret (outcome, session))) :
      Works look scene { scene with session, left := none, answers := [] }

/-- The scene at the beginning of a sync. -/
def begun (scene : Scene) : Scene :=
  { scene with
    left := some (Shell.syncJobs.run.run scene.session), answers := [] }

inductive Step (look : Pid → Child → WaitAnswer) : Scene → Scene → Prop where
  | stirs {scene next : Scene} (stirs : Stirs scene next) : Step look scene next
  | works {scene next : Scene} (works : Works look scene next) :
      Step look scene next
  | begins {scene : Scene} (resting : scene.left = none) :
      Step look scene scene.begun

/-- The sync that is under way comes to its end while nothing happens around the
shell. -/
def Ends (look : Pid → Child → WaitAnswer) (scene final : Scene) : Prop :=
  Relation.ReflTransGen (Works look) scene final ∧ final.left = none

/-- Nothing has happened yet: the relay is installed, and the table shows every
registered child as it is. -/
structure Settled (scene : Scene) : Prop where
  relay : scene.session.relay.isSome
  handler : scene.signals.dispositions .chld = .noteChild
  reachable : JobTable.Reachable scene.session.jobs
  resting : scene.left = none
  noAnswers : scene.answers = []
  delivered : scene.undelivered = []
  known : ∀ pid serial, scene.table.owner? pid = some serial →
    (scene.children pid).untold = false ∧ ¬scene.Unrecorded pid ∧
      ∃ state, (scene.children pid).state.state? = some state ∧
        scene.table.Shows serial pid state

/-- The job table has what has become of a child of this job. -/
def UpToDate (scene : Scene) (serial : Nat) (pid : Pid) : Prop :=
  ∃ state, (scene.children pid).state.state? = some state ∧
    scene.table.Has serial pid state ∧
    (state.isFinished = false → (scene.table.get? serial).isSome)

/-- The child has ended without a name and has been looked at.  It is still
taken for one that lives, or it is taken for one that exited. -/
structure Lost (scene : Scene) (serial : Nat) (pid : Pid) : Prop where
  told : (scene.children pid).untold = false
  nameless : (scene.children pid).state.state? = none
  mistaken : scene.table.owner? pid = some serial ∨
    scene.table.Has serial pid (.exited 0)

/-- Where the shell stands, and which children it has still to look at. -/
inductive Stands (session : Session) : List (Pid × WaitAnswer) →
    Option Shell.Sync → List Pid → Prop where
  | resting : Stands session [] none []
  | begun : Stands session [] (some (Shell.syncJobs.run.run session)) []
  | passing : Stands session [] (some (.ret (.ok [], session))) []
  | looking {answers : List (Pid × WaitAnswer)} {awaited : List Pid}
      (order : answers.map Prod.fst ++ awaited = session.jobs.registered) :
      Stands session answers
        (some (Shell.looking session answers awaited)) awaited

section Stands

variable {session : Session} {answers : List (Pid × WaitAnswer)}
  {awaited : List Pid}

theorem Stands.of_none (stands : Stands session answers none awaited) :
    answers = [] ∧ awaited = [] := by
  cases stands
  exact ⟨rfl, rfl⟩

/-- Only a sync that has just begun takes the flag. -/
theorem Stands.of_take {next : Bool → Shell.Sync}
    (stands : Stands session answers
      (some (.call .takeChildEvent next)) awaited)
    (relay : session.relay.isSome) :
    answers = [] ∧ awaited = [] ∧ next = fun event =>
      if event then Shell.looking session [] session.jobs.registered
      else .ret (.ok [], session) := by
  generalize same : (some (.call .takeChildEvent next) :
    Option Shell.Sync) = left at stands
  cases stands with
  | resting => cases same
  | begun =>
      rw [Shell.run_syncJobs relay] at same
      cases same
      exact ⟨rfl, rfl, rfl⟩
  | passing => cases same
  | looking order =>
      cases awaited with
      | nil =>
          rw [Shell.looking_nil] at same
          cases same
      | cons pid awaited =>
          rw [Shell.looking_cons] at same
          cases same

/-- Who is asked next is the first of those who are awaited. -/
theorem Stands.of_look {pid : Pid}
    {next : WaitAnswer → Shell.Sync}
    (stands : Stands session answers
      (some (.call (.wait pid .poll) next)) awaited)
    (relay : session.relay.isSome) :
    ∃ later, awaited = pid :: later ∧
      answers.map Prod.fst ++ pid :: later = session.jobs.registered ∧
      next = fun answer =>
        Shell.looking session (answers ++ [(pid, answer)]) later := by
  generalize same : (some (.call (.wait pid .poll) next) :
    Option Shell.Sync) = left at stands
  cases stands with
  | resting => cases same
  | begun =>
      rw [Shell.run_syncJobs relay] at same
      cases same
  | passing => cases same
  | looking order =>
      cases awaited with
      | nil =>
          rw [Shell.looking_nil] at same
          cases same
      | cons first awaited =>
          rw [Shell.looking_cons] at same
          cases same
          exact ⟨awaited, rfl, order, rfl⟩

/-- A sync ends without a look, or when all have answered. -/
theorem Stands.of_ret {outcome : Except Failure (List Job)} {after : Session}
    (stands : Stands session answers (some (.ret (outcome, after))) awaited)
    (relay : session.relay.isSome) :
    awaited = [] ∧
    (answers = [] ∧ after = session ∨
      after = Shell.withLook session answers) := by
  generalize same : (some (.ret (outcome, after)) :
    Option Shell.Sync) = left at stands
  cases stands with
  | resting => cases same
  | begun =>
      rw [Shell.run_syncJobs relay] at same
      cases same
  | passing =>
      cases same
      exact ⟨rfl, .inl ⟨rfl, rfl⟩⟩
  | looking order =>
      cases awaited with
      | nil =>
          rw [Shell.looking_nil] at same
          cases same
          exact ⟨rfl, .inr rfl⟩
      | cons first awaited =>
          rw [Shell.looking_cons] at same
          cases same

end Stands

end Scene

end JobShell
