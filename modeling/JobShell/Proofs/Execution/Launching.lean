import JobShell.Execution.Sequence
import JobShell.Proofs.Job.Foreground

/-!
# How the stages of a pipeline are launched

A stage is launched in a run of exchanges of its own: the pipe behind it is
opened, its program and its redirections are made ready, a child is made, and
the ends of the pipes that only the child uses are closed.  Each stage gets the
reading end of the pipe that the stage before it writes, whether or not that
stage has a child.
-/

namespace JobShell

/-- The child that an exchange has made, with what it does. -/
def Exchange.forked? : Exchange → Option (Task × Pid)
  | ⟨.fork task, .ok pid⟩ => some (task, pid)
  | _ => none

/-- The children that were made on the way. -/
def forksIn (exchanges : List Exchange) : List (Task × Pid) :=
  exchanges.filterMap Exchange.forked?

/-- A pipe was asked for, and there was none. -/
def Exchange.lacksPipe : Exchange → Bool
  | ⟨.openPipe, .error _⟩ => true
  | _ => false

/-- The exchanges in which descriptors are closed. -/
def closings (descriptors : List Descriptor) : List Exchange :=
  descriptors.map fun descriptor => ⟨.close descriptor, ()⟩

/-- The calls that make a stage ready for its child. -/
def Call.Prepares : Call → Prop
  | observe | openFile .. | close _ | joinGroup .. => True
  | _ => False

@[simp] theorem forksIn_append (first second : List Exchange) :
    forksIn (first ++ second) = forksIn first ++ forksIn second :=
  List.filterMap_append

theorem forksIn_eq_nil {exchanges : List Exchange}
    (childless : ∀ exchange ∈ exchanges, ∀ task, exchange.1 ≠ .fork task) :
    forksIn exchanges = [] := by
  unfold forksIn
  rw [List.filterMap_eq_nil_iff]
  rintro ⟨call, reply⟩ member
  cases call with
  | fork task => exact absurd rfl (childless _ member task)
  | _ => rfl

/-- Where only such calls are made as are no forks, no children are. -/
theorem forksIn_eq_nil_of_allowed {allowed : Call → Prop}
    {exchanges : List Exchange} (excluded : ∀ task, ¬allowed (.fork task))
    (all : ∀ exchange ∈ exchanges, allowed exchange.1) :
    forksIn exchanges = [] := by
  apply forksIn_eq_nil
  intro exchange member task same
  exact excluded task (same ▸ all exchange member)

theorem forksIn_eq_nil_of_prepares {exchanges : List Exchange}
    (prepares : ∀ exchange ∈ exchanges, exchange.1.Prepares) :
    forksIn exchanges = [] :=
  forksIn_eq_nil_of_allowed (fun _ => id) prepares

theorem forksIn_closings (descriptors : List Descriptor) :
    forksIn (closings descriptors) = [] := by
  apply forksIn_eq_nil
  intro exchange member task same
  obtain ⟨descriptor, _, rfl⟩ := List.mem_map.mp member
  cases same

theorem heardIn_closings (descriptors : List Descriptor) :
    heardIn (closings descriptors) = [] := by
  apply heardIn_eq_nil
  intro pid mode member
  obtain ⟨exchange, listed, same⟩ := List.mem_map.mp member
  obtain ⟨descriptor, _, rfl⟩ := List.mem_map.mp listed
  cases same

namespace Activity

theorem goes_closeAll {descriptors : List Descriptor}
    {exchanges : List Exchange} :
    (closeAll descriptors).Goes exchanges () ↔
      exchanges = closings descriptors := by
  induction descriptors generalizing exchanges with
  | nil =>
      constructor
      · exact fun goes => goes.1
      · exact fun same => ⟨same, rfl⟩
  | cons descriptor descriptors induction =>
      constructor
      · rintro ⟨_, rest, rfl, goes⟩
        rw [induction.mp goes]
        rfl
      · rintro rfl
        exact ⟨(), closings descriptors, rfl, induction.mpr rfl⟩

theorem goes_say {descriptor : Descriptor} {line : String}
    {exchanges : List Exchange} :
    (say descriptor line).Goes exchanges () ↔
      ∃ reply,
        exchanges = [⟨.write descriptor (line ++ "\n").toUTF8, reply⟩] := by
  constructor
  · rintro ⟨reply, _, rfl, rfl, _⟩
    exact ⟨reply, rfl⟩
  · rintro ⟨reply, rfl⟩
    exact ⟨reply, [], rfl, rfl, rfl⟩

end Activity

namespace Shell

variable {α β : Type} {before after : Session} {exchanges : List Exchange}
  {allowed : Call → Prop}

/-- The action leaves the session alone, and makes allowed calls only. -/
def Asks (allowed : Call → Prop) (action : Shell α) : Prop :=
  ∀ (before after : Session) (exchanges : List Exchange)
    (outcome : Except Failure α),
    action.Goes before exchanges outcome after →
      after = before ∧ ∀ exchange ∈ exchanges, allowed exchange.1

namespace Asks

theorem pure (value : α) : Asks allowed (pure value : Shell α) := by
  intro before after exchanges outcome goes
  obtain ⟨rfl, _, rfl⟩ := goes_pure.mp goes
  exact ⟨rfl, List.forall_mem_nil _⟩

theorem throw (failure : Failure) : Asks allowed (throw failure : Shell α) := by
  intro before after exchanges outcome goes
  obtain ⟨rfl, _, rfl⟩ := goes_throw.mp goes
  exact ⟨rfl, List.forall_mem_nil _⟩

theorem bind {action : Shell α} {next : α → Shell β}
    (asks : Asks allowed action) (goOn : ∀ value, Asks allowed (next value)) :
    Asks allowed (action >>= next) := by
  intro before after exchanges outcome goes
  rcases goes_bind.mp goes with
    ⟨first, second, value, between, rfl, early, late⟩ | ⟨_, early, _⟩
  · obtain ⟨rfl, firstCalls⟩ := asks _ _ _ _ early
    obtain ⟨rfl, secondCalls⟩ := goOn value _ _ _ _ late
    exact ⟨rfl, fun exchange member =>
      (List.mem_append.mp member).elim (firstCalls exchange)
        (secondCalls exchange)⟩
  · exact asks _ _ _ _ early

theorem get_bind {next : Session → Shell α}
    (goOn : ∀ session, Asks allowed (next session)) :
    Asks allowed (get >>= next) := by
  intro before after exchanges outcome goes
  exact goOn before before after exchanges outcome (goes_get_bind.mp goes)

theorem ask_bind {call : Call} {next : call.Reply → Shell β}
    (isAllowed : allowed call) (goOn : ∀ reply, Asks allowed (next reply)) :
    Asks allowed (liftM call.ask >>= next) := by
  intro before after exchanges outcome goes
  obtain ⟨reply, rest, rfl, late⟩ := goes_ask_bind.mp goes
  obtain ⟨rfl, restCalls⟩ := goOn reply _ _ _ _ late
  refine ⟨rfl, fun exchange member => ?_⟩
  rcases List.mem_cons.mp member with rfl | later
  · exact isAllowed
  · exact restCalls exchange later

theorem attempt_bind {action : Shell α} {next : Except Failure α → Shell β}
    (asks : Asks allowed action) (goOn : ∀ ended, Asks allowed (next ended)) :
    Asks allowed (attempt action >>= next) := by
  intro before after exchanges outcome goes
  obtain ⟨first, second, ended, between, rfl, early, late⟩ :=
    goes_attempt_bind.mp goes
  obtain ⟨rfl, firstCalls⟩ := asks _ _ _ _ early
  obtain ⟨rfl, secondCalls⟩ := goOn ended _ _ _ _ late
  exact ⟨rfl, fun exchange member =>
    (List.mem_append.mp member).elim (firstCalls exchange)
      (secondCalls exchange)⟩

end Asks

theorem asks_openRedirection (redirection : Redirection) :
    Asks Call.Prepares (openRedirection redirection) := by
  refine Asks.ask_bind trivial fun reply => ?_
  cases reply with
  | ok descriptor => exact .pure descriptor
  | error error => exact .throw _

theorem asks_closeAll_bind {descriptors : List Descriptor}
    {next : Unit → Shell α} (goOn : Asks Call.Prepares (next ())) :
    Asks Call.Prepares (liftM (Activity.closeAll descriptors) >>= next) := by
  intro before after exchanges outcome goes
  obtain ⟨first, second, _, rfl, closed, late⟩ := goes_lift_bind.mp goes
  obtain ⟨rfl, restCalls⟩ := goOn _ _ _ _ late
  rw [Activity.goes_closeAll.mp closed]
  refine ⟨rfl, fun exchange member => ?_⟩
  rcases List.mem_append.mp member with early | later
  · obtain ⟨descriptor, _, rfl⟩ := List.mem_map.mp early
    exact trivial
  · exact restCalls exchange later

theorem asks_openRedirections (redirections : List Redirection)
    (opened : List (Descriptor × Descriptor)) :
    Asks Call.Prepares (openRedirections opened redirections) := by
  induction redirections generalizing opened with
  | nil => exact .pure opened
  | cons redirection redirections induction =>
      refine Asks.attempt_bind (asks_openRedirection redirection)
        fun ended => ?_
      cases ended with
      | ok descriptor => exact induction _
      | error failure => exact asks_closeAll_bind (.throw failure)

theorem asks_prepare (command : Command) :
    Asks Call.Prepares (prepare command) := by
  refine Asks.ask_bind trivial fun world => ?_
  dsimp only
  split
  · exact .throw _
  · split
    · exact .throw _
    · exact .pure _

theorem asks_prepareIfNeeded (command : Command) :
    Asks Call.Prepares (prepareIfNeeded command) := by
  unfold prepareIfNeeded
  split
  · exact .pure none
  · exact (asks_prepare command).bind fun launch => .pure (some launch)

theorem outcome_of_enterGroup {child : Pid} {group : Option Pid}
    {outcome : Except Failure Unit}
    (goes : (enterGroup child group).Goes before exchanges outcome after) :
    outcome = .ok () := by
  unfold enterGroup at goes
  rw [goes_get_bind] at goes
  split at goes
  · obtain ⟨_, _, ended, _⟩ := goes_discard_ask.mp goes
    exact ended
  · exact (goes_pure.mp goes).2.1

theorem asks_enterGroup (child : Pid) (group : Option Pid) :
    Asks Call.Prepares (enterGroup child group) := by
  refine Asks.get_bind fun session => ?_
  split
  · rw [discard_eq_bind]
    exact Asks.ask_bind trivial fun _ => .pure ()
  · exact .pure ()

end Shell

/-- An attempt to launch a stage has made the child of the stage, or no child at
all. -/
structure Attempts (session : Session) (background : Bool) (group : Option Pid)
    (command : Command) (input output : Option Descriptor)
    (exchanges : List Exchange) (outcome : Except Failure Pid) : Prop where
  calls : ∀ exchange ∈ exchanges, exchange.1.Prepares ∨ ∃ task,
    exchange.1 = .fork task
  child : ∀ {pid : Pid}, outcome = .ok pid → ∃ program redirections,
    forksIn exchanges =
      [(.stage session command program
        { input, output, redirections } group background, pid)]
  childless : ∀ {failure : Failure}, outcome = .error failure →
    forksIn exchanges = []

section Attempts

variable {session : Session} {background : Bool} {group : Option Pid}
  {command : Command}
  {input output : Option Descriptor} {first second : List Exchange}

/-- Nothing has been launched while a stage was made ready. -/
theorem attempts_of_prepares {exchanges : List Exchange} {failure : Failure}
    (prepares : ∀ exchange ∈ exchanges, exchange.1.Prepares) :
    Attempts session background group command input output exchanges
      (.error failure) where
  calls exchange member := .inl (prepares exchange member)
  child := nofun
  childless _ := forksIn_eq_nil_of_prepares prepares

theorem prepares_or_forks {task : Task} {reply : Except Errno Pid}
    (prepares : ∀ exchange ∈ second, exchange.1.Prepares) :
    ∀ exchange ∈ (⟨.fork task, reply⟩ :: second : List Exchange),
      exchange.1.Prepares ∨ ∃ task, exchange.1 = .fork task := by
  intro exchange member
  rcases List.mem_cons.mp member with rfl | later
  · exact .inr ⟨task, rfl⟩
  · exact .inl (prepares exchange later)

theorem attempts_of_fork {program : Option Launch}
    {redirections : List (Descriptor × Descriptor)} {pid : Pid}
    (prepares : ∀ exchange ∈ second, exchange.1.Prepares) :
    Attempts session background group command input output
      (⟨.fork (.stage session command program
        { input, output, redirections } group background), .ok pid⟩ :: second)
        (.ok pid) where
  calls := prepares_or_forks prepares
  child launched := by
    cases launched
    refine ⟨program, redirections, ?_⟩
    change (_, pid) :: forksIn second = _
    rw [forksIn_eq_nil_of_prepares prepares]
  childless := nofun

theorem attempts_of_failedFork {task : Task} {errno : Errno} {failure : Failure}
    (prepares : ∀ exchange ∈ second, exchange.1.Prepares) :
    Attempts session background group command input output
      (⟨.fork task, .error errno⟩ :: second) (.error failure) where
  calls := prepares_or_forks prepares
  child := nofun
  childless _ := by
    change forksIn second = []
    exact forksIn_eq_nil_of_prepares prepares

theorem Attempts.prepend {outcome : Except Failure Pid}
    (attempts : Attempts session background group command input output
      second outcome)
    (prepares : ∀ exchange ∈ first, exchange.1.Prepares) :
    Attempts session background group command input output
      (first ++ second) outcome where
  calls exchange member := (List.mem_append.mp member).elim
    (fun early => .inl (prepares exchange early)) (attempts.calls exchange)
  child launched := by
    rw [forksIn_append, forksIn_eq_nil_of_prepares prepares]
    exact attempts.child launched
  childless failed := by
    rw [forksIn_append, forksIn_eq_nil_of_prepares prepares]
    exact attempts.childless failed

end Attempts

namespace Shell

variable {before after : Session} {exchanges : List Exchange}

/-- The part of a launch in which everything is ready. -/
def forkStage (command : Command) (program : Option Launch) (wiring : Wiring)
    (group : Option Pid) (background : Bool) : Shell Pid := do
  let forked ← Activity.fork
    (.stage (← get) command program wiring group background)
  Activity.closeAll (wiring.redirections.map Prod.snd)
  match forked with
  | .ok child => enterGroup child group; pure child
  | .error errno => throw (.system errno)

theorem goes_forkStage {command : Command} {program : Option Launch}
    {input output : Option Descriptor}
    {redirections : List (Descriptor × Descriptor)} {group : Option Pid}
    {background : Bool} {outcome : Except Failure Pid}
    (goes : (forkStage command program
      { input, output, redirections } group background).Goes
      before exchanges outcome after) :
    after = before ∧
    Attempts before background group command input output exchanges
      outcome := by
  unfold forkStage at goes
  rw [goes_get_bind] at goes
  obtain ⟨forked, rest, rfl, forking⟩ := goes_ask_bind.mp goes
  obtain ⟨closing, entering, _, rfl, closes, entered⟩ :=
    goes_lift_bind.mp forking
  have closed : ∀ exchange ∈ closing, exchange.1.Prepares := by
    rw [Activity.goes_closeAll.mp closes]
    intro exchange member
    obtain ⟨descriptor, _, rfl⟩ := List.mem_map.mp member
    exact trivial
  cases forked with
  | ok child =>
      rcases goes_bind.mp entered with ⟨joining, _, _, _, rfl, joins, ended⟩ |
        ⟨_, joins, _⟩
      · obtain ⟨rfl, joined⟩ := asks_enterGroup child group _ _ _ _ joins
        obtain ⟨rfl, rfl, rfl⟩ := goes_pure.mp ended
        rw [List.append_nil]
        have prepares : ∀ exchange ∈ closing ++ joining, exchange.1.Prepares :=
          fun exchange member =>
            (List.mem_append.mp member).elim (closed exchange) (joined exchange)
        exact ⟨rfl, attempts_of_fork prepares⟩
      · cases outcome_of_enterGroup joins
  | error errno =>
      obtain ⟨rfl, rfl, rfl⟩ := goes_throw.mp entered
      rw [List.append_nil]
      exact ⟨rfl, attempts_of_failedFork closed⟩

/-- However an action ends, descriptors are closed behind it. -/
theorem goes_closingBehind {action : Shell α} {descriptors : List Descriptor}
    {outcome : Except Failure α}
    (goes : (do
      let ended ← attempt action
      Activity.closeAll descriptors
      ofOutcome ended : Shell α).Goes before exchanges outcome after) :
    ∃ working, exchanges = working ++ closings descriptors ∧
      action.Goes before working outcome after := by
  obtain ⟨working, _, ended, _, rfl, works, closes⟩ := goes_attempt_bind.mp goes
  obtain ⟨_, _, _, rfl, closed, settled⟩ := goes_lift_bind.mp closes
  obtain ⟨rfl, rfl, rfl⟩ := goes_ofOutcome.mp settled
  rw [Activity.goes_closeAll.mp closed, List.append_nil]
  exact ⟨working, rfl, works⟩

/-- What a launch comes to.  It leaves nothing but a child: the ends of the
pipes that it was given are closed. -/
theorem goes_spawn {command : Command} {input output : Option Descriptor}
    {group : Option Pid} {background : Bool} {outcome : Except Failure Pid}
    (goes : (spawn command input output group background).Goes before exchanges
      outcome after) :
    after = before ∧ ∃ attempt,
      exchanges = attempt ++ closings (input.toList ++ output.toList) ∧
      Attempts before background group command input output attempt
        outcome := by
  obtain ⟨attempt, rfl, attempted⟩ := goes_closingBehind goes
  rcases goes_bind.mp attempted with
    ⟨early, _, program, _, rfl, looked, opening⟩ | ⟨failure, looked, rfl⟩
  · obtain ⟨rfl, earlyCalls⟩ := asks_prepareIfNeeded command _ _ _ _ looked
    rcases goes_bind.mp opening with
      ⟨middle, late, redirections, _, rfl, opened, forking⟩ |
        ⟨failure, opened, rfl⟩
    · obtain ⟨rfl, middleCalls⟩ :=
        asks_openRedirections command.redirections [] _ _ _ _ opened
      obtain ⟨rfl, attempts⟩ := goes_forkStage forking
      exact ⟨rfl, early ++ (middle ++ late), rfl,
        (attempts.prepend middleCalls).prepend earlyCalls⟩
    · obtain ⟨rfl, middleCalls⟩ :=
        asks_openRedirections command.redirections [] _ _ _ _ opened
      exact ⟨rfl, _, rfl, (attempts_of_prepares middleCalls).prepend earlyCalls⟩
  · obtain ⟨rfl, calls⟩ := asks_prepareIfNeeded command _ _ _ _ looked
    exact ⟨rfl, attempt, rfl, attempts_of_prepares calls⟩

theorem goes_report {failure : Failure} {outcome : Except Failure Int}
    (goes : (report failure).Goes before exchanges outcome after) :
    outcome = .ok failure.status ∧ after = before ∧ exchanges.map Sigma.fst =
      [.write .standardError
        ("aspsh: " ++ failure.message ++ "\n").toUTF8] := by
  unfold report at goes
  obtain ⟨_, _, _, rfl, said, ended⟩ := goes_lift_bind.mp goes
  obtain ⟨reply, rfl⟩ := Activity.goes_say.mp said
  obtain ⟨rfl, rfl, rfl⟩ := goes_pure.mp ended
  exact ⟨rfl, rfl, rfl⟩

/-- The pipe that is needed is opened, or there is none to be had. -/
theorem goes_openPipeIf {needed : Bool}
    {outcome : Except Failure (Option Descriptor × Option Descriptor)}
    (goes : (openPipeIf needed).Goes before exchanges outcome after) :
    after = before ∧
      ((∃ errno, exchanges = [⟨.openPipe, .error errno⟩] ∧
        outcome = .error (.system errno)) ∨
        ∃ pipe : Option (Descriptor × Descriptor), pipe.isSome = needed ∧
          exchanges = (pipe.toList.map fun ends => ⟨.openPipe, .ok ends⟩) ∧
          outcome = .ok (pipe.map Prod.fst, pipe.map Prod.snd)) := by
  unfold openPipeIf at goes
  split at goes
  · next isNeeded =>
      obtain ⟨reply, _, rfl, ended⟩ := goes_ask_bind.mp goes
      cases reply with
      | ok ends =>
          obtain ⟨rfl, rfl, rfl⟩ := goes_pure.mp ended
          exact ⟨rfl, .inr ⟨some ends, isNeeded.symm, rfl, rfl⟩⟩
      | error errno =>
          obtain ⟨rfl, rfl, rfl⟩ := goes_throw.mp ended
          exact ⟨rfl, .inl ⟨errno, rfl, rfl⟩⟩
  · next notNeeded =>
      obtain ⟨rfl, rfl, rfl⟩ := goes_pure.mp goes
      exact ⟨rfl, .inr ⟨none, (Bool.eq_false_iff.mpr notNeeded).symm, rfl, rfl⟩⟩

end Shell

/-- What has become of one stage: what it was to read, the pipe behind it, the
exchanges in which its child was made, or was not, and those in which a failure
was reported. -/
structure StageLaunch where
  command : Command
  input : Option Descriptor
  pipe : Option (Descriptor × Descriptor)
  attempt : List Exchange
  outcome : Except Failure Pid
  report : List Exchange

namespace StageLaunch

/-- The end of the pipe that the next stage reads. -/
def nextInput (launch : StageLaunch) : Option Descriptor :=
  launch.pipe.map Prod.fst

/-- The end of the pipe that the stage writes. -/
def output (launch : StageLaunch) : Option Descriptor :=
  launch.pipe.map Prod.snd

def pid? (launch : StageLaunch) : Option Pid := launch.outcome.toOption

/-- The pipe is opened, the stage is launched, the ends that belong to its child
are closed, and a failure is reported. -/
def exchanges (launch : StageLaunch) : List Exchange :=
  (launch.pipe.toList.map fun ends => ⟨.openPipe, .ok ends⟩) ++
    launch.attempt ++
    closings (launch.input.toList ++ launch.output.toList) ++ launch.report

/-- The launch was tried in the group, and a failure was told. -/
structure Starts (launch : StageLaunch) (session : Session) (background : Bool)
    (group : Option Pid) : Prop where
  attempts : Attempts session background group launch.command launch.input
    launch.output launch.attempt launch.outcome
  report : launch.report.map Sigma.fst = match launch.outcome with
    | .ok _ => []
    | .error failure =>
      [.write .standardError ("aspsh: " ++ failure.message ++ "\n").toUTF8]

end StageLaunch

namespace Shell.Launched

/-- What has been launched so far, with one stage more. -/
def extend (launched : Launched) (launch : StageLaunch) : Launched :=
  match launch.outcome with
  | .ok pid =>
    { group := some (launched.group.getD pid), pids := launched.pids ++ [pid],
      input := launch.nextInput, failure := none }
  | .error failure =>
    { launched with input := launch.nextInput, failure := some failure.status }

theorem input_extend (launched : Launched) (launch : StageLaunch) :
    (launched.extend launch).input = launch.nextInput := by
  unfold extend
  split <;> rfl

theorem group_extend (launched : Launched) (launch : StageLaunch) :
    (launched.extend launch).group = launched.group.or launch.pid? := by
  unfold extend StageLaunch.pid?
  split
  · next pid ended =>
      rw [ended]
      cases launched.group <;> rfl
  · next failure ended =>
      rw [ended]
      exact Option.or_none.symm

end Shell.Launched

/-- The stages were launched in turn, the first one into this group and with
this input.  Each one reads the pipe behind the stage before it, and behind the
last one there is none. -/
inductive Chain (session : Session) (background : Bool) :
    Option Pid → Option Descriptor → List StageLaunch → Prop where
  | nil {group : Option Pid} : Chain session background group none []
  | cons {group : Option Pid} {launch : StageLaunch}
      {launches : List StageLaunch}
      (starts : launch.Starts session background group)
      (piped : launch.pipe.isSome = !launches.isEmpty)
      (later : Chain session background
        (group.or launch.pid?) launch.nextInput launches) :
      Chain session background group launch.input (launch :: launches)

namespace Shell

variable {before after : Session} {exchanges : List Exchange}

/-- There is no pipe for a stage, and so neither it nor any later one is
launched; or the stage is launched, or told to have failed, and the others come
after it. -/
theorem goes_launchStages_cons {background : Bool} {command : Command}
    {commands : List Command} {launched : Launched}
    {outcome : Except Failure Launched}
    (goes : (launchStages background (command :: commands) launched).Goes before
      exchanges outcome after) :
    (∃ errno,
      exchanges = ⟨.openPipe, .error errno⟩ :: closings launched.input.toList ∧
      outcome = .error (.system errno) ∧ after = before) ∨
    ∃ launch later, exchanges = StageLaunch.exchanges launch ++ later ∧
      launch.command = command ∧ launch.input = launched.input ∧
      launch.pipe.isSome = !commands.isEmpty ∧
      launch.Starts before background launched.group ∧
      (launchStages background commands (launched.extend launch)).Goes before
        later outcome
        after := by
  unfold launchStages at goes
  obtain ⟨opening, _, _, _, rfl, opened, attempted⟩ := goes_attempt_bind.mp goes
  obtain ⟨rfl, ⟨errno, rfl, rfl⟩ | ⟨pipe, needed, rfl, rfl⟩⟩ :=
    goes_openPipeIf opened
  · obtain ⟨_, _, _, rfl, closed, thrown⟩ := goes_lift_bind.mp attempted
    obtain ⟨rfl, rfl, rfl⟩ := goes_throw.mp thrown
    rw [Activity.goes_closeAll.mp closed, List.append_nil]
    exact .inl ⟨errno, rfl, rfl, rfl⟩
  right
  obtain ⟨_, rest, ended, _, rfl, spawned, goesOn⟩ :=
    goes_attempt_bind.mp attempted
  obtain ⟨rfl, attempt, rfl, attempts⟩ := goes_spawn spawned
  cases ended with
  | ok pid =>
      refine ⟨⟨command, launched.input, pipe, attempt, .ok pid, []⟩, rest, ?_,
        rfl, rfl, needed, ⟨attempts, rfl⟩, goesOn⟩
      simp only [StageLaunch.exchanges, StageLaunch.output, List.append_assoc,
        List.nil_append]
  | error failure =>
      rcases goes_bind.mp goesOn with
        ⟨told, later, _, _, rfl, reported, goesOn⟩ | ⟨_, reported, _⟩
      · obtain ⟨same, rfl, calls⟩ := goes_report reported
        cases same
        refine ⟨⟨command, launched.input, pipe, attempt, .error failure, told⟩,
          later, ?_, rfl, rfl, needed, ⟨attempts, calls⟩, goesOn⟩
        simp only [StageLaunch.exchanges, StageLaunch.output, List.append_assoc]
      · cases (goes_report reported).1

/-- Where every pipe can be opened, all stages are tried. -/
theorem goes_launchStages {background : Bool} {commands : List Command}
    {launched : Launched} {outcome : Except Failure Launched}
    (piped : ∀ exchange ∈ exchanges, exchange.lacksPipe = false)
    (goes : (launchStages background commands launched).Goes before exchanges
      outcome after)
    (noInput : commands = [] → launched.input = none) :
    after = before ∧ ∃ launches,
      exchanges = launches.flatMap StageLaunch.exchanges ∧
      outcome = .ok (launches.foldl Shell.Launched.extend launched) ∧
      launches.map StageLaunch.command = commands ∧
      Chain before background launched.group launched.input launches := by
  induction commands generalizing exchanges launched with
  | nil =>
      obtain ⟨rfl, rfl, rfl⟩ := goes_pure.mp goes
      exact ⟨rfl, [], rfl, rfl, rfl, noInput rfl ▸ .nil⟩
  | cons command commands induction =>
      rcases goes_launchStages_cons goes with
        ⟨errno, rfl, _⟩ |
          ⟨launch, later, rfl, rfl, input, needed, starts, goesOn⟩
      · cases piped _ List.mem_cons_self
      have noInputThen : commands = [] →
          (launched.extend launch).input = none := by
        rintro rfl
        have noPipe : launch.pipe = none :=
          Option.isNone_iff_eq_none.mp (Option.isSome_eq_false_iff.mp needed)
        rw [Launched.input_extend, StageLaunch.nextInput, noPipe]
        rfl
      obtain ⟨rfl, launches, rfl, rfl, same, chain⟩ :=
        induction (fun exchange member =>
          piped exchange (List.mem_append_right _ member)) goesOn noInputThen
      rw [Launched.input_extend, Launched.group_extend] at chain
      refine ⟨rfl, launch :: launches, rfl, rfl,
        by rw [List.map_cons, same], ?_⟩
      rw [← input]
      refine .cons starts ?_ chain
      rw [needed, ← same, List.isEmpty_map]

end Shell

/-- The status of a failure to launch the stage. -/
def StageLaunch.failureStatus? (launch : StageLaunch) : Option Int :=
  match launch.outcome with
  | .ok _ => none
  | .error failure => some failure.status

namespace Shell.Launched

variable (launches : List StageLaunch) (launched : Launched)

theorem pids_foldl_extend : (launches.foldl extend launched).pids =
    launched.pids ++ launches.filterMap StageLaunch.pid? := by
  induction launches generalizing launched with
  | nil => exact (List.append_nil _).symm
  | cons launch launches induction =>
      have here : (launched.extend launch).pids =
          launched.pids ++ launch.pid?.toList := by
        unfold extend StageLaunch.pid?
        cases launch.outcome with
        | ok pid => rfl
        | error failure => exact (List.append_nil _).symm
      rw [List.foldl_cons, induction, here, List.append_assoc,
        List.filterMap_cons]
      cases launch.pid? <;> rfl

theorem group_foldl_extend : (launches.foldl extend launched).group =
    launched.group.or (launches.filterMap StageLaunch.pid?).head? := by
  induction launches generalizing launched with
  | nil => exact Option.or_none.symm
  | cons launch launches induction =>
      rw [List.foldl_cons, induction, group_extend, Option.or_assoc,
        List.filterMap_cons]
      cases launch.pid? <;> rfl

theorem failure_foldl_extend : (launches.foldl extend launched).failure =
    (launches.getLast?.map StageLaunch.failureStatus?).getD
      launched.failure := by
  induction launches generalizing launched with
  | nil => rfl
  | cons launch launches induction =>
      have here : (launched.extend launch).failure = launch.failureStatus? := by
        unfold extend StageLaunch.failureStatus?
        cases launch.outcome <;> rfl
      rw [List.foldl_cons, induction, here, List.getLast?_cons]
      cases launches.getLast? <;> rfl

end Shell.Launched

namespace StageLaunch

section Exchanges

variable {launch : StageLaunch} {session : Session} {background : Bool}
  {group : Option Pid} (starts : launch.Starts session background group)

include starts

/-- A failure is told on the way to the user and nowhere else. -/
theorem Starts.report_calls : ∀ exchange ∈ launch.report, ∃ bytes,
    exchange.1 = .write .standardError bytes := by
  intro exchange member
  have listed : exchange.1 ∈ launch.report.map Sigma.fst :=
    List.mem_map_of_mem member
  rw [starts.report] at listed
  cases ended : launch.outcome with
  | ok pid =>
      rw [ended] at listed
      cases listed
  | error failure =>
      rw [ended] at listed
      exact ⟨_, List.mem_singleton.mp listed⟩

theorem Starts.forksIn_exchanges :
    forksIn launch.exchanges = forksIn launch.attempt := by
  have opening :
      forksIn (launch.pipe.toList.map fun ends => ⟨.openPipe, .ok ends⟩) =
        [] := by
    cases launch.pipe <;> rfl
  have report : forksIn launch.report = [] := by
    apply forksIn_eq_nil
    intro exchange member task same
    obtain ⟨bytes, written⟩ := starts.report_calls exchange member
    rw [same] at written
    cases written
  simp [exchanges, opening, forksIn_closings, report]

theorem Starts.heardIn_exchanges : heardIn launch.exchanges = [] := by
  have opening :
      heardIn (launch.pipe.toList.map fun ends => ⟨.openPipe, .ok ends⟩) =
        [] := by
    cases launch.pipe <;> rfl
  have attempt : heardIn launch.attempt = [] := by
    apply heardIn_eq_nil
    intro pid mode member
    obtain ⟨exchange, listed, same⟩ := List.mem_map.mp member
    rcases starts.attempts.calls exchange listed with prepares | ⟨task, forks⟩
    · rw [same] at prepares
      exact prepares
    · rw [same] at forks
      cases forks
  have report : heardIn launch.report = [] := by
    apply heardIn_eq_nil
    intro pid mode member
    obtain ⟨exchange, listed, same⟩ := List.mem_map.mp member
    obtain ⟨bytes, written⟩ := starts.report_calls exchange listed
    rw [same] at written
    cases written
  rw [exchanges, heardIn_append, heardIn_append, heardIn_append,
    opening, attempt, heardIn_closings, report]
  rfl

/-- The children of a launch are the stage with its process, if it has one. -/
theorem Starts.pids_forksIn :
    (forksIn launch.exchanges).map Prod.snd = launch.pid?.toList := by
  rw [starts.forksIn_exchanges, pid?]
  cases ended : launch.outcome with
  | ok pid =>
      obtain ⟨_, _, forked⟩ := starts.attempts.child ended
      rw [forked]
      rfl
  | error failure =>
      rw [starts.attempts.childless ended]
      rfl

end Exchanges

end StageLaunch

/-- Nothing is in the pipe, and nothing will be: between the call that opened it
and the one that closes its end for writing, no child was made and nothing was
written. -/
def LeftEmpty (ends : Descriptor × Descriptor)
    (exchanges : List Exchange) : Prop :=
  ∃ early late,
    exchanges = ⟨.openPipe, .ok ends⟩ ::
      (early ++ ⟨.close ends.2, ()⟩ :: late) ∧
    ∀ exchange ∈ early, exchange.1.Prepares ∨
      ∃ task errno, exchange = ⟨.fork task, .error errno⟩

theorem StageLaunch.Starts.leftEmpty {launch : StageLaunch} {session : Session}
    {background : Bool} {group : Option Pid}
    (starts : launch.Starts session background group)
    (failed : launch.pid? = none) {ends : Descriptor × Descriptor}
    (pipe : launch.pipe = some ends) : LeftEmpty ends launch.exchanges := by
  refine ⟨launch.attempt ++ closings launch.input.toList, launch.report, ?_, ?_⟩
  · simp [exchanges, output, pipe, closings]
  · intro exchange member
    rcases List.mem_append.mp member with attempted | closed
    · rcases starts.attempts.calls exchange attempted with prepares |
        ⟨task, forks⟩
      · exact .inl prepares
      · obtain ⟨call, reply⟩ := exchange
        cases forks
        cases reply with
        | error errno => exact .inr ⟨task, errno, rfl⟩
        | ok pid =>
            have made : (task, pid) ∈ forksIn launch.attempt :=
              List.mem_filterMap.mpr ⟨_, attempted, rfl⟩
            cases ended : launch.outcome with
            | ok own =>
                rw [pid?, ended] at failed
                cases failed
            | error failure =>
                rw [starts.attempts.childless ended] at made
                cases made
    · obtain ⟨descriptor, _, rfl⟩ := List.mem_map.mp closed
      exact .inl trivial

namespace Stage

theorem goes_duplicateAll {pairs : List (Descriptor × Descriptor)}
    {exchanges : List Exchange}
    (goes : (duplicateAll pairs).Goes exchanges (.ok ())) :
    exchanges.map Sigma.fst = pairs.map fun pair =>
      .duplicate pair.2 pair.1 := by
  induction pairs generalizing exchanges with
  | nil =>
      obtain ⟨rfl, _⟩ := goes
      rfl
  | cons pair pairs induction =>
      obtain ⟨_, rest, reply, rfl, asked, goesOn⟩ :=
        Interaction.goes_bind.mp goes
      rw [Interaction.goes_ask.mp asked]
      cases reply with
      | ok _ =>
          rw [List.map_append, induction goesOn]
          rfl
      | error errno =>
          obtain ⟨_, impossible⟩ := goesOn
          cases impossible

/-- A child that is wired has its pipes for input and output, but for its
redirections. -/
theorem goes_wire {wiring : Wiring} {exchanges : List Exchange}
    (goes : (wire wiring).Goes exchanges (.ok ())) :
    exchanges.map Sigma.fst =
      (wiring.input.toList.map
        fun source => .duplicate source .standardInput) ++
        (wiring.output.toList.map
          fun source => .duplicate source .standardOutput) ++
        wiring.redirections.map fun pair => .duplicate pair.2 pair.1 := by
  rw [goes_duplicateAll goes, List.map_append, List.map_append, List.map_map,
    List.map_map]
  rfl

end Stage

end JobShell
