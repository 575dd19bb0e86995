import JobShell.Proofs.Execution.Launching
import JobShell.Proofs.Machine.Places

/-!
# What a failing builtin leaves behind

A builtin may fail early or late: over its arguments, over the table of jobs,
over the files, over a signal that is refused.  It changes something only when
nothing of this can happen any more.  What may still go wrong then is the
output, and a wait that the system does not answer as it says.
-/

namespace JobShell

/-- The output takes what is written to it, and a wait fails only because it has
been interrupted or because the process is no child. -/
def Exchange.IsFair : Exchange → Prop
  | ⟨.write _ _, reply⟩ => reply = .ok ()
  | ⟨.wait _ _, answer⟩ =>
    ∀ errno, answer = .failed errno → errno = .interrupted ∨ errno = .noChild
  | _ => True

/-- A wait for a process fails over an answer that is not fair. -/
theorem WaitAnswer.failed_of_verdict?_error {answer : WaitAnswer}
    {failure : Failure} (ended : answer.verdict? = some (.error failure)) :
    ∃ errno,
      answer = .failed errno ∧ ¬(errno = .interrupted ∨ errno = .noChild) := by
  cases answer with
  | changed pid state => cases state <;> cases ended
  | noChange => cases ended
  | other => cases ended
  | failed errno =>
      refine ⟨errno, rfl, ?_⟩
      rintro (rfl | rfl)
      · cases ended
      · cases ended

namespace Shell

open JobTable

variable {α β : Type}

/-- On fair replies the action does not fail. -/
def Succeeds (action : Shell α) : Prop :=
  ∀ (before after : Session) (exchanges : List Exchange) (failure : Failure),
    action.Goes before exchanges (.error failure) after →
      ¬∀ exchange ∈ exchanges, exchange.IsFair

namespace Succeeds

theorem pure (value : α) : Succeeds (pure value : Shell α) := by
  intro before after exchanges failure goes
  cases (goes_pure.mp goes).2.1

theorem bind {action : Shell α} {next : α → Shell β}
    (succeeds : Succeeds action)
    (goOn : ∀ value, Succeeds (next value)) : Succeeds (action >>= next) := by
  intro before after exchanges failure goes fair
  rcases goes_bind.mp goes with ⟨first, second, value, between, rfl, _, late⟩ |
    ⟨_, early, _⟩
  · exact goOn value _ _ _ _ late (List.forall_mem_append.mp fair).2
  · exact succeeds _ _ _ _ early fair

theorem get_bind {next : Session → Shell α}
    (goOn : ∀ session, Succeeds (next session)) :
    Succeeds (get >>= next) := by
  intro before after exchanges failure goes
  exact goOn before before after exchanges failure (goes_get_bind.mp goes)

theorem modify (change : Session → Session) :
    Succeeds (modify change : Shell PUnit) := by
  intro before after exchanges failure goes
  cases goes.2

theorem lift (activity : Activity α) : Succeeds (liftM activity : Shell α) := by
  intro before after exchanges failure goes
  obtain ⟨_, _, impossible, _⟩ := goes_lift.mp goes
  cases impossible

theorem discard {action : Shell α} (succeeds : Succeeds action) :
    Succeeds (Functor.discard action) := by
  rw [discard_eq_bind]
  exact succeeds.bind fun _ => .pure ()

/-- What comes next may rely on a fair reply. -/
theorem ask_bind {call : Call} {next : call.Reply → Shell β}
    (goOn : ∀ reply, Exchange.IsFair ⟨call, reply⟩ → Succeeds (next reply)) :
    Succeeds (liftM call.ask >>= next) := by
  intro before after exchanges failure goes fair
  obtain ⟨reply, rest, rfl, late⟩ := goes_ask_bind.mp goes
  obtain ⟨first, others⟩ := List.forall_mem_cons.mp fair
  exact goOn reply first _ _ _ _ late others

/-- A failure that is caught would be one on fair replies. -/
theorem attempt_bind {action : Shell α} {next : Except Failure α → Shell β}
    (succeeds : Succeeds action) (goOn : ∀ value, Succeeds (next (.ok value))) :
    Succeeds (attempt action >>= next) := by
  intro before after exchanges failure goes fair
  obtain ⟨first, second, ended, between, rfl, early, late⟩ :=
    goes_attempt_bind.mp goes
  obtain ⟨earlyFair, lateFair⟩ := List.forall_mem_append.mp fair
  cases ended with
  | ok value => exact goOn value _ _ _ _ late lateFair
  | error failure => exact succeeds _ _ _ _ early earlyFair

theorem forM {lines : List α} {action : α → Shell PUnit}
    (succeeds : ∀ line, Succeeds (action line)) :
    Succeeds (lines.forM action) := by
  induction lines with
  | nil => exact .pure PUnit.unit
  | cons line rest induction => exact (succeeds line).bind fun _ => induction

theorem print (descriptor : Descriptor)
    (line : String) : Succeeds (print descriptor line) := by
  apply ask_bind
  intro reply fair
  obtain rfl : reply = .ok () := fair
  exact .pure ()

end Succeeds

theorem succeeds_awaitProcess (patience : Nat) (pid : Pid) :
    Succeeds (awaitProcess patience pid) := by
  induction patience with
  | zero => exact .lift Activity.hang
  | succ patience induction =>
      rw [awaitProcess_succ]
      apply Succeeds.ask_bind
      intro answer fair
      apply (Succeeds.modify _).bind
      intro _
      cases verdict : answer.verdict? with
      | none => exact induction
      | some ended =>
          cases ended with
          | ok stopped => exact .pure stopped
          | error failure =>
              obtain ⟨errno, rfl, others⟩ :=
                WaitAnswer.failed_of_verdict?_error verdict
              exact absurd (fair errno rfl) others

theorem succeeds_awaitProcesses
    (pids : List Pid) : Succeeds (awaitProcesses pids) := by
  induction pids with
  | nil => exact .pure ()
  | cons pid rest induction =>
      apply (succeeds_awaitProcess patience pid).bind
      intro stopped
      split
      · exact .pure ()
      · exact induction

theorem succeeds_giveTerminal (group : Pid) :
    Succeeds (giveTerminal group) := by
  apply Succeeds.get_bind
  intro session
  split
  · exact .discard (.lift _)
  · exact .pure ()

theorem succeeds_settleForeground
    (serial : Nat) : Succeeds (settleForeground serial) := by
  apply Succeeds.get_bind
  intro session
  cases session.jobs.get? serial with
  | none => exact .pure _
  | some job =>
      dsimp only
      split
      · exact (Succeeds.modify _).bind fun _ => .pure _
      · exact (Succeeds.modify _).bind fun _ => .pure _

/-- A wait can be refused only before it has begun. -/
theorem succeeds_behind_waitFor (serial : Nat) (resume : Bool)
    (job : Job) : Succeeds (do
      modifyJobs fun table =>
        (table.update serial (toForeground resume)).makeCurrent serial
      giveTerminal job.group
      Activity.setForeground (some job.group)
      if resume then discard (Activity.signalGroup job.group .cont)
      waitBehindSignal serial) := by
  have waiting : Succeeds (waitBehindSignal serial) := by
    apply Succeeds.get_bind
    intro session
    apply Succeeds.attempt_bind (succeeds_awaitProcesses _)
    intro _
    apply (Succeeds.lift _).bind
    intro _
    apply (Succeeds.get_bind fun _ => succeeds_giveTerminal _).bind
    intro _
    exact (Succeeds.pure ()).bind fun _ => succeeds_settleForeground serial
  apply (Succeeds.modify _).bind
  intro _
  apply (succeeds_giveTerminal job.group).bind
  intro _
  apply (Succeeds.lift _).bind
  intro _
  split
  · exact (Succeeds.discard (.lift _)).bind fun _ => waiting
  · exact waiting

/-- On fair replies, an action that fails has left the session alone and has not
gone to another directory. -/
def FailsIdle (action : Shell α) : Prop :=
  ∀ (before after : Session) (exchanges : List Exchange) (failure : Failure),
    action.Goes before exchanges (.error failure) after →
      (∀ exchange ∈ exchanges, exchange.IsFair) →
        after = before ∧ ∀ exchange ∈ exchanges, ¬exchange.Moves

theorem Asks.not_moves {action : Shell α} (asks : Asks Call.Stays action)
    {before after : Session} {exchanges : List Exchange}
    {outcome : Except Failure α}
    (goes : action.Goes before exchanges outcome after) :
    after = before ∧ ∀ exchange ∈ exchanges, ¬exchange.Moves := by
  obtain ⟨same, stays⟩ := asks _ _ _ _ goes
  exact ⟨same, fun exchange member =>
    Exchange.not_moves_of_stays (stays exchange member)⟩

namespace FailsIdle

theorem of_succeeds {action : Shell α}
    (succeeds : Succeeds action) : FailsIdle action :=
  fun _ _ _ _ goes fair => absurd fair (succeeds _ _ _ _ goes)

theorem of_asks {action : Shell α}
    (asks : Asks Call.Stays action) : FailsIdle action :=
  fun _ _ _ _ goes _ => asks.not_moves goes

/-- What only looks may come before. -/
theorem asks_bind {action : Shell α} {next : α → Shell β}
    (asks : Asks Call.Stays action)
    (idle : ∀ value, FailsIdle (next value)) : FailsIdle (action >>= next) := by
  intro before after exchanges failure goes fair
  rcases goes_bind.mp goes with
    ⟨first, second, value, between, rfl, early, late⟩ | ⟨_, early, _⟩
  · obtain ⟨rfl, firstStays⟩ := asks.not_moves early
    obtain ⟨_, secondFair⟩ := List.forall_mem_append.mp fair
    obtain ⟨same, secondStays⟩ := idle value _ _ _ _ late secondFair
    exact ⟨same, List.forall_mem_append.mpr ⟨firstStays, secondStays⟩⟩
  · exact asks.not_moves early

/-- What does not fail may come behind. -/
theorem bind_succeeds {action : Shell α} {next : α → Shell β}
    (idle : FailsIdle action) (succeeds : ∀ value, Succeeds (next value)) :
    FailsIdle (action >>= next) := by
  intro before after exchanges failure goes fair
  rcases goes_bind.mp goes with ⟨first, second, value, between, rfl, _, late⟩ |
    ⟨_, early, _⟩
  · obtain ⟨_, secondFair⟩ := List.forall_mem_append.mp fair
    exact absurd secondFair (succeeds value _ _ _ _ late)
  · exact idle _ _ _ _ early fair

end FailsIdle

theorem asks_job (command : String)
    (serial : Nat) : Asks Call.Stays (job command serial) := by
  apply Asks.get_bind
  intro session
  cases session.jobs.get? serial with
  | some job => exact .pure job
  | none => exact .throw _

theorem asks_signalGroup (group : Pid) (signal : Signal) :
    Asks Call.Stays (Shell.signalGroup group signal) := by
  apply Asks.ask_bind trivial
  intro reply
  cases reply with
  | ok => exact .pure ()
  | error errno => exact .throw _

theorem asks_print (descriptor : Descriptor) (line : String) :
    Asks Call.Stays (print descriptor line) := by
  apply Asks.ask_bind trivial
  intro reply
  cases reply with
  | ok => exact .pure ()
  | error errno => exact .throw _

theorem asks_serialOf (command argument : String) :
    Asks Call.Stays (serialOf command argument) := by
  unfold serialOf
  dsimp only
  split
  · exact .pure _
  · exact .throw _

theorem asks_signalJob (serial : Nat) (signal : Signal) :
    Asks Call.Stays (signalJob serial signal) := by
  apply (asks_job "kill" serial).bind
  intro job
  apply (asks_signalGroup job.group signal).bind
  intro _
  split
  · exact asks_signalGroup job.group .cont
  · exact .pure ()

theorem failsIdle_waitFor (serial : Nat)
    (resume : Bool) : FailsIdle (waitFor serial resume) :=
  .asks_bind (asks_job "fg" serial) fun job =>
    .of_succeeds (succeeds_behind_waitFor serial resume job)

theorem goes_job {command : String} {serial : Nat}
    {outcome : Except Failure Job} {before after : Session}
    {exchanges : List Exchange}
    (goes : (job command serial).Goes before exchanges outcome after) :
    outcome = (before.jobs.get? serial).elim
      (.error (noSuchJob command serial)) .ok :=
  (mayEnd_job.mp (mayEnd_of_goes goes)).1

/-- A job that has been told to go on is found again. -/
theorem failsIdle_resumeBackground
    (serial : Nat) : FailsIdle (resumeBackground serial) := by
  intro before after exchanges failure goes fair
  unfold resumeBackground at goes
  rcases goes_bind.mp goes with ⟨first, _, job, between, rfl, looked, sent⟩ |
    ⟨_, looked, _⟩
  · obtain ⟨rfl, firstStays⟩ := (asks_job "bg" serial).not_moves looked
    rcases goes_bind.mp sent with ⟨_, _, _, told, rfl, signalled, goesOn⟩ |
      ⟨_, refused, _⟩
    · obtain ⟨rfl, _⟩ := (asks_signalGroup job.group .cont).not_moves signalled
      rw [goes_modifyJobs_bind] at goesOn
      have found := goes_job looked
      have foundAgain := goes_job goesOn
      cases known : told.jobs.get? serial with
      | none =>
          rw [known] at found
          cases found
      | some held =>
          dsimp only at foundAgain
          rw [get?_makeCurrent, get?_update_self known] at foundAgain
          cases foundAgain
    · obtain ⟨same, secondStays⟩ :=
        (asks_signalGroup job.group .cont).not_moves refused
      exact ⟨same, List.forall_mem_append.mpr ⟨firstStays, secondStays⟩⟩
  · exact (asks_job "bg" serial).not_moves looked

/-- A change of directory that is refused is none. -/
theorem unchanged_of_changeDirectory_refused {target : String}
    {error : FileError} {before after : Session} {exchanges : List Exchange}
    (goes : (Shell.changeDirectory target).Goes before exchanges
      (.ok (.error error)) after) :
    after = before ∧ ∀ exchange ∈ exchanges, ¬exchange.Moves := by
  unfold Shell.changeDirectory at goes
  obtain ⟨world, rest, rfl, looked⟩ := goes_ask_bind.mp goes
  rw [List.forall_mem_cons]
  cases resolved : world.canonicalize target with
  | error missing =>
      simp only [resolved] at looked
      obtain ⟨rfl, _, rfl⟩ := goes_pure.mp looked
      exact ⟨rfl, id, List.forall_mem_nil _⟩
  | ok path =>
      simp only [resolved] at looked
      split at looked
      · obtain ⟨rfl, _, rfl⟩ := goes_pure.mp looked
        exact ⟨rfl, id, List.forall_mem_nil _⟩
      · obtain ⟨reply, others, rfl, entered⟩ := goes_ask_bind.mp looked
        cases reply with
        | error refusal =>
            obtain ⟨rfl, _, rfl⟩ := goes_pure.mp entered
            refine ⟨rfl, id, ?_⟩
            rw [List.forall_mem_singleton]
            exact nofun
        | ok =>
            -- the directory has been entered, and this is what is answered
            cases entered.2

theorem succeeds_changeDirectory
    (target : String) : Succeeds (Shell.changeDirectory target) := by
  apply (Succeeds.lift _).bind
  intro world
  cases world.canonicalize target with
  | error error => exact .pure _
  | ok path =>
      dsimp only
      split
      · exact .pure _
      · apply (Succeeds.lift _).bind
        intro reply
        cases reply with
        | error error => exact .pure _
        | ok => exact (Succeeds.modify _).bind fun _ => .pure _

end Shell

namespace Builtin

open Shell

theorem asks_runPwd (out : Descriptor) : Asks Call.Stays (runPwd out) := by
  apply Asks.ask_bind trivial
  intro world
  cases World.currentDirectory world with
  | ok directory => exact (asks_print out directory).bind fun _ => .pure 0
  | error error => exact .throw _

theorem asks_cdTarget (argument : Option String) :
    Asks Call.Stays (cdTarget argument) := by
  unfold cdTarget
  split
  · exact .get_bind fun _ => .pure _
  · apply Asks.get_bind
    intro session
    cases session.directories.previous with
    | some previous => exact .pure _
    | none => exact .throw _
  · exact .ask_bind trivial fun _ => .pure _

/-- When the directory has been entered, only the output is left. -/
theorem failsIdle_runCd (argument : Option String) (out : Descriptor) :
    FailsIdle (runCd argument out) := by
  apply FailsIdle.asks_bind (asks_cdTarget argument)
  rintro ⟨target, announced⟩ before after exchanges failure goes fair
  rcases goes_bind.mp goes with
    ⟨first, second, changed, _, rfl, tried, goesOn⟩ | ⟨_, tried, _⟩
  · cases changed with
    | error error =>
        obtain ⟨rfl, stays⟩ := unchanged_of_changeDirectory_refused tried
        obtain ⟨rfl, _, rfl⟩ := goes_throw.mp goesOn
        rw [List.append_nil]
        exact ⟨rfl, stays⟩
    | ok path =>
        obtain ⟨_, secondFair⟩ := List.forall_mem_append.mp fair
        have succeeds : Succeeds (do
            if announced then print out ((← Activity.observe).tildify path)
            pure 0 : Shell Int) := by
          dsimp only
          split
          · apply (Succeeds.lift _).bind
            intro world
            exact (Succeeds.print out _).bind fun _ => .pure 0
          · exact .pure 0
        exact absurd secondFair (succeeds _ _ _ _ goesOn)
  · exact absurd fair (succeeds_changeDirectory target _ _ _ _ tried)

theorem succeeds_runHistory (out : Descriptor) : Succeeds (runHistory out) := by
  apply Succeeds.get_bind
  intro session
  exact (Succeeds.forM fun line => .print out line).bind fun _ => .pure 0

theorem succeeds_runQuit : Succeeds runQuit := by
  apply (Succeeds.modify _).bind
  intro _
  exact .get_bind fun _ => .pure _

theorem succeeds_runJobs (out : Descriptor) : Succeeds (runJobs out) := by
  have reaps : Succeeds reap := by
    apply Succeeds.get_bind
    intro session
    apply (Succeeds.lift _).bind
    intro answers
    apply Succeeds.get_bind
    intro seen
    exact (Succeeds.modify _).bind fun _ => .pure _
  apply reaps.bind
  intro finished
  apply (Succeeds.forM fun job => .print out (Job.display job)).bind
  intro _
  apply Succeeds.get_bind
  intro session
  exact (Succeeds.forM fun job => .print out (Job.display job)).bind
    fun _ => .pure 0

theorem failsIdle_runBg (argument : String) (out : Descriptor) :
    FailsIdle (runBg argument out) := by
  apply FailsIdle.asks_bind (asks_serialOf "bg" argument)
  intro serial
  apply (failsIdle_resumeBackground serial).bind_succeeds
  intro job
  exact (Succeeds.print out _).bind fun _ => .pure 0

theorem failsIdle_runFg (argument : String) (out : Descriptor) :
    FailsIdle (runFg argument out) := by
  apply FailsIdle.asks_bind (asks_serialOf "fg" argument)
  intro serial
  apply FailsIdle.asks_bind (asks_job "fg" serial)
  intro job
  apply FailsIdle.asks_bind (asks_print out job.command)
  intro _
  apply (failsIdle_waitFor serial true).bind_succeeds
  intro outcome
  cases outcome with
  | exited status => exact .pure status
  | stopped serial status =>
      apply Succeeds.get_bind
      intro session
      cases session.jobs.get? serial with
      | some job => exact (Succeeds.print out _).bind fun _ => .pure status
      | none => exact .pure status

theorem asks_runKill (argument : String) :
    Asks Call.Stays (runKill argument) := by
  apply (asks_serialOf "kill" argument).bind
  intro serial
  exact (asks_signalJob serial .term).bind fun _ => .pure 0

theorem failsIdle_runSleep (argument : String) :
    FailsIdle (runSleep argument) := by
  unfold runSleep
  cases Text.parseSeconds? argument with
  | none => exact .of_asks (.throw _)
  | some interval =>
      apply FailsIdle.of_succeeds
      apply (Succeeds.discard (.lift _)).bind
      intro _
      apply (Succeeds.lift _).bind
      intro started
      exact .lift _

theorem failsIdle_run (builtin : Builtin) (arguments : List String)
    (out : Descriptor) :
    FailsIdle (builtin.run arguments out) := by
  cases builtin with
  | pwd => exact .of_asks (asks_runPwd out)
  | cd => exact failsIdle_runCd arguments.head? out
  | history => exact .of_succeeds (succeeds_runHistory out)
  | quit => exact .of_succeeds succeeds_runQuit
  | exit => exact .of_succeeds succeeds_runQuit
  | jobs => exact .of_succeeds (succeeds_runJobs out)
  | bg => exact failsIdle_runBg (arguments.headD "") out
  | fg => exact failsIdle_runFg (arguments.headD "") out
  | kill => exact .of_asks (asks_runKill (arguments.headD ""))
  | echo => exact .of_asks ((asks_print out _).bind fun _ => .pure 0)
  | sleep => exact failsIdle_runSleep (arguments.headD "")

theorem failsIdle_dispatch (words : List String) (out : Descriptor) :
    FailsIdle (dispatch words out) := by
  unfold dispatch
  split
  · exact .of_asks (.pure _)
  · split
    · exact .of_asks (.pure _)
    · split
      · exact .of_asks (.throw _)
      · exact (failsIdle_run _ _ out).bind_succeeds fun _ => .pure _

/-- What a builtin does with the words of its command, each word looked up at
the place where the builtin looks for it.  There is nothing to do when a place
that it relies on is behind the last word. -/
def runAt? (builtin : Builtin) (words : List String)
    (out : Descriptor) : Option (Shell Int) :=
  match builtin with
  | pwd => some (runPwd out)
  | cd => some (runCd words[1]? out)
  | history => some (runHistory out)
  | quit | exit => some runQuit
  | jobs => some (runJobs out)
  | bg => words[1]?.map fun argument => runBg argument out
  | fg => words[1]?.map fun argument => runFg argument out
  | kill => words[1]?.map runKill
  | echo => if 1 ≤ words.length then some (runEcho (words.drop 1) out) else none
  | sleep => words[1]?.map runSleep

section Arguments

variable {builtin : Builtin} {given : Nat} {arguments : List String}

theorem least_le_greatest {greatest : Nat}
    (bounded : builtin.bounds.2 = some greatest) :
    builtin.bounds.1 ≤ greatest := by
  cases builtin <;> simp [bounds] at bounded ⊢ <;> omega

theorem violated?_of_few (few : given < builtin.bounds.1) :
    builtin.violated? given = some (.min builtin.bounds.1) := by
  simp only [violated?]
  rw [if_pos few]

theorem violated?_of_many {greatest : Nat}
    (bounded : builtin.bounds.2 = some greatest) (many : greatest < given) :
    builtin.violated? given = some (.max greatest) := by
  have enough : ¬given < builtin.bounds.1 := by
    have ordered := least_le_greatest bounded
    omega
  simp only [violated?, bounded]
  rw [if_neg enough, Option.bind_some, if_pos many]

theorem violated?_eq_none (enough : builtin.bounds.1 ≤ given)
    (atMost : ∀ greatest, builtin.bounds.2 = some greatest → given ≤ greatest) :
    builtin.violated? given = none := by
  simp only [violated?]
  rw [if_neg (Nat.not_lt.mpr enough), Option.bind_eq_none_iff]
  intro greatest bounded
  exact if_neg (Nat.not_lt.mpr (atMost greatest bounded))

/-- Whoever gives a builtin as many words as it takes at least gives it all
those that it looks for. -/
theorem runAt?_cons (name : String) (out : Descriptor)
    (enough : builtin.bounds.1 ≤ (name :: arguments).length) :
    builtin.runAt? (name :: arguments) out =
      some (builtin.run arguments out) := by
  cases arguments with
  | nil =>
      -- the builtins that look for a second word take two words at least
      cases builtin <;> first | rfl | cases Nat.le_of_succ_le_succ enough
  | cons argument arguments => cases builtin <;> rfl

theorem dispatch_of_violated {bound : ArityBound} (out : Descriptor)
    (violated : builtin.violated? (arguments.length + 1) = some bound) :
    dispatch (builtin.name :: arguments) out =
      throw (.arity builtin.name bound (arguments.length + 1)) := by
  simp only [dispatch, ofName?_name, List.length_cons, violated]

theorem dispatch_of_fitting (out : Descriptor)
    (fitting : builtin.violated? (arguments.length + 1) = none) :
    dispatch (builtin.name :: arguments) out =
      (do let status ← builtin.run arguments out
          pure (.ran status)) := by
  simp only [dispatch, ofName?_name, List.length_cons, fitting]

end Arguments

/-- A builtin that fails has changed nothing, neither the session nor the
working directory, as long as its output arrives and waits fail for no other
reasons than they do; on a machine that gives these replies the shell is where
it was.  It always fails when it has too few or too many words, and otherwise
looks for no word that is not there. -/
theorem nothing_changed_by_failure (words : List String) (out : Descriptor) :
    (∀ (before after : Session) (exchanges : List Exchange) (failure : Failure),
      (dispatch words out).Goes before exchanges (.error failure) after →
      (∀ exchange ∈ exchanges, exchange.IsFair) →
        after = before ∧ (∀ exchange ∈ exchanges, ¬exchange.Moves) ∧
        ∀ machine last : Machine, machine.Replies exchanges last →
          machine.KeepsShell last) ∧
    ∀ (builtin : Builtin) (arguments : List String),
      words = builtin.name :: arguments →
      (words.length < builtin.bounds.1 →
        dispatch words out =
          throw (.arity builtin.name (.min builtin.bounds.1) words.length)) ∧
      (∀ greatest, builtin.bounds.2 = some greatest → greatest < words.length →
        dispatch words out =
          throw (.arity builtin.name (.max greatest) words.length)) ∧
      (builtin.bounds.1 ≤ words.length →
        (∀ greatest, builtin.bounds.2 = some greatest →
          words.length ≤ greatest) →
        ∃ action, builtin.runAt? words out = some action ∧
          dispatch words out = (do let status ← action
                                   pure (.ran status))) := by
  constructor
  · intro before after exchanges failure goes fair
    obtain ⟨same, still⟩ :=
      failsIdle_dispatch words out before after exchanges failure goes fair
    exact ⟨same, still, fun machine last replies => replies.keepsShell still⟩
  · rintro builtin arguments rfl
    refine ⟨fun few => ?_, fun greatest bounded many => ?_,
      fun enough atMost => ?_⟩
    · exact dispatch_of_violated out (violated?_of_few few)
    · exact dispatch_of_violated out (violated?_of_many bounded many)
    · exact ⟨builtin.run arguments out, runAt?_cons builtin.name out enough,
        dispatch_of_fitting out (violated?_eq_none enough atMost)⟩

/-- A session with one job, which has stopped. -/
def oneStopped : Session :=
  { Session.fresh 1 "/" .empty with
    jobs :=
      (JobTable.empty.add 10 [10] "sleep 9" true).2.record 10 (.stopped .tstp) }

/-- The group of the job is gone, and the signal to go on is refused. -/
def refusedSignal : List Exchange :=
  [⟨.signalGroup 10 .cont, .error .noProcess⟩]

/-- A machine with nothing in its tree. -/
def bareMachine : Machine :=
  .start
    { files := { root := .directory [], contents := #[] }, place := .root,
      environment := []
      accountHome := "/" }

/-- The looks for a directory that is not there. -/
def vainLooks : List Exchange :=
  [⟨.observe, bareMachine.world⟩, ⟨.observe, bareMachine.world⟩]

/-- A signal that is refused, a directory that is not there, and words that are
too few, too many, or just as many as it takes. -/
theorem nothing_changed_by_failure_oneStopped :
    (dispatch ["bg", "%1"] 1).Goes oneStopped refusedSignal
      (.error (.system .noProcess)) oneStopped ∧
    (∀ exchange ∈ refusedSignal, ¬exchange.Moves) ∧
    (dispatch ["cd", "a"] 1).Goes oneStopped vainLooks
      (.error (.runtime "cd" (.unreachable "a" (.system .noEntry))))
        oneStopped ∧
    bareMachine.KeepsShell bareMachine ∧
    dispatch ["fg"] 1 = throw (.arity "fg" (.min 2) 1) ∧
    dispatch ["cd", "a", "b"] 1 = throw (.arity "cd" (.max 2) 3) ∧
    ∃ action, runAt? .kill ["kill", "1"] 1 = some action ∧
      dispatch ["kill", "1"] 1 = (do let status ← action
                                     pure (.ran status)) := by
  have refused : (dispatch ["bg", "%1"] 1).Goes oneStopped refusedSignal
      (.error (.system .noProcess)) oneStopped :=
    ⟨_, _, rfl, rfl, rfl⟩
  have looked : (dispatch ["cd", "a"] 1).Goes oneStopped vainLooks
      (.error (.runtime "cd" (.unreachable "a" (.system .noEntry))))
        oneStopped :=
    ⟨_, _, rfl, _, _, rfl, rfl, rfl⟩
  have replies : bareMachine.Replies vainLooks bareMachine :=
    .cons rfl (.cons rfl (.nil _))
  obtain ⟨_, still, _⟩ :=
    (nothing_changed_by_failure ["bg", "%1"] 1).1 _ _ _ _ refused
    (by simp [refusedSignal, Exchange.IsFair])
  obtain ⟨_, _, keeps⟩ :=
    (nothing_changed_by_failure ["cd", "a"] 1).1 _ _ _ _ looked
    (by simp [vainLooks, Exchange.IsFair])
  obtain ⟨few, _⟩ := (nothing_changed_by_failure ["fg"] 1).2 .fg [] rfl
  obtain ⟨_, many, _⟩ :=
    (nothing_changed_by_failure ["cd", "a", "b"] 1).2 .cd ["a", "b"] rfl
  obtain ⟨_, _, fits⟩ :=
    (nothing_changed_by_failure ["kill", "1"] 1).2 .kill ["1"] rfl
  exact ⟨refused, still, looked, keeps _ _ replies, few (by decide),
    many 2 rfl (by decide), fits (by decide) (by simp [bounds])⟩

end Builtin

end JobShell
