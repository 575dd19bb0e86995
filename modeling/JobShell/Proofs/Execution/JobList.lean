import JobShell.Proofs.Execution.Reports

/-!
# The job list in a stage of a pipeline

A stage works on a copy of the session, and is no parent of the jobs in it.
Whether its list is the one that the shell would write depends on the processes
alone.
-/

namespace JobShell

namespace Activity

variable {α β : Type}

/-- The activity when every wait is answered at once. -/
def withWaits (answer : Pid → WaitAnswer) : Activity α → Activity α :=
  Interaction.expand fun
    | .wait pid _ => pure (answer pid)
    | call => call.ask

variable (answer : Pid → WaitAnswer)

@[simp] theorem withWaits_bind (activity : Activity α) (next : α → Activity β) :
    withWaits answer (activity >>= next) =
      withWaits answer activity >>= fun value =>
        withWaits answer (next value) := by
  induction activity with
  | ret value => rfl
  | call call rest induction =>
      have same : (fun reply => withWaits answer (rest reply >>= next)) =
          fun reply => withWaits answer (rest reply) >>= fun value =>
            withWaits answer (next value) := funext induction
      change (_ >>=
        fun reply => withWaits answer (rest reply >>= next) : Activity β) = _
      rw [same, ← bind_assoc]
      rfl

theorem withWaits_poll (pids : List Pid) :
    withWaits answer (Shell.poll pids) =
      pure (pids.map fun pid => (pid, answer pid)) := by
  induction pids with
  | nil => rfl
  | cons pid pids induction =>
      change withWaits answer
        (Shell.poll pids >>= fun others => pure ((pid, answer pid) :: others)) =
          _
      rw [withWaits_bind, induction]
      rfl

theorem withWaits_listing (out : Descriptor) (lines : List String) :
    withWaits answer (listing out lines) = listing out lines := by
  induction lines with
  | nil => rfl
  | cons line lines induction =>
      change Interaction.call _ _ = Interaction.call _ _
      congr 1
      funext reply
      cases reply with
      | ok => exact induction
      | error errno => rfl

theorem listing_append (out : Descriptor) (lines more : List String) :
    listing out (lines ++ more) = listing out lines >>= fun
      | .ok _ => listing out more
      | .error failure => pure (.error failure) := by
  induction lines with
  | nil => rfl
  | cons line lines induction =>
      change Interaction.call _ _ = Interaction.call _ _
      congr 1
      funext reply
      cases reply with
      | ok => exact induction
      | error errno => rfl

end Activity

namespace Shell

open Activity

variable {α β : Type}

@[simp] theorem run_bind (action : Shell α) (next : α → Shell β)
    (session : Session) :
    ((action >>= next).run.run session : Activity
      (Except Failure β × Session)) =
      action.run.run session >>= fun result =>
        (ExceptT.bindCont next result.1).run result.2 :=
  rfl

theorem run_forM_display (out : Descriptor) (jobs : List Job)
    (session : Session) :
    ((jobs.forM fun job => print out job.display).run.run session :
      Activity (Except Failure PUnit × Session)) =
      listing out (jobs.map Job.display) >>= fun outcome =>
        pure (outcome, session) := by
  rw [← run_forM_print]
  congr 2
  induction jobs with
  | nil => rfl
  | cons job jobs induction =>
      exact congrArg (print out job.display >>= ·) (funext fun _ => induction)

/-- The builtin looks at the processes, and writes the lines of the list. -/
theorem run_runJobs (out : Descriptor) (session : Session) :
    ((Builtin.runJobs out).run.run session :
        Activity (Except Failure Int × Session)) =
      poll session.jobs.registered >>= fun answers =>
        listing out (((session.jobs.reap answers).1 ++
            (session.jobs.reap answers).2.jobs).map Job.display) >>=
          fun outcome =>
            pure (outcome.map fun _ => 0, withLook session answers) := by
  unfold Builtin.runJobs
  rw [run_bind, run_reap, bind_assoc]
  congr 1
  funext answers
  rw [pure_bind]
  change ((((session.jobs.reap answers).1.forM fun job =>
      print out job.display) >>= fun _ =>
    get >>= fun after =>
      (after.jobs.jobs.forM fun job => print out job.display) >>= fun _ =>
        pure 0 : Shell Int).run.run (withLook session answers) : Activity _) = _
  rw [run_bind, run_forM_display, List.map_append, listing_append,
    bind_assoc, bind_assoc]
  congr 1
  funext told
  cases told with
  | error failure => rfl
  | ok =>
      change ((((session.jobs.reap answers).2.jobs.forM
        fun job => print out job.display) >>=
        fun _ => pure 0 : Shell Int).run.run
        (withLook session answers) : Activity _) = _
      rw [run_bind, run_forM_display, bind_assoc]
      congr 1
      funext listed
      cases listed with
      | error failure => rfl
      | ok => rfl

/-- A job that is left in the background because it has stopped is not done. -/
theorem exists_live_of_waitFor_stopped {before after : Session}
    {serial shown : Nat} {resume : Bool} {status : Int}
    (ends : (waitFor serial resume).MayEnd before
      (.ok (.stopped shown status)) after) :
    ∃ job, after.jobs.get? shown = some job ∧ job.state ≠ .done := by
  have waited := waited_of_mayEnd ends
  generalize after.jobs = left at waited
  cases waited with
  | stopped known records found live =>
      exact ⟨_, JobTable.get?_update_self found _, live⟩

end Shell

namespace Stage

open Activity Shell

theorem withWaits_dispatch_jobs (answer : Pid → WaitAnswer) (out : Descriptor)
    (session : Session) :
    withWaits answer ((Builtin.dispatch ["jobs"] out).run.run session) =
      listing out (session.jobs.lines answer) >>= fun outcome =>
        pure (outcome.map fun _ => .ran 0,
          withLook session (session.jobs.looks answer)) := by
  have dispatched : (Builtin.dispatch ["jobs"] out).run.run session =
      (poll session.jobs.registered >>= fun answers =>
        listing out (((session.jobs.reap answers).1 ++
            (session.jobs.reap answers).2.jobs).map Job.display) >>=
          fun outcome =>
            pure (outcome.map fun _ => .ran 0, withLook session answers) :
        Activity _) := by
    change ((Builtin.runJobs out >>=
      fun status => pure (.ran status) : Shell Dispatch).run.run
      session : Activity _) = _
    rw [run_bind, run_runJobs]
    simp only [bind_assoc, pure_bind]
    congr 1
    funext answers
    congr 1
    funext outcome
    cases outcome <;> rfl
  rw [dispatched, withWaits_bind, withWaits_poll, pure_bind, withWaits_bind,
    withWaits_listing]
  rfl

/-- What a stage makes of the end of its list. -/
def concludeList : Except Failure PUnit → Activity Int
  | .ok _ => pure 0
  | .error failure => do
    say .standardError ("aspsh: " ++ failure.message)
    pure failure.status

theorem withWaits_runBuiltin_jobs (answer : Pid → WaitAnswer)
    (session : Session) {command : Command}
    (asked : command.arguments = ["jobs"]) :
    withWaits answer (runBuiltin session command) =
      listing .standardOutput (session.jobs.lines answer) >>= concludeList := by
  unfold runBuiltin
  rw [asked, withWaits_bind]
  refine (congrArg (· >>= _)
    (withWaits_dispatch_jobs answer .standardOutput session)).trans ?_
  rw [bind_assoc]
  congr 1
  funext outcome
  cases outcome <;> rfl

/-- The list of a stage is the list of the shell just when every process that
the table takes to be alive has in fact finished and the shell hears of it, for
the stage shows all jobs as done.  The shell itself shows, and any builtin
records, as finished only what has finished. -/
theorem jobs_as_in_shell_iff {session : Session}
    (reachable : session.jobs.Reachable) {command : Command}
    (asked : command.arguments = ["jobs"]) {actual : Pid → ProcessState}
    {answer : Pid → WaitAnswer}
    (tells : ∀ pid ∈ session.jobs.registered,
      (answer pid).Tells pid (actual pid)) :
    (∀ out : Descriptor,
      withWaits answer ((Builtin.dispatch ["jobs"] out).run.run session) =
      listing out (session.jobs.lines answer) >>= fun outcome =>
        pure (outcome.map fun _ => .ran 0,
          withLook session (session.jobs.looks answer))) ∧
    withWaits JobTable.childless (runBuiltin session command) =
      listing .standardOutput (session.jobs.lines JobTable.childless) >>=
        concludeList ∧
    (session.jobs.lines answer = session.jobs.lines JobTable.childless ↔
      ∀ pid ∈ session.jobs.registered,
        (actual pid).isFinished = true ∧ (answer pid).isHeard = true) ∧
    (∀ job ∈ session.jobs.listed JobTable.childless, job.state = .done) ∧
    (∀ job ∈ session.jobs.listed answer, job.state = .done →
      ∀ pid, session.jobs.Alive job.serial pid →
        (actual pid).isFinished = true) ∧
    (∀ (ended : Pid → Prop) (words : List String) (out : Descriptor),
      ((Builtin.dispatch words out).run.run session : Activity _).EnsuresGiven
        (Call.Excused ended)
          fun result => session.jobs.Spares ended result.2.jobs) ∧
    (∀ (after : Session) (serial shown : Nat) (resume : Bool) (status : Int),
      (waitFor serial resume).MayEnd session
        (.ok (.stopped shown status)) after →
        ∃ job, after.jobs.get? shown = some job ∧ job.state ≠ .done) := by
  have sound := reachable.sound
  refine ⟨fun out => withWaits_dispatch_jobs answer out session,
    withWaits_runBuiltin_jobs _ session asked,
    JobTable.lines_eq_childless_iff sound tells, ?_, ?_, ?_, ?_⟩
  · intro job listed
    exact JobTable.state_eq_done_of_mem_listed_childless sound listed
  · intro job listed done pid alive
    exact (JobTable.heardOfEnd_of_listed_done sound tells listed done alive).1
  · intro ended words out
    exact Builtin.spares_dispatch words out session
  · intro after serial shown resume status ends
    exact exists_live_of_waitFor_stopped ends

/-- The first job has finished, and the second one is still asleep. -/
def sleeping : Session :=
  { Session.fresh 1 "/" .empty with
    jobs :=
      ((JobTable.empty.add 5 [5] "sleep 1" true).2.add 6 [6] "sleep 5" true).2 }

def sleepingStates (pid : Pid) : ProcessState :=
  if pid = 6 then .running else .exited 0

def sleepingAnswers (pid : Pid) : WaitAnswer :=
  if pid = 6 then .noChange else .changed pid (.exited 0)

theorem reachable_sleeping : sleeping.jobs.Reachable :=
  (Relation.ReflTransGen.single
    (.add 5 [5] "sleep 1" true (by decide) (by decide))).tail
    (.add 6 [6] "sleep 5" true (by decide) (by decide))

theorem tells_sleeping : ∀ pid ∈ sleeping.jobs.registered,
    (sleepingAnswers pid).Tells pid (sleepingStates pid) := by
  intro pid known
  have either : pid ∈ [5, 6] := known
  simp only [List.mem_cons, List.not_mem_nil, or_false] at either
  rcases either with rfl | rfl
  · exact .changed
  · exact .noChange rfl

theorem jobs_as_in_shell_iff_of_sleeping :
    sleeping.jobs.Reachable ∧
    (∀ pid ∈ sleeping.jobs.registered,
      (sleepingAnswers pid).Tells pid (sleepingStates pid)) ∧
    (sleeping.jobs.listed sleepingAnswers).map
      (fun job => (job.serial, job.state)) =
      [(1, .done), (2, .running)] ∧
    (∀ job ∈ sleeping.jobs.listed JobTable.childless, job.state = .done) ∧
    sleeping.jobs.lines sleepingAnswers ≠
      sleeping.jobs.lines JobTable.childless := by
  let command : Command := { arguments := ["jobs"], redirections := [],
                             builtin := false }
  have asked : command.arguments = ["jobs"] := rfl
  obtain ⟨_, _, same, done, _⟩ :=
    jobs_as_in_shell_iff reachable_sleeping asked tells_sleeping
  refine ⟨reachable_sleeping, tells_sleeping, by decide, done, ?_⟩
  rw [Ne, same]
  decide

/-- The list is not always the same. -/
theorem not_jobs_as_in_shell :
    ¬∀ (session : Session) (actual : Pid → ProcessState) (answer : Pid →
      WaitAnswer),
      session.jobs.Reachable →
        (∀ pid ∈ session.jobs.registered, (answer pid).Tells pid (actual pid)) →
          session.jobs.lines answer =
            session.jobs.lines JobTable.childless := by
  intro same
  have lines :=
    same sleeping sleepingStates sleepingAnswers reachable_sleeping
      tells_sleeping
  have finished :=
    (JobTable.lines_eq_childless_iff reachable_sleeping.sound tells_sleeping).mp
      lines 6 (by decide)
  cases finished.1

end Stage

end JobShell
