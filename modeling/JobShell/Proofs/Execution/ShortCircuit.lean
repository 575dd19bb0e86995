import JobShell.Execution.Sequence
import JobShell.Proofs.Line.Joining
import JobShell.Proofs.System.Outcome

/-!
# Short-circuit execution

`ShortCircuit` says, apart from the loop that runs a sequence, which of its
pipelines run: the first one, and then each one whose join asks for it after the
status so far, up to a pipeline that leaves the wish to quit.  What a pipeline
does when it runs is a parameter.
-/

namespace JobShell

namespace Shell

/-- The status that an outcome stands for. -/
def statusOf : Except Failure Int → Int
  | .ok status => status
  | .error failure => failure.status

/-- Whether a pipeline runs that stands behind this join, after a status. -/
def IsDue (status : Int) : Join → Prop
  | .sequential => True
  | .andThen => status = 0
  | .orElse => status ≠ 0
  | .pipe | .none => False

section Reference

variable (runOne : Pipeline → Shell Int)

/-- One pipeline runs: it may do what it does, and its status is noted. -/
def Turn (pipeline : Pipeline) (before : Session) (status : Int)
    (after : Session) : Prop :=
  ∃ outcome left, (runOne pipeline).MayEnd before outcome left ∧
    status = statusOf outcome ∧ after = { left with lastStatus := status }

/-- What follows a turn that has left this session and this status: the
pipelines behind it, those of them that run, the status of the last turn, and
the session in the end. -/
inductive RunsOn :
    Session → Int → List Pipeline → List Pipeline → Int → Session → Prop where
  | quit {session : Session} {status : Int} {pipelines : List Pipeline}
      (requested : session.quitRequested = true) :
      RunsOn session status pipelines [] status session
  | finished {session : Session} {status : Int}
      (goesOn : session.quitRequested = false) :
      RunsOn session status [] [] status session
  | skipped {session after : Session} {status final : Int} {pipeline : Pipeline}
      {pipelines ran : List Pipeline} (goesOn : session.quitRequested = false)
      (notDue : ¬IsDue status pipeline.after)
      (rest : RunsOn session status pipelines ran final after) :
      RunsOn session status (pipeline :: pipelines) ran final after
  | run {session between after : Session} {status next final : Int}
      {pipeline : Pipeline} {pipelines ran : List Pipeline}
      (goesOn : session.quitRequested = false)
      (due : IsDue status pipeline.after)
      (turn : Turn runOne pipeline session next between)
      (rest : RunsOn between next pipelines ran final after) :
      RunsOn session status (pipeline :: pipelines)
        (pipeline :: ran) final after

/-- The pipelines of a sequence, those of them that run, the final status, and
the session in the end. -/
inductive ShortCircuit :
    List Pipeline → Session → List Pipeline → Int → Session → Prop where
  | nothing (session : Session) :
      ShortCircuit [] session [] session.lastStatus session
  | first {session between after : Session} {status final : Int}
      {pipeline : Pipeline} {pipelines ran : List Pipeline}
      (turn : Turn runOne pipeline session status between)
      (rest : RunsOn runOne between status pipelines ran final after) :
      ShortCircuit (pipeline :: pipelines) session (pipeline :: ran) final after

end Reference

variable {runOne : Pipeline → Shell Int} {before after : Session} {status : Int}
  {pipeline : Pipeline} {pipelines ran : List Pipeline}

theorem Turn.lastStatus (turn : Turn runOne pipeline before status after) :
    after.lastStatus = status := by
  obtain ⟨_, _, _, _, rfl⟩ := turn
  rfl

theorem RunsOn.lastStatus {final : Int}
    (runsOn : RunsOn runOne before status pipelines ran final after)
    (noted : before.lastStatus = status) : after.lastStatus = final := by
  induction runsOn with
  | quit => exact noted
  | finished => exact noted
  | skipped _ _ _ induction => exact induction noted
  | run _ _ turn _ induction => exact induction turn.lastStatus

theorem ShortCircuit.lastStatus
    (runs : ShortCircuit runOne pipelines before ran status after) :
    after.lastStatus = status := by
  cases runs with
  | nothing => rfl
  | first turn rest => exact rest.lastStatus turn.lastStatus

theorem mayYield_say (descriptor : Descriptor) (line : String) :
    (Activity.say descriptor line).MayYield () :=
  ⟨.ok (), rfl⟩

theorem mayEnd_reported_bind {α : Type} {action : Shell Int}
    {next : Int → Shell α} {outcome : Except Failure α} :
    (reported action >>= next).MayEnd before outcome after ↔
      ∃ ended left, action.MayEnd before ended left ∧
        (next (statusOf ended)).MayEnd left outcome after := by
  unfold reported
  rw [bind_assoc, mayEnd_attempt_bind]
  apply exists_congr
  intro ended
  apply exists_congr
  intro left
  apply and_congr_right
  intro _
  cases ended with
  | ok status => exact Iff.rfl
  | error failure =>
      dsimp only
      unfold report
      rw [bind_assoc, mayEnd_lift_bind]
      constructor
      · rintro ⟨_, _, continues⟩
        exact continues
      · intro continues
        exact ⟨(), mayYield_say _ _, continues⟩

theorem mayEnd_runPipelines_run {outcome : Except Failure Int}
    (runs : isSkipped pipeline.after status = false) :
    (runPipelines runOne status (pipeline :: pipelines)).MayEnd before
      outcome after ↔
      ∃ next between, Turn runOne pipeline before next between ∧
        (if between.quitRequested then pure next
          else runPipelines runOne next pipelines :
          Shell Int).MayEnd between outcome after := by
  rw [runPipelines, if_neg (by simp [runs]), mayEnd_reported_bind]
  constructor
  · rintro ⟨ended, left, ends, continues⟩
    rw [mayEnd_modify_bind, mayEnd_get_bind] at continues
    exact ⟨statusOf ended, _, ⟨ended, left, ends, rfl, rfl⟩, continues⟩
  · rintro ⟨_, _, ⟨ended, left, ends, rfl, rfl⟩, continues⟩
    refine ⟨ended, left, ends, ?_⟩
    rw [mayEnd_modify_bind, mayEnd_get_bind]
    exact continues

theorem mayEnd_runPipelines_skip {outcome : Except Failure Int}
    (skips : isSkipped pipeline.after status = true) :
    (runPipelines runOne status (pipeline :: pipelines)).MayEnd before
      outcome after ↔
      (runPipelines runOne status pipelines).MayEnd before outcome after := by
  rw [runPipelines, if_pos skips]

theorem isSkipped_eq_true_iff {join : Join} (separates : join.Separates) :
    isSkipped join status = true ↔ ¬IsDue status join := by
  cases join with
  | pipe => cases separates
  | none => cases separates
  | sequential => simp [isSkipped, IsDue]
  | andThen => simp [isSkipped, IsDue]
  | orElse => simp [isSkipped, IsDue]

theorem runsOn_of_requested (requested : before.quitRequested = true)
    {final : Int} :
    RunsOn runOne before status pipelines ran final after ↔
      ran = [] ∧ final = status ∧ after = before := by
  constructor
  · intro runsOn
    cases runsOn with
    | quit => exact ⟨rfl, rfl, rfl⟩
    | finished => exact ⟨rfl, rfl, rfl⟩
    | skipped goesOn => simp [requested] at goesOn
    | run goesOn => simp [requested] at goesOn
  · rintro ⟨rfl, rfl, rfl⟩
    exact .quit requested

theorem runsOn_skip (goesOn : before.quitRequested = false)
    (notDue : ¬IsDue status pipeline.after) {final : Int} :
    RunsOn runOne before status (pipeline :: pipelines) ran final after ↔
      RunsOn runOne before status pipelines ran final after := by
  constructor
  · intro runsOn
    cases runsOn with
    | quit requested => simp [requested] at goesOn
    | skipped _ _ rest => exact rest
    | run _ due => exact absurd due notDue
  · exact .skipped goesOn notDue

theorem runsOn_run (goesOn : before.quitRequested = false)
    (due : IsDue status pipeline.after) {final : Int} :
    RunsOn runOne before status (pipeline :: pipelines) ran final after ↔
      ∃ next between later,
        ran = pipeline :: later ∧ Turn runOne pipeline before next between ∧
        RunsOn runOne between next pipelines later final after := by
  constructor
  · intro runsOn
    cases runsOn with
    | quit requested => simp [requested] at goesOn
    | skipped _ notDue => exact absurd due notDue
    | run _ _ turn rest => exact ⟨_, _, _, rfl, turn, rest⟩
  · rintro ⟨_, _, _, rfl, turn, rest⟩
    exact .run goesOn due turn rest

/-- What the loop does after a turn, with the question whether to quit in
front. -/
theorem mayEnd_runsOn_iff
    (separated : ∀ pipeline ∈ pipelines, pipeline.after.Separates)
    {outcome : Except Failure Int} :
    (if before.quitRequested then pure status
        else runPipelines runOne status pipelines :
        Shell Int).MayEnd before outcome after ↔
      ∃ ran final, outcome = .ok final ∧
        RunsOn runOne before status pipelines ran final after := by
  -- no pipeline counts once the wish to quit is there, so this needs no
  -- induction
  have quits : ∀ {before : Session} {status : Int} {pipelines : List Pipeline},
      before.quitRequested = true →
      ((if before.quitRequested then pure status
          else runPipelines runOne status pipelines : Shell Int).MayEnd before
        outcome after ↔
        ∃ ran final, outcome = .ok final ∧
          RunsOn runOne before status pipelines ran final after) := by
    intro before status pipelines requested
    simp [requested, runsOn_of_requested]
  induction pipelines generalizing before status with
  | nil =>
      cases requested : before.quitRequested with
      | true => simpa only [requested] using quits requested
      | false =>
          rw [if_neg (by simp), runPipelines, mayEnd_pure]
          constructor
          · rintro ⟨rfl, rfl⟩
            exact ⟨[], status, rfl, .finished requested⟩
          · rintro ⟨_, _, rfl, runsOn⟩
            cases runsOn <;> exact ⟨rfl, rfl⟩
  | cons pipeline pipelines induction =>
      have separates := separated pipeline List.mem_cons_self
      have later : ∀ other ∈ pipelines, other.after.Separates :=
        fun other member =>
          separated other (List.mem_cons_of_mem pipeline member)
      cases requested : before.quitRequested with
      | true => simpa only [requested] using quits requested
      | false =>
          rw [if_neg (by simp)]
          by_cases due : IsDue status pipeline.after
          · have runs : isSkipped pipeline.after status = false := by
              rw [Bool.eq_false_iff, Ne,
                isSkipped_eq_true_iff separates, not_not]
              exact due
            simp only [mayEnd_runPipelines_run runs, runsOn_run requested due,
              induction later]
            constructor
            · rintro ⟨next, between, turn, ran, final, ended, rest⟩
              exact ⟨_, final, ended, next, between, ran, rfl, turn, rest⟩
            · rintro ⟨_, final, ended, next, between, ran, rfl, turn, rest⟩
              exact ⟨next, between, turn, ran, final, ended, rest⟩
          · have goesOn := @induction before status later
            rw [requested, if_neg (by simp)] at goesOn
            simp only [mayEnd_runPipelines_skip
              ((isSkipped_eq_true_iff separates).mpr due),
              runsOn_skip requested due]
            exact goesOn

theorem mayEnd_runPipelines_iff (sequence : Sequence)
    {outcome : Except Failure Int} :
    (runPipelines runOne before.lastStatus sequence.pipelines).MayEnd before
      outcome after ↔
      ∃ ran status, outcome = .ok status ∧
        ShortCircuit runOne sequence.pipelines before ran status after := by
  cases grouped : sequence.pipelines with
  | nil =>
      rw [runPipelines, mayEnd_pure]
      constructor
      · rintro ⟨rfl, rfl⟩
        exact ⟨[], after.lastStatus, rfl, .nothing after⟩
      · rintro ⟨_, _, rfl, runs⟩
        cases runs with
        | nothing => exact ⟨rfl, rfl⟩
  | cons first rest =>
      obtain ⟨alone, separated⟩ := Sequence.separates_of_groups grouped
      have runs : isSkipped first.after before.lastStatus = false := by
        rw [alone]
        rfl
      rw [mayEnd_runPipelines_run runs]
      constructor
      · rintro ⟨status, between, turn, continues⟩
        obtain ⟨ran, final, ended, runsOn⟩ :=
          (mayEnd_runsOn_iff separated).mp continues
        exact ⟨first :: ran, final, ended, .first turn runsOn⟩
      · rintro ⟨_, _, ended, runs⟩
        cases runs with
        | first turn runsOn =>
            exact ⟨_, _, turn,
              (mayEnd_runsOn_iff separated).mpr ⟨_, _, ended, runsOn⟩⟩

theorem exists_mayEnd_runPipelines
    (ends : ∀ pipeline ∈ pipelines, ∀ before, ∃ outcome left,
      (runOne pipeline).MayEnd before outcome left) (status : Int)
    (before : Session) :
    ∃ outcome after,
      (runPipelines runOne status pipelines).MayEnd before outcome after := by
  induction pipelines generalizing status before with
  | nil => exact ⟨.ok status, before, mayEnd_pure.mpr ⟨rfl, rfl⟩⟩
  | cons pipeline pipelines induction =>
      have later := induction fun other member =>
        ends other (List.mem_cons_of_mem pipeline member)
      cases skips : isSkipped pipeline.after status with
      | true =>
          obtain ⟨outcome, after, goesOn⟩ := later status before
          exact ⟨outcome, after, (mayEnd_runPipelines_skip skips).mpr goesOn⟩
      | false =>
          obtain ⟨outcome, left, ended⟩ :=
            ends pipeline List.mem_cons_self before
          have turn : Turn runOne pipeline before (statusOf outcome)
              { left with lastStatus := statusOf outcome } :=
            ⟨outcome, left, ended, rfl, rfl⟩
          cases requested : left.quitRequested with
          | true =>
              refine ⟨.ok (statusOf outcome),
                { left with lastStatus := statusOf outcome },
                (mayEnd_runPipelines_run skips).mpr ⟨_, _, turn, ?_⟩⟩
              rw [if_pos requested]
              exact mayEnd_pure.mpr ⟨rfl, rfl⟩
          | false =>
              obtain ⟨last, after, goesOn⟩ := later (statusOf outcome)
                { left with lastStatus := statusOf outcome }
              refine ⟨last, after,
                (mayEnd_runPipelines_run skips).mpr ⟨_, _, turn, ?_⟩⟩
              rw [if_neg (by simp [requested])]
              exact goesOn

theorem execute_of_foreground {sequence : Sequence}
    (foreground : sequence.background = false) :
    execute sequence =
      (get >>= fun session =>
        runPipelines (runPipeline false) session.lastStatus
          sequence.pipelines) := by
  unfold execute
  rw [foreground]
  cases empty : sequence.isEmpty with
  | true =>
      have nothing : sequence.commands = [] := List.isEmpty_iff.mp empty
      have none : sequence.pipelines = [] := by
        rw [Sequence.pipelines, nothing]
        rfl
      rw [none]
      rfl
  | false => rfl

/-- A compiled foreground sequence runs the pipelines that the joins it is
written with ask for, and always ends with the status of the last one, noted in
the session.  This holds for everything that a pipeline may do. -/
theorem execute_iff_shortCircuit {tokens : List Token} {sequence : Sequence}
    (compiled : Sequence.compile tokens = .ok sequence)
    (foreground : sequence.background = false) :
    Sequence.joined sequence.pipelines = sequence.commands ∧
    (execute sequence =
      (get >>= fun session =>
        runPipelines (runPipeline false) session.lastStatus
          sequence.pipelines)) ∧
    ∀ runOne : Pipeline → Shell Int,
      (∀ {before after : Session} {outcome : Except Failure Int},
        (get >>= fun session =>
            runPipelines runOne session.lastStatus sequence.pipelines).MayEnd
          before outcome after ↔
        ∃ ran status, outcome = .ok status ∧ after.lastStatus = status ∧
          ShortCircuit runOne sequence.pipelines before ran status after) ∧
      ((∀ pipeline ∈ sequence.pipelines, ∀ before, ∃ outcome left,
          (runOne pipeline).MayEnd before outcome left) →
        ∀ before, ∃ status after,
          (get >>= fun session =>
            runPipelines runOne session.lastStatus sequence.pipelines).MayEnd
          before (.ok status) after) := by
  refine ⟨Sequence.joined_pipelines compiled,
    execute_of_foreground foreground, ?_⟩
  intro runOne
  constructor
  · intro before after outcome
    rw [mayEnd_get_bind, mayEnd_runPipelines_iff]
    constructor
    · rintro ⟨ran, status, ended, runs⟩
      exact ⟨ran, status, ended, runs.lastStatus, runs⟩
    · rintro ⟨ran, status, ended, _, runs⟩
      exact ⟨ran, status, ended, runs⟩
  · intro ends before
    obtain ⟨outcome, after, ended⟩ :=
      exists_mayEnd_runPipelines ends before.lastStatus before
    obtain ⟨ran, status, rfl, _⟩ := mayEnd_runPipelines_iff sequence |>.mp ended
    exact ⟨status, after, mayEnd_get_bind.mpr ended⟩

/-- The first pipeline fails, and every other one asks to quit. -/
def failThenQuit (pipeline : Pipeline) : Shell Int :=
  match pipeline.after with
  | .none => pure 1
  | _ => do
    modify fun session => { session with quitRequested := true }
    pure 0

/-- The tokens of `test && make ; exit ; ls`. -/
def testMakeExit : List Token :=
  [.word "test", .relation .and, .word "make", .relation .semi, .word "exit",
    .relation .semi, .word "ls"]

theorem execute_iff_shortCircuit_testMakeExit :
    ∃ sequence, Sequence.compile testMakeExit = .ok sequence ∧
      sequence.background = false ∧
      Sequence.joined sequence.pipelines = sequence.commands ∧
      ∃ ran after,
        (get >>= fun session =>
            runPipelines failThenQuit session.lastStatus
              sequence.pipelines).MayEnd
          (.fresh 1 "/" .empty) (.ok 0) after ∧
        ran.map Pipeline.after = [.none, .sequential] ∧ after.lastStatus = 0 ∧
        ShortCircuit failThenQuit sequence.pipelines
          (.fresh 1 "/" .empty) ran 0 after := by
  have fails : ∀ (stages : List Command) (before : Session),
      Turn failThenQuit ⟨.none, stages⟩ before 1
        { before with lastStatus := 1 } :=
    fun _ before => ⟨.ok 1, before, mayEnd_pure.mpr ⟨rfl, rfl⟩, rfl, rfl⟩
  have quits : ∀ (stages : List Command) (before : Session),
      Turn failThenQuit ⟨.sequential, stages⟩ before 0
        { before with quitRequested := true, lastStatus := 0 } :=
    fun _ before => ⟨.ok 0, { before with quitRequested := true },
      mayEnd_modify_bind.mpr (mayEnd_pure.mpr ⟨rfl, rfl⟩), rfl, rfl⟩
  have notDue : ¬IsDue 1 .andThen := by simp [IsDue]
  have compiled : Sequence.compile testMakeExit = .ok _ := rfl
  obtain ⟨joins, _, laws⟩ := execute_iff_shortCircuit compiled rfl
  have runs : ∀ test make leave list : List Command,
      ShortCircuit failThenQuit
        [⟨.none, test⟩, ⟨.andThen, make⟩, ⟨.sequential, leave⟩,
          ⟨.sequential, list⟩]
        (.fresh 1 "/" .empty) [⟨.none, test⟩, ⟨.sequential, leave⟩] 0
        { Session.fresh 1 "/" .empty with quitRequested := true } := by
    intro test make leave list
    apply ShortCircuit.first (fails test _)
    apply RunsOn.skipped rfl notDue
    exact .run rfl trivial (quits leave _) (.quit rfl)
  exact ⟨_, compiled, rfl, joins, _, _,
    (laws failThenQuit).1.mpr ⟨_, _, rfl, rfl, runs _ _ _ _⟩, rfl, rfl,
    runs _ _ _ _⟩

end Shell

end JobShell
