import JobShell.Proofs.Execution.Background
import JobShell.Proofs.Execution.Launching
import JobShell.Proofs.Execution.ShortCircuit

/-!
# What a sequence undertakes

A sequence in the foreground undertakes the pipelines that its joins ask for,
one after the other; a sequence in the background is undertaken as a whole.
Each undertaking leaves its status in the session, and so the last one decides
what stands there.  In the background this is the status of a launch, and not of
anything that has run.
-/

namespace JobShell

/-- What the shell does for a status. -/
inductive Undertaking where
  | foreground (pipeline : Pipeline)
  | background (sequence : Sequence)

namespace Undertaking

def action : Undertaking → Shell Int
  | foreground pipeline => Shell.runPipeline false pipeline
  | background sequence =>
    match sequence.pipelines with
    | [pipeline] => Shell.runPipeline true pipeline
    | _ => Shell.runSubshell sequence

/-- The undertaking does what it may do, and its status is noted. -/
def Leaves (undertaking : Undertaking) (before : Session) (status : Int)
    (after : Session) : Prop :=
  ∃ outcome left, undertaking.action.MayEnd before outcome left ∧
    status = Shell.statusOf outcome ∧ after = { left with lastStatus := status }

/-- Undertakings in turn, each with the status that it leaves. -/
inductive Follow : Session → List (Undertaking × Int) → Session → Prop where
  | nil (session : Session) : Follow session [] session
  | cons {before between after : Session} {undertaking : Undertaking}
      {status : Int} {log : List (Undertaking × Int)}
      (leaves : undertaking.Leaves before status between)
      (later : Follow between log after) :
        Follow before ((undertaking, status) :: log) after

/-- The status that stands behind undertakings, when `start` stood before
them. -/
def statusBehind (start : Int) (log : List (Undertaking × Int)) : Int :=
  (log.getLast?.map Prod.snd).getD start

theorem statusBehind_cons (start : Int) (entry : Undertaking × Int)
    (log : List (Undertaking × Int)) :
    statusBehind start (entry :: log) = statusBehind entry.2 log := by
  rw [statusBehind, statusBehind, List.getLast?_cons]
  cases log.getLast? with
  | none => rfl
  | some last => rfl

@[simp] theorem statusBehind_append (start : Int)
    (first second : List (Undertaking × Int)) :
    statusBehind start (first ++ second) =
      statusBehind (statusBehind start first) second := by
  induction first generalizing start with
  | nil => rfl
  | cons entry first induction =>
      rw [List.cons_append, statusBehind_cons, statusBehind_cons, induction]

variable {before after : Session} {log : List (Undertaking × Int)}
  {status : Int}

theorem Follow.lastStatus_eq (follow : Follow before log after) :
    after.lastStatus = statusBehind before.lastStatus log := by
  induction follow with
  | nil session => rfl
  | cons leaves _ induction =>
      obtain ⟨_, _, _, _, rfl⟩ := leaves
      rw [induction, statusBehind_cons]

/-- The turns of pipelines in the foreground are undertakings in turn. -/
theorem exists_follow_of_runsOn {pipelines ran : List Pipeline} {final : Int}
    (runsOn : Shell.RunsOn (Shell.runPipeline false) before status pipelines ran
      final after) :
    ∃ log, log.map Prod.fst = ran.map foreground ∧ Follow before log after := by
  induction runsOn with
  | quit => exact ⟨[], rfl, .nil _⟩
  | finished => exact ⟨[], rfl, .nil _⟩
  | skipped _ _ _ induction => exact induction
  | @run _ _ _ _ next _ pipeline _ _ _ _ turn _ induction =>
      obtain ⟨log, same, follow⟩ := induction
      exact ⟨(foreground pipeline, next) :: log,
        congrArg (foreground pipeline :: ·) same, .cons turn follow⟩

theorem exists_follow {pipelines ran : List Pipeline}
    (runs : Shell.ShortCircuit (Shell.runPipeline false) pipelines before ran
      status after) :
    ∃ log, log.map Prod.fst = ran.map foreground ∧ Follow before log after := by
  cases runs with
  | nothing => exact ⟨[], rfl, .nil _⟩
  | @first _ _ _ next _ pipeline _ _ turn rest =>
      obtain ⟨log, same, follow⟩ := exists_follow_of_runsOn rest
      exact ⟨(foreground pipeline, next) :: log,
        congrArg (foreground pipeline :: ·) same, .cons turn follow⟩

end Undertaking

open Undertaking

/-- A sequence is executed, and these are its undertakings. -/
inductive Sequence.Executes (sequence : Sequence) :
    Session → List (Undertaking × Int) → Session → Prop where
  | foreground {before after : Session} {ran : List Pipeline} {status : Int}
      {log : List (Undertaking × Int)} (waits : sequence.background = false)
      (runs : Shell.ShortCircuit (Shell.runPipeline false) sequence.pipelines
        before ran status after)
      (same : log.map Prod.fst = ran.map .foreground)
      (follow : Follow before log after) :
      Executes sequence before log after
  | background {before after : Session} {status : Int}
      (sent : sequence.background = true) (given : sequence.pipelines ≠ [])
      (leaves : (Undertaking.background sequence).Leaves before status after) :
      Executes sequence before [(.background sequence, status)] after
  | nothing (session : Session) (sent : sequence.background = true)
      (empty : sequence.pipelines = []) : Executes sequence session [] session

namespace Sequence

variable {sequence : Sequence} {before after : Session}
  {log : List (Undertaking × Int)} {status : Int}

theorem Executes.follow (executes : sequence.Executes before log after) :
    Follow before log after := by
  cases executes with
  | foreground _ _ _ follow => exact follow
  | background _ _ leaves => exact .cons leaves (.nil _)
  | nothing => exact .nil _

theorem isEmpty_eq_false_of_pipelines (given : sequence.pipelines ≠ []) :
    sequence.isEmpty = false := by
  rw [Bool.eq_false_iff]
  intro empty
  apply given
  rw [pipelines, List.isEmpty_iff.mp empty]
  rfl

end Sequence

namespace Shell

variable {sequence : Sequence} {before after : Session}
  {log : List (Undertaking × Int)} {status : Int} {outcome : Except Failure Int}

theorem mayEnd_execute_foreground (waits : sequence.background = false) :
    (execute sequence).MayEnd before outcome after ↔
      ∃ log, outcome = .ok (statusBehind before.lastStatus log) ∧
        sequence.Executes before log after := by
  rw [execute_of_foreground waits, mayEnd_get_bind, mayEnd_runPipelines_iff]
  constructor
  · rintro ⟨ran, status, rfl, runs⟩
    obtain ⟨log, same, follow⟩ := exists_follow runs
    refine ⟨log, ?_, .foreground waits runs same follow⟩
    rw [← follow.lastStatus_eq, runs.lastStatus]
  · rintro ⟨log, rfl, executes⟩
    cases executes with
    | foreground _ runs _ follow =>
        exact ⟨_, _, by rw [← follow.lastStatus_eq, runs.lastStatus], runs⟩
    | background sent => simp [waits] at sent
    | nothing sent => simp [waits] at sent

/-- A single pipeline in the background takes its turn without a look at its
join. -/
theorem mayEnd_runPipelines_single {runOne : Pipeline → Shell Int}
    {pipeline : Pipeline} (alone : sequence.pipelines = [pipeline]) :
    (runPipelines runOne before.lastStatus sequence.pipelines).MayEnd before
      outcome after ↔
      ∃ status,
        outcome = .ok status ∧ Turn runOne pipeline before status after := by
  rw [mayEnd_runPipelines_iff, alone]
  constructor
  · rintro ⟨_, status, rfl, runs⟩
    cases runs with
    | first turn rest =>
        cases rest with
        | quit => exact ⟨_, rfl, turn⟩
        | finished => exact ⟨_, rfl, turn⟩
  · rintro ⟨status, rfl, turn⟩
    refine ⟨[pipeline], status, rfl, .first turn ?_⟩
    cases requested : after.quitRequested with
    | true => exact .quit requested
    | false => exact .finished requested

theorem mayEnd_execute_background (sent : sequence.background = true)
    (given : sequence.pipelines ≠ []) :
    (execute sequence).MayEnd before outcome after ↔
      ∃ status, outcome = .ok status ∧
        (Undertaking.background sequence).Leaves before status after := by
  cases shape : sequence.pipelines with
  | nil => exact absurd shape given
  | cons pipeline rest =>
      cases rest with
      | nil =>
          -- one pipeline goes through the loop of the foreground, and that loop
          -- notes its status
          have single : execute sequence = (get >>= fun session =>
              runPipelines (runPipeline true) session.lastStatus
                sequence.pipelines) := by
            unfold execute
            rw [Sequence.isEmpty_eq_false_of_pipelines given, sent, shape]
            rfl
          rw [single, mayEnd_get_bind, mayEnd_runPipelines_single shape]
          simp only [Leaves, action, shape]
          exact Iff.rfl
      | cons second others =>
          have several : 1 < sequence.pipelines.length := by simp [shape]
          rw [execute_of_background sent several, mayEnd_reported_bind]
          simp only [Leaves, action, shape, mayEnd_modify_bind, mayEnd_pure]
          constructor
          · rintro ⟨ended, left, ends, rfl, rfl⟩
            exact ⟨_, rfl, ended, left, ends, rfl, rfl⟩
          · rintro ⟨_, rfl, ended, left, ends, rfl, rfl⟩
            exact ⟨ended, left, ends, rfl, rfl⟩

theorem execute_of_nothing (empty : sequence.pipelines = [])
    (sent : sequence.background = true) :
    execute sequence = (get >>= fun session => pure session.lastStatus) := by
  unfold execute
  rw [sent, empty]
  cases sequence.isEmpty with
  | true => rfl
  | false => rfl

/-- Executing a sequence always comes to the status of its last undertaking, and
to the status that stood there before if there is none. -/
theorem mayEnd_execute_iff :
    (execute sequence).MayEnd before outcome after ↔
      ∃ log, outcome = .ok (statusBehind before.lastStatus log) ∧
        sequence.Executes before log after := by
  cases sent : sequence.background with
  | false => exact mayEnd_execute_foreground sent
  | true =>
      by_cases empty : sequence.pipelines = []
      · rw [execute_of_nothing empty sent, mayEnd_get_bind, mayEnd_pure]
        constructor
        · rintro ⟨rfl, rfl⟩
          exact ⟨[], rfl, .nothing _ sent empty⟩
        · rintro ⟨_, rfl, executes⟩
          cases executes with
          | foreground waits => simp [sent] at waits
          | background _ given => exact absurd empty given
          | nothing => exact ⟨rfl, rfl⟩
      · rw [mayEnd_execute_background sent empty]
        constructor
        · rintro ⟨status, rfl, leaves⟩
          exact ⟨_, rfl, .background sent empty leaves⟩
        · rintro ⟨_, rfl, executes⟩
          cases executes with
          | foreground waits => simp [sent] at waits
          | background _ _ leaves => exact ⟨_, rfl, leaves⟩
          | nothing _ none => exact absurd none empty

end Shell

theorem Failure.status_pos (failure : Failure) : 0 < failure.status := by
  unfold Failure.status
  split
  · decide
  · decide
  · split <;> decide
  · decide

/-- A group is that of the first process, and a failure does not count as a
success. -/
structure Shell.Launched.Sound (launched : Launched) : Prop where
  group : launched.group = launched.pids.head?
  failure : 0 < launched.failure.getD 1

namespace Shell

variable {before after : Session}

theorem Launched.Sound.nothing : Launched.nothing.Sound := ⟨rfl, by decide⟩

theorem session_of_openPipeIf {needed : Bool}
    {outcome : Except Failure (Option Descriptor × Option Descriptor)}
    (ends : (openPipeIf needed).MayEnd before outcome after) :
    after = before := by
  unfold openPipeIf at ends
  split at ends
  · obtain ⟨opened, _, ends⟩ := mayEnd_lift_bind.mp ends
    cases opened with
    | ok pipe => exact (mayEnd_pure.mp ends).2
    | error errno => exact (mayEnd_throw.mp ends).2
  · exact (mayEnd_pure.mp ends).2

theorem session_of_spawn {command : Command} {input output : Option Descriptor}
    {group : Option Pid} {background : Bool} {outcome : Except Failure Pid}
    (ends : (spawn command input output group background).MayEnd before
      outcome after) :
    after = before := by
  obtain ⟨_, goes⟩ := exists_goes_of_mayEnd ends
  exact (goes_spawn goes).1

theorem mayEnd_report {failure : Failure} {outcome : Except Failure Int}
    (ends : (report failure).MayEnd before outcome after) :
    outcome = .ok failure.status ∧ after = before := by
  obtain ⟨_, goes⟩ := exists_goes_of_mayEnd ends
  obtain ⟨same, unchanged, _⟩ := goes_report goes
  exact ⟨same, unchanged⟩

/-- Launching stages leaves the session as it is, whatever becomes of them. -/
theorem mayEnd_launchStages {background : Bool} {commands : List Command}
    {launched : Launched} {outcome : Except Failure Launched}
    (ends : (launchStages background commands launched).MayEnd before
      outcome after)
    (sound : launched.Sound) :
    after = before ∧ ∀ ended, outcome = .ok ended → ended.Sound := by
  induction commands generalizing launched with
  | nil =>
      obtain ⟨rfl, rfl⟩ := mayEnd_pure.mp ends
      exact ⟨rfl, fun _ same => Except.ok.inj same ▸ sound⟩
  | cons command commands induction =>
      unfold launchStages at ends
      obtain ⟨opened, _, opening, ends⟩ := mayEnd_attempt_bind.mp ends
      obtain rfl := session_of_openPipeIf opening
      cases opened with
      | error failure =>
          obtain ⟨_, _, ends⟩ := mayEnd_lift_bind.mp ends
          obtain ⟨rfl, rfl⟩ := mayEnd_throw.mp ends
          exact ⟨rfl, fun _ impossible => by cases impossible⟩
      | ok pipe =>
          obtain ⟨spawned, _, spawning, ends⟩ := mayEnd_attempt_bind.mp ends
          obtain rfl := session_of_spawn spawning
          cases spawned with
          | ok pid =>
              refine induction ends ⟨?_, Int.zero_lt_one⟩
              rw [List.head?_append, ← sound.group]
              cases launched.group <;> rfl
          | error failure =>
              rcases mayEnd_bind.mp ends with ⟨status, _, reported, ends⟩ |
                ⟨_, reported, _⟩
              · obtain ⟨same, rfl⟩ := mayEnd_report reported
                obtain rfl := Except.ok.inj same
                exact induction ends ⟨sound.group, failure.status_pos⟩
              · cases (mayEnd_report reported).1

@[simp] theorem mayEnd_addJob_bind {α : Type} {group : Pid} {pids : List Pid}
    {line : String} {background : Bool} {next : Nat → Shell α}
    {outcome : Except Failure α} :
    (addJob group pids line background >>= next).MayEnd before outcome after ↔
      (next before.jobs.nextSerial).MayEnd
        { before with jobs := (before.jobs.add group pids line background).2 }
          outcome after :=
  Iff.rfl

/-- The shell has a new job, and has seen nothing of how it ends. -/
def AddsJob (before after : Session) : Prop :=
  ∃ group pids line, pids ≠ [] ∧
    after = { before with jobs := (before.jobs.add group pids line true).2 }

/-- A launch in the background gives 0 and a new job, or it fails and nothing is
there. -/
def LaunchedOrFailed (before : Session) (outcome : Except Failure Int)
    (after : Session) : Prop :=
  (outcome = .ok 0 ∧ AddsJob before after) ∨
    (0 < statusOf outcome ∧ after = before)

theorem launchedOrFailed_of_runJob {pipeline : Pipeline}
    {outcome : Except Failure Int}
    (ends : (runJob pipeline true).MayEnd before outcome after) :
    LaunchedOrFailed before outcome after := by
  unfold runJob at ends
  rcases mayEnd_bind.mp ends with ⟨launched, _, launching, goesOn⟩ |
    ⟨failure, launching, rfl⟩
  · obtain ⟨rfl, sounds⟩ := mayEnd_launchStages launching .nothing
    have sound := sounds launched rfl
    cases leads : launched.group with
    | none =>
        rw [leads] at goesOn
        obtain ⟨rfl, rfl⟩ := mayEnd_pure.mp goesOn
        exact .inr ⟨sound.failure, rfl⟩
    | some leader =>
        have given : launched.pids ≠ [] := by
          intro empty
          rw [sound.group, empty] at leads
          cases leads
        rw [leads] at goesOn
        have registered := mayEnd_addJob_bind.mp (mayEnd_get_bind.mp goesOn)
        obtain ⟨_, _, ended⟩ := mayEnd_lift_bind.mp registered
        obtain ⟨rfl, rfl⟩ := mayEnd_pure.mp ended
        exact .inl ⟨rfl, _, launched.pids, pipeline.display, given, rfl⟩
  · exact .inr ⟨failure.status_pos, (mayEnd_launchStages launching .nothing).1⟩

theorem launchedOrFailed_of_runSubshell {sequence : Sequence}
    {outcome : Except Failure Int}
    (ends : (runSubshell sequence).MayEnd before outcome after) :
    LaunchedOrFailed before outcome after := by
  unfold runSubshell at ends
  obtain ⟨forked, _, ends⟩ := mayEnd_lift_bind.mp (mayEnd_get_bind.mp ends)
  cases forked with
  | error errno =>
      obtain ⟨rfl, rfl⟩ := mayEnd_throw.mp ends
      exact .inr ⟨(Failure.system errno).status_pos, rfl⟩
  | ok child =>
      rcases mayEnd_bind.mp ends with ⟨_, _, entered, goesOn⟩ | ⟨_, entered, _⟩
      · obtain ⟨_, joining⟩ := exists_goes_of_mayEnd entered
        obtain ⟨rfl, _⟩ := asks_enterGroup child none _ _ _ _ joining
        obtain ⟨_, _, ended⟩ :=
          mayEnd_lift_bind.mp (mayEnd_addJob_bind.mp goesOn)
        obtain ⟨rfl, rfl⟩ := mayEnd_pure.mp ended
        exact .inl ⟨rfl, child, [child], sequence.display,
          List.cons_ne_nil _ _, rfl⟩
      · obtain ⟨_, joining⟩ := exists_goes_of_mayEnd entered
        cases outcome_of_enterGroup joining

end Shell

namespace Sequence

variable {tokens : List Token} {sequence : Sequence}

/-- In a background line no command runs in the shell itself. -/
theorem forked_of_background (compiled : compile tokens = .ok sequence)
    (sent : sequence.background = true) : sequence.forked = sequence := by
  rcases exists_line_of_compile compiled with rfl | ⟨line, rfl⟩
  · cases compiled
    cases sent
  · rw [compile_tokens] at compiled
    cases compiled
    have ended : (line.ending == .background) = true := sent
    simp only [forked, ended, markBuiltins_background, forkedCommands,
      List.map_map]
    rfl

end Sequence

/-- A line in the background leaves 0 and a new job, or the status of the
failure to launch it and no job. -/
theorem Undertaking.Leaves.background {tokens : List Token}
    {sequence : Sequence} {before after : Session} {status : Int}
    (compiled : Sequence.compile tokens = .ok sequence)
    (sent : sequence.background = true)
    (leaves : (Undertaking.background sequence).Leaves before status after) :
    (status = 0 ∧ ∃ left,
      Shell.AddsJob before left ∧ after = { left with lastStatus := 0 }) ∨
      (0 < status ∧ after = { before with lastStatus := status }) := by
  obtain ⟨outcome, left, ends, rfl, rfl⟩ := leaves
  have launched : Shell.LaunchedOrFailed before outcome left := by
    unfold action at ends
    dsimp only at ends
    split at ends
    · next pipeline alone =>
        -- a builtin that stands alone would not be launched, but in the
        -- background it is not marked
        have whole := Sequence.pipelines_forked sequence
        rw [Sequence.forked_of_background compiled sent, alone] at whole
        rw [(List.cons.inj whole).1, Shell.runPipeline_forked] at ends
        exact Shell.launchedOrFailed_of_runJob ends
    · exact Shell.launchedOrFailed_of_runSubshell ends
  rcases launched with ⟨rfl, adds⟩ | ⟨positive, rfl⟩
  · exact .inl ⟨rfl, left, adds, rfl⟩
  · exact .inr ⟨positive, rfl⟩

end JobShell
