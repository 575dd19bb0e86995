import JobShell.Proofs.Execution.Confinement
import JobShell.Proofs.Execution.Launching
import JobShell.Proofs.Files.Openings
import JobShell.Proofs.Line.Compiling

/-!
# In which order redirections are opened

A stage opens the files of its redirections in the order in which they stand.  A
builtin that runs in the shell itself opens the file that it writes to first,
and then the one that it would read from.  The two differ for a command that
names its input before its output: when there is no input to be opened, the
stage stops at that, and the shell has made or emptied the file for the output
by then.
-/

namespace JobShell

/-- A file that was to be opened, and what came of it. -/
abbrev Opening := Redirection × Except FileError Descriptor

def Exchange.opening? : Exchange → Option Opening
  | ⟨.openFile operator file, reply⟩ => some ({ operator, file }, reply)
  | _ => none

def openingsIn (exchanges : List Exchange) : List Opening :=
  exchanges.filterMap Exchange.opening?

@[simp] theorem openingsIn_append (first second : List Exchange) :
    openingsIn (first ++ second) = openingsIn first ++ openingsIn second :=
  List.filterMap_append

theorem openingsIn_eq_nil {exchanges : List Exchange}
    (confined : ∀ exchange ∈ exchanges, exchange.1.MakesNothing) :
    openingsIn exchanges = [] := by
  unfold openingsIn
  rw [List.filterMap_eq_nil_iff]
  rintro ⟨call, reply⟩ member
  have allowed := confined _ member
  cases call with
  | openFile operator file => exact allowed.elim
  | _ => rfl

theorem openingsIn_closings (descriptors : List Descriptor) :
    openingsIn (closings descriptors) = [] := by
  apply openingsIn_eq_nil
  intro exchange member
  obtain ⟨descriptor, _, rfl⟩ := List.mem_map.mp member
  trivial

/-- The files were opened in turn, up to the first one that could not be. -/
inductive Opens : List Redirection → List Opening → Option Failure → Prop where
  | all : Opens [] [] none
  | opened {redirection : Redirection} {rest : List Redirection}
      {openings : List Opening} {failure : Option Failure}
      (descriptor : Descriptor) (later : Opens rest openings failure) :
      Opens (redirection :: rest)
        ((redirection, .ok descriptor) :: openings) failure
  | refused (redirection : Redirection) (rest : List Redirection)
      (error : FileError) :
      Opens (redirection :: rest) [(redirection, .error error)]
        (some (redirection.refusal error))

namespace Opens

variable {first second : List Redirection} {openings later : List Opening}

theorem append {failure : Option Failure} (opens : Opens first openings none)
    (others : Opens second later failure) :
    Opens (first ++ second) (openings ++ later) failure := by
  generalize none? : (none : Option Failure) = ended at opens
  induction opens with
  | all => exact others
  | opened descriptor _ induction => exact .opened descriptor (induction none?)
  | refused => cases none?

theorem append_refused {failure : Failure}
    (opens : Opens first openings (some failure)) (second : List Redirection) :
    Opens (first ++ second) openings (some failure) := by
  generalize some? : some failure = ended at opens ⊢
  induction opens with
  | all => cases some?
  | opened descriptor _ induction => exact .opened descriptor (induction some?)
  | refused redirection rest error => exact .refused redirection _ error

end Opens

/-- The replies are those of a file tree, which changes as the files are
opened. -/
inductive Serves : World → List Opening → World → Prop where
  | nil (world : World) : Serves world [] world
  | opened {world next after : World} {redirection : Redirection}
      {what : Opened} {openings : List Opening} (descriptor : Descriptor)
      (opens : world.openFile redirection.operator redirection.file =
        .ok (what, next))
      (later : Serves next openings after) :
      Serves world ((redirection, .ok descriptor) :: openings) after
  | refused {world after : World} {redirection : Redirection}
      {error : FileError} {openings : List Opening}
      (refuses : world.openFile redirection.operator redirection.file =
        .error error)
      (later : Serves world openings after) :
      Serves world ((redirection, .error error) :: openings) after

/-- A file tree in which redirections are opened in turn decides what comes of
them. -/
theorem Opens.openAll_eq {redirections : List Redirection}
    {openings : List Opening} {failure : Option Failure}
    (opens : Opens redirections openings failure) {world after : World}
    (serves : Serves world openings after) :
    world.openAll redirections = (failure, after) := by
  induction opens generalizing world with
  | all =>
      cases serves
      rfl
  | opened descriptor _ induction =>
      cases serves with
      | opened _ opened later =>
          rw [World.openAll_opened opened, induction later]
  | refused redirection rest error =>
      cases serves with
      | refused refuses later =>
          cases later
          exact World.openAll_refused refuses

namespace Command

open Grammar

/-- The redirections in the order in which the shell opens them for a builtin of
its own. -/
def shellOrder (command : Command) : List Redirection :=
  (command.redirectionFor Descriptor.standardOutput).toList ++
    (command.redirectionFor Descriptor.standardInput).toList

/-- The command names a file to read from, and behind it one to write to. -/
structure InputFirst (command : Command)
    (input output : Redirection) : Prop where
  both : command.redirections = [input, output]
  reads : input.operator = .input
  writes : output.operator ≠ .input

/-- No two redirections have the same target. -/
def Settled (command : Command) : Prop :=
  (command.redirections.map Redirection.target).Nodup

instance decidableSettled (command : Command) : Decidable command.Settled :=
  inferInstanceAs
    (Decidable (command.redirections.map Redirection.target).Nodup)

theorem settled_redirect {command : Command} (settled : command.Settled)
    (redirection : Redirection) : (command.redirect redirection).Settled := by
  unfold Settled redirect
  rw [List.map_append, List.nodup_append]
  refine ⟨settled.sublist (List.filter_sublist.map Redirection.target),
    List.nodup_singleton _, ?_⟩
  intro target kept last listed same
  obtain ⟨other, member, rfl⟩ := List.mem_map.mp kept
  have different : other.target ≠ redirection.target := by
    simpa using (List.mem_filter.mp member).2
  exact different (same.trans (List.mem_singleton.mp listed))

/-- What is written on a line leaves one redirection for each target. -/
theorem settled_command (clause : Clause) : clause.command.Settled := by
  obtain ⟨program, items⟩ := clause
  induction items using List.reverseRecOn with
  | nil => exact List.nodup_nil
  | append_singleton items item induction =>
      cases item with
      | argument word =>
          have shape := Clause.command_addItem_argument ⟨program, items⟩ word
          rw [Clause.addItem] at shape
          rw [shape]
          exact induction
      | redirection redirection =>
          have shape :=
            Clause.command_addItem_redirection ⟨program, items⟩ redirection
          rw [Clause.addItem] at shape
          rw [shape]
          exact settled_redirect induction redirection

/-- The commands of a line have no more. -/
theorem settled_of_compile {tokens : List Token} {sequence : Sequence}
    (compiled : Sequence.compile tokens = .ok sequence) {entry : Command × Join}
    (member : entry ∈ sequence.commands) : entry.1.Settled := by
  rcases Sequence.exists_line_of_compile compiled with rfl | ⟨line, rfl⟩
  · cases compiled
    cases member
  · cases (Sequence.compile_tokens line).symm.trans compiled
    have settled : List.Forall₂
        (fun entry written => entry.1.Settled ∧ Sequence.Renders entry written)
        (Sequence.markBuiltins (line.ending == .background) false
          (Sequence.lineCommands line))
        line.clauses := by
      refine (Sequence.renders_markBuiltins _ _ _).imp
        fun entry written rendered => ⟨?_, rendered⟩
      rw [Settled, rendered.redirections]
      exact settled_command written.1
    exact ((List.forall₂_and_left _ _).mp settled).1 entry member

theorem target_eq_zero_iff {redirection : Redirection} :
    redirection.target = 0 ↔ redirection.operator = .input := by
  unfold Redirection.target RedirectOp.target
  cases redirection.operator <;> simp

theorem target_eq_one_iff {redirection : Redirection} :
    redirection.target = 1 ↔ redirection.operator ≠ .input := by
  unfold Redirection.target RedirectOp.target
  cases redirection.operator <;> simp

theorem InputFirst.shellOrder {command : Command} {input output : Redirection}
    (inputFirst : command.InputFirst input output) :
    command.shellOrder = [output, input] := by
  have inputTarget := target_eq_zero_iff.mpr inputFirst.reads
  have outputTarget := target_eq_one_iff.mpr inputFirst.writes
  simp [Command.shellOrder, redirectionFor, inputFirst.both, inputTarget,
    outputTarget, Descriptor.standardOutput, Descriptor.standardInput]

/-- The two orders are one, but for an input that stands before an output. -/
theorem shellOrder_cases {command : Command} (settled : command.Settled) :
    command.shellOrder = command.redirections ∨
      ∃ input output, command.InputFirst input output := by
  have either : ∀ redirection : Redirection,
      redirection.target = 0 ∨ redirection.target = 1 := by
    intro redirection
    by_cases reads : redirection.operator = .input
    · exact .inl (target_eq_zero_iff.mpr reads)
    · exact .inr (target_eq_one_iff.mpr reads)
  unfold Settled at settled
  match redirections : command.redirections with
  | [] => simp [shellOrder, redirectionFor, redirections]
  | [only] =>
      left
      rcases either only with target | target <;>
        simp [shellOrder, redirectionFor, redirections, target,
          Descriptor.standardOutput, Descriptor.standardInput]
  | [first, second] =>
      rw [redirections] at settled
      have different : first.target ≠ second.target := by simpa using settled
      rcases either first with target | target
      · right
        have other : second.target = 1 := by
          rcases either second with same | other
          · exact absurd (target.trans same.symm) different
          · exact other
        exact ⟨first, second, redirections, target_eq_zero_iff.mp target,
          target_eq_one_iff.mp other⟩
      · left
        have other : second.target = 0 := by
          rcases either second with other | same
          · exact other
          · exact absurd (target.trans same.symm) different
        simp [shellOrder, redirectionFor, redirections, target, other,
          Descriptor.standardOutput, Descriptor.standardInput]
  | first :: second :: third :: rest =>
      -- there are no three targets
      rw [redirections] at settled
      simp only [List.map_cons, List.nodup_cons, List.mem_cons,
        not_or] at settled
      obtain ⟨⟨notSecond, notThird, _⟩, ⟨later, _⟩, _⟩ := settled
      rcases either first with one | one <;>
        rcases either second with two | two <;>
        rcases either third with three | three <;> omega

end Command

namespace Shell

variable {before after : Session} {exchanges : List Exchange} {α : Type}

/-- What an outcome has failed with. -/
def failureOf : Except Failure α → Option Failure
  | .ok _ => none
  | .error failure => some failure

theorem goes_openRedirection {redirection : Redirection}
    {outcome : Except Failure Descriptor}
    (goes : (openRedirection redirection).Goes before exchanges outcome after) :
    after = before ∧
    Opens [redirection] (openingsIn exchanges) (failureOf outcome) := by
  obtain ⟨reply, _, rfl, ended⟩ := goes_ask_bind.mp goes
  cases reply with
  | ok descriptor =>
      obtain ⟨rfl, rfl, rfl⟩ := goes_pure.mp ended
      exact ⟨rfl, .opened descriptor .all⟩
  | error error =>
      obtain ⟨rfl, rfl, rfl⟩ := goes_throw.mp ended
      exact ⟨rfl, .refused redirection [] error⟩

/-- A redirection that the command may lack. -/
theorem goes_mapM_openRedirection {redirection? : Option Redirection}
    {outcome : Except Failure (Option Descriptor)}
    (goes : (redirection?.mapM openRedirection).Goes before exchanges
      outcome after) :
    after = before ∧ (∀ exchange ∈ exchanges, exchange.1.Prepares) ∧
      Opens redirection?.toList (openingsIn exchanges) (failureOf outcome) := by
  cases redirection? with
  | none =>
      obtain ⟨rfl, rfl, rfl⟩ := goes_pure.mp goes
      exact ⟨rfl, List.forall_mem_nil _, .all⟩
  | some redirection =>
      rcases goes_bind.mp goes with
        ⟨opening, _, value, _, rfl, opens, ended⟩ | ⟨failure, opens, rfl⟩
      · obtain ⟨rfl, rfl, rfl⟩ := goes_pure.mp ended
        rw [List.append_nil]
        obtain ⟨rfl, calls⟩ := asks_openRedirection redirection _ _ _ _ opens
        exact ⟨rfl, calls, (goes_openRedirection opens).2⟩
      · obtain ⟨rfl, calls⟩ := asks_openRedirection redirection _ _ _ _ opens
        exact ⟨rfl, calls, (goes_openRedirection opens).2⟩

theorem prepares_closings (descriptors : List Descriptor) :
    ∀ exchange ∈ closings descriptors, exchange.1.Prepares := by
  intro exchange member
  obtain ⟨descriptor, _, rfl⟩ := List.mem_map.mp member
  trivial

/-- A builtin behind the redirection of its output; `next` turns its answer into
an outcome. -/
theorem goes_readAndRun {redirection? : Option Redirection}
    {arguments : List String} {output : Descriptor}
    {next : Dispatch → Shell Int} {outcome : Except Failure Int}
    (ends : ∀ dispatched, ∃ result, next dispatched = ofOutcome result)
    (goes : (do
      let input ← redirection?.mapM openRedirection
      Activity.closeAll input.toList
      let dispatched ← Builtin.dispatch arguments output
      next dispatched : Shell Int).Goes before exchanges outcome after) :
    ∃ failure?, Opens redirection?.toList (openingsIn exchanges) failure? ∧
      (∀ exchange ∈ exchanges, exchange.1.Prepares ∨ exchange.1.MakesNothing) ∧
      (failure? = none → ∃ running dispatched,
        (Builtin.dispatch arguments output).Goes before running
          dispatched after) ∧
      ∀ failure, failure? = some failure →
        outcome = .error failure ∧ after = before ∧
        ∀ exchange ∈ exchanges, exchange.1.Prepares := by
  rcases goes_bind.mp goes with
    ⟨reading, running, input, _, rfl, opens, runs⟩ | ⟨failure, opens, rfl⟩
  · obtain ⟨rfl, readingCalls, reads⟩ := goes_mapM_openRedirection opens
    have calls : ∀ exchange ∈ running, exchange.1.MakesNothing := by
      refine Confined.allowed_of_goes ?_ runs
      refine .bind (.lift (Activity.confined_closeAll _)) fun _ => ?_
      refine .bind (Builtin.confined_dispatch _ _) fun dispatched => ?_
      obtain ⟨result, same⟩ := ends dispatched
      rw [same]
      exact .ofOutcome result
    rw [openingsIn_append, openingsIn_eq_nil calls, List.append_nil]
    refine ⟨none, reads, fun exchange member => ?_, fun _ => ?_,
      fun _ impossible => by cases impossible⟩
    · rcases List.mem_append.mp member with early | late
      · exact .inl (readingCalls exchange early)
      · exact .inr (calls exchange late)
    · obtain ⟨_, _, _, _, _, dispatches⟩ := goes_lift_bind.mp runs
      rcases goes_bind.mp dispatches with
        ⟨_, _, dispatched, _, _, ran, ended⟩ | ⟨_, ran, _⟩
      · obtain ⟨result, same⟩ := ends dispatched
        rw [same] at ended
        obtain ⟨_, _, rfl⟩ := goes_ofOutcome.mp ended
        exact ⟨_, _, ran⟩
      · exact ⟨_, _, ran⟩
  · obtain ⟨rfl, calls, reads⟩ := goes_mapM_openRedirection opens
    refine ⟨some failure, reads,
      fun exchange member => .inl (calls exchange member),
        (fun impossible => by cases impossible), ?_⟩
    rintro _ ⟨⟩
    exact ⟨rfl, rfl, calls⟩

/-- What a builtin in the shell opens, and what stops it. -/
theorem goes_runBuiltin {command : Command} {outcome : Except Failure Int}
    (goes : (runBuiltin command).Goes before exchanges outcome after) :
    ∃ failure?, Opens command.shellOrder (openingsIn exchanges) failure? ∧
      (∀ exchange ∈ exchanges, exchange.1.Prepares ∨ exchange.1.MakesNothing) ∧
      (failure? = none → ∃ out running dispatched,
        (Builtin.dispatch command.arguments out).Goes before running
          dispatched after) ∧
      ∀ failure, failure? = some failure →
        outcome = .error failure ∧ after = before ∧
        ∀ exchange ∈ exchanges, exchange.1.Prepares := by
  unfold runBuiltin at goes
  rcases goes_bind.mp goes with
    ⟨writing, rest, output, _, rfl, opens, goesOn⟩ | ⟨failure, opens, rfl⟩
  · obtain ⟨rfl, writingCalls, writes⟩ := goes_mapM_openRedirection opens
    obtain ⟨working, rfl, works⟩ := goes_closingBehind goesOn
    obtain ⟨failure?, reads, calls, runs, stops⟩ := goes_readAndRun
      (fun dispatched => by cases dispatched; exacts [⟨.ok _, rfl⟩,
        ⟨.error _, rfl⟩]) works
    have openings :
        openingsIn (writing ++ (working ++ closings output.toList)) =
        openingsIn writing ++ openingsIn working := by
      simp [openingsIn_closings]
    rw [openings]
    refine ⟨failure?, writes.append reads,
      fun exchange member => ?_, fun none? => ?_, fun failure some? => ?_⟩
    · simp only [List.mem_append] at member
      rcases member with early | middle | last
      · exact .inl (writingCalls exchange early)
      · exact calls exchange middle
      · exact .inl (prepares_closings _ exchange last)
    · exact ⟨_, runs none?⟩
    · obtain ⟨failed, kept, readingCalls⟩ := stops failure some?
      refine ⟨failed, kept, fun exchange member => ?_⟩
      simp only [List.mem_append] at member
      rcases member with early | middle | last
      · exact writingCalls exchange early
      · exact readingCalls exchange middle
      · exact prepares_closings _ exchange last
  · obtain ⟨rfl, calls, writes⟩ := goes_mapM_openRedirection opens
    refine ⟨some failure, writes.append_refused _,
      fun exchange member => .inl (calls exchange member),
        (fun impossible => by cases impossible), ?_⟩
    rintro _ ⟨⟩
    exact ⟨rfl, rfl, calls⟩

theorem goes_openRedirections {redirections : List Redirection}
    {opened : List (Descriptor × Descriptor)}
    {outcome : Except Failure (List (Descriptor × Descriptor))}
    (goes : (openRedirections opened redirections).Goes before exchanges
      outcome after) :
    Opens redirections (openingsIn exchanges) (failureOf outcome) := by
  induction redirections generalizing opened before exchanges with
  | nil =>
      obtain ⟨rfl, rfl, _⟩ := goes_pure.mp goes
      exact .all
  | cons redirection redirections induction =>
      obtain ⟨opening, rest, ended, _, rfl, opens, goesOn⟩ :=
        goes_attempt_bind.mp goes
      obtain ⟨_, here⟩ := goes_openRedirection opens
      rw [openingsIn_append]
      cases ended with
      | ok descriptor => exact here.append (induction goesOn)
      | error failure =>
          obtain ⟨_, _, _, rfl, closed, thrown⟩ := goes_lift_bind.mp goesOn
          obtain ⟨rfl, rfl, _⟩ := goes_throw.mp thrown
          rw [Activity.goes_closeAll.mp closed, List.append_nil,
            openingsIn_closings, List.append_nil]
          exact here.append_refused redirections

theorem confined_enterGroup (child : Pid) (group : Option Pid) :
    Confined Call.MakesNothing (enterGroup child group) := by
  refine .get_bind fun session => ?_
  split
  · exact .discard (.ask trivial)
  · exact .pure ()

theorem openingsIn_forkStage {command : Command} {program : Option Launch}
    {wiring : Wiring} {group : Option Pid} {background : Bool}
    {outcome : Except Failure Pid}
    (goes : (forkStage command program wiring group background).Goes before
      exchanges outcome
      after) : openingsIn exchanges = [] := by
  unfold forkStage at goes
  rw [goes_get_bind] at goes
  obtain ⟨forked, _, rfl, goesOn⟩ := goes_ask_bind.mp goes
  obtain ⟨closing, entering, _, rfl, closed, entered⟩ :=
    goes_lift_bind.mp goesOn
  have closes : openingsIn closing = [] := by
    rw [Activity.goes_closeAll.mp closed, openingsIn_closings]
  change openingsIn (closing ++ entering) = []
  rw [openingsIn_append, closes, List.nil_append]
  cases forked with
  | ok child =>
      have confined :
          Confined Call.MakesNothing
            (enterGroup child group >>= fun _ => pure child) :=
        .bind (confined_enterGroup child group) fun _ => .pure child
      exact openingsIn_eq_nil (confined.allowed_of_goes entered)
  | error errno =>
      obtain ⟨rfl, _⟩ := goes_throw.mp entered
      rfl

/-- What is opened for a stage that is a builtin, and what stops its launch. -/
theorem goes_spawn_builtin {command : Command}
    (known : isBuiltin command.program = true)
    {input output : Option Descriptor} {group : Option Pid} {background : Bool}
    {outcome : Except Failure Pid}
    (goes : (spawn command input output group background).Goes before exchanges
      outcome after) :
    ∃ failure?, Opens command.redirections (openingsIn exchanges) failure? ∧
      ∀ failure, failure? = some failure →
        outcome = .error failure ∧ after = before ∧
        forksIn exchanges = [] := by
  have kept : after = before := (goes_spawn goes).1
  obtain ⟨attempt, rfl, attempted⟩ := goes_closingBehind goes
  rw [openingsIn_append, openingsIn_closings, List.append_nil, forksIn_append,
    forksIn_closings, List.append_nil]
  have nothing : prepareIfNeeded command = pure none := by
    rw [prepareIfNeeded, known]
    rfl
  rw [nothing, pure_bind] at attempted
  rcases goes_bind.mp attempted with
    ⟨opening, late, redirections, _, rfl, opens, forking⟩ |
      ⟨failure, opens, rfl⟩
  · rw [openingsIn_append, openingsIn_forkStage forking, List.append_nil]
    exact ⟨none, goes_openRedirections opens,
      fun _ impossible => by cases impossible⟩
  · refine ⟨some failure, goes_openRedirections opens, ?_⟩
    rintro _ ⟨⟩
    have calls :=
      (asks_openRedirections command.redirections [] _ _ _ _ opens).2
    exact ⟨rfl, kept, forksIn_eq_nil_of_prepares calls⟩

end Shell

namespace Stage

open Shell

theorem confined_duplicateAll (pairs : List (Descriptor × Descriptor)) :
    (duplicateAll pairs).Confined Call.MakesNothing := by
  induction pairs with
  | nil => exact .ret _
  | cons pair pairs induction =>
      obtain ⟨target, source⟩ := pair
      refine .bind (.ask trivial) fun reply => ?_
      cases reply with
      | ok => exact induction
      | error errno => exact .ret _

theorem confined_wired {wiring : Wiring}
    {next : Except Errno Unit → Activity Int}
    (wired : (next (.ok ())).Confined Call.MakesNothing)
    (refused : ∀ errno, (next (.error errno)).Confined Call.MakesNothing) :
    (Activity.resetSignals >>= fun _ => wire wiring >>= next).Confined
      Call.MakesNothing := by
  refine .bind (.ask trivial) fun _ =>
    .bind (confined_duplicateAll _) fun outcome => ?_
  cases outcome with
  | ok => exact wired
  | error errno => exact refused errno

/-- The child of such a stage finds all files open. -/
theorem confined_body (session : Session) (command : Command) (wiring : Wiring)
    (group : Option Pid) (background : Bool) :
    (body session command none wiring group background).Confined
      Call.MakesNothing := by
  have runs := confined_runBuiltin session command
  have refuses (errno : Errno) :
      (complain command.program (Failure.system errno).message >>=
      fun _ => pure 1 : Activity Int).Confined Call.MakesNothing :=
    .bind (Activity.confined_say _ _) fun _ => .ret 1
  unfold body
  dsimp only
  split
  · refine .bind (.ask trivial) fun me =>
      .bind (.discard_ask trivial) fun _ => ?_
    split
    · exact .bind (.discard_ask trivial) fun _ => confined_wired runs refuses
    · exact confined_wired runs refuses
  · exact confined_wired runs refuses

end Stage

namespace Shell

/-- A builtin in the shell opens its files in the order of the shell, and as a
stage in the order of its redirections, up to the first one that cannot be
opened; that one is reported, and nothing else is done.  Only an input before an
output makes a difference.  Where the file to read from can be opened, the same
files are opened all the same; where it cannot, the stage touches no file, and
the shell opens the file to write to. -/
theorem builtin_opens_in_turn {command : Command}
    (known : isBuiltin command.program = true) :
    (∀ (before after : Session) (exchanges : List Exchange)
      (outcome : Except Failure Int),
      (runBuiltin command).Goes before exchanges outcome after →
      ∃ failure?, Opens command.shellOrder (openingsIn exchanges) failure? ∧
        (failure? = none → ∃ out running dispatched,
          (Builtin.dispatch command.arguments out).Goes before running
            dispatched after) ∧
        (∀ failure, failure? = some failure →
          outcome = .error failure ∧ after = before ∧
          ∀ exchange ∈ exchanges, exchange.1.Prepares) ∧
        ∀ world opened, Serves world (openingsIn exchanges) opened →
          world.openAll command.shellOrder = (failure?, opened)) ∧
    (∀ (before after : Session) (exchanges : List Exchange)
      (outcome : Except Failure Pid)
      (input output : Option Descriptor) (group : Option Pid)
        (background : Bool),
      (spawn command input output group background).Goes before exchanges
        outcome after →
      ∃ failure?, Opens command.redirections (openingsIn exchanges) failure? ∧
        (∀ failure, failure? = some failure →
          outcome = .error failure ∧ after = before ∧
          forksIn exchanges = []) ∧
        ∀ world opened, Serves world (openingsIn exchanges) opened →
          world.openAll command.redirections = (failure?, opened)) ∧
    (∀ (session : Session) (wiring : Wiring) (group : Option Pid)
      (background : Bool),
      (Stage.body session command none wiring group background).Confined
        Call.MakesNothing) ∧
    (command.Settled → command.shellOrder = command.redirections ∨
      ∃ input output, command.InputFirst input output) ∧
    ∀ input output, command.InputFirst input output →
      command.shellOrder = [output, input] ∧
      ∀ world : World,
        (∀ found, world.openForReading input.file = .ok found →
          world.openAll command.shellOrder =
            world.openAll command.redirections) ∧
        ∀ error, world.openForReading input.file = .error error →
          world.openAll command.redirections =
            (some (input.refusal error), world) ∧
          (∀ refused,
            world.openFile output.operator output.file = .error refused →
            world.openAll command.shellOrder =
              (some (output.refusal refused), world)) ∧
          ∀ opened next,
            world.openFile output.operator output.file = .ok (opened, next) →
            (world.openAll command.shellOrder).2 = next := by
  refine ⟨?_, ?_, ?_, Command.shellOrder_cases, ?_⟩
  · intro before after exchanges outcome goes
    obtain ⟨failure?, opens, _, runs, stops⟩ := goes_runBuiltin goes
    exact ⟨failure?, opens, runs, stops,
      fun world opened serves => opens.openAll_eq serves⟩
  · intro before after exchanges outcome input output group background goes
    obtain ⟨failure?, opens, stops⟩ := goes_spawn_builtin known goes
    exact ⟨failure?, opens, stops, fun world opened serves =>
      opens.openAll_eq serves⟩
  · intro session wiring group background
    exact Stage.confined_body session command wiring group background
  · intro input output inputFirst
    rw [inputFirst.shellOrder, inputFirst.both]
    refine ⟨rfl, fun world =>
      ⟨fun found readable => ?_, fun error refused => ⟨?_, ?_, ?_⟩⟩⟩
    · exact World.openAll_swap inputFirst.reads inputFirst.writes readable
    · exact World.openAll_refused
        (World.openFile_input_refused inputFirst.reads refused)
    · exact fun _ refusedOutput => World.openAll_refused refusedOutput
    · intro opened next opens
      rw [World.openAll_opened opens]
      cases reading : next.openFile input.operator input.file with
      | error error => rw [World.openAll_refused reading]
      | ok result =>
          obtain ⟨found, last⟩ := result
          obtain ⟨_, rfl⟩ := (World.openFile_input inputFirst.reads).mp reading
          rw [World.openAll_opened reading]
          rfl

/-- A command that names an input before its output. -/
def readsThenWrites : Command :=
  { arguments := ["pwd"]
    redirections :=
      [{ operator := .input, file := "missing" },
        { operator := .output, file := "o" }]
    builtin := true }

/-- A machine without files. -/
def bareWorld : World :=
  { files := { root := .directory [], contents := #[] }
    place := .root, environment := [], accountHome := "/" }

def bareSession : Session := .fresh 50 "/" .empty

def noInput : Failure := .runtime "missing" (.unusable (.system .noEntry))

/-- In the shell the file to write to is open when the other one is found
missing. -/
def openingsInShell : List Exchange :=
  [⟨.openFile .output "o", .ok 3⟩,
    ⟨.openFile .input "missing", .error (.system .noEntry)⟩, ⟨.close 3, ()⟩]

def openingsInStage : List Exchange :=
  [⟨.openFile .input "missing", .error (.system .noEntry)⟩]

theorem goes_openingsInShell :
    (runBuiltin readsThenWrites).Goes bareSession openingsInShell
      (.error noInput) bareSession :=
  goes_of_supplies { files := [.ok 3, .error (.system .noEntry)] } rfl

theorem goes_openingsInStage :
    (spawn readsThenWrites none none none false).Goes bareSession
      openingsInStage (.error noInput)
      bareSession :=
  goes_of_supplies { files := [.error (.system .noEntry)] } rfl

theorem serves_openingsInShell :
    Serves bareWorld (openingsIn openingsInShell)
      (bareWorld.withNewFile ["o"]) :=
  .opened 3 rfl (.refused rfl (.nil _))

theorem serves_openingsInStage :
    Serves bareWorld (openingsIn openingsInStage) bareWorld :=
  .refused rfl (.nil _)

theorem builtin_opens_in_turn_readsThenWrites :
    isBuiltin readsThenWrites.program = true ∧
    (runBuiltin readsThenWrites).Goes bareSession openingsInShell
      (.error noInput) bareSession ∧
    (spawn readsThenWrites none none none false).Goes bareSession
      openingsInStage (.error noInput) bareSession ∧
    (∃ failure, bareWorld.openAll readsThenWrites.shellOrder =
      (failure, bareWorld.withNewFile ["o"])) ∧
    ∃ failure, bareWorld.openAll readsThenWrites.redirections =
      (failure, bareWorld) := by
  have known : isBuiltin readsThenWrites.program = true := by decide
  obtain ⟨inShell, inStage, _⟩ := builtin_opens_in_turn known
  obtain ⟨failure, _, _, _, shellFiles⟩ := inShell _ _ _ _ goes_openingsInShell
  obtain ⟨other, _, _, stageFiles⟩ :=
    inStage _ _ _ _ _ _ _ _ goes_openingsInStage
  exact ⟨known, goes_openingsInShell, goes_openingsInStage,
    ⟨failure, shellFiles _ _ serves_openingsInShell⟩, other,
    stageFiles _ _ serves_openingsInStage⟩

/-- The shell makes a file that the stage leaves alone. -/
theorem not_same_openings :
    ¬∀ (command : Command) (world opened twin : World)
      (before after stageAfter : Session)
      (exchanges stageExchanges : List Exchange) (outcome : Except Failure Int)
      (stageOutcome : Except Failure Pid), isBuiltin command.program = true →
      command.Settled →
        (runBuiltin command).Goes before exchanges outcome after →
        Serves world (openingsIn exchanges) opened →
        (spawn command none none none false).Goes before stageExchanges
          stageOutcome stageAfter →
        Serves world (openingsIn stageExchanges) twin →
          openingsIn exchanges = openingsIn stageExchanges ∧ opened = twin := by
  intro same
  have settled : readsThenWrites.Settled := by decide
  obtain ⟨_, files⟩ :=
    same _ _ _ _ _ _ _ _ _ _ _ (by decide) settled goes_openingsInShell
    serves_openingsInShell goes_openingsInStage serves_openingsInStage
  have sizes := congrArg (fun world => world.files.contents.size) files
  revert sizes
  decide

end Shell

end JobShell
