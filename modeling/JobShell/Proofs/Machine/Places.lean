import JobShell.Machine.Run
import JobShell.Proofs.System.Trace

/-!
# Where the shell is

On the machine processes come and go, signals reach them, and each of them may
go to other directories.  Nothing of this moves the shell: it is somewhere else
only when it has asked for another directory, and has got it.
-/

namespace JobShell

/-- The working directory has become another one. -/
def Exchange.Moves : Exchange → Prop
  | ⟨.changeDirectory _, reply⟩ => reply = .ok ()
  | _ => False

/-- The call does not ask for another working directory. -/
def Call.Stays : Call → Prop
  | changeDirectory _ => False
  | _ => True

theorem Call.stays_or (call : Call) :
    call.Stays ∨ ∃ path, call = .changeDirectory path := by
  cases call with
  | changeDirectory path => exact .inr ⟨path, rfl⟩
  | _ => exact .inl trivial

theorem Exchange.not_moves_of_stays {exchange : Exchange}
    (stays : exchange.1.Stays) :
    ¬exchange.Moves := by
  obtain ⟨call, reply⟩ := exchange
  cases call with
  | changeDirectory path => exact stays.elim
  | _ => exact id

/-- The property holds of every machine that the outcome leaves. -/
def Outcome.Leaves {α : Type} (post : Machine → Prop) : Outcome α → Prop
  | .answered _ machine | .advanced machine | .replaced _ machine =>
    post machine
  | .waiting => True

namespace Machine

/-- The shell is at this place, and its number will not be given to another
process. -/
structure ShellAt (machine : Machine) (place : Place) : Prop where
  numbered : machine.shell < machine.nextPid
  placed : ∀ process ∈ machine.processes, process.pid = machine.shell →
    process.place = place

/-- The machine becomes another one on which the shell is where it was. -/
structure KeepsShell (machine next : Machine) : Prop where
  shell : next.shell = machine.shell
  stays : ∀ {place : Place}, machine.ShellAt place → next.ShellAt place

namespace KeepsShell

variable {machine next last : Machine}

theorem refl (machine : Machine) : KeepsShell machine machine := ⟨rfl, id⟩

theorem trans (first : KeepsShell machine next)
    (second : KeepsShell next last) :
    KeepsShell machine last :=
  ⟨second.shell.trans first.shell, fun shellAt =>
    second.stays (first.stays shellAt)⟩

/-- Every process was there before, at the same place. -/
theorem of_processes (shell : next.shell = machine.shell)
    (numbers : next.nextPid = machine.nextPid)
    (each : ∀ process ∈ next.processes, ∃ old ∈ machine.processes,
      old.pid = process.pid ∧ old.place = process.place) :
      KeepsShell machine next := by
  refine ⟨shell, fun shellAt => ⟨?_, ?_⟩⟩
  · rw [shell, numbers]
    exact shellAt.numbered
  · intro process member isShell
    obtain ⟨old, listed, samePid, samePlace⟩ := each process member
    rw [← samePlace]
    exact shellAt.placed old listed (samePid.trans (isShell.trans shell))

/-- The processes are the same. -/
theorem of_eq (shell : next.shell = machine.shell)
    (numbers : next.nextPid = machine.nextPid)
    (same : next.processes = machine.processes) : KeepsShell machine next :=
  of_processes shell numbers fun process member =>
    ⟨process, same ▸ member, rfl, rfl⟩

/-- The processes have changed, but none of them its number or its place. -/
theorem of_map {change : MachineProcess → MachineProcess}
    (shell : next.shell = machine.shell)
    (numbers : next.nextPid = machine.nextPid)
    (changed : next.processes = machine.processes.map change)
    (keeps : ∀ process, (change process).pid = process.pid ∧
      (change process).place = process.place) : KeepsShell machine next := by
  refine of_processes shell numbers fun process member => ?_
  rw [changed] at member
  obtain ⟨old, listed, rfl⟩ := List.mem_map.mp member
  exact ⟨old, listed, (keeps old).1.symm, (keeps old).2.symm⟩

theorem update (machine : Machine) (pid : Pid)
    {change : MachineProcess → MachineProcess}
    (keeps : ∀ process, (change process).pid = process.pid ∧
      (change process).place = process.place) :
    KeepsShell machine (machine.update pid change) := by
  refine of_map rfl rfl rfl fun process => ?_
  split
  · exact keeps process
  · exact ⟨rfl, rfl⟩

theorem foldl {α : Type} {step : Machine → α → Machine}
    (keeps : ∀ machine x, KeepsShell machine (step machine x))
    (machine : Machine) (xs : List α) :
    KeepsShell machine (xs.foldl step machine) := by
  induction xs generalizing machine with
  | nil => exact .refl machine
  | cons x xs induction => exact (keeps machine x).trans (induction _)

end KeepsShell

theorem keepsShell_forget (machine : Machine) (pid : Pid) :
    KeepsShell machine (machine.forget pid) := by
  refine KeepsShell.of_processes rfl rfl fun process member => ?_
  exact ⟨process, (List.mem_filter.mp member).1, rfl, rfl⟩

theorem keepsShell_notifyParent (machine : Machine) (process : MachineProcess) :
    KeepsShell machine (machine.notifyParent process) :=
  .update machine _ fun _ => ⟨rfl, rfl⟩

theorem keepsShell_disinherit (machine : Machine) (pid : Pid) :
    KeepsShell machine (machine.disinherit pid) := by
  refine KeepsShell.of_processes rfl rfl fun process member => ?_
  obtain ⟨old, listed, rfl⟩ := List.mem_map.mp member
  refine ⟨old, (List.mem_filter.mp listed).1, ?_⟩
  split
  · exact ⟨rfl, rfl⟩
  · exact ⟨rfl, rfl⟩

theorem keepsShell_finish (machine : Machine) (pid : Pid)
    (outcome : ProcessEnd) :
    KeepsShell machine (machine.finish pid outcome) := by
  unfold finish
  split
  · exact .refl machine
  · split
    · exact .refl machine
    · apply (keepsShell_disinherit machine pid).trans
      dsimp only
      split
      · exact keepsShell_forget _ pid
      · refine (KeepsShell.update _ pid ?_).trans (keepsShell_notifyParent _ _)
        exact fun _ => ⟨rfl, rfl⟩

theorem keepsShell_changePhase (machine : Machine) (pid : Pid) (phase : Phase)
    (news : ProcessState) :
    KeepsShell machine (machine.changePhase pid phase news) := by
  unfold changePhase
  split
  · exact .refl machine
  · refine (KeepsShell.update machine pid ?_).trans
      (keepsShell_notifyParent _ _)
    exact fun _ => ⟨rfl, rfl⟩

theorem keepsShell_act (machine : Machine) (pid : Pid) (signal : Signal)
    (action : Signal.Action) :
    KeepsShell machine (machine.act pid signal action) := by
  cases action with
  | terminate => exact keepsShell_finish machine pid _
  | stop =>
      unfold act
      dsimp only
      split
      · exact keepsShell_changePhase machine pid _ _
      · exact .refl machine
  | ignore => exact .refl machine
  | resume => exact .refl machine

theorem keepsShell_reach (depth : Nat) (machine : Machine) (pid : Pid)
    (signal : Signal) :
    KeepsShell machine (reach depth machine pid signal) := by
  induction depth generalizing machine pid signal with
  | zero => exact .refl machine
  | succ depth induction =>
      unfold reach
      split
      · exact keepsShell_act machine pid signal _
      · split
        · exact .refl machine
        · next process _ =>
            have noted : KeepsShell machine (machine.update pid fun other =>
                { other with signals := (process.signals.receive signal).2 }) :=
              .update machine pid fun _ => ⟨rfl, rfl⟩
            apply noted.trans
            dsimp only
            split
            · exact .refl _
            · exact keepsShell_act _ pid signal _
            · exact KeepsShell.foldl
                (fun machine member => induction machine member signal) _ _

theorem keepsShell_reachNumber (machine : Machine) (pid : Pid) (number : Nat) :
    KeepsShell machine (machine.reachNumber pid number) := by
  unfold reachNumber
  split
  · exact keepsShell_reach _ machine pid _
  · exact keepsShell_finish machine pid _

theorem keepsShell_resume (machine : Machine) (pid : Pid) :
    KeepsShell machine (machine.resume pid) := by
  unfold resume
  split
  · exact .refl machine
  · have cleared : KeepsShell machine (machine.update pid fun process =>
        { process with pending := [] }) :=
      .update machine pid fun _ => ⟨rfl, rfl⟩
    apply (cleared.trans (keepsShell_changePhase _ pid .running .running)).trans
    exact KeepsShell.foldl
      (fun machine number => keepsShell_reachNumber machine pid number) _ _

theorem keepsShell_deliverNumber (machine : Machine) (pid : Pid)
    (number : Nat) :
    KeepsShell machine (machine.deliverNumber pid number) := by
  unfold deliverNumber
  split
  · exact .refl machine
  · split
    · exact .refl machine
    · exact keepsShell_reachNumber machine pid number
    · split
      · exact keepsShell_resume machine pid
      · split
        · exact keepsShell_reachNumber machine pid number
        · exact .update machine pid fun _ => ⟨rfl, rfl⟩

theorem keepsShell_deliverAll {machine next : Machine} {pids : List Pid}
    {number : Nat} (delivered : machine.deliverAll pids number = .ok next) :
    KeepsShell machine next := by
  unfold deliverAll at delivered
  split at delivered
  · cases delivered
  · split at delivered
    · cases delivered
      exact .refl machine
    · cases delivered
      exact KeepsShell.foldl
        (fun machine pid => keepsShell_deliverNumber machine pid number) _ _

end Machine

namespace World

theorem place_of_openForWriting {world next : World} {keep : Bool}
    {path : String} {opened : Opened}
    (opens : world.openForWriting keep path = .ok (opened, next)) :
    next.place = world.place := by
  unfold openForWriting at opens
  split at opens
  · cases opens
  · split at opens
    · cases opens
      rfl
    · cases opens
      rfl
  · cases opens
    rfl
  · cases opens
    rfl
  · cases opens
  · cases opens
  · cases opens
    rfl

theorem place_of_openFile {world next : World} {operator : RedirectOp}
    {path : String} {opened : Opened}
    (opens : world.openFile operator path = .ok (opened, next)) :
    next.place = world.place := by
  cases operator with
  | input =>
      cases read : world.openForReading path with
      | error error =>
          rw [openFile, read] at opens
          cases opens
      | ok opened =>
          rw [openFile, read] at opens
          cases opens
          rfl
  | output => exact place_of_openForWriting opens
  | append => exact place_of_openForWriting opens

theorem place_of_appendText {world next : World} {path text : String}
    (appended : world.appendText path text = .ok next) :
    next.place = world.place := by
  unfold appendText at appended
  split at appended
  · cases appended
  · next opens =>
      cases appended
      have same := place_of_openFile opens
      exact same
  · next opens =>
      cases appended
      exact place_of_openFile opens

end World

namespace Machine

section Calls

variable {machine : Machine} {process : MachineProcess}

theorem keepsShell_openChannel (machine : Machine) (pid : Pid)
    (channel : Channel) :
    KeepsShell machine (machine.openChannel pid channel).2 := by
  refine .of_map rfl rfl rfl fun process => ?_
  split
  · exact ⟨rfl, rfl⟩
  · exact ⟨rfl, rfl⟩

/-- What another process sees from its new place does not move the shell, and
neither does what the shell sees from its own. -/
theorem keepsShell_setWorld (member : process ∈ machine.processes)
    {world : World}
    (stays : process.pid = machine.shell → world.place = process.place) :
    KeepsShell machine (machine.setWorld process.pid world) := by
  refine ⟨rfl, fun {place} shellAt => ⟨shellAt.numbered, ?_⟩⟩
  intro later reached isShell
  obtain ⟨old, listed, rfl⟩ := List.mem_map.mp reached
  by_cases same : old.pid = process.pid
  · rw [if_pos same] at isShell ⊢
    have isShell : process.pid = machine.shell := same.symm.trans isShell
    exact (stays isShell).trans (shellAt.placed process member isShell)
  · rw [if_neg same] at isShell ⊢
    exact shellAt.placed old listed isShell

theorem keepsShell_openFile (member : process ∈ machine.processes)
    (operator : RedirectOp) (path : String) :
    KeepsShell machine
      (machine.openFile process.pid
        (machine.worldOf process) operator path).2 := by
  unfold openFile
  split
  · exact .refl machine
  · split
    · exact .refl machine
    · next opens =>
        have seen :=
          keepsShell_setWorld member fun _ => World.place_of_openFile opens
        exact seen.trans (keepsShell_openChannel _ _ _)

theorem keepsShell_appendText (member : process ∈ machine.processes)
    (path text : String) :
    KeepsShell machine
      (machine.appendText process.pid
        (machine.worldOf process) path text).2 := by
  unfold appendText
  split
  · exact .refl machine
  · split
    · exact .refl machine
    · next appended =>
        exact keepsShell_setWorld member fun _ =>
          World.place_of_appendText appended

theorem keepsShell_fork (task : Task) :
    KeepsShell machine (machine.fork process task).2 := by
  refine ⟨rfl, fun {place} shellAt => ⟨Nat.lt_succ_of_lt shellAt.numbered, ?_⟩⟩
  intro other listed isShell
  rcases List.mem_append.mp listed with before | child
  · exact shellAt.placed other before isShell
  · rw [List.mem_singleton.mp child] at isShell
    have fresh : machine.nextPid = machine.shell := isShell
    exact absurd fresh (Nat.ne_of_gt shellAt.numbered)

theorem leaves_ofResult {α : Type} {result : Except Errno (α × Machine)}
    (keeps : ∀ value next, result = .ok (value, next) →
      KeepsShell machine next) :
    (Outcome.ofResult machine result).Leaves (KeepsShell machine) := by
  cases result with
  | error errno => exact .refl machine
  | ok found => exact keeps found.1 found.2 rfl

theorem keepsShell_setWritten (machine : Machine) (pid : Pid) (written : Nat) :
    KeepsShell machine (machine.setWritten pid written) :=
  .update machine pid fun _ => ⟨rfl, rfl⟩

theorem leaves_writePipe (pipe : Nat) (bytes : ByteArray) :
    (machine.writePipe process pipe bytes).Leaves (KeepsShell machine) := by
  have piped (pipes : Array ByteArray) :
      KeepsShell machine { machine with pipes } :=
    .of_eq rfl rfl rfl
  unfold writePipe
  split
  · exact (keepsShell_setWritten machine process.pid 0).trans
      (keepsShell_deliverNumber _ _ _)
  · dsimp only
    split
    · exact (piped _).trans (keepsShell_setWritten _ process.pid 0)
    · split
      · trivial
      · exact (piped _).trans (keepsShell_setWritten _ process.pid _)

theorem leaves_write (descriptor : Descriptor) (bytes : ByteArray) :
    (machine.write process descriptor bytes).Leaves (KeepsShell machine) := by
  unfold write
  split
  · exact .refl machine
  · split
    · exact .of_eq rfl rfl rfl
    · exact .refl machine
    · exact .refl machine
    · exact .refl machine
    · exact .refl machine
    · exact leaves_writePipe _ bytes
    · exact .of_eq rfl rfl rfl
    · exact .of_eq rfl rfl rfl

theorem leaves_read (pid : Pid) (descriptor : Descriptor) (limit : Nat) :
    (machine.read pid descriptor limit).Leaves (KeepsShell machine) := by
  unfold read
  split
  · exact .refl machine
  · split
    · exact .refl machine
    · exact .refl machine
    · exact .refl machine
    · exact .refl machine
    · exact .refl machine
    · exact .refl machine
    · exact .of_eq rfl rfl rfl
    · dsimp only
      split
      · trivial
      · exact .of_eq rfl rfl rfl

theorem leaves_wait (me child : Pid) (mode : WaitMode) :
    (machine.wait me child mode).Leaves (KeepsShell machine) := by
  have heard : KeepsShell machine
      (machine.update child fun process => { process with news := none }) :=
    .update machine child fun _ => ⟨rfl, rfl⟩
  unfold wait
  split
  · exact .refl machine
  · split
    · exact .refl machine
    · split
      · exact keepsShell_forget machine child
      · exact heard
      · exact heard
      · exact .refl machine
      · trivial

theorem leaves_awaitChild (child : Pid) (interruptible : Bool) :
    (machine.awaitChild process child interruptible).Leaves
      (KeepsShell machine) := by
  unfold awaitChild
  split
  · exact .refl machine
  · split
    · exact .refl machine
    · split
      · exact keepsShell_forget machine child
      · split
        · exact .refl machine
        · trivial

theorem leaves_execute (path : String) (arguments : List String) :
    (machine.execute process path arguments).Leaves (KeepsShell machine) := by
  unfold execute
  dsimp only
  split
  · exact .refl machine
  · exact .update machine process.pid fun _ => ⟨rfl, rfl⟩

theorem leaves_withSignals {α : Type} (change : SignalState → α × SignalState) :
    (machine.withSignals process change).Leaves (KeepsShell machine) :=
  .update machine process.pid fun _ => ⟨rfl, rfl⟩

theorem leaves_openPipe (pid : Pid) :
    (Outcome.ofResult machine (machine.openPipe pid)).Leaves
      (KeepsShell machine) := by
  apply leaves_ofResult
  intro ends next opened
  unfold openPipe at opened
  dsimp only at opened
  split at opened
  · cases opened
    have piped :
        KeepsShell machine
          { machine with pipes := machine.pipes.push ByteArray.empty } :=
      .of_eq rfl rfl rfl
    exact (piped.trans (keepsShell_openChannel _ _ _)).trans
      (keepsShell_openChannel _ _ _)
  · cases opened

theorem leaves_duplicate (source target : Descriptor) :
    (Outcome.ofResult machine (machine.duplicate process source target)).Leaves
      (KeepsShell machine) := by
  apply leaves_ofResult
  intro value next duplicated
  unfold duplicate at duplicated
  split at duplicated
  · cases duplicated
  · split at duplicated
    · cases duplicated
    · cases duplicated
      exact .update machine process.pid fun _ => ⟨rfl, rfl⟩

theorem leaves_limitDescriptors (pid : Pid) (limit : Nat) :
    (Outcome.ofResult machine (machine.limitDescriptors pid limit)).Leaves
      (KeepsShell machine) := by
  apply leaves_ofResult
  intro value next limited
  unfold limitDescriptors at limited
  split at limited
  · cases limited
  · cases limited
    exact .update machine pid fun _ => ⟨rfl, rfl⟩

theorem leaves_joinGroup (me pid group : Pid) :
    (Outcome.ofResult machine (machine.joinGroup me pid group)).Leaves
      (KeepsShell machine) := by
  apply leaves_ofResult
  intro value next joined
  unfold joinGroup at joined
  split at joined
  · cases joined
  · split at joined
    · cases joined
    · split at joined
      · cases joined
      · cases joined
        exact .update machine pid fun _ => ⟨rfl, rfl⟩

theorem leaves_deliverAll (pids : List Pid) (number : Nat) :
    (Outcome.ofResult machine ((machine.deliverAll pids number).map
      fun machine => ((), machine))).Leaves (KeepsShell machine) := by
  cases delivered : machine.deliverAll pids number with
  | error errno => exact .refl machine
  | ok next => exact keepsShell_deliverAll delivered

/-- No call of another process moves the shell, and of its own calls only a
change of directory may do so. -/
theorem leaves_perform (member : process ∈ machine.processes) (call : Call)
    (stays : process.pid = machine.shell → call.Stays) :
    (machine.perform process call).Leaves (KeepsShell machine) := by
  cases call with
  | observe | clock | fileStatus _ | ownPid | parentPid | ownGroup
  | giveTerminal _ =>
      exact .refl machine
  | sleepUntil time =>
      unfold perform
      dsimp only
      split
      · trivial
      · exact .refl machine
  | changeDirectory path =>
      unfold perform
      dsimp only
      split
      · exact keepsShell_setWorld member fun isShell => (stays isShell).elim
      · exact .refl machine
  | openFile operator path => exact keepsShell_openFile member operator path
  | appendText path text => exact keepsShell_appendText member path text
  | openPipe => exact leaves_openPipe process.pid
  | duplicate source target => exact leaves_duplicate source target
  | write descriptor bytes => exact leaves_write descriptor bytes
  | read descriptor limit => exact leaves_read process.pid descriptor limit
  | fork task => exact keepsShell_fork task
  | execute path arguments => exact leaves_execute path arguments
  | wait pid mode => exact leaves_wait process.pid pid mode
  | awaitChild pid interruptible => exact leaves_awaitChild pid interruptible
  | signalGroup _ _ | sendSignal _ _ => exact leaves_deliverAll _ _
  | joinGroup pid group => exact leaves_joinGroup process.pid pid group
  | setForeground
      _ | takeChildEvent | takeInterrupt | installRelay | uninstallRelay _
  | resetSignals | setDisposition _ _ | takeNoted =>
      unfold perform
      exact leaves_withSignals _
  | close _ | setEnvironment _ =>
      exact .update machine process.pid fun _ => ⟨rfl, rfl⟩
  | limitDescriptors pid limit => exact leaves_limitDescriptors pid limit
  | hang => trivial

theorem keepsShell_of_answered (member : process ∈ machine.processes)
    {call : Call} {reply : call.Reply} {next : Machine}
    (performed : machine.perform process call = .answered reply next)
    (stays : ¬Exchange.Moves ⟨call, reply⟩) : KeepsShell machine next := by
  rcases call.stays_or with plain | ⟨path, rfl⟩
  · have leaves := leaves_perform member call fun _ => plain
    rw [performed] at leaves
    exact leaves
  · unfold perform at performed
    dsimp only at performed
    split at performed
    · cases performed
      exact absurd rfl stays
    · cases performed
      exact .refl machine

theorem keepsShell_of_advanced (member : process ∈ machine.processes)
    {call : Call} {next : Machine}
    (performed : machine.perform process call = .advanced next) :
    KeepsShell machine next := by
  rcases call.stays_or with plain | ⟨path, rfl⟩
  · have leaves := leaves_perform member call fun _ => plain
    rw [performed] at leaves
    exact leaves
  · unfold perform at performed
    dsimp only at performed
    split at performed
    · cases performed
    · cases performed

end Calls

theorem process?_some {machine : Machine} {pid : Pid} {process : MachineProcess}
    (found : machine.process? pid = some process) :
    process ∈ machine.processes ∧ process.pid = pid :=
  ⟨List.mem_of_find?_eq_some found, by simpa using List.find?_some found⟩

theorem keepsShell_park (machine : Machine) (pid : Pid)
    (activity : Activity Int) :
    KeepsShell machine (machine.park pid activity) := by
  refine .update machine pid fun process => ?_
  split
  · exact ⟨rfl, rfl⟩
  · exact ⟨rfl, rfl⟩

/-- Another process goes on. -/
theorem keepsShell_goOn {pid : Pid} (activity : Activity Int) (calls : Nat)
    (moved : Bool) (machine : Machine) (other : pid ≠ machine.shell) :
    KeepsShell machine (goOn pid activity calls moved machine).2 := by
  induction activity generalizing calls moved machine with
  | ret status => exact keepsShell_finish machine pid _
  | call call next induction =>
      cases calls with
      | zero =>
          exact (keepsShell_park machine pid _).trans
            (.update _ pid fun _ => ⟨rfl, rfl⟩)
      | succ calls =>
          unfold goOn
          split
          · exact .refl machine
          · next process found =>
              obtain ⟨member, isMe⟩ := process?_some found
              have leaves := leaves_perform member call fun isShell =>
                absurd (isMe.symm.trans isShell) other
              split
              · exact keepsShell_park machine pid _
              · next performed =>
                  rw [performed] at leaves
                  exact KeepsShell.trans leaves (keepsShell_park _ pid _)
              · next performed =>
                  rw [performed] at leaves
                  exact KeepsShell.trans leaves (keepsShell_park _ pid _)
              · next reply later performed =>
                  rw [performed] at leaves
                  have kept : KeepsShell machine later := leaves
                  split
                  · apply kept.trans
                    apply induction
                    rw [kept.shell]
                    exact other
                  · exact kept.trans (keepsShell_park _ pid _)

theorem keepsShell_move (machine : Machine) (pid : Pid) :
    KeepsShell machine (machine.move pid).2 := by
  unfold move
  split
  · exact .refl machine
  · split
    · next ready =>
        apply keepsShell_goOn
        simp only [Bool.and_eq_true, bne_iff_ne] at ready
        exact ready.2
    · exact .refl machine

theorem keepsShell_moveAll (machine : Machine) (pids : List Pid) :
    KeepsShell machine (machine.moveAll pids).2 := by
  induction pids generalizing machine with
  | nil => exact .refl machine
  | cons pid rest induction =>
      exact (keepsShell_move machine pid).trans (induction _)

theorem keepsShell_settle (rounds : Nat) (machine : Machine) :
    KeepsShell machine (settle rounds machine).2 := by
  induction rounds generalizing machine with
  | zero => exact .refl machine
  | succ rounds induction =>
      have round :=
        keepsShell_moveAll machine (machine.processes.map MachineProcess.pid)
      unfold settle
      split
      · next settled =>
          rw [settled] at round
          exact round
      · next unsettled =>
          rw [unsettled] at round
          exact round.trans (induction _)

theorem keepsShell_stepOthers {machine next : Machine} {alarm : Option Nat}
    (stepped : machine.stepOthers alarm = some next) :
    KeepsShell machine next := by
  have settled := keepsShell_settle stepLimit machine
  unfold stepOthers at stepped
  split at stepped
  · next moved =>
      rw [moved] at settled
      cases stepped
      exact settled
  · next idle =>
      rw [idle] at settled
      obtain ⟨time, _, rfl⟩ := Option.map_eq_some_iff.mp stepped
      exact settled.trans (.of_map rfl rfl rfl fun _ => ⟨rfl, rfl⟩)

theorem keepsShell_answer {call : Call} {steps : Nat} {machine next : Machine}
    {reply : call.Reply}
    (answered : answer call steps machine = some (reply, next))
    (stays : ¬Exchange.Moves ⟨call, reply⟩) : KeepsShell machine next := by
  induction steps generalizing machine with
  | zero => cases answered
  | succ steps induction =>
      unfold answer at answered
      split at answered
      · cases answered
      · next process found =>
          have member := (process?_some found).1
          split at answered
          · next performed =>
              cases answered
              exact keepsShell_of_answered member performed stays
          · cases answered
          · next performed =>
              exact (keepsShell_of_advanced member performed).trans
                (induction answered)
          · obtain ⟨later, stepped, answered⟩ :=
              Option.bind_eq_some_iff.mp answered
            exact (keepsShell_stepOthers stepped).trans (induction answered)

/-- The machine gives the shell these replies to these calls, one after the
other. -/
inductive Replies : Machine → List Exchange → Machine → Prop where
  | nil (machine : Machine) : Replies machine [] machine
  | cons {machine next last : Machine} {call : Call} {reply : call.Reply}
      {rest : List Exchange}
      (answered : answer call stepLimit machine = some (reply, next))
      (later : Replies next rest last) :
        Replies machine (⟨call, reply⟩ :: rest) last

/-- Whatever runs on the machine runs by its replies. -/
theorem exists_replies_of_run {α : Type} {activity : Activity α}
    {machine last : Machine} {value : α}
    (ran : machine.run activity = some (value, last)) :
    ∃ exchanges,
      activity.Goes exchanges value ∧ machine.Replies exchanges last := by
  unfold Machine.run at ran
  induction activity generalizing machine with
  | ret result =>
      cases ran
      exact ⟨[], ⟨rfl, rfl⟩, .nil _⟩
  | call call continuation induction =>
      unfold Interaction.run at ran
      split at ran
      · cases ran
      · next reply next answered =>
          obtain ⟨rest, goes, later⟩ := induction reply ran
          exact ⟨⟨call, reply⟩ :: rest, ⟨reply, rest, rfl, goes⟩,
            .cons answered later⟩

/-- As long as the shell is given no other directory, it stays where it is. -/
theorem Replies.keepsShell {machine last : Machine} {exchanges : List Exchange}
    (replies : machine.Replies exchanges last)
    (still : ∀ exchange ∈ exchanges, ¬exchange.Moves) :
    machine.KeepsShell last := by
  induction replies with
  | nil machine => exact .refl machine
  | cons answered _ induction =>
      obtain ⟨first, others⟩ := List.forall_mem_cons.mp still
      exact (keepsShell_answer answered first).trans (induction others)

/-- At its start the shell is where it is said to be. -/
theorem shellAt_start (world : World) : (start world).ShellAt world.place := by
  refine ⟨Nat.lt_succ_self _, fun process member _ => ?_⟩
  rw [List.mem_singleton.mp member]

/-- What the shell sees, it sees from its place. -/
theorem ShellAt.place_world {machine : Machine} {place : Place}
    {process : MachineProcess} (shellAt : machine.ShellAt place)
    (alive : machine.process? machine.shell = some process) :
    machine.world.place = place := by
  obtain ⟨member, isShell⟩ := process?_some alive
  unfold world
  rw [alive]
  exact shellAt.placed process member isShell

end Machine

end JobShell
