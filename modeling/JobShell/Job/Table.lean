import JobShell.Errno
import JobShell.Job.Basic

/-!
# The job table

The jobs under their serials, and for every process that has not finished the
serial of the job that owns it.  The table changes by what is learnt about the
processes; how it is learnt is no concern of this module.
-/

namespace JobShell

/-- What a look at one process gives. -/
inductive WaitAnswer where
  /-- Nothing new. -/
  | noChange
  | changed (pid : Pid) (state : ProcessState)
  /-- An event that says nothing about the state of a process. -/
  | other
  | failed (errno : Errno)
  deriving DecidableEq, Repr

/-- `entries` holds the jobs under their serials, in the order of the serials;
`owners` holds the serials under the processes. -/
structure JobTable where
  entries : List (Nat × Job)
  owners : List (Pid × Nat)
  deriving DecidableEq, Repr

namespace JobTable

def empty : JobTable := { entries := [], owners := [] }

instance : Inhabited JobTable := ⟨empty⟩

def jobs (table : JobTable) : List Job := table.entries.map Prod.snd

def serials (table : JobTable) : List Nat := table.entries.map Prod.fst

def get? (table : JobTable) (serial : Nat) : Option Job :=
  table.entries.lookup serial

def owner? (table : JobTable) (pid : Pid) : Option Nat :=
  table.owners.lookup pid

def size (table : JobTable) : Nat := table.entries.length

def isEmpty (table : JobTable) : Bool := table.entries.isEmpty

/-- The processes that are still to be looked at. -/
def registered (table : JobTable) : List Pid := table.owners.map Prod.fst

/-- The numbers of running and of stopped jobs. -/
def counts (table : JobTable) : Nat × Nat :=
  (table.jobs.countP fun job => job.state == .running,
    table.jobs.countP fun job => job.state == .stopped)

/-- The least serial from `serial` on that no job has.  A table of `fuel` jobs
leaves one free among `fuel + 1`. -/
def freeFrom (table : JobTable) : (fuel : Nat) → (serial : Nat) → Nat
  | 0, serial => serial
  | fuel + 1, serial =>
    if (table.get? serial).isSome then freeFrom table fuel (serial + 1)
    else serial

def nextSerial (table : JobTable) : Nat := freeFrom table table.size 1

/-- The entries with a job put under a serial. -/
def place (serial : Nat) (job : Job) : List (Nat × Job) → List (Nat × Job)
  | [] => [(serial, job)]
  | (other, held) :: rest =>
    if serial < other then (serial, job) :: (other, held) :: rest
    else if serial = other then (serial, job) :: rest
    else (other, held) :: place serial job rest

/-- Changes the job under this serial. -/
def update (table : JobTable) (serial : Nat) (change : Job → Job) : JobTable :=
  { table with
    entries := table.entries.map fun (key, job) =>
      (key, if key = serial then change job else job) }

/-- The mark of one job when the job `serial` becomes the current one: the job
that was current before is the previous one now. -/
def remarked (serial : Nat) (job : Job) : Job :=
  if job.serial = serial then
    { job with isCurrent := true, isPrevious := false }
  else if job.isCurrent then { job with isCurrent := false, isPrevious := true }
  else { job with isPrevious := false }

def makeCurrent (table : JobTable) (serial : Nat) : JobTable :=
  { table with
    entries := table.entries.map fun (key, job) => (key, remarked serial job) }

def disown (table : JobTable) (pid : Pid) : JobTable :=
  { table with owners := table.owners.filter fun entry => entry.1 != pid }

def own (table : JobTable) (serial : Nat) (pid : Pid) : JobTable :=
  { table with owners := (table.disown pid).owners ++ [(pid, serial)] }

/-- Adds a job; it becomes the current one. -/
def add (table : JobTable) (group : Pid) (pids : List Pid) (command : String)
    (background : Bool) : Nat × JobTable :=
  let serial := table.nextSerial
  let job := Job.launched group serial pids command background
  let owned := pids.foldl (fun table pid => table.own serial pid) table
  (serial,
    { owned with entries := place serial job owned.entries }.makeCurrent serial)

/-- The job that becomes current when the current one leaves. -/
def successor? (jobs : List Job) : Option Job :=
  (jobs.find? fun job => job.isPrevious).or jobs.getLast?

/-- The table without an entry, and without the processes that its job owns.
Processes that have finished may have left their numbers to a newer job, which
keeps them. -/
def strike (table : JobTable) (serial : Nat) (job : Job) : JobTable :=
  { entries := table.entries.filter fun entry => entry.1 != serial
    owners := table.owners.filter fun entry =>
      !(job.pids.contains entry.1 && entry.2 == serial) }

/-- Takes a job out of the table. -/
def remove (table : JobTable) (serial : Nat) : Option Job × JobTable :=
  match table.get? serial with
  | none => (none, table)
  | some job =>
    let left := table.strike serial job
    match if job.isCurrent then successor? left.jobs else none with
    | none => (some job, left)
    | some next => (some job, left.makeCurrent next.serial)

/-- Notes what has become of a process. -/
def record (table : JobTable) (pid : Pid) (state : ProcessState) : JobTable :=
  match table.owner? pid with
  | none => table
  | some serial =>
    if (table.get? serial).isNone then table.disown pid
    else
      let table := table.update serial fun job => job.record pid state
      if state.isFinished then table.disown pid else table

/-- Notes what a look at the process `pid` has shown.  A process that is no
child any more counts as one that has exited. -/
def recordAnswer (table : JobTable) (pid : Pid) : WaitAnswer → JobTable
  | .changed pid state => table.record pid state
  | .failed errno => if errno = .noChild then
      table.record pid (.exited 0) else table
  | .noChange | .other => table

def recordAnswers (table : JobTable)
    (answers : List (Pid × WaitAnswer)) : JobTable :=
  answers.foldl (fun table entry => table.recordAnswer entry.1 entry.2) table

/-- Brings what was reported of one job up to date, and says what the user is to
be told: a background job that is done leaves the table with a notice, a
stopped job is in the background from now on. -/
def settleJob (table : JobTable) (serial : Nat) : List Job × JobTable :=
  match table.get? serial with
  | none => ([], table)
  | some job =>
    let state := job.state
    if state = job.reported then ([], table)
    else
      let told := table.update serial fun job => { job with reported := state }
      match state with
      | .done =>
        match told.remove serial with
        | (some gone, left) => (if gone.background then [gone] else [], left)
        | (none, left) => ([], left)
      | .stopped =>
        let moved :=
          told.update serial fun job => { job with background := true }
        ((moved.get? serial).toList, moved)
      | .running => ([], told)

def settleAll (table : JobTable) : List Nat → List Job × JobTable
  | [] => ([], table)
  | serial :: rest =>
    let (notices, table) := table.settleJob serial
    let (others, table) := table.settleAll rest
    (notices ++ others, table)

/-- Takes in the answers of a look at the registered processes, and gives the
jobs to tell the user about. -/
def reap (table : JobTable) (answers : List (Pid × WaitAnswer)) :
    List Job × JobTable :=
  let table := table.recordAnswers answers
  table.settleAll table.serials

end JobTable

end JobShell
