import JobShell.Text.Quoting
import JobShell.Line.Relation

/-!
# Commands, sequences and pipelines

A sequence is a list of commands, each with the join to the next one.  The
commands between two joins other than `|` form a pipeline.
-/

namespace JobShell

inductive RedirectOp where
  | input
  | output
  | append
  deriving DecidableEq, Repr, Inhabited

namespace RedirectOp

def ofRelation? : Relation → Option RedirectOp
  | .redirectIn => some input
  | .redirectOut => some output
  | .redirectAppend => some append
  | _ => none

/-- The descriptor that is redirected. -/
def target : RedirectOp → Nat
  | input => 0
  | output | append => 1

def symbol : RedirectOp → String
  | input => "<"
  | output => ">"
  | append => ">>"

end RedirectOp

structure Redirection where
  operator : RedirectOp
  file : String
  deriving DecidableEq, Repr

namespace Redirection

def target (redirection : Redirection) : Nat := redirection.operator.target

def displayWith (quote : String → String)
    (redirection : Redirection) : String :=
  " " ++ redirection.operator.symbol ++ " " ++ quote redirection.file

end Redirection

/-- A command; `builtin` says that the shell runs it in its own process. -/
structure Command where
  arguments : List String
  redirections : List Redirection
  builtin : Bool
  deriving DecidableEq, Repr

namespace Command

def empty : Command := { arguments := [], redirections := [], builtin := false }

instance : Inhabited Command := ⟨empty⟩

def program (command : Command) : String := command.arguments.headD ""

def isEmpty (command : Command) : Bool := command.arguments.isEmpty

/-- Adds a redirection; it takes the place of one with the same target. -/
def redirect (command : Command) (redirection : Redirection) : Command :=
  let others := command.redirections.filter fun other =>
    other.target != redirection.target
  { command with redirections := others ++ [redirection] }

def redirectionFor (command : Command) (target : Nat) : Option Redirection :=
  command.redirections.find? fun redirection => redirection.target == target

/-- The text of a command, given how a word is quoted. -/
def displayWith (quote : String → String) (command : Command) : String :=
  command.redirections.foldl (fun text redirection =>
    text ++ redirection.displayWith quote)
    (Text.joinWords quote command.arguments)

def display (command : Command) : String := command.displayWith Text.quote

end Command

/-- How a command is joined to the next one. -/
inductive Join where
  | pipe
  | sequential
  | andThen
  | orElse
  | none
  deriving DecidableEq, Repr, Inhabited

namespace Join

def ofRelation? : Relation → Option Join
  | .pipe => some pipe
  | .semi => some sequential
  | .and => some andThen
  | .or => some orElse
  | _ => Option.none

def display : Join → String
  | pipe => " | "
  | sequential => "; "
  | andThen => " && "
  | orElse => " || "
  | none => ""

end Join

structure Sequence where
  commands : List (Command × Join)
  background : Bool
  deriving DecidableEq, Repr

/-- Commands joined by pipes; `after` is the join in front of them. -/
structure Pipeline where
  after : Join
  stages : List Command
  deriving DecidableEq, Repr

namespace Pipeline

def display (pipeline : Pipeline) : String :=
  Join.pipe.display.intercalate (pipeline.stages.map Command.display)

end Pipeline

namespace Sequence

def empty : Sequence := { commands := [], background := false }

instance : Inhabited Sequence := ⟨empty⟩

def isEmpty (sequence : Sequence) : Bool := sequence.commands.isEmpty

/-- The groups of a list of commands; `current` is the group that the commands
read so far have left open. -/
def groups (current : Pipeline) : List (Command × Join) → List Pipeline
  | [] => if current.stages.isEmpty then [] else [current]
  | (command, join) :: rest =>
    let grown := { current with stages := current.stages ++ [command] }
    match join with
    | .pipe => groups grown rest
    | .none => [grown]
    | other => grown :: groups { after := other, stages := [] } rest

def pipelines (sequence : Sequence) : List Pipeline :=
  groups { after := .none, stages := [] } sequence.commands

/-- The text of a sequence, given how a word is quoted. -/
def displayWith (quote : String → String) (sequence : Sequence) : String :=
  let line := sequence.commands.foldl
    (fun text entry => text ++ entry.1.displayWith quote ++ entry.2.display) ""
  if sequence.background then line ++ " &" else line

def display (sequence : Sequence) : String := sequence.displayWith Text.quote

end Sequence

end JobShell
