import JobShell.Builtin.Basic
import JobShell.Line.Command

/-!
# From tokens to a sequence

A line is a list of commands with a join between each two of them.  A final `;`
may follow, or a final `&`, which sends the whole line to the background.
-/

namespace JobShell

namespace Sequence

/-- Reads tokens behind the finished commands `closed` and the command `current`
that is being read. -/
def readTokens (closed : List (Command × Join)) (current : Command) :
    List Token → Except LineError (List (Command × Join) × Command × Bool)
  | [] => .ok (closed, current, false)
  | .word text :: rest =>
    readTokens closed { current with
      arguments := current.arguments ++ [text] } rest
  | .relation relation :: rest =>
    match RedirectOp.ofRelation? relation, Join.ofRelation? relation with
    | some operator, _ =>
      if current.isEmpty then .error (.unexpected relation)
      else
        match rest with
        | .word file :: rest =>
          readTokens closed (current.redirect ⟨operator, file⟩) rest
        | .relation next :: _ => .error (.unexpected next)
        | [] => .error (.missingTarget relation)
    | none, some join =>
      if current.isEmpty then .error (.unexpected relation)
      else readTokens (closed ++ [(current, join)]) Command.empty rest
    | none, none =>
      if current.isEmpty || !rest.isEmpty then .error (.unexpected relation)
      else .ok (closed, current, true)

/-- The commands of a line whose tokens have all been read.  Without a command
behind it only `;` may be the last join. -/
def closeLine (closed : List (Command × Join)) (current : Command) :
    Except LineError (List (Command × Join)) :=
  if current.isEmpty then
    match closed.getLast? with
    | none => .ok closed
    | some (last, .sequential) => .ok (closed.dropLast ++ [(last, .none)])
    | some (_, .none) => .ok closed
    | some _ => .error .endOfInput
  else
    .ok (closed ++ [(current, .none)])

/-- Marks the commands that the shell runs in its own process: builtins of a
foreground line that are no part of a pipe. -/
def markBuiltins (background : Bool) (afterPipe : Bool) :
    List (Command × Join) → List (Command × Join)
  | [] => []
  | (command, join) :: rest =>
    let piped := afterPipe || join == .pipe
    let builtin := !background && !piped && isBuiltin command.program
    ({ command with builtin := builtin }, join) ::
      markBuiltins background (join == .pipe) rest

def compile (tokens : List Token) : Except LineError Sequence := do
  let (closed, current, background) ← readTokens [] Command.empty tokens
  let commands ← closeLine closed current
  pure { commands := markBuiltins background false commands,
         background := background }

end Sequence

end JobShell
