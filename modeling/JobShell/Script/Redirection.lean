import JobShell.Script.Expansion

/-!
# Redirections of scripts

A redirection puts an open file in the place of a descriptor.  What the
descriptor had before is put aside, so that it can be put back.
-/

namespace JobShell.Script.Redirection

open Run

/-- A redirection whose target has been expanded. -/
structure Wanted where
  descriptor : Descriptor
  kind : RedirectKind
  target : String
  deriving DecidableEq, Repr

/-- Expands the targets of redirections.  One that should be a descriptor has to
be one digit or a dash. -/
def expandTargets : List Redirect → Run (List Wanted)
  | [] => pure []
  | redirect :: rest => do
    let target ← Expansion.expandText redirect.target
    if redirect.kind = .descriptor && !isDescriptor target.toList then
      fail "Syntax error: Bad fd number"
    let wanted : Wanted := { descriptor := redirect.descriptor,
                             kind := redirect.kind, target }
    pure (wanted :: (← expandTargets rest))
where
  isDescriptor : List Char → Bool
    | [c] => c.isDigit || c == '-'
    | _ => false

/-- Puts an open file that is no longer needed otherwise in the place of a
descriptor. -/
def put (opened descriptor : Descriptor) : Run Unit := do
  discard (Activity.duplicate opened descriptor)
  if opened != descriptor then Activity.close opened

def cannot (action target missing : String) (error : FileError) : String :=
  "cannot " ++ action ++ " " ++ target ++ ": " ++ wording missing error

/-- Opens a file and puts it in the place of a descriptor; gives the complaint
when that fails. -/
def openFor (wanted : Wanted) (operator : RedirectOp) :
    Run (Option String) := do
  match ← Activity.openFile operator wanted.target with
  | .ok opened =>
    put opened wanted.descriptor
    pure none
  | .error error =>
    pure (some (if operator =
      .input then cannot "open" wanted.target "No such file" error
      else cannot "create" wanted.target "Directory nonexistent" error))

/-- Puts a text to be read in the place of a descriptor. -/
def supply (wanted : Wanted) : Run (Option String) := do
  match ← Activity.openPipe with
  | .error _ => pure (some "Pipe call failed")
  | .ok (reader, writer) =>
    discard (Activity.writeText writer wanted.target)
    Activity.close writer
    put reader wanted.descriptor
    pure none

/-- Makes one redirection; gives the complaint when that fails. -/
def make (wanted : Wanted) : Run (Option String) := do
  match wanted.kind with
  | .input => openFor wanted .input
  | .output => openFor wanted .output
  | .append => openFor wanted .append
  | .both =>
    match ← Activity.openFile .append wanted.target with
    | .ok opened =>
      Activity.close opened
      openFor wanted .input
    | .error error =>
      pure (some (cannot "create" wanted.target "Directory nonexistent" error))
  | .document => supply wanted
  | .descriptor =>
    match Text.parseWord64? wanted.target with
    | none =>
      Activity.close wanted.descriptor
      pure none
    | some source =>
      match ← Activity.duplicate source wanted.descriptor with
      | .ok () => pure none
      | .error errno => pure (some (toString source ++ ": " ++ errno.text))

/-- Makes redirections in turn, up to the first that fails.  Gives what undoes
them, and says whether all have been made. -/
def makeAll (done : List Undo) : List Wanted → Run (List Undo × Bool)
  | [] => pure (done, true)
  | wanted :: rest => do
    let undo ← putAside wanted.descriptor
    match ← make wanted with
    | none => makeAll (done ++ [undo]) rest
    | some complaint =>
      warn complaint
      pure (done ++ [undo], false)

/-- Runs an action with redirections that are undone behind it.  When one of
them fails, that counts as a failure of the action. -/
def within (redirects : List Redirect) (action : Run Int) : Run Int := do
  let (undo, fine) ← makeAll [] (← expandTargets redirects)
  let outcome ← attempt (if fine then action else pure failureStatus)
  putBack undo
  ofOutcome outcome

end JobShell.Script.Redirection
