import JobShell.Errno
import JobShell.Line.Token

/-!
# Failures

Everything that can go wrong in the shell, with its wording and the exit status
that stands for it.
-/

namespace JobShell

/-- Why a file could not be used. -/
inductive FileError where
  | system (errno : Errno)
  | nulInName
  | notText
  | notDirectory
  /-- No directory above the wanted one can be made. -/
  | noWholeTree
  deriving DecidableEq, Repr

namespace FileError

def message : FileError → String
  | system errno => errno.text ++ " (os error " ++ toString errno.number ++ ")"
  | nulInName => "file name contained an unexpected NUL byte"
  | notText => "stream did not contain valid UTF-8"
  | notDirectory => "Not a directory"
  | noWholeTree => "failed to create whole tree"

end FileError

/-- The side on which a number of arguments is out of bounds.  The limits count
the name of the command. -/
inductive ArityBound where
  | min (limit : Nat)
  | max (limit : Nat)
  deriving DecidableEq, Repr

namespace ArityBound

def message : ArityBound → String
  | min limit =>
    "too few arguments (expects at least " ++ toString (limit - 1) ++ ")"
  | max limit =>
    "too many arguments (expects at most " ++ toString (limit - 1) ++ ")"

end ArityBound

/-- Why a program was not launched. -/
inductive LaunchFault where
  | notFound
  | nulInArgument
  | other (text : String)
  deriving DecidableEq, Repr

namespace LaunchFault

def message : LaunchFault → String
  | notFound => "command not found"
  | nulInArgument => "argument contains a NUL byte"
  | other text => text

end LaunchFault

/-- What a builtin, or the opening of a file, complains about. -/
inductive Complaint where
  | noSuchJob (reference : String)
  | noPreviousDirectory
  | badInterval (text : String)
  | unreachable (path : String) (cause : FileError)
  | unusable (cause : FileError)
  | other (text : String)
  deriving DecidableEq, Repr

namespace Complaint

def message : Complaint → String
  | noSuchJob reference => reference ++ ": no such job"
  | noPreviousDirectory => "OLDPWD not set"
  | badInterval text => "invalid time interval '" ++ text ++ "'"
  | unreachable path cause => path ++ ": " ++ cause.message
  | unusable cause => cause.message
  | other text => text

end Complaint

inductive Failure where
  | line (error : LineError)
  | arity (name : String) (bound : ArityBound) (given : Nat)
  | launch (program : String) (fault : LaunchFault)
  | runtime (name : String) (complaint : Complaint)
  | file (error : FileError)
  | system (errno : Errno)
  deriving DecidableEq, Repr

namespace Failure

def message : Failure → String
  | line error => "syntax error: " ++ error.message
  | arity name bound _ => name ++ ": " ++ bound.message
  | launch program fault => program ++ ": " ++ fault.message
  | runtime name complaint => name ++ ": " ++ complaint.message
  | file error => error.message
  | system errno => errno.name ++ ": " ++ errno.description

/-- The exit status of a command that failed like this. -/
def status : Failure → Int
  | line _ | arity .. => 2
  | launch _ fault =>
    if fault.message = LaunchFault.notFound.message then 127 else 126
  | _ => 1

end Failure

end JobShell
