import JobShell.Text.Colour

/-!
# Themes and standing messages
-/

namespace JobShell

/-- Display attributes for each kind of text. -/
structure Theme where
  prompt : List Nat
  info : List Nat
  success : List Nat
  warning : List Nat
  error : List Nat
  deriving DecidableEq, Repr

namespace Theme

def standard : Theme :=
  { prompt := [1, 96], info := [94], success := [92], warning := [33],
    error := [91] }

def dark : Theme :=
  { standard with
    prompt := [1, 95], info := [35], success := [35], error := [31] }

/-- The theme of a name; an unknown name means the standard theme. -/
def named (name : String) : Theme :=
  if name = "dark" then dark else standard

end Theme

/-- How text is shown: with colours or without. -/
structure Display where
  theme : Theme
  colours : Bool
  deriving DecidableEq, Repr

namespace Display

def paint (display : Display) (codes : List Nat) (text : String) : String :=
  if display.colours then Text.colour codes text else text

def prompt (display : Display) : String → String :=
  display.paint display.theme.prompt

def info (display : Display) : String → String :=
  display.paint display.theme.info

def success (display : Display) : String → String :=
  display.paint display.theme.success

def warning (display : Display) : String → String :=
  display.paint display.theme.warning

def error (display : Display) : String → String :=
  display.paint display.theme.error

end Display

inductive Message where
  | welcome
  | prompt
  | continuation
  | exit
  | endOfInput
  | error
  deriving DecidableEq, Repr

namespace Message

def all : List Message :=
  [welcome, prompt, continuation, exit, endOfInput, error]

def key : Message → String
  | welcome => "welcome"
  | prompt => "prompt"
  | continuation => "continuation"
  | exit => "exit"
  | endOfInput => "eof_signal"
  | error => "error"

def text : Message → String
  | welcome => "aspsh: job control enabled, type `quit` to leave"
  | prompt => "$ "
  | continuation => "> "
  | exit => "bye"
  | endOfInput => "EOF, leaving aspsh"
  | error => "aspsh"

/-- The message with a key; there is nothing to say for an unknown key. -/
def named (key : String) : String :=
  ((all.find? fun message => message.key == key).map text).getD ""

end Message

end JobShell
