/-!
# Quoted words

A word is written as it is when no character of it means anything to a shell,
and between single quotes otherwise.  A single quote cannot stand between
single quotes, so it leaves them, is written behind a backslash, and enters
them again.
-/

namespace JobShell.Text

/-- Characters that a word shows only between quotes. -/
def needsQuotes (c : Char) : Bool :=
  "|&;<>()$`\\\"' \t\n*?[#~=%".toList.contains c

/-- One character between single quotes. -/
def quotedChar (c : Char) : List Char :=
  if c = '\x27' then ['\x27', '\\', '\x27', '\x27'] else [c]

def quote (word : String) : String :=
  if word.isEmpty then "''"
  else if word.toList.any needsQuotes then
    String.ofList ('\x27' :: (word.toList.flatMap quotedChar ++ ['\x27']))
  else word

/-- Quoted words with one space between them. -/
def joinWords (quote : String → String) (words : List String) : String :=
  " ".intercalate (words.map quote)

end JobShell.Text
