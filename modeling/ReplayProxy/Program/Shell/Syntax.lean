/-!
# Shell commands

The tree that a script of the POSIX shell writes: simple commands with words, assignments
and redirections; pipelines, lists and conditions; compound commands and functions. A word
is a list of pieces, which are expanded before a command runs.
-/

namespace ReplayProxy.Program.Shell

/-- What is made of the value of a parameter. Where `colon` is set, an empty value counts
as none. -/
inductive Use where
  | value
  | length
  /-- The value, or else the word. -/
  | orWord (colon : Bool)
  /-- The value, or else the word, which becomes the value. -/
  | orAssign (colon : Bool)
  /-- The value, which must be there. -/
  | orFail (colon : Bool)
  /-- The word, if there is a value. -/
  | ifSet (colon : Bool)
  /-- The value without a part at the front that fits the word. -/
  | withoutFront (longest : Bool)
  /-- The value without a part at the end that fits the word. -/
  | withoutEnd (longest : Bool)
  deriving DecidableEq, Repr

/-- How a file is opened. -/
inductive Access where
  | read
  | write
  | append
  deriving DecidableEq, Repr

mutual

/-- A piece of a word. -/
inductive Piece where
  /-- Text as written; `quoted` text has no special characters. -/
  | text (value : List Char) (quoted : Bool)
  /-- What is made of the value of a parameter. -/
  | parameter (name : String) (use : Use) (word : List Piece) (quoted : Bool)
  /-- What a command writes. -/
  | output (command : Command) (quoted : Bool)
  /-- The value of an arithmetic expression. -/
  | arithmetic (expression : List Piece) (quoted : Bool)

/-- A redirection of a channel: 0 is the input, 1 the output, 2 the errors. -/
inductive Redirect where
  | file (channel : Nat) (access : Access) (name : List Piece)
  /-- To where another channel goes. -/
  | copy (channel source : Nat)
  /-- From a text in the script. -/
  | text (content : List Piece)

/-- A command. -/
inductive Command where
  | skip
  /-- Assignments, words and redirections; `left` counts the line feeds of the script that
  follow it. -/
  | simple (left : Nat) (assignments : List (String × List Piece)) (words : List (List Piece))
      (redirects : List Redirect)
  | redirected (command : Command) (redirects : List Redirect)
  /-- The first branch with a pattern that the subject fits. -/
  | choose (subject : List Piece) (branches : List (List (List Piece) × Command))
  | conditional (condition yes no : Command)
  /-- The body while the condition succeeds, or with `stops` until it does. -/
  | loop (stops : Bool) (condition body : Command)
  /-- The body for each of the words; without words, for each of the arguments. -/
  | each (name : String) (words : Option (List (List Piece))) (body : Command)
  | define (name : String) (body : Command)
  | subshell (command : Command)
  | background (command : Command)
  | pipe (first second : Command)
  | negate (command : Command)
  | sequence (first second : Command)
  | andThen (first second : Command)
  | orElse (first second : Command)

end

end ReplayProxy.Program.Shell
