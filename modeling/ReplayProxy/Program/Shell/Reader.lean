import ReplayProxy.Program.Shell.Syntax
import ReplayProxy.Text.Ascii

/-!
# Reading shell scripts

A script is read one line of commands at a time (`readLine`), so that what stands before a
mistake is still carried out. The readers go through the characters of the script and return
what follows; `fuel` bounds how deep they may go and is always more than the script is long.
-/

namespace ReplayProxy.Program.Shell

/-- Why a script cannot be read. -/
inductive Fault where
  | unterminated
  | unexpected (token : String)
  | endOfFile
  | badSubstitution
  | tooDeep
  deriving DecidableEq, Repr

/-- The words for a fault. -/
def Fault.message : Fault → String
  | .unterminated => "Syntax error: Unterminated quoted string"
  | .unexpected token => "Syntax error: " ++ token ++ " unexpected"
  | .endOfFile => "Syntax error: end of file unexpected"
  | .badSubstitution => "Syntax error: Bad substitution"
  | .tooDeep => "Syntax error: too deep"

/-- What is read, and what follows it. -/
abbrev Parsed (α : Type) := α × List Char

/-! ### Characters and names -/

/-- A blank inside a line. -/
def isGap (c : Char) : Bool := c == ' ' || c == '\t'

/-- What ends a word that is not quoted. -/
def endsWord (c : Char) : Bool :=
  isGap c || c == '\n' || c == ';' || c == '|' || c == '&' || c == '<' || c == '>' || c == ')' ||
    c == '('

/-- A character of a variable's name. -/
def isName (c : Char) : Bool := Ascii.isAlphanumeric c || c == '_'

/-- A parameter with a name of one special character. -/
def isSpecialName (c : Char) : Bool := ['?', '$', '#', '@', '*', '!', '-'].contains c

/-- Skips blanks, joined lines and a comment. -/
def skipGaps : List Char → List Char
  | ' ' :: rest | '\t' :: rest => skipGaps rest
  | '\\' :: '\n' :: rest => skipGaps rest
  | '#' :: rest => rest.dropWhile (· != '\n')
  | rest => rest

/-- Skips blanks, comments and line feeds. -/
def skipLines : Nat → List Char → List Char
  | 0, cs => cs
  | fuel + 1, cs =>
    match skipGaps cs with
    | '\n' :: rest => skipLines fuel rest
    | rest => rest

/-- The words that have a meaning of their own where a command may begin. -/
def keywords : List String :=
  ["if", "then", "elif", "else", "fi", "while", "until", "do", "done", "for", "in", "case", "esac",
    "\x7b", "\x7d", "!"]

/-- The keyword at the front, and what follows it. -/
def keyword? (cs : List Char) : Option (String × List Char) :=
  let word := cs.takeWhile fun c => !endsWord c
  let text := String.ofList word
  if keywords.contains text then some (text, cs.drop word.length) else none

/-- The keywords that end a list of commands. -/
def closers : List String := ["then", "elif", "else", "fi", "do", "done", "esac", "\x7d"]

/-- A short text of what stands at the front. -/
def tokenAt (cs : List Char) : Fault :=
  match cs with
  | [] => .endOfFile
  | '\n' :: _ => .unexpected "newline"
  | ';' :: ';' :: _ => .unexpected "\";;\""
  | '&' :: '&' :: _ => .unexpected "\"&&\""
  | '|' :: '|' :: _ => .unexpected "\"||\""
  | c :: _ =>
    if endsWord c then .unexpected ("\"" ++ c.toString ++ "\"")
    else
      match keyword? cs with
      | some (word, _) => .unexpected ("\"" ++ word ++ "\"")
      | none => .unexpected "word"

/-- Reads a keyword that must come next. -/
def expect (fuel : Nat) (word : String) (cs : List Char) : Except Fault (List Char) :=
  let cs := skipLines fuel cs
  match keyword? cs with
  | some (found, rest) => if found = word then .ok rest else .error (tokenAt cs)
  | none => .error (tokenAt cs)

/-- Text up to a single quote. -/
def readQuoted : List Char → Except Fault (Parsed (List Char))
  | [] => .error .unterminated
  | '\'' :: rest => .ok ([], rest)
  | c :: rest => do
    let (text, rest) ← readQuoted rest
    return (c :: text, rest)

/-- Text up to a backquote, without the backslashes that stand for what follows them. -/
def readBackquoted : List Char → Except Fault (Parsed (List Char))
  | [] => .error .unterminated
  | '\x60' :: rest => .ok ([], rest)
  | '\\' :: c :: rest => do
    let (text, rest) ← readBackquoted rest
    return (if c = '\x60' ∨ c = '\\' ∨ c = '$' then c :: text else '\\' :: c :: text, rest)
  | c :: rest => do
    let (text, rest) ← readBackquoted rest
    return (c :: text, rest)

/-- The name of an assignment at the front, if there is one. -/
def assignment? (cs : List Char) : Option (String × List Char) :=
  let name := cs.takeWhile isName
  match name, cs.dropWhile isName with
  | c :: _, '=' :: rest => if Ascii.isDigit c then none else some (String.ofList name, rest)
  | _, _ => none

/-- The name of a function that is defined at the front, if there is one. -/
def definition? (cs : List Char) : Option (String × List Char) :=
  let name := cs.takeWhile isName
  if name.isEmpty then none
  else
    match (cs.dropWhile isName).dropWhile isGap with
    | '(' :: rest =>
      match rest.dropWhile isGap with
      | ')' :: rest => some (String.ofList name, rest)
      | _ => none
    | _ => none

/-- The use of a parameter that follows its name in braces. -/
def use? (cs : List Char) : Option (Use × List Char) :=
  match cs with
  | ':' :: '-' :: rest => some (.orWord true, rest)
  | ':' :: '=' :: rest => some (.orAssign true, rest)
  | ':' :: '?' :: rest => some (.orFail true, rest)
  | ':' :: '+' :: rest => some (.ifSet true, rest)
  | '-' :: rest => some (.orWord false, rest)
  | '=' :: rest => some (.orAssign false, rest)
  | '?' :: rest => some (.orFail false, rest)
  | '+' :: rest => some (.ifSet false, rest)
  | '#' :: '#' :: rest => some (.withoutFront true, rest)
  | '#' :: rest => some (.withoutFront false, rest)
  | '%' :: '%' :: rest => some (.withoutEnd true, rest)
  | '%' :: rest => some (.withoutEnd false, rest)
  | _ => none

/-- The name of a parameter at the front: a word, one digit or several in braces, or a
special character. -/
def parameterName (braces : Bool) (cs : List Char) : String × List Char :=
  match cs with
  | [] => ("", [])
  | c :: rest =>
    if isSpecialName c then (c.toString, rest)
    else if Ascii.isDigit c && !braces then (c.toString, rest)
    else (String.ofList (cs.takeWhile isName), cs.dropWhile isName)

/-- The lines up to one that is a delimiter, and what follows that. -/
def readDocument (tabs : Bool) (delimiter : List Char) : Nat → List Char → Parsed (List Char)
  | 0, cs => ([], cs)
  | fuel + 1, cs =>
    if cs.isEmpty then ([], [])
    else
      let line := cs.takeWhile (· != '\n')
      let rest := (cs.drop line.length).drop 1
      let line := if tabs then line.dropWhile (· == '\t') else line
      if line = delimiter then ([], rest)
      else
        let (more, rest) := readDocument tabs delimiter fuel rest
        (line ++ '\n' :: more, rest)

/-- Where a quoted text ends. -/
inductive Closing where
  /-- At a double quote. -/
  | quote
  /-- At the end of the text. -/
  | atEnd
  /-- At a closing brace. -/
  | brace
  /-- At two closing parentheses. -/
  | parentheses
  deriving DecidableEq

/-! ### Words and commands -/

mutual

/-- What follows a dollar sign. -/
def readDollar (fuel : Nat) (quoted : Bool) (cs : List Char) : Except Fault (Parsed Piece) :=
  match fuel with
  | 0 => .error .tooDeep
  | fuel + 1 =>
    match cs with
    -- two parentheses are arithmetic, and one is a command
    | '(' :: '(' :: rest => do
      let (pieces, rest) ← readDouble fuel .parentheses rest
      return (.arithmetic pieces quoted, rest)
    | '(' :: rest => do
      let (command, rest) ← readList fuel false rest
      match rest with
      | ')' :: rest => return (.output command quoted, rest)
      | rest => throw (tokenAt rest)
    | '\x7b' :: '#' :: rest =>
      match parameterName true rest with
      | (name, '\x7d' :: more) =>
        if name = "" then .error .badSubstitution else .ok (.parameter name .length [] quoted, more)
      -- the number of arguments
      | _ => match rest with
        | '\x7d' :: more => .ok (.parameter "#" .value [] quoted, more)
        | _ => .error .badSubstitution
    | '\x7b' :: rest =>
      match parameterName true rest with
      | ("", _) => .error .badSubstitution
      | (name, '\x7d' :: more) => .ok (.parameter name .value [] quoted, more)
      | (name, more) =>
        match use? more with
        | none => .error .badSubstitution
        | some (use, more) => do
          let (word, more) ← readBraced fuel quoted more
          return (.parameter name use word quoted, more)
    | rest =>
      match parameterName false rest with
      -- a dollar sign that nothing follows stands for itself
      | ("", _) => .ok (.text ['$'] quoted, rest)
      | (name, more) => .ok (.parameter name .value [] quoted, more)

/-- The pieces up to the closing brace of a parameter. -/
def readBraced (fuel : Nat) (quoted : Bool) (cs : List Char) : Except Fault (Parsed (List Piece)) :=
  match fuel with
  | 0 => .error .tooDeep
  | fuel + 1 =>
    if quoted then readDouble fuel .brace cs
    else
      match cs with
      | '\x7d' :: rest => .ok ([], rest)
      | [] => .error .unterminated
      | cs => do
        let (piece, rest) ← readPiece fuel cs
        let (pieces, rest) ← readBraced fuel quoted rest
        return (piece ++ pieces, rest)

/-- The pieces of quoted text. -/
def readDouble (fuel : Nat) (closing : Closing) (cs : List Char) :
    Except Fault (Parsed (List Piece)) :=
  match fuel with
  | 0 => .error .tooDeep
  | fuel + 1 =>
    match cs with
    | [] => if closing = .atEnd then .ok ([], []) else .error .unterminated
    | '\\' :: '\n' :: rest => readDouble fuel closing rest
    | '\\' :: c :: rest => do
      let (pieces, rest) ← readDouble fuel closing rest
      -- a backslash stays in front of what needs none
      let special := c = '\\' ∨ c = '$' ∨ c = '\x60' ∨ (c = '"' ∧ closing ≠ .atEnd)
      let kept := if special then [c] else ['\\', c]
      return (.text kept true :: pieces, rest)
    | '$' :: rest => do
      let (piece, rest) ← readDollar fuel true rest
      let (pieces, rest) ← readDouble fuel closing rest
      return (piece :: pieces, rest)
    | '\x60' :: rest => do
      let (piece, rest) ← readBackquote fuel true rest
      let (pieces, rest) ← readDouble fuel closing rest
      return (piece :: pieces, rest)
    | '"' :: rest =>
      if closing = .quote then .ok ([], rest)
      else do
        let (pieces, rest) ← readDouble fuel closing rest
        return (if closing = .brace then pieces else .text ['"'] true :: pieces, rest)
    | ')' :: ')' :: rest =>
      if closing = .parentheses then .ok ([], rest)
      else do
        -- a parenthesis that is not doubled is text
        let (pieces, rest) ← readDouble fuel closing (')' :: rest)
        return (.text [')'] true :: pieces, rest)
    | c :: rest =>
      if c = '\x7d' ∧ closing = .brace then .ok ([], rest)
      else do
        let (pieces, rest) ← readDouble fuel closing rest
        return (.text [c] true :: pieces, rest)

/-- A command between backquotes. -/
def readBackquote (fuel : Nat) (quoted : Bool) (cs : List Char) : Except Fault (Parsed Piece) :=
  match fuel with
  | 0 => .error .tooDeep
  | fuel + 1 => do
    let (text, rest) ← readBackquoted cs
    let (command, left) ← readList fuel false text
    if left.isEmpty then return (.output command quoted, rest) else throw (tokenAt left)

/-- The next pieces of a word. -/
def readPiece (fuel : Nat) (cs : List Char) : Except Fault (Parsed (List Piece)) :=
  match fuel with
  | 0 => .error .tooDeep
  | fuel + 1 =>
    match cs with
    | [] => .ok ([], [])
    | '\'' :: rest => do
      let (text, rest) ← readQuoted rest
      return ([.text text true], rest)
    | '"' :: rest => do
      let (inner, rest) ← readDouble fuel .quote rest
      let empty := match inner with
        | [] => true
        | _ => false
      return (if empty then [.text [] true] else inner, rest)
    | '\\' :: '\n' :: rest => .ok ([], rest)
    | '\\' :: c :: rest => .ok ([.text [c] true], rest)
    | '$' :: rest => do
      let (piece, rest) ← readDollar fuel false rest
      return ([piece], rest)
    | '\x60' :: rest => do
      let (piece, rest) ← readBackquote fuel false rest
      return ([piece], rest)
    | c :: rest => .ok ([.text [c] false], rest)

/-- The pieces of a word. -/
def readWord (fuel : Nat) (cs : List Char) : Except Fault (Parsed (List Piece)) :=
  match fuel with
  | 0 => .error .tooDeep
  | fuel + 1 =>
    if cs.head?.all endsWord then .ok ([], cs)
    else do
      let (piece, rest) ← readPiece fuel cs
      let (pieces, rest) ← readWord fuel rest
      return (piece ++ pieces, rest)

/-- The redirection at the front, if there is one. -/
def readRedirect? (fuel : Nat) (cs : List Char) : Except Fault (Option (Redirect × List Char)) :=
  match fuel with
  | 0 => .error .tooDeep
  | fuel + 1 =>
    -- a digit right in front of the arrow is the channel
    let (channel, cs) := match cs with
      | d :: '<' :: _ | d :: '>' :: _ =>
        if Ascii.isDigit d then (some (d.toNat - 48), cs.drop 1) else (none, cs)
      | cs => (none, cs)
    let toFile (channel : Nat) (access : Access) (rest : List Char) :
        Except Fault (Option (Redirect × List Char)) := do
      let rest := skipGaps rest
      if rest.head?.all endsWord then throw (tokenAt rest)
      let (name, rest) ← readWord fuel rest
      return some (.file channel access name, rest)
    match cs with
    | '>' :: '&' :: rest | '<' :: '&' :: rest =>
      let usual := if cs.head? = some '<' then 0 else 1
      match rest with
      | d :: rest =>
        if Ascii.isDigit d then .ok (some (.copy (channel.getD usual) (d.toNat - 48), rest))
        else if d = '-' then .ok (some (.copy (channel.getD usual) 9, rest))
        else .error (.unexpected "word")
      | [] => .error .endOfFile
    | '>' :: '>' :: rest => toFile (channel.getD 1) .append rest
    | '>' :: '|' :: rest => toFile (channel.getD 1) .write rest
    | '>' :: rest => toFile (channel.getD 1) .write rest
    | '<' :: '<' :: rest => do
      let (tabs, rest) := match rest with
        | '-' :: rest => (true, rest)
        | rest => (false, rest)
      let rest := skipGaps rest
      let written := rest.takeWhile fun c => !endsWord c
      let delimiter := written.filter fun c => c != '\'' && c != '"' && c != '\\'
      let rest := rest.drop written.length
      -- the document begins on the next line, and what is left of this one is read after it
      let line := rest.takeWhile (· != '\n')
      let after := (rest.drop line.length).drop 1
      let (document, after) := readDocument tabs delimiter (after.length + 1) after
      let (content, _) ←
        -- a delimiter in quotes leaves the document as it is
        if written = delimiter then readDouble fuel .atEnd document
        else pure ([.text document true], [])
      return some (.text content, line ++ '\n' :: after)
    | '<' :: rest => toFile (channel.getD 0) .read rest
    | _ => .ok none

/-- The redirections at the front. -/
def readRedirects (fuel : Nat) (cs : List Char) : Except Fault (Parsed (List Redirect)) :=
  match fuel with
  | 0 => .error .tooDeep
  | fuel + 1 => do
    let cs := skipGaps cs
    match ← readRedirect? fuel cs with
    | none => return ([], cs)
    | some (r, rest) =>
      let (more, rest) ← readRedirects fuel rest
      return (r :: more, rest)

/-- The rest of a simple command. -/
def readSimple (fuel : Nat) (cs : List Char) (left : Nat)
    (assignments : List (String × List Piece)) (words : List (List Piece))
    (redirects : List Redirect) : Except Fault (Parsed Command) :=
  match fuel with
  | 0 => .error .tooDeep
  | fuel + 1 => do
    let cs := skipGaps cs
    match ← readRedirect? fuel cs with
    | some (r, rest) => readSimple fuel rest left assignments words (redirects ++ [r])
    | none =>
      -- an assignment stands in front of the first word
      match if words.isEmpty then assignment? cs else none with
      | some (name, rest) => do
        let (value, rest) ← readWord fuel rest
        readSimple fuel rest left (assignments ++ [(name, value)]) words redirects
      | none =>
        match cs with
        | [] => return (.simple left assignments words redirects, [])
        | c :: _ =>
          if endsWord c then
            if c = '<' ∨ c = '>' ∨ c = '(' then throw (tokenAt cs)
            else if assignments.isEmpty && words.isEmpty && redirects.isEmpty then
              throw (tokenAt cs)
            else return (.simple left assignments words redirects, cs)
          else do
            let (word, rest) ← readWord fuel cs
            readSimple fuel rest left assignments (words ++ [word]) redirects

/-- The patterns of a branch, up to the closing parenthesis. -/
def readPatterns (fuel : Nat) (cs : List Char) : Except Fault (Parsed (List (List Piece))) :=
  match fuel with
  | 0 => .error .tooDeep
  | fuel + 1 => do
    let (word, rest) ← readWord fuel (skipGaps cs)
    match skipGaps rest with
    | ')' :: rest => return ([word], rest)
    | '|' :: rest => do
      let (words, rest) ← readPatterns fuel rest
      return (word :: words, rest)
    | rest => throw (tokenAt rest)

/-- The branches of a `case`, up to `esac`. -/
def readBranches (fuel : Nat) (cs : List Char) :
    Except Fault (Parsed (List (List (List Piece) × Command))) :=
  match fuel with
  | 0 => .error .tooDeep
  | fuel + 1 =>
    let cs := skipLines fuel cs
    match keyword? cs with
    | some ("esac", rest) => .ok ([], rest)
    | _ => do
      let cs := match cs with
        | '(' :: rest => rest
        | cs => cs
      let (patterns, rest) ← readPatterns fuel cs
      let (command, rest) ← readList fuel false rest
      match skipLines fuel rest with
      | ';' :: ';' :: rest => do
        let (branches, rest) ← readBranches fuel rest
        return ((patterns, command) :: branches, rest)
      | rest => do
        let rest ← expect fuel "esac" rest
        return ([(patterns, command)], rest)

/-- The words of a `for` up to the end of their line. -/
def readItems (fuel : Nat) (cs : List Char) : Except Fault (Parsed (List (List Piece))) :=
  match fuel with
  | 0 => .error .tooDeep
  | fuel + 1 =>
    match skipGaps cs with
    | ';' :: rest => .ok ([], rest)
    | '\n' :: rest => .ok ([], rest)
    | rest =>
      if rest.head?.all endsWord then .error (tokenAt rest)
      else do
        let (word, rest) ← readWord fuel rest
        let (words, rest) ← readItems fuel rest
        return (word :: words, rest)

/-- A condition with its branches, behind `if`. -/
def readConditional (fuel : Nat) (cs : List Char) : Except Fault (Parsed Command) :=
  match fuel with
  | 0 => .error .tooDeep
  | fuel + 1 => do
    let (condition, rest) ← readList fuel false cs
    let rest ← expect fuel "then" rest
    let (yes, rest) ← readList fuel false rest
    let rest := skipLines fuel rest
    match keyword? rest with
    | some ("fi", rest) => return (.conditional condition yes .skip, rest)
    | some ("else", rest) =>
      let (no, rest) ← readList fuel false rest
      let rest ← expect fuel "fi" rest
      return (.conditional condition yes no, rest)
    | some ("elif", rest) =>
      let (no, rest) ← readConditional fuel rest
      return (.conditional condition yes no, rest)
    | _ => throw (tokenAt rest)

/-- A list of commands between `do` and `done`. -/
def readBody (fuel : Nat) (cs : List Char) : Except Fault (Parsed Command) :=
  match fuel with
  | 0 => .error .tooDeep
  | fuel + 1 => do
    let rest ← expect fuel "do" cs
    let (body, rest) ← readList fuel false rest
    let rest ← expect fuel "done" rest
    return (body, rest)

/-- A compound command that a keyword begins. -/
def readCompound (fuel : Nat) (word : String) (cs : List Char) : Except Fault (Parsed Command) :=
  match fuel with
  | 0 => .error .tooDeep
  | fuel + 1 =>
    match word with
    | "if" => readConditional fuel cs
    | "while" | "until" => do
      let (condition, rest) ← readList fuel false cs
      let (body, rest) ← readBody fuel rest
      return (.loop (word == "until") condition body, rest)
    | "for" => do
      let cs := skipGaps cs
      let name := cs.takeWhile isName
      if name.isEmpty then throw (.unexpected "word")
      let rest := skipLines fuel (cs.drop name.length)
      match keyword? rest with
      | some ("in", rest) =>
        let (words, rest) ← readItems fuel rest
        let (body, rest) ← readBody fuel rest
        return (.each (String.ofList name) (some words) body, rest)
      | _ =>
        -- without words it goes over the arguments
        let rest := match rest with
          | ';' :: rest => rest
          | rest => rest
        let (body, rest) ← readBody fuel rest
        return (.each (String.ofList name) none body, rest)
    | "case" => do
      let (subject, rest) ← readWord fuel (skipGaps cs)
      let rest ← expect fuel "in" rest
      let (branches, rest) ← readBranches fuel rest
      return (.choose subject branches, rest)
    | "\x7b" => do
      let (command, rest) ← readList fuel false cs
      let rest ← expect fuel "\x7d" rest
      return (command, rest)
    | word => .error (.unexpected ("\"" ++ word ++ "\""))

/-- One command. -/
def readCommand (fuel : Nat) (cs : List Char) : Except Fault (Parsed Command) :=
  match fuel with
  | 0 => .error .tooDeep
  | fuel + 1 =>
    let cs := skipGaps cs
    let redirected (command : Command) (rest : List Char) : Except Fault (Parsed Command) := do
      let (redirects, rest) ← readRedirects fuel rest
      match redirects with
      | [] => return (command, rest)
      | _ => return (.redirected command redirects, rest)
    match cs with
    | '(' :: rest => do
      let (command, rest) ← readList fuel false rest
      match skipLines fuel rest with
      | ')' :: rest => redirected (.subshell command) rest
      | rest => throw (tokenAt rest)
    | cs =>
      match keyword? cs with
      | some (word, rest) => do
        let (command, rest) ← readCompound fuel word rest
        redirected command rest
      | none =>
        match definition? cs with
        | some (name, rest) => do
          let (body, rest) ← readCommand fuel (skipLines fuel rest)
          return (.define name body, rest)
        | none => readSimple fuel cs (cs.count '\n') [] [] []

/-- Commands joined by `|`, with a `!` in front or not. -/
def readPipeline (fuel : Nat) (cs : List Char) : Except Fault (Parsed Command) :=
  match fuel with
  | 0 => .error .tooDeep
  | fuel + 1 => do
    match keyword? (skipGaps cs) with
    | some ("!", rest) =>
      let (command, rest) ← readPipeline fuel rest
      return (.negate command, rest)
    | _ =>
      let (first, rest) ← readCommand fuel cs
      match skipGaps rest with
      | '|' :: '|' :: rest => return (first, '|' :: '|' :: rest)
      | '|' :: rest =>
        let (second, rest) ← readPipeline fuel (skipLines fuel rest)
        return (.pipe first second, rest)
      | rest => return (first, rest)

/-- Pipelines joined by `&&` and `||`, after a first one. -/
def readChain (fuel : Nat) (first : Command) (cs : List Char) : Except Fault (Parsed Command) :=
  match fuel with
  | 0 => .error .tooDeep
  | fuel + 1 =>
    match skipGaps cs with
    | '&' :: '&' :: rest => do
      let (second, rest) ← readPipeline fuel (skipLines fuel rest)
      readChain fuel (.andThen first second) rest
    | '|' :: '|' :: rest => do
      let (second, rest) ← readPipeline fuel (skipLines fuel rest)
      readChain fuel (.orElse first second) rest
    | rest => .ok (first, rest)

/-- A list of commands, up to what cannot begin a command; with `single`, up to the end of
a line. -/
def readList (fuel : Nat) (single : Bool) (cs : List Char) : Except Fault (Parsed Command) :=
  match fuel with
  | 0 => .error .tooDeep
  | fuel + 1 =>
    let cs := if single then skipGaps cs else skipLines fuel cs
    match cs with
    | [] => .ok (.skip, [])
    | '\n' :: rest => .ok (.skip, rest)
    | ')' :: rest => .ok (.skip, ')' :: rest)
    | ';' :: ';' :: rest => .ok (.skip, ';' :: ';' :: rest)
    | cs =>
      if (keyword? cs).any fun k => closers.contains k.1 then .ok (.skip, cs)
      else do
        let (first, rest) ← readPipeline fuel cs
        let (first, rest) ← readChain fuel first rest
        match skipGaps rest with
        | ';' :: ';' :: rest => return (first, ';' :: ';' :: rest)
        | ';' :: rest => do
          let (more, rest) ← readList fuel single rest
          return (.sequence first more, rest)
        | '&' :: rest => do
          let (more, rest) ← readList fuel single rest
          return (.sequence (.background first) more, rest)
        | '\n' :: rest =>
          if single then return (first, rest)
          else do
            let (more, rest) ← readList fuel single rest
            return (.sequence first more, rest)
        | rest => return (first, rest)

end

/-- The commands on the first line of a script, and what follows them. -/
def readLine (script : List Char) : Except Fault (Parsed Command) := do
  let (command, rest) ← readList (16 * script.length + 32) true script
  match rest with
  | ')' :: _ | ';' :: _ => throw (tokenAt rest)
  | _ =>
    if (keyword? rest).any fun k => closers.contains k.1 then throw (tokenAt rest)
    else return (command, rest)

end ReplayProxy.Program.Shell
