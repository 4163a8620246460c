import ReplayProxy.Program.Shell.Arithmetic
import ReplayProxy.Program.Shell.Builtin
import ReplayProxy.Program.Shell.Reader

/-!
# Running shell scripts

Running a command is a recursion on its tree. What a command starts that is no part of its
own tree (a function, a script, a further shell) is run by `call`, which knows how deep such
calls may go; a loop goes round at most `roundLimit` times. Beyond these bounds a script
counts as stuck.
-/

namespace ReplayProxy.Program.Shell

/-- How often a loop goes round before it counts as stuck. -/
def roundLimit : Nat := 20000

/-- Goes round a loop: `test` is its condition, `body` what it does. -/
def rounds (stops : Bool) (test body : State → State) : Nat → State → State
  | 0, s => s.stuck
  | n + 1, s =>
    let s' := s.guarding test
    if s'.leaving.isSome then s'
    else if (s'.status == 0) == stops then { s' with status := 0 }
    else
      let next := body s'
      match next.leaving with
      | some .fromLoop => { next with leaving := none }
      | some .fromRound => rounds stops test body n { next with leaving := none }
      | some _ => next
      | none => rounds stops test body n next

/-- Goes through the values of a loop. -/
def passes (name : String) (body : State → State) : List Bytes → State → State
  | [], s => s
  | v :: rest, s =>
    let next := body (s.bind name v)
    match next.leaving with
    | some .fromLoop => { next with leaving := none }
    | some .fromRound => passes name body rest { next with leaving := none }
    | some _ => next
    | none => passes name body rest next

/-- Runs the lines of a script. -/
def runLines (call : Command → State → State) : Nat → List Char → State → State
  | 0, _, s => s
  | fuel + 1, script, s =>
    if script.isEmpty ∨ s.leaving.isSome then s
    else
      match readLine script with
      | .ok (command, rest) => runLines call fuel rest (call command s)
      | .error fault =>
        (s.report (if fault = .endOfFile ∨ fault = .unterminated then 0 else script.count '\n')
          (raw fault.message)).exit (.code 2)

/-- Runs a script in a shell of its own, with a name for messages and with arguments. -/
def runScript (call : Command → State → State) (files : FileTree) (script name : Bytes)
    (args : List Bytes) (strict : Bool) (input : Bytes) : Ran × FileTree :=
  let text := (Utf8.lossy script).toList
  let s := runLines call (text.length + 1) text
    { files, input, name, arguments := args, lines := text.count '\n', strict }
  ({ output := s.output, errors := s.errors, rest := s.input, slept := s.slept,
     status := match s.leaving with
       | some (.exit status) => status
       | _ => .code s.status },
    s.files)

/-- Runs a shell with its arguments: options, then `-c` and a script, or a file that holds
one; without either, the script is the input. -/
def runShell (call : Command → State → State) (files : FileTree) (strict : Bool)
    (input : Bytes) : List Bytes → Ran × FileTree
  | [] => runScript call files input (raw "sh") [] strict []
  | a :: rest =>
    if a = raw "-c" ∨ a = raw "-ec" ∨ a = raw "-ce" then
      match rest with
      | [] => (.failure 2 "sh: 0: -c requires an argument" input, files)
      | script :: rest =>
        runScript call files script (rest.headD (raw "sh")) rest.tail (strict || a != raw "-c")
          input
    else if a = raw "-s" ∨ a = raw "-" then runScript call files input (raw "sh") rest strict []
    else
      match a with
      | 0x2D :: letters =>
        runShell call files (strict || letters.contains 0x65) input rest
      | name =>
        match files.read (Utf8.lossy name) with
        | .ok script => runScript call files script name rest strict input
        | .error .notFound =>
          (.failure 2 ("sh: 0: cannot open " ++ Utf8.lossy name ++ ": No such file") input, files)
        | .error .isDirectory =>
          (.failure 2 ("sh: 0: read error: " ++ fileReason .isDirectory) input, files)
        | .error e =>
          (.failure 2 ("sh: 0: cannot open " ++ Utf8.lossy name ++ ": " ++ fileReason e) input,
            files)

/-- Runs a program, or the program that a path names. -/
def runProgram (call : Command → State → State) (s : State) (left : Nat) (name : Bytes)
    (args : List Bytes) : State :=
  if programName (Utf8.lossy name) = "sh" then
    let (ran, files) := runShell call s.files false s.input args
    { s.absorb ran with files }
  else
    match tool? s.files (Utf8.lossy name) args s.input with
    | some ran => s.absorb ran
    | none =>
      if name.contains 0x2F && s.files.contains (Utf8.lossy name) then
        { s.report left (name ++ raw ": Permission denied") with status := 126 }
      else { s.report left (name ++ raw ": not found") with status := 127 }

/-- Runs a command that is given by its fields. -/
def runFields (call : Command → State → State) (left : Nat) : List Bytes → State → State
  | [], s => { s with status := 0 }
  | name :: args, s =>
    let text := Utf8.lossy name
    match s.functions.lookup text with
    | some body =>
      let inner := call body { s with arguments := args }
      -- a return ends the function and nothing else
      { inner with
        arguments := s.arguments
        leaving := if inner.leaving = some .fromFunction then none else inner.leaving }
    | none =>
      match text, args with
      | "exec", [] => { s with status := 0 }
      | "exec", program :: args =>
        let s := runProgram call s left program args
        -- what stands behind it in the script is not reached
        s.exit (.code s.status)
      | "command", args =>
        match args with
        | [] => { s with status := 0 }
        | name :: args =>
          match s.builtin? left (Utf8.lossy name) args with
          | some s => s
          | none => runProgram call s left name args
      | "eval", args =>
        let script := (Utf8.lossy (spaced args)).toList
        runLines call (script.length + 1) script { s with status := 0 }
      | ".", file :: _ =>
        match s.files.read (Utf8.lossy file) with
        | .ok script =>
          let script := (Utf8.lossy script).toList
          let inner := runLines call (script.length + 1) script s
          { inner with
            leaving := if inner.leaving = some .fromFunction then none else inner.leaving }
        | .error _ => (s.refuse left "." (Utf8.lossy file ++ ": not found") 2).exit (.code 2)
      | _, _ =>
        match s.builtin? left text args with
        | some s => s
        | none => runProgram call s left name args

/-- Puts back the values that variables had before a command. -/
def restore (before : State) (names : List String) (after : State) : State :=
  names.foldl
    (fun s name =>
      match before.bindings.lookup name with
      | some v => s.bind name v
      | none => s.unbind name)
    after

/-- What is made of the value of a parameter. -/
def applyUse (s : State) (name : String) (use : Use) (word : List Part) (quoted : Bool) :
    State × Part :=
  let value := s.value? name
  let part (v : Bytes) : Part := if quoted then .solid v else .split v
  let given (colon : Bool) : Bool := value.any fun v => !colon || !v.isEmpty
  let text := value.getD []
  match use with
  | .value =>
    (s, if name = "@" && quoted then .several s.arguments else part text)
  | .length => (s, part (raw (toString text.length)))
  | .orWord colon => (s, part (if given colon then text else joined word))
  | .orAssign colon =>
    if given colon then (s, part text) else (s.bind name (joined word), part (joined word))
  | .orFail colon =>
    if given colon then (s, part text)
    else
      let message := if word.isEmpty then raw "parameter not set" else joined word
      ((s.report s.lines (raw (name ++ ": ") ++ message)).exit (.code 2), part [])
  | .ifSet colon => (s, part (if given colon then joined word else []))
  | .withoutFront longest => (s, part (withoutFront longest (patternOf word) text))
  | .withoutEnd longest => (s, part (withoutEnd longest (patternOf word) text))

/-- Where a redirection to a file leads, or why it fails. -/
def openSink (s : State) (access : Access) (path : String) : Except FileError (Sink × FileTree) :=
  if path = "/dev/null" then .ok (.nowhere, s.files)
  else if path = "/dev/stderr" then .ok (s.err, s.files)
  else if path = "/dev/stdout" then .ok (s.out, s.files)
  else
    let content := if access = .append then (s.files.read path).toOption.getD [] else []
    (s.files.write path content).map fun files => (.file path, files)

/-- Opens a file for a channel; the result tells whether that worked. -/
def openFile (s : State) (channel : Nat) (access : Access) (path : Bytes) : State × Bool :=
  let name := Utf8.lossy path
  match access with
  | .read =>
    match if name = "/dev/null" then .ok [] else s.files.read name with
    | .ok content => ({ s with input := content }, true)
    | .error _ => (s.report s.lines (raw "cannot open " ++ path ++ raw ": No such file"), false)
  | access =>
    match openSink s access name with
    | .ok (sink, files) =>
      if channel = 2 then ({ s with err := sink, files }, true)
      else if channel = 1 then ({ s with out := sink, files }, true)
      else ({ s with files }, true)
    | .error e =>
      (s.report s.lines (raw "cannot create " ++ path ++ raw (": " ++ fileReason e)), false)

/-- Makes a channel lead where another one leads; a channel that is not open leads nowhere. -/
def copyChannel (s : State) (channel source : Nat) : State :=
  let sink := if source = 1 then s.out else if source = 2 then s.err else .nowhere
  if channel = 1 then { s with out := sink } else if channel = 2 then { s with err := sink } else s

/-- Puts the channels back as they were; `read` tells whether the input was another one. -/
def resetChannels (before : State) (read : Bool) (after : State) : State :=
  { after with
    out := before.out, err := before.err, input := if read then before.input else after.input }

/-- Whether a redirection gives a command another input. -/
def Redirect.isInput : Redirect → Bool
  | .file _ .read _ | .text _ => true
  | _ => false

mutual

/-- Expands a piece of a word. -/
def expandPiece (call : Command → State → State) (s : State) : Piece → State × Part
  | .text v true => (s, .solid (raw (String.ofList v)))
  | .text v false => (s, .written (raw (String.ofList v)))
  | .parameter name use word quoted =>
    let (s, parts) := expandWord call s word
    applyUse s name use parts quoted
  | .output command quoted =>
    let (s, text) := s.collect fun s => runCommand call s command
    (s, if quoted then .solid (chomp text) else .split (chomp text))
  | .arithmetic expression quoted =>
    let (s, parts) := expandWord call s expression
    let value (name : String) : Option Int :=
      let (n, whole) := signedNumber ((s.value? name).getD [])
      if whole then some n else none
    match Arithmetic.eval? value (Utf8.lossy (joined parts)).toList with
    | some n => (s, if quoted then .solid (raw (toString n)) else .split (raw (toString n)))
    | none =>
      ((s.report s.lines (raw "arithmetic expression: syntax error")).exit (.code 2), .solid [])

/-- Expands the pieces of a word. -/
def expandWord (call : Command → State → State) (s : State) : List Piece → State × List Part
  | [] => (s, [])
  | p :: rest =>
    let (s, part) := expandPiece call s p
    let (s, parts) := expandWord call s rest
    (s, part :: parts)

/-- Expands words to fields. -/
def expandWords (call : Command → State → State) (s : State) :
    List (List Piece) → State × List Bytes
  | [] => (s, [])
  | w :: rest =>
    let (s, parts) := expandWord call s w
    let (s, more) := expandWords call s rest
    (s, fields s.separators none parts ++ more)

/-- Makes assignments. -/
def assign (call : Command → State → State) (s : State) : List (String × List Piece) → State
  | [] => s
  | (name, word) :: rest =>
    let (s, parts) := expandWord call s word
    assign call (s.bind name (joined parts)) rest

/-- Redirects channels; the result tells whether that worked. -/
def redirect (call : Command → State → State) (s : State) : List Redirect → State × Bool
  | [] => (s, true)
  | .file channel access name :: rest =>
    let (s, parts) := expandWord call s name
    let (s, ok) := openFile s channel access (joined parts)
    if ok then redirect call s rest else (s, false)
  | .copy channel source :: rest => redirect call (copyChannel s channel source) rest
  | .text content :: rest =>
    let (s, parts) := expandWord call s content
    redirect call { s with input := joined parts } rest

/-- Whether a text fits one of several patterns. -/
def fitsAny (call : Command → State → State) (s : State) (text : Bytes) :
    List (List Piece) → State × Bool
  | [] => (s, false)
  | w :: rest =>
    let (s, parts) := expandWord call s w
    if fits (patternOf parts) text then (s, true) else fitsAny call s text rest

/-- Runs the first branch that a text fits. -/
def runBranches (call : Command → State → State) (s : State) (text : Bytes) :
    List (List (List Piece) × Command) → State
  | [] => { s with status := 0 }
  | (patterns, command) :: rest =>
    let (s, hit) := fitsAny call s text patterns
    if hit then runCommand call { s with status := 0 } command else runBranches call s text rest

/-- Runs a command. -/
def runCommand (call : Command → State → State) (s : State) : Command → State
  | .skip => s
  | .simple left assignments words redirects =>
    if s.leaving.isSome then s
    else
      let (t, args) := expandWords call { s with status := s.status } words
      let reads := redirects.any Redirect.isInput
      match args with
      | [] =>
        -- nothing is run, so the assignments stay
        let t := if words.isEmpty && assignments.isEmpty then t else { t with status := 0 }
        let t := assign call (if words.isEmpty then { t with status := 0 } else t) assignments
        let (t', ok) := redirect call t redirects
        (resetChannels t reads (if ok then t' else { t' with status := 2 })).settle
      | name :: _ =>
        if t.leaving.isSome then t
        else
          -- the assignments and the redirections are for this command alone
          let bound := assign call t assignments
          let (ready, ok) := redirect call bound redirects
          if !ok then (resetChannels t reads { ready with status := 2 }).settle
          else
            let after := runFields call left args ready
            let after := restore t (assignments.map (·.1)) after
            -- an exec without a program keeps its redirections
            if name = raw "exec" ∧ args.length = 1 then after
            else (resetChannels t reads after).settle
  | .redirected command redirects =>
    if s.leaving.isSome then s
    else
      let (t, ok) := redirect call s redirects
      let reads := redirects.any Redirect.isInput
      if ok then resetChannels s reads (runCommand call t command)
      else (resetChannels s reads { t with status := 2 }).settle
  | .choose subject branches =>
    if s.leaving.isSome then s
    else
      let (s, parts) := expandWord call s subject
      runBranches call s (joined parts) branches
  | .conditional condition yes no =>
    if s.leaving.isSome then s
    else
      let t := s.guarding fun s => runCommand call s condition
      if t.leaving.isSome then t
      else if t.status = 0 then runCommand call t yes
      else runCommand call { t with status := 0 } no
  | .loop stops condition body =>
    if s.leaving.isSome then s
    else
      rounds stops (fun s => runCommand call s condition) (fun s => runCommand call s body)
        roundLimit s
  | .each name words body =>
    if s.leaving.isSome then s
    else
      let (s, values) := match words with
        | some words => expandWords call s words
        | none => (s, s.arguments)
      passes name (fun s => runCommand call s body) values { s with status := 0 }
  | .define name body =>
    if s.leaving.isSome then s
    else { s with functions := (name, body) :: s.functions, status := 0 }
  | .subshell command =>
    if s.leaving.isSome then s else (s.within fun s => runCommand call s command).settle
  | .background command =>
    if s.leaving.isSome then s
    else
      -- nobody waits for it, and it reads nothing of the input
      { s.within (fun s => runCommand call { s with input := [] } command) with
        input := s.input, slept := s.slept, status := 0 }
  | .pipe first second =>
    if s.leaving.isSome then s
    else
      -- the first part runs to its end before the second one begins
      let (t, text) := s.collect fun s => runCommand call s first
      let u := t.within fun t => runCommand call { t with input := text } second
      { u with input := t.input }.settle
  | .negate command =>
    if s.leaving.isSome then s
    else
      let t := s.guarding fun s => runCommand call s command
      if t.leaving.isSome then t else t.answer (t.status != 0)
  | .sequence first second => runCommand call (runCommand call s first) second
  | .andThen first second =>
    let t := s.guarding fun s => runCommand call s first
    if t.leaving.isNone && t.status == 0 then runCommand call t second else t
  | .orElse first second =>
    let t := s.guarding fun s => runCommand call s first
    if t.leaving.isNone && t.status != 0 then runCommand call t second else t

end

/-- Runs a command whose calls nest at most so deep. -/
def runAtDepth : Nat → Command → State → State
  | 0, _, s => s.stuck
  | depth + 1, command, s => runCommand (runAtDepth depth) s command

/-- How deep calls may nest. -/
def depthLimit : Nat := 200

/-- Runs a shell with its arguments. -/
def run (files : FileTree) (args : List Bytes) (input : Bytes) : Ran :=
  (runShell (runAtDepth depthLimit) files false input args).1

end ReplayProxy.Program.Shell
