import ReplayProxy.Text.Ascii

/-!
# Arithmetic in scripts

The expressions between `$((` and `))`: decimal, octal and hexadecimal numbers, names of
variables, parentheses and the usual operators, from `||` (which binds loosest) to the
signs. A name without a value counts as zero, and a division by zero is no value.
-/

namespace ReplayProxy.Program.Shell.Arithmetic

/-- The operators between two values, from those that bind loosest. -/
def levels : List (List String) :=
  [["||"], ["&&"], ["|"], ["^"], ["&"], ["==", "!="], ["<=", ">=", "<", ">"], ["<<", ">>"],
    ["+", "-"], ["*", "/", "%"]]

/-- Truth as a number. -/
def truth (b : Bool) : Int := if b then 1 else 0

/-- Applies an operator. -/
def apply (operator : String) (a b : Int) : Option Int :=
  match operator with
  | "||" => some (truth (a != 0 || b != 0))
  | "&&" => some (truth (a != 0 && b != 0))
  | "|" => some ((a.toNat ||| b.toNat : Nat) : Int)
  | "^" => some ((a.toNat ^^^ b.toNat : Nat) : Int)
  | "&" => some ((a.toNat &&& b.toNat : Nat) : Int)
  | "==" => some (truth (a == b))
  | "!=" => some (truth (a != b))
  | "<=" => some (truth (a ≤ b))
  | ">=" => some (truth (b ≤ a))
  | "<" => some (truth (a < b))
  | ">" => some (truth (b < a))
  | "<<" => some ((a.toNat <<< b.toNat : Nat) : Int)
  | ">>" => some ((a.toNat >>> b.toNat : Nat) : Int)
  | "+" => some (a + b)
  | "-" => some (a - b)
  | "*" => some (a * b)
  | "/" => if b = 0 then none else some (a.tdiv b)
  | "%" => if b = 0 then none else some (a.tmod b)
  | _ => none

/-- Whether two characters make up one operator. -/
def isLonger (operator : String) (rest : List Char) : Bool :=
  match operator, rest with
  | "|", '|' :: _ | "&", '&' :: _ | "<", '<' :: _ | ">", '>' :: _ => true
  | _, _ => false

/-- The operator of a level at the front, and what follows it. -/
def operatorAt? (level : List String) (cs : List Char) : Option (String × List Char) :=
  level.findSome? fun operator =>
    let rest := cs.drop operator.length
    if operator.toList.isPrefixOf cs && !isLonger operator rest then some (operator, rest) else none

/-- Skips blanks. -/
def skip (cs : List Char) : List Char := cs.dropWhile fun c => c == ' ' || c == '\t' || c == '\n'

/-- The value of a number as written. -/
def literal? (word : List Char) : Option Int :=
  match word with
  | '0' :: 'x' :: digits | '0' :: 'X' :: digits => do
    let values ← digits.mapM Ascii.hexValue?
    some ((values.foldl (fun n d => n * 16 + d) 0 : Nat) : Int)
  | '0' :: digits => do
    let values ← digits.mapM Ascii.hexValue?
    if values.all (· < 8) then some ((values.foldl (fun n d => n * 8 + d) 0 : Nat) : Int) else none
  | digits => (Ascii.decimal? digits).map fun n => (n : Int)

mutual

/-- The value of operands joined by operators of the first of the levels or of later ones. -/
def operation (value : String → Option Int) (fuel : Nat) (levels : List (List String))
    (cs : List Char) : Option (Int × List Char) :=
  match fuel with
  | 0 => none
  | fuel + 1 =>
    match levels with
    | [] => operand value fuel (skip cs)
    | level :: tighter => do
      let (a, rest) ← operation value fuel tighter cs
      continued value fuel level tighter a (skip rest)

/-- Goes on behind a first operand. -/
def continued (value : String → Option Int) (fuel : Nat) (level : List String)
    (tighter : List (List String)) (a : Int) (cs : List Char) : Option (Int × List Char) :=
  match fuel with
  | 0 => none
  | fuel + 1 =>
    match operatorAt? level cs with
    | none => some (a, cs)
    | some (operator, rest) => do
      let (b, rest) ← operation value fuel tighter rest
      continued value fuel level tighter (← apply operator a b) (skip rest)

/-- The value of an operand. -/
def operand (value : String → Option Int) (fuel : Nat) (cs : List Char) :
    Option (Int × List Char) :=
  match fuel with
  | 0 => none
  | fuel + 1 =>
    match cs with
    | '-' :: rest => (operand value fuel (skip rest)).map fun (n, rest) => (-n, rest)
    | '+' :: rest => operand value fuel (skip rest)
    | '!' :: rest => (operand value fuel (skip rest)).map fun (n, rest) => (truth (n == 0), rest)
    | '(' :: rest => do
      let (n, rest) ← operation value fuel levels rest
      match skip rest with
      | ')' :: rest => some (n, rest)
      | _ => none
    | cs =>
      let word := cs.takeWhile fun c => Ascii.isAlphanumeric c || c == '_'
      let rest := cs.drop word.length
      match word with
      | [] => none
      | c :: _ =>
        (if Ascii.isDigit c then literal? word else value (String.ofList word)).map fun n =>
          (n, rest)

end

/-- The value of an expression. Nothing counts as zero. -/
def eval? (value : String → Option Int) (text : List Char) : Option Int := do
  if (skip text).isEmpty then some 0
  else
    let (n, rest) ← operation value (24 * (text.length + 2)) levels text
    if (skip rest).isEmpty then some n else none

end ReplayProxy.Program.Shell.Arithmetic
