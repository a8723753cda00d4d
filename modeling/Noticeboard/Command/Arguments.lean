import Noticeboard.Text.Digit

/-!
Command lines: one operand, one option that takes a value, and a request for help. Options
may stand anywhere; a long option may be shortened as long as only one fits, and may bring its
value after an equals sign. Two dashes end the options. An argument that starts with a dash
but reads as a negative number or has a space in it is no option.
-/

namespace Noticeboard.Command

/-- What an argument is, seen by itself. -/
inductive Role
  /-- An operand, or the value of the option before it. -/
  | plain (text : String)
  /-- The end of the options. -/
  | divider
  /-- The option with a value, which may be brought along. -/
  | option (value : Option String)
  | help
  /-- A request for help that brings along a value, which it cannot have. -/
  | helpWithValue
  /-- An option that does not exist. -/
  | stray
  /-- A shortened option that fits more than one. -/
  | ambiguous
  deriving DecidableEq, Repr

/-- What a command line asks for. -/
inductive Asked
  | help
  /-- The command line is not understood. -/
  | usage
  | run (operand : String) (value : Option String)
  deriving DecidableEq, Repr

namespace Role

def helpName : List Char := "--help".toList

/-- One digit or more, up to the end or a line feed at the end. -/
def endsInDigits : List Char → Bool
  | [] => false
  | [c] => (Text.digitValue? c).isSome
  | [c, '\n'] => (Text.digitValue? c).isSome
  | c :: cs => (Text.digitValue? c).isSome && endsInDigits cs

/-- Whether the characters after a dash make it a negative number: digits, perhaps with a
point before the last ones. -/
def isAmount (cs : List Char) : Bool :=
  endsInDigits cs ||
    match cs.dropWhile fun c => (Text.digitValue? c).isSome with
    | '.' :: fraction => endsInDigits fraction
    | _ => false

/-- An argument up to the first equals sign, and what follows it if there is one. -/
def assignment (cs : List Char) : List Char × Option String :=
  match cs.span (· ≠ '=') with
  | (name, []) => (name, none)
  | (name, _ :: value) => (name, some (String.ofList value))

/-- The role of a name that starts with two dashes: the options that it may be short for. -/
def long? (option name : List Char) (value : Option String) : Option Role :=
  match helpName == name || (option != name && name.isPrefixOf helpName),
      option == name || (helpName != name && name.isPrefixOf option) with
  | true, true => some ambiguous
  | true, false => some (if value.isSome then helpWithValue else help)
  | false, true => some (Role.option value)
  | false, false => none

/-- The role of a dash and the letter `h`, by what follows them: the letter may be repeated,
also after one equals sign, and anything else is taken for a value. -/
def short : List Char → Role
  | [] => help
  | '=' :: rest => if !rest.isEmpty && rest.all (· = 'h') then help else helpWithValue
  | rest => if rest.all (· = 'h') then help else helpWithValue

/-- The role of an argument, for an option with the given name. -/
def of (option : String) (argument : String) : Role :=
  match argument.toList with
  | '-' :: '-' :: [] => divider
  | '-' :: '-' :: rest =>
      let (name, value) := assignment ('-' :: '-' :: rest)
      (long? option.toList name value).getD
        (if rest.contains ' ' then plain argument else stray)
  | '-' :: 'h' :: rest => short rest
  | '-' :: c :: rest =>
      if isAmount (c :: rest) || (c :: rest).contains ' ' then plain argument else stray
  | _ => plain argument

/-- The roles of all arguments; after the divider every one is plain. -/
def ofAll (option : String) : List String → List Role
  | [] => []
  | argument :: rest =>
      match of option argument with
      | divider => divider :: rest.map plain
      | role => role :: ofAll option rest

end Role

/-- What is known of a command line so far. -/
structure Found where
  operand : Option String
  value : Option String
  /-- Whether there was an argument that has no use. -/
  excess : Bool

/-- Goes through the roles from left to right. `valid` tells which values the option takes. -/
def collect (valid : String → Bool) (found : Found) : List Role → Asked
  | [] =>
      match found.operand, found.excess with
      | some operand, false => .run operand found.value
      | _, _ => .usage
  | .help :: _ => .help
  | .helpWithValue :: _ => .usage
  | .ambiguous :: _ => .usage
  | .stray :: rest => collect valid { found with excess := true } rest
  | .option (some value) :: rest =>
      if valid value then collect valid { found with value } rest else .usage
  | .option none :: .plain value :: rest =>
      if valid value then collect valid { found with value } rest else .usage
  | .option none :: _ => .usage
  | .divider :: rest =>
      collect valid { found with excess := found.excess || found.operand.isSome } rest
  | .plain operand :: .divider :: rest =>
      if found.operand.isSome then collect valid { found with excess := true } rest
      else collect valid { found with operand } rest
  | .plain operand :: rest =>
      if found.operand.isSome then collect valid { found with excess := true } rest
      else collect valid { found with operand } rest

/-- What a command line asks for. A shortened option that fits more than one is refused before
anything else. -/
def read (option : String) (valid : String → Bool) (arguments : List String) : Asked :=
  let roles := Role.ofAll option arguments
  if roles.contains .ambiguous then .usage else collect valid ⟨none, none, false⟩ roles

end Noticeboard.Command
