import Noticeboard.Text.Blank

/-!
Files of variables, one `NAME=value` to a line. A line may begin with `export`, blanks around
the name and the value do not count, and a number sign after a blank begins a comment. A
value in quotes keeps its blanks and may span lines, and a byte order mark may stand in front
of the whole file. A name without an equals sign has no value, and a line that is none of this
is passed over.
-/

namespace Noticeboard.Settings

/-- A variable of a file; a name may stand there without a value. -/
abbrev Binding := String × Option String

namespace Lines

def isGap (c : Char) : Bool := Text.isBlank c && c ≠ '\n'

def unified : List Char → List Char
  | [] => []
  | '\r' :: '\n' :: cs => '\n' :: unified cs
  | c :: cs => (if c = '\r' then '\n' else c) :: unified cs

def nextLine (cs : List Char) : List Char := (cs.dropWhile (· ≠ '\n')).drop 1

/-- The text after the word `export` and blanks, if it begins so. -/
def skipExport : List Char → List Char
  | 'e' :: 'x' :: 'p' :: 'o' :: 'r' :: 't' :: c :: cs =>
      if isGap c then cs.dropWhile isGap else 'e' :: 'x' :: 'p' :: 'o' :: 'r' :: 't' :: c :: cs
  | cs => cs

/-- A name, with or without single quotes, and what follows it. -/
def name? (cs : List Char) : Option (List Char × List Char) :=
  match cs with
  | '\'' :: body =>
      match body.span (· ≠ '\'') with
      | (c :: name, _ :: rest) => some (c :: name, rest)
      | _ => none
  | cs =>
      match cs.span fun c => c ≠ '=' && c ≠ '#' && !Text.isBlank c with
      | ([], _) => none
      | (name, rest) => some (name, rest)

/-- The text up to a quote that belongs to no backslash, and what follows it. The character
after a backslash belongs to it. -/
def quotedBody (quote : Char) : List Char → Option (List Char × List Char)
  | [] => none
  | '\\' :: c :: cs => (quotedBody quote cs).map fun (body, rest) => ('\\' :: c :: body, rest)
  | c :: cs =>
      if c = quote then some ([], cs)
      else (quotedBody quote cs).map fun (body, rest) => (c :: body, rest)

/-- Replaces each backslash and the character after it that `meaning` knows. -/
def unescape (meaning : Char → Option Char) : List Char → List Char
  | [] => []
  | '\\' :: c :: cs =>
      match meaning c with
      | some d => d :: unescape meaning cs
      | none => '\\' :: unescape meaning (c :: cs)
  | c :: cs => c :: unescape meaning cs

def singleEscape (c : Char) : Option Char := if c = '\\' ∨ c = '\'' then some c else none

def doubleEscape (c : Char) : Option Char :=
  if c = '\\' ∨ c = '\'' ∨ c = '"' then some c
  else if c = 'a' then some '\x07'
  else if c = 'b' then some '\x08'
  else if c = 'f' then some '\x0c'
  else if c = 'n' then some '\n'
  else if c = 'r' then some '\r'
  else if c = 't' then some '\t'
  else if c = 'v' then some '\x0b'
  else none

/-- The text before blanks that lead up to a number sign. -/
def beforeComment : List Char → List Char
  | [] => []
  | c :: cs =>
      if Text.isBlank c && (cs.dropWhile Text.isBlank).head? = some '#' then []
      else c :: beforeComment cs

/-- A value, and what follows it. Blanks in front of the value do not count, except that they
let a number sign begin a comment. -/
def value? (cs : List Char) : Option (List Char × List Char) :=
  match cs.dropWhile isGap with
  | '\'' :: body =>
      (quotedBody '\'' body).map fun (text, rest) => (unescape singleEscape text, rest)
  | '"' :: body =>
      (quotedBody '"' body).map fun (text, rest) => (unescape doubleEscape text, rest)
  | _ =>
      let (line, rest) := cs.span (· ≠ '\n')
      some (Text.trim Text.isBlank (beforeComment line), rest)

/-- What follows a line of which only blanks and a comment are left. -/
def lineEnd? (cs : List Char) : Option (List Char) :=
  match cs.dropWhile isGap with
  | [] => some []
  | '\n' :: rest => some rest
  | '#' :: rest => some (nextLine rest)
  | _ => none

/-- The variable at the front of a text that begins with no blank, if there is one, and what
follows its line. -/
def binding (cs : List Char) : Option Binding × List Char :=
  if cs.head? = some '#' then (none, nextLine cs)
  else
    let cs := skipExport cs
    if cs.head? = some '#' then (none, nextLine cs)
    else
      match name? cs with
      | none => (none, nextLine cs)
      | some (name, cs) =>
          match cs.dropWhile isGap with
          | '=' :: cs =>
              match value? cs with
              | none => (none, nextLine cs)
              | some (text, cs) =>
                  match lineEnd? cs with
                  | none => (none, nextLine cs)
                  | some rest => (some (String.ofList name, some (String.ofList text)), rest)
          | cs =>
              match lineEnd? cs with
              | none => (none, nextLine cs)
              | some rest => (some (String.ofList name, none), rest)

/-- The variables of a text; `fuel` is enough when it is at least the length of the text. -/
def bindings (fuel : Nat) (cs : List Char) : List Binding :=
  match fuel, cs.dropWhile Text.isBlank with
  | 0, _ | _, [] => []
  | fuel + 1, cs =>
      let (found, rest) := binding cs
      found.toList ++ bindings fuel rest

end Lines

def Lines.unmarked : List Char → List Char
  | [] => []
  | c :: cs => if c = '\ufeff' then cs else c :: cs

def Binding.ofFile (text : String) : List Binding :=
  let cs := Lines.unified (Lines.unmarked text.toList)
  Lines.bindings cs.length cs

/-! ## References -/

namespace Reference

/-- A name up to a closing brace, with what stands for it when it has no value, and the text
after the brace: `name}` or `name:-instead}`. -/
def parts? (cs : List Char) : Option (List Char × List Char × List Char) :=
  match cs.span fun c => c ≠ '}' && c ≠ ':' with
  | (name, '}' :: rest) => some (name, [], rest)
  | (name, ':' :: '-' :: more) =>
      match more.span (· ≠ '}') with
      | (instead, _ :: rest) => some (name, instead, rest)
      | _ => none
  | _ => none

/-- `cs` with the value of each variable in the place of its reference: a dollar sign and
the name in braces. The text put in place is not looked at again, and `fuel` is enough when
it is at least the length of `cs`. -/
def expand (valueOf : String → Option String) : Nat → List Char → List Char
  | 0, cs => cs
  | _, [] => []
  | fuel + 1, c :: cs =>
      match c, cs with
      | '$', '{' :: body =>
          match parts? body with
          | some (name, instead, rest) =>
              ((valueOf (String.ofList name)).getD (String.ofList instead)).toList ++
                expand valueOf fuel rest
          | none => c :: expand valueOf fuel cs
      | _, _ => c :: expand valueOf fuel cs

def resolve (valueOf : String → Option String) (s : String) : String :=
  String.ofList (expand valueOf s.length s.toList)

end Reference

/-- The value a list of variables gives to `name`: `none` when the name does not occur. -/
def Binding.last? (name : String) (bs : List Binding) : Option (Option String) :=
  (bs.reverse.find? (·.1 = name)).map (·.2)

/-- `bs` with their references resolved from left to right. A name bound earlier in the file
hides a variable of the environment, even when it has no value. -/
def Binding.resolved (environment : List (String × String)) (bs : List Binding) : List Binding :=
  bs.foldl (fun done b =>
    let valueOf (name : String) : Option String :=
      match Binding.last? name done with
      | some value => some (value.getD "")
      | none => (environment.reverse.find? (·.1 = name)).map (·.2)
    done ++ [(b.1, b.2.map (Reference.resolve valueOf))]) []

end Noticeboard.Settings
