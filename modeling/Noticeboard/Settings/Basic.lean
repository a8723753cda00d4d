import Noticeboard.Json.Reader
import Noticeboard.Settings.Lines
import Noticeboard.Settings.Whole

/-!
Settings. Each has a variable of its own name, in any letter case, which is looked up in the
environment and then in a file of variables. All settings are checked together and every
fault is reported, in the order of the settings.
-/

namespace Noticeboard

abbrev Count := { n : Nat // 0 < n }

structure Settings where
  databaseURL : String
  secretKey : String
  /-- How many minutes an access token lasts when nothing else is asked for. -/
  tokenMinutes : Count
  timeZone : String
  tablePrefix : String
  /-- How many notices a page holds when nothing else is asked for. -/
  pageSize : Count
  /-- How many notices are looked at when all are marked as read. -/
  markAllLimit : Count
  logLevel : String
  /-- The origins from which browsers may call the service. -/
  origins : List String
  deriving DecidableEq, Repr

namespace Settings

inductive Field
  | databaseURL
  | secretKey
  | tokenMinutes
  | timeZone
  | tablePrefix
  | pageSize
  | markAllLimit
  | logLevel
  | origins
  deriving DecidableEq, Repr

/-- Every setting, in the order in which problems are reported. -/
def Field.all : List Field :=
  [.databaseURL, .secretKey, .tokenMinutes, .timeZone, .tablePrefix, .pageSize,
    .markAllLimit, .logLevel, .origins]

def Field.name : Field → String
  | .databaseURL => "database_url"
  | .secretKey => "secret_key"
  | .tokenMinutes => "access_token_expire_minutes"
  | .timeZone => "app_timezone"
  | .tablePrefix => "table_prefix"
  | .pageSize => "notifications_page_size"
  | .markAllLimit => "mark_all_fetch_limit"
  | .logLevel => "log_level"
  | .origins => "cors_origins"

inductive Fault
  | missing
  | empty
  | notWhole
  | tooLong
  | notPositive
  | notList
  | notText
  deriving DecidableEq, Repr

/-- A fault of a setting, or of one element of it. -/
structure Problem where
  field : Field
  index : Option Nat := none
  fault : Fault
  deriving DecidableEq, Repr

inductive Failure
  /-- The origins are not JSON, or a number in them is too long, so that nothing else is
  checked. -/
  | originsNotJson
  /-- The origins are nested deeper than they are read. Nothing else is checked either. -/
  | originsTooDeep
  | problems (ps : List Problem)
  deriving DecidableEq, Repr

/-! ## Looking up a setting -/

/-- A character of a variable's name with its letter case dropped. The Kelvin sign counts as
a letter K. -/
def foldCase (c : Char) : Char := if c = '\u212a' then 'k' else c.toLower

def sameName (a b : String) : Bool := a.toList.map foldCase = b.toList.map foldCase

/-- The variables of a file, each name once: in the place of its first line, with the value
of its last one. -/
def put (b : Binding) : List Binding → List Binding
  | [] => [b]
  | old :: rest => if old.1 = b.1 then b :: rest else old :: put b rest

/-- How deep containers may be nested in a setting of the environment and in one of the file,
before the reader of JSON gives up. -/
structure Depth where
  environment : Nat
  file : Nat
  deriving DecidableEq, Repr

/-- Where settings are looked up, and how deep they are read. -/
structure Sources where
  environment : List (String × String)
  file : List Binding
  depth : Depth

/-- The sources with the text of the file, whose references are resolved. -/
def Sources.ofText (depth : Depth) (environment : List (String × String)) (text : String) :
    Sources :=
  { environment, depth
    file := ((Binding.ofFile text |> Binding.resolved environment).foldl
      (fun done b => put b done) []) }

def Sources.inEnvironment? (sources : Sources) (field : Field) : Option String :=
  (sources.environment.reverse.find? (sameName ·.1 field.name)).map (·.2)

def Sources.inFile? (sources : Sources) (field : Field) : Option String :=
  (sources.file.reverse.find? (sameName ·.1 field.name)).bind (·.2)

/-- The text of a setting, the environment before the file. -/
def Sources.text? (sources : Sources) (field : Field) : Option String :=
  sources.inEnvironment? field <|> sources.inFile? field

/-! ## Checking a setting -/

abbrev Checked (α : Type) := Except (List Problem) α

def Checked.problems : Checked α → List Problem
  | .ok _ => []
  | .error ps => ps

def fail (field : Field) (fault : Fault) : Checked α := .error [{ field, fault }]

def filledText (field : Field) (text : Option String) (default : Option String) :
    Checked String :=
  match text, default with
  | some s, _ => if s = "" then fail field .empty else .ok s
  | none, some s => .ok s
  | none, none => fail field .missing

def count (field : Field) (text : Option String) (default : Count) : Checked Count :=
  match text with
  | none => .ok default
  | some s =>
      match Whole.read s with
      | .error .malformed => fail field .notWhole
      | .error .tooLong => fail field .tooLong
      | .ok n =>
          if h : 0 < n.toNat then .ok ⟨n.toNat, h⟩ else fail field .notPositive

/-- The value of a setting that is written in JSON, if it is given. -/
def json? (depth : Nat) (text : Option String) : Except Failure (Option Json) :=
  match text with
  | none => .ok none
  | some s =>
      match Json.attempt (.lenient depth) s.toList with
      | .ok value => .ok (some value)
      | .error .malformed => .error .originsNotJson
      | .error .tooDeep => .error .originsTooDeep

/-- The texts of the elements from number `i` on, or a problem for each that is no text. -/
def textsFrom (i : Nat) : List Json → Checked (List String)
  | [] => .ok []
  | x :: xs =>
      match x, textsFrom (i + 1) xs with
      | .str s, .ok rest | .garbled s, .ok rest => .ok (s :: rest)
      | .str _, .error later | .garbled _, .error later => .error later
      | _, later => .error ({ field := .origins, index := some i, fault := .notText } ::
          later.problems)

def originList : Option Json → Checked (List String)
  | none | some .null => .ok []
  | some (.arr xs) => textsFrom 0 xs
  | some _ => fail .origins .notList

/-- The origins of the environment, unless they are null, before those of the file. -/
def preferred : Option Json → Option Json → Option Json
  | none, later | some .null, later => later
  | found, _ => found

/-! ## Loading -/

def load (sources : Sources) : Except Failure Settings :=
  match json? sources.depth.environment (sources.inEnvironment? .origins),
      json? sources.depth.file (sources.inFile? .origins) with
  | .error failure, _ | _, .error failure => .error failure
  | .ok first, .ok second =>
      let databaseURL := filledText .databaseURL (sources.text? .databaseURL)
        (some "sqlite:///./boardnotify.db")
      let secretKey := filledText .secretKey (sources.text? .secretKey) none
      let tokenMinutes := count .tokenMinutes (sources.text? .tokenMinutes) ⟨60, by decide⟩
      let pageSize := count .pageSize (sources.text? .pageSize) ⟨50, by decide⟩
      let markAllLimit := count .markAllLimit (sources.text? .markAllLimit) ⟨1000, by decide⟩
      let origins := originList (preferred first second)
      match databaseURL, secretKey, tokenMinutes, pageSize, markAllLimit, origins with
      | .ok databaseURL, .ok secretKey, .ok tokenMinutes, .ok pageSize, .ok markAllLimit,
          .ok origins =>
          .ok { databaseURL, secretKey, tokenMinutes, pageSize, markAllLimit, origins
                timeZone := (sources.text? .timeZone).getD "UTC"
                tablePrefix := (sources.text? .tablePrefix).getD ""
                logLevel := (sources.text? .logLevel).getD "INFO" }
      | _, _, _, _, _, _ =>
          .error (.problems (databaseURL.problems ++ secretKey.problems ++
            tokenMinutes.problems ++ pageSize.problems ++ markAllLimit.problems ++
            origins.problems))

/-- Whether the database is a file of the service itself, which its threads then share. -/
def ownsDatabase (s : Settings) : Bool := s.databaseURL.startsWith "sqlite"

end Settings

end Noticeboard
