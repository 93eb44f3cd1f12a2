import Joinery.Validation.Checked

/-! The settings of a process, read from the variables of its environment. -/

namespace Joinery

/-- The settings of a process. -/
structure Settings where
  /-- The dialect of the database. -/
  provider : String
  /-- The address of the database. -/
  url : String
  /-- The place of the schema document, none for the built-in schema. -/
  schemaPath : Option String
  /-- Whether an empty database is filled with the sample data. -/
  seeding : Bool
  /-- How much is logged. -/
  logLevel : String
  deriving DecidableEq, Repr

/-- The names of the settings. -/
def Settings.names : List String :=
  ["DATABASE_PROVIDER", "DATABASE_URL", "ENTITY_SCHEMA_PATH", "SEED_ON_STARTUP", "LOG_LEVEL"]

/-- The settings in an environment, under the names of the settings; letter case does not matter. -/
def settingsAmong (environment : Entries Value) : Entries Value :=
  Settings.names.filterMap fun name =>
    ((environment.filter fun (key, _) => lowered key == lowered name).getLast?).map fun (_, value) =>
      (name, value)

/-- The parts of a path: slashes separate them, and a single dot is no part. -/
def pathParts (path : String) : List String :=
  (path.splitOn "/").filter fun part => part ≠ "" ∧ part ≠ "."

/-- What a path begins with: exactly two slashes stay two, any other number of them is one. -/
def pathRoot (path : String) : String :=
  match (path.toList.takeWhile (· = '/')).length with
  | 0 => ""
  | 2 => "//"
  | _ => "/"

/-- A path in its shortest spelling. -/
def plainPath (path : String) : String :=
  let spelling := pathRoot path ++ "/".intercalate (pathParts path)
  if spelling = "" then "." else spelling

/-- Reads the place of the schema document. -/
def Reader.path : Reader String := fun value =>
  (text value).map plainPath

/-- Reads settings from an environment; each has a default. -/
def Settings.ofEnvironment (environment : Entries Value) : Checked Settings :=
  let given := settingsAmong environment
  (((((Checked.valid Settings.mk).and
    (Reader.field given "DATABASE_PROVIDER" .text (some "sqlite"))).and
    (Reader.field given "DATABASE_URL" .text (some "sqlite:///customer_data.db"))).and
    (Reader.field given "ENTITY_SCHEMA_PATH" (.optional .path) (some none))).and
    (Reader.field given "SEED_ON_STARTUP" .truth (some true))).and
    (Reader.field given "LOG_LEVEL" .text (some "INFO"))

/-- The names of the levels of logging and their numbers. -/
def logLevels : List (String × Nat) :=
  [("CRITICAL", 50), ("FATAL", 50), ("ERROR", 40), ("WARNING", 30), ("WARN", 30), ("INFO", 20),
   ("DEBUG", 10), ("NOTSET", 0)]

/-- A letter as a capital, as far as the names of the levels need it. -/
def capitalLetter (c : Char) : Char :=
  if c = 'ı' then 'I' else if c = 'ſ' then 'S' else c.toUpper

/-- The level of logging, letter case aside; that of information when there is no such level. -/
def Settings.rootLevel (settings : Settings) : Nat :=
  (logLevels.lookup (settings.logLevel.map capitalLetter)).getD 20

end Joinery
