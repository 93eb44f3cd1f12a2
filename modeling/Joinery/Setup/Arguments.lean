import Joinery.Text.DecimalDigit

/-! The arguments of the command that sets up a database. -/

namespace Joinery

/-- What an option does. -/
inductive Flag where
  /-- Shows how the command is used. -/
  | help
  /-- Gives the address of the database. -/
  | address
  /-- Leaves the sample data out. -/
  | bare
  deriving DecidableEq, Repr

/-- The spellings of the options. -/
def Flag.spellings : List (String × Flag) :=
  [("-h", .help), ("--help", .help), ("--database-url", .address), ("--no-seed", .bare)]

/-- What an argument is, seen by itself. -/
inductive Word where
  /-- An option, with what is attached to it. -/
  | option (flag : Flag) (spelling : String) (attached : Option String)
  /-- Something in the form of an option that is none. -/
  | stray (text : String)
  /-- The mark after which no options follow. -/
  | mark
  /-- Anything else. -/
  | plain (text : String)
  deriving DecidableEq, Repr

/-- Why the arguments make no sense. -/
inductive UsageFault where
  /-- The option may be one of several. -/
  | ambiguous (text : String)
  /-- The option needs a value. -/
  | valueExpected (spelling : String)
  /-- The option takes no value. -/
  | valueIgnored (spelling value : String)
  /-- There is no address. -/
  | addressMissing
  /-- Some arguments mean nothing. -/
  | unrecognized (texts : List String)
  deriving DecidableEq, Repr

/-- What the command is asked to do. -/
inductive Invocation where
  /-- To show how it is used. -/
  | help
  /-- To set up the database at an address, with sample data or without. -/
  | setUp (url : String) (seeding : Bool)
  deriving DecidableEq, Repr

/-- The complaint about arguments that make no sense. -/
def UsageFault.message : UsageFault → String
  | .ambiguous text => "ambiguous option: " ++ text
  | .valueExpected spelling => "argument " ++ spelling ++ ": expected one argument"
  | .valueIgnored spelling value => "argument " ++ spelling ++ ": ignored explicit argument " ++ value
  | .addressMissing => "the following arguments are required: --database-url"
  | .unrecognized texts => "unrecognized arguments: " ++ " ".intercalate texts

/-- Whether the characters are a decimal number without a sign. -/
def isPlainNumber (cs : List Char) : Bool :=
  let isDigit (c : Char) : Bool := (digitValue? c).isSome
  match cs.dropWhile isDigit with
  | [] => !cs.isEmpty
  | '.' :: places => !places.isEmpty && places.all isDigit
  | _ => false

/-- An argument in two parts around its first equals sign. -/
def splitAttached (cs : List Char) : String × Option String :=
  match cs.dropWhile (· ≠ '=') with
  | [] => (String.ofList cs, none)
  | _ :: attached => (String.ofList (cs.takeWhile (· ≠ '=')), some (String.ofList attached))

/-- The options that a long argument may shorten, or a short one that others are joined to. -/
def optionsLike (cs : List Char) : List Word :=
  match cs with
  | '-' :: '-' :: _ =>
    let (front, attached) := splitAttached cs
    Flag.spellings.filterMap fun (spelling, flag) =>
      if front.toList.isPrefixOf spelling.toList then some (.option flag spelling attached) else none
  | '-' :: letter :: joined =>
    Flag.spellings.filterMap fun (spelling, flag) =>
      if spelling = String.ofList ['-', letter] then
        some (.option flag spelling (some (String.ofList joined)))
      else none
  | _ => []

/-- What an argument is that has the form of an option and is none by its exact spelling. -/
def readInexact (text : String) : Except UsageFault Word :=
  match optionsLike text.toList with
  | [word] => .ok word
  | _ :: _ :: _ => .error (.ambiguous text)
  | [] =>
    if isPlainNumber (text.toList.drop 1) || text.toList.contains ' ' then .ok (.plain text)
    else .ok (.stray text)

/-- What an argument is, seen by itself. -/
def readWord (text : String) : Except UsageFault Word :=
  match text.toList, Flag.spellings.lookup text with
  | _, some flag => .ok (.option flag text none)
  | ['-'], none => .ok (.plain text)
  | '-' :: _, none =>
    let (front, attached) := splitAttached text.toList
    match Flag.spellings.lookup front with
    | some flag => .ok (.option flag front attached)
    | none => readInexact text
  | _, none => .ok (.plain text)

/-- What the arguments are; after the mark there are no options. -/
def readWords : List String → Except UsageFault (List Word)
  | [] => .ok []
  | text :: rest =>
    if text = "--" then .ok (.mark :: rest.map .plain)
    else do
      let word ← readWord text
      return word :: (← readWords rest)

/-- What has been found among the arguments. -/
structure Findings where
  /-- The last address. -/
  url : Option String
  /-- Whether there is no word against sample data. -/
  seeding : Bool
  /-- What means nothing. -/
  strays : List String
  deriving Repr

/-- The findings with one more argument that means nothing. -/
def Findings.withStray (findings : Findings) (text : String) : Findings :=
  { findings with strays := findings.strays ++ [text] }

/-- What the findings ask for. -/
def Findings.conclude (findings : Findings) : Except UsageFault Invocation :=
  match findings.url, findings.strays with
  | none, _ => .error .addressMissing
  | some _, stray :: strays => .error (.unrecognized (stray :: strays))
  | some url, [] => .ok (.setUp url findings.seeding)

/-- Whether only further requests for help are joined to one. -/
def isOnlyHelp (spelling attached : String) : Bool :=
  spelling = "-h" && attached ≠ "" && attached.toList.all (· = 'h')

/-- Goes through the arguments; a request for help ends everything. -/
def Findings.gather (findings : Findings) : List Word → Except UsageFault Invocation
  | [] => findings.conclude
  | .plain text :: rest => (findings.withStray text).gather rest
  | .stray text :: rest => (findings.withStray text).gather rest
  | .mark :: rest => (findings.withStray "--").gather rest
  | .option .help _ none :: _ => .ok .help
  | .option .help spelling (some attached) :: _ =>
    if isOnlyHelp spelling attached then .ok .help
    else .error (.valueIgnored spelling attached)
  | .option .bare _ none :: rest => { findings with seeding := false }.gather rest
  | .option .bare spelling (some attached) :: _ => .error (.valueIgnored spelling attached)
  | .option .address _ (some url) :: rest => { findings with url := some url }.gather rest
  | .option .address _ none :: .plain url :: rest => { findings with url := some url }.gather rest
  | .option .address spelling none :: _ => .error (.valueExpected spelling)

/-- What the arguments ask for. -/
def readArguments (arguments : List String) : Except UsageFault Invocation := do
  (Findings.mk none true []).gather (← readWords arguments)

end Joinery
