import Joinery.Setup.Arguments
import Joinery.Setup.Sharing

/-! The command that creates the tables of the customer domain and fills them with sample data. -/

namespace Joinery

/-- What a run of the command leaves behind. -/
structure CommandOutcome where
  /-- Zero for success, one for a database that cannot be set up, two for wrong arguments. -/
  status : Nat
  /-- The databases in files. -/
  files : Entries Database
  /-- What there is to tell. -/
  message : String
  deriving Repr

/-- How the command is used. -/
def usageText : String :=
  "usage: joinery [-h] --database-url DATABASE_URL [--no-seed]"

/-- The complaint about a database that cannot be set up. -/
def SharingFault.complaint (url : String) : SharingFault → String
  | .unreachable _ => "The server of " ++ url ++ " cannot be reached"
  | .address _ => "Could not parse database URL from " ++ url
  | _ => "The database " ++ url ++ " cannot be set up"

/-- Sets up the database at an address; the databases in files after it, and the fault if there is one. -/
def setUpAt (files : Entries Database) (url : String) (seeding : Bool) (host : Host) :
    Entries Database × Except SharingFault Unit :=
  match DatabaseAddress.ofUrl? url with
  | none => (files, .error (.address url))
  | some address =>
    let (sharing, answer) := (Sharing.start files).setUp address seeding ⟨[], [], host, []⟩
    (sharing.files, answer)

/-- Runs the command. -/
def runCommand (arguments : List String) (files : Entries Database) (host : Host) :
    CommandOutcome :=
  match readArguments arguments with
  | .error fault => ⟨2, files, usageText ++ "\njoinery: error: " ++ fault.message⟩
  | .ok .help => ⟨0, files, usageText⟩
  | .ok (.setUp url seeding) =>
    match setUpAt files url seeding host with
    | (files, .error fault) => ⟨1, files, fault.complaint url⟩
    | (files, .ok _) => ⟨0, files, "Database setup complete"⟩

end Joinery
