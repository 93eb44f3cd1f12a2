import Joinery.Customers.Entities
import Joinery.Customers.Seeding
import Joinery.Service
import Joinery.Setup.Address
import Joinery.Setup.Settings

/-!
A process shares one registry, one provider of a database and one service.

Each of them is made when it is first asked for, and kept until everything is closed.
-/

namespace Joinery

/-- A shared registry, with a number that tells it apart from all others. -/
structure SharedRegistry where
  /-- The number. -/
  number : Nat
  /-- The registry. -/
  registry : Registry
  deriving Repr

/-- A shared provider of a database. -/
structure SharedProvider where
  /-- The number that tells it apart from all others. -/
  number : Nat
  /-- The dialect in which it writes. -/
  dialect : Dialect
  /-- Where its database is. -/
  address : DatabaseAddress
  deriving Repr

/-- A shared service. -/
structure SharedService where
  /-- The number that tells it apart from all others. -/
  number : Nat
  /-- The registry that it was made with. -/
  registry : SharedRegistry
  /-- The provider that it was made with. -/
  provider : SharedProvider
  deriving Repr

/-- What a process shares, and the databases that it sees. -/
structure Sharing where
  /-- The registry, when there is one. -/
  registry : Option SharedRegistry
  /-- The provider, when there is one. -/
  provider : Option SharedProvider
  /-- The service, when there is one. -/
  service : Option SharedService
  /-- The next number to tell things apart. -/
  next : Nat
  /-- The database in memory; it is lost together with its provider. -/
  memory : Database
  /-- The databases in files. -/
  files : Entries Database
  deriving Repr

/-- A process that shares nothing yet. -/
def Sharing.start (files : Entries Database) : Sharing :=
  ⟨none, none, none, 0, .empty, files⟩

/-- Why something shared cannot be made. -/
inductive SharingFault where
  /-- The settings in the environment cannot be read. -/
  | settings (issues : List Issue)
  /-- There is no schema document at the place. -/
  | noDocument (path : String)
  /-- The schema document cannot be used. -/
  | schema (fault : SchemaFault)
  /-- No address is set. -/
  | noAddress
  /-- There is no such dialect. -/
  | dialect (name : String)
  /-- The address cannot be read. -/
  | address (url : String)
  /-- The server of the database is out of reach. -/
  | unreachable (url : String)
  /-- The database cannot be set up. -/
  | storage (fault : StorageFault)

/-- The complaint about an address that is not set. -/
def missingAddress : String := "DATABASE_URL environment variable is not set."

/-- What a process finds around it. -/
structure Surroundings where
  /-- The variables of its environment. -/
  environment : Entries Value
  /-- The schema documents by their places. -/
  documents : Entries Value
  /-- The machine that it runs on. -/
  host : Host
  /-- The servers within reach by their addresses, and what comes of setting up the database of each. -/
  servers : Entries (Except StorageFault Unit)

/-- Reads the registry that settings name. -/
def Settings.loadRegistry (settings : Settings) (around : Surroundings) :
    Except SharingFault Registry :=
  match settings.schemaPath with
  | none => .ok customerRegistry
  | some path =>
    match around.documents.get? path with
    | none => .error (.noDocument path)
    | some document => (Registry.ofDocument document).mapError .schema

/-- Reads the dialect and the address that settings name. -/
def Settings.chooseDatabase (settings : Settings) : Except SharingFault (Dialect × DatabaseAddress) :=
  if settings.url = "" then .error .noAddress
  else
    match Dialect.ofText? settings.provider, DatabaseAddress.ofUrl? settings.url with
    | none, _ => .error (.dialect settings.provider)
    | some _, none => .error (.address settings.url)
    | some dialect, some address => .ok (dialect, address)

/-- The settings that are given, or else those in the environment. -/
def Surroundings.settings (around : Surroundings) : Option Settings → Except SharingFault Settings
  | some settings => .ok settings
  | none =>
    match Settings.ofEnvironment around.environment with
    | .valid settings => .ok settings
    | .invalid issues => .error (.settings issues)

/-- What a process shares after a request, and the answer to it. -/
abbrev Shares (α : Type) := Sharing × Except SharingFault α

/-- The shared registry, made now if there is none. -/
def Sharing.requireRegistry (sharing : Sharing) (settings : Option Settings) (around : Surroundings) :
    Shares SharedRegistry :=
  match sharing.registry with
  | some shared => (sharing, .ok shared)
  | none =>
    match around.settings settings >>= (·.loadRegistry around) with
    | .error fault => (sharing, .error fault)
    | .ok registry =>
      let shared := ⟨sharing.next, registry⟩
      ({ sharing with registry := some shared, next := sharing.next + 1 }, .ok shared)

/-- The shared provider, made now if there is none; a new one has an empty database in memory. -/
def Sharing.requireProvider (sharing : Sharing) (settings : Option Settings) (around : Surroundings) :
    Shares SharedProvider :=
  match sharing.provider with
  | some shared => (sharing, .ok shared)
  | none =>
    match around.settings settings >>= (·.chooseDatabase) with
    | .error fault => (sharing, .error fault)
    | .ok (dialect, address) =>
      let shared := ⟨sharing.next, dialect, address⟩
      ({ sharing with provider := some shared, next := sharing.next + 1, memory := .empty },
        .ok shared)

/-- The shared service, made now if there is none; what else has to be made follows the environment. -/
def Sharing.requireService (sharing : Sharing) (around : Surroundings) : Shares SharedService :=
  match sharing.service with
  | some shared => (sharing, .ok shared)
  | none =>
    match sharing.requireRegistry none around with
    | (sharing, .error fault) => (sharing, .error fault)
    | (sharing, .ok registry) =>
      match sharing.requireProvider none around with
      | (sharing, .error fault) => (sharing, .error fault)
      | (sharing, .ok provider) =>
        let shared := ⟨sharing.next, registry, provider⟩
        ({ sharing with service := some shared, next := sharing.next + 1 }, .ok shared)

/-- What comes of setting up the database on a server, when the server is within reach. -/
def DatabaseAddress.outcomeAmong? (servers : Entries (Except StorageFault Unit)) :
    DatabaseAddress → Option (Except StorageFault Unit)
  | .server url => servers.get? url
  | _ => none

/-- The database at an address; a file that does not exist has an empty one. -/
def Sharing.database (sharing : Sharing) : DatabaseAddress → Except SharingFault Database
  | .memory => .ok sharing.memory
  | .file path => .ok ((sharing.files.get? path).getD .empty)
  | .server url => .error (.unreachable url)

/-- What a process shares when the database at an address has changed. -/
def Sharing.setDatabase (sharing : Sharing) (database : Database) : DatabaseAddress → Sharing
  | .memory => { sharing with memory := database }
  | .file path => { sharing with files := sharing.files.insert path database }
  | .server _ => sharing

/-- Sets up the database at an address; a server keeps its database itself. -/
def Sharing.setUp (sharing : Sharing) (address : DatabaseAddress) (seeding : Bool)
    (around : Surroundings) : Shares Unit :=
  match address.outcomeAmong? around.servers with
  | some outcome => (sharing, outcome.mapError .storage)
  | none =>
    match sharing.database address with
    | .error fault => (sharing, .error fault)
    | .ok database =>
      let (database, answer) := database.setUp seeding around.host
      (sharing.setDatabase database address, answer.mapError .storage)

/-- Starts up with settings: makes the registry and the provider, and sets up the database. -/
def Sharing.prepare (sharing : Sharing) (settings : Settings) (around : Surroundings) : Shares Unit :=
  match sharing.requireRegistry (some settings) around with
  | (sharing, .error fault) => (sharing, .error fault)
  | (sharing, .ok _) =>
    match sharing.requireProvider (some settings) around with
    | (sharing, .error fault) => (sharing, .error fault)
    | (sharing, .ok provider) => sharing.setUp provider.address settings.seeding around

/--
Starts up: makes the registry and the provider, sets up the database, and makes the service.

What was made before something fails stays.
-/
def Sharing.startUp (sharing : Sharing) (settings : Option Settings) (around : Surroundings) :
    Shares SharedService :=
  match around.settings settings with
  | .error fault => (sharing, .error fault)
  | .ok settings =>
    match sharing.prepare settings around with
    | (sharing, .error fault) => (sharing, .error fault)
    | (sharing, .ok _) => sharing.requireService around

/-- Gives up everything that is shared; databases in files remain. -/
def Sharing.close (sharing : Sharing) : Sharing :=
  { sharing with registry := none, provider := none, service := none, memory := .empty }

end Joinery
