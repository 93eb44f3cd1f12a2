import Joinery.Database.Table

/-! Where a database is. -/

namespace Joinery

/-- The place of a database. -/
inductive DatabaseAddress where
  /-- In memory, for as long as it is used. -/
  | memory
  /-- In a file. -/
  | file (path : String)
  /-- On a server. -/
  | server (url : String)
  deriving DecidableEq, Repr

/-- The schemes of addresses on servers. -/
def serverSchemes : List String :=
  ["postgresql", "postgresql+psycopg2", "mssql", "mssql+pyodbc"]

/-- The schemes of addresses in memory and in files. -/
def localSchemes : List String :=
  ["sqlite", "sqlite+pysqlite"]

/-- What stands in front of a mark and what follows it. -/
def splitAtMark (mark : List Char) : List Char → Option (List Char × List Char)
  | [] => if mark = [] then some ([], []) else none
  | c :: rest =>
    if mark <+: c :: rest then some ([], (c :: rest).drop mark.length)
    else (splitAtMark mark rest).map fun (front, back) => (c :: front, back)

/-- The address of a local database, by what follows the scheme. -/
def DatabaseAddress.ofLocal? (rest : List Char) : Option DatabaseAddress :=
  match rest.takeWhile (· ≠ '?') with
  | [] => some .memory
  | '/' :: path =>
    if path = [] ∨ path = ":memory:".toList then some .memory else some (.file (String.ofList path))
  | _ => none

/-- Reads an address. -/
def DatabaseAddress.ofUrl? (url : String) : Option DatabaseAddress := do
  let (scheme, rest) ← splitAtMark "://".toList url.toList
  let scheme := String.ofList scheme
  if localSchemes.contains scheme then ofLocal? rest
  else if serverSchemes.contains scheme then some (.server url)
  else none

end Joinery
