import Joinery.Schema.Naming
import Joinery.Text.LowerCase
import Joinery.Value.Misuse

/-! The dialects in which statements are written. -/

namespace Joinery

/-- A dialect of the query language. -/
inductive Dialect where
  /-- The one of SQLite. -/
  | sqlite
  /-- The one of PostgreSQL. -/
  | postgres
  /-- The one of SQL Server. -/
  | sqlserver
  deriving DecidableEq, Repr

/-- The short name of a dialect. -/
def Dialect.name : Dialect → String
  | .sqlite => "SQLite"
  | .postgres => "PostgreSQL"
  | .sqlserver => "SqlServer"

/-- The names by which a dialect is chosen. -/
def Dialect.spellings : List (String × Dialect) :=
  [("sqlite", .sqlite), ("postgres", .postgres), ("postgresql", .postgres),
   ("sqlserver", .sqlserver), ("mssql", .sqlserver)]

/-- The dialect of a name, blanks and letter case aside. -/
def Dialect.ofText? (name : String) : Option Dialect :=
  spellings.lookup (lowered (trim name))

/-- The complaint about a name that no dialect has. -/
def unknownDialect (name : String) : String :=
  "Unknown database provider: " ++ name ++ ". Use one of: sqlite, postgres, sqlserver"

/-- The words that SQLite keeps for itself. -/
def sqliteReserved : List String :=
  ["add", "after", "all", "alter", "analyze", "and", "as", "asc", "attach", "autoincrement",
    "before", "begin", "between", "by", "cascade", "case", "cast", "check", "collate", "column",
    "commit", "conflict", "constraint", "create", "cross", "current_date", "current_time",
    "current_timestamp", "database", "default", "deferrable", "deferred", "delete", "desc",
    "detach", "distinct", "drop", "each", "else", "end", "escape", "except", "exclusive", "exists",
    "explain", "fail", "false", "for", "foreign", "from", "full", "glob", "group", "having", "if",
    "ignore", "immediate", "in", "index", "indexed", "initially", "inner", "insert", "instead",
    "intersect", "into", "is", "isnull", "join", "key", "left", "like", "limit", "match", "natural",
    "not", "notnull", "null", "of", "offset", "on", "or", "order", "outer", "plan", "pragma",
    "primary", "query", "raise", "references", "reindex", "rename", "replace", "restrict", "right",
    "rollback", "row", "select", "set", "table", "temp", "temporary", "then", "to", "transaction",
    "trigger", "true", "union", "unique", "update", "using", "vacuum", "values", "view", "virtual",
    "when", "where"]

/-- The words that PostgreSQL keeps for itself. -/
def postgresReserved : List String :=
  ["all", "analyse", "analyze", "and", "any", "array", "as", "asc", "asymmetric", "authorization",
    "between", "binary", "both", "case", "cast", "check", "collate", "column", "constraint",
    "create", "cross", "current_catalog", "current_date", "current_role", "current_schema",
    "current_time", "current_timestamp", "current_user", "default", "deferrable", "desc",
    "distinct", "do", "else", "end", "except", "false", "fetch", "for", "foreign", "freeze", "from",
    "full", "grant", "group", "having", "ilike", "in", "initially", "inner", "intersect", "into",
    "is", "isnull", "join", "leading", "left", "like", "limit", "localtime", "localtimestamp",
    "natural", "new", "not", "notnull", "null", "of", "off", "offset", "old", "on", "only", "or",
    "order", "outer", "over", "overlaps", "placing", "primary", "references", "returning", "right",
    "select", "session_user", "similar", "some", "symmetric", "table", "then", "to", "trailing",
    "true", "union", "unique", "user", "using", "variadic", "verbose", "when", "where", "window",
    "with"]

/-- The words that SQL Server keeps for itself. -/
def sqlserverReserved : List String :=
  ["add", "all", "alter", "and", "any", "as", "asc", "authorization", "backup", "begin", "between",
    "break", "browse", "bulk", "by", "cascade", "case", "check", "checkpoint", "close", "clustered",
    "coalesce", "collate", "column", "commit", "compute", "constraint", "contains", "containstable",
    "continue", "convert", "create", "cross", "current", "current_date", "current_time",
    "current_timestamp", "current_user", "cursor", "database", "dbcc", "deallocate", "declare",
    "default", "delete", "deny", "desc", "disk", "distinct", "distributed", "double", "drop",
    "dump", "else", "end", "errlvl", "escape", "except", "exec", "execute", "exists", "exit",
    "external", "fetch", "file", "fillfactor", "for", "foreign", "freetext", "freetexttable",
    "from", "full", "function", "goto", "grant", "group", "having", "holdlock", "identity",
    "identity_insert", "identitycol", "if", "in", "index", "inner", "insert", "intersect", "into",
    "is", "join", "key", "kill", "left", "like", "lineno", "load", "merge", "national", "nocheck",
    "nonclustered", "not", "null", "nullif", "of", "off", "offsets", "on", "open", "opendatasource",
    "openquery", "openrowset", "openxml", "option", "or", "order", "outer", "over", "percent",
    "pivot", "plan", "precision", "primary", "print", "proc", "procedure", "public", "raiserror",
    "read", "readtext", "reconfigure", "references", "replication", "restore", "restrict", "return",
    "revert", "revoke", "right", "rollback", "rowcount", "rowguidcol", "rule", "save", "schema",
    "securityaudit", "select", "session_user", "set", "setuser", "shutdown", "some", "statistics",
    "system_user", "table", "tablesample", "textsize", "then", "to", "top", "tran", "transaction",
    "trigger", "truncate", "tsequal", "union", "unique", "unpivot", "update", "updatetext", "use",
    "user", "values", "varying", "view", "waitfor", "when", "where", "while", "with", "writetext"]

/-- The words that a dialect keeps for itself. -/
def Dialect.reservedWords : Dialect → List String
  | .sqlite => sqliteReserved
  | .postgres => postgresReserved
  | .sqlserver => sqlserverReserved

/-- Whether a character may stand in a name without quotation marks, letter case aside. -/
def isPlainPart (c : Char) : Bool :=
  isNamePart c || c = '$' || c = 'ı' || c = 'ſ'

/-- Whether the name of a table or column can only stand between quotation marks. -/
def Dialect.needsQuotes (dialect : Dialect) (name : String) : Bool :=
  match name.toList with
  | [] => true
  | first :: rest =>
    dialect.reservedWords.contains (lowered name) || ('0' ≤ first && first ≤ '9') || first = '$' ||
      !(withoutLineEnd (first :: rest)).all isPlainPart || withoutLineEnd (first :: rest) = [] ||
      lowered name ≠ name

/-- A character, twice when it is the given one. -/
def doubled (mark c : Char) : List Char :=
  if c = mark then [c, c] else [c]

/--
A character between quotation marks.

The closing mark is doubled, and so is a percent sign where it means something.
-/
def Dialect.quotedChar : Dialect → Char → List Char
  | .sqlite, c => doubled '"' c
  | .postgres, c => if c = '%' then ['%', '%'] else doubled '"' c
  | .sqlserver, c => doubled ']' c

/-- A name between quotation marks. -/
def Dialect.quoteAlways (dialect : Dialect) (name : String) : String :=
  let body := name.toList.flatMap dialect.quotedChar
  String.ofList <| match dialect with
  | .sqlserver => '[' :: body ++ [']']
  | _ => '"' :: body ++ ['"']

/-- A name, between quotation marks where it needs them. -/
def Dialect.quote (dialect : Dialect) (name : String) : String :=
  if dialect.needsQuotes name then dialect.quoteAlways name else name

/-- A name as it has to be written; without force the empty name has no written form. -/
def Dialect.quote? (dialect : Dialect) (name : String) (force : Bool) : Except Misuse String :=
  if force then .ok (dialect.quoteAlways name)
  else if name = "" then .error .emptyName
  else .ok (dialect.quote name)

/-- A sorted statement with a cap on its rows. -/
def Dialect.capRows (dialect : Dialect) (sql : String) (cap : Int) : String :=
  match dialect with
  | .sqlserver => sql ++ " OFFSET 0 ROWS FETCH NEXT " ++ intText cap ++ " ROWS ONLY"
  | _ => sql ++ " LIMIT " ++ intText cap

/-- The order in which records are ranked; one dialect cannot do without. -/
def Dialect.rankingOrder (dialect : Dialect) (order : Option String) : String :=
  match dialect, order.getD "" with
  | .sqlserver, "" => " ORDER BY (SELECT NULL)"
  | _, "" => ""
  | _, order => " ORDER BY " ++ order

/-- All columns of the records of a table for which a condition holds, and their ranks. -/
def Dialect.ranked (dialect : Dialect) (table key : String) (order : Option String)
    (condition : String) : String :=
  "SELECT *, ROW_NUMBER() OVER (PARTITION BY " ++ dialect.quote key ++ dialect.rankingOrder order ++
    ") AS _rn FROM " ++ dialect.quote table ++
    if condition = "" then "" else " WHERE " ++ condition

/-- What a driver's connection can do about a running statement. -/
inductive Interruption where
  /-- The named request stops it. -/
  | request (name : String)
  /-- The connection has no such request. -/
  | noSuchRequest
  /-- The driver is known to have no way. -/
  | unsupported

/-- Stops a running statement on a connection that has the dialect's request or not. -/
def Dialect.interrupt (dialect : Dialect) (hasRequest : Bool) : Interruption :=
  match dialect, hasRequest with
  | .sqlite, true => .request "interrupt"
  | _, true => .request "cancel"
  | .sqlserver, false => .unsupported
  | _, false => .noSuchRequest

/-- The complaint about a driver that cannot stop a statement. -/
def unsupportedInterruption : String :=
  "The SQL Server driver does not support cancelling a running statement"

end Joinery
