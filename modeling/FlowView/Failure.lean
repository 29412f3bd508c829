import FlowView.Disk.Path
import FlowView.Location
import FlowView.Payload
/-!
# Failures

Why an operation of the read model fails. Each failure has a code that programs go by and a message for
people. A failure that an event's handling ends in is wrapped once with the event; `root` unwraps it.
-/

namespace FlowView

/-- Why no word can be had with a database. -/
inductive ContactFault
  /-- A zero byte stands in the name of a file. -/
  | zeroByteInFile
  /-- A zero byte stands in the path of a socket. -/
  | zeroByteInSocket
  /-- The path of a socket has too many bytes. -/
  | socketTooLong
  /-- A path leads nowhere, or a name can be none. -/
  | path (fault : PathFault)
  /-- No host can have the name. -/
  | noHost
  /-- The name might be a host's, but there is nobody to ask. -/
  | noNames
  deriving DecidableEq, Repr

def ContactFault.message : ContactFault → String
  | .zeroByteInFile => "filename passed to SQLite must not contain nul bytes"
  | .zeroByteInSocket => "paths must not contain interior null bytes"
  | .socketTooLong => "path must be shorter than SUN_LEN"
  | .path fault => fault.message
  | .noHost => "failed to lookup address information: Name or service not known"
  | .noNames => "failed to lookup address information: Temporary failure in name resolution"

/-- Why the database refuses. -/
inductive StoreFault
  /-- A row with this primary key is there already. -/
  | keyTaken (column : String)
  /-- A row with these unique columns is there already. -/
  | notUnique (columns : List String)
  /-- A row refers to one that is not there. -/
  | foreignKey
  /-- A status column holds no status. -/
  | unknownStatus
  /-- The database may not be written to. -/
  | readOnly
  /-- A change would have to be undone first, and the database may not be written to. -/
  | unfinished
  /-- The file cannot be opened. -/
  | cannotOpen
  /-- Somebody else holds the lock. -/
  | locked
  /-- The index of a log cannot be shared. -/
  | noIndex
  /-- The file holds something else. -/
  | notDatabase
  /-- The disk fails to do what it is told; which of its duties it fails in has a number. -/
  | disk (code : Nat)
  /-- No system interface has this name. -/
  | noInterface (name : String)
  /-- A file's URL names the host of somebody else. -/
  | foreignHost (host : String)
  /-- A file's URL asks for a way to open it that there is not. -/
  | noMode (kind value : String)
  /-- A file's URL asks for more than may be done with the file. -/
  | modeRefused (value : String)
  | contact (fault : ContactFault)
  /-- The URL names no database. -/
  | configuration (fault : LocationFault)
  /-- The directory for the file cannot be made. -/
  | noDirectory (path : String) (fault : PathFault)
  /-- The fault is met at a path. -/
  | atPath (path : String) (fault : StoreFault)
  /-- The fault is met while the tables are brought up to date. -/
  | migrating (fault : StoreFault)
  /-- The database was closed. -/
  | closed
  /-- No row where one has to be. -/
  | noRow
  /-- A version of the tables that was applied is no longer known. -/
  | versionMissing (version : Nat)
  /-- No server answers. -/
  | unreachable
  | told (details : String)
  deriving DecidableEq, Repr

/-- A refusal with the number that the database gives it. -/
def returned (code : Nat) (text : String) : String :=
  s!"error returned from database: (code: {code}) " ++ text

def StoreFault.message : StoreFault → String
  | .keyTaken column => returned 1555 ("UNIQUE constraint failed: " ++ column)
  | .notUnique columns => returned 2067 ("UNIQUE constraint failed: " ++ ", ".intercalate columns)
  | .foreignKey => returned 787 "FOREIGN KEY constraint failed"
  | .unknownStatus => "error occurred while decoding column status"
  | .readOnly => returned 8 "attempt to write a readonly database"
  | .unfinished => returned 776 "attempt to write a readonly database"
  | .cannotOpen => returned 14 "unable to open database file"
  | .locked => returned 5 "database is locked"
  | .noIndex => returned 15 "locking protocol"
  | .notDatabase => returned 26 "file is not a database"
  | .disk code => returned code "disk I/O error"
  | .noInterface name => returned 1 ("no such vfs: " ++ name)
  | .foreignHost host => returned 1 ("invalid uri authority: " ++ host)
  | .noMode kind value => returned 1 ("no such " ++ kind ++ " mode: " ++ value)
  | .modeRefused value => returned 3 ("access mode not allowed: " ++ value)
  | .contact fault => "error communicating with database: " ++ fault.message
  | .configuration fault => "error with configuration: " ++ fault.message
  | .noDirectory path fault =>
    "Failed to create directory " ++ Text.quoted path ++ ": " ++ fault.message
  | .atPath path fault =>
    "Failed to connect to SQLite at " ++ Text.quoted path ++ ": " ++ fault.message
  | .migrating fault => "while executing migrations: " ++ fault.message
  | .closed => "attempted to acquire a connection on a closed pool"
  | .noRow => "no rows returned by a query that expected to return at least one row"
  | .versionMissing version =>
    s!"migration {version} was previously applied but is missing in the resolved migrations"
  | .unreachable => "pool timed out while waiting for an open connection"
  | .told details => details

/-- Why an operation fails. -/
inductive Failure
  | notFound (entity id : String)
  | illegalState (message : String)
  | event (fault : EventFault)
  | database (operation : String) (fault : StoreFault)
  | json (fault : DecodeFault)
  | duplicateHandler (kind : EventKind)
  /-- The handling of an event failed; the event stands in one line. -/
  | handling (event : String) (source : Failure)
  deriving DecidableEq, Repr

namespace Failure

/-- A refusal of a statement. -/
def query (fault : StoreFault) : Failure := .database "query" fault

def code : Failure → String
  | .notFound _ _ => "NOT_FOUND"
  | .illegalState _ => "ILLEGAL_STATE"
  | .event _ => "MALFORMED_EVENT"
  | .database _ _ => "DATABASE_ERROR"
  | .json _ => "JSON_ERROR"
  | .duplicateHandler _ => "DUPLICATE_HANDLER"
  | .handling _ _ => "EVENT_HANDLING_ERROR"

/-- The failure that an event's handling ended in, or the failure itself. -/
def root : Failure → Failure
  | .handling _ source => source.root
  | f => f

/-- Does the failure tell of another one that caused it? -/
def hasSource : Failure → Bool
  | .json _ | .handling _ _ => true
  | _ => false

def message : Failure → String
  | .notFound entity id => entity ++ " '" ++ id ++ "' not found"
  | .illegalState message => "illegal state: " ++ message
  | .event fault => fault.message
  | .database operation fault => "database error during '" ++ operation ++ "': " ++ fault.message
  | .json fault => "json error: " ++ fault.message
  | .duplicateHandler kind => "more than one handler registered for " ++ kind.name
  | .handling line source => "error handling event " ++ line ++ ": " ++ source.message

end Failure
end FlowView
