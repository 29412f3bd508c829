import FlowView.Disk.Recovery
import FlowView.Disk.Socket
/-!
# Databases on the disk

To connect to a database is to find or make its file and then to bring its tables up to date. A file that
was made and could not be written to stays, and holds nothing.
-/

namespace FlowView

/-- Where a database is. -/
inductive Whereabouts
  | file (location : Location)
  | server (server : Server)
  deriving DecidableEq, Repr

namespace Disk

/-- Makes the directory of a file; `again` says whether one that is there is made once more. -/
def prepare (d : Disk) (path : String) (again : Bool) : Except Failure Unit × Disk :=
  match Path.parent? path with
  | none => (.ok (), d)
  | some up =>
    if up = "" ∨ (!again ∧ d.pathExists up) then (.ok (), d)
    else
      match makeDirectories (up.length + 1) d up with
      | (.ok (), d') => (.ok (), d')
      | (.error e, d') => (.error (.database "create_dir" (.noDirectory up e)), d')

/-- The database that a URL names, and the disk with the directory for its file. What the URL does not
say of a server is as usual. -/
def find (d : Disk) (usual : Server) (url : String) : Except Failure Whereabouts × Disk :=
  let refused (fault : LocationFault) : Failure := .database "connect" (.configuration fault)
  match Location.engine? url with
  | some .server => ((usual.ofUrl url).map .server |>.mapError refused, d)
  | _ =>
    match Location.ofUrl url with
    | .error fault => (.error (refused fault), d)
    | .ok l =>
      match d.prepare l.path false with
      | (.error f, d') => (.error f, d')
      | (.ok (), d') => (.ok (.file { l with create := true }), d')

/-- Connects to a database. A missing file is made, but no server answers. -/
def connect (d : Disk) : Whereabouts → Except Failure Connection × Disk
  | .server s => (.error (.database "connect" (d.contact s)), d)
  | .file l =>
    match d.openLocation l with
    | .ok (o, d') => d'.begin o
    | .error fault => (.error (.database "connect" fault), d)

/-- Opens the database in the file of a path, making the file and its directory. The path becomes part
of a URL: a question mark in it begins parameters. -/
def openPath (d : Disk) (path : String) : Except Failure Connection × Disk :=
  let refused (fault : StoreFault) : Failure := .database "connect" (.atPath path fault)
  match d.prepare path true with
  | (.error f, d') => (.error f, d')
  | (.ok (), d') =>
    match Location.ofUrl ("sqlite:" ++ path ++ "?mode=rwc") with
    | .error fault => (.error (refused (.configuration fault)), d')
    | .ok l =>
      match d'.openLocation l with
      | .ok (o, d'') => d''.begin o
      | .error fault => (.error (refused fault), d')

end Disk
end FlowView
