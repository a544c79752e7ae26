import Roster.Store.Tables

/-!
# Opening a store

* `TableStore.ofUri` — the store in memory when no database is named.
* `uriFault?` — what is wrong with the URI of a database: it has to begin with `mongodb://` or
  `mongodb+srv://`, name a host, and any port has to be a number from 1 to 65535.
* A database that is named well cannot be reached from here, so that opening it fails too.
-/

set_option autoImplicit false

namespace Roster

/-- Why the URI of a database cannot be used. -/
inductive UriFault where
  | scheme
  | host
  | port (text : String)
deriving DecidableEq, Repr

def UriFault.message : UriFault → String
  | .scheme => "connection string contains no scheme"
  | .host => "connection string contains no host"
  | .port text => s!"invalid port in connection string: {text}"

/-- A port: a number from 1 to 65535. -/
def isPort (cs : List Char) : Bool :=
  !cs.isEmpty && cs.all (fun c => '0' ≤ c && c ≤ '9') &&
    (let n := cs.foldl (fun n d => n * 10 + (d.toNat - 48)) 0
     1 ≤ n && n ≤ 65535)

/-- What is wrong with one host, given with or without a port. -/
def hostFault? (host : List Char) : Option UriFault :=
  let name := host.takeWhile (· ≠ ':')
  let port := (host.dropWhile (· ≠ ':')).drop 1
  if name.isEmpty then some .host
  else if host.contains ':' && !isPort port then some (.port (String.ofList port))
  else none

/-- What is wrong with a URI. -/
def uriFault? (uri : String) : Option UriFault :=
  let cs := uri.toList
  match ["mongodb://", "mongodb+srv://"].findSome? (·.toList.isPrefixOf? cs) with
  | none => some .scheme
  | some rest =>
    let authority := rest.takeWhile fun c => c ≠ '/' && c ≠ '?'
    let hosts := (authority.reverse.takeWhile (· ≠ '@')).reverse
    (hosts.splitOn ',').findSome? hostFault?

/-- Open a store. -/
def TableStore.ofUri (uri : Option String) (retention : Duration) : Except Error TableStore :=
  match uri with
  | none => .ok (.new retention)
  | some uri =>
    match uriFault? uri with
    | some fault => .error (.store fault.message)
    | none => .error (.store "the database cannot be reached")

end Roster
