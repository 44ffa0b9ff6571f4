import Typescribe.Database.Connection
import Typescribe.Files.Path
import Typescribe.Text.Word

/-!
This module contains the URLs of databases, and which of them can be opened.
-/

namespace Typescribe.Database

/-- The parts of a URL that say where a database is. -/
structure Url where
  driver : String
  user : List Char := []
  password : List Char := []
  host : List Char := []
  port : Option (List Char) := none
  database : Option String := none
deriving DecidableEq, Repr

def isDriverChar (c : Char) : Bool :=
  Text.isWordChar c || c = '+'

/--
Splits name and password of a user off the start of a text. The name holds no colon and no slash;
the password holds no at sign.
-/
def splitUser (cs : List Char) : List Char × List Char × List Char :=
  let isName := fun c : Char => c ≠ ':' && c ≠ '/'
  match cs.takeWhile isName, cs.dropWhile isName with
  | name, ':' :: rest =>
    match Text.cutAt '@' rest with
    | some (password, rest) => (name, password, rest)
    | none => splitAtName name (':' :: rest)
  | name, rest => splitAtName name rest
where
  splitAtName (name rest : List Char) : List Char × List Char × List Char :=
    match Text.cutAt '@' name.reverse with
    | some (after, before) => (before.reverse, [], after.reverse ++ rest)
    | none => ([], [], name ++ rest)

/-- Splits a host off the start of a text. A host with colons stands in brackets. -/
def splitHost (cs : List Char) : List Char × List Char :=
  let plain := fun c : Char => c ≠ '/' && c ≠ ':' && c ≠ '?'
  let inside := fun c : Char => c ≠ '/' && c ≠ '?'
  match cs with
  | '[' :: rest =>
    match Text.cutAt ']' (rest.takeWhile inside).reverse with
    | some (after, c :: before) =>
      ((c :: before).reverse, after.reverse ++ rest.dropWhile inside)
    | _ => (cs.takeWhile plain, cs.dropWhile plain)
  | _ => (cs.takeWhile plain, cs.dropWhile plain)

def splitPort (cs : List Char) : Option (List Char) × List Char :=
  let isPort := fun c : Char => c ≠ '/' && c ≠ '?'
  match cs with
  | ':' :: rest => (some (rest.takeWhile isPort), rest.dropWhile isPort)
  | _ => (none, cs)

def Url.ofString? (s : String) : Option Url :=
  let cs := s.toList
  match cs.takeWhile isDriverChar, cs.dropWhile isDriverChar with
  | c :: driver, ':' :: '/' :: '/' :: rest =>
    let (user, password, rest) := splitUser rest
    let (host, rest) := splitHost rest
    let (port, rest) := splitPort rest
    let database :=
      match rest with
      | '/' :: path => some (String.ofList (path.takeWhile (· ≠ '?')))
      | _ => none
    some ⟨String.ofList (c :: driver), user, password, host, port, database⟩
  | _, _ => none

/-- The number of the port; a colon needs one behind it. -/
def Url.portNumber (url : Url) : Except Cause Int :=
  match url.port with
  | none => .ok 0
  | some [] => .error .wrongKind
  | some digits => readInteger 10 digits

def fileDrivers : List String := ["sqlite", "sqlite+pysqlite"]

def knownServers : List String := ["postgresql", "mysql", "mariadb", "oracle", "mssql"]

inductive Location where
  | memory
  | file (path : FilePath)
deriving DecidableEq, Repr

def Url.location (url : Url) (port : Int) : Except Cause Location :=
  if !url.user.isEmpty || !url.password.isEmpty || !url.host.isEmpty || port ≠ 0 then
    .error .badDatabaseUrl
  else
    match url.database with
    | none => .ok .memory
    | some name =>
      if name = "" ∨ name = ":memory:" then .ok .memory else .ok (.file (.ofString name))

/-- The place of the database that a text denotes. Only databases in files can be opened. -/
def locate (s : String) : Except Cause Location :=
  match Url.ofString? s with
  | none => .error .badDatabaseUrl
  | some url => do
    let port ← url.portNumber
    if fileDrivers.contains url.driver then url.location port
    else if knownServers.contains (String.ofList (url.driver.toList.takeWhile (· ≠ '+'))) then
      .error (.other "ModuleNotFoundError")
    else .error (.other "NoSuchModuleError")

end Typescribe.Database
