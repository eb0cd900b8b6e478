import TicketRouting.Config.Settings
import TicketRouting.Routing.Decision
import TicketRouting.RoutingError
import TicketRouting.Store.Mailboxes
import TicketRouting.Store.Rules
import TicketRouting.Text.Basic
import TicketRouting.Unicode.Current
/-!
A database that can be opened and closed. While it is closed, everything asked of it fails. Where it
lies is said by its address: `sqlite://` or `sqlite:`, a file name or `:memory:`, and parameters
behind a question mark.
-/
namespace TicketRouting.Store

structure Location where
  fileName : String
  inMemory : Bool
  readOnly : Bool := false
  immutable : Bool := false
deriving DecidableEq

namespace Location

def dropMarks (mark : List Char) : Nat → List Char → List Char
  | 0, text => text
  | fuel + 1, text =>
    if mark.isPrefixOf text then dropMarks mark fuel (text.drop mark.length) else text

def cutAtFirst (mark : Char) (text : List Char) : List Char × Option (List Char) :=
  let before := text.takeWhile (· != mark)
  match text.drop before.length with
  | [] => (before, none)
  | _ :: after => (before, some after)

/-- The bytes of a text in which plus signs stand for spaces and `%` goes before two hexadecimal
digits. -/
def decodedBytes : List Char → List UInt8
  | [] => []
  | '%' :: a :: b :: rest =>
    match Text.hexValue? [a, b] with
    | some value => UInt8.ofNat value :: decodedBytes rest
    | none => ('%'.toString.toUTF8.toList) ++ decodedBytes (a :: b :: rest)
  | c :: rest => ((if c == '+' then ' ' else c).toString.toUTF8.toList) ++ decodedBytes rest

def decoded (text : List Char) : String :=
  (String.fromUTF8? (decodedBytes text).toByteArray).getD (String.ofList text)

def parameters (text : List Char) : List (String × String) :=
  let parts := text.foldr (fun c (current, later) =>
    if c == '&' then ([], current :: later) else (c :: current, later)) ([], [])
  ((parts.1 :: parts.2).filter fun part => !part.isEmpty).map fun part =>
    let (name, value) := cutAtFirst '=' part
    (decoded name, decoded (value.getD []))

def setParameter (location : Location) (name value : String) : Except StorageFault Location :=
  match name, value with
  | "mode", "ro" => .ok { location with readOnly := true }
  | "mode", "rw" => .ok location
  | "mode", "rwc" => .ok location
  | "mode", "memory" => .ok { location with inMemory := true }
  | "cache", "private" => .ok location
  | "cache", "shared" => .ok location
  | "immutable", "true" => .ok { location with immutable := true }
  | "immutable", "1" => .ok { location with immutable := true }
  | "immutable", "false" => .ok { location with immutable := false }
  | "immutable", "0" => .ok { location with immutable := false }
  | "vfs", _ => .ok location
  | _, _ =>
    if ["mode", "cache", "immutable"].contains name then
      .error (.unknownSetting (Text.quoted value) name)
    else .error (.unknownParameter name)

def parse (url : String) : Except StorageFault Location :=
  let text := url.toList
  let text := dropMarks "sqlite://".toList text.length text
  let text := dropMarks "sqlite:".toList text.length text
  let (name, rest) := cutAtFirst '?' text
  let fileName := String.ofList name
  let plain : Location := ⟨fileName, fileName == ":memory:", false, false⟩
  (parameters (rest.getD [])).foldlM (fun location (name, value) => location.setParameter name value)
    plain

def keepsRows (location : Location) : Bool := !location.inMemory && location.fileName != ""

/-- Why a database that does not exist as yet cannot be made at the location; `hasDirectory` says of a
file name whether the directory for it exists. -/
def fault? (hasDirectory : String → Bool) (location : Location) : Option StorageFault :=
  if location.keepsRows && (location.readOnly || !hasDirectory location.fileName) then
    some .cannotOpen
  else if location.readOnly || location.immutable then some .readOnly
  else none

end Location

structure Connection where
  location : Location
  tables : Tables := {}
  isOpen : Bool := true

namespace Connection

def openAt (hasDirectory : String → Bool) (url : String) : Except RoutingError Connection :=
  match Location.parse url with
  | .error fault => .error (.database fault)
  | .ok location =>
    match location.fault? hasDirectory with
    | some fault => .error (.database fault)
    | none => .ok { location := location }

def inMemory : Connection := { location := ⟨":memory:", true, false, false⟩ }

def close (connection : Connection) : Connection := { connection with isOpen := false }

/-- The database closed and opened again; rows that lay in memory are gone. -/
def reopen (connection : Connection) : Connection :=
  { connection with
    tables := if connection.location.keepsRows then connection.tables else {}
    isOpen := true }

def query {α : Type} (read : Tables → Except RoutingError α) (connection : Connection) :
    Except RoutingError α :=
  if connection.isOpen then read connection.tables else .error (.database .closed)

def perform {α : Type} (action : Action α) (connection : Connection) :
    Except RoutingError α × Connection :=
  if connection.isOpen then
    let (answer, tables) := action.perform connection.tables
    (answer, { connection with tables := tables })
  else (.error (.database .closed), connection)

def isHealthy (connection : Connection) : Bool := connection.isOpen

/-- The reason why the storage does not answer is all that a decision is told of it. -/
def asLookupFault : RoutingError → RoutingError
  | .database fault => .lookupUnavailable fault.message
  | other => other

def lookup (connection : Connection) : Lookup where
  listRules company :=
    (connection.query fun tables => .ok (tables.activeRules company)).mapError asLookupFault
  findDefaultQueue company :=
    (connection.query fun tables => .ok (tables.defaultQueue? company)).mapError asLookupFault

def mailboxSource (stamp : Instant) : MailboxSource Connection where
  list connection := connection.query (Store.mailboxSource stamp).list
  recordPoll id polledAt connection :=
    match connection.perform (markPolled id polledAt stamp) with
    | (.ok (), changed) => .ok changed
    | (.error fault, _) => .error fault

end Connection

end TicketRouting.Store
