/-!
What can go wrong, by cause. `StorageFault` holds the causes that lie in the storage below the
tables; everything else is a `RoutingError` with a text of its own.
-/
namespace TicketRouting

inductive StorageFault where
  | closed
  | unknownQueue
  | duplicateKey (column : String)
  | sortOrderOverflow
  | cannotOpen
  | readOnly
  | unknownParameter (name : String)
  | unknownSetting (quotedValue name : String)
  /-- Any other failure, in the words of the storage. -/
  | other (description : String)
deriving DecidableEq

def StorageFault.message : StorageFault → String
  | closed => "attempted to acquire a connection on a closed pool"
  | unknownQueue => "error returned from database: (code: 787) FOREIGN KEY constraint failed"
  | duplicateKey column =>
    "error returned from database: (code: 1555) UNIQUE constraint failed: " ++ column
  | sortOrderOverflow =>
    "error occurred while decoding column 0: mismatched types; Rust type `i64` (as SQL type " ++
      "`INTEGER`) is not compatible with SQL type `REAL`"
  | cannotOpen => "error returned from database: (code: 14) unable to open database file"
  | readOnly => "error returned from database: (code: 8) attempt to write a readonly database"
  | unknownParameter name =>
    "error with configuration: unknown query parameter `" ++ name ++
      "` while parsing connection URL"
  | unknownSetting quotedValue name =>
    "error with configuration: unknown value " ++ quotedValue ++ " for `" ++ name ++ "`"
  | other description => description

inductive RoutingError where
  | database (fault : StorageFault)
  | lookupUnavailable (reason : String)
  | notFound (subject : String)
  | invalidInput (reason : String)
  | config (reason : String)
  | internal (reason : String)
deriving DecidableEq

namespace RoutingError

def message : RoutingError → String
  | database fault => "Database error: " ++ fault.message
  | lookupUnavailable reason => "Routing lookup unavailable: " ++ reason
  | notFound subject => "Not found: " ++ subject
  | invalidInput reason => "Invalid input: " ++ reason
  | config reason => "Configuration error: " ++ reason
  | internal reason => "Internal error: " ++ reason

def isUnavailable : RoutingError → Bool
  | database _ => true
  | lookupUnavailable _ => true
  | _ => false

end RoutingError

end TicketRouting
