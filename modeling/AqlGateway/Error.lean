import AqlGateway.Aql.Kind
import AqlGateway.Duration

/-!
# Errors

One type holds every cause for which an operation of the library fails.

* `Error.message` — the text shown to a user;
* `Error.root` — the innermost cause, seen through retries, failed drops and context;
* `Error.poisonsConnection` — whether the cause leaves a connection in an unknown state;
* `Error.sources` — the texts of the causes behind an error, outermost first.
-/

namespace AqlGateway

inductive DatabaseFailure
  /-- The server answered with an error of its own. -/
  | refused (code message : String)
  /-- The value of a result column cannot be read. -/
  | columnDecode (index : Nat)
  /-- The address of the database is not well formed. -/
  | configuration (text : String)
  /-- The server cannot be reached, or the exchange with it broke. -/
  | communication (text : String)
  /-- The server's answer breaks the protocol in some other way. -/
  | other (text : String)
  deriving DecidableEq, Repr, Inhabited

namespace DatabaseFailure

def message : DatabaseFailure → String
  | refused _ message => "error returned from database: " ++ message
  | columnDecode index => "error occurred while decoding column " ++ toString index
  | configuration text => "error with configuration: " ++ text
  | communication text => "error communicating with database: " ++ text
  | other text => text

/-- The texts of the causes behind a failure. -/
def sources : DatabaseFailure → List String
  | refused _ message => [message]
  | columnDecode _ => []
  | configuration text => [text]
  | communication text => [text]
  | other _ => []

end DatabaseFailure

inductive Error
  /-- The text begins with no statement keyword. -/
  | unrecognizedStatement (text : String)
  /-- The text has the keyword of a kind but not its shape. -/
  | malformedStatement (kind : Aql.Kind) (text : String)
  | invalidIdentifier (text : String)
  | emptyStatement
  /-- A drop came with a token other than the one that confirms it. -/
  | confirmationMismatch (table : String)
  /-- A drop came without a justification or a requester. -/
  | missingMetadata (field : String)
  /-- The backend failed to carry out a confirmed drop. -/
  | dropFailed (table : String) (source : Error)
  | backend (text : String)
  | database (failure : DatabaseFailure)
  /-- A connection to the engine could not be opened. -/
  | connection (address : String) (reason : String)
  | notConnected
  | connectionClosed
  | io (text : String)
  | timeout (limit : Duration)
  | protocol (text : String)
  /-- A text is not the JSON that is expected in its place. -/
  | parse
  /-- The engine answered that a statement failed. -/
  | engine (text : String)
  | retriesExhausted (attempts : Nat) (source : Error)
  | notFound (entity field value : String)
  | codesExhausted (highest : UInt64)
  | invalidStatus (text : String)
  | context (text : String) (source : Error)
  /-- The settings are not well formed. -/
  | settings
  deriving DecidableEq, Repr, Inhabited

namespace Error

def message : Error → String
  | unrecognizedStatement text => "Unrecognized AQL statement: " ++ text
  | malformedStatement kind text => "Malformed " ++ kind.name ++ " statement: " ++ text
  | invalidIdentifier text => "Invalid identifier '" ++ text ++ "'"
  | emptyStatement => "Empty statement"
  | confirmationMismatch table =>
    "BAKAR LAHAN blocked: confirmation mismatch for table '" ++ table ++ "'"
  | missingMetadata field => "BAKAR LAHAN blocked: missing " ++ field
  | dropFailed table source =>
    "Failed to execute BAKAR LAHAN on '" ++ table ++ "': " ++ source.message
  | backend text => "Backend error: " ++ text
  | database failure => "Database error: " ++ failure.message
  | connection address reason =>
    "Failed to connect to SawitDB at " ++ address ++ ": " ++ reason
  | notConnected => "Not connected to SawitDB"
  | connectionClosed => "Connection closed by SawitDB"
  | io text => "IO error: " ++ text
  | timeout limit => "Timed out after " ++ limit.text
  | protocol text => "Protocol error: " ++ text
  | parse => "Parse error: not the expected JSON"
  | engine text => "Query error: " ++ text
  | retriesExhausted attempts source =>
    "Query failed after " ++ toString attempts ++ " attempts: " ++ source.message
  | notFound entity field value => entity ++ " with " ++ field ++ " " ++ value ++ " not found"
  | codesExhausted highest => "No tree code left after C" ++ toString highest.toNat
  | invalidStatus text => "Invalid tree status '" ++ text ++ "'"
  | context text source => text ++ ": " ++ source.message
  | settings => "Configuration error: the settings are not well formed"

/-- The innermost cause. -/
def root : Error → Error
  | context _ source => source.root
  | retriesExhausted _ source => source.root
  | dropFailed _ source => source.root
  | error => error

/-- Whether the error says that the bytes on a connection can no longer be told apart. -/
def poisonsConnection : Error → Bool
  | io _ | connectionClosed | timeout _ | protocol _ | parse => true
  | _ => false

/-- The texts of the causes behind an error, outermost first. -/
def sources : Error → List String
  | dropFailed _ source => source.message :: source.sources
  | retriesExhausted _ source => source.message :: source.sources
  | context _ source => source.message :: source.sources
  | database failure => failure.message :: failure.sources
  | connection _ text => [text]
  | io text => [text]
  | _ => []

end Error

end AqlGateway
