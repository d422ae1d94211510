import AqlGateway.Remote.Config
import AqlGateway.Settings.Environment

/-!
# Settings

Settings come in three groups: the remote engine, the relational database and the log. Each of
them has a standard value but the address of the database, and what is no setting is passed over.

* `Settings` — everything that can be set;
* `Settings.ofEntry?` — the settings in a table;
* `RemoteSettings.address` — where the remote engine listens.
-/

namespace AqlGateway

/-- How the remote engine is reached. -/
structure RemoteSettings where
  host : String := "127.0.0.1"
  port : Nat := 7878
  client : Remote.ClientConfig := {}
  deriving DecidableEq, Repr, Inhabited

def RemoteSettings.address (settings : RemoteSettings) : String :=
  settings.host ++ ":" ++ toString settings.port

/-- How the relational database is reached, and how statements for it are translated. -/
structure DatabaseSettings where
  url : Option String := none
  maxConnections : Nat := 5
  mode : Aql.Mode := .standard
  deriving DecidableEq, Repr, Inhabited

structure Settings where
  remote : RemoteSettings := {}
  database : DatabaseSettings := {}
  logFilter : String := "info"
  deriving DecidableEq, Repr, Inhabited

namespace Settings

/-! ### Reading groups -/

/-- A setting, or its standard value when it is missing. -/
def setting {α : Type} (convert : Entry → Option α) (standard : α) : Option Entry → Option α
  | none => some standard
  | some entry => convert entry

/-- A setting that may be left open. -/
def optional {α : Type} (convert : Entry → Option α) : Option Entry → Option (Option α)
  | none => some none
  | some .nothing => some none
  | some entry => (convert entry).map some

def milliseconds? (entry : Entry) : Option Duration := (entry.asUnsigned? UInt64.size).map Duration.mk

def remoteNames : List String :=
  ["host", "port", "dial_timeout_ms", "io_timeout_ms", "max_attempts", "retry_backoff_ms",
    "keepalive"]

def databaseNames : List String := ["url", "max_connections", "translation"]

def remoteOf? (group : Entry) : Option RemoteSettings := do
  let standard : RemoteSettings := {}
  match ← group.fields? remoteNames 0 with
  | [host, port, dialTimeout, ioTimeout, maxAttempts, retryBackoff, keepalive] =>
    let host ← setting Entry.asText? standard.host host
    let port ← setting (Entry.asUnsigned? UInt16.size) standard.port port
    let dialTimeout ← setting milliseconds? standard.client.dialTimeout dialTimeout
    let ioTimeout ← setting milliseconds? standard.client.ioTimeout ioTimeout
    let maxAttempts ← setting (Entry.asUnsigned? UInt32.size) standard.client.maxAttempts maxAttempts
    let retryBackoff ← setting milliseconds? standard.client.retryBackoff retryBackoff
    let keepalive ← setting Entry.asBoolean? standard.client.keepalive keepalive
    pure ⟨host, port, ⟨dialTimeout, ioTimeout, maxAttempts, retryBackoff, keepalive⟩⟩
  | _ => none

def databaseOf? (group : Entry) : Option DatabaseSettings := do
  let standard : DatabaseSettings := {}
  match ← group.fields? databaseNames 1 with
  | [url, maxConnections, mode] =>
    let url ← optional Entry.asText? url
    let maxConnections ← setting (Entry.asUnsigned? UInt32.size) standard.maxConnections maxConnections
    let mode ← setting Entry.asMode? standard.mode mode
    pure ⟨url, maxConnections, mode⟩
  | _ => none

def logFilterOf? (group : Entry) : Option String := do
  match ← group.fields? ["filter"] 0 with
  | [filter] => setting Entry.asText? ({} : Settings).logFilter filter
  | _ => none

/-- The names of the variables that settings are read from. -/
def variableNames : List String :=
  (remoteNames.map ("remote__" ++ ·) ++ databaseNames.map ("database__" ++ ·) ++ ["log__filter"]).map
    fun name => String.ofList ((Environment.lead ++ name).toList.map Char.toUpper)

/-- What a program says when the settings are not well formed. -/
def unsettled : String := "failed to load settings"

def ofEntry? (root : Entry) : Option Settings := do
  let standard : Settings := {}
  match ← root.fields? ["remote", "database", "log"] 0 with
  | [remote, database, log] =>
    let remote ← setting remoteOf? standard.remote remote
    let database ← setting databaseOf? standard.database database
    let logFilter ← setting logFilterOf? standard.logFilter log
    pure ⟨remote, database, logFilter⟩
  | _ => none

end Settings

end AqlGateway
