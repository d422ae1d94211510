import AqlGateway.Remote.Config
import AqlGateway.Remote.Request
import AqlGateway.Remote.Stream
import AqlGateway.Repository.Remote

/-!
# The client of a remote engine

A client keeps one connection, sends one request at a time on it and retries what fails. Every
failed attempt but the last is followed by a reconnect, and a reconnect that fails by a pause. A
failure after which the bytes on the connection can no longer be told apart drops the connection.

* `Dial` — what dialing leads to;
* `Link` — a client's connection and counters, the dials and the clock, and the history of what it did;
* `Client.connect`, `close`, `reconnect`, `query` — the operations;
* `Client.engine` — the client as an engine for a store.
-/

namespace AqlGateway.Remote

/-! ### The network -/

inductive Dial
  | refuse (text : String)
  | accept (replies : List Reply)
  deriving DecidableEq, Repr

/-- What a client does on the network. -/
inductive Action
  | dial (address : String) (timeout : Duration)
  | send (line : String)
  /-- It tries to send a request line, and the connection does not take it. -/
  | failedSend (line : String)
  | shutdown
  /-- It waits before it tries again. -/
  | pause (time : Duration)
  deriving DecidableEq, Repr

/-- A client's side of the network. -/
structure Link where
  /-- The outcome of the n-th dial. -/
  dialing : Nat → Dial
  /-- The number of dials so far. -/
  dials : Nat := 0
  /-- The time in milliseconds. -/
  now : Nat := 0
  connection : Option Stream := none
  stats : ClientStats := {}
  /-- What the client did, in order. -/
  history : List Action := []

namespace Link

/-- The outcomes of dials that are given in a list; further dials fail. -/
def scripted (outcomes : List Dial) (n : Nat) : Dial :=
  (outcomes[n]?).getD (.refuse "no more connections")

def record (action : Action) (link : Link) : Link :=
  { link with history := link.history ++ [action] }

def countAttempt (link : Link) : Link :=
  { link with stats := { link.stats with attempts := link.stats.attempts + 1 } }

def countReconnect (link : Link) : Link :=
  { link with stats := { link.stats with reconnects := link.stats.reconnects + 1 } }

def countFailure (link : Link) : Link :=
  { link with stats := { link.stats with failures := link.stats.failures + 1 } }

/-- Shuts the connection down, if there is one. -/
def shutdown (link : Link) : Link :=
  match link.connection with
  | none => link
  | some _ => { link with connection := none }.record .shutdown

/-- Dials and installs the new connection. -/
def dial (address : String) (timeout : Duration) (link : Link) : Except Error Unit × Link :=
  let dialed := { link with dials := link.dials + 1 }.record (.dial address timeout)
  match link.dialing link.dials with
  | .accept replies => (.ok (), { dialed with connection := some (Stream.fresh replies) })
  | .refuse text => (.error (.connection address text), { dialed with connection := none })

/-- Drops the connection if an error leaves it in an unknown state. -/
def dropIfPoisoned (e : Error) (link : Link) : Link :=
  if e.poisonsConnection then { link with connection := none } else link

def send (line : String) (stream : Stream) (link : Link) : Except Error Unit × Link :=
  match stream.write link.now with
  | .error text => (.error (.io text), link.record (.failedSend line) |>.dropIfPoisoned (.io text))
  | .ok written => (.ok (), { link with connection := some written }.record (.send line))

/-- Reads the answer to the request that was sent, until `deadline`. -/
def receive (timeout : Duration) (deadline : Nat) (stream : Stream) (link : Link) :
    Except Error Envelope × Link :=
  let waited := { link with now := max link.now (stream.readTime deadline link.now) }
  match readLine? [] link.now stream.arrivals with
  | some (time, read, rest) =>
    if time ≤ deadline then
      match read.envelope with
      | .ok envelope =>
        (.ok envelope, { waited with connection := some { stream with arrivals := rest } })
      | .error e =>
        (.error e, { waited with connection := some { stream with arrivals := rest } }
          |>.dropIfPoisoned e)
    else (.error (.timeout timeout), waited.dropIfPoisoned (.timeout timeout))
  | none => (.error (.timeout timeout), waited.dropIfPoisoned (.timeout timeout))

end Link

/-! ### Operations -/

/-- A client: the address of the engine and the policy. -/
structure Client where
  address : String
  config : ClientConfig
  deriving DecidableEq, Repr

abbrev LinkM (α : Type) := StateM Link (Except Error α)

namespace Client

variable (client : Client)

/-- Opens a connection in place of the one there is. -/
def connect : LinkM Unit := fun link =>
  link.shutdown.dial client.address client.config.dialTimeout

def close : StateM Link Unit := modify Link.shutdown

/-- Opens a connection in place of the one there is, and counts it. -/
def reconnect : LinkM Unit := fun link => client.connect link.countReconnect

/-- Sends one request line and reads its answer. -/
def exchange (line : String) (stream : Stream) : LinkM Envelope := fun link =>
  let deadline := link.now + client.config.ioTimeout.milliseconds
  match link.send line stream with
  | (.error e, link) => (.error e, link)
  | (.ok (), link) =>
    match link.connection with
    | some written => link.receive client.config.ioTimeout deadline written
    | none => (.error .notConnected, link)

def attempt (line : String) : LinkM Json := fun link =>
  let link := link.countAttempt
  match link.connection with
  | none => (.error .notConnected, link)
  | some stream =>
    let (outcome, link) := client.exchange line stream link
    (outcome.bind Envelope.result, link)

/-- Gets ready for another attempt: reconnects, and pauses when that fails. -/
def recover : StateM Link Unit := fun link =>
  match client.reconnect link with
  | (.ok (), link) => ((), link)
  | (.error _, link) =>
    ((), { link with now := link.now + client.config.retryBackoff.milliseconds }
      |>.record (.pause client.config.retryBackoff))

/-- Attempts of a query until one succeeds, with `retries` more behind the first. -/
def attempts (line : String) : (retries : Nat) → LinkM Json
  | 0 => fun link =>
    match client.attempt line link with
    | (.ok data, link) => (.ok data, link)
    | (.error e, link) =>
      (.error (.retriesExhausted client.config.attemptLimit e), link.countFailure)
  | retries + 1 => fun link =>
    match client.attempt line link with
    | (.ok data, link) => (.ok data, link)
    | (.error _, link) => attempts line retries (client.recover link).2

/-- Sends a statement; the payload of a success. -/
def query (statement : String) : LinkM Json :=
  match encodeRequest statement with
  | .error e => fun link => (.error e, link)
  | .ok line => client.attempts line (client.config.attemptLimit - 1)

def engine : Engine Link := ⟨client.query⟩

end Client

end AqlGateway.Remote
