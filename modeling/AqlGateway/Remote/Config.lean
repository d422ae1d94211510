import AqlGateway.Duration

/-!
# Settings and counters of a client

* `ClientConfig` — time limits and the retry policy;
* `ClientStats` — what a client counts.

The counters are natural numbers. A client that keeps them in words of 64 bits shows the same until one of
them has counted `2^64` events, and then begins again at zero.
-/

namespace AqlGateway.Remote

/-- Time limits and retry policy of a client. -/
structure ClientConfig where
  dialTimeout : Duration := ⟨5000⟩
  /-- The limit for sending one request and reading its answer. -/
  ioTimeout : Duration := ⟨10000⟩
  maxAttempts : Nat := 3
  /-- The pause after a reconnect that failed. -/
  retryBackoff : Duration := ⟨1000⟩
  keepalive : Bool := true
  deriving DecidableEq, Repr, Inhabited

/-- The number of attempts that a query has; it has at least one. -/
def ClientConfig.attemptLimit (config : ClientConfig) : Nat := max 1 config.maxAttempts

/-- Counters since the client was made. -/
structure ClientStats where
  /-- Attempts of queries, retries included. -/
  attempts : Nat := 0
  /-- Reconnects that were begun. -/
  reconnects : Nat := 0
  /-- Queries that failed after every attempt. -/
  failures : Nat := 0
  deriving DecidableEq, Repr, Inhabited

end AqlGateway.Remote
