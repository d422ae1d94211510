import AqlGateway.Proofs.Remote.Calls
import AqlGateway.Proofs.Remote.Retry

/-!
# The connection behind every call

Calls are made one after another. What a call comes to says whether the client has a connection behind
it.

* `comesFromEngine` — whether a result is a payload or an error of the engine's own;
* `Attempted.isSome_connection` — an attempt keeps its connection exactly when its outcome is one;
* `Client.perform`, `Client.performAll` — a call, and calls that are made in turn;
* `Settled`, `settled_perform` — what a call says about the connection behind it;
* `connection_behind_calls` — so it is with each call of a run.
-/

namespace AqlGateway.Remote

open Text

/-! ### Attempts -/

/-- Whether a result comes from the engine: a payload, or an error of the engine's own. -/
def comesFromEngine : Except Error Json → Bool
  | .ok _ => true
  | .error e => match e.root with
    | .engine _ => true
    | _ => false

/-- An error after which the bytes on a connection cannot be told apart is no answer of the
engine. -/
theorem comesFromEngine_of_poisons {e : Error} (h : e.poisonsConnection = true) :
    comesFromEngine (.error e) = false := by
  cases e with
  | io _ | connectionClosed | timeout _ | protocol _ | parse => rfl
  | _ => exact absurd h (by simp [Error.poisonsConnection])

theorem comesFromEngine_result (envelope : Envelope) : comesFromEngine envelope.result = true := by
  rw [Envelope.result]
  split <;> rfl

/-- An attempt keeps its connection when the engine has answered, and only then. -/
theorem Attempted.isSome_connection {line : String} {link after : Link}
    {outcome : Except Error Json} (h : Attempted line link outcome after) :
    after.connection.isSome = comesFromEngine outcome := by
  cases h with
  | unconnected hnone =>
    show link.connection.isSome = false
    rw [hnone]
    rfl
  | unsent hsome hwrite => rfl
  | failed hsome hwrite hpoisons hnow => exact (comesFromEngine_of_poisons hpoisons).symm
  | answered hsome hwrite hnow => exact (comesFromEngine_result _).symm

/-! ### Calls -/

/-- A call that was made, between the links in front of it and behind it. -/
structure Performed where
  before : Link
  call : Call
  result : Except Error Json
  after : Link

namespace Client

def perform (client : Client) (call : Call) : LinkM Json := fun link =>
  match call with
  | .query statement => client.query statement link
  | .connect => ((client.connect link).map Pool.unitResult id)
  | .reconnect => ((client.reconnect link).map Pool.unitResult id)
  | .close => (.ok .null, (close.run link).2)

def performAll (client : Client) : List Call → Link → List Performed
  | [], _ => []
  | call :: calls, link =>
    let (result, after) := client.perform call link
    ⟨link, call, result, after⟩ :: performAll client calls after

variable (client : Client) (link : Link)

/-- A client is connected behind a connect or a reconnect exactly when that succeeds; a dial that fails
leaves no earlier connection behind. -/
theorem isSome_connect : (client.connect link).2.connection.isSome = (client.connect link).1.isOk := by
  cases hdial : link.dialing link.dials with
  | accept replies =>
    rw [connect_accept hdial]
    rfl
  | refuse text =>
    rw [connect_refuse hdial]
    rfl

end Client

theorem Pool.isOk_unitResult (result : Except Error Unit) :
    (Pool.unitResult result).isOk = result.isOk := by
  cases result <;> rfl

/-! ### What a call says -/

/-- What a query that writes a request line leaves. -/
structure QuerySettled (client : Client) (line : String) (before : Link)
    (result : Except Error Json) (after : Link) : Prop where
  /-- The client is connected when the engine has given the result, and only then. -/
  connected : after.connection.isSome = comesFromEngine result
  /-- The connection is what the last attempt has left of it. -/
  kept : ∃ n < client.config.attemptLimit,
    after.connection = (client.behind line before n).connection ∧
      comesFromEngine result = comesFromEngine (client.outcome line before n)
  /-- An attempt to which the engine gives no answer drops its connection, and no other does. -/
  attempts : ∀ k, (client.behind line before k).connection.isSome
    = comesFromEngine (client.outcome line before k)

/-- What the result of a call says about the connection behind it. A blank query leaves the connection
and the counters as they were. -/
def Settled (client : Client) (before : Link) (call : Call) (result : Except Error Json)
    (after : Link) : Prop :=
  match call with
  | .connect | .reconnect => after.connection.isSome = result.isOk
  | .close => after.connection = none
  | .query statement =>
    if trim statement.toList = [] then result = .error .emptyStatement ∧ after = before
    else ∃ line, encodeRequest statement = .ok line ∧ QuerySettled client line before result after

/-- The loop leaves what its last attempt leaves, and fails for the same root. -/
theorem attempts_last_attempt (client : Client) (line : String) (link : Link) :
    ∃ n < client.config.attemptLimit,
      (client.attempts line (client.config.attemptLimit - 1) link).2.connection
          = (client.behind line link n).connection ∧
        comesFromEngine (client.attempts line (client.config.attemptLimit - 1) link).1
          = comesFromEngine (client.outcome line link n) := by
  have hlimit : 1 ≤ client.config.attemptLimit := Nat.le_max_left 1 _
  obtain ⟨n, hn, -, hend⟩ := client.attempts_eq line link (client.config.attemptLimit - 1)
  refine ⟨n, by omega, ?_⟩
  rcases hend with ⟨data, hdata, hloop⟩ | ⟨-, e, he, hloop⟩
  · rw [hloop, hdata]
    exact ⟨rfl, rfl⟩
  · rw [hloop, he]
    exact ⟨rfl, rfl⟩

/-- The attempts of a query settle the connection one way or the other. -/
theorem querySettled_attempts (client : Client) (line : String) (link : Link) :
    QuerySettled client line link (client.attempts line (client.config.attemptLimit - 1) link).1
      (client.attempts line (client.config.attemptLimit - 1) link).2 := by
  have hattempts : ∀ k, (client.behind line link k).connection.isSome
      = comesFromEngine (client.outcome line link k) := fun k =>
    (client.attempted line link k).isSome_connection
  obtain ⟨n, hn, hkept, hsame⟩ := attempts_last_attempt client line link
  refine ⟨?_, ⟨n, hn, hkept, hsame⟩, hattempts⟩
  rw [hkept, hsame]
  exact hattempts n

/-- Each call leaves the connection as its result says. -/
theorem settled_perform (client : Client) (call : Call) (link : Link) :
    Settled client link call (client.perform call link).1 (client.perform call link).2 := by
  cases call with
  | connect => exact (client.isSome_connect link).trans (Pool.isOk_unitResult _).symm
  | reconnect =>
    exact (client.isSome_connect link.countReconnect).trans (Pool.isOk_unitResult _).symm
  | close =>
    show link.shutdown.connection = none
    rw [link.shutdown_eq]
  | query statement =>
    show ite _ _ _
    split
    · next hblank =>
      show (client.query statement link).1 = _ ∧ (client.query statement link).2 = _
      rw [Client.query, encodeRequest_of_blank hblank]
      exact ⟨rfl, rfl⟩
    · next hstatement =>
      have hline := encodeRequest_of_not_blank hstatement
      refine ⟨_, hline, ?_⟩
      show QuerySettled client _ link (client.query statement link).1 (client.query statement link).2
      rw [Client.query, hline]
      exact querySettled_attempts client _ link

theorem Settled.query {client : Client} {before after : Link} {statement : String}
    {result : Except Error Json} (h : Settled client before (.query statement) result after)
    (hstatement : trim statement.toList ≠ []) :
    ∃ line, encodeRequest statement = .ok line ∧ QuerySettled client line before result after := by
  have hcases : ite _ _ _ := h
  rwa [if_neg hstatement] at hcases

/-- Behind each of the calls that are made one after another, the client has a connection as the result
of the call says. -/
theorem connection_behind_calls (client : Client) (calls : List Call) (link : Link) :
    ∀ p ∈ client.performAll calls link, Settled client p.before p.call p.result p.after := by
  induction calls generalizing link with
  | nil => exact fun p hp => absurd hp List.not_mem_nil
  | cons call calls ih =>
    intro p hp
    rcases List.mem_cons.mp hp with rfl | hp
    · exact settled_perform client call link
    · exact ih _ p hp

/-- Behind a blank query, one whose first attempt gets no answer and whose last attempt gets the answer
that the engine has failed. -/
theorem connection_behind_calls_last_attempt :
    let client : Client := ⟨"sawit", { maxAttempts := 2 }⟩
    let link : Link := {
      dialing := Link.scripted [.accept [.silent], .accept [.fail 0 "disk full"]] }
    let calls : List Call := [.connect, .query " ", .query "LIHAT LAHAN", .reconnect]
    ∃ p ∈ client.performAll calls link, p.call = .query "LIHAT LAHAN" ∧
      p.before.connection.isSome = true ∧ p.after.stats = ⟨2, 1, 1⟩ ∧
      comesFromEngine p.result = true ∧ p.after.connection.isSome = true := by
  intro client link calls
  have hthird : ((client.performAll calls link)[2]?).map (fun p =>
        (p.call, p.before.connection.isSome, p.after.stats, comesFromEngine p.result))
      = some (.query "LIHAT LAHAN", true, ⟨2, 1, 1⟩, true) := by decide +kernel
  obtain ⟨p, hp, hseen⟩ := Option.map_eq_some_iff.mp hthird
  simp only [Prod.mk.injEq] at hseen
  obtain ⟨hcall, hbefore, hstats, hengine⟩ := hseen
  have hmem : p ∈ client.performAll calls link := List.mem_of_getElem? hp
  have hsettled := connection_behind_calls client calls link p hmem
  rw [hcall] at hsettled
  obtain ⟨line, -, hquery⟩ := hsettled.query (by decide)
  exact ⟨p, hmem, hcall, hbefore, hstats, hengine, hquery.connected.trans hengine⟩

end AqlGateway.Remote
