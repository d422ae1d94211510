import AqlGateway.Remote.Client

/-!
# What the steps of a client do

One statement for each step, with everything that the step changes.

* `decodeLine_poisons` — a line that is no envelope leaves the connection in an unknown state;
* `send_ok`, `send_error`, `Received` — a request line is written, and the answer to it is read;
* `Attempted` — what an attempt comes to, one rule for each of its ends;
* `Client.connect_accept`, `Client.connect_refuse` — a connection is replaced.
-/

namespace AqlGateway.Remote

/-! ### Lines that are no envelopes -/

/-- A line that is no envelope poisons the connection. -/
theorem decodeResponse_poisons {line : String} {e : Error} (h : decodeResponse line = .error e) :
    e.poisonsConnection = true := by
  rw [decodeResponse] at h
  split at h
  · split at h
    · exact absurd h (by simp)
    · rw [← Except.error.inj h]
      rfl
  · rw [← Except.error.inj h]
    rfl

theorem decodeLine_poisons {data : List UInt8} {e : Error} (h : decodeLine data = .error e) :
    e.poisonsConnection = true := by
  rw [decodeLine] at h
  split at h
  · rw [← Except.error.inj h]
    rfl
  · split at h
    · exact decodeResponse_poisons h
    · rw [← Except.error.inj h]
      rfl

theorem envelope_poisons {read : LineRead} {e : Error} (h : read.envelope = .error e) :
    e.poisonsConnection = true := by
  cases read with
  | line data => exact decodeLine_poisons h
  | failure text =>
    rw [← Except.error.inj h]
    rfl

/-! ### Sending and receiving -/

namespace Link

variable {line : String} {stream written : Stream} {link : Link} {text : String}

theorem send_ok (h : stream.write link.now = .ok written) :
    link.send line stream
      = (.ok (), { link with connection := some written, history := link.history ++ [.send line] }) := by
  rw [send, h]
  rfl

/-- A connection that does not take a request is dropped. -/
theorem send_error (h : stream.write link.now = .error text) :
    link.send line stream
      = (.error (.io text),
          { link with connection := none, history := link.history ++ [.failedSend line] }) := by
  rw [send, h]
  rfl

theorem dropIfPoisoned_eq {e : Error} (h : e.poisonsConnection = true) (link : Link) :
    link.dropIfPoisoned e = { link with connection := none } := by
  rw [dropIfPoisoned, if_pos h]

/-- How the reading of an answer ends: with the envelope of a line that was complete in time, or
without a connection. -/
inductive Received (deadline : Nat) (stream : Stream) (link : Link) :
    Except Error Envelope → Link → Prop
  | answered {time now : Nat} {data : List UInt8} {rest : List Arrival} {envelope : Envelope} :
      readLine? [] link.now stream.arrivals = some (time, .line data, rest) → time ≤ deadline →
      decodeLine data = .ok envelope → link.now ≤ now →
      Received deadline stream link (.ok envelope)
        { link with now := now, connection := some { stream with arrivals := rest } }
  | failed {now : Nat} {e : Error} :
      e.poisonsConnection = true → link.now ≤ now →
      Received deadline stream link (.error e) { link with now := now, connection := none }

/-- Reading ends with a line that was complete in time, or without the connection. -/
theorem received_receive (timeout : Duration) (deadline : Nat) (stream : Stream) (link : Link) :
    Received deadline stream link (link.receive timeout deadline stream).1
      (link.receive timeout deadline stream).2 := by
  have hnow := Nat.le_max_left link.now (stream.readTime deadline link.now)
  have timedOut : Received deadline stream link (.error (.timeout timeout))
      (({ link with now := max link.now (stream.readTime deadline link.now) } : Link).dropIfPoisoned
        (.timeout timeout)) := by
    rw [dropIfPoisoned_eq rfl]
    exact .failed rfl hnow
  rw [receive]
  cases hread : readLine? [] link.now stream.arrivals with
  | none => exact timedOut
  | some found =>
    obtain ⟨time, read, rest⟩ := found
    show Received deadline stream link (Prod.fst (ite _ _ _)) (Prod.snd (ite _ _ _))
    by_cases htime : time ≤ deadline
    · rw [if_pos htime]
      cases henvelope : read.envelope with
      | error e =>
        have hpoisons := envelope_poisons henvelope
        show Received deadline stream link (.error e) (Link.dropIfPoisoned e _)
        rw [dropIfPoisoned_eq hpoisons]
        exact .failed hpoisons hnow
      | ok envelope =>
        cases read with
        | line data => exact .answered hread htime henvelope hnow
        | failure text => exact absurd henvelope (by simp [LineRead.envelope])
    · rw [if_neg htime]
      exact timedOut

/-- The shutdown that a new connection begins with, none without a connection. -/
def teardown (link : Link) : List Action :=
  match link.connection with
  | none => []
  | some _ => [.shutdown]

theorem shutdown_eq (link : Link) :
    link.shutdown
      = { link with connection := none, history := link.history ++ link.teardown } := by
  obtain ⟨dialing, dials, now, connection, stats, history⟩ := link
  cases connection with
  | none => rw [teardown, shutdown, List.append_nil]
  | some stream => rfl

variable {replies : List Reply} {address : String} {timeout : Duration}

theorem dial_accept (h : link.dialing link.dials = .accept replies) :
    link.dial address timeout = (.ok (), { link with
      dials := link.dials + 1, connection := some (Stream.fresh replies),
      history := link.history ++ [.dial address timeout] }) := by
  rw [dial]
  simp only [h]
  rfl

theorem dial_refuse (h : link.dialing link.dials = .refuse text) :
    link.dial address timeout = (.error (.connection address text), { link with
      dials := link.dials + 1, connection := none,
      history := link.history ++ [.dial address timeout] }) := by
  rw [dial]
  simp only [h]
  rfl

end Link

/-! ### Attempts -/

/-- How an attempt ends: without a connection, with a request that could not be written, with an
answer that did not come, or with an answer. -/
inductive Attempted (line : String) (link : Link) : Except Error Json → Link → Prop
  | unconnected : link.connection = none →
      Attempted line link (.error .notConnected) link.countAttempt
  | unsent {stream : Stream} {text : String} : link.connection = some stream →
      stream.write link.now = .error text →
      Attempted line link (.error (.io text)) { link.countAttempt with
        connection := none, history := link.history ++ [.failedSend line] }
  | failed {stream written : Stream} {e : Error} {now : Nat} : link.connection = some stream →
      stream.write link.now = .ok written → e.poisonsConnection = true → link.now ≤ now →
      Attempted line link (.error e) { link.countAttempt with
        connection := none, now := now, history := link.history ++ [.send line] }
  | answered {stream written left : Stream} {envelope : Envelope} {now : Nat} :
      link.connection = some stream → stream.write link.now = .ok written → link.now ≤ now →
      Attempted line link envelope.result { link.countAttempt with
        connection := some left, now := now, history := link.history ++ [.send line] }

theorem attempt_unconnected (client : Client) (line : String) {link : Link}
    (h : link.connection = none) :
    client.attempt line link = (.error .notConnected, link.countAttempt) := by
  have hcounted : link.countAttempt.connection = none := h
  rw [Client.attempt]
  show (match link.countAttempt.connection with | none => _ | some stream => _) = _
  rw [hcounted]

theorem attempt_connected (client : Client) (line : String) {link : Link} {stream : Stream}
    (h : link.connection = some stream) :
    client.attempt line link
      = ((client.exchange line stream link.countAttempt).1.bind Envelope.result,
          (client.exchange line stream link.countAttempt).2) := by
  have hcounted : link.countAttempt.connection = some stream := h
  rw [Client.attempt]
  show (match link.countAttempt.connection with | none => _ | some stream => _) = _
  rw [hcounted]
  rfl

theorem attempted_of_received {line : String} {link after : Link} {stream written : Stream}
    {deadline : Nat} {outcome : Except Error Envelope} (hconnection : link.connection = some stream)
    (hwrite : stream.write link.now = .ok written)
    (h : Link.Received deadline written { link.countAttempt with
      connection := some written, history := link.history ++ [.send line] } outcome after) :
    Attempted line link (outcome.bind Envelope.result) after := by
  cases h with
  | failed hpoisons hnow => exact .failed hconnection hwrite hpoisons hnow
  | answered hread htime henvelope hnow => exact .answered hconnection hwrite hnow

/-- An attempt ends in one of the four ways. -/
theorem attempted_attempt (client : Client) (line : String) (link : Link) :
    Attempted line link (client.attempt line link).1 (client.attempt line link).2 := by
  cases hconnection : link.connection with
  | none =>
    rw [attempt_unconnected client line hconnection]
    exact .unconnected hconnection
  | some stream =>
    rw [attempt_connected client line hconnection]
    cases hwrite : stream.write link.now with
    | error text =>
      have hsend : link.countAttempt.send line stream = (.error (.io text), _) :=
        Link.send_error hwrite
      rw [Client.exchange, hsend]
      exact .unsent hconnection hwrite
    | ok written =>
      have hsend : link.countAttempt.send line stream = (.ok (), _) := Link.send_ok hwrite
      rw [Client.exchange, hsend]
      exact attempted_of_received hconnection hwrite (Link.received_receive _ _ _ _)

/-! ### New connections -/

namespace Client

variable {client : Client} {link : Link} {replies : List Reply} {text : String}

/-- What a new connection takes on the network. -/
def replacing (client : Client) (link : Link) : List Action :=
  link.teardown ++ [.dial client.address client.config.dialTimeout]

theorem connect_accept (h : link.dialing link.dials = .accept replies) :
    client.connect link = (.ok (), { link with
      dials := link.dials + 1, connection := some (Stream.fresh replies),
      history := link.history ++ client.replacing link }) := by
  have hdial : link.shutdown.dialing link.shutdown.dials = .accept replies := by
    rw [link.shutdown_eq]
    exact h
  rw [connect, Link.dial_accept hdial, link.shutdown_eq, replacing, List.append_assoc]

theorem connect_refuse (h : link.dialing link.dials = .refuse text) :
    client.connect link = (.error (.connection client.address text), { link with
      dials := link.dials + 1, connection := none,
      history := link.history ++ client.replacing link }) := by
  have hdial : link.shutdown.dialing link.shutdown.dials = .refuse text := by
    rw [link.shutdown_eq]
    exact h
  rw [connect, Link.dial_refuse hdial, link.shutdown_eq, replacing, List.append_assoc]

end Client

end AqlGateway.Remote
