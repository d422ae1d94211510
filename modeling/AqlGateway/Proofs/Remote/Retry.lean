import AqlGateway.Proofs.Remote.Exchange
import AqlGateway.Proofs.Remote.Request

/-!
# Attempts and reconnects of a query

A query makes attempts, numbered from 0, with a reconnect between any two of them.

* `Client.before`, `Client.outcome`, `Client.behind` — the link in front of an attempt, what the attempt
  comes to, and the link behind it;
* `Attempted.history_eq`, `Recovered` — what one attempt and one reconnect add;
* `Client.actions` — what the attempts up to a given one do on the network, with the reconnects
  between them;
* `Client.attempts_eq` — the loop stops at the first success or at the limit;
* `QueryRun`, `query_accounted` — the counters, the result and the history of a query.
-/

namespace AqlGateway.Remote

def Dial.isRefusal : Dial → Bool
  | .refuse _ => true
  | .accept _ => false

/-- Whether an action writes on a connection. -/
def Action.isWrite : Action → Bool
  | .send _ => true
  | .failedSend _ => true
  | _ => false

/-- The writing of an attempt, none without a connection. -/
def Link.writes (line : String) (link : Link) : List Action :=
  match link.connection with
  | none => []
  | some stream => match stream.write link.now with
    | .ok _ => [.send line]
    | .error _ => [.failedSend line]

/-! ### One attempt -/

section Attempts

variable {line : String} {link after : Link} {outcome : Except Error Json} {e : Error}
  {stream written : Stream} {text : String}

theorem Link.writes_of_ok (hsome : link.connection = some stream)
    (hwrite : stream.write link.now = .ok written) : link.writes line = [.send line] := by
  rw [Link.writes, hsome]
  simp only [hwrite]

theorem Link.writes_of_error (hsome : link.connection = some stream)
    (hwrite : stream.write link.now = .error text) : link.writes line = [.failedSend line] := by
  rw [Link.writes, hsome]
  simp only [hwrite]

theorem Attempted.stats_eq (h : Attempted line link outcome after) :
    after.stats = link.countAttempt.stats := by
  cases h <;> rfl

theorem Attempted.dials_eq (h : Attempted line link outcome after) : after.dials = link.dials := by
  cases h <;> rfl

theorem Attempted.dialing_eq (h : Attempted line link outcome after) :
    after.dialing = link.dialing := by
  cases h <;> rfl

/-- An attempt writes once, or not at all without a connection. -/
theorem Attempted.history_eq (h : Attempted line link outcome after) :
    after.history = link.history ++ link.writes line := by
  cases h with
  | unconnected hnone =>
    rw [Link.writes, hnone, List.append_nil]
    rfl
  | unsent hsome hwrite => rw [Link.writes_of_error hsome hwrite]
  | failed hsome hwrite => rw [Link.writes_of_ok hsome hwrite]
  | answered hsome hwrite => rw [Link.writes_of_ok hsome hwrite]

/-- An attempt fails for want of a connection, for a reason that drops the connection, or because the
engine says so. It does not dial. -/
theorem Attempted.cause (h : Attempted line link (.error e) after) (address reason : String) :
    e ≠ .connection address reason := by
  intro he
  generalize hresult : Except.error e = result at h
  cases h with
  | unconnected hnone => exact absurd (he ▸ Except.error.inj hresult) (by simp)
  | unsent hsome hwrite => exact absurd (he ▸ Except.error.inj hresult) (by simp)
  | failed hsome hwrite hpoisons =>
    rw [← Except.error.inj hresult, he] at hpoisons
    exact absurd hpoisons (by simp [Error.poisonsConnection])
  | answered hsome hwrite =>
    rw [Envelope.result] at hresult
    split at hresult
    · exact absurd hresult (by simp)
    · exact absurd (he ▸ Except.error.inj hresult) (by simp)

end Attempts

/-! ### One reconnect -/

namespace Client

/-- What a reconnect between two attempts does on the network. -/
def recovering (client : Client) (link : Link) : List Action :=
  client.replacing link
    ++ if (link.dialing link.dials).isRefusal then [.pause client.config.retryBackoff] else []

/-- A reconnect between two attempts is counted, and a failed one is followed by a pause. -/
structure Recovered (client : Client) (link after : Link) : Prop where
  stats : after.stats = link.countReconnect.stats
  dials : after.dials = link.dials + 1
  dialing : after.dialing = link.dialing
  connection : after.connection = none ↔ (link.dialing link.dials).isRefusal = true
  now : after.now = link.now
    + if (link.dialing link.dials).isRefusal then client.config.retryBackoff.milliseconds else 0
  history : after.history = link.history ++ client.recovering link

/-- Between two attempts there is one reconnect, and a pause if it failed. -/
theorem recovered_recover (client : Client) (link : Link) :
    Recovered client link (client.recover link).2 := by
  cases hdial : link.dialing link.dials with
  | accept replies =>
    have hconnect : client.reconnect link = (.ok (), _) :=
      connect_accept (show link.countReconnect.dialing link.countReconnect.dials = _ from hdial)
    rw [recover, hconnect]
    refine ⟨rfl, rfl, rfl, ?_, ?_, ?_⟩
    · simp [hdial, Dial.isRefusal]
    · simp only [hdial, Dial.isRefusal]
      rfl
    · have hnone : client.recovering link = client.replacing link := by
        rw [recovering, hdial]
        exact List.append_nil _
      rw [hnone]
      rfl
  | refuse text =>
    have hconnect : client.reconnect link = (.error (.connection client.address text), _) :=
      connect_refuse (show link.countReconnect.dialing link.countReconnect.dials = _ from hdial)
    rw [recover, hconnect]
    refine ⟨rfl, rfl, rfl, ?_, ?_, ?_⟩
    · simp [hdial, Dial.isRefusal, Link.record]
    · simp only [hdial, Dial.isRefusal]
      rfl
    · simp only [recovering, hdial, Dial.isRefusal, ← List.append_assoc]
      rfl

/-! ### The attempts of a query -/

variable (client : Client) (line : String) (link : Link)

/-- The link in front of attempt `k`, when the attempts before it have failed. -/
def before : Nat → Link
  | 0 => link
  | k + 1 => (client.recover (client.attempt line (before k)).2).2

def outcome (k : Nat) : Except Error Json := (client.attempt line (client.before line link k)).1

/-- The link behind attempt `k`. -/
def behind (k : Nat) : Link := (client.attempt line (client.before line link k)).2

/-- What the attempts before attempt `k` and the reconnects behind them do on the network. -/
def earlier : Nat → List Action
  | 0 => []
  | k + 1 => earlier k ++ ((client.before line link k).writes line
      ++ client.recovering (client.behind line link k))

/-- What the attempts up to attempt `n` and the reconnects between them do on the network. -/
def actions (n : Nat) : List Action :=
  client.earlier line link n ++ (client.before line link n).writes line

theorem attempted (k : Nat) :
    Attempted line (client.before line link k) (client.outcome line link k)
      (client.behind line link k) :=
  attempted_attempt client line _

theorem recovered (k : Nat) :
    Recovered client (client.behind line link k) (client.before line link (k + 1)) :=
  recovered_recover client _

theorem before_dialing (k : Nat) : (client.before line link k).dialing = link.dialing := by
  induction k with
  | zero => rfl
  | succ k ih =>
    rw [(client.recovered line link k).dialing, (client.attempted line link k).dialing_eq, ih]

/-- Each failed attempt costs one dial. -/
theorem before_dials (k : Nat) : (client.before line link k).dials = link.dials + k := by
  induction k with
  | zero => rfl
  | succ k ih =>
    rw [(client.recovered line link k).dials, (client.attempted line link k).dials_eq, ih]
    rfl

/-- The dial behind attempt `k` is number `k` of the dials to come. -/
theorem dial_behind (k : Nat) :
    (client.behind line link k).dialing (client.behind line link k).dials
      = link.dialing (link.dials + k) := by
  rw [(client.attempted line link k).dialing_eq, (client.attempted line link k).dials_eq,
    client.before_dialing, client.before_dials]

/-- In front of attempt `k`, as many attempts and reconnects have been counted. -/
theorem before_stats (k : Nat) :
    (client.before line link k).stats
      = ⟨link.stats.attempts + k, link.stats.reconnects + k, link.stats.failures⟩ := by
  induction k with
  | zero => rfl
  | succ k ih =>
    rw [(client.recovered line link k).stats, Link.countReconnect]
    simp only [(client.attempted line link k).stats_eq, Link.countAttempt, ih]
    rfl

theorem behind_stats (k : Nat) :
    (client.behind line link k).stats
      = ⟨link.stats.attempts + (k + 1), link.stats.reconnects + k, link.stats.failures⟩ := by
  rw [(client.attempted line link k).stats_eq, Link.countAttempt]
  simp only [before_stats]
  rfl

theorem before_history (k : Nat) :
    (client.before line link k).history = link.history ++ client.earlier line link k := by
  induction k with
  | zero => exact (List.append_nil link.history).symm
  | succ k ih =>
    rw [(client.recovered line link k).history, (client.attempted line link k).history_eq, ih,
      earlier, List.append_assoc, List.append_assoc]

/-- The history behind an attempt lists the attempts and reconnects so far in order. -/
theorem behind_history (n : Nat) :
    (client.behind line link n).history = link.history ++ client.actions line link n := by
  rw [(client.attempted line link n).history_eq, before_history, actions, List.append_assoc]

/-! ### The loop -/

/-- The attempts behind the first one are those of a query that begins after it. -/
theorem before_succ (k : Nat) :
    client.before line (client.before line link 1) k = client.before line link (k + 1) := by
  induction k with
  | zero => rfl
  | succ k ih =>
    show (client.recover (client.attempt line _).2).2 = (client.recover (client.attempt line _).2).2
    rw [ih]

theorem attempts_ok {after : Link} {data : Json} (h : client.attempt line link = (.ok data, after))
    (retries : Nat) : client.attempts line retries link = (.ok data, after) := by
  cases retries <;> simp only [attempts, h]

theorem attempts_last {after : Link} {e : Error} (h : client.attempt line link = (.error e, after)) :
    client.attempts line 0 link
      = (.error (.retriesExhausted client.config.attemptLimit e), after.countFailure) := by
  simp only [attempts, h]

/-- A failed attempt with more to come is followed by a reconnect. -/
theorem attempts_again {after : Link} {e : Error} (h : client.attempt line link = (.error e, after))
    (retries : Nat) :
    client.attempts line (retries + 1) link
      = client.attempts line retries (client.recover after).2 := by
  simp only [attempts, h]

/-- The attempts end at the first success, or at the last attempt that is left. -/
theorem attempts_eq (retries : Nat) :
    ∃ n, n ≤ retries ∧ (∀ k < n, ∃ e, client.outcome line link k = .error e) ∧
      ((∃ data, client.outcome line link n = .ok data ∧
          client.attempts line retries link = (.ok data, client.behind line link n)) ∨
        (n = retries ∧ ∃ e, client.outcome line link n = .error e ∧
          client.attempts line retries link
            = (.error (.retriesExhausted client.config.attemptLimit e),
                (client.behind line link n).countFailure))) := by
  induction retries generalizing link with
  | zero =>
    refine ⟨0, Nat.le_refl 0, fun k hk => absurd hk (Nat.not_lt_zero k), ?_⟩
    cases hfirst : client.outcome line link 0 with
    | ok data =>
      have hattempt : client.attempt line link = (.ok data, client.behind line link 0) :=
        Prod.ext hfirst rfl
      exact .inl ⟨data, rfl, client.attempts_ok line link hattempt 0⟩
    | error e =>
      have hattempt : client.attempt line link = (.error e, client.behind line link 0) :=
        Prod.ext hfirst rfl
      exact .inr ⟨rfl, e, rfl, client.attempts_last line link hattempt⟩
  | succ retries ih =>
    cases hfirst : client.outcome line link 0 with
    | ok data =>
      have hattempt : client.attempt line link = (.ok data, client.behind line link 0) :=
        Prod.ext hfirst rfl
      exact ⟨0, Nat.zero_le _, fun k hk => absurd hk (Nat.not_lt_zero k),
        .inl ⟨data, hfirst, client.attempts_ok line link hattempt _⟩⟩
    | error e =>
      have hattempt : client.attempt line link = (.error e, client.behind line link 0) :=
        Prod.ext hfirst rfl
      -- What is left of the loop begins in front of attempt 1, and `outcome` and `behind` begin to
      -- count there.
      have hloop : client.attempts line (retries + 1) link
          = client.attempts line retries (client.before line link 1) :=
        client.attempts_again line link hattempt retries
      obtain ⟨n, hn, hfailed, hend⟩ := ih (client.before line link 1)
      simp only [outcome, behind, before_succ, ← hloop] at hfailed hend
      refine ⟨n + 1, Nat.succ_le_succ hn, ?_, ?_⟩
      · intro k hk
        cases k with
        | zero => exact ⟨e, hfirst⟩
        | succ k => exact hfailed k (Nat.lt_of_succ_lt_succ hk)
      · rcases hend with hsuccess | ⟨rfl, hfailure⟩
        · exact .inl hsuccess
        · exact .inr ⟨rfl, hfailure⟩

/-! ### What is written, and when the client pauses -/

theorem countP_writes (link : Link) :
    (link.writes line).countP Action.isWrite = if link.connection.isSome then 1 else 0 := by
  rw [Link.writes]
  cases link.connection with
  | none => rfl
  | some stream =>
    show List.countP _ (match stream.write link.now with | .ok _ => _ | .error _ => _) = 1
    cases stream.write link.now <;> rfl

theorem mem_writes {link : Link} {action : Action} (h : action ∈ link.writes line) :
    action = .send line ∨ action = .failedSend line := by
  rw [Link.writes] at h
  split at h
  · exact absurd h List.not_mem_nil
  · split at h
    · exact .inl (List.mem_singleton.mp h)
    · exact .inr (List.mem_singleton.mp h)

theorem not_isWrite_of_mem_recovering {link : Link} {action : Action}
    (h : action ∈ client.recovering link) : action.isWrite = false := by
  simp only [recovering, replacing, Link.teardown, List.mem_append, List.mem_singleton] at h
  rcases h with (h | rfl) | h
  · split at h
    · exact absurd h List.not_mem_nil
    · rw [List.mem_singleton.mp h]
      rfl
  · rfl
  · split at h
    · rw [List.mem_singleton.mp h]
      rfl
    · exact absurd h List.not_mem_nil

theorem countP_recovering (link : Link) : (client.recovering link).countP Action.isWrite = 0 := by
  refine List.countP_eq_zero.mpr fun action h => ?_
  rw [client.not_isWrite_of_mem_recovering h]
  exact Bool.false_ne_true

theorem count_pause_writes (link : Link) (time : Duration) :
    (link.writes line).count (.pause time) = 0 := by
  refine List.count_eq_zero_of_not_mem fun h => ?_
  rcases mem_writes line h with h | h
  · exact absurd h (by simp)
  · exact absurd h (by simp)

theorem count_pause_recovering (link : Link) :
    (client.recovering link).count (.pause client.config.retryBackoff)
      = if (link.dialing link.dials).isRefusal then 1 else 0 := by
  have hreplacing : (client.replacing link).count (.pause client.config.retryBackoff) = 0 := by
    refine List.count_eq_zero_of_not_mem fun h => ?_
    simp only [replacing, Link.teardown, List.mem_append, List.mem_singleton] at h
    rcases h with h | h
    · split at h
      · exact absurd h List.not_mem_nil
      · exact absurd (List.mem_singleton.mp h) (by simp)
    · exact absurd h (by simp)
  rw [recovering, List.count_append, hreplacing, Nat.zero_add]
  split
  · exact List.count_singleton_self
  · rfl

theorem countP_range_succ (p : Nat → Bool) (n : Nat) :
    (List.range (n + 1)).countP p = (List.range n).countP p + if p n then 1 else 0 := by
  rw [List.range_succ, List.countP_append, List.countP_singleton]

/-- A request is written once in each attempt that finds a connection. -/
theorem countP_earlier (k : Nat) :
    (client.earlier line link k).countP Action.isWrite
      = (List.range k).countP fun i => (client.before line link i).connection.isSome := by
  induction k with
  | zero => rfl
  | succ k ih =>
    rw [earlier, List.countP_append, List.countP_append, ih, countP_writes, countP_recovering,
      countP_range_succ, Nat.add_zero]

/-- There is a pause for each dial that was refused. -/
theorem count_pause_earlier (k : Nat) :
    (client.earlier line link k).count (.pause client.config.retryBackoff)
      = (List.range k).countP fun i => (link.dialing (link.dials + i)).isRefusal := by
  induction k with
  | zero => rfl
  | succ k ih =>
    rw [earlier, List.count_append, List.count_append, ih, count_pause_writes,
      count_pause_recovering, client.dial_behind, countP_range_succ, Nat.zero_add]

theorem mem_earlier {k : Nat} {action : Action} (h : action ∈ client.earlier line link k)
    (hwrite : action.isWrite = true) : action = .send line ∨ action = .failedSend line := by
  induction k with
  | zero => exact absurd h List.not_mem_nil
  | succ k ih =>
    rw [earlier, List.mem_append, List.mem_append] at h
    rcases h with h | h | h
    · exact ih h
    · exact mem_writes line h
    · rw [client.not_isWrite_of_mem_recovering h] at hwrite
      exact absurd hwrite Bool.false_ne_true

end Client

/-! ### Whole queries -/

/-- A query that begins on `link`, ends with attempt `n` and leaves `after`. -/
structure QueryRun (client : Client) (line : String) (link : Link) (n : Nat)
    (result : Except Error Json) (after : Link) : Prop where
  within : n < client.config.attemptLimit
  failed : ∀ k < n, ∃ e, client.outcome line link k = .error e
  /-- Attempt `n` succeeds, or it is the last one and fails. -/
  ended :
    (∃ data, client.outcome line link n = .ok data ∧ result = .ok data ∧
        after.stats
          = ⟨link.stats.attempts + (n + 1), link.stats.reconnects + n, link.stats.failures⟩) ∨
      (n + 1 = client.config.attemptLimit ∧ ∃ e, client.outcome line link n = .error e ∧
        result = .error (.retriesExhausted client.config.attemptLimit e) ∧
        after.stats
          = ⟨link.stats.attempts + (n + 1), link.stats.reconnects + n, link.stats.failures + 1⟩)
  /-- An attempt without a connection fails for that reason, -/
  unconnected : ∀ k ≤ n, (client.before line link k).connection = none →
    client.outcome line link k = .error .notConnected
  /-- and no attempt fails with the error of a dial. -/
  cause : ∀ k ≤ n, ∀ e, client.outcome line link k = .error e →
    ∀ address reason, e ≠ .connection address reason
  /-- A reconnect leaves no connection when its dial fails; then the client waits. -/
  reconnected : ∀ k < n, ((client.before line link (k + 1)).connection = none ↔
      (link.dialing (link.dials + k)).isRefusal = true) ∧
    (client.before line link (k + 1)).now = (client.behind line link k).now
      + if (link.dialing (link.dials + k)).isRefusal then client.config.retryBackoff.milliseconds
        else 0
  /-- What is done on the network ends with the writing of attempt `n`. -/
  history : after.history = link.history ++ client.actions line link n
  /-- Each attempt with a connection writes once, and nothing but the line is written; -/
  writes : (client.actions line link n).countP Action.isWrite
    = (List.range (n + 1)).countP fun k => (client.before line link k).connection.isSome
  written : ∀ action ∈ client.actions line link n, action.isWrite = true →
    action = .send line ∨ action = .failedSend line
  copies : (client.actions line link n).countP Action.isWrite ≤ client.config.attemptLimit
  /-- there is one pause for each reconnect that fails. -/
  pauses : (client.actions line link n).count (.pause client.config.retryBackoff)
    = (List.range n).countP fun k => (link.dialing (link.dials + k)).isRefusal

theorem countP_actions (client : Client) (line : String) (link : Link) (n : Nat) :
    (client.actions line link n).countP Action.isWrite
      = (List.range (n + 1)).countP fun k => (client.before line link k).connection.isSome := by
  rw [Client.actions, List.countP_append, client.countP_earlier, Client.countP_writes,
    Client.countP_range_succ]

/-- The attempts of a query make such a run. -/
theorem queryRun_attempts (client : Client) (line : String) (link : Link) :
    ∃ n, QueryRun client line link n (client.attempts line (client.config.attemptLimit - 1) link).1
      (client.attempts line (client.config.attemptLimit - 1) link).2 := by
  have hlimit : 1 ≤ client.config.attemptLimit := Nat.le_max_left 1 _
  obtain ⟨n, hn, hfailed, hend⟩ :=
    client.attempts_eq line link (client.config.attemptLimit - 1)
  have hwithin : n < client.config.attemptLimit := by omega
  have hcopies : (client.actions line link n).countP Action.isWrite ≤ client.config.attemptLimit := by
    rw [countP_actions]
    calc _ ≤ (List.range (n + 1)).length := List.countP_le_length
      _ = n + 1 := List.length_range
      _ ≤ client.config.attemptLimit := hwithin
  have hpauses : (client.actions line link n).count (.pause client.config.retryBackoff)
      = (List.range n).countP fun k => (link.dialing (link.dials + k)).isRefusal := by
    rw [Client.actions, List.count_append, client.count_pause_earlier, Client.count_pause_writes,
      Nat.add_zero]
  have hwritten : ∀ action ∈ client.actions line link n, action.isWrite = true →
      action = .send line ∨ action = .failedSend line := by
    intro action h hwrite
    rcases List.mem_append.mp h with h | h
    · exact client.mem_earlier line link h hwrite
    · exact Client.mem_writes line h
  have hunconnected : ∀ k ≤ n, (client.before line link k).connection = none →
      client.outcome line link k = .error .notConnected := by
    intro k _ hnone
    rw [Client.outcome, attempt_unconnected client line hnone]
  have hcause : ∀ k ≤ n, ∀ e, client.outcome line link k = .error e →
      ∀ address reason, e ≠ .connection address reason := by
    intro k _ e he
    have hattempted := client.attempted line link k
    rw [he] at hattempted
    exact hattempted.cause
  have hreconnected : ∀ k < n, ((client.before line link (k + 1)).connection = none ↔
        (link.dialing (link.dials + k)).isRefusal = true) ∧
      (client.before line link (k + 1)).now = (client.behind line link k).now
        + if (link.dialing (link.dials + k)).isRefusal
          then client.config.retryBackoff.milliseconds else 0 := by
    intro k _
    have hrecovered := client.recovered line link k
    rw [← client.dial_behind]
    exact ⟨hrecovered.connection, hrecovered.now⟩
  refine ⟨n, hwithin, hfailed, ?_, hunconnected, hcause, hreconnected, ?_, countP_actions _ _ _ _,
    hwritten, hcopies, hpauses⟩
  · rcases hend with ⟨data, hdata, hloop⟩ | ⟨hlast, e, he, hloop⟩
    · rw [hloop]
      exact .inl ⟨data, hdata, rfl, client.behind_stats line link n⟩
    · rw [hloop]
      have hcount : n + 1 = client.config.attemptLimit := by omega
      refine .inr ⟨hcount, e, he, rfl, ?_⟩
      simp only [Link.countFailure, client.behind_stats]
  · rcases hend with ⟨data, hdata, hloop⟩ | ⟨hlast, e, he, hloop⟩
    · rw [hloop]
      exact client.behind_history line link n
    · rw [hloop]
      exact client.behind_history line link n

/-- A blank statement is refused and leaves everything as it was. Every other statement is sent as its
request line until an attempt succeeds or the limit is reached, and the counters, the clock and the
history say what was done. -/
theorem query_accounted (client : Client) (statement : String) (link : Link) :
    (Text.trim statement.toList = [] →
      client.query statement link = (.error .emptyStatement, link)) ∧
      (Text.trim statement.toList ≠ [] → ∃ line n, encodeRequest statement = .ok line ∧
        QueryRun client line link n (client.query statement link).1
          (client.query statement link).2) := by
  constructor
  · intro hblank
    rw [Client.query, encodeRequest_of_blank hblank]
  · intro hstatement
    have hline := encodeRequest_of_not_blank hstatement
    obtain ⟨n, hrun⟩ := queryRun_attempts client _ link
    refine ⟨_, n, hline, ?_⟩
    rw [Client.query, hline]
    exact hrun

end AqlGateway.Remote
