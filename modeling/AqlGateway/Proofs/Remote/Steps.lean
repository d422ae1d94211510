import AqlGateway.Proofs.Remote.Calls
import AqlGateway.Proofs.Remote.Exchange

/-!
# What a step of a task does to the connection

A task changes one entry of the list of tasks. The connection stays as it is, or the task holds the
connection lock and drops it, dials, writes a request or reads an answer.

* `Dialed` — what a dial does to a link;
* `Effect` — what becomes of the connection, one rule for each of these ends;
* `Stepped` — a step: the task, what becomes of it, and its effect;
* `stepped_step` — every step that a pool can make is one of these.
-/

namespace AqlGateway.Remote

/-! ### Dials -/

theorem line?_teardown (link : Link) : link.teardown.filterMap Action.line? = [] := by
  rw [Link.teardown]
  cases link.connection <;> rfl

theorem line?_replacing (client : Client) (link : Link) :
    (client.replacing link).filterMap Action.line? = [] := by
  rw [Client.replacing, List.filterMap_append, line?_teardown]
  rfl

/-- A link on which there was one more dial: its connection is new, if there is one. -/
structure Dialed (link after : Link) : Prop where
  dialing : after.dialing = link.dialing
  dials : after.dials = link.dials + 1
  history : ∃ actions, after.history = link.history ++ actions ∧ actions.filterMap Action.line? = []
  fresh : ∀ stream, after.connection = some stream →
    ∃ replies, link.dialing link.dials = .accept replies ∧ stream = Stream.fresh replies

/-- A connect dials once, and nothing of the old connection stays. -/
theorem dialed_connect (client : Client) (link : Link) : Dialed link (client.connect link).2 := by
  have hsilent := line?_replacing client link
  cases hdial : link.dialing link.dials with
  | accept replies =>
    rw [Client.connect_accept hdial]
    exact ⟨rfl, rfl, ⟨_, rfl, hsilent⟩,
      fun stream h => ⟨replies, hdial, (Option.some.inj h).symm⟩⟩
  | refuse text =>
    rw [Client.connect_refuse hdial]
    exact ⟨rfl, rfl, ⟨_, rfl, hsilent⟩, fun stream h => absurd h (by simp)⟩

theorem dialed_reconnect (client : Client) (link : Link) : Dialed link (client.reconnect link).2 := by
  obtain ⟨hdialing, hdials, hhistory, hfresh⟩ := dialed_connect client link.countReconnect
  exact ⟨hdialing, hdials, hhistory, hfresh⟩

/-- A pause behind it changes nothing. -/
theorem Dialed.pause {link after : Link} (h : Dialed link after) (time : Duration) :
    Dialed link (after.record (.pause time)) := by
  obtain ⟨actions, hactions, hsilent⟩ := h.history
  refine ⟨h.dialing, h.dials, ⟨actions ++ [.pause time], ?_, ?_⟩, h.fresh⟩
  · rw [Link.record, hactions, List.append_assoc]
  · rw [List.filterMap_append, hsilent]
    rfl

/-! ### Effects -/

def Job.line? : Job → Option String
  | .query line _ => some line
  | _ => none

/-- A task that does not read an answer and has not been given the payload of one. -/
def Task.unanswered (task : Task) : Bool :=
  match task.job, task.phase with
  | _, .reading _ => false
  | .query _ _, .finished (.ok _) => false
  | _, _ => true

theorem unanswered_finished {job : Job} (hjob : job.line? = none) (result : Except Error Json) :
    Task.unanswered ⟨job, .finished result⟩ = true := by
  cases job with
  | query line retries => exact absurd hjob (by simp [Job.line?])
  | _ => cases result <;> rfl

theorem unanswered_reading (job : Job) (deadline : Nat) :
    Task.unanswered ⟨job, .reading deadline⟩ = false := by
  cases job <;> rfl

/-- A task that awaits no answer is not reading one. -/
theorem phase_ne_reading {task : Task} (h : task.unanswered = true) (deadline : Nat) :
    task.phase ≠ .reading deadline := by
  obtain ⟨job, phase⟩ := task
  rintro rfl
  rw [unanswered_reading] at h
  exact Bool.false_ne_true h

/-- What becomes of the connection when task `i` makes a step. -/
inductive Effect (i : Nat) (pool : Pool) (task next : Task) (after : Pool) : Prop
  /-- Nothing; the task takes a lock, pauses or goes on. -/
  | kept :
      task.unanswered = true → next.unanswered = true →
      (pool.connectionLock.owner = none ∨ after.connectionLock.owner = pool.connectionLock.owner) →
      after.link.connection = pool.link.connection → after.link.dials = pool.link.dials →
      pool.link.sentSince after.link = [] → Effect i pool task next after
  | dropped :
      pool.connectionLock.owner = some i → next.unanswered = true →
      after.link.connection = none → after.link.dials = pool.link.dials →
      pool.link.sentSince after.link = [] → Effect i pool task next after
  | dialed :
      pool.connectionLock.owner = some i → next.unanswered = true →
      (∀ stream, after.link.connection = some stream →
        ∃ replies, pool.link.dialing pool.link.dials = .accept replies ∧
          stream = Stream.fresh replies) →
      after.link.dials = pool.link.dials + 1 →
      pool.link.sentSince after.link = [] → Effect i pool task next after
  | wrote {line : String} {retries deadline : Nat} {stream written : Stream} :
      pool.connectionLock.owner = some i → after.connectionLock.owner = some i →
      task = ⟨.query line retries, .connecting⟩ →
      next = ⟨.query line retries, .reading deadline⟩ →
      pool.link.connection = some stream → stream.write pool.link.now = .ok written →
      after.link.connection = some written → after.link.dials = pool.link.dials →
      pool.link.sentSince after.link = [line] → Effect i pool task next after
  | answered {line : String} {retries deadline time : Nat} {stream : Stream} {data : List UInt8}
      {rest : List Arrival} {envelope : Envelope} :
      pool.connectionLock.owner = some i → task = ⟨.query line retries, .reading deadline⟩ →
      (next.unanswered = true ∨ ∃ payload, envelope.result = .ok payload ∧
        next = ⟨.query line retries, .finished (.ok payload)⟩) →
      pool.link.connection = some stream →
      readLine? [] pool.link.now stream.arrivals = some (time, .line data, rest) →
      decodeLine data = .ok envelope →
      after.link.connection = some { stream with arrivals := rest } →
      after.link.dials = pool.link.dials →
      pool.link.sentSince after.link = [] → Effect i pool task next after

/-- A step of task `i`: no other task is changed, and its request line stays. -/
structure Stepped (i : Nat) (pool : Pool) (task : Task) (after : Pool) (next : Task) : Prop where
  tasks : after.tasks = pool.tasks.set i next
  line : next.job.line? = task.job.line?
  dialing : after.link.dialing = pool.link.dialing
  effect : Effect i pool task next after

theorem ne_of_unanswered {i j : Nat} {pool : Pool} {task other : Task}
    (htask : pool.tasks[i]? = some task) (hidle : task.unanswered = true)
    (hother : other.unanswered = false) (hj : pool.tasks[j]? = some other) : j ≠ i := by
  rintro rfl
  rw [htask] at hj
  rw [Option.some.inj hj, hother] at hidle
  exact Bool.false_ne_true hidle

namespace Stepped

variable {i j : Nat} {pool after : Pool} {task next other : Task}

theorem getElem?_of_ne (h : Stepped i pool task after next) (hne : j ≠ i) :
    after.tasks[j]? = pool.tasks[j]? := by
  rw [h.tasks, List.getElem?_set_ne (Ne.symm hne)]

theorem getElem?_self (h : Stepped i pool task after next) (htask : pool.tasks[i]? = some task) :
    after.tasks[i]? = some next := by
  rw [h.tasks, List.getElem?_set_self', htask]
  rfl

theorem eq_next (h : Stepped i pool task after next) (hi : after.tasks[i]? = some other) :
    other = next := by
  rw [h.tasks, List.getElem?_set_self'] at hi
  obtain ⟨_, _, heq⟩ := Option.map_eq_some_iff.mp hi
  exact heq.symm

/-- A task that reads or has its payload was so before, unless the step has made it so. -/
theorem of_answered (h : Stepped i pool task after next) (hnext : next.unanswered = true)
    (hother : other.unanswered = false) (hj : after.tasks[j]? = some other) :
    j ≠ i ∧ pool.tasks[j]? = some other := by
  have hne : j ≠ i := by
    rintro rfl
    rw [h.eq_next hj, hnext] at hother
    exact Bool.false_ne_true hother.symm
  rw [h.getElem?_of_ne hne] at hj
  exact ⟨hne, hj⟩

/-- A step that begins and ends without an answer leaves those who read or have their payload. -/
theorem answered_iff (h : Stepped i pool task after next) (htask : pool.tasks[i]? = some task)
    (hidle : task.unanswered = true) (hnext : next.unanswered = true)
    (hother : other.unanswered = false) :
    after.tasks[j]? = some other ↔ pool.tasks[j]? = some other := by
  constructor
  · intro hj
    exact (h.of_answered hnext hother hj).2
  · intro hj
    rw [h.getElem?_of_ne (ne_of_unanswered htask hidle hother hj)]
    exact hj

end Stepped

namespace Pool

/-- A task that reads sends a query, and it holds the connection lock. -/
def ReadersHold (pool : Pool) : Prop :=
  ∀ i job deadline, pool.tasks[i]? = some ⟨job, .reading deadline⟩ →
    pool.connectionLock.owner = some i ∧ ∃ line retries, job = .query line retries

variable {client : Client} {pool : Pool} {i : Nat} {job : Job} {line : String} {retries : Nat}

/-! ### Locks -/

theorem owner_of_canStep {phase : Phase} (hcan : pool.canStep i = true)
    (htask : pool.tasks[i]? = some ⟨job, phase⟩)
    (hphase : phase = .connecting ∨ phase = .replacing) :
    pool.connectionLock.owner = some i := by
  rw [canStep, htask] at hcan
  cases Decidable.em (pool.connectionLock.owner = some i) with
  | inl howner => exact howner
  | inr howner =>
    have hwake : pool.wakeTime? i ⟨job, phase⟩ = none := by
      rcases hphase with rfl | rfl <;> exact if_neg howner
    simp only [hwake] at hcan
    exact absurd hcan Bool.false_ne_true

theorem owner_acquire (lock : Lock) (i : Nat) :
    lock.owner = none ∨ (lock.acquire i).owner = lock.owner := by
  cases howner : lock.owner with
  | none => exact .inl rfl
  | some j =>
    right
    rw [Lock.acquire, howner]

/-! ### Failed attempts -/

/-- A task whose attempt has failed gives up or is about to reconnect. Nothing else but a counter is
changed. -/
theorem afterFailure_eq (client : Client) (pool : Pool) (i : Nat) (line : String) (retries : Nat)
    (e : Error) : ∃ next stats, afterFailure client pool i line retries e
        = { pool with link := { pool.link with stats := stats }, tasks := pool.tasks.set i next } ∧
      next.job.line? = some line ∧ next.unanswered = true := by
  cases retries with
  | zero => exact ⟨⟨.query line 0, .finished (.error _)⟩, _, rfl, rfl, rfl⟩
  | succ retries => exact ⟨⟨.query line retries, .recovering⟩, pool.link.stats, rfl, rfl, rfl⟩

theorem stepped_afterFailure {task : Task} {failed : Pool} {e : Error}
    (hline : task.job.line? = some line) (htasks : failed.tasks = pool.tasks)
    (hdialing : failed.link.dialing = pool.link.dialing)
    (heffect : ∀ next stats, next.unanswered = true → Effect i pool task next
      { failed with
        link := { failed.link with stats := stats }, tasks := failed.tasks.set i next }) :
    ∃ next, Stepped i pool task (afterFailure client failed i line retries e) next := by
  obtain ⟨next, stats, heq, hnext, hunanswered⟩ := afterFailure_eq client failed i line retries e
  rw [heq]
  refine ⟨next, ?_, hnext.trans hline.symm, hdialing, heffect next stats hunanswered⟩
  rw [htasks]

/-! ### Steps in each phase -/

/-- A task that is ready asks for its first lock. -/
theorem stepped_begin (pool : Pool) (i : Nat) (job : Job) :
    ∃ next, Stepped i pool ⟨job, .ready⟩ (pool.begin i job) next := by
  have hlock := owner_acquire pool.connectionLock i
  cases job with
  | query line retries =>
    exact ⟨⟨.query line retries, .connecting⟩, rfl, rfl, rfl,
      .kept rfl rfl hlock rfl rfl (Link.sentSince_of_eq rfl)⟩
  | connect =>
    exact ⟨⟨.connect, .connecting⟩, rfl, rfl, rfl,
      .kept rfl rfl hlock rfl rfl (Link.sentSince_of_eq rfl)⟩
  | close =>
    exact ⟨⟨.close, .connecting⟩, rfl, rfl, rfl,
      .kept rfl rfl hlock rfl rfl (Link.sentSince_of_eq rfl)⟩
  | reconnect =>
    exact ⟨⟨.reconnect, .reconnecting⟩, rfl, rfl, rfl,
      .kept rfl rfl (.inr rfl) rfl rfl (Link.sentSince_of_eq rfl)⟩

/-- With the lock, a query writes its line or fails. -/
theorem stepped_useConnection_query (howner : pool.connectionLock.owner = some i) :
    ∃ next, Stepped i pool ⟨.query line retries, .connecting⟩
      (useConnection client pool i (.query line retries)) next := by
  rw [useConnection]
  cases hconnection : pool.link.connection with
  | none =>
    exact stepped_afterFailure rfl rfl rfl fun next stats hnext =>
      .dropped howner hnext hconnection rfl (Link.sentSince_of_eq rfl)
  | some stream =>
    cases hwrite : stream.write pool.link.now with
    | error text =>
      simp only [Link.send_error hwrite]
      exact stepped_afterFailure rfl rfl rfl fun next stats hnext =>
        .dropped howner hnext rfl rfl (Link.sentSince_eq [.failedSend line] rfl rfl)
    | ok written =>
      simp only [Link.send_ok hwrite]
      exact ⟨⟨.query line retries, .reading _⟩, rfl, rfl, rfl,
        .wrote howner howner rfl rfl hconnection hwrite rfl rfl
          (Link.sentSince_eq [.send line] rfl rfl)⟩

theorem stepped_dialed {task next : Task} {after : Pool} (htasks : after.tasks = pool.tasks.set i next)
    (hline : next.job.line? = task.job.line?) (hnext : next.unanswered = true)
    (howner : pool.connectionLock.owner = some i) (h : Dialed pool.link after.link) :
    ∃ next, Stepped i pool task after next := by
  obtain ⟨actions, hactions, hsilent⟩ := h.history
  exact ⟨next, htasks, hline, h.dialing,
    .dialed howner hnext h.fresh h.dials (Link.sentSince_eq actions hactions hsilent)⟩

theorem stepped_close (howner : pool.connectionLock.owner = some i) :
    ∃ next, Stepped i pool ⟨.close, .connecting⟩ (useConnection client pool i .close) next := by
  rw [useConnection, Link.shutdown_eq]
  exact ⟨⟨.close, .finished (.ok .null)⟩, rfl, rfl, rfl,
    .dropped howner rfl rfl rfl (Link.sentSince_eq _ rfl (line?_teardown pool.link))⟩

/-- The step of a task that has received, or has not. -/
theorem stepped_afterAttempt {deadline : Nat} {stream : Stream} {outcome : Except Error Envelope}
    {link : Link} (howner : pool.connectionLock.owner = some i)
    (hconnection : pool.link.connection = some stream)
    (hreceived : Link.Received deadline stream pool.link outcome link) :
    ∃ next, Stepped i pool ⟨.query line retries, .reading deadline⟩
      (afterAttempt client (freeConnection { pool with link := link }) i line retries
        (outcome.bind Envelope.result)) next := by
  cases hreceived with
  | failed hpoisons hnow =>
    exact stepped_afterFailure rfl rfl rfl fun next stats hnext =>
      .dropped howner hnext rfl rfl (Link.sentSince_of_eq rfl)
  | answered hread htime henvelope hnow =>
    rename_i envelope
    show ∃ next, Stepped i pool ⟨.query line retries, .reading deadline⟩
      (afterAttempt client _ i line retries envelope.result) next
    cases hresult : envelope.result with
    | ok payload =>
      exact ⟨⟨.query line retries, .finished (.ok payload)⟩, rfl, rfl, rfl,
        .answered howner rfl (.inr ⟨payload, hresult, rfl⟩) hconnection hread henvelope rfl rfl
          (Link.sentSince_of_eq rfl)⟩
    | error e =>
      exact stepped_afterFailure rfl rfl rfl fun next stats hnext =>
        .answered howner rfl (.inl hnext) hconnection hread henvelope rfl rfl
          (Link.sentSince_of_eq rfl)

/-- A query that may read gets an envelope, or drops the connection. -/
theorem stepped_read {deadline : Nat} (howner : pool.connectionLock.owner = some i) :
    ∃ next, Stepped i pool ⟨.query line retries, .reading deadline⟩
      (read client pool i line retries deadline) next := by
  rw [read]
  cases hconnection : pool.link.connection with
  | none =>
    exact stepped_afterFailure rfl rfl rfl fun next stats hnext =>
      .dropped howner hnext hconnection rfl (Link.sentSince_of_eq rfl)
  | some stream =>
    exact stepped_afterAttempt howner hconnection
      (Link.received_receive client.config.ioTimeout deadline stream pool.link)

/-- A task with both locks dials. -/
theorem stepped_replace {job : Job} (howner : pool.connectionLock.owner = some i) :
    ∃ next, Stepped i pool ⟨job, .replacing⟩ (replace client pool i job) next := by
  have hdialed := dialed_reconnect client pool.link
  rw [replace]
  cases hreconnect : client.reconnect pool.link with
  | mk result link =>
    rw [hreconnect] at hdialed
    cases job with
    | query line retries =>
      cases result with
      | ok _ => exact stepped_dialed rfl rfl rfl howner hdialed
      | error e => exact stepped_dialed rfl rfl rfl howner (hdialed.pause _)
    | _ => exact stepped_dialed rfl rfl (unanswered_finished rfl _) howner hdialed

/-- The step of a task that has the connection lock and no other. -/
theorem stepped_useConnection {job : Job} (howner : pool.connectionLock.owner = some i) :
    ∃ next, Stepped i pool ⟨job, .connecting⟩ (useConnection client pool i job) next := by
  have hdialed := dialed_connect client pool.link
  cases job with
  | query line retries => exact stepped_useConnection_query howner
  | close => exact stepped_close howner
  | _ => exact stepped_dialed rfl rfl (unanswered_finished rfl _) howner hdialed

/-! ### All steps -/

/-- Every step that a pool can make. -/
theorem stepped_step (client : Client) (hreaders : pool.ReadersHold) (hcan : pool.canStep i = true) :
    ∃ task next, pool.tasks[i]? = some task ∧ Stepped i pool task (pool.step client i) next := by
  cases htask : pool.tasks[i]? with
  | none =>
    rw [canStep, htask] at hcan
    exact absurd hcan Bool.false_ne_true
  | some task =>
    obtain ⟨job, phase⟩ := task
    suffices h : ∃ next, Stepped i pool ⟨job, phase⟩ (pool.step client i) next by
      obtain ⟨next, hnext⟩ := h
      exact ⟨⟨job, phase⟩, next, rfl, hnext⟩
    have hlock := owner_acquire pool.connectionLock i
    rw [step, htask]
    cases phase with
    | ready => exact stepped_begin pool i job
    | recovering =>
      exact ⟨⟨job, .reconnecting⟩, rfl, rfl, rfl,
        .kept rfl rfl (.inr rfl) rfl rfl (Link.sentSince_of_eq rfl)⟩
    | reconnecting =>
      exact ⟨⟨job, .replacing⟩, rfl, rfl, rfl,
        .kept rfl rfl hlock rfl rfl (Link.sentSince_of_eq rfl)⟩
    | connecting => exact stepped_useConnection (owner_of_canStep hcan htask (.inl rfl))
    | replacing => exact stepped_replace (owner_of_canStep hcan htask (.inr rfl))
    | reading deadline =>
      obtain ⟨howner, line, retries, rfl⟩ := hreaders i job deadline htask
      exact stepped_read howner
    | pausing time =>
      exact ⟨⟨job, .ready⟩, rfl, rfl, rfl,
        .kept rfl rfl (.inr rfl) rfl rfl (Link.sentSince_of_eq rfl)⟩
    | finished result =>
      rw [canStep, htask] at hcan
      exact absurd hcan Bool.false_ne_true

end Pool

end AqlGateway.Remote
