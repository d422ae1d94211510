import AqlGateway.Proofs.Remote.Locks
import AqlGateway.Proofs.Remote.Stages

/-!
# What a step of a task in stages does

* `Phase.usesConnection`, `Phase.usesReconnect` — the phases in which a task holds a lock or waits
  for it;
* `Deed` — what becomes of the connection, the dials and the hands, one rule for each kind of step;
* `Turn` — a step: the task, what becomes of it and of the locks, what it counts, and its deed;
* `Released` — the end of an attempt, at which a task lets go of the connection lock;
* `turn_step` — every step that a staged pool can make is one of these.
-/

namespace AqlGateway.Remote

open Function (update)

/-! ### Turns -/

/-- The connection lock belongs to a task in this phase, or the task waits for it. -/
def Phase.usesConnection : Phase → Bool
  | connecting => true
  | replacing => true
  | reading _ => true
  | _ => false

/-- The reconnect lock belongs to a task in this phase, or the task waits for it. -/
def Phase.usesReconnect : Phase → Bool
  | reconnecting => true
  | replacing => true
  | _ => false

/-- What becomes of the connection, the dials and the hands when task `i` makes a step. -/
inductive Deed (i : Nat) (s : Staged) (task next : Task) (t : Staged) : Prop
  /-- The task takes a lock, pauses or goes on. -/
  | idle :
      task.replaces = false → t.link.connection = s.link.connection → t.link.dials = s.link.dials →
      t.link.history = s.link.history → t.hands = s.hands → Deed i s task next t
  /-- The task writes a request, reads an answer, or drops the connection. -/
  | used :
      s.pool.connectionLock.owner = some i → task.replaces = false → t.link.dials = s.link.dials →
      t.hands = s.hands →
      (s.link.sentSince t.link = [] ∨ ∃ deadline, next.phase = .reading deadline) →
      Deed i s task next t
  /-- A stage of a task that replaces or closes the connection. -/
  | staged {hand : Hand} :
      s.pool.connectionLock.owner = some i → task.replaces = true → next = task →
      (t.link.connection = none ∨ s.hands i ≠ .empty ∧ t.link.connection = s.link.connection) →
      (t.link.dials = s.link.dials ∨ s.hands i = .cleared) → s.link.sentSince t.link = [] →
      t.hands = update s.hands i hand → Deed i s task next t
  /-- The last of these stages. -/
  | settled :
      s.pool.connectionLock.owner = some i → task.replaces = true → t.link.dials = s.link.dials →
      s.link.sentSince t.link = [] → t.hands = update s.hands i .empty → Deed i s task next t

/-- A step of task `i`. -/
structure Turn (i : Nat) (s : Staged) (task next : Task) (t : Staged) : Prop where
  tasks : t.pool.tasks = s.pool.tasks.set i next
  connectionLock : Passed Phase.usesConnection i task.phase next.phase
    s.pool.connectionLock t.pool.connectionLock
  reconnectLock : Passed Phase.usesReconnect i task.phase next.phase
    s.pool.reconnectLock t.pool.reconnectLock
  /-- A task that goes on to read an answer has the connection lock. -/
  reading : ∀ deadline, next.phase = .reading deadline →
    t.pool.connectionLock.owner = some i ∧ ∃ line retries, next.job = .query line retries
  /-- A task that goes on to replace the connection has the reconnect lock. -/
  replacing : next.phase = .replacing → t.pool.reconnectLock.owner = some i
  attempts : t.link.stats.attempts = s.link.stats.attempts + task.startsAttempt.toNat
  reconnects : t.link.stats.reconnects
    = s.link.stats.reconnects + (task.entersReconnect (s.hands i)).toNat
  deed : Deed i s task next t

namespace Turn

variable {i j : Nat} {s t : Staged} {task next other : Task}

theorem getElem?_of_ne (h : Turn i s task next t) (hne : j ≠ i) :
    t.pool.tasks[j]? = s.pool.tasks[j]? := by
  rw [h.tasks, List.getElem?_set_ne (Ne.symm hne)]

theorem getElem?_self (h : Turn i s task next t) (htask : s.pool.tasks[i]? = some task) :
    t.pool.tasks[i]? = some next := by
  rw [h.tasks, List.getElem?_set_self', htask]
  rfl

theorem eq_next (h : Turn i s task next t) (hi : t.pool.tasks[i]? = some other) : next = other := by
  rw [h.tasks, List.getElem?_set_self'] at hi
  obtain ⟨_, _, heq⟩ := Option.map_eq_some_iff.mp hi
  exact heq

end Turn

namespace Staged

variable {client : Client} {s t : Staged} {i : Nat} {job : Job} {line : String} {retries : Nat}

/-! ### Steps without the connection lock -/

/-- A task that is ready asks for its first lock. -/
theorem turn_begin (job : Job) :
    ∃ next, Turn i s ⟨job, .ready⟩ next { s with pool := s.pool.begin i job } := by
  cases job with
  | query line retries =>
    exact ⟨⟨.query line retries, .connecting⟩, rfl, .taken rfl rfl rfl, .kept rfl rfl,
      by simp, by simp, rfl, rfl, .idle rfl rfl rfl rfl rfl⟩
  | reconnect =>
    exact ⟨⟨.reconnect, .reconnecting⟩, rfl, .kept rfl rfl, .taken rfl rfl rfl,
      by simp, by simp, rfl, rfl, .idle rfl rfl rfl rfl rfl⟩
  | connect =>
    exact ⟨⟨.connect, .connecting⟩, rfl, .taken rfl rfl rfl, .kept rfl rfl,
      by simp, by simp, rfl, rfl, .idle rfl rfl rfl rfl rfl⟩
  | close =>
    exact ⟨⟨.close, .connecting⟩, rfl, .taken rfl rfl rfl, .kept rfl rfl,
      by simp, by simp, rfl, rfl, .idle rfl rfl rfl rfl rfl⟩

end Staged

/-! ### The end of an attempt -/

/-- A task that uses none of the locks. -/
def Task.isFree (task : Task) : Prop :=
  task.phase.usesConnection = false ∧ task.phase.usesReconnect = false

/-- Task `i` lets go of the connection lock. -/
structure Released (i : Nat) (pool : Pool) (next : Task) (after : Pool) : Prop where
  tasks : after.tasks = pool.tasks.set i next
  connectionLock : after.connectionLock = pool.connectionLock.release
  reconnectLock : after.reconnectLock = pool.reconnectLock
  isFree : next.isFree
  attempts : after.link.stats.attempts = pool.link.stats.attempts
  reconnects : after.link.stats.reconnects = pool.link.stats.reconnects
  dials : after.link.dials = pool.link.dials
  silent : pool.link.sentSince after.link = []

namespace Released

variable {client : Client} {i : Nat} {pool : Pool} {link : Link} {line : String} {retries : Nat}

theorem afterFailure {e : Error} (hattempts : link.stats.attempts = pool.link.stats.attempts)
    (hreconnects : link.stats.reconnects = pool.link.stats.reconnects)
    (hdials : link.dials = pool.link.dials) (hsilent : pool.link.sentSince link = []) :
    ∃ next, Released i pool next (Pool.afterFailure client
      (Pool.freeConnection { pool with link := link }) i line retries e) := by
  cases retries with
  | zero =>
    exact ⟨⟨.query line 0, .finished _⟩, rfl, rfl, rfl, ⟨rfl, rfl⟩, hattempts, hreconnects, hdials,
      hsilent⟩
  | succ retries =>
    exact ⟨⟨.query line retries, .recovering⟩, rfl, rfl, rfl, ⟨rfl, rfl⟩, hattempts, hreconnects,
      hdials, hsilent⟩

theorem afterAttempt {deadline : Nat} {stream : Stream} {outcome : Except Error Envelope}
    (h : Link.Received deadline stream pool.link outcome link) :
    ∃ next, Released i pool next
      (Pool.afterAttempt client (Pool.freeConnection { pool with link := link }) i line retries
        (outcome.bind Envelope.result)) := by
  cases h with
  | failed hpoisons hnow => exact afterFailure rfl rfl rfl (Link.sentSince_of_eq rfl)
  | answered hread htime henvelope hnow =>
    rename_i envelope
    show ∃ next, Released i pool next
      (Pool.afterAttempt client _ i line retries envelope.result)
    cases envelope.result with
    | error e => exact afterFailure rfl rfl rfl (Link.sentSince_of_eq rfl)
    | ok payload =>
      exact ⟨⟨.query line retries, .finished (.ok payload)⟩, rfl, rfl, rfl, ⟨rfl, rfl⟩, rfl, rfl, rfl,
        Link.sentSince_of_eq rfl⟩

end Released

namespace Staged

variable {client : Client} {s t : Staged} {i : Nat} {job : Job} {line : String} {retries : Nat}

/-- The end of an attempt is a turn that gives the connection lock on. -/
theorem turn_of_released {phase : Phase} {after : Pool}
    (howner : s.pool.connectionLock.owner = some i)
    (hphase : phase = .connecting ∨ ∃ deadline, phase = .reading deadline)
    (h : ∃ next, Released i s.pool next after) :
    ∃ next, Turn i s ⟨.query line retries, phase⟩ next { s with pool := after } := by
  obtain ⟨next, h⟩ := h
  have hidle : phase.usesReconnect = false ∧
      (Task.replaces ⟨.query line retries, phase⟩ = false ∧
        Task.startsAttempt ⟨.query line retries, phase⟩ = false ∧
        Task.entersReconnect (s.hands i) ⟨.query line retries, phase⟩ = false) := by
    rcases hphase with rfl | ⟨deadline, rfl⟩ <;> exact ⟨rfl, rfl, rfl, rfl⟩
  obtain ⟨hreconnect, hreplaces, hstarts, henters⟩ := hidle
  obtain ⟨hconnection, hfree⟩ := h.isFree
  refine ⟨next, h.tasks, .freed hconnection howner h.connectionLock,
    .kept (hfree.trans hreconnect.symm) h.reconnectLock, ?_, ?_, ?_, ?_,
    .used howner hreplaces h.dials rfl (.inl h.silent)⟩
  · intro deadline hnext
    rw [hnext] at hconnection
    exact absurd hconnection (by simp [Phase.usesConnection])
  · intro hnext
    rw [hnext] at hconnection
    exact absurd hconnection (by simp [Phase.usesConnection])
  · rw [hstarts]
    exact h.attempts
  · rw [henters]
    exact h.reconnects

theorem turn_useConnection (howner : s.pool.connectionLock.owner = some i) :
    ∃ next, Turn i s ⟨.query line retries, .connecting⟩ next
      { s with pool := Pool.useConnection client s.pool i (.query line retries) } := by
  rw [Pool.useConnection]
  cases hconnection : s.pool.link.connection with
  | none =>
    exact turn_of_released howner (.inl rfl)
      (Released.afterFailure rfl rfl rfl (Link.sentSince_of_eq rfl))
  | some stream =>
    cases hwrite : stream.write s.pool.link.now with
    | error text =>
      simp only [Link.send_error hwrite]
      exact turn_of_released howner (.inl rfl)
        (Released.afterFailure rfl rfl rfl (Link.sentSince_eq [.failedSend line] rfl rfl))
    | ok written =>
      simp only [Link.send_ok hwrite]
      refine ⟨⟨.query line retries, .reading _⟩, rfl, .kept rfl rfl, .kept rfl rfl,
        fun deadline _ => ⟨howner, line, retries, rfl⟩, by simp, rfl, rfl, ?_⟩
      exact .used howner rfl rfl rfl (.inr ⟨_, rfl⟩)

theorem turn_read {deadline : Nat} (howner : s.pool.connectionLock.owner = some i) :
    ∃ next, Turn i s ⟨.query line retries, .reading deadline⟩ next
      { s with pool := Pool.read client s.pool i line retries deadline } := by
  rw [Pool.read]
  cases hconnection : s.pool.link.connection with
  | none =>
    exact turn_of_released howner (.inr ⟨deadline, rfl⟩)
      (Released.afterFailure rfl rfl rfl (Link.sentSince_of_eq rfl))
  | some stream =>
    exact turn_of_released howner (.inr ⟨deadline, rfl⟩)
      (Released.afterAttempt
        (Link.received_receive client.config.ioTimeout deadline stream s.pool.link))

/-! ### Stages -/

/-- The links that the last stage may leave. -/
structure Settled (link after : Link) : Prop where
  stats : after.stats = link.stats
  dials : after.dials = link.dials
  history : after.history = link.history

theorem settled_endDial (client : Client) (link : Link) (outcome : Dial) :
    Settled link (link.endDial client outcome).2 := by
  cases outcome <;> exact ⟨rfl, rfl, rfl⟩

theorem turn_connected {link : Link} {result : Except Error Unit}
    (howner : s.pool.connectionLock.owner = some i)
    (hreplaces : Task.replaces ⟨job, .connecting⟩ = true) (h : Settled s.link link) :
    ∃ next, Turn i s ⟨job, .connecting⟩ next
      ⟨({ s.pool with link := link } : Pool).connected i job result, update s.hands i .empty⟩ := by
  have hstarts : Task.startsAttempt ⟨job, .connecting⟩ = false := by cases job <;> rfl
  refine ⟨⟨job, .finished (Pool.unitResult result)⟩, rfl, .freed rfl howner rfl, .kept rfl rfl,
    by simp, by simp, ?_, congrArg ClientStats.reconnects h.stats,
    .settled howner hreplaces h.dials (Link.sentSince_of_eq h.history) rfl⟩
  rw [hstarts]
  exact congrArg ClientStats.attempts h.stats

theorem turn_reconnected {link : Link} {result : Except Error Unit}
    (howner : s.pool.connectionLock.owner = some i)
    (hreconnect : s.pool.reconnectLock.owner = some i) (hhand : s.hands i ≠ .empty)
    (h : Settled s.link link) :
    ∃ next, Turn i s ⟨job, .replacing⟩ next
      ⟨({ s.pool with link := link } : Pool).reconnected client i job result,
        update s.hands i .empty⟩ := by
  have hreplaces : Task.replaces ⟨job, .replacing⟩ = true := by cases job <;> rfl
  have hstarts : Task.startsAttempt ⟨job, .replacing⟩ = false := by cases job <;> rfl
  have henters : Task.entersReconnect (s.hands i) ⟨job, .replacing⟩ = false := by
    cases hhands : s.hands i with
    | empty => exact absurd hhands hhand
    | _ => rfl
  have hattempts : link.stats.attempts
      = s.link.stats.attempts + (Task.startsAttempt ⟨job, .replacing⟩).toNat := by
    rw [hstarts]
    exact congrArg ClientStats.attempts h.stats
  have hreconnects : link.stats.reconnects
      = s.link.stats.reconnects + (Task.entersReconnect (s.hands i) ⟨job, .replacing⟩).toNat := by
    rw [henters]
    exact congrArg ClientStats.reconnects h.stats
  have hsilent : s.link.sentSince link = [] := Link.sentSince_of_eq h.history
  have hpaused (time : Duration) : s.link.sentSince (link.record (.pause time)) = [] := by
    refine Link.sentSince_eq [.pause time] ?_ rfl
    rw [Link.record, h.history]
  cases job with
  | query line retries =>
    cases result with
    | ok _ =>
      exact ⟨⟨.query line retries, .ready⟩, rfl, .freed rfl howner rfl, .freed rfl hreconnect rfl,
        by simp, by simp, hattempts, hreconnects, .settled howner hreplaces h.dials hsilent rfl⟩
    | error e =>
      exact ⟨⟨.query line retries, .pausing _⟩, rfl, .freed rfl howner rfl, .freed rfl hreconnect rfl,
        by simp, by simp, hattempts, hreconnects,
        .settled howner hreplaces h.dials (hpaused _) rfl⟩
  | _ =>
    exact ⟨⟨_, .finished (Pool.unitResult result)⟩, rfl, .freed rfl howner rfl,
      .freed rfl hreconnect rfl, by simp, by simp, hattempts, hreconnects,
      .settled howner hreplaces h.dials hsilent rfl⟩

/-- A stage that is not the last. -/
theorem turn_held {task : Task} (hand : Hand) (link : Link)
    (htask : s.pool.tasks[i]? = some task) (hreplaces : task.replaces = true)
    (howner : s.pool.connectionLock.owner = some i)
    (hreconnect : task.phase = .replacing → s.pool.reconnectLock.owner = some i)
    (hstats : link.stats.attempts = s.link.stats.attempts ∧ link.stats.reconnects
      = s.link.stats.reconnects + (task.entersReconnect (s.hands i)).toNat)
    (hconnection : link.connection = none ∨ s.hands i ≠ .empty ∧ link.connection = s.link.connection)
    (hdials : link.dials = s.link.dials ∨ s.hands i = .cleared)
    (hsilent : s.link.sentSince link = []) :
    Turn i s task task (s.hold i hand link) := by
  have htasks : s.pool.tasks = s.pool.tasks.set i task := by
    obtain ⟨hlt, heq⟩ := List.getElem?_eq_some_iff.mp htask
    rw [← heq, List.set_getElem_self]
  have hphase := Task.phase_of_replaces hreplaces
  have hstarts : task.startsAttempt = false := by
    obtain ⟨job, phase⟩ := task
    rcases hphase with rfl | rfl <;> cases job <;> rfl
  refine ⟨htasks, .kept rfl rfl, .kept rfl rfl, ?_, hreconnect, ?_, hstats.2,
    .staged howner hreplaces rfl hconnection hdials hsilent rfl⟩
  · intro deadline hreading
    rw [hreading] at hphase
    exact absurd hphase (by simp)
  · rw [hstarts]
    exact hstats.1

theorem stats_countedFor {task : Task} (hreplaces : task.replaces = true) (link : Link) :
    (link.countedFor task).stats.attempts = link.stats.attempts ∧
      (link.countedFor task).stats.reconnects
        = link.stats.reconnects + (task.entersReconnect .empty).toNat := by
  obtain ⟨job, phase⟩ := task
  rcases Task.phase_of_replaces hreplaces with hphase | hphase <;>
    obtain rfl : phase = _ := hphase <;> exact ⟨rfl, rfl⟩

theorem link_countedFor (task : Task) (link : Link) :
    (link.countedFor task).dials = link.dials ∧ (link.countedFor task).history = link.history := by
  rw [Link.countedFor]
  split <;> exact ⟨rfl, rfl⟩

theorem entersReconnect_of_ne (task : Task) {hand : Hand} (h : hand ≠ .empty) :
    task.entersReconnect hand = false := by
  obtain ⟨job, phase⟩ := task
  cases hand with
  | empty => exact absurd rfl h
  | _ => cases phase <;> rfl

/-- Each stage of a task that replaces or closes the connection is a turn. -/
theorem turn_stage {task : Task} (htask : s.pool.tasks[i]? = some task)
    (hreplaces : task.replaces = true) (howner : s.pool.connectionLock.owner = some i)
    (hreconnect : task.phase = .replacing → s.pool.reconnectLock.owner = some i) :
    ∃ next, Turn i s task next (s.stage client i task) := by
  have hheld {hand : Hand} {link : Link} := turn_held hand link htask hreplaces howner hreconnect
  rw [stage]
  cases hhand : s.hands i with
  | empty =>
    obtain ⟨hdials, hhistory⟩ := link_countedFor task s.link
    refine ⟨task, hheld ?_ (.inl rfl) (.inl hdials) (Link.sentSince_of_eq hhistory)⟩
    rw [hhand]
    exact stats_countedFor hreplaces s.link
  | closing socket =>
    have hne : s.hands i ≠ .empty := by simp [hhand]
    have henters := entersReconnect_of_ne task hne
    cases socket with
    | none =>
      exact ⟨task, hheld ⟨rfl, by rw [henters]; rfl⟩ (.inr ⟨hne, rfl⟩) (.inl rfl)
        (Link.sentSince_of_eq rfl)⟩
    | some stream =>
      exact ⟨task, hheld ⟨rfl, by rw [henters]; rfl⟩ (.inr ⟨hne, rfl⟩) (.inl rfl)
        (Link.sentSince_eq [.shutdown] rfl rfl)⟩
  | cleared =>
    have hne : s.hands i ≠ .empty := by simp [hhand]
    have henters := entersReconnect_of_ne task hne
    show ∃ next, Turn i s task next (ite _ _ _)
    split
    · next hcloses =>
      obtain rfl := Task.eq_of_closes hcloses
      exact turn_connected howner hreplaces ⟨rfl, rfl, rfl⟩
    · exact ⟨task, hheld ⟨rfl, by rw [henters]; rfl⟩ (.inr ⟨hne, rfl⟩) (.inr hhand)
        (Link.sentSince_eq [.dial _ _] rfl rfl)⟩
  | dialing outcome =>
    have hsettled := settled_endDial client s.link outcome
    obtain ⟨job, phase⟩ := task
    rcases Task.phase_of_replaces hreplaces with hphase | hphase <;> obtain rfl : phase = _ := hphase
    · exact turn_connected howner hreplaces hsettled
    · exact turn_reconnected howner (hreconnect rfl) (by simp [hhand]) hsettled

/-! ### All steps -/

/-- Tasks that replace the connection have the reconnect lock. -/
def ReplacersHold (s : Staged) : Prop :=
  ∀ i job, s.pool.tasks[i]? = some ⟨job, .replacing⟩ → s.pool.reconnectLock.owner = some i

theorem owner_of_reconnecting (hcan : s.pool.canStep i = true)
    (htask : s.pool.tasks[i]? = some ⟨job, .reconnecting⟩) : s.pool.reconnectLock.owner = some i := by
  rw [Pool.canStep, htask] at hcan
  by_contra howner
  have hwake : s.pool.wakeTime? i ⟨job, .reconnecting⟩ = none := if_neg howner
  simp only [hwake] at hcan
  exact Bool.false_ne_true hcan

/-- Every step that a staged pool can make. -/
theorem turn_step (client : Client) (hreaders : s.pool.ReadersHold) (hreplacers : s.ReplacersHold)
    (hcan : s.pool.canStep i = true) :
    ∃ task next, s.pool.tasks[i]? = some task ∧ Turn i s task next (s.step client i) := by
  cases htask : s.pool.tasks[i]? with
  | none =>
    rw [Pool.canStep, htask] at hcan
    exact absurd hcan Bool.false_ne_true
  | some task =>
    suffices h : ∃ next, Turn i s task next (s.step client i) by
      obtain ⟨next, hnext⟩ := h
      exact ⟨task, next, rfl, hnext⟩
    obtain ⟨job, phase⟩ := task
    -- Tasks that replace or close the connection make a stage; all others step as in the pool.
    cases hreplaces : Task.replaces ⟨job, phase⟩ with
    | true =>
      have howner := Pool.owner_of_canStep hcan htask (Task.phase_of_replaces hreplaces)
      rw [step_eq_stage htask hreplaces]
      refine turn_stage htask hreplaces howner fun hphase => ?_
      obtain rfl : phase = .replacing := hphase
      exact hreplacers i job htask
    | false =>
      rw [step_eq_step htask hreplaces, Pool.step, htask]
      cases phase with
      | ready => exact turn_begin job
      | recovering =>
        exact ⟨⟨job, .reconnecting⟩, rfl, .kept rfl rfl, .taken rfl rfl rfl, by simp, by simp,
          by cases job <;> rfl, rfl, .idle hreplaces rfl rfl rfl rfl⟩
      | reconnecting =>
        have howner := owner_of_reconnecting hcan htask
        exact ⟨⟨job, .replacing⟩, rfl, .taken rfl rfl rfl, .kept rfl rfl, by simp, fun _ => howner,
          by cases job <;> rfl, rfl, .idle hreplaces rfl rfl rfl rfl⟩
      | connecting =>
        cases job with
        | query line retries =>
          exact turn_useConnection (Pool.owner_of_canStep hcan htask (.inl rfl))
        | _ => exact absurd hreplaces (by simp [Task.replaces])
      | replacing => exact absurd hreplaces (by cases job <;> simp [Task.replaces])
      | reading deadline =>
        obtain ⟨howner, line, retries, rfl⟩ := hreaders i job deadline htask
        exact turn_read howner
      | pausing time =>
        exact ⟨⟨job, .ready⟩, rfl, .kept rfl rfl, .kept rfl rfl, by simp, by simp,
          by cases job <;> rfl, rfl, .idle hreplaces rfl rfl rfl rfl⟩
      | finished result =>
        rw [Pool.canStep, htask] at hcan
        exact absurd hcan Bool.false_ne_true

end Staged

end AqlGateway.Remote
