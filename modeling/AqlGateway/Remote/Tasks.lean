import AqlGateway.Remote.Client

/-!
# Concurrent callers of one client

Any number of tasks may use a client at once. Two locks keep them apart: the connection lock is
held from the moment a request is written until its answer is read, and while a connection is
replaced; the reconnect lock is held around a reconnect and is always taken first. Both locks go
to those who wait for them in the order in which they began to wait.

* `Task`, `Phase` — what a task does and how far it is;
* `Pool` — the tasks, the locks and the client's link;
* `Pool.step` — one step of one task;
* `Pool.run` — steps of all tasks until each is done or waits for ever.
-/

namespace AqlGateway.Remote

/-! ### Locks -/

/-- A lock: the task that holds it, and the tasks that wait for it. -/
structure Lock where
  owner : Option Nat := none
  waiting : List Nat := []
  deriving DecidableEq, Repr

namespace Lock

/-- A task takes the lock, or begins to wait for it. -/
def acquire (lock : Lock) (task : Nat) : Lock :=
  match lock.owner with
  | none => { lock with owner := some task }
  | some _ => { lock with waiting := lock.waiting ++ [task] }

/-- The owner gives the lock to the first task that waits. -/
def release (lock : Lock) : Lock :=
  match lock.waiting with
  | [] => ⟨none, []⟩
  | next :: rest => ⟨some next, rest⟩

end Lock

/-! ### Tasks -/

/-- What a task was started for. -/
inductive Job
  /-- Sends a request line, with so many retries left. -/
  | query (line : String) (retries : Nat)
  | connect
  | close
  | reconnect
  deriving DecidableEq, Repr

inductive Phase
  | ready
  /-- An attempt of its query has failed, and it is about to reconnect. -/
  | recovering
  /-- It holds the reconnect lock or waits for it. -/
  | reconnecting
  /-- It holds the connection lock or waits for it. -/
  | connecting
  /-- It holds both locks, or waits for the connection lock holding the other. -/
  | replacing
  /-- It has written a request and holds the connection lock until the answer is read. -/
  | reading (deadline : Nat)
  /-- It pauses after a reconnect that failed. -/
  | pausing (time : Nat)
  | finished (result : Except Error Json)

structure Task where
  job : Job
  phase : Phase := .ready

/-! ### Pools -/

/-- The tasks of a client with their locks. -/
structure Pool where
  link : Link
  tasks : List Task
  connectionLock : Lock := {}
  reconnectLock : Lock := {}

namespace Pool

variable (client : Client)

def setTask (pool : Pool) (i : Nat) (job : Job) (phase : Phase) : Pool :=
  { pool with tasks := pool.tasks.set i ⟨job, phase⟩ }

/-- A task begins to take the connection lock. -/
def takeConnection (pool : Pool) (i : Nat) (job : Job) (phase : Phase) : Pool :=
  { pool.setTask i job phase with connectionLock := pool.connectionLock.acquire i }

/-- A task begins to take the reconnect lock. -/
def takeReconnect (pool : Pool) (i : Nat) (job : Job) : Pool :=
  { pool.setTask i job .reconnecting with reconnectLock := pool.reconnectLock.acquire i }

def freeConnection (pool : Pool) : Pool :=
  { pool with connectionLock := pool.connectionLock.release }

def freeReconnect (pool : Pool) : Pool :=
  { pool with reconnectLock := pool.reconnectLock.release }

/-- The result of an operation without a payload. -/
def unitResult : Except Error Unit → Except Error Json
  | .ok () => .ok .null
  | .error e => .error e

/-- An attempt of a query has failed: the task gives up, or is about to reconnect. -/
def afterFailure (pool : Pool) (i : Nat) (line : String) (retries : Nat) (e : Error) : Pool :=
  match retries with
  | 0 =>
    let result := .error (.retriesExhausted client.config.attemptLimit e)
    { pool with link := pool.link.countFailure }.setTask i (.query line 0) (.finished result)
  | retries + 1 => pool.setTask i (.query line retries) .recovering

def afterAttempt (pool : Pool) (i : Nat) (line : String) (retries : Nat) :
    Except Error Json → Pool
  | .ok data => pool.setTask i (.query line retries) (.finished (.ok data))
  | .error e => afterFailure client pool i line retries e

/-- The step of a task that is ready. -/
def begin (pool : Pool) (i : Nat) (job : Job) : Pool :=
  match job with
  | .query _ _ =>
    { pool with link := pool.link.countAttempt }.takeConnection i job .connecting
  | .reconnect => pool.takeReconnect i job
  | .connect | .close => pool.takeConnection i job .connecting

/-- The step of a task that holds the connection lock and no other. -/
def useConnection (pool : Pool) (i : Nat) (job : Job) : Pool :=
  match job with
  | .query line retries =>
    match pool.link.connection with
    | none => afterFailure client pool.freeConnection i line retries .notConnected
    | some stream =>
      let deadline := pool.link.now + client.config.ioTimeout.milliseconds
      match pool.link.send line stream with
      | (.ok (), link) => { pool with link := link }.setTask i job (.reading deadline)
      | (.error e, link) =>
        afterFailure client { pool with link := link }.freeConnection i line retries e
  | .close =>
    { pool with link := pool.link.shutdown }.freeConnection.setTask i job (.finished (.ok .null))
  | _ =>
    let (result, link) := client.connect pool.link
    { pool with link := link }.freeConnection.setTask i job (.finished (unitResult result))

/-- The step of a task that has written a request and may read. -/
def read (pool : Pool) (i : Nat) (line : String) (retries deadline : Nat) : Pool :=
  match pool.link.connection with
  | none => afterFailure client pool.freeConnection i line retries .notConnected
  | some stream =>
    let (outcome, link) := pool.link.receive client.config.ioTimeout deadline stream
    afterAttempt client { pool with link := link }.freeConnection i line retries
      (outcome.bind Envelope.result)

/-- The step of a task that holds both locks. -/
def replace (pool : Pool) (i : Nat) (job : Job) : Pool :=
  let (result, link) := client.reconnect pool.link
  let free := { pool with link := link }.freeConnection.freeReconnect
  match job, result with
  | .query _ _, .ok () => free.setTask i job .ready
  | .query _ _, .error _ =>
    { free with link := link.record (.pause client.config.retryBackoff) }.setTask i job
      (.pausing (link.now + client.config.retryBackoff.milliseconds))
  | _, result => free.setTask i job (.finished (unitResult result))

/-- The time from which on a task can make a step, none when it cannot before another task does. -/
def wakeTime? (pool : Pool) (i : Nat) (task : Task) : Option Nat :=
  let holds (lock : Lock) : Option Nat := if lock.owner = some i then some 0 else none
  match task.phase with
  | .ready => some 0
  | .recovering => some 0
  | .reconnecting => holds pool.reconnectLock
  | .connecting => holds pool.connectionLock
  | .replacing => holds pool.connectionLock
  | .reading deadline => match pool.link.connection with
    | some stream => some (stream.readTime deadline pool.link.now)
    | none => some 0
  | .pausing time => some time
  | .finished _ => none

/-- One step of a task whose time has come. -/
def step (pool : Pool) (i : Nat) : Pool :=
  match pool.tasks[i]? with
  | none => pool
  | some ⟨job, phase⟩ =>
    match phase with
    | .ready => pool.begin i job
    | .recovering => pool.takeReconnect i job
    | .reconnecting => pool.takeConnection i job .replacing
    | .connecting => useConnection client pool i job
    | .replacing => replace client pool i job
    | .reading deadline => match job with
      | .query line retries => read client pool i line retries deadline
      | _ => pool
    | .pausing _ => pool.setTask i job .ready
    | .finished _ => pool

/-- Whether a task can make a step now. -/
def canStep (pool : Pool) (i : Nat) : Bool :=
  match pool.tasks[i]? with
  | none => false
  | some task => match pool.wakeTime? i task with
    | some time => time ≤ pool.link.now
    | none => false

/-! ### Running -/

def wakeTimes (pool : Pool) : List Nat :=
  pool.tasks.zipIdx.filterMap fun (task, i) => pool.wakeTime? i task

/-- The clock set to the earliest time at which a task can make a step. -/
def advance (pool : Pool) : Pool :=
  match pool.wakeTimes with
  | [] => pool
  | time :: rest =>
    let now := max pool.link.now (rest.foldl min time)
    { pool with link := { pool.link with now := now } }

def runnable (pool : Pool) : List Nat := (List.range pool.tasks.length).filter pool.canStep

/-- The tasks that a step has given a lock to and that could not make a step before: first the one
with the connection lock, then the one with the reconnect lock. -/
def woken (before after : Pool) : List Nat :=
  (after.connectionLock.owner.toList ++ after.reconnectLock.owner.toList).filter fun i =>
    after.canStep i && !before.canStep i

/-- Runs the tasks of a queue in turn. A task goes on until it has to wait; tasks that it wakes
join the queue. When the queue is empty, the clock moves on. -/
def runWithin : (steps : Nat) → (queue : List Nat) → Pool → Pool
  | 0, _, pool => pool
  | steps + 1, i :: rest, pool =>
    let next := step client pool i
    let queue := rest ++ (woken pool next).filter (fun j => j != i && !rest.contains j)
    if next.canStep i then runWithin steps (i :: queue) next else runWithin steps queue next
  | steps + 1, [], pool =>
    if pool.wakeTimes.isEmpty then pool
    else
      let later := pool.advance
      runWithin steps later.runnable later

/-- The number of steps that tasks need at most. -/
def stepLimit (tasks : List Task) : Nat :=
  tasks.foldl (fun n task => match task.job with
    | .query _ retries => n + 12 * (retries + 2)
    | _ => n + 12) 12

/-- Runs tasks until each is done or waits for ever. -/
def run (pool : Pool) : Pool :=
  runWithin client (stepLimit pool.tasks) pool.runnable pool

end Pool

namespace Client

/-- The task of a query, or the error that its text is. -/
def queryTask (client : Client) (statement : String) : Task :=
  match encodeRequest statement with
  | .error e => ⟨.close, .finished (.error e)⟩
  | .ok line => ⟨.query line (client.config.attemptLimit - 1), .ready⟩

def taskResult (task : Task) : Except Error Json :=
  match task.phase with
  | .finished result => result
  | _ => .error .notConnected

/-- Queries that are started in order at once. -/
def concurrently (client : Client) (statements : List String) :
    StateM Link (List (Except Error Json)) := fun link =>
  let pool := Pool.run client { link := link, tasks := statements.map client.queryTask }
  (pool.tasks.map taskResult, pool.link)

end Client

end AqlGateway.Remote
