import AqlGateway.Remote.Tasks

/-!
# Calls that take turns in any order

Calls come in at any time, and their tasks make steps in any order. A run keeps the calls, and which
task wrote which request line in which attempt, on which connection and behind how many others.

* `Call`, `Call.task` — what a caller asks for, and the task of it;
* `Move`, `Run.make` — a call comes in, a task makes a step, or time passes;
* `Run.Allowed` — moves of which each is possible when it is made;
* `Request`, `Run.requests` — the request lines that were written; `Run.attempts` — the attempts of a task;
* `Run.after_of_make` — what each move keeps holds after every run.
-/

namespace AqlGateway.Remote

/-! ### Calls -/

inductive Call
  | query (statement : String)
  | connect
  | reconnect
  | close
  deriving DecidableEq, Repr

def Call.task (client : Client) : Call → Task
  | .query statement => client.queryTask statement
  | .connect => ⟨.connect, .ready⟩
  | .reconnect => ⟨.reconnect, .ready⟩
  | .close => ⟨.close, .ready⟩

/-! ### Requests -/

/-- The request line that an action writes. -/
def Action.line? : Action → Option String
  | .send line => some line
  | _ => none

/-- The request lines that were written between two states of a link. -/
def Link.sentSince (before after : Link) : List String :=
  (after.history.drop before.history.length).filterMap Action.line?

theorem Link.sentSince_eq {before after : Link} {lines : List String} (actions : List Action)
    (h : after.history = before.history ++ actions) (hlines : actions.filterMap Action.line? = lines) :
    before.sentSince after = lines := by
  rw [sentSince, h, List.drop_left, hlines]

theorem Link.sentSince_of_eq {before after : Link} (h : after.history = before.history) :
    before.sentSince after = [] :=
  sentSince_eq [] (h.trans (List.append_nil _).symm) rfl

structure Request where
  task : Nat
  /-- How many attempts the task had begun when it wrote. -/
  attempt : Nat
  line : String
  /-- The dial that made the connection. -/
  connection : Nat
  /-- How many requests were written on the connection before. -/
  position : Nat
  deriving DecidableEq, Repr

/-! ### Runs -/

/-- What can happen next. -/
inductive Move
  | call (call : Call)
  | step (task : Nat)
  | wait (time : Nat)
  deriving DecidableEq, Repr

/-- A client, the calls that came in so far, a task for each, and the requests that were written. -/
structure Run where
  pool : Pool
  calls : List Call := []
  requests : List Request := []
  /-- The tasks that began an attempt, in order. -/
  begun : List Nat := []

/-- Whether a task is about to begin an attempt. -/
def Task.isReady (task : Task) : Bool :=
  match task.phase with
  | .ready => true
  | _ => false

namespace Run

variable (client : Client)

/-- A client that nobody has called yet. -/
def start (dialing : Nat → Dial) : Run := { pool := { link := { dialing := dialing }, tasks := [] } }

/-- The last connection that was dialed. -/
def connection (run : Run) : Nat := run.pool.link.dials - 1

/-- The requests that were written on the last connection. -/
def outgoing (run : Run) : List Request :=
  run.requests.filter fun request => request.connection = run.connection

/-- How many attempts a task has begun. -/
def attempts (run : Run) (i : Nat) : Nat := run.begun.count i

/-- The request for which a task writes a line. -/
def request (run : Run) (i : Nat) (line : String) : Request :=
  ⟨i, run.attempts i, line, run.connection, run.outgoing.length⟩

def step (run : Run) (i : Nat) : Run :=
  match run.pool.tasks[i]? with
  | none => run
  | some task =>
    let after := run.pool.step client i
    { run with
      pool := after
      requests := run.requests ++ (run.pool.link.sentSince after.link).map (run.request i)
      begun := if task.isReady then run.begun ++ [i] else run.begun }

def make (run : Run) : Move → Run
  | .call call =>
    { run with
      pool := { run.pool with tasks := run.pool.tasks ++ [call.task client] }
      calls := run.calls ++ [call] }
  | .step i => run.step client i
  | .wait time => { run with pool := { run.pool with link := { run.pool.link with now := time } } }

/-- A task makes a step only when it can, and time does not go back. -/
def Allows (run : Run) : Move → Prop
  | .call _ => True
  | .step i => run.pool.canStep i = true
  | .wait time => run.pool.link.now ≤ time

instance (run : Run) : (move : Move) → Decidable (run.Allows move)
  | .call _ => inferInstanceAs (Decidable True)
  | .step i => inferInstanceAs (Decidable (run.pool.canStep i = true))
  | .wait time => inferInstanceAs (Decidable (run.pool.link.now ≤ time))

/-- What moves make of a run, one after the other. -/
def after (run : Run) (moves : List Move) : Run := moves.foldl (make client) run

/-- Each move is possible when it is made. -/
def Allowed : Run → List Move → Prop
  | _, [] => True
  | run, move :: moves => run.Allows move ∧ Allowed (run.make client move) moves

instance decidableAllowed : (run : Run) → (moves : List Move) → Decidable (run.Allowed client moves)
  | _, [] => inferInstanceAs (Decidable True)
  | run, move :: moves =>
    have := decidableAllowed (run.make client move) moves
    inferInstanceAs (Decidable (run.Allows move ∧ (run.make client move).Allowed client moves))

/-- What each move keeps holds after every run. -/
theorem after_of_make {client : Client} {P : Run → Prop}
    (hmake : ∀ run move, run.Allows move → P run → P (run.make client move)) {run : Run}
    {moves : List Move} (hmoves : run.Allowed client moves) (h : P run) :
    P (run.after client moves) := by
  induction moves generalizing run with
  | nil => exact h
  | cons move moves ih => exact ih hmoves.2 (hmake run move hmoves.1 h)

end Run

end AqlGateway.Remote
