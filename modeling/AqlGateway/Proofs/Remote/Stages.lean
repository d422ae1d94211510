import Mathlib.Logic.Function.Basic
import AqlGateway.Proofs.Remote.Steps

/-!
# Connections that are replaced in stages

A task that replaces or closes the connection waits several times on the way: it takes the connection
out, shuts it down, dials, and puts the new connection in its place. In between the other tasks go on,
time passes, and what the task has taken out or is dialing stands in no link.

* `Hand`, `Staged` — what a task has in its hand, and a pool with the hands of its tasks;
* `Staged.stage`, `Staged.step` — one stage of a task, and one step;
* `Staged.make`, `Staged.Allowed` — calls, steps and time in any order;
* `Staged.tally` — how often the moves of a run do something;
* `leads_stages`, `exists_steps` — a step of a pool is one step here, or the stages of a task one after
  the other;
* `exists_staged_run` — every run of a pool is a run in stages.
-/

namespace AqlGateway.Remote

open Function (update)

/-! ### Hands -/

inductive Hand
  | empty
  /-- What it found in place of a connection, to be shut down. -/
  | closing (socket : Option Stream)
  /-- Nothing, and the connection is shut down. -/
  | cleared
  /-- A dial that is under way, and what it will lead to. -/
  | dialing (outcome : Dial)
  deriving DecidableEq, Repr

/-- The sockets in a hand; a dial under way counts as one. -/
def Hand.sockets : Hand → Nat
  | empty => 0
  | closing socket => socket.toList.length
  | cleared => 0
  | dialing _ => 1

/-- A pool with the hands of its tasks. -/
structure Staged where
  pool : Pool
  hands : Nat → Hand := fun _ => .empty

/-- A task that replaces or closes the connection as soon as it holds the connection lock. -/
def Task.replaces (task : Task) : Bool :=
  match task.job, task.phase with
  | _, .replacing => true
  | .query _ _, _ => false
  | _, .connecting => true
  | _, _ => false

/-- A task that closes the connection as soon as it holds the connection lock. -/
def Task.closes (task : Task) : Bool :=
  match task.job, task.phase with
  | .close, .connecting => true
  | _, _ => false

/-- A task that starts an attempt of its query. -/
def Task.startsAttempt (task : Task) : Bool :=
  match task.job, task.phase with
  | .query _ _, .ready => true
  | _, _ => false

/-- A task that holds both locks and has nothing in its hand yet: it enters a reconnect. -/
def Task.entersReconnect (hand : Hand) (task : Task) : Bool :=
  match task.phase, hand with
  | .replacing, .empty => true
  | _, _ => false

/-! ### Stages -/

namespace Link

/-- Counts a reconnect if that is what a task does. -/
def countedFor (link : Link) (task : Task) : Link :=
  match task.phase with
  | .replacing => link.countReconnect
  | _ => link

/-- Shuts down a socket that was taken out, if there is one. -/
def shutSocket (socket : Option Stream) (link : Link) : Link :=
  match socket with
  | none => link
  | some _ => link.record .shutdown

def beginDial (client : Client) (link : Link) : Link :=
  { link with dials := link.dials + 1 }.record (.dial client.address client.config.dialTimeout)

/-- A dial ends; the new connection is put in place. -/
def endDial (client : Client) (link : Link) : Dial → Except Error Unit × Link
  | .accept replies => (.ok (), { link with connection := some (Stream.fresh replies) })
  | .refuse text => (.error (.connection client.address text), { link with connection := none })

end Link

namespace Pool

variable (client : Client)

/-- A reconnect of task `i` is over. -/
def reconnected (pool : Pool) (i : Nat) (job : Job) (result : Except Error Unit) : Pool :=
  let free := pool.freeConnection.freeReconnect
  match job, result with
  | .query _ _, .ok () => free.setTask i job .ready
  | .query _ _, .error _ =>
    { free with link := free.link.record (.pause client.config.retryBackoff) }.setTask i job
      (.pausing (free.link.now + client.config.retryBackoff.milliseconds))
  | _, result => free.setTask i job (.finished (unitResult result))

/-- A connect of task `i` is over. -/
def connected (pool : Pool) (i : Nat) (job : Job) (result : Except Error Unit) : Pool :=
  pool.freeConnection.setTask i job (.finished (unitResult result))

/-- Task `i` has replaced the connection. -/
def settled (pool : Pool) (i : Nat) (task : Task) (result : Except Error Unit) : Pool :=
  match task.phase with
  | .replacing => pool.reconnected client i task.job result
  | _ => pool.connected i task.job result

end Pool

namespace Staged

variable (client : Client)

def link (s : Staged) : Link := s.pool.link

/-- Something in the hand of a task, and something done to the link. -/
def hold (s : Staged) (i : Nat) (hand : Hand) (link : Link) : Staged :=
  ⟨{ s.pool with link := link }, update s.hands i hand⟩

/-- The next stage of a task that replaces or closes the connection. -/
def stage (s : Staged) (i : Nat) (task : Task) : Staged :=
  match s.hands i with
  | .empty =>
    s.hold i (.closing s.link.connection) { s.link.countedFor task with connection := none }
  | .closing socket => s.hold i .cleared (s.link.shutSocket socket)
  | .cleared =>
    if task.closes then ⟨s.pool.connected i task.job (.ok ()), update s.hands i .empty⟩
    else s.hold i (.dialing (s.link.dialing s.link.dials)) (s.link.beginDial client)
  | .dialing outcome =>
    let (result, link) := s.link.endDial client outcome
    ⟨{ s.pool with link := link }.settled client i task result, update s.hands i .empty⟩

/-- One step of a task; a task that replaces or closes the connection makes it in stages. -/
def step (s : Staged) (i : Nat) : Staged :=
  match s.pool.tasks[i]? with
  | none => s
  | some task =>
    if task.replaces then s.stage client i task else { s with pool := s.pool.step client i }

/-! ### Runs -/

def start (dialing : Nat → Dial) : Staged := { pool := (Run.start dialing).pool }

def make (s : Staged) : Move → Staged
  | .call call => { s with pool := { s.pool with tasks := s.pool.tasks ++ [call.task client] } }
  | .step i => s.step client i
  | .wait time => { s with pool := { s.pool with link := { s.pool.link with now := time } } }

/-- A task makes a step only when it can, and time does not go back. -/
def Allows (s : Staged) : Move → Prop
  | .call _ => True
  | .step i => s.pool.canStep i = true
  | .wait time => s.link.now ≤ time

instance (s : Staged) : (move : Move) → Decidable (s.Allows move)
  | .call _ => inferInstanceAs (Decidable True)
  | .step i => inferInstanceAs (Decidable (s.pool.canStep i = true))
  | .wait time => inferInstanceAs (Decidable (s.link.now ≤ time))

/-- What moves make of a staged pool, one after the other. -/
def after (s : Staged) (moves : List Move) : Staged := moves.foldl (make client) s

/-- Each move is possible when it is made. -/
def Allowed : Staged → List Move → Prop
  | _, [] => True
  | s, move :: moves => s.Allows move ∧ Allowed (s.make client move) moves

instance decidableAllowed : (s : Staged) → (moves : List Move) → Decidable (s.Allowed client moves)
  | _, [] => inferInstanceAs (Decidable True)
  | s, move :: moves =>
    have := decidableAllowed (s.make client move) moves
    inferInstanceAs (Decidable (s.Allows move ∧ (s.make client move).Allowed client moves))

/-- How many of the moves of a run do something. -/
def tally (does : Staged → Move → Bool) : Staged → List Move → Nat
  | _, [] => 0
  | s, move :: moves => (does s move).toNat + tally does (s.make client move) moves

/-- A move starts an attempt of a query. -/
def startsAttempt (s : Staged) : Move → Bool
  | .step i => s.pool.tasks[i]?.any Task.startsAttempt
  | _ => false

/-- A move enters a reconnect. -/
def entersReconnect (s : Staged) : Move → Bool
  | .step i => s.pool.tasks[i]?.any (Task.entersReconnect (s.hands i))
  | _ => false

variable {client : Client} {s : Staged} {moves more : List Move} {move : Move}

theorem after_append : s.after client (moves ++ more) = (s.after client moves).after client more :=
  List.foldl_append

theorem allowed_append :
    s.Allowed client (moves ++ more) ↔
      s.Allowed client moves ∧ (s.after client moves).Allowed client more := by
  induction moves generalizing s with
  | nil => exact (and_iff_right trivial).symm
  | cons move moves ih =>
    show s.Allows move ∧ (s.make client move).Allowed client (moves ++ more) ↔ _
    rw [ih, ← and_assoc]
    rfl

/-- What each move keeps holds after every run. -/
theorem after_of_make {P : Staged → Prop}
    (hmake : ∀ s move, s.Allows move → P s → P (s.make client move)) (hmoves : s.Allowed client moves)
    (h : P s) : P (s.after client moves) := by
  induction moves generalizing s with
  | nil => exact h
  | cons move moves ih => exact ih hmoves.2 (hmake s move hmoves.1 h)

end Staged

/-! ### A pool makes its steps in stages -/

theorem Link.shutdown_eq_shutSocket (link : Link) :
    link.shutdown = ({ link with connection := none } : Link).shutSocket link.connection := by
  obtain ⟨dialing, dials, now, connection, stats, history⟩ := link
  cases connection <;> rfl

/-- A connection is replaced by shutting it down, beginning a dial and ending it. -/
theorem Client.connect_eq (client : Client) (link : Link) {down : Link}
    (hdown : ({ link with connection := none } : Link).shutSocket link.connection = down) :
    client.connect link = (down.beginDial client).endDial client (down.dialing down.dials) := by
  rw [connect, Link.shutdown_eq_shutSocket, hdown, Link.dial]
  cases down.dialing down.dials <;> rfl

namespace Task

variable {task : Task}

/-- A task that replaces or closes the connection is behind one of two locks. -/
theorem phase_of_replaces (h : task.replaces = true) :
    task.phase = .connecting ∨ task.phase = .replacing := by
  obtain ⟨job, phase⟩ := task
  cases phase with
  | connecting => exact .inl rfl
  | replacing => exact .inr rfl
  | _ => cases job <;> exact absurd h Bool.false_ne_true

theorem eq_of_closes (h : task.closes = true) : task = ⟨.close, .connecting⟩ := by
  obtain ⟨job, phase⟩ := task
  cases job <;> cases phase <;> first | rfl | exact absurd h Bool.false_ne_true

end Task

theorem Link.connection_countedFor (link : Link) (task : Task) :
    (link.countedFor task).connection = link.connection := by
  rw [countedFor]
  split <;> rfl

namespace Pool

variable {client : Client} {pool : Pool} {i : Nat} {job : Job}

theorem canStep_of_owner {task : Task} (htask : pool.tasks[i]? = some task)
    (hreplaces : task.replaces = true) (howner : pool.connectionLock.owner = some i) :
    pool.canStep i = true := by
  have hwake : pool.wakeTime? i task = some 0 := by
    rcases Task.phase_of_replaces hreplaces with hphase | hphase <;>
      simp only [wakeTime?, hphase, howner, if_true]
  rw [canStep, htask]
  simp only [hwake]
  exact decide_eq_true (Nat.zero_le _)

/-- What a task that replaces the connection makes of its pool. -/
theorem step_of_replaces {task : Task} (htask : pool.tasks[i]? = some task)
    (hreplaces : task.replaces = true) (hcloses : task.closes = false) :
    pool.step client i
      = ({ pool with link := (client.connect (pool.link.countedFor task)).2 } : Pool).settled client i
          task (client.connect (pool.link.countedFor task)).1 := by
  obtain ⟨job, phase⟩ := task
  rw [step, htask]
  rcases Task.phase_of_replaces hreplaces with hphase | hphase <;> obtain rfl : phase = _ := hphase
  · cases job with
    | query line retries => exact absurd hreplaces Bool.false_ne_true
    | close => exact absurd hcloses (by simp [Task.closes])
    | connect => rfl
    | reconnect => rfl
  · show replace client pool i job = _
    rw [replace, Client.reconnect]
    show _ = Pool.settled client { pool with link := (client.connect pool.link.countReconnect).2 } i _
      (client.connect pool.link.countReconnect).1
    rcases client.connect pool.link.countReconnect with ⟨result, link⟩
    cases job <;> cases result <;> rfl

/-- A close that is made in one go, written out. -/
theorem step_of_closes {task : Task} (htask : pool.tasks[i]? = some task)
    (hcloses : task.closes = true) :
    pool.step client i
      = ({ pool with link := pool.link.shutdown } : Pool).connected i task.job (.ok ()) := by
  obtain rfl := Task.eq_of_closes hcloses
  rw [step, htask]
  rfl

end Pool

namespace Staged

variable {client : Client} {s : Staged} {i : Nat} {task : Task}

theorem step_eq_stage (htask : s.pool.tasks[i]? = some task) (hreplaces : task.replaces = true) :
    s.step client i = s.stage client i task := by
  rw [step, htask]
  exact if_pos hreplaces

theorem step_eq_step (htask : s.pool.tasks[i]? = some task) (hreplaces : task.replaces = false) :
    s.step client i = { s with pool := s.pool.step client i } := by
  rw [step, htask]
  exact if_neg (by simp [hreplaces])

/-! #### The stages of a task, one behind the other -/

section Hold

variable {hand next : Hand} {link after : Link}

theorem hold_hold : (s.hold i hand link).hold i next after = s.hold i next after := by
  rw [hold, hold, hold, Function.update_idem]

theorem hands_hold : (s.hold i hand link).hands i = hand := Function.update_self _ _ _

/-- The first stage takes the connection out of the link. -/
theorem stage_empty (h : s.hands i = .empty) :
    s.stage client i task
      = s.hold i (.closing s.link.connection)
          { s.link.countedFor task with connection := none } := by
  rw [stage, h]

theorem stage_closing (socket : Option Stream) :
    (s.hold i (.closing socket) link).stage client i task
      = s.hold i .cleared (link.shutSocket socket) := by
  rw [stage, hands_hold]
  exact hold_hold

/-- With the old connection shut down, a dial begins. -/
theorem stage_cleared (h : task.closes = false) :
    (s.hold i .cleared link).stage client i task
      = s.hold i (.dialing (link.dialing link.dials)) (link.beginDial client) := by
  rw [stage, hands_hold]
  show ite _ _ _ = _
  rw [if_neg (by simp [h])]
  exact hold_hold

theorem stage_cleared_close (h : task.closes = true) :
    (s.hold i .cleared link).stage client i task
      = ⟨({ s.pool with link := link } : Pool).connected i task.job (.ok ()),
          update s.hands i .empty⟩ := by
  rw [stage, hands_hold]
  show ite _ _ _ = _
  rw [if_pos h, hold, Function.update_idem]

theorem stage_dialing (outcome : Dial) :
    (s.hold i (.dialing outcome) link).stage client i task
      = ⟨({ s.pool with link := (link.endDial client outcome).2 } : Pool).settled client i task
            (link.endDial client outcome).1, update s.hands i .empty⟩ := by
  rw [stage, hands_hold]
  show Staged.mk _ (update (update s.hands i _) i .empty) = _
  rw [Function.update_idem]
  rfl

end Hold

/-- Task `i` alone makes steps that lead from one staged pool to another. -/
def Leads (client : Client) (i : Nat) (s t : Staged) : Prop :=
  ∃ n, s.Allowed client (List.replicate n (.step i)) ∧ s.after client (List.replicate n (.step i)) = t

theorem Leads.refl (s : Staged) : Leads client i s s := ⟨0, trivial, rfl⟩

theorem Leads.head {t u : Staged} (hcan : s.pool.canStep i = true) (hstep : s.step client i = t)
    (h : Leads client i t u) : Leads client i s u := by
  subst hstep
  obtain ⟨n, hallowed, hafter⟩ := h
  exact ⟨n + 1, ⟨hcan, hallowed⟩, hafter⟩

/-- The stages of a task lead to what its step makes of the pool. -/
theorem leads_stages (htask : s.pool.tasks[i]? = some task) (hreplaces : task.replaces = true)
    (howner : s.pool.connectionLock.owner = some i) (hempty : s.hands i = .empty) :
    Leads client i s ⟨s.pool.step client i, s.hands⟩ := by
  have hcan (hand : Hand) (link : Link) : (s.hold i hand link).pool.canStep i = true :=
    Pool.canStep_of_owner htask hreplaces howner
  have hstage (hand : Hand) (link : Link) :
      (s.hold i hand link).step client i = (s.hold i hand link).stage client i task :=
    step_eq_stage htask hreplaces
  have hhands : update s.hands i .empty = s.hands := by
    rw [← hempty, Function.update_eq_self]
  refine .head (Pool.canStep_of_owner htask hreplaces howner)
    ((step_eq_stage htask hreplaces).trans (stage_empty hempty)) ?_
  refine .head (hcan _ _) ((hstage _ _).trans (stage_closing _)) ?_
  -- A close ends with the shutdown; a connect or a reconnect goes on to dial.
  cases hcloses : task.closes with
  | true =>
    refine .head (hcan _ _) ((hstage _ _).trans (stage_cleared_close hcloses)) ?_
    rw [hhands, Pool.step_of_closes htask hcloses, Link.shutdown_eq_shutSocket]
    obtain rfl := Task.eq_of_closes hcloses
    exact .refl _
  | false =>
    refine .head (hcan _ _) ((hstage _ _).trans (stage_cleared hcloses)) ?_
    refine .head (hcan _ _) ((hstage _ _).trans (stage_dialing _)) ?_
    have hconnect := Client.connect_eq client (s.link.countedFor task) rfl
    rw [Link.connection_countedFor] at hconnect
    rw [hhands, Pool.step_of_replaces htask hreplaces hcloses]
    show Leads client i _ (Staged.mk (Pool.settled client
      { s.pool with link := (client.connect (s.link.countedFor task)).2 } i task
      (client.connect (s.link.countedFor task)).1) s.hands)
    rw [hconnect]
    exact .refl _

end Staged

/-! ### Runs of a pool -/

namespace Staged

variable {client : Client}

/-- A pool in which nobody has anything in the hand. -/
def resting (pool : Pool) : Staged := { pool := pool }

/-- Every step of a pool is made by stages in which no other task takes part. -/
theorem exists_steps (client : Client) {pool : Pool} {i : Nat} (hcan : pool.canStep i = true) :
    Leads client i (resting pool) (resting (pool.step client i)) := by
  cases htask : pool.tasks[i]? with
  | none =>
    rw [Pool.canStep, htask] at hcan
    exact absurd hcan Bool.false_ne_true
  | some task =>
    cases hreplaces : task.replaces with
    | true =>
      have howner := Pool.owner_of_canStep hcan htask (Task.phase_of_replaces hreplaces)
      exact leads_stages (s := resting pool) htask hreplaces howner rfl
    | false => exact .head hcan (step_eq_step (s := resting pool) htask hreplaces) (.refl _)

theorem pool_step (run : Run) (i : Nat) : (run.step client i).pool = run.pool.step client i := by
  rw [Run.step]
  cases htask : run.pool.tasks[i]? with
  | none => rw [Pool.step, htask]
  | some task => rfl

/-- Every run of a pool is a run in stages. -/
theorem exists_staged_run {run : Run} {moves : List Move} (hmoves : run.Allowed client moves) :
    ∃ staged, (resting run.pool).Allowed client staged ∧
      (resting run.pool).after client staged = resting (run.after client moves).pool := by
  induction moves generalizing run with
  | nil => exact ⟨[], trivial, rfl⟩
  | cons move moves ih =>
    obtain ⟨hallows, hmoves⟩ := hmoves
    obtain ⟨staged, hallowed, hafter⟩ := ih hmoves
    cases move with
    | call call => exact ⟨.call call :: staged, ⟨trivial, hallowed⟩, hafter⟩
    | wait time => exact ⟨.wait time :: staged, ⟨hallows, hallowed⟩, hafter⟩
    | step i =>
      obtain ⟨n, hsteps, hbehind⟩ := exists_steps client hallows
      have hpool : (run.make client (.step i)).pool = run.pool.step client i := pool_step run i
      rw [hpool, ← hbehind] at hallowed hafter
      refine ⟨List.replicate n (.step i) ++ staged, allowed_append.mpr ⟨hsteps, hallowed⟩, ?_⟩
      rw [after_append]
      exact hafter

end Staged

end AqlGateway.Remote
