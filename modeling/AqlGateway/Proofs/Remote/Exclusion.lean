import Mathlib.Algebra.BigOperators.Group.Finset.Basic
import Mathlib.Logic.Relation
import AqlGateway.Proofs.Remote.Turns

/-!
# One connection for all callers

Calls come in at any time, tasks make their steps and stages in any order, dials fail and servers
fail. The two locks keep the tasks apart all the same.

* `Staged.Sound` — what holds in every state: who uses which lock, and who has something in the hand;
* `Sound.turn`, `Sound.after` — a step keeps it, and so does a run; `Sound.of_run` — it holds of every
  run of a pool;
* `Staged.live` — the sockets that there are, in the link, in the hands and being dialed;
* `LeftAlone` — nobody but its task has touched a connection;
* `Pool.WaitsFor` — a task waits for a lock that another one holds;
* `one_connection` — the guarantees of the locks, for every run.
-/

namespace AqlGateway.Remote

open Function (update)

/-! ### What holds in every state -/

namespace Staged

/-- The tasks that use a lock stand in its queue, those that read or replace have the locks for it,
and only a task that replaces or closes the connection has something in its hand. -/
structure Sound (s : Staged) : Prop where
  connection : Serves Phase.usesConnection s.pool.tasks s.pool.connectionLock
  reconnect : Serves Phase.usesReconnect s.pool.tasks s.pool.reconnectLock
  readers : s.pool.ReadersHold
  replacers : s.ReplacersHold
  hands : ∀ i, s.hands i ≠ .empty → s.pool.connectionLock.owner = some i ∧
    s.link.connection = none ∧ ∃ task, s.pool.tasks[i]? = some task ∧ task.replaces = true

theorem sound_start (dialing : Nat → Dial) : (start dialing).Sound where
  connection := ⟨fun _ => rfl, List.nodup_nil, fun i => by simp [start, Run.start, Lock.users]⟩
  reconnect := ⟨fun _ => rfl, List.nodup_nil, fun i => by simp [start, Run.start, Lock.users]⟩
  readers := fun i job deadline htask => absurd htask (by simp [start, Run.start])
  replacers := fun i job htask => absurd htask (by simp [start, Run.start])
  hands := fun i hne => absurd rfl hne

namespace Sound

variable {client : Client} {s t : Staged} {i j : Nat} {task next : Task} {moves : List Move}

/-! ### Steps -/

/-- A task that begins to read has the lock, and no other step takes it away. -/
theorem readers_turn (h : s.Sound) (hturn : Turn i s task next t) : t.pool.ReadersHold := by
  intro j job deadline hj
  by_cases hne : j = i
  · subst hne
    obtain rfl := hturn.eq_next hj
    exact hturn.reading deadline rfl
  · rw [hturn.getElem?_of_ne hne] at hj
    obtain ⟨howner, hjob⟩ := h.readers j job deadline hj
    exact ⟨hturn.connectionLock.owner_of_ne hne howner, hjob⟩

theorem replacers_turn (h : s.Sound) (hturn : Turn i s task next t) : t.ReplacersHold := by
  intro j job hj
  by_cases hne : j = i
  · subst hne
    obtain rfl := hturn.eq_next hj
    exact hturn.replacing rfl
  · rw [hturn.getElem?_of_ne hne] at hj
    exact hturn.reconnectLock.owner_of_ne hne (h.replacers j job hj)

/-- Only the owner of the connection lock has something in its hand. -/
theorem eq_of_hand (h : s.Sound) (howner : s.pool.connectionLock.owner = some i)
    (hj : s.hands j ≠ .empty) : j = i :=
  Option.some.inj ((h.hands j hj).1.symm.trans howner)

/-- A task that does not replace the connection has nothing in its hand. -/
theorem hand_of_not_replaces (h : s.Sound) (htask : s.pool.tasks[i]? = some task)
    (hreplaces : task.replaces = false) : s.hands i = .empty := by
  by_contra hne
  obtain ⟨-, -, other, hother, htrue⟩ := h.hands i hne
  rw [Option.some.inj (htask.symm.trans hother), htrue] at hreplaces
  exact Bool.noConfusion hreplaces

/-- What is in a hand came out of the link, so the link has no connection meanwhile. -/
theorem hands_turn (h : s.Sound) (htask : s.pool.tasks[i]? = some task)
    (hturn : Turn i s task next t) (hj : t.hands j ≠ .empty) :
    t.pool.connectionLock.owner = some j ∧ t.link.connection = none ∧
      ∃ task, t.pool.tasks[j]? = some task ∧ task.replaces = true := by
  -- Whoever has something in the hand owns the connection lock, so no two tasks have.
  cases hturn.deed with
  | idle hreplaces hconnection hdials hhistory hhands =>
    rw [hhands] at hj
    have hne : j ≠ i := by
      rintro rfl
      exact hj (h.hand_of_not_replaces htask hreplaces)
    obtain ⟨howner, hnone, hother⟩ := h.hands j hj
    rw [hturn.getElem?_of_ne hne, hconnection]
    exact ⟨hturn.connectionLock.owner_of_ne hne howner, hnone, hother⟩
  | used howner hreplaces hdials hhands hsent =>
    rw [hhands] at hj
    obtain rfl := h.eq_of_hand howner hj
    exact absurd (h.hand_of_not_replaces htask hreplaces) hj
  | staged howner hreplaces hnext hconnection hdials hsilent hhands =>
    have heq : j = i := by
      by_contra hne
      rw [hhands, Function.update_of_ne hne] at hj
      exact hne (h.eq_of_hand howner hj)
    subst heq hnext
    have huses : next.phase.usesConnection = true := by
      rcases Task.phase_of_replaces hreplaces with hphase | hphase <;> rw [hphase] <;> rfl
    refine ⟨hturn.connectionLock.owner_of_uses huses huses howner, ?_,
      next, hturn.getElem?_self htask, hreplaces⟩
    rcases hconnection with hnone | ⟨hhand, hsame⟩
    · exact hnone
    · exact hsame.trans (h.hands j hhand).2.1
  | settled howner hreplaces hdials hsilent hhands =>
    rw [hhands] at hj
    by_cases hne : j = i
    · rw [hne, Function.update_self] at hj
      exact absurd rfl hj
    · rw [Function.update_of_ne hne] at hj
      exact absurd (h.eq_of_hand howner hj) hne

/-- A step keeps it. -/
theorem turn (h : s.Sound) (htask : s.pool.tasks[i]? = some task) (hturn : Turn i s task next t) :
    t.Sound where
  connection := hturn.tasks ▸ h.connection.step htask hturn.connectionLock
  reconnect := hturn.tasks ▸ h.reconnect.step htask hturn.reconnectLock
  readers := h.readers_turn hturn
  replacers := h.replacers_turn hturn
  hands _ hj := h.hands_turn htask hturn hj

/-! ### Runs -/

theorem isFree_task (client : Client) (call : Call) : (call.task client).isFree := by
  cases call with
  | query statement =>
    rw [Call.task, Client.queryTask]
    cases encodeRequest statement <;> exact ⟨rfl, rfl⟩
  | _ => exact ⟨rfl, rfl⟩

/-- A task that uses a lock is not the one that was called last. -/
theorem getElem?_of_call {tasks : List Task} {other : Task} (hfree : task.isFree)
    (huses : other.phase.usesConnection = true) (hj : (tasks ++ [task])[j]? = some other) :
    tasks[j]? = some other := by
  rcases Nat.lt_or_ge j tasks.length with hlt | hge
  · rwa [List.getElem?_append_left hlt] at hj
  · rw [List.getElem?_append_right hge] at hj
    obtain rfl := List.mem_singleton.mp (List.mem_of_getElem? hj)
    rw [hfree.1] at huses
    exact absurd huses Bool.false_ne_true

theorem call (h : s.Sound) (call : Call) : (s.make client (.call call)).Sound where
  connection := h.connection.append (isFree_task client call).1
  reconnect := h.reconnect.append (isFree_task client call).2
  readers i job deadline hi :=
    h.readers i job deadline (getElem?_of_call (isFree_task client call) rfl hi)
  replacers i job hi := h.replacers i job (getElem?_of_call (isFree_task client call) rfl hi)
  hands i hne := by
    obtain ⟨howner, hnone, task, htask, hreplaces⟩ := h.hands i hne
    have hlt : i < s.pool.tasks.length := (List.getElem?_eq_some_iff.mp htask).1
    exact ⟨howner, hnone, task, (List.getElem?_append_left hlt).trans htask, hreplaces⟩

/-- Every move of a staged pool keeps the locks and hands in order. -/
theorem make (h : s.Sound) {move : Move} (hallows : s.Allows move) : (s.make client move).Sound := by
  cases move with
  | call request => exact h.call request
  | wait time => exact ⟨h.connection, h.reconnect, h.readers, h.replacers, h.hands⟩
  | step i =>
    obtain ⟨task, next, htask, hturn⟩ := turn_step client h.readers h.replacers hallows
    exact h.turn htask hturn

/-- A run keeps it. -/
theorem after (h : s.Sound) (hmoves : s.Allowed client moves) : (s.after client moves).Sound :=
  after_of_make (fun _ _ hallows h => h.make hallows) hmoves h

/-- It holds of a pool that makes its steps in one go, too. -/
theorem of_run {dialing : Nat → Dial} (hmoves : (Run.start dialing).Allowed client moves) :
    (resting ((Run.start dialing).after client moves).pool).Sound := by
  obtain ⟨staged, hstaged, hafter⟩ := exists_staged_run hmoves
  rw [← hafter]
  exact (sound_start dialing).after hstaged

end Sound

/-! ### Sockets -/

/-- The sockets that there are: the connection, and what tasks have taken out or are dialing. -/
def live (s : Staged) : Nat :=
  s.link.connection.toList.length
    + (Finset.range s.pool.tasks.length).sum fun i => (s.hands i).sockets

section Sockets

variable {client : Client} {s t : Staged} {i : Nat} {task next : Task}

/-- When a task has something in its hand, that is all there is. -/
theorem live_of_hand (h : s.Sound) (hne : s.hands i ≠ .empty) : s.live = (s.hands i).sockets := by
  obtain ⟨howner, hnone, task, htask, -⟩ := h.hands i hne
  have hmem : i ∈ Finset.range s.pool.tasks.length :=
    Finset.mem_range.mpr (List.getElem?_eq_some_iff.mp htask).1
  have hothers : ∀ j ∈ Finset.range s.pool.tasks.length, j ≠ i → (s.hands j).sockets = 0 := by
    intro j _ hji
    have hempty : s.hands j = .empty := by
      by_contra hj
      exact hji (h.eq_of_hand howner hj)
    rw [hempty]
    rfl
  rw [live, hnone, Finset.sum_eq_single_of_mem i hmem hothers]
  exact Nat.zero_add _

/-- With empty hands, the sockets are those in the link. -/
theorem live_of_empty (h : ∀ i, s.hands i = .empty) :
    s.live = s.link.connection.toList.length := by
  have hsum : ((Finset.range s.pool.tasks.length).sum fun i => (s.hands i).sockets) = 0 :=
    Finset.sum_eq_zero fun i _ => by rw [h i]; rfl
  rw [live, hsum]
  rfl

theorem length_toList_le_one {α : Type} (o : Option α) : o.toList.length ≤ 1 := by
  cases o <;> simp

theorem sockets_le_one (hand : Hand) : hand.sockets ≤ 1 := by
  cases hand with
  | closing socket => exact length_toList_le_one socket
  | dialing outcome => exact Nat.le_refl 1
  | _ => exact Nat.zero_le 1

/-- There is never more than one socket. -/
theorem live_le_one (h : s.Sound) : s.live ≤ 1 := by
  by_cases hempty : ∀ i, s.hands i = .empty
  · rw [live_of_empty hempty]
    exact length_toList_le_one _
  · obtain ⟨i, hne⟩ := not_forall.mp hempty
    rw [live_of_hand h hne]
    exact sockets_le_one _

/-- A dial begins when there is no socket. -/
theorem live_of_dial (h : s.Sound) (hturn : Turn i s task next t)
    (hdials : t.link.dials ≠ s.link.dials) : s.live = 0 := by
  cases hturn.deed with
  | idle _ _ hsame _ _ => exact absurd hsame hdials
  | used _ _ hsame _ _ => exact absurd hsame hdials
  | staged _ _ _ _ hdial _ _ =>
    have hcleared : s.hands i = .cleared := hdial.resolve_left hdials
    have hne : s.hands i ≠ .empty := by simp [hcleared]
    rw [live_of_hand h hne, hcleared]
    rfl
  | settled _ _ hsame _ _ => exact absurd hsame hdials

end Sockets

/-! ### Exchanges -/

/-- What the task of an exchange finds in `t` as it left it in `s`: nobody else has written, read,
replaced, closed or dialed. -/
structure LeftAlone (i : Nat) (s t : Staged) : Prop where
  task : t.pool.tasks[i]? = s.pool.tasks[i]?
  connection : t.link.connection = s.link.connection
  dials : t.link.dials = s.link.dials
  history : t.link.history = s.link.history
  hands : ∀ j, t.hands j = .empty
  reader : ∀ j job deadline, t.pool.tasks[j]? = some ⟨job, .reading deadline⟩ → j = i

section Exchanges

variable {client : Client} {s t : Staged} {i j : Nat} {task next : Task} {moves : List Move}
  {job : Job} {deadline : Nat}

/-- A task that has just written a request reads the answer next. -/
theorem reading_of_sent (htask : s.pool.tasks[i]? = some task) (hturn : Turn i s task next t)
    (hsent : s.link.sentSince t.link ≠ []) :
    ∃ job deadline, t.pool.tasks[i]? = some ⟨job, .reading deadline⟩ := by
  rw [hturn.getElem?_self htask]
  cases hturn.deed with
  | idle _ _ _ hhistory _ => exact absurd (Link.sentSince_of_eq hhistory) hsent
  | used _ _ _ _ hreads =>
    obtain ⟨deadline, hphase⟩ := hreads.resolve_left hsent
    exact ⟨next.job, deadline, by rw [← hphase]⟩
  | staged _ _ _ _ _ hsilent _ => exact absurd hsilent hsent
  | settled _ _ _ hsilent _ => exact absurd hsilent hsent

/-- While a task reads an answer, nobody has anything in the hand and nobody else reads. -/
theorem leftAlone_self (h : s.Sound) (htask : s.pool.tasks[i]? = some ⟨job, .reading deadline⟩) :
    LeftAlone i s s where
  task := rfl
  connection := rfl
  dials := rfl
  history := rfl
  hands j := by
    by_contra hne
    obtain rfl := h.eq_of_hand (h.readers i job deadline htask).1 hne
    exact hne (h.hand_of_not_replaces htask (by cases job <;> rfl))
  reader j other time hj := by
    have hother := (h.readers j other time hj).1
    exact Option.some.inj (hother.symm.trans (h.readers i job deadline htask).1)

theorem LeftAlone.trans {u : Staged} (h : LeftAlone i s t) (h' : LeftAlone i t u) :
    LeftAlone i s u where
  task := h'.task.trans h.task
  connection := h'.connection.trans h.connection
  dials := h'.dials.trans h.dials
  history := h'.history.trans h.history
  hands := h'.hands
  reader := h'.reader

/-- A step of another task does not need the connection. -/
theorem leftAlone_turn (h : s.Sound) (htask : s.pool.tasks[i]? = some ⟨job, .reading deadline⟩)
    (hne : i ≠ j) (hturn : Turn j s task next t) (hsound : t.Sound) : LeftAlone i s t := by
  have howner := (h.readers i job deadline htask).1
  have hother : s.pool.connectionLock.owner ≠ some j := fun hj =>
    hne (Option.some.inj (howner.symm.trans hj))
  have hsame := hturn.getElem?_of_ne hne
  have hself := leftAlone_self hsound (hsame.trans htask)
  cases hturn.deed with
  | idle _ hconnection hdials hhistory _ =>
    exact ⟨hsame, hconnection, hdials, hhistory, hself.hands, hself.reader⟩
  | used hj _ _ _ _ => exact absurd hj hother
  | staged hj _ _ _ _ _ _ => exact absurd hj hother
  | settled hj _ _ _ _ => exact absurd hj hother

/-- While a task reads, the moves of others leave its connection alone. -/
theorem leftAlone_make {move : Move} (h : s.Sound)
    (htask : s.pool.tasks[i]? = some ⟨job, .reading deadline⟩) (hallows : s.Allows move)
    (hother : move ≠ .step i) : LeftAlone i s (s.make client move) := by
  have hsound : (s.make client move).Sound := h.make hallows
  cases move with
  | call call =>
    have hlt : i < s.pool.tasks.length := (List.getElem?_eq_some_iff.mp htask).1
    have hsame : (s.pool.tasks ++ [call.task client])[i]? = s.pool.tasks[i]? :=
      List.getElem?_append_left hlt
    have hself := leftAlone_self hsound (hsame.trans htask)
    exact ⟨hsame, rfl, rfl, rfl, hself.hands, hself.reader⟩
  | wait time =>
    have hself := leftAlone_self hsound htask
    exact ⟨rfl, rfl, rfl, rfl, hself.hands, hself.reader⟩
  | step j =>
    have hne : i ≠ j := fun heq => hother (by rw [heq])
    obtain ⟨task, next, -, hturn⟩ := turn_step client h.readers h.replacers hallows
    exact leftAlone_turn h htask hne hturn hsound

/-- Between the write of a request and the read of its answer, the others leave the connection
alone. -/
theorem leftAlone_after (h : s.Sound) (htask : s.pool.tasks[i]? = some ⟨job, .reading deadline⟩)
    (hmoves : s.Allowed client moves) (hothers : Move.step i ∉ moves) :
    LeftAlone i s (s.after client moves) := by
  induction moves generalizing s with
  | nil => exact leftAlone_self h htask
  | cons move moves ih =>
    obtain ⟨hallows, hmoves⟩ := hmoves
    obtain ⟨hother, hothers⟩ := not_or.mp (mt List.mem_cons.mpr hothers)
    have hmade : LeftAlone i s (s.make client move) :=
      leftAlone_make h htask hallows (Ne.symm hother)
    exact hmade.trans (ih (h.make hallows) (hmade.task.trans htask) hmoves hothers)

end Exchanges

end Staged

/-! ### Waiting -/

/-- Task `i` waits for a lock that task `j` holds. -/
def Pool.WaitsFor (pool : Pool) (i j : Nat) : Prop :=
  (i ∈ pool.connectionLock.waiting ∧ pool.connectionLock.owner = some j) ∨
    (i ∈ pool.reconnectLock.waiting ∧ pool.reconnectLock.owner = some j)

/-- How many tasks a task may have to wait for, one behind the other. -/
def Pool.depth (pool : Pool) (i : Nat) : Nat :=
  if i ∈ pool.reconnectLock.waiting then 2
  else if i ∈ pool.connectionLock.waiting then 1
  else 0

theorem Serves.notMem_waiting {uses : Phase → Bool} {tasks : List Task} {lock : Lock} {i : Nat}
    (h : Serves uses tasks lock) (howner : lock.owner = some i) : i ∉ lock.waiting := by
  have hnodup := h.nodup
  rw [Lock.users_of_owner howner, List.nodup_cons] at hnodup
  exact hnodup.1

namespace Staged

section Waiting

variable {s : Staged} {i j : Nat}

/-- The task that holds the connection lock waits for nothing. -/
theorem notMem_waiting_of_owner (h : s.Sound) (howner : s.pool.connectionLock.owner = some i) :
    i ∉ s.pool.connectionLock.waiting ∧ i ∉ s.pool.reconnectLock.waiting := by
  refine ⟨h.connection.notMem_waiting howner, fun hwaiting => ?_⟩
  obtain ⟨task, htask, hconnection⟩ :=
    (h.connection.mem_iff i).mp (Lock.mem_users_of_owner howner)
  have hreconnect : task.phase.usesReconnect = true :=
    (h.reconnect.mem_users htask).mp (List.mem_append_right _ hwaiting)
  -- Only a task that replaces the connection uses both locks, and it has the reconnect lock.
  have hphase : task.phase = .replacing := by
    cases hphase : task.phase with
    | replacing => rfl
    | reconnecting => rw [hphase] at hconnection; exact absurd hconnection Bool.false_ne_true
    | _ => rw [hphase] at hreconnect; exact absurd hreconnect Bool.false_ne_true
  have hreplacing : s.pool.tasks[i]? = some ⟨task.job, .replacing⟩ := by rw [htask, ← hphase]
  exact h.reconnect.notMem_waiting (h.replacers i task.job hreplacing) hwaiting

/-- A task waits only for tasks that have fewer to wait for, so nobody waits in a circle. -/
theorem depth_lt (h : s.Sound) (hwaits : s.pool.WaitsFor i j) : s.pool.depth j < s.pool.depth i := by
  rcases hwaits with ⟨hwaiting, howner⟩ | ⟨hwaiting, howner⟩
  · obtain ⟨hconnection, hreconnect⟩ := notMem_waiting_of_owner h howner
    rw [Pool.depth, if_neg hreconnect, if_neg hconnection, Pool.depth, if_pos hwaiting]
    split <;> decide
  · have hreconnect := h.reconnect.notMem_waiting howner
    rw [Pool.depth, if_neg hreconnect, Pool.depth, if_pos hwaiting]
    split <;> decide

/-- Tasks do not wait for each other in a cycle. -/
theorem not_transGen_waitsFor (h : s.Sound) (i : Nat) :
    ¬ Relation.TransGen s.pool.WaitsFor i i := by
  have hlt {j k : Nat} (hpath : Relation.TransGen s.pool.WaitsFor j k) :
      s.pool.depth k < s.pool.depth j := by
    induction hpath with
    | single hwaits => exact depth_lt h hwaits
    | tail _ hwaits ih => exact Nat.lt_trans (depth_lt h hwaits) ih
  exact fun hcycle => Nat.lt_irrefl _ (hlt hcycle)

end Waiting

/-! ### Counters -/

section Counters

variable {client : Client} {s : Staged} {moves : List Move}

/-- The counters count the steps that start an attempt or enter a reconnect, and no others. -/
theorem stats_make {move : Move} (h : s.Sound) (hallows : s.Allows move) :
    (s.make client move).link.stats.attempts
        = s.link.stats.attempts + (s.startsAttempt move).toNat ∧
      (s.make client move).link.stats.reconnects
        = s.link.stats.reconnects + (s.entersReconnect move).toNat := by
  cases move with
  | step i =>
    obtain ⟨task, next, htask, hturn⟩ := turn_step client h.readers h.replacers hallows
    rw [startsAttempt, entersReconnect, htask]
    exact ⟨hturn.attempts, hturn.reconnects⟩
  | _ => exact ⟨rfl, rfl⟩

/-- A counter that each move raises when it does something counts the moves that do it. -/
theorem tally_after (count : Staged → Nat) (does : Staged → Move → Bool)
    (hmake : ∀ (s : Staged) (move : Move), s.Sound → s.Allows move →
      count (s.make client move) = count s + (does s move).toNat)
    (h : s.Sound) (hmoves : s.Allowed client moves) :
    count (s.after client moves) = count s + s.tally client does moves := by
  induction moves generalizing s with
  | nil => rfl
  | cons move moves ih =>
    have hrest := ih (h.make hmoves.1) hmoves.2
    rw [hmake s move h hmoves.1] at hrest
    rw [tally, ← Nat.add_assoc]
    exact hrest

end Counters

/-! ### The guarantees of the locks -/

variable {client : Client} {moves : List Move}

/-- Whatever calls come in, in whatever order their tasks make steps, and whatever dials and servers
do: there is at most one socket, and a dial begins when there is none; a task that has written a
request is left alone with the connection until it has read the answer; no task that holds the
connection lock waits for the reconnect lock, and tasks do not wait for each other in a cycle; and the
counters count the attempts that were started and the reconnects that were entered. -/
theorem one_connection {dialing : Nat → Dial} (hmoves : (start dialing).Allowed client moves) :
    let s := (start dialing).after client moves
    s.live ≤ 1
    ∧ (∀ i, s.pool.canStep i = true → (s.step client i).link.dials ≠ s.link.dials → s.live = 0)
    ∧ (∀ i, s.pool.canStep i = true → s.link.sentSince (s.step client i).link ≠ [] →
        ∃ job deadline, (s.step client i).pool.tasks[i]? = some ⟨job, .reading deadline⟩)
    ∧ (∀ i job deadline, s.pool.tasks[i]? = some ⟨job, .reading deadline⟩ →
        ∀ more, s.Allowed client more → Move.step i ∉ more → LeftAlone i s (s.after client more))
    ∧ (∀ i, i ∈ s.pool.reconnectLock.waiting → s.pool.connectionLock.owner ≠ some i)
    ∧ (∀ i, ¬ Relation.TransGen s.pool.WaitsFor i i)
    ∧ s.link.stats.attempts = (start dialing).tally client startsAttempt moves
    ∧ s.link.stats.reconnects = (start dialing).tally client entersReconnect moves := by
  intro s
  have hsound : s.Sound := (sound_start dialing).after hmoves
  refine ⟨live_le_one hsound, ?_, ?_, ?_, ?_, not_transGen_waitsFor hsound, ?_, ?_⟩
  · intro i hcan hdials
    obtain ⟨task, next, -, hturn⟩ := turn_step client hsound.readers hsound.replacers hcan
    exact live_of_dial hsound hturn hdials
  · intro i hcan hsent
    obtain ⟨task, next, htask, hturn⟩ := turn_step client hsound.readers hsound.replacers hcan
    exact reading_of_sent htask hturn hsent
  · intro i job deadline htask more hmore hothers
    exact leftAlone_after hsound htask hmore hothers
  · intro i hwaiting howner
    exact (notMem_waiting_of_owner hsound howner).2 hwaiting
  · have htally := tally_after (fun s => s.link.stats.attempts) startsAttempt
      (fun s move h hallows => (stats_make h hallows).1) (sound_start dialing) hmoves
    exact htally.trans (Nat.zero_add _)
  · have htally := tally_after (fun s => s.link.stats.reconnects) entersReconnect
      (fun s move h hallows => (stats_make h hallows).2) (sound_start dialing) hmoves
    exact htally.trans (Nat.zero_add _)

/-- The time until which a task reads an answer. -/
def deadline? (task : Task) : Option Nat :=
  match task.phase with
  | .reading deadline => some deadline
  | _ => none

theorem phase_of_deadline? {task : Task} {deadline : Nat} (h : deadline? task = some deadline) :
    task.phase = .reading deadline := by
  rw [deadline?] at h
  split at h
  · next hphase => rw [hphase, Option.some.inj h]
  · exact absurd h (by simp)

/-- A connect in stages, with a query that waits for it; then the query reads an answer, with a
reconnect that waits for it. -/
def contendedMoves : List Move :=
  [.call .connect, .call (.query "LIHAT LAHAN"), .call .reconnect, .step 0, .step 1, .step 0, .step 0,
    .step 0, .step 0, .step 1, .step 2, .step 2]

theorem one_connection_contended :
    let s := (start (Link.scripted [.accept [.silent]])).after ⟨"sawit", {}⟩ contendedMoves
    s.live ≤ 1 ∧ s.pool.WaitsFor 2 1
    ∧ LeftAlone 1 s (s.after ⟨"sawit", {}⟩ [.call .close, .wait 5, .step 3])
    ∧ ¬ Relation.TransGen s.pool.WaitsFor 2 2
    ∧ s.link.stats.attempts = 1 ∧ s.link.stats.reconnects = 0 := by
  intro s
  have hmoves :
      (start (Link.scripted [.accept [.silent]])).Allowed ⟨"sawit", {}⟩ contendedMoves := by
    decide +kernel
  have hmore : s.Allowed ⟨"sawit", {}⟩ [.call .close, .wait 5, .step 3] := by decide +kernel
  have hdeadline : s.pool.tasks[1]?.bind deadline? = some 10000 := by decide +kernel
  obtain ⟨⟨job, phase⟩, htask, hphase⟩ := Option.bind_eq_some_iff.mp hdeadline
  obtain rfl : phase = _ := phase_of_deadline? hphase
  obtain ⟨hlive, -, -, halone, -, hcycle, hattempts, hreconnects⟩ := one_connection hmoves
  have hwaits : s.pool.WaitsFor 2 1 := .inl (by decide +kernel)
  refine ⟨hlive, hwaits, halone 1 job 10000 htask _ hmore (by decide), hcycle 2, ?_, ?_⟩
  · rw [hattempts]
    decide +kernel
  · rw [hreconnects]
    decide +kernel

end Staged

end AqlGateway.Remote
