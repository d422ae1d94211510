import AqlGateway.Remote.Tasks

/-!
# Who holds a lock and who waits for it

A lock is a queue: its owner stands first, and those who wait stand behind it in their order.

* `Lock.users`, `Lock.Fair` — the queue of a lock, in which nobody waits without an owner;
* `Passed` — what the step of a task does to a lock that tasks use in some of their phases;
* `Serves` — the users of a lock are the tasks in these phases, each of them once;
* `Serves.step` — a step leaves that so.
-/

namespace AqlGateway.Remote

variable {lock after : Lock} {i j : Nat}

namespace Lock

/-- The owner of a lock and those who wait for it, in order. -/
def users (lock : Lock) : List Nat := lock.owner.toList ++ lock.waiting

/-- Nobody waits for a lock that nobody holds. -/
def Fair (lock : Lock) : Prop := lock.owner = none → lock.waiting = []

theorem mem_users_of_owner (h : lock.owner = some i) : i ∈ lock.users := by
  rw [users, h]
  exact List.mem_cons_self

theorem users_of_owner (h : lock.owner = some i) : lock.users = i :: lock.waiting := by
  rw [users, h]
  rfl

/-! ### Taking and giving back -/

/-- A task that asks for a lock is the last of its users. -/
theorem users_acquire (hfair : lock.Fair) (i : Nat) : (lock.acquire i).users = lock.users ++ [i] := by
  obtain ⟨owner, waiting⟩ := lock
  cases owner with
  | none =>
    obtain rfl : waiting = [] := hfair rfl
    rfl
  | some j => rfl

theorem fair_acquire (lock : Lock) (i : Nat) : (lock.acquire i).Fair := by
  obtain ⟨owner, waiting⟩ := lock
  cases owner <;> exact fun h => absurd h (by simp [acquire])

theorem owner_acquire_of_some (h : lock.owner = some j) : (lock.acquire i).owner = some j := by
  rw [acquire, h]

/-- The owner who lets go is no user any more. -/
theorem users_release (lock : Lock) : lock.release.users = lock.waiting := by
  rw [release]
  cases lock.waiting <;> rfl

theorem fair_release (lock : Lock) : lock.release.Fair := by
  rw [release]
  cases lock.waiting with
  | nil => exact fun _ => rfl
  | cons next rest => exact fun h => absurd h (by simp)

end Lock

/-! ### Steps -/

/-- What a step of task `i` does to a lock that a task uses in some of its phases. -/
inductive Passed (uses : Phase → Bool) (i : Nat) (task next : Phase) (lock after : Lock) : Prop
  | kept : uses next = uses task → after = lock → Passed uses i task next lock after
  | taken : uses task = false → uses next = true → after = lock.acquire i →
      Passed uses i task next lock after
  | freed : uses next = false → lock.owner = some i → after = lock.release →
      Passed uses i task next lock after

variable {uses : Phase → Bool} {phase next : Phase}

/-- A task keeps a lock while others make steps. -/
theorem Passed.owner_of_ne (h : Passed uses i phase next lock after) (hne : j ≠ i)
    (howner : lock.owner = some j) : after.owner = some j := by
  cases h with
  | kept _ heq => rw [heq, howner]
  | taken _ _ heq => rw [heq, Lock.owner_acquire_of_some howner]
  | freed _ hi _ => exact absurd (Option.some.inj (howner.symm.trans hi)) hne

/-- A task keeps a lock that it goes on to use. -/
theorem Passed.owner_of_uses (h : Passed uses i phase next lock after) (hphase : uses phase = true)
    (hnext : uses next = true) (howner : lock.owner = some i) : after.owner = some i := by
  cases h with
  | kept _ heq => rw [heq, howner]
  | taken hidle _ _ => exact absurd (hphase.symm.trans hidle) (by simp)
  | freed hidle _ _ => exact absurd (hnext.symm.trans hidle) (by simp)

/-- The users of a lock are the tasks in some phases, each of them once. -/
structure Serves (uses : Phase → Bool) (tasks : List Task) (lock : Lock) : Prop where
  fair : lock.Fair
  nodup : lock.users.Nodup
  mem_iff : ∀ i, i ∈ lock.users ↔ ∃ task, tasks[i]? = some task ∧ uses task.phase = true

namespace Serves

variable {tasks : List Task} {task : Task}

/-- Whether a task uses a lock can be told from its phase. -/
theorem mem_users (h : Serves uses tasks lock) (htask : tasks[i]? = some task) :
    i ∈ lock.users ↔ uses task.phase = true := by
  rw [h.mem_iff]
  constructor
  · rintro ⟨other, hother, huses⟩
    rwa [Option.some.inj (htask.symm.trans hother)]
  · intro huses
    exact ⟨task, htask, huses⟩

/-- The tasks that use a lock, after one task has changed its phase. -/
theorem uses_set {task next : Task} (htask : tasks[i]? = some task) (j : Nat) :
    (∃ other, (tasks.set i next)[j]? = some other ∧ uses other.phase = true) ↔
      if j = i then uses next.phase = true
      else ∃ other, tasks[j]? = some other ∧ uses other.phase = true := by
  split
  · next heq =>
    subst heq
    rw [List.getElem?_set_self', htask]
    simp
  · next hne =>
    rw [List.getElem?_set_ne (Ne.symm hne)]

/-- A step leaves the users of a lock in order. -/
theorem step (h : Serves uses tasks lock) {next : Task} (htask : tasks[i]? = some task)
    (hpassed : Passed uses i task.phase next.phase lock after) :
    Serves uses (tasks.set i next) after := by
  have hmem := h.mem_users htask
  cases hpassed with
  | kept huses heq =>
    subst heq
    refine ⟨h.fair, h.nodup, fun j => ?_⟩
    rw [uses_set htask]
    split
    · next heq => rw [heq, hmem, huses]
    · exact h.mem_iff j
  | taken hidle huses heq =>
    subst heq
    -- A task that uses the lock does not ask for it, so the queue has nobody twice.
    have hnew : i ∉ lock.users := by
      rw [hmem, hidle]
      exact Bool.false_ne_true
    refine ⟨Lock.fair_acquire lock i, ?_, fun j => ?_⟩
    · rw [Lock.users_acquire h.fair]
      refine List.nodup_append.mpr ⟨h.nodup, by simp, fun a ha b hb heq => hnew ?_⟩
      rwa [← List.mem_singleton.mp hb, ← heq]
    · rw [Lock.users_acquire h.fair, List.mem_append, List.mem_singleton, uses_set htask]
      split
      · next heq => simp [heq, huses]
      · next hne => simp [hne, h.mem_iff]
  | freed hidle howner heq =>
    subst heq
    have hnodup := h.nodup
    rw [Lock.users_of_owner howner, List.nodup_cons] at hnodup
    refine ⟨Lock.fair_release lock, ?_, fun j => ?_⟩
    · rw [Lock.users_release]
      exact hnodup.2
    · rw [Lock.users_release, uses_set htask]
      split
      · next heq => simp [heq, hidle, hnodup.1]
      · next hne =>
        rw [← h.mem_iff, Lock.users_of_owner howner, List.mem_cons, or_iff_right hne]

/-- A call adds a task that uses no lock yet. -/
theorem append (h : Serves uses tasks lock) (hidle : uses task.phase = false) :
    Serves uses (tasks ++ [task]) lock := by
  refine ⟨h.fair, h.nodup, fun j => ?_⟩
  rw [h.mem_iff]
  constructor
  · rintro ⟨other, hother, huses⟩
    have hlt : j < tasks.length := (List.getElem?_eq_some_iff.mp hother).1
    exact ⟨other, by rw [List.getElem?_append_left hlt, hother], huses⟩
  · rintro ⟨other, hother, huses⟩
    rcases Nat.lt_or_ge j tasks.length with hlt | hge
    · rw [List.getElem?_append_left hlt] at hother
      exact ⟨other, hother, huses⟩
    · rw [List.getElem?_append_right hge] at hother
      have heq : other = task := by
        have hmem := List.mem_of_getElem? hother
        exact List.mem_singleton.mp hmem
      rw [heq, hidle] at huses
      exact absurd huses Bool.false_ne_true

end Serves

end AqlGateway.Remote
