import AqlGateway.Executor.Session

/-!
# Actions in a session

* `Session.runIn` — the outcome of an action, and the session behind it;
* `Session.runIn_bind`, `runIn_bind_ok` — an action goes on after a success and ends with the first
  error;
* `Session.runIn_audit`, `runIn_call`, `runIn_attempt` — what the single actions do;
* `Session.history_call` — what a call adds to the history; `snd_runIn_bind`, `snd_runIn_discard` —
  what comes of its value may leave the session alone;
* `Cursor.first_eq` — the first row of a cursor is the first of all that it has still to hand out;
* `Cursor.collect_eq` — a cursor is collected to all of them, up to the first error.
-/

namespace AqlGateway.Session

open Aql

variable {σ α β : Type} (session : Session σ)

def runIn (action : SessionM σ α) : Except Error α × Session σ := action.run.run session

/-- An error ends a session's action; what was done before stays in the history. -/
theorem runIn_bind (action : SessionM σ α) (next : α → SessionM σ β) :
    session.runIn (action >>= next) = match session.runIn action with
      | (.ok a, behind) => behind.runIn (next a)
      | (.error e, behind) => (.error e, behind) := by
  show (match action session with | (outcome, behind) => ExceptT.bindCont next outcome behind) = _
  unfold runIn ExceptT.run StateT.run
  cases action session with
  | mk outcome behind => cases outcome <;> rfl

/-- A successful action hands its value on. -/
theorem runIn_bind_ok {session behind : Session σ} {action : SessionM σ α} {a : α}
    (next : α → SessionM σ β) (h : session.runIn action = (.ok a, behind)) :
    session.runIn (action >>= next) = behind.runIn (next a) := by
  rw [runIn_bind, h]

theorem runIn_audit (event : AuditEvent) :
    session.runIn (audit event)
      = (.ok (), ⟨session.state, session.history ++ [.audit event]⟩) :=
  rfl

/-- A call is entered into the history whatever the backend answers. -/
theorem runIn_call (run : BoundQuery → StateM σ (Except Error α)) (q : BoundQuery) :
    session.runIn (call run q)
      = ((run q session.state).1,
          ⟨(run q session.state).2, session.history ++ [.call q]⟩) := by
  let recorded : Session σ := ⟨session.state, session.history ++ [.call q]⟩
  have hrecord : session.runIn (record (.call q)) = (.ok (), recorded) := rfl
  have hget : recorded.runIn get = (.ok recorded, recorded) := rfl
  rw [call, runIn_bind_ok _ hrecord, runIn_bind_ok _ hget]
  show runIn recorded _ = _
  cases run q session.state with
  | mk result state => cases result <;> rfl

/-- A call is in the history whether it fails or not. -/
theorem history_call (run : BoundQuery → StateM σ (Except Error α)) (q : BoundQuery) :
    (session.runIn (call run q)).2.history = session.history ++ [.call q] := by
  rw [runIn_call]

/-- What is done with the value of an action may leave the session alone. -/
theorem snd_runIn_bind {action : SessionM σ α} {next : α → SessionM σ β}
    (hnext : ∀ a (behind : Session σ), (behind.runIn (next a)).2 = behind) :
    (session.runIn (action >>= next)).2 = (session.runIn action).2 := by
  rw [runIn_bind]
  cases session.runIn action with
  | mk outcome behind =>
    cases outcome with
    | ok a => exact hnext a behind
    | error e => rfl

theorem snd_runIn_discard (action : SessionM σ α) :
    (session.runIn (do let _ ← action)).2 = (session.runIn action).2 :=
  session.snd_runIn_bind fun _ _ => rfl

theorem runIn_attempt (action : SessionM σ α) :
    session.runIn (attempt action)
      = (.ok (session.runIn action).1, (session.runIn action).2) :=
  rfl

end AqlGateway.Session

namespace AqlGateway.Cursor

theorem fst_next (cursor : Cursor) : cursor.next.1 = cursor.remaining.head? := by
  obtain ⟨source, pending⟩ := cursor
  cases pending with
  | some row => rfl
  | none =>
    cases source with
    | buffered rows => cases rows <;> rfl
    | streaming channel =>
      obtain ⟨capacity, queue, unsent⟩ := channel
      cases queue <;> cases unsent <;> rfl

theorem first_eq (cursor : Cursor) :
    cursor.first = match cursor.remaining.head? with
      | none => .ok none
      | some (.ok row) => .ok (some row)
      | some (.error e) => .error e := by
  have hnext := fst_next cursor
  rw [first]
  rcases hhead : cursor.remaining.head? with _ | _ | _ <;> rw [hnext, hhead]

/-- The next item is taken away from those that the cursor has still to hand out. -/
theorem remaining_next (cursor : Cursor) : cursor.next.2.remaining = cursor.remaining.tail := by
  obtain ⟨source, pending⟩ := cursor
  cases pending with
  | some row => rfl
  | none =>
    cases source with
    | buffered rows => cases rows <;> rfl
    | streaming channel =>
      obtain ⟨capacity, queue, unsent⟩ := channel
      cases queue <;> cases unsent <;> rfl

/-- With more steps than items, collecting comes to its end. -/
theorem collectWithin_eq {steps : Nat} {cursor : Cursor} (h : cursor.remaining.length < steps) :
    cursor.collectWithin steps = cursor.remaining.mapM id := by
  induction steps generalizing cursor with
  | zero => exact absurd h (Nat.not_lt_zero _)
  | succ steps ih =>
    rcases hnext : cursor.next with ⟨item, behind⟩
    have hitem : item = cursor.remaining.head? := by rw [← fst_next, hnext]
    have hbehind : behind.remaining = cursor.remaining.tail := by rw [← remaining_next, hnext]
    rw [collectWithin, hnext]
    cases hremaining : cursor.remaining with
    | nil =>
      rw [hremaining] at hitem
      subst hitem
      rfl
    | cons first rest =>
      rw [hremaining] at hitem hbehind h
      subst hitem
      cases first with
      | error e => rfl
      | ok row =>
        have hlater : behind.remaining.length < steps := by
          rw [hbehind]
          exact Nat.lt_of_succ_lt_succ h
        show (behind.collectWithin steps).map (row :: ·) = _
        rw [ih hlater, hbehind, List.tail_cons, List.mapM_cons]
        cases rest.mapM id <;> rfl

/-- A cursor is collected to all rows that it has still to hand out, or to the first error among
them. -/
theorem collect_eq (cursor : Cursor) : cursor.collect = cursor.remaining.mapM id :=
  collectWithin_eq (Nat.lt_succ_self _)

theorem mapM_rows (rows : List Row) :
    (rows.map (Except.ok : Row → Item)).mapM id = .ok rows := by
  induction rows with
  | nil => rfl
  | cons row rest ih =>
    rw [List.map_cons, List.mapM_cons, ih]
    rfl

end AqlGateway.Cursor
