import AqlGateway.Proofs.Executor.Run

/-!
# Audited drops

In the history of a run, the call that drops a table stands between the event that announces it
and the event that tells its outcome, and no announcement stands without them.

* `exists_block` — where an event of a run stands among the events of its operation;
* `DropsAudited` — the rule for a history;
* `Adds.quiet_or_told`, `dropsAudited_trace` — every operation keeps to it, and so does every run;
* `dropTable_audited` — the guarded drop comes to exactly one of its ends, and runs keep to the rule.
-/

namespace AqlGateway

open Aql

/-- An element of joined blocks stands in one of them. -/
theorem exists_block {α : Type} {blocks : List (List α)} {before after : List α} {x : α}
    (h : blocks.flatten = before ++ x :: after) :
    ∃ block ∈ blocks, ∃ front back earlier later,
      block = front ++ x :: back ∧ before = earlier ++ front ∧ after = back ++ later := by
  rcases List.flatten_eq_append_iff.mp h with
    ⟨as, bs, rfl, rfl, hafter⟩ | ⟨as, front, y, back, bs, rfl, rfl, hafter⟩
  · -- The element is the first of its block, with empty blocks in front of it.
    obtain ⟨empties, back, rest, rfl, -, rfl⟩ := List.flatten_eq_cons_iff.mp hafter.symm
    exact ⟨x :: back, by simp, [], back, as.flatten, rest.flatten, rfl,
      (List.append_nil _).symm, rfl⟩
  · obtain ⟨rfl, rfl⟩ := List.cons.inj hafter
    exact ⟨front ++ x :: back, by simp, front, back, as.flatten, bs.flatten, rfl, rfl, rfl⟩

namespace Executor

/-- An event that tells the outcome of a drop. -/
def TellsOutcome (request : DropRequest) (event : AuditEvent) : Prop :=
  event = succeeded request ∨ ∃ e, event = failed request e

/-- The rule for the events of a run: a call that drops a table is announced right before it, and its
outcome is told right behind it; a warning announces such a call. -/
structure DropsAudited (events : List Event) : Prop where
  call : ∀ before q after, events = before ++ .call q :: after →
    "DROP TABLE".toList <+: q.sql.toList →
      ∃ request now outcome earlier later,
        Admitted request ∧ q = request.query ∧ TellsOutcome request outcome ∧
          before = earlier ++ [.audit (initiated request now)] ∧ after = .audit outcome :: later
  warning : ∀ before event after, events = before ++ .audit event :: after →
    event.level = .warn →
      ∃ request now outcome later,
        Admitted request ∧ event = initiated request now ∧ TellsOutcome request outcome ∧
          after = .call request.query :: .audit outcome :: later

/-- An event that neither drops a table nor announces a drop. -/
def Quiet : Event → Prop
  | .call q => ¬ "DROP TABLE".toList <+: q.sql.toList
  | .audit event => event.level ≠ .warn

variable {σ : Type} (executor : Executor σ) {operation : Operation} {events : List Event}

/-! ### One operation -/

theorem level_of_tellsOutcome {request : DropRequest} {outcome : AuditEvent}
    (h : TellsOutcome request outcome) : outcome.level ≠ .warn := by
  rcases h with rfl | ⟨e, rfl⟩
  · simp [succeeded]
  · simp [failed]

/-- An operation drops no table and announces nothing, or adds one announced and told drop. -/
theorem Adds.quiet_or_told (h : executor.Adds operation events) :
    (∀ event ∈ events, Quiet event) ∨
      ∃ request now outcome, Admitted request ∧ TellsOutcome request outcome ∧
        events = [.audit (initiated request now), .call request.query, .audit outcome] := by
  cases h with
  | plain hkind =>
    left
    intro event hevent
    cases event with
    | call q =>
      intro hsql
      obtain ⟨request, now, rfl, -⟩ :=
        (Adds.plain hkind).request_of_drop executor hevent (.inl hsql)
      exact hkind rfl
    | audit event =>
      rw [callOf] at hevent
      split at hevent <;> exact absurd hevent (by simp)
  | @drop request now state behind events result hdrop =>
    cases hdrop with
    | dropped hadmitted => exact .inr ⟨request, now, _, hadmitted, .inl rfl, rfl⟩
    | failed hadmitted => exact .inr ⟨request, now, _, hadmitted, .inr ⟨_, rfl⟩, rfl⟩
    | _ =>
      left
      intro event hevent
      rw [List.mem_singleton.mp hevent]
      simp [Quiet]

/-! ### A run -/

/-- Wherever a history is cut, the event at the cut is quiet or belongs to one drop, all of whose
events stand together. -/
theorem quiet_or_told_of_split {session : Session σ} {operations : List Operation}
    {before after : List Event} {event : Event}
    (h : (executor.trace session operations).flatMap Prod.snd = before ++ event :: after) :
    Quiet event ∨ ∃ request now outcome front back earlier later,
      Admitted request ∧ TellsOutcome request outcome ∧
        [.audit (initiated request now), .call request.query, .audit outcome]
          = front ++ event :: back ∧
        before = earlier ++ front ∧ after = back ++ later := by
  rw [List.flatMap_def] at h
  obtain ⟨block, hblock, front, back, earlier, later, rfl, hbefore, hafter⟩ := exists_block h
  obtain ⟨entry, hentry, hevents⟩ := List.mem_map.mp hblock
  rcases (executor.adds_of_mem_trace hentry).quiet_or_told executor with
    hquiet | ⟨request, now, outcome, hadmitted, htold, hdrop⟩
  · exact .inl (hquiet event (by simp [hevents]))
  · exact .inr ⟨request, now, outcome, front, back, earlier, later, hadmitted, htold,
      hdrop.symm.trans hevents, hbefore, hafter⟩

/-- Every run keeps to the rule. -/
theorem dropsAudited_trace (session : Session σ) (operations : List Operation) :
    DropsAudited ((executor.trace session operations).flatMap Prod.snd) := by
  constructor
  · intro before q after hevents hsql
    rcases executor.quiet_or_told_of_split hevents with
      hquiet | ⟨request, now, outcome, front, back, earlier, later, hadmitted, htold, hblock,
        hbefore, hafter⟩
    · exact absurd hsql hquiet
    · -- The call is the second of the three events.
      cases front with
      | nil => exact absurd hblock (by simp)
      | cons x front =>
        obtain ⟨rfl, htail⟩ := List.cons.inj hblock
        cases front with
        | nil =>
          obtain ⟨hcall, rfl⟩ := List.cons.inj htail
          exact ⟨request, now, outcome, earlier, later, hadmitted, (Event.call.inj hcall).symm,
            htold, hbefore, hafter⟩
        | cons y front =>
          have hmem : Event.call q ∈ [.audit outcome] := by simp [(List.cons.inj htail).2]
          exact absurd hmem (by simp)
  · intro before event after hevents hlevel
    rcases executor.quiet_or_told_of_split hevents with
      hquiet | ⟨request, now, outcome, front, back, earlier, later, hadmitted, htold, hblock,
        -, hafter⟩
    · exact absurd hlevel hquiet
    · -- The warning is the first of the three events.
      cases front with
      | nil =>
        obtain ⟨hevent, rfl⟩ := List.cons.inj hblock
        exact ⟨request, now, outcome, later, hadmitted, (Event.audit.inj hevent).symm, htold,
          hafter⟩
      | cons x front =>
        have hmem : Event.audit event ∈ [.call request.query, .audit outcome] := by
          simp [(List.cons.inj hblock).2]
        obtain rfl : event = outcome := by simpa using hmem
        exact absurd hlevel (level_of_tellsOutcome htold)

/-- A guarded drop comes to exactly one of its ends, with the events, the result and the backend's
state that belong to it; and in every run of operations drops are announced and told. -/
theorem dropTable_audited :
    (∀ (request : DropRequest) (now : String) (session : Session σ),
      ∃ events result behind,
        session.runIn (executor.dropTable request now)
          = (result, ⟨behind, session.history ++ events⟩) ∧
        ∀ events' result' behind',
          DropRun executor.backend request now session.state events' result' behind' ↔
            events' = events ∧ result' = result ∧ behind' = behind) ∧
    ∀ (session : Session σ) (operations : List Operation),
      ∃ events,
        (executor.runAll session operations).history = session.history ++ events ∧
        DropsAudited events := by
  constructor
  · intro request now session
    obtain ⟨events, result, behind, hrun, hdrop⟩ :=
      dropRun_of_dropTable executor request now session
    refine ⟨events, result, behind, hrun, fun events' result' behind' => ⟨?_, ?_⟩⟩
    · intro hdrop'
      exact hdrop'.unique hdrop
    · rintro ⟨rfl, rfl, rfl⟩
      exact hdrop
  · intro session operations
    exact ⟨_, executor.history_runAll session operations,
      executor.dropsAudited_trace session operations⟩

end Executor

end AqlGateway
