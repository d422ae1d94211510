import AqlGateway.Executor.Operations
import AqlGateway.Proofs.Aql.Preparation
import AqlGateway.Proofs.Executor.Session

/-!
# The drop gate

* `Admitted` — the requests that pass the gate;
* `DropRun` — what a guarded drop may come to: its events, its result and the backend's state;
* `exists_dropRun` — every request comes to one of these;
* `runIn_dropTable` — the run of a guarded drop is the end its request comes to;
* `DropRun.unique` — and there is only one.
-/

namespace AqlGateway

open Aql

variable {σ : Type}

/-- A request that passes the gate. -/
structure Admitted (request : DropRequest) : Prop where
  confirmed : request.confirmation = "CONFIRM_BAKAR_LAHAN_" ++ request.table
  justified : Text.trim request.justification.toList ≠ []
  requested : Text.trim request.requestedBy.toList ≠ []
  named : IsName request.table.toList

/-- The statement that carries out an admitted request. -/
def DropRequest.query (request : DropRequest) : BoundQuery := ⟨"DROP TABLE " ++ request.table, []⟩

/-- What the guarded drop of a table may come to when the backend is in the given state: the events,
the result, and the state of the backend behind it. The tests stand in the order in which they
are made. -/
inductive DropRun (backend : Backend σ) (request : DropRequest) (now : String) (state : σ) :
    List Event → Except Error Unit → σ → Prop
  /-- The token is not the one that confirms the request. -/
  | unconfirmed :
      request.confirmation ≠ "CONFIRM_BAKAR_LAHAN_" ++ request.table →
      DropRun backend request now state
        [.audit ⟨.error, "security violation: BAKAR LAHAN attempted without confirmation",
          [("table", request.table), ("requested_by", request.requestedBy)]⟩]
        (.error (.confirmationMismatch request.table)) state
  /-- The justification is blank. -/
  | unjustified :
      request.confirmation = "CONFIRM_BAKAR_LAHAN_" ++ request.table →
      Text.trim request.justification.toList = [] →
      DropRun backend request now state
        [.audit ⟨.error, "BAKAR LAHAN blocked",
          [("table", request.table), ("requested_by", request.requestedBy),
            ("missing", "justification")]⟩]
        (.error (.missingMetadata "justification")) state
  /-- The requester is blank. -/
  | anonymous :
      request.confirmation = "CONFIRM_BAKAR_LAHAN_" ++ request.table →
      Text.trim request.justification.toList ≠ [] →
      Text.trim request.requestedBy.toList = [] →
      DropRun backend request now state
        [.audit ⟨.error, "BAKAR LAHAN blocked",
          [("table", request.table), ("requested_by", request.requestedBy),
            ("missing", "requester")]⟩]
        (.error (.missingMetadata "requester")) state
  /-- The table has no proper name. -/
  | misnamed :
      request.confirmation = "CONFIRM_BAKAR_LAHAN_" ++ request.table →
      Text.trim request.justification.toList ≠ [] →
      Text.trim request.requestedBy.toList ≠ [] →
      ¬ IsName request.table.toList →
      DropRun backend request now state
        [.audit ⟨.error, "BAKAR LAHAN blocked",
          [("table", request.table), ("requested_by", request.requestedBy),
            ("error", "Invalid identifier '" ++ request.table ++ "'")]⟩]
        (.error (.invalidIdentifier request.table)) state
  /-- The backend drops the table. -/
  | dropped {rows : Nat} {behind : σ} :
      Admitted request →
      (backend.execute request.query).run state = (.ok rows, behind) →
      DropRun backend request now state
        [.audit ⟨.warn, "BAKAR LAHAN initiated",
          [("table", request.table), ("justification", request.justification),
            ("requested_by", request.requestedBy), ("timestamp", now)]⟩,
        .call request.query,
        .audit ⟨.info, "BAKAR LAHAN succeeded",
          [("table", request.table), ("requested_by", request.requestedBy)]⟩]
        (.ok ()) behind
  /-- The backend fails to drop the table. -/
  | failed {e : Error} {behind : σ} :
      Admitted request →
      (backend.execute request.query).run state = (.error e, behind) →
      DropRun backend request now state
        [.audit ⟨.warn, "BAKAR LAHAN initiated",
          [("table", request.table), ("justification", request.justification),
            ("requested_by", request.requestedBy), ("timestamp", now)]⟩,
        .call request.query,
        .audit ⟨.error, "BAKAR LAHAN failed",
          [("table", request.table), ("error", e.message)]⟩]
        (.error (.dropFailed request.table e)) behind

/-! ### The tests -/

theorem expectedConfirmation_eq (request : DropRequest) :
    request.expectedConfirmation = "CONFIRM_BAKAR_LAHAN_" ++ request.table := by
  have hword : "CONFIRM_" ++ Kind.dropTable.keyword.map (fun c => if c = ' ' then '_' else c) ++ "_"
      = "CONFIRM_BAKAR_LAHAN_" := by decide +kernel
  rw [DropRequest.expectedConfirmation, Kind.confirmationToken, hword]

theorem isAllBlank_eq_false {s : String} (h : Text.trim s.toList ≠ []) :
    Text.isAllBlank s = false := by
  rw [Bool.eq_false_iff]
  exact fun hblank => h ((Text.isAllBlank_iff s).mp hblank)

/-- Nothing is missing from a request with a justification and a requester that show something. -/
theorem missing?_eq_none {request : DropRequest}
    (hwords : Text.trim request.justification.toList ≠ [])
    (hwho : Text.trim request.requestedBy.toList ≠ []) : request.missing? = none := by
  rw [DropRequest.missing?, isAllBlank_eq_false hwords, isAllBlank_eq_false hwho]
  rfl

variable {backend : Backend σ} {request : DropRequest} {now : String} {state behind : σ}
  {events : List Event} {result : Except Error Unit}

/-- Every request comes to some end. -/
theorem exists_dropRun (backend : Backend σ) (request : DropRequest) (now : String) (state : σ) :
    ∃ events result behind, DropRun backend request now state events result behind := by
  by_cases htoken : request.confirmation = "CONFIRM_BAKAR_LAHAN_" ++ request.table
  · by_cases hwords : Text.trim request.justification.toList = []
    · exact ⟨_, _, _, .unjustified htoken hwords⟩
    · by_cases hwho : Text.trim request.requestedBy.toList = []
      · exact ⟨_, _, _, .anonymous htoken hwords hwho⟩
      · by_cases hname : isIdentifier request.table = true
        · have hadmitted : Admitted request :=
            ⟨htoken, hwords, hwho, isIdentifier_iff.mp hname⟩
          cases hanswer : (backend.execute request.query).run state with
          | mk outcome behind =>
            cases outcome with
            | ok rows => exact ⟨_, _, _, .dropped hadmitted hanswer⟩
            | error e => exact ⟨_, _, _, .failed hadmitted hanswer⟩
        · exact ⟨_, _, _, .misnamed htoken hwords hwho fun h => hname (isIdentifier_iff.mpr h)⟩
  · exact ⟨_, _, _, .unconfirmed htoken⟩

/-! ### The run -/

section Run

variable (executor : Executor σ)

/-- An action that is refused enters one audit event. -/
theorem runIn_refuse (session : Session σ) (event : AuditEvent) (e : Error) :
    session.runIn (do Session.audit event; throw e : SessionM σ Unit)
      = (.error e, ⟨session.state, session.history ++ [.audit event]⟩) := by
  rw [Session.runIn_bind_ok _ (session.runIn_audit event)]
  rfl

/-- An announced call is entered behind its announcement. -/
theorem runIn_announced {session : Session σ} {event : AuditEvent} {q : BoundQuery} {outcome : Except Error Nat}
    (next : Except Error Nat → SessionM σ Unit)
    (hanswer : (executor.backend.execute q).run session.state = (outcome, behind)) :
    session.runIn (do
      Session.audit event
      let outcome ← Session.attempt (Session.call executor.backend.execute q)
      next outcome : SessionM σ Unit)
      = Session.runIn ⟨behind, session.history ++ [.audit event, .call q]⟩ (next outcome) := by
  have hcall : executor.backend.execute q session.state = (outcome, behind) := hanswer
  rw [Session.runIn_bind_ok _ (session.runIn_audit event),
    Session.runIn_bind_ok _ (Session.runIn_attempt _ _), Session.runIn_call]
  simp only [hcall, List.append_assoc, List.cons_append, List.nil_append]

/-- The events, the result and the state of an end are those of the guarded drop. -/
theorem runIn_dropTable (session : Session σ)
    (h : DropRun executor.backend request now session.state events result behind) :
    session.runIn (executor.dropTable request now)
      = (result, ⟨behind, session.history ++ events⟩) := by
  have confirmed (htoken : request.confirmation = "CONFIRM_BAKAR_LAHAN_" ++ request.table) :
      ¬ request.confirmation ≠ request.expectedConfirmation := by
    rw [expectedConfirmation_eq]
    exact not_not_intro htoken
  rw [Executor.dropTable]
  -- The ends come in the order of the tests: each of them has passed the tests in front of it.
  cases h with
  | unconfirmed htoken =>
    rw [if_pos (by rw [expectedConfirmation_eq]; exact htoken)]
    exact runIn_refuse _ _ _
  | unjustified htoken hwords =>
    have hmissing : request.missing? = some "justification" := by
      rw [DropRequest.missing?, if_pos ((Text.isAllBlank_iff _).mpr hwords)]
    rw [if_neg (confirmed htoken), hmissing]
    exact runIn_refuse _ _ _
  | anonymous htoken hwords hwho =>
    have hmissing : request.missing? = some "requester" := by
      rw [DropRequest.missing?, isAllBlank_eq_false hwords, if_neg (by simp),
        if_pos ((Text.isAllBlank_iff _).mpr hwho)]
    rw [if_neg (confirmed htoken), hmissing]
    exact runIn_refuse _ _ _
  | misnamed htoken hwords hwho hname =>
    rw [if_neg (confirmed htoken), missing?_eq_none hwords hwho, prepare_dropTable,
      if_neg fun h => hname (isIdentifier_iff.mp h)]
    exact runIn_refuse _ _ _
  | dropped hadmitted hanswer =>
    rw [if_neg (confirmed hadmitted.confirmed),
      missing?_eq_none hadmitted.justified hadmitted.requested, prepare_dropTable,
      if_pos (isIdentifier_iff.mpr hadmitted.named)]
    refine (runIn_announced executor _ hanswer).trans ?_
    rw [Session.runIn_audit]
    simp only [List.append_assoc, List.cons_append, List.nil_append]
    rfl
  | failed hadmitted hanswer =>
    rw [if_neg (confirmed hadmitted.confirmed),
      missing?_eq_none hadmitted.justified hadmitted.requested, prepare_dropTable,
      if_pos (isIdentifier_iff.mpr hadmitted.named)]
    refine (runIn_announced executor _ hanswer).trans ?_
    rw [runIn_refuse]
    simp only [List.append_assoc, List.cons_append, List.nil_append]
    rfl

/-- A guarded drop comes to one of the ends. -/
theorem dropRun_of_dropTable (request : DropRequest) (now : String) (session : Session σ) :
    ∃ events result behind,
      session.runIn (executor.dropTable request now)
        = (result, ⟨behind, session.history ++ events⟩) ∧
      DropRun executor.backend request now session.state events result behind := by
  obtain ⟨events, result, behind, hend⟩ :=
    exists_dropRun executor.backend request now session.state
  exact ⟨events, result, behind, runIn_dropTable executor session hend, hend⟩

end Run

/-- The ends exclude each other. -/
theorem DropRun.unique {behind₁ behind₂ : σ} {events₁ events₂ : List Event}
    {result₁ result₂ : Except Error Unit}
    (h₁ : DropRun backend request now state events₁ result₁ behind₁)
    (h₂ : DropRun backend request now state events₂ result₂ behind₂) :
    events₁ = events₂ ∧ result₁ = result₂ ∧ behind₁ = behind₂ := by
  -- Both are what one drop does in a session without a history.
  have hrun₁ := runIn_dropTable ⟨backend, .strict⟩ ⟨state, []⟩ h₁
  have hrun₂ := runIn_dropTable ⟨backend, .strict⟩ ⟨state, []⟩ h₂
  obtain ⟨hresult, hsession⟩ := Prod.mk.inj (hrun₁.symm.trans hrun₂)
  obtain ⟨hbehind, hevents⟩ := Session.mk.inj hsession
  exact ⟨hevents, hresult, hbehind⟩

/-- The one call of a guarded drop is made for an admitted request. -/
theorem DropRun.of_call {q : BoundQuery}
    (h : DropRun backend request now state events result behind) (hcall : .call q ∈ events) :
    Admitted request ∧ q = request.query := by
  cases h with
  | dropped hadmitted | failed hadmitted => exact ⟨hadmitted, by simpa using hcall⟩
  | _ => exact absurd hcall (by simp)

end AqlGateway
