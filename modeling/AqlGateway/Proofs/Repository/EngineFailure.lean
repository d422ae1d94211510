import AqlGateway.Proofs.Aql.Preparation
import AqlGateway.Proofs.Tree.Update
import AqlGateway.Remote.Client

/-!
# Failures that the engine reports as data

The engine may answer a statement with a success whose payload is a text that begins with `Error`.
An operation that reads records looks at the payload and fails with this text. An operation that
changes the trees does not look at it.

* `TreeOperation` — an operation of a store of trees with its arguments;
* `Remote.sent` — the statement that an operation sends to the engine;
* `validate_sent` — that statement passes every check, whatever the operation is called with;
* `runFrom_select`, `runFrom_change` — a select fails on such a payload, a change succeeds on any;
* `failure_noticed_iff` — the operations that fail with the engine's text are those that send a
  select.
-/

namespace AqlGateway

open Aql

/-! ### Operations -/

inductive TreeOperation
  | create (tree : Tree)
  | findById (id : String)
  | findByCode (code : String)
  | findAll (filter : TreeFilter)
  | update (now : Instant) (tree : Tree)
  | updateStatus (now : Instant) (id : String) (status : Status) (healthScore : Int64)
  | delete (id : String)
  | nextCode
  | countByLocation (location : String)
  | countByStatus (status : Status)

/-- Carries out an operation; what it returns is not kept. -/
def TreeStore.perform {m : Type → Type} [Monad m] (store : TreeStore m) : TreeOperation → m Unit
  | .create tree => store.create tree
  | .findById id => do
    let _ ← store.findById id
  | .findByCode code => do
    let _ ← store.findByCode code
  | .findAll filter => do
    let _ ← store.findAll filter
  | .update now tree => store.update now tree
  | .updateStatus now id status healthScore => store.updateStatus now id status healthScore
  | .delete id => store.delete id
  | .nextCode => do
    let _ ← store.nextCode
  | .countByLocation location => do
    let _ ← store.countByLocation location
  | .countByStatus status => do
    let _ ← store.countByStatus status

namespace Remote

/-- The statement that an operation sends to the engine. -/
def sent : TreeOperation → Statement
  | .create tree => .insert Tree.table Tree.columns tree.values
  | .findById id => .select Tree.table "*" (some (.eq "id" (.text id)))
  | .findByCode code => .select Tree.table "*" (some (.eq "code" (.text code)))
  | .findAll _ => .select Tree.table "*" none
  | .update now tree => .update Tree.table (tree.updateAssignments now) (hasId tree.id)
  | .updateStatus now id status healthScore =>
    .update Tree.table (Tree.statusAssignments status healthScore now) (hasId id)
  | .delete id => .delete Tree.table (hasId id)
  | .nextCode => .select Tree.table "code" none
  | .countByLocation location =>
    .select Tree.table "*" (some (.eq "location_id" (.text location)))
  | .countByStatus status => .select Tree.table "*" (some (.eq "status" (Tree.statusValue status)))

/-! ### Statements about trees are well formed -/

/-- Every column of the table is an identifier. -/
theorem isIdentifier_of_column : ∀ name ∈ Tree.columns, isIdentifier name = true := by decide

theorem validate_update {assignments : List Assignment} (id : String)
    (hnames : assignments.map Assignment.column ⊆ Tree.columns) :
    (Statement.update Tree.table assignments (hasId id)).validate = .ok () := by
  refine Statement.validate_eq_ok_iff.mpr ⟨?_, rfl, ?_⟩
  · intro t ht
    rw [← Option.some.inj ht]
    decide
  · intro name hname
    refine isIdentifier_of_column name ?_
    rcases List.mem_append.mp hname with hname | hname
    · exact hnames hname
    · rw [List.mem_singleton.mp hname]
      decide

/-- Whatever an operation is called with, its statement passes every check. -/
theorem validate_sent (operation : TreeOperation) : (sent operation).validate = .ok () := by
  cases operation with
  | update now tree => exact validate_update tree.id (Tree.sublist_updateAssignments tree now).subset
  | updateStatus now id status healthScore =>
    exact validate_update id (Tree.sublist_statusAssignments status healthScore now).subset
  | _ => rfl

/-! ### Actions -/

section Actions

variable {σ α β : Type} {state behind : σ} {action : EngineM σ α} {e : Error}

def runFrom (state : σ) (action : EngineM σ α) : Except Error α × σ := action.run.run state

theorem runFrom_bind_ok {a : α} (next : α → EngineM σ β)
    (h : runFrom state action = (.ok a, behind)) :
    runFrom state (action >>= next) = runFrom behind (next a) := by
  have hrun : action state = (.ok a, behind) := h
  show ExceptT.bindCont next (action state).1 (action state).2 = _
  rw [hrun]
  rfl

/-- An action ends with its first error. -/
theorem runFrom_bind_error (next : α → EngineM σ β) (h : runFrom state action = (.error e, behind)) :
    runFrom state (action >>= next) = (.error e, behind) := by
  have hrun : action state = (.error e, behind) := h
  show ExceptT.bindCont next (action state).1 (action state).2 = _
  rw [hrun]
  rfl

theorem runFrom_within_ok {a : α} (operation : String) (h : runFrom state action = (.ok a, behind)) :
    runFrom state (within operation action) = (.ok a, behind) := by
  have hrun : action.run.run state = (.ok a, behind) := h
  rw [within, runFrom, ExceptT.run_mk, StateT.run_bind, hrun]
  rfl

/-- An error inside a named operation is given the name. -/
theorem runFrom_within_error (operation : String) (h : runFrom state action = (.error e, behind)) :
    runFrom state (within operation action) = (.error (.context operation e), behind) := by
  have hrun : action.run.run state = (.error e, behind) := h
  rw [within, runFrom, ExceptT.run_mk, StateT.run_bind, hrun]
  rfl

/-- The name of the first part of an operation is given to the whole. -/
theorem runFrom_named {γ : Type} (operation : String) {next : α → EngineM σ β}
    {last : β → EngineM σ γ} (h : runFrom state action = (.error e, behind)) :
    runFrom state ((within operation action >>= next) >>= last)
      = (.error (.context operation e), behind) :=
  runFrom_bind_error last (runFrom_bind_error next (runFrom_within_error operation h))

end Actions

/-! ### A payload that reports a failure -/

section Failures

variable {σ : Type} {engine : Engine σ} {state behind : σ} {text : String}

theorem runFrom_send {statement : Statement} (engine : Engine σ)
    (hvalid : statement.validate = .ok ()) :
    runFrom state (send engine statement) = (engine.query statement.text).run state := by
  rw [send, hvalid]
  rfl

/-- A select fails with the text. -/
theorem runFrom_select {columns : String} {filter : Option Predicate}
    (hvalid : (Statement.select Tree.table columns filter).validate = .ok ())
    (hanswer : (engine.query (Statement.select Tree.table columns filter).text).run state
      = (.ok (.string text), behind))
    (hreport : reportsFailure text = true) :
    runFrom state (select engine columns filter) = (.error (.engine text), behind) := by
  have hsent := (runFrom_send engine hvalid).trans hanswer
  rw [select, runFrom_bind_ok _ hsent, parseRecords, if_pos hreport]
  rfl

/-- A select of trees fails when it is answered with the report of a failure. -/
theorem runFrom_selectTrees {filter : Option Predicate}
    (hvalid : (Statement.select Tree.table "*" filter).validate = .ok ())
    (hanswer : (engine.query (Statement.select Tree.table "*" filter).text).run state
      = (.ok (.string text), behind))
    (hreport : reportsFailure text = true) :
    runFrom state (selectTrees engine filter) = (.error (.engine text), behind) :=
  runFrom_bind_error _ (runFrom_select hvalid hanswer hreport)

/-- A change succeeds whatever the payload is. -/
theorem runFrom_change {statement : Statement} {data : Json} (operation : String)
    (hvalid : statement.validate = .ok ())
    (hanswer : (engine.query statement.text).run state = (.ok data, behind)) :
    runFrom state (change engine operation statement) = (.ok (), behind) := by
  have hsent := (runFrom_send engine hvalid).trans hanswer
  rw [change, runFrom_bind_ok _ (runFrom_within_ok operation hsent)]
  rfl

/-- An operation that sends a select fails with the text; every other one succeeds. -/
theorem runFrom_perform {operation : TreeOperation}
    (hanswer : (engine.query (sent operation).text).run state = (.ok (.string text), behind))
    (hreport : reportsFailure text = true) :
    ((sent operation).kind = .select ∧ ∃ context, runFrom state ((store engine).perform operation)
        = (.error (.context context (.engine text)), behind)) ∨
      ((sent operation).kind ≠ .select ∧
        runFrom state ((store engine).perform operation) = (.ok (), behind)) := by
  have hvalid := validate_sent operation
  cases operation with
  | create tree => exact .inr ⟨by simp [sent, Statement.kind], runFrom_change _ hvalid hanswer⟩
  | update now tree =>
    exact .inr ⟨by simp [sent, Statement.kind], runFrom_change _ hvalid hanswer⟩
  | updateStatus now id status healthScore =>
    exact .inr ⟨by simp [sent, Statement.kind], runFrom_change _ hvalid hanswer⟩
  | delete id => exact .inr ⟨by simp [sent, Statement.kind], runFrom_change _ hvalid hanswer⟩
  | nextCode =>
    have hselect := runFrom_select hvalid hanswer hreport
    exact .inl ⟨rfl, _, runFrom_named "failed to query codes" hselect⟩
  | findAll filter =>
    have hselect := runFrom_selectTrees hvalid hanswer hreport
    exact .inl ⟨rfl, _, runFrom_named "failed to query trees" hselect⟩
  | findById id =>
    have hselect := runFrom_selectTrees hvalid hanswer hreport
    exact .inl ⟨rfl, _, runFrom_named "failed to query tree" hselect⟩
  | findByCode code =>
    have hselect := runFrom_selectTrees hvalid hanswer hreport
    exact .inl ⟨rfl, _, runFrom_named "failed to query tree" hselect⟩
  | countByLocation location =>
    have hselect := runFrom_selectTrees hvalid hanswer hreport
    exact .inl ⟨rfl, _, runFrom_named "failed to count trees" hselect⟩
  | countByStatus status =>
    have hselect := runFrom_selectTrees hvalid hanswer hreport
    exact .inl ⟨rfl, _, runFrom_named "failed to count trees" hselect⟩

/-- A success whose payload is a text that begins with `Error` makes an operation fail with this text
exactly when the operation sends a select. Every other operation takes the failure for a success. -/
theorem failure_noticed_iff (engine : Engine σ) (operation : TreeOperation) (state : σ)
    {envelope : Envelope} {text : String} (hsuccess : envelope.success = true)
    (hdata : envelope.data = .string text) (hreport : "Error".toList <+: text.toList)
    (hanswer : (engine.query (sent operation).text state).1 = envelope.result) :
    let outcome := (runFrom state ((store engine).perform operation)).1
    ((∃ e, outcome = .error e ∧ e.root = .engine text) ↔ (sent operation).kind = .select) ∧
      ((sent operation).kind ≠ .select → outcome = .ok ()) := by
  intro outcome
  have hresult : envelope.result = .ok (.string text) := by
    rw [Envelope.result, if_pos hsuccess, hdata]
  have hpayload : (engine.query (sent operation).text).run state
      = (.ok (.string text), ((engine.query (sent operation).text).run state).2) :=
    Prod.ext (hanswer.trans hresult) rfl
  rcases runFrom_perform hpayload (List.isPrefixOf_iff_prefix.mpr hreport) with
    ⟨hkind, context, hrun⟩ | ⟨hkind, hrun⟩
  · have houtcome : outcome = .error (.context context (.engine text)) := congrArg Prod.fst hrun
    refine ⟨⟨fun _ => hkind, fun _ => ⟨_, houtcome, rfl⟩⟩, fun hne => absurd hkind hne⟩
  · have houtcome : outcome = .ok () := congrArg Prod.fst hrun
    refine ⟨⟨?_, fun h => absurd h hkind⟩, fun _ => houtcome⟩
    rintro ⟨e, herror, -⟩
    rw [houtcome] at herror
    exact absurd herror (by simp)

end Failures

/-! ### A connection with one answer -/

/-- A client's link with a connection on which the engine answers its first request with a text. -/
def answering (text : String) : Link where
  dialing := Link.scripted []
  connection := some (Stream.fresh [.data 0 (.string text)])

/-- The text that a query was answered with. -/
def answeredText? : Except Error Json → Option String
  | .ok (.string text) => some text
  | _ => none

theorem eq_of_answeredText? {answer : Except Error Json} {text : String}
    (h : answeredText? answer = some text) : answer = .ok (.string text) := by
  unfold answeredText? at h
  split at h
  · rw [Option.some.inj h]
  · exact absurd h (by simp)

/-- A look-up fails with the engine's text. -/
theorem findById_failure_noticed :
    let engine := (Client.mk "sawit" {}).engine
    let link := answering "Error: disk full"
    (engine.query (sent (.findById "T1")).text link).1
        = (Envelope.ok (.string "Error: disk full") Reply.timestamp).result ∧
      ∃ e, (runFrom link ((store engine).perform (.findById "T1"))).1 = .error e ∧
        e.root = .engine "Error: disk full" := by
  intro engine link
  have hanswer : (engine.query (sent (.findById "T1")).text link).1
      = (Envelope.ok (.string "Error: disk full") Reply.timestamp).result :=
    eq_of_answeredText? (by decide +kernel)
  have hnoticed := failure_noticed_iff engine (.findById "T1") link rfl rfl (by decide) hanswer
  exact ⟨hanswer, hnoticed.1.mpr rfl⟩

/-- A tree that the engine has failed to remove is taken for removed. -/
theorem delete_failure_unnoticed :
    let engine := (Client.mk "sawit" {}).engine
    let link := answering "Error: disk full"
    let envelope := Envelope.ok (.string "Error: disk full") Reply.timestamp
    envelope.success = true ∧ envelope.data = .string "Error: disk full" ∧
      "Error".toList <+: "Error: disk full".toList ∧
      (engine.query (sent (.delete "T1")).text link).1 = envelope.result ∧
      (runFrom link ((store engine).perform (.delete "T1"))).1 = .ok () ∧
      ¬ ∃ e, (runFrom link ((store engine).perform (.delete "T1"))).1 = .error e ∧
        e.root = .engine "Error: disk full" := by
  intro engine link envelope
  have hanswer : (engine.query (sent (.delete "T1")).text link).1
      = .ok (.string "Error: disk full") :=
    eq_of_answeredText? (by decide +kernel)
  have houtcome : (runFrom link ((store engine).perform (.delete "T1"))).1 = .ok () :=
    congrArg Prod.fst (runFrom_change "failed to delete tree" (validate_sent (.delete "T1"))
      (Prod.ext hanswer rfl))
  refine ⟨rfl, rfl, by decide, hanswer, houtcome, ?_⟩
  rintro ⟨e, herror, -⟩
  rw [houtcome] at herror
  exact absurd herror (by simp)

end Remote

end AqlGateway
