import AqlGateway.Postgres.Server
import AqlGateway.Proofs.Executor.Reading

/-!
# Rows fetched by a task

A query with rows starts a task. The task takes what the server sends, converts it and sends it on through
a bounded channel, until the server has no more, a row or the server fails, or nobody reads any longer.
Meanwhile the query looks at the first row, and then its cursor is read. A schedule says whose turn it is;
whoever has to wait loses the turn.

* `Sent`, `Shows` — what the server sends, and the rows and the failure that it shows;
* `untilFailure_of_shows` — they are the items up to the first error;
* `convertNamed_eq` — the names that are kept from the first row are those of every row;
* `Fetching`, `Fetching.step`, `Fetching.run` — the task, the reader and their steps;
* `Fetching.Move` — the steps that are made, `step_cases`.
-/

namespace AqlGateway.Postgres

open Cursor (Call Answer answersTo answerTo leftAfter handedOut)

/-! ### What the server sends -/

/-- The data of a row, or an error of the server. -/
abbrev Sent := Except Error (List Datum)

/-- The row of what was sent, or the error in its place. -/
def convert (columns : List Column) : Sent → Item
  | .ok data => decodeRow columns data
  | .error e => .error e

def Reply.stream (reply : Reply) : List Sent :=
  match reply.refusal with
  | none => reply.rows.map .ok
  | some refusal => match refusal.stage with
    | .preparing => [.error refusal.error]
    | .running => reply.rows.map .ok ++ [.error refusal.error]

/-- A reply has the items of what the server sends for it. -/
theorem Reply.items_eq (reply : Reply) :
    reply.items = reply.stream.map (convert reply.columns) := by
  have hrows : (reply.rows.map (Except.ok : List Datum → Sent)).map (convert reply.columns)
      = reply.rows.map (decodeRow reply.columns) := by
    rw [List.map_map]
    rfl
  rw [items, stream]
  cases reply.refusal with
  | none => exact hrows.symm
  | some refusal =>
    cases hstage : refusal.stage with
    | preparing => simp only [hstage, List.map_singleton, convert]
    | running => simp only [hstage, List.map_append, hrows, List.map_singleton, convert]

/-- A stream shows rows in order, and behind them a failure or its end. Whatever is sent behind a failure
does not matter. -/
inductive Shows (columns : List Column) : List Sent → List Row → Option Error → Prop
  | ended : Shows columns [] [] none
  /-- The server fails. -/
  | refused {e : Error} {later : List Sent} : Shows columns (.error e :: later) [] (some e)
  /-- A row cannot be read. -/
  | unreadable {data : List Datum} {e : Error} {later : List Sent} :
      decodeRow columns data = .error e → Shows columns (.ok data :: later) [] (some e)
  | row {data : List Datum} {row : Row} {later : List Sent} {rows : List Row}
      {failure : Option Error} : decodeRow columns data = .ok row → Shows columns later rows failure →
      Shows columns (.ok data :: later) (row :: rows) failure

/-- Rows, and a failure behind them if there is one. -/
def itemsOf (rows : List Row) (failure : Option Error) : List Item :=
  rows.map .ok ++ (failure.map Except.error).toList

variable {columns : List Column} {stream : List Sent} {rows : List Row} {failure : Option Error}

/-- Every stream shows some rows and a failure or its end. -/
theorem exists_shows (columns : List Column) (stream : List Sent) :
    ∃ rows failure, Shows columns stream rows failure := by
  induction stream with
  | nil => exact ⟨[], none, .ended⟩
  | cons sent later ih =>
    cases sent with
    | error e => exact ⟨[], some e, .refused⟩
    | ok data =>
      cases hrow : decodeRow columns data with
      | error e => exact ⟨[], some e, .unreadable hrow⟩
      | ok row =>
        obtain ⟨rows, failure, hlater⟩ := ih
        exact ⟨row :: rows, failure, .row hrow hlater⟩

/-- The items up to the first failure are the rows in front of it, and the failure. -/
theorem untilFailure_of_shows (h : Shows columns stream rows failure) :
    untilFailure (stream.map (convert columns)) = itemsOf rows failure := by
  induction h with
  | ended => rfl
  | refused => rfl
  | unreadable hrow => rw [List.map_cons, convert, hrow]; rfl
  | row hrow _ ih => rw [List.map_cons, convert, hrow, untilFailure, ih]; rfl

/-- What was sent as an item, and the names of the columns: those of the first row are kept for the rows
behind it. -/
def convertNamed (columns : List Column) (names : Option (List String)) :
    Sent → Item × Option (List String)
  | .ok data =>
    let kept := names.getD (columns.map Column.name)
    ((decodeValues 0 columns data).map fun values => ⟨kept, values⟩, some kept)
  | .error e => (.error e, names)

/-- The names that were kept are those of the columns. -/
def Named (columns : List Column) (names : Option (List String)) : Prop :=
  ∀ kept, names = some kept → kept = columns.map Column.name

/-- The names that are kept from the first row make no difference, for all rows of a result have the
same columns. -/
theorem convertNamed_eq {names : Option (List String)} (h : Named columns names) (sent : Sent) :
    (convertNamed columns names sent).1 = convert columns sent ∧
      Named columns (convertNamed columns names sent).2 := by
  have hkept : names.getD (columns.map Column.name) = columns.map Column.name := by
    cases names with
    | none => rfl
    | some kept => exact h kept rfl
  cases sent with
  | error e => exact ⟨rfl, h⟩
  | ok data =>
    rw [convertNamed, hkept]
    exact ⟨rfl, fun kept hk => (Option.some.inj hk).symm⟩

/-! ### The task and the reader -/

namespace Fetching

/-- What the task is at. -/
inductive Phase
  /-- It waits for what the server sends next. -/
  | fetching
  /-- It waits until the channel takes an item. -/
  | sending (item : Item)
  /-- It has ended, and its sender is gone. -/
  | ended

def Phase.isEnded : Phase → Bool
  | ended => true
  | _ => false

inductive Turn
  | task
  | reader
  /-- The reader lets go of the cursor, or of the query. -/
  | drop
  deriving DecidableEq, Repr

end Fetching

open Fetching (Phase Turn)

/-- A task that fetches the rows of a result, and the one who reads them. -/
structure Fetching where
  /-- What the server has still to send. -/
  stream : List Sent
  /-- The names of the columns, once a row has shown them. -/
  names : Option (List String)
  phase : Phase
  /-- The reader's end of the channel. -/
  cursor : Cursor
  /-- The result of the query. -/
  opened : Option (Except Error Unit)
  dropped : Bool
  /-- The calls that the reader has still to make. -/
  calls : List Call
  /-- The answers to those that were made. -/
  answers : List Answer

namespace Fetching

/-- The channel is empty. -/
def start (stream : List Sent) (calls : List Call) : Fetching where
  stream := stream
  names := none
  phase := .fetching
  cursor := .ofChannel (.ofItems Server.bufferSize [])
  opened := none
  dropped := false
  calls := calls
  answers := []

/-- The task takes what the server sends next. It ends when there is nothing more. -/
def fetch (columns : List Column) (s : Fetching) : Fetching :=
  match s.stream with
  | [] => { s with phase := .ended }
  | sent :: later =>
    { s with
      stream := later
      names := (convertNamed columns s.names sent).2
      phase := .sending (convertNamed columns s.names sent).1 }

/-- The cursor behind whose channel one more item waits, if there is room. -/
def push? (cursor : Cursor) (item : Item) : Option Cursor :=
  match cursor.source with
  | .buffered _ => none
  | .streaming channel =>
    if channel.queue.length < channel.capacity then
      some { cursor with
        source := .streaming { channel with queue := channel.queue ++ [item] } }
    else none

/-- The task sends an item on, unless the channel is full. It ends behind an error, and when nobody
reads. -/
def send (s : Fetching) (item : Item) : Fetching :=
  if s.dropped then { s with phase := .ended }
  else match push? s.cursor item with
    | none => s
    | some cursor => { s with
        cursor := cursor
        phase := if item.isOk then .fetching else .ended }

/-- The query looks at the first row. An error in its place is the result of the query, which has no
cursor then. -/
def look (s : Fetching) : Fetching :=
  match s.cursor.primed with
  | .ok cursor => { s with cursor := cursor, opened := some (.ok ()) }
  | .error e => { s with opened := some (.error e), dropped := true }

/-- A call is made and answered. -/
def answer (s : Fetching) (call : Call) (calls : List Call) : Fetching :=
  { s with
    cursor := (s.cursor.call call).2
    calls := calls
    answers := s.answers ++ [(s.cursor.call call).1] }

/-- The query looks at the first row, and behind it the reader makes the next call, unless they have to
wait. -/
def read (s : Fetching) : Fetching :=
  if s.dropped = false ∧ s.cursor.ready s.phase.isEnded = true then
    match s.opened, s.calls with
    | none, _ => s.look
    | some _, call :: calls => s.answer call calls
    | some _, [] => s
  else s

def step (columns : List Column) (s : Fetching) : Turn → Fetching
  | .task => match s.phase with
    | .fetching => s.fetch columns
    | .sending item => s.send item
    | .ended => s
  | .reader => s.read
  | .drop => { s with dropped := true }

/-- A query under a schedule: the server sends `stream`, and the reader makes `calls`. -/
def run (columns : List Column) (stream : List Sent) (calls : List Call) (turns : List Turn) :
    Fetching :=
  turns.foldl (step columns) (start stream calls)

/-- The reader has all answers, or has let go of the cursor. -/
def Finished (s : Fetching) : Prop := s.dropped = true ∨ s.opened.isSome = true ∧ s.calls = []

/-! ### Steps -/

/-- The steps in which something happens. -/
inductive Move (columns : List Column) (s : Fetching) : Fetching → Prop
  | fetched {sent : Sent} {later : List Sent} : s.phase = .fetching → s.stream = sent :: later →
      Move columns s { s with
        stream := later
        names := (convertNamed columns s.names sent).2
        phase := .sending (convertNamed columns s.names sent).1 }
  /-- The server has no more. -/
  | ended : s.phase = .fetching → s.stream = [] → Move columns s { s with phase := .ended }
  | sent {item : Item} {cursor : Cursor} : s.phase = .sending item → s.dropped = false →
      push? s.cursor item = some cursor →
      Move columns s { s with
        cursor := cursor
        phase := if item.isOk then .fetching else .ended }
  /-- Nobody takes the item. -/
  | refused {item : Item} : s.phase = .sending item → s.dropped = true →
      Move columns s { s with phase := .ended }
  | looked : s.dropped = false → s.cursor.ready s.phase.isEnded = true → s.opened = none →
      Move columns s s.look
  | answered {outcome : Except Error Unit} {call : Call} {calls : List Call} : s.dropped = false →
      s.cursor.ready s.phase.isEnded = true → s.opened = some outcome → s.calls = call :: calls →
      Move columns s (s.answer call calls)
  | dropped : s.dropped = false → Move columns s { s with dropped := true }

variable {s t : Fetching} {turn : Turn}

theorem send_cases {item : Item} (h : s.phase = .sending item) :
    s.send item = s ∨ Move columns s (s.send item) := by
  rw [send]
  split
  · next hdropped => exact .inr (.refused h hdropped)
  · next hdropped =>
    cases hpush : push? s.cursor item with
    | none => exact .inl rfl
    | some cursor => exact .inr (.sent h (Bool.eq_false_iff.mpr hdropped) hpush)

/-- A turn of the reader is wasted when the cursor is gone, when it has to wait, or when all is
done. -/
theorem read_cases (columns : List Column) (s : Fetching) :
    s.read = s ∧ (s.dropped = true ∨ s.cursor.ready s.phase.isEnded = false ∨ s.Finished) ∨
      Move columns s s.read := by
  rw [read]
  split
  · next hready =>
    obtain ⟨hdropped, hready⟩ := hready
    split
    · next hopened => exact .inr (.looked hdropped hready hopened)
    · next hopened hcalls => exact .inr (.answered hdropped hready hopened hcalls)
    · next hopened hcalls => exact .inl ⟨rfl, .inr (.inr (.inr ⟨by rw [hopened]; rfl, hcalls⟩))⟩
  · next hwaits =>
    refine .inl ⟨rfl, ?_⟩
    cases hdropped : s.dropped with
    | true => exact .inl rfl
    | false => exact .inr (.inl (Bool.eq_false_iff.mpr fun hready => hwaits ⟨hdropped, hready⟩))

theorem fetch_cases (h : s.phase = .fetching) : Move columns s (s.fetch columns) := by
  rw [fetch]
  split
  · next hstream => exact .ended h hstream
  · next hstream => exact .fetched h hstream

theorem step_cases (columns : List Column) (s : Fetching) (turn : Turn) :
    s.step columns turn = s ∨ Move columns s (s.step columns turn) := by
  cases turn with
  | task =>
    rw [step]
    cases hphase : s.phase with
    | fetching => exact .inr (fetch_cases hphase)
    | sending item => exact send_cases hphase
    | ended => exact .inl rfl
  | reader => exact (s.read_cases columns).imp_left And.left
  | drop =>
    cases hdropped : s.dropped with
    | true => exact .inl (by rw [step, ← hdropped])
    | false => exact .inr (.dropped hdropped)

end Fetching

end AqlGateway.Postgres
