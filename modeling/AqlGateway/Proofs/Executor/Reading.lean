import AqlGateway.Proofs.Executor.Cursor
import AqlGateway.Proofs.Executor.Rounds

/-!
# Cursors read under a schedule

A consumer makes calls to a cursor and then collects the rest, while a producer fills the channel behind
it. A schedule says whose turn it is. A side that has to wait loses its turn: the producer at a full
channel, the consumer at an empty one whose sender is still there.

* `Reading`, `Reading.step`, `Reading.run` — the two sides and their steps;
* `Reading.Move` — the steps that are made, `step_cases`;
* `Reading.Sound` — what was answered and what is left make up the items, and the answers to come are
  fixed; `sound_move` for a step, `sound_run` for a schedule;
* `Reading.work` — falls with each step that is made, so `progress` and `finished_of_rounds`;
* `Reading.Delivers`, `run_delivers` — nothing is lost, repeated or put out of order.
-/

namespace AqlGateway

open Cursor (Call Answer answersTo answerTo leftAfter handedOut Collects)

/-! ### The two sides -/

/-- Where the items of a reading come from. -/
inductive Supply
  /-- The rows are in memory. -/
  | held (rows : List Row)
  /-- The items are sent through a channel. -/
  | sent (requested : Nat) (items : List Item)

def Supply.cursor : Supply → Cursor
  | held rows => .ofRows rows
  | sent requested items => .ofChannel (.ofItems requested items)

def Supply.items : Supply → List Item
  | held rows => rows.map .ok
  | sent _ items => items

inductive Side
  | producer
  | consumer
  deriving DecidableEq, Repr

/-- What the producer has still to send. -/
def Source.unsent : Source → List Item
  | .buffered _ => []
  | .streaming channel => channel.unsent

def Source.HasRoom : Source → Prop
  | .buffered _ => True
  | .streaming channel => 0 < channel.capacity

/-- A call can be answered at once: a row is held ready, the rows are in memory, an item waits in the
channel, or the sender is gone. -/
def Cursor.ready (closed : Bool) (cursor : Cursor) : Bool :=
  cursor.pending.isSome || match cursor.source with
    | .buffered _ => true
    | .streaming channel => !channel.queue.isEmpty || closed

/-- A consumer that makes calls and then collects the rest, and the producer behind its cursor. -/
structure Reading where
  cursor : Cursor
  /-- The producer has dropped the sender. -/
  closed : Bool
  /-- The calls that are still to be made. -/
  calls : List Call
  /-- The answers to those that were made. -/
  answers : List Answer
  /-- The rows collected so far. -/
  rows : List Row
  /-- What collecting came to. -/
  result : Option (Except Error (List Row))

namespace Reading

/-- Nothing was sent and nothing asked. -/
def start (supply : Supply) (calls : List Call) : Reading :=
  ⟨supply.cursor, false, calls, [], [], none⟩

/-- The producer sends its next item if there is room. It drops the sender when all are sent. -/
def produce (reading : Reading) : Reading :=
  match reading.cursor.source with
  | .buffered _ => reading
  | .streaming channel =>
    if channel.unsent = [] then { reading with closed := true }
    else { reading with cursor := { reading.cursor with source := .streaming channel.produce } }

/-- One more row is collected, or collecting comes to its end. -/
def gather (reading : Reading) : Reading :=
  match reading.cursor.next with
  | (some (.ok row), rest) => { reading with cursor := rest, rows := reading.rows ++ [row] }
  | (some (.error e), rest) => { reading with cursor := rest, result := some (.error e) }
  | (none, rest) => { reading with cursor := rest, result := some (.ok reading.rows) }

/-- A call is made and answered. -/
def answer (reading : Reading) (call : Call) (calls : List Call) : Reading :=
  { reading with
    cursor := (reading.cursor.call call).2
    calls := calls
    answers := reading.answers ++ [(reading.cursor.call call).1] }

/-- The consumer makes its next call, or collects when all are made, unless it has to wait. -/
def consume (reading : Reading) : Reading :=
  if reading.cursor.ready reading.closed then
    match reading.calls, reading.result with
    | call :: calls, _ => reading.answer call calls
    | [], none => reading.gather
    | [], some _ => reading
  else reading

def step (reading : Reading) : Side → Reading
  | .producer => reading.produce
  | .consumer => reading.consume

def run (supply : Supply) (calls : List Call) (schedule : List Side) : Reading :=
  schedule.foldl step (start supply calls)

/-- All calls are answered, and the rest is collected. -/
def Finished (reading : Reading) : Prop := reading.calls = [] ∧ reading.result.isSome = true

/-! ### Steps -/

/-- The steps in which something happens. -/
inductive Move (r : Reading) : Reading → Prop
  /-- The producer sends an item. -/
  | sent {channel : Channel} : r.cursor.source = .streaming channel → channel.unsent ≠ [] →
      channel.queue.length < channel.capacity →
      Move r { r with cursor := { r.cursor with source := .streaming channel.produce } }
  /-- The producer drops the sender. -/
  | closed : r.cursor.source.unsent = [] → r.closed = false → Move r { r with closed := true }
  /-- The consumer makes a call. -/
  | answered {call : Call} {calls : List Call} : r.cursor.ready r.closed = true →
      r.calls = call :: calls → Move r (r.answer call calls)
  /-- The consumer collects. -/
  | gathered : r.cursor.ready r.closed = true → r.calls = [] → r.result = none → Move r r.gather

variable {r : Reading}

theorem produce_of_buffered {rows : List Row} (h : r.cursor.source = .buffered rows) :
    r.produce = r := by
  rw [produce, h]

theorem produce_of_streaming {channel : Channel} (h : r.cursor.source = .streaming channel) :
    r.produce = if channel.unsent = [] then { r with closed := true }
      else { r with cursor := { r.cursor with source := .streaming channel.produce } } := by
  rw [produce, h]

/-- A turn of the producer is wasted or a step. -/
theorem produce_cases (r : Reading) : r.produce = r ∨ Move r r.produce := by
  cases hsource : r.cursor.source with
  | buffered rows => exact .inl (produce_of_buffered hsource)
  | streaming channel =>
    rw [produce_of_streaming hsource]
    split
    · next hunsent =>
      cases hclosed : r.closed with
      | true => exact .inl (by rw [← hclosed])
      | false => exact .inr (.closed (by rw [hsource]; exact hunsent) hclosed)
    · next hunsent =>
      by_cases hroom : channel.queue.length < channel.capacity
      · exact .inr (.sent hsource hunsent hroom)
      · refine .inl ?_
        rw [Channel.produce_of_full hroom, ← hsource]

/-- A turn of the consumer is wasted only when it has to wait, or when all is done. -/
theorem consume_cases (r : Reading) :
    r.consume = r ∧ (r.cursor.ready r.closed = false ∨ r.Finished) ∨ Move r r.consume := by
  rw [consume]
  cases hready : r.cursor.ready r.closed with
  | false => exact .inl ⟨rfl, .inl rfl⟩
  | true =>
    rw [if_pos rfl]
    split
    · next hcalls => exact .inr (.answered hready hcalls)
    · next hcalls hresult => exact .inr (.gathered hready hcalls hresult)
    · next hcalls hresult => exact .inl ⟨rfl, .inr ⟨hcalls, by rw [hresult]; rfl⟩⟩

theorem step_cases (r : Reading) (side : Side) : r.step side = r ∨ Move r (r.step side) := by
  cases side with
  | producer => exact r.produce_cases
  | consumer => exact r.consume_cases.imp_left And.left

end Reading

namespace Cursor

variable {cursor : Cursor} {closed : Bool}

theorem remaining_produce {channel : Channel} (h : cursor.source = .streaming channel) :
    ({ cursor with source := .streaming channel.produce } : Cursor).remaining
      = cursor.remaining := by
  rw [remaining, remaining, h]
  exact congrArg _ channel.items_produce

theorem source_call (cursor : Cursor) (call : Call) :
    (cursor.call call).2.source = cursor.next.2.source := by
  cases call with
  | next => rfl
  | prime =>
    rw [Cursor.call, prime]
    rcases cursor.next with ⟨_ | _ | _, _⟩ <;> rfl

/-- A consumer that need not wait takes nothing that was not sent. -/
theorem unsent_next (hready : cursor.ready closed = true)
    (hclosed : closed = true → cursor.source.unsent = []) :
    cursor.next.2.source.unsent = cursor.source.unsent := by
  obtain ⟨source, pending⟩ := cursor
  rcases pending with _ | row
  · rcases source with (_ | _) | ⟨capacity, _ | _, unsent⟩
    · rfl
    · rfl
    · obtain rfl : unsent = [] := hclosed (by simpa [ready] using hready)
      rfl
    · rfl
  · rfl

theorem hasRoom_next (h : cursor.source.HasRoom) : cursor.next.2.source.HasRoom := by
  obtain ⟨source, pending⟩ := cursor
  rcases pending with _ | row
  · rcases source with (_ | _) | ⟨capacity, _ | _, _ | _⟩ <;> exact h
  · exact h

end Cursor

namespace Reading

variable {r : Reading}

/-- What is collected is the first of what is left. -/
theorem gather_eq (r : Reading) :
    r.gather = match r.cursor.remaining.head? with
      | some (.ok row) => { r with cursor := r.cursor.next.2, rows := r.rows ++ [row] }
      | some (.error e) => { r with cursor := r.cursor.next.2, result := some (.error e) }
      | none => { r with cursor := r.cursor.next.2, result := some (.ok r.rows) } := by
  rw [gather, ← Cursor.fst_next]
  rcases r.cursor.next with ⟨_ | _ | _, _⟩ <;> rfl

/-! ### What steps keep -/

/-- The items are those handed out, those collected and those that are left, and the answers to come are
the ones that are left to give. -/
structure Sound (items : List Item) (calls : List Call) (r : Reading) : Prop where
  answered : r.answers ++ answersTo r.cursor.remaining r.calls = answersTo items calls
  kept : r.result = none →
    handedOut r.answers ++ (r.rows.map .ok ++ r.cursor.remaining) = items
  idle : r.calls ≠ [] → r.rows = [] ∧ r.result = none
  collected : ∀ outcome, r.result = some outcome →
    ∃ left, handedOut r.answers ++ left = items ∧ outcome = left.mapM id
  sent : r.closed = true → r.cursor.source.unsent = []
  room : r.cursor.source.HasRoom

variable {items : List Item} {calls : List Call} {t : Reading}

/-- At first everything is left. -/
theorem sound_start (supply : Supply) (calls : List Call) :
    (start supply calls).Sound supply.items calls := by
  have hitems : supply.cursor.remaining = supply.items := by
    cases supply <;> rfl
  refine ⟨congrArg (answersTo · calls) hitems, fun _ => hitems, fun _ => ⟨rfl, rfl⟩, ?_, ?_, ?_⟩
  · exact fun outcome h => absurd h (by simp [start])
  · exact fun h => absurd h (by simp [start])
  · cases supply with
    | held rows => trivial
    | sent requested items => exact Nat.le_max_right requested 1

theorem Sound.answer (h : r.Sound items calls) (hready : r.cursor.ready r.closed = true)
    {call : Call} {later : List Call} (hcalls : r.calls = call :: later) :
    (r.answer call later).Sound items calls := by
  obtain ⟨hanswer, hleft⟩ := Cursor.call_eq r.cursor call
  obtain ⟨hrows, hresult⟩ := h.idle (by simp [hcalls])
  have hsource := Cursor.source_call r.cursor call
  refine ⟨?_, fun _ => ?_, fun _ => ⟨hrows, hresult⟩, ?_, fun hclosed => ?_, ?_⟩
  · have hanswered := h.answered
    rw [hcalls] at hanswered
    show r.answers ++ [(r.cursor.call call).1] ++ answersTo (r.cursor.call call).2.remaining later = _
    rw [hanswer, hleft, List.append_assoc]
    exact hanswered
  · have hkept := h.kept hresult
    rw [hrows] at hkept
    show handedOut (r.answers ++ [(r.cursor.call call).1])
      ++ (r.rows.map .ok ++ (r.cursor.call call).2.remaining) = items
    rw [hrows, hanswer, hleft, Cursor.handedOut_append, List.append_assoc]
    show _ ++ (handedOut [answerTo r.cursor.remaining call] ++ leftAfter r.cursor.remaining call) = _
    rw [Cursor.handedOut_answerTo]
    exact hkept
  · exact fun outcome houtcome => absurd (hresult.symm.trans houtcome) (by simp)
  · show (r.cursor.call call).2.source.unsent = []
    rw [hsource, Cursor.unsent_next hready h.sent]
    exact h.sent hclosed
  · show (r.cursor.call call).2.source.HasRoom
    rw [hsource]
    exact Cursor.hasRoom_next h.room

theorem Sound.gather (h : r.Sound items calls) (hready : r.cursor.ready r.closed = true)
    (hcalls : r.calls = []) (hresult : r.result = none) : r.gather.Sound items calls := by
  have hkept := h.kept hresult
  have hbehind := Cursor.remaining_next r.cursor
  have hsent : r.closed = true → r.cursor.next.2.source.unsent = [] := fun hclosed => by
    rw [Cursor.unsent_next hready h.sent]
    exact h.sent hclosed
  have hanswered : ∀ left, r.answers ++ answersTo left r.calls = answersTo items calls := by
    have hanswered := h.answered
    rw [hcalls] at hanswered ⊢
    exact fun left => hanswered
  have hroom := Cursor.hasRoom_next h.room
  have hidle : r.calls ≠ [] → False := fun hne => hne hcalls
  -- Collecting ends with the items, ends at an error, or takes one more row.
  rcases hremaining : r.cursor.remaining with _ | ⟨e | row, left⟩
  · rw [gather_eq, hremaining]
    refine ⟨hanswered _, fun hnone => absurd hnone (by simp), fun hne => (hidle hne).elim, ?_, hsent,
      hroom⟩
    rintro outcome ⟨⟩
    rw [hremaining, List.append_nil] at hkept
    exact ⟨_, hkept, (Cursor.mapM_rows r.rows).symm⟩
  · rw [gather_eq, hremaining]
    refine ⟨hanswered _, fun hnone => absurd hnone (by simp), fun hne => (hidle hne).elim, ?_, hsent,
      hroom⟩
    rintro outcome ⟨⟩
    rw [hremaining] at hkept
    exact ⟨_, hkept, (Cursor.mapM_error r.rows e left).symm⟩
  · rw [gather_eq, hremaining]
    refine ⟨hanswered _, fun _ => ?_, fun hne => (hidle hne).elim, ?_, hsent, hroom⟩
    · rw [hremaining] at hkept hbehind
      show handedOut r.answers ++ ((r.rows ++ [row]).map .ok ++ r.cursor.next.2.remaining) = items
      rw [hbehind, List.map_append, List.append_assoc]
      exact hkept
    · exact fun outcome houtcome => absurd (hresult.symm.trans houtcome) (by simp)

/-- Each step keeps the account: what is sent stays left, and what is answered moves to the
answers. -/
theorem sound_move (h : r.Sound items calls) (hmove : Move r t) : t.Sound items calls := by
  cases hmove with
  | @sent channel hsource hunsent hroom =>
    have hremaining := Cursor.remaining_produce hsource
    refine ⟨?_, fun hresult => ?_, h.idle, h.collected, fun hclosed => ?_, ?_⟩
    · show r.answers ++ answersTo (Cursor.remaining _) r.calls = _
      rw [hremaining]
      exact h.answered
    · show handedOut r.answers ++ (r.rows.map .ok ++ Cursor.remaining _) = _
      rw [hremaining]
      exact h.kept hresult
    · have hnone := h.sent hclosed
      rw [hsource] at hnone
      exact absurd hnone hunsent
    · have hcapacity : 0 < channel.capacity := Nat.zero_lt_of_lt hroom
      show 0 < channel.produce.capacity
      rw [Channel.capacity_produce]
      exact hcapacity
  | closed hunsent hclosed =>
    exact ⟨h.answered, h.kept, h.idle, h.collected, fun _ => hunsent, h.room⟩
  | answered hready hcalls => exact h.answer hready hcalls
  | gathered hready hcalls hresult => exact h.gather hready hcalls hresult

/-! ### Coming to an end -/

def work (r : Reading) : Nat :=
  r.cursor.source.unsent.length + (if r.closed then 0 else 1) + r.calls.length
    + (if r.result.isSome then 0 else r.cursor.remaining.length + 1)

theorem work_start (supply : Supply) (calls : List Call) :
    (start supply calls).work ≤ 2 * supply.items.length + calls.length + 2 := by
  cases supply with
  | held rows =>
    show 0 + 1 + calls.length + ((rows.map Except.ok : List Item).length + 1)
      ≤ 2 * (rows.map Except.ok : List Item).length + calls.length + 2
    omega
  | sent requested items =>
    show items.length + 1 + calls.length + (items.length + 1) ≤ 2 * items.length + calls.length + 2
    omega

/-- Sending an item and taking it count for one each, so every step leaves less. -/
theorem work_move (h : r.Sound items calls) (hmove : Move r t) : t.work < r.work := by
  cases hmove with
  | @sent channel hsource hunsent hroom =>
    have hless := Channel.unsent_produce hunsent hroom
    have hremaining := congrArg List.length (Cursor.remaining_produce hsource)
    show channel.produce.unsent.length + (if r.closed then 0 else 1) + r.calls.length
      + (if r.result.isSome then 0 else (Cursor.remaining _).length + 1) < r.work
    rw [hremaining, work, hsource, Source.unsent]
    omega
  | closed hunsent hclosed =>
    rw [work, work, hclosed]
    simp only [if_true, Bool.false_eq_true, if_false]
    omega
  | @answered call later hready hcalls =>
    have hsource := Cursor.source_call r.cursor call
    have hleft := (Cursor.call_eq r.cursor call).2
    have hresult := (h.idle (by simp [hcalls])).2
    have hlength : (leftAfter r.cursor.remaining call).length ≤ r.cursor.remaining.length := by
      rw [leftAfter, List.length_drop]
      exact Nat.sub_le _ _
    show (r.cursor.call call).2.source.unsent.length + (if r.closed then 0 else 1) + later.length
      + (if r.result.isSome then 0 else (r.cursor.call call).2.remaining.length + 1) < r.work
    rw [hsource, Cursor.unsent_next hready h.sent, hleft, work, hcalls, hresult]
    simp only [Option.isSome_none, Bool.false_eq_true, if_false, List.length_cons]
    omega
  | gathered hready hcalls hresult =>
    have hunsent := Cursor.unsent_next hready h.sent
    have hbehind := Cursor.remaining_next r.cursor
    rcases hremaining : r.cursor.remaining with _ | ⟨e | row, left⟩
    · rw [gather_eq, hremaining, List.head?_nil, work, work, hunsent, hresult]
      simp only [Option.isSome_none, Option.isSome_some, Bool.false_eq_true, if_false, if_true]
      omega
    · rw [gather_eq, hremaining, List.head?_cons, work, work, hunsent, hresult]
      simp only [Option.isSome_none, Option.isSome_some, Bool.false_eq_true, if_false, if_true]
      omega
    · rw [hremaining, List.tail_cons] at hbehind
      rw [gather_eq, hremaining, List.head?_cons, work, work, hunsent, hbehind, hresult, hremaining]
      simp only [Option.isSome_none, Bool.false_eq_true, if_false, List.length_cons]
      omega

/-- As long as a reading is not finished, one side can make a step. -/
theorem exists_move (h : r.Sound items calls) (hunfinished : ¬ r.Finished) :
    ∃ side, Move r (r.step side) := by
  rcases r.consume_cases with ⟨-, hwaits | hfinished⟩ | hmove
  · refine ⟨.producer, ?_⟩
    have hroom := h.room
    show Move r r.produce
    rw [Cursor.ready, Bool.or_eq_false_iff] at hwaits
    obtain ⟨-, hwaits⟩ := hwaits
    cases hsource : r.cursor.source with
    | buffered rows =>
      rw [hsource] at hwaits
      exact absurd hwaits (by simp)
    | streaming channel =>
      rw [hsource] at hwaits hroom
      obtain ⟨hempty, hclosed⟩ := Bool.or_eq_false_iff.mp hwaits
      have hqueue : channel.queue = [] := by simpa using hempty
      rw [produce_of_streaming hsource]
      split
      · next hunsent => exact .closed (by rw [hsource]; exact hunsent) hclosed
      · next hunsent => exact .sent hsource hunsent (by rw [hqueue]; exact hroom)
  · exact absurd hfinished hunfinished
  · exact ⟨.consumer, hmove⟩

theorem finished_move (h : r.Finished) (hmove : Move r t) : t.Finished := by
  obtain ⟨hcalls, hresult⟩ := h
  cases hmove with
  | sent => exact ⟨hcalls, hresult⟩
  | closed => exact ⟨hcalls, hresult⟩
  | answered _ hcons => exact absurd (hcalls.symm.trans hcons) (by simp)
  | gathered _ _ hnone => rw [hnone] at hresult; exact absurd hresult (by simp)

theorem progress (items : List Item) (calls : List Call) :
    Progress step [.producer, .consumer] (Sound items calls) Finished work := by
  refine .of_moves step_cases (fun _ _ => sound_move) (fun _ _ => finished_move)
    (fun _ _ => work_move) fun r h hunfinished => ?_
  obtain ⟨side, hmove⟩ := exists_move h hunfinished
  exact ⟨side, by cases side <;> simp, hmove⟩

theorem sound_run (supply : Supply) (calls : List Call) (schedule : List Side) :
    (run supply calls schedule).Sound supply.items calls :=
  (progress supply.items calls).sound_foldl (sound_start supply calls) schedule

theorem work_steps (h : r.Sound items calls) (schedule : List Side) :
    (schedule.foldl step r).work ≤ r.work :=
  (progress items calls).work_le h schedule

/-- A reading is finished after as many rounds as there is work, when both sides have a turn in each. -/
theorem finished_of_rounds (h : r.Sound items calls) {rounds : List (List Side)}
    (hrounds : ∀ round ∈ rounds, .producer ∈ round ∧ .consumer ∈ round)
    (hwork : r.work ≤ rounds.length) : (rounds.flatten.foldl step r).Finished := by
  refine (progress items calls).done_of_rounds h (fun round hround side hside => ?_) hwork
  obtain ⟨hproducer, hconsumer⟩ := hrounds round hround
  cases side with
  | producer => exact hproducer
  | consumer => exact hconsumer

/-! ### What a reading delivers -/

/-- Calls to a cursor over these items are answered as they should be, and so is collecting the rest. -/
structure Delivers (items : List Item) (calls : List Call) (r : Reading) : Prop where
  /-- What was handed out is a beginning of the items. -/
  order : handedOut r.answers <+: items
  /-- A row that was looked at, once or many times, is the next one. -/
  look : ∀ (front : List Answer) (row : Row) (looks : List Answer) (item : Option Item)
    (behind : List Answer),
    r.answers = front ++ (.primed (.ok (some row)) :: looks) ++ .next item :: behind →
    (∀ answer ∈ looks, answer.IsLook) → item = some (.ok row)
  /-- There is no next item only when all have been handed out. -/
  ends : ∀ front behind : List Answer, r.answers = front ++ .next none :: behind →
    handedOut front = items
  /-- What is left can be collected at any time. -/
  collect : r.rows = [] → r.result = none → ∀ left, handedOut r.answers ++ left = items →
    Collects left r.cursor.collect
  /-- What was left after all calls has been collected. -/
  collected : ∀ outcome, r.result = some outcome → r.answers.length = calls.length ∧
    ∀ left, handedOut r.answers ++ left = items → Collects left outcome

/-- What was answered so far is the beginning of what will have been answered. -/
theorem Sound.answers_prefix (h : r.Sound items calls) : r.answers <+: answersTo items calls :=
  ⟨_, h.answered⟩

theorem Sound.calls_of_result (h : r.Sound items calls) (hresult : r.result.isSome = true) :
    r.calls = [] := by
  cases hcalls : r.calls with
  | nil => rfl
  | cons call later =>
    rw [(h.idle (by simp [hcalls])).2] at hresult
    exact absurd hresult (by simp)

theorem Sound.answers_of_result (h : r.Sound items calls) (hresult : r.result.isSome = true) :
    r.answers = answersTo items calls := by
  have hanswered := h.answered
  rw [h.calls_of_result hresult] at hanswered
  exact (List.append_nil _).symm.trans hanswered

theorem Sound.delivers (h : r.Sound items calls) : r.Delivers items calls := by
  obtain ⟨more, hmore⟩ := h.answers_prefix
  refine ⟨?_, ?_, ?_, ?_, ?_⟩
  · refine List.IsPrefix.trans ?_ (Cursor.handedOut_prefix items calls)
    exact List.IsPrefix.filterMap _ h.answers_prefix
  · intro front row looks item behind hanswers hlooks
    rw [hanswers, List.append_assoc, List.cons_append] at hmore
    exact Cursor.next_of_look hlooks hmore.symm
  · intro front behind hanswers
    rw [hanswers, List.append_assoc, List.cons_append] at hmore
    exact Cursor.handedOut_of_end hmore.symm
  · intro hrows hresult left hleft
    have hkept := h.kept hresult
    rw [hrows] at hkept
    have hremaining : r.cursor.remaining = left := List.append_cancel_left (hkept.trans hleft.symm)
    rw [Cursor.collect_eq, hremaining]
    exact Cursor.collects_mapM left
  · intro outcome houtcome
    have hanswers := h.answers_of_result (by rw [houtcome]; rfl)
    refine ⟨by rw [hanswers, Cursor.length_answersTo], fun left hleft => ?_⟩
    obtain ⟨left', hleft', rfl⟩ := h.collected outcome houtcome
    rw [List.append_cancel_left (hleft'.trans hleft.symm)]
    exact Cursor.collects_mapM left

/-- Two schedules that come to the end come to the same end. -/
theorem Sound.eq_of_finished (hr : r.Sound items calls) (ht : t.Sound items calls)
    (hfinished : r.Finished) (hfinished' : t.Finished) :
    r.answers = t.answers ∧ r.result = t.result := by
  have hanswers : r.answers = t.answers :=
    (hr.answers_of_result hfinished.2).trans (ht.answers_of_result hfinished'.2).symm
  obtain ⟨outcome, hr'⟩ := Option.isSome_iff_exists.mp hfinished.2
  obtain ⟨outcome', ht'⟩ := Option.isSome_iff_exists.mp hfinished'.2
  obtain ⟨left, hleft, rfl⟩ := hr.collected outcome hr'
  obtain ⟨left', hleft', rfl⟩ := ht.collected outcome' ht'
  rw [hanswers] at hleft
  rw [hr', ht', List.append_cancel_left (hleft.trans hleft'.symm)]
  exact ⟨hanswers, rfl⟩

/-- Under every schedule, a cursor loses, repeats and reorders nothing. Every schedule that goes on with
turns for both sides comes to an end. And of two cursors over the same items, in memory or sent through
channels of any size, the answers to calls never differ. -/
theorem run_delivers (supply : Supply) (calls : List Call) (schedule : List Side) :
    (run supply calls schedule).Delivers supply.items calls ∧
      (∀ rounds : List (List Side), (∀ round ∈ rounds, .producer ∈ round ∧ .consumer ∈ round) →
        2 * supply.items.length + calls.length + 2 ≤ rounds.length →
        (run supply calls (schedule ++ rounds.flatten)).Finished) ∧
      ∀ other : Supply, other.items = supply.items → ∀ schedule' : List Side,
        ((run supply calls schedule).answers <+: (run other calls schedule').answers ∨
          (run other calls schedule').answers <+: (run supply calls schedule).answers) ∧
        ((run supply calls schedule).Finished → (run other calls schedule').Finished →
          (run supply calls schedule).answers = (run other calls schedule').answers ∧
            (run supply calls schedule).result = (run other calls schedule').result) := by
  have hsound := sound_run supply calls schedule
  refine ⟨hsound.delivers, fun rounds hrounds hlength => ?_, fun other hitems schedule' => ?_⟩
  · have hwork : (run supply calls schedule).work ≤ rounds.length :=
      Nat.le_trans (work_steps (sound_start supply calls) schedule)
        (Nat.le_trans (work_start supply calls) hlength)
    rw [run, List.foldl_append]
    exact finished_of_rounds hsound hrounds hwork
  · have hother := sound_run other calls schedule'
    rw [hitems] at hother
    exact ⟨List.prefix_or_prefix_of_prefix hsound.answers_prefix hother.answers_prefix,
      hsound.eq_of_finished hother⟩

end Reading

end AqlGateway
