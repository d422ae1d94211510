import AqlGateway.Proofs.Executor.Session

/-!
# What a cursor answers

Calls of `next` and `prime` are answered out of the items that a cursor has still to hand out, wherever
these come from.

* `Call`, `Answer` — a call, and what the caller is told;
* `handedOut` — the items that answers hand out: those of `next`, and the errors of `prime`;
* `answersTo` — the answers that calls are given out of a list of items;
* `call_eq`, `callAll_eq` — a cursor gives the answers of the items that it has still to hand out;
* `opening`, `primed_eq` — a cursor that is looked into fails with an error in the first place;
* `answerTo_append` — a call is answered out of the first item, whatever comes behind it;
* `answersTo_split` — answers in the middle are given out of the items that are left there;
* `Collects` — rows are collected in order, up to the first error.
-/

namespace AqlGateway

namespace Channel

variable {channel : Channel}

theorem produce_cons {item : Item} {rest : List Item} (h : channel.unsent = item :: rest) :
    channel.produce = if channel.queue.length < channel.capacity
      then ⟨channel.capacity, channel.queue ++ [item], rest⟩ else channel := by
  rw [produce, h]

/-- A full channel takes nothing. -/
theorem produce_of_full (h : ¬ channel.queue.length < channel.capacity) :
    channel.produce = channel := by
  cases hunsent : channel.unsent with
  | nil => rw [produce, hunsent]
  | cons item rest => rw [produce_cons hunsent, if_neg h]

/-- Items keep their order on their way into the channel. -/
theorem items_produce (channel : Channel) : channel.produce.items = channel.items := by
  cases hunsent : channel.unsent with
  | nil => rw [produce, hunsent]
  | cons item rest =>
    rw [produce_cons hunsent]
    split
    · rw [items, items, hunsent, List.append_assoc]
      rfl
    · rfl

theorem capacity_produce (channel : Channel) : channel.produce.capacity = channel.capacity := by
  cases hunsent : channel.unsent with
  | nil => rw [produce, hunsent]
  | cons item rest =>
    rw [produce_cons hunsent]
    split <;> rfl

theorem unsent_produce (hunsent : channel.unsent ≠ [])
    (hroom : channel.queue.length < channel.capacity) :
    channel.produce.unsent.length < channel.unsent.length := by
  obtain ⟨item, rest, hitem⟩ := List.exists_cons_of_ne_nil hunsent
  rw [produce_cons hitem, if_pos hroom, hitem, List.length_cons]
  exact Nat.lt_succ_self _

end Channel

namespace Cursor

inductive Call
  /-- The next row or error. -/
  | next
  /-- A look at the first row. -/
  | prime
  deriving DecidableEq, Repr

inductive Answer
  /-- The next row or error, or that there is none. -/
  | next (item : Option Item)
  /-- The row that the cursor now holds ready, if there is one, or the error in its place. -/
  | primed (outcome : Except Error (Option Row))

def call (cursor : Cursor) : Call → Answer × Cursor
  | .next => (.next cursor.next.1, cursor.next.2)
  | .prime => match cursor.prime with
    | (.ok (), rest) => (.primed (.ok rest.pending), rest)
    | (.error e, rest) => (.primed (.error e), rest)

def Answer.item? : Answer → Option Item
  | next item => item
  | primed (.error e) => some (.error e)
  | primed (.ok _) => none

/-- The items that answers hand out, in order. -/
def handedOut (answers : List Answer) : List Item := answers.filterMap Answer.item?

/-- The answer to a call when these items are left. -/
def answerTo : List Item → Call → Answer
  | left, .next => .next left.head?
  | [], .prime => .primed (.ok none)
  | .ok row :: _, .prime => .primed (.ok (some row))
  | .error e :: _, .prime => .primed (.error e)

/-- The items that are left after a call. -/
def leftAfter (left : List Item) (call : Call) : List Item :=
  left.drop (handedOut [answerTo left call]).length

/-- The answers to calls, one after the other. -/
def answersTo : List Item → List Call → List Answer
  | _, [] => []
  | left, call :: calls => answerTo left call :: answersTo (leftAfter left call) calls

def callAll : Cursor → List Call → List Answer
  | _, [] => []
  | cursor, call :: calls => (cursor.call call).1 :: (cursor.call call).2.callAll calls

/-! ### One call -/

variable {cursor : Cursor} {left : List Item}

/-- Handing out leaves nothing held ready. -/
theorem pending_next (cursor : Cursor) : cursor.next.2.pending = none := by
  obtain ⟨source, pending⟩ := cursor
  cases pending with
  | some row => rfl
  | none =>
    rw [next]
    cases take? source <;> rfl

theorem remaining_hold {row : Row} (h : cursor.pending = none) :
    ({ cursor with pending := some row } : Cursor).remaining = .ok row :: cursor.remaining := by
  rw [remaining, remaining, h]
  rfl

/-- A call is answered out of the items that the cursor has still to hand out. -/
theorem call_eq (cursor : Cursor) (call : Call) :
    (cursor.call call).1 = answerTo cursor.remaining call ∧
      (cursor.call call).2.remaining = leftAfter cursor.remaining call := by
  have hitem := fst_next cursor
  have hbehind := remaining_next cursor
  have hpending := pending_next cursor
  cases call with
  | next =>
    refine ⟨congrArg Answer.next hitem, hbehind.trans ?_⟩
    cases cursor.remaining <;> rfl
  | prime =>
    rw [Cursor.call, prime]
    rcases hnext : cursor.next with ⟨item, behind⟩
    rw [hnext] at hitem hbehind hpending
    rcases hremaining : cursor.remaining with _ | ⟨_ | row, rest⟩ <;>
      rw [hremaining] at hitem hbehind <;> subst hitem
    · exact ⟨congrArg (Answer.primed ∘ Except.ok) hpending, hbehind⟩
    · exact ⟨rfl, hbehind⟩
    · exact ⟨rfl, (remaining_hold hpending).trans (congrArg _ hbehind)⟩

/-- What a look at the first of these items comes to. -/
def opening : List Item → Except Error Unit
  | .error e :: _ => .error e
  | _ => .ok ()

/-- A cursor is looked into with success unless an error is in the first place. -/
theorem primed_eq (cursor : Cursor) :
    cursor.primed = (opening cursor.remaining).map fun _ => (cursor.call .prime).2 := by
  have hitem := fst_next cursor
  rw [primed, Cursor.call, prime]
  rcases hnext : cursor.next with ⟨item, behind⟩
  rw [hnext] at hitem
  rcases hremaining : cursor.remaining with _ | ⟨_ | row, rest⟩ <;> rw [hremaining] at hitem <;>
    subst hitem <;> rfl

theorem leftAfter_of_opening (h : opening left = .ok ()) : leftAfter left .prime = left := by
  rcases left with _ | ⟨e | row, left⟩
  · rfl
  · exact absurd h (by simp [opening])
  · rfl

/-- A call is answered out of the first item, whatever comes behind it. -/
theorem answerTo_append {more : List Item} (h : left ≠ [] ∨ more = []) (call : Call) :
    answerTo (left ++ more) call = answerTo left call ∧
      leftAfter (left ++ more) call = leftAfter left call ++ more := by
  rcases h with h | rfl
  · obtain ⟨item, rest, rfl⟩ := List.exists_cons_of_ne_nil h
    cases call <;> cases item <;> exact ⟨rfl, rfl⟩
  · rw [List.append_nil, List.append_nil]
    exact ⟨rfl, rfl⟩

/-- A look does not reach beyond the first item. -/
theorem opening_append {more : List Item} (h : left ≠ [] ∨ more = []) :
    opening (left ++ more) = opening left := by
  rcases h with h | rfl
  · obtain ⟨item, rest, rfl⟩ := List.exists_cons_of_ne_nil h
    cases item <;> rfl
  · rw [List.append_nil]

/-! ### Calls in a row -/

variable {answers front behind : List Answer} {calls : List Call} {items : List Item}

theorem handedOut_append (front behind : List Answer) :
    handedOut (front ++ behind) = handedOut front ++ handedOut behind :=
  List.filterMap_append

theorem handedOut_cons (answer : Answer) (behind : List Answer) :
    handedOut (answer :: behind) = handedOut [answer] ++ handedOut behind :=
  handedOut_append [answer] behind

/-- Calls to a cursor are answered out of what it has still to hand out. -/
theorem callAll_eq (cursor : Cursor) (calls : List Call) :
    cursor.callAll calls = answersTo cursor.remaining calls := by
  induction calls generalizing cursor with
  | nil => rfl
  | cons call calls ih =>
    obtain ⟨hanswer, hbehind⟩ := cursor.call_eq call
    rw [callAll, answersTo, ih, hanswer, hbehind]

theorem length_answersTo (items : List Item) (calls : List Call) :
    (answersTo items calls).length = calls.length := by
  induction calls generalizing items with
  | nil => rfl
  | cons call calls ih => rw [answersTo, List.length_cons, List.length_cons, ih]

/-- What a call hands out is taken from the front of the items. -/
theorem handedOut_answerTo (left : List Item) (call : Call) :
    handedOut [answerTo left call] ++ leftAfter left call = left := by
  cases call <;> rcases left with _ | ⟨_ | _, _⟩ <;> rfl

/-- Answers are given in two parts: the second out of the items that the first has left. -/
theorem answersTo_split (h : answersTo items calls = front ++ behind) :
    ∃ left later, items = handedOut front ++ left ∧ behind = answersTo left later := by
  induction front generalizing items calls with
  | nil => exact ⟨items, calls, rfl, h.symm⟩
  | cons answer front ih =>
    cases calls with
    | nil => exact absurd h (by simp [answersTo])
    | cons call calls =>
      obtain ⟨rfl, hrest⟩ := List.cons.inj h
      obtain ⟨left, later, hleft, hbehind⟩ := ih hrest
      refine ⟨left, later, ?_, hbehind⟩
      rw [handedOut_cons, List.append_assoc, ← hleft, handedOut_answerTo]

/-- What calls hand out is a beginning of the items. -/
theorem handedOut_prefix (items : List Item) (calls : List Call) :
    handedOut (answersTo items calls) <+: items := by
  obtain ⟨left, -, hleft, -⟩ := answersTo_split (List.append_nil (answersTo items calls)).symm
  exact ⟨left, hleft.symm⟩

theorem answerTo_of_cons {answer : Answer} {later : List Call}
    (h : answersTo left later = answer :: behind) : ∃ call, answerTo left call = answer := by
  cases later with
  | nil => exact absurd h (by simp [answersTo])
  | cons call later => exact ⟨call, (List.cons.inj h).1⟩

theorem head_of_next {call : Call} {item : Option Item} (h : answerTo left call = .next item) :
    left.head? = item := by
  cases call with
  | next => exact Answer.next.inj h
  | prime => rcases left with _ | ⟨_ | _, _⟩ <;> exact absurd h (by simp [answerTo])

theorem head_of_look {call : Call} {row : Row}
    (h : answerTo left call = .primed (.ok (some row))) : left.head? = some (.ok row) := by
  cases call with
  | next => exact absurd h (by simp [answerTo])
  | prime =>
    rcases left with _ | ⟨_ | first, _⟩
    · exact absurd h (by simp [answerTo])
    · exact absurd h (by simp [answerTo])
    · rw [Option.some.inj (Except.ok.inj (Answer.primed.inj h))]
      rfl

/-- There is no next item only when all have been handed out. -/
theorem handedOut_of_end (h : answersTo items calls = front ++ .next none :: behind) :
    handedOut front = items := by
  obtain ⟨left, later, hitems, hanswers⟩ := answersTo_split h
  obtain ⟨call, hcall⟩ := answerTo_of_cons hanswers.symm
  rw [hitems, List.head?_eq_none_iff.mp (head_of_next hcall), List.append_nil]

/-- A successful look at a row, which hands nothing out. -/
def Answer.IsLook : Answer → Prop
  | primed (.ok _) => True
  | _ => False

theorem handedOut_looks (h : ∀ answer ∈ answers, answer.IsLook) : handedOut answers = [] := by
  refine List.filterMap_eq_nil_iff.mpr fun answer hanswer => ?_
  have hlook := h answer hanswer
  rcases answer with _ | (_ | _)
  · exact absurd hlook id
  · exact absurd hlook id
  · rfl

/-- A row that was looked at, once or many times, is the next one. -/
theorem next_of_look {row : Row} {item : Option Item} {looks : List Answer}
    (hlooks : ∀ answer ∈ looks, answer.IsLook)
    (h : answersTo items calls
      = front ++ (.primed (.ok (some row)) :: looks) ++ .next item :: behind) :
    item = some (.ok row) := by
  have hnone : handedOut (.primed (.ok (some row)) :: looks) = [] :=
    handedOut_looks (List.forall_mem_cons.mpr ⟨trivial, hlooks⟩)
  rw [List.append_assoc] at h
  obtain ⟨left, later, -, hanswers⟩ := answersTo_split h
  obtain ⟨look, hlook⟩ := answerTo_of_cons hanswers.symm
  obtain ⟨left', later', hleft, hnext⟩ := answersTo_split hanswers.symm
  obtain ⟨call, hcall⟩ := answerTo_of_cons hnext.symm
  obtain rfl : left = left' := by rw [hleft, hnone, List.nil_append]
  rw [← head_of_next hcall, head_of_look hlook]

/-! ### Collecting -/

/-- What collecting items comes to: all rows in order when no error is among them, else the first
error. -/
structure Collects (left : List Item) (outcome : Except Error (List Row)) : Prop where
  rows : ∀ rows : List Row, left = rows.map .ok → outcome = .ok rows
  error : ∀ (rows : List Row) (e : Error) (later : List Item),
    left = rows.map .ok ++ .error e :: later → outcome = .error e

theorem mapM_error (rows : List Row) (e : Error) (later : List Item) :
    (rows.map Except.ok ++ .error e :: later : List Item).mapM id = .error e := by
  induction rows with
  | nil => rfl
  | cons row rows ih =>
    rw [List.map_cons, List.cons_append, List.mapM_cons, ih]
    rfl

/-- Collecting stops at the first error. -/
theorem collects_mapM (left : List Item) : Collects left (left.mapM id) where
  rows rows h := by rw [h, mapM_rows]
  error rows e later h := by rw [h, mapM_error]

end Cursor

end AqlGateway
