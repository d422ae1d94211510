import AqlGateway.Proofs.Postgres.Fetching

/-!
# What a reader has still to get

* `Fetching.left` — the items that wait in the channel and those that the task will send;
* `Fetching.call_eq`, `primed_left` — calls and the look at the first row are answered out of them;
* `Fetching.Sound` — together with what was answered they make up the items of the result;
* `Fetching.sound_start`, `sound_move` — so it is at the beginning and behind every step.
-/

namespace AqlGateway.Postgres

open Cursor (Call Answer answersTo answerTo leftAfter handedOut opening)

namespace Fetching

open Cursor (answerTo_append leftAfter_of_opening opening_append primed_eq)

/-! ### What is left -/

def toSend (columns : List Column) (s : Fetching) : List Item :=
  match s.phase with
  | .fetching => untilFailure (s.stream.map (convert columns))
  | .sending item => untilFailure (item :: s.stream.map (convert columns))
  | .ended => []

/-- What the reader has still to get. -/
def left (columns : List Column) (s : Fetching) : List Item :=
  s.cursor.remaining ++ s.toSend columns

/-- A cursor at the end of the channel, in which only items wait that were sent. -/
def AtChannel (cursor : Cursor) : Prop :=
  ∃ queue, cursor.source = .streaming ⟨Server.bufferSize, queue, []⟩

variable {columns : List Column} {items : List Item} {calls : List Call} {s t : Fetching}
  {cursor behind : Cursor} {item : Item}

theorem atChannel_next (h : AtChannel cursor) : AtChannel cursor.next.2 := by
  obtain ⟨source, pending⟩ := cursor
  obtain ⟨queue, rfl⟩ := h
  rcases pending with _ | row
  · rcases queue with _ | ⟨item, queue⟩ <;> exact ⟨_, rfl⟩
  · exact ⟨queue, rfl⟩

theorem atChannel_call (h : AtChannel cursor) (call : Call) : AtChannel (cursor.call call).2 := by
  obtain ⟨queue, hsource⟩ := atChannel_next h
  exact ⟨queue, (cursor.source_call call).trans hsource⟩

/-- An item that is sent on waits behind all others. -/
theorem of_push? (h : AtChannel cursor) (hpush : push? cursor item = some behind) :
    AtChannel behind ∧ behind.remaining = cursor.remaining ++ [item] := by
  obtain ⟨source, pending⟩ := cursor
  obtain ⟨queue, rfl⟩ := h
  rw [push?] at hpush
  split at hpush
  · exact absurd hpush (by simp)
  · next channel hsource =>
    obtain rfl := Source.streaming.inj hsource
    split at hpush
    · obtain rfl := Option.some.inj hpush
      refine ⟨⟨queue ++ [item], rfl⟩, ?_⟩
      simp [Cursor.remaining, Cursor.sourceItems, Channel.items]
    · exact absurd hpush (by simp)

/-- An empty channel takes an item. -/
theorem push?_of_empty (h : AtChannel cursor) (hempty : cursor.remaining = []) (item : Item) :
    ∃ behind, push? cursor item = some behind := by
  obtain ⟨source, pending⟩ := cursor
  obtain ⟨queue, rfl⟩ := h
  have hqueue : queue = [] := by
    simp only [Cursor.remaining, Cursor.sourceItems, Channel.items, List.append_eq_nil_iff] at hempty
    exact hempty.2.1
  subst hqueue
  exact ⟨_, rfl⟩

/-- A reader that need not wait has an item, or no item will come. -/
theorem of_ready (columns : List Column) (h : AtChannel s.cursor)
    (hready : s.cursor.ready s.phase.isEnded = true) :
    s.cursor.remaining ≠ [] ∨ s.toSend columns = [] := by
  obtain ⟨queue, hsource⟩ := h
  rw [Cursor.ready, hsource, Bool.or_eq_true, Bool.or_eq_true] at hready
  rcases hready with hpending | hqueue | hended
  · obtain ⟨row, hrow⟩ := Option.isSome_iff_exists.mp hpending
    exact .inl (by simp [Cursor.remaining, hrow])
  · refine .inl fun hnil => ?_
    simp only [Cursor.remaining, hsource, Cursor.sourceItems, Channel.items,
      List.append_eq_nil_iff] at hnil
    simp [hnil.2.1] at hqueue
  · rw [toSend]
    cases hphase : s.phase with
    | ended => exact .inr rfl
    | _ => rw [hphase] at hended; exact absurd hended (by simp [Phase.isEnded])

/-- A reader that has to wait has nothing, and the task has not ended. -/
theorem of_not_ready (h : AtChannel s.cursor) (hwaits : s.cursor.ready s.phase.isEnded = false) :
    s.cursor.remaining = [] ∧ s.phase.isEnded = false := by
  obtain ⟨queue, hsource⟩ := h
  rw [Cursor.ready, hsource, Bool.or_eq_false_iff, Bool.or_eq_false_iff] at hwaits
  obtain ⟨hpending, hqueue, hended⟩ := hwaits
  refine ⟨?_, hended⟩
  have hrow : s.cursor.pending = none := by simpa using hpending
  have hnil : queue = [] := by simpa using hqueue
  simp [Cursor.remaining, hrow, hsource, hnil, Cursor.sourceItems, Channel.items]

/-- A call that need not wait is answered out of what is left. -/
theorem call_eq (columns : List Column) (h : AtChannel s.cursor)
    (hready : s.cursor.ready s.phase.isEnded = true) (call : Call) :
    (s.cursor.call call).1 = answerTo (s.left columns) call ∧
      (s.cursor.call call).2.remaining ++ s.toSend columns = leftAfter (s.left columns) call := by
  obtain ⟨hanswer, hbehind⟩ := s.cursor.call_eq call
  obtain ⟨hsame, hmore⟩ := answerTo_append (of_ready columns h hready) call
  rw [left, hsame, hmore, hanswer, hbehind]
  exact ⟨rfl, rfl⟩

/-- The query looks at the first of what is left, though the task may not have sent the rest. -/
theorem primed_left (columns : List Column) (h : AtChannel s.cursor)
    (hready : s.cursor.ready s.phase.isEnded = true) :
    s.cursor.primed = (opening (s.left columns)).map fun _ => (s.cursor.call .prime).2 := by
  rw [primed_eq, left, opening_append (of_ready columns h hready)]

theorem look_ok (h : s.cursor.primed = .ok behind) :
    s.look = { s with cursor := behind, opened := some (.ok ()) } := by
  rw [look, h]

theorem look_error {e : Error} (h : s.cursor.primed = .error e) :
    s.look = { s with opened := some (.error e), dropped := true } := by
  rw [look, h]

/-! ### What steps keep -/

/-- What was answered and what is left make up the items, as long as the reader has the cursor. The query
succeeds unless an error is the first item, and nothing is answered before. -/
structure Sound (columns : List Column) (items : List Item) (calls : List Call) (s : Fetching) :
    Prop where
  named : Named columns s.names
  channel : AtChannel s.cursor
  result : ∀ outcome, s.opened = some outcome → outcome = opening items
  failed : ∀ e, s.opened = some (.error e) → s.dropped = true
  unopened : s.opened = none → s.dropped = false → s.left columns = items
  unanswered : s.opened ≠ some (.ok ()) → s.answers = []
  answered : s.dropped = false →
    s.answers ++ answersTo (s.left columns) s.calls = answersTo items calls
  told : s.answers <+: answersTo items calls

/-- At first all items are left, and the query has no result. -/
theorem sound_start (columns : List Column) (stream : List Sent) (calls : List Call) :
    (start stream calls).Sound columns (untilFailure (stream.map (convert columns))) calls where
  named := fun _ h => absurd h (by simp [start])
  channel := ⟨[], rfl⟩
  result := fun _ h => absurd h (by simp [start])
  failed := fun _ h => absurd h (by simp [start])
  unopened := fun _ _ => rfl
  unanswered := fun _ => rfl
  answered := fun _ => rfl
  told := List.nil_prefix

/-- A step of the task keeps what is left, unless nobody reads. -/
theorem Sound.of_left (h : s.Sound columns items calls) (hnamed : Named columns t.names)
    (hchannel : AtChannel t.cursor) (hopened : t.opened = s.opened) (hdropped : t.dropped = s.dropped)
    (hcalls : t.calls = s.calls) (hanswers : t.answers = s.answers)
    (hleft : s.dropped = false → t.left columns = s.left columns) :
    t.Sound columns items calls where
  named := hnamed
  channel := hchannel
  result := by rw [hopened]; exact h.result
  failed := by rw [hopened, hdropped]; exact h.failed
  unopened := by
    rw [hopened, hdropped]
    exact fun hnone hkept => (hleft hkept).trans (h.unopened hnone hkept)
  unanswered := by rw [hopened, hanswers]; exact h.unanswered
  answered := by
    rw [hdropped, hanswers, hcalls]
    intro hkept
    rw [hleft hkept]
    exact h.answered hkept
  told := by rw [hanswers]; exact h.told

/-- A look at the first row takes nothing out of the account; a failure there ends it. -/
theorem Sound.look (h : s.Sound columns items calls) (hdropped : s.dropped = false)
    (hready : s.cursor.ready s.phase.isEnded = true) (hopened : s.opened = none) :
    s.look.Sound columns items calls := by
  have hleft := h.unopened hopened hdropped
  have hanswers := h.unanswered (by rw [hopened]; simp)
  have hprimed := primed_left columns h.channel hready
  rw [hleft] at hprimed
  cases hopening : opening items with
  | error e =>
    rw [hopening] at hprimed
    rw [look_error hprimed]
    exact {
      named := h.named
      channel := h.channel
      result := by
        rintro outcome ⟨⟩
        exact hopening.symm
      failed := fun _ _ => rfl
      unopened := fun hnone => absurd hnone (by simp)
      unanswered := fun _ => hanswers
      answered := fun hkept => absurd hkept (by simp)
      told := h.told }
  | ok u =>
    rw [hopening] at hprimed
    rw [look_ok hprimed]
    have hbehind := (call_eq columns h.channel hready .prime).2
    rw [hleft, leftAfter_of_opening hopening] at hbehind
    have hanswered := h.answered hdropped
    rw [hleft] at hanswered
    exact {
      named := h.named
      channel := atChannel_call h.channel .prime
      result := by
        rintro outcome ⟨⟩
        exact hopening.symm
      failed := fun e he => absurd he (by simp)
      unopened := fun hnone => absurd hnone (by simp)
      unanswered := fun _ => hanswers
      answered := by
        intro _
        show s.answers
          ++ answersTo ((s.cursor.call .prime).2.remaining ++ s.toSend columns) s.calls = _
        rw [hbehind]
        exact hanswered
      told := h.told }

/-- An answer moves from what is left to what was answered. -/
theorem Sound.answer (h : s.Sound columns items calls) (hdropped : s.dropped = false)
    (hready : s.cursor.ready s.phase.isEnded = true) {outcome : Except Error Unit}
    (hopened : s.opened = some outcome) {call : Call} {later : List Call}
    (hcalls : s.calls = call :: later) : (s.answer call later).Sound columns items calls := by
  obtain ⟨hanswer, hbehind⟩ := call_eq columns h.channel hready call
  have hok : s.opened = some (.ok ()) := by
    cases outcome with
    | ok u => exact hopened
    | error e =>
      have hlost := h.failed e hopened
      rw [hdropped] at hlost
      exact absurd hlost (by simp)
  have hanswered : s.answers ++ [(s.cursor.call call).1]
      ++ answersTo ((s.cursor.call call).2.remaining ++ s.toSend columns) later
        = answersTo items calls := by
    have hbefore := h.answered hdropped
    rw [hcalls, answersTo] at hbefore
    rw [hanswer, hbehind, List.append_assoc]
    exact hbefore
  exact {
    named := h.named
    channel := atChannel_call h.channel call
    result := h.result
    failed := h.failed
    unopened := fun hnone => absurd (hopened.symm.trans hnone) (by simp)
    unanswered := fun hnot => absurd hok hnot
    answered := fun _ => hanswered
    told := ⟨_, hanswered⟩ }

/-- No step loses an item, doubles one or brings one out of turn. -/
theorem sound_move (h : s.Sound columns items calls) (hmove : Move columns s t) :
    t.Sound columns items calls := by
  cases hmove with
  | @fetched sent later hphase hstream =>
    obtain ⟨hitem, hnamed⟩ := convertNamed_eq h.named sent
    refine h.of_left hnamed h.channel rfl rfl rfl rfl fun _ => ?_
    rw [left, left, toSend, toSend, hphase, hstream, hitem, List.map_cons]
  | ended hphase hstream =>
    refine h.of_left h.named h.channel rfl rfl rfl rfl fun _ => ?_
    rw [left, left, toSend, toSend, hphase, hstream]
    rfl
  | @sent item cursor hphase hdropped hpush =>
    obtain ⟨hchannel, hremaining⟩ := of_push? h.channel hpush
    refine h.of_left h.named hchannel rfl rfl rfl rfl fun _ => ?_
    rw [left, left, hremaining, List.append_assoc, toSend, toSend, hphase]
    cases item <;> rfl
  | refused hphase hdropped =>
    refine h.of_left h.named h.channel rfl rfl rfl rfl fun hkept => ?_
    -- The item is lost, but nobody has the cursor any more.
    exact absurd (hdropped.symm.trans hkept) (by simp)
  | looked hdropped hready hopened => exact h.look hdropped hready hopened
  | answered hdropped hready hopened hcalls => exact h.answer hdropped hready hopened hcalls
  | dropped hdropped =>
    exact {
      named := h.named
      channel := h.channel
      result := h.result
      failed := fun _ _ => rfl
      unopened := fun _ hkept => absurd hkept (by simp)
      unanswered := h.unanswered
      answered := fun hkept => absurd hkept (by simp)
      told := h.told }

end Fetching

end AqlGateway.Postgres
