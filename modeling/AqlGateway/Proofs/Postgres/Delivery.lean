import AqlGateway.Proofs.Postgres.Invariant

/-!
# What a query delivers

Whatever the schedule of the task that fetches the rows of a result and of the one who reads them, the
reader gets the rows in front of the first failure, that failure once, and nothing of what is sent behind
it. A failure in front of all rows is the result of the query itself.

* `Fetching.work` — falls with each step that is made, so `progress`;
* `Fetching.sound_run` — what is left makes up the items behind every schedule;
* `Fetching.LostByFailure` — only a query that has failed has no cursor, unless the reader lets go of it;
* `outcomeOf` — the result of a query with these rows and this failure;
* `Fetching.Delivers`, `Fetching.Settled` — what a schedule delivers, and what it has delivered at the end;
* `callAll_query`, `query_delivers` — so every schedule delivers what a query of the server delivers.
-/

namespace AqlGateway.Postgres

open Cursor (Call Answer answersTo answerTo handedOut opening)

namespace Fetching

variable {columns : List Column} {items : List Item} {calls : List Call} {s t : Fetching}

/-! ### Coming to an end -/

/-- What the task has still to do: what the server sends is fetched and sent on. -/
def taskWork (s : Fetching) : Nat :=
  match s.phase with
  | .fetching => 2 * s.stream.length + 1
  | .sending _ => 2 * s.stream.length + 2
  | .ended => 0

/-- What the reader has still to do, who may let go of the cursor at any time. -/
def readerWork (s : Fetching) : Nat :=
  if s.dropped then 0 else 1 + (if s.opened.isSome then 0 else 1) + s.calls.length

def work (s : Fetching) : Nat := s.taskWork + s.readerWork

theorem work_start (stream : List Sent) (calls : List Call) :
    (start stream calls).work = 2 * stream.length + calls.length + 3 := by
  show 2 * stream.length + 1 + (1 + 1 + calls.length) = _
  omega

theorem readerWork_of_kept (h : s.dropped = false) :
    s.readerWork = 1 + (if s.opened.isSome then 0 else 1) + s.calls.length := by
  rw [readerWork, h]
  rfl

/-- What the server sends is fetched once and sent on once, and the reader makes each call once. -/
theorem work_move (h : s.Sound columns items calls) (hmove : Move columns s t) :
    t.work < s.work := by
  cases hmove with
  | @fetched sent later hphase hstream =>
    refine Nat.add_lt_add_right ?_ s.readerWork
    rw [taskWork, taskWork, hphase, hstream, List.length_cons]
    show 2 * later.length + 2 < 2 * (later.length + 1) + 1
    omega
  | ended hphase hstream =>
    refine Nat.add_lt_add_right ?_ s.readerWork
    rw [taskWork, taskWork, hphase]
    exact Nat.succ_pos _
  | @sent item cursor hphase hdropped hpush =>
    refine Nat.add_lt_add_right ?_ s.readerWork
    rw [taskWork, taskWork, hphase]
    cases item with
    | ok row => exact Nat.lt_succ_self _
    | error e => exact Nat.succ_pos _
  | refused hphase hdropped =>
    refine Nat.add_lt_add_right ?_ s.readerWork
    rw [taskWork, taskWork, hphase]
    exact Nat.succ_pos _
  | looked hdropped hready hopened =>
    have hkept := readerWork_of_kept hdropped
    rw [hopened] at hkept
    have hprimed := primed_left columns h.channel hready
    -- A failure lets go of the cursor, and all calls that were to come with it.
    cases hopening : opening (s.left columns) with
    | ok u =>
      rw [hopening] at hprimed
      rw [look_ok hprimed]
      show s.taskWork + (if s.dropped then 0 else 1 + 0 + s.calls.length) < s.taskWork + s.readerWork
      rw [hkept, hdropped]
      show s.taskWork + (1 + 0 + s.calls.length) < s.taskWork + (1 + 1 + s.calls.length)
      omega
    | error e =>
      rw [hopening] at hprimed
      rw [look_error hprimed]
      show s.taskWork + 0 < s.taskWork + s.readerWork
      rw [hkept]
      omega
  | @answered outcome call later hdropped hready hopened hcalls =>
    have hkept := readerWork_of_kept hdropped
    rw [hopened, hcalls] at hkept
    show s.taskWork + (if s.dropped then 0 else 1 + (if s.opened.isSome then 0 else 1) + later.length)
      < s.taskWork + s.readerWork
    rw [hkept, hdropped, hopened]
    show s.taskWork + (1 + 0 + later.length) < s.taskWork + (1 + 0 + (later.length + 1))
    omega
  | dropped hdropped =>
    show s.taskWork + 0 < s.taskWork + s.readerWork
    rw [readerWork_of_kept hdropped]
    omega

/-- A reader that has all answers, or no cursor, does not begin again. -/
theorem finished_move (h : s.Finished) (hmove : Move columns s t) : t.Finished := by
  have hkept (hdropped : s.dropped = false) : s.opened.isSome = true ∧ s.calls = [] := by
    rcases h with hlost | hdone
    · rw [hdropped] at hlost
      exact absurd hlost (by simp)
    · exact hdone
  cases hmove with
  | fetched => exact h
  | ended => exact h
  | sent => exact h
  | refused => exact h
  | looked hdropped _ hopened =>
    have hsome := (hkept hdropped).1
    rw [hopened] at hsome
    exact absurd hsome (by simp)
  | answered hdropped _ _ hcalls =>
    exact absurd ((hkept hdropped).2.symm.trans hcalls) (by simp)
  | dropped => exact .inl rfl

/-- As long as the reader waits for an answer, the reader or the task can make a step. -/
theorem exists_move (h : s.Sound columns items calls) (hunfinished : ¬ s.Finished) :
    ∃ turn ∈ [Turn.task, Turn.reader], Move columns s (s.step columns turn) := by
  rcases s.read_cases columns with ⟨-, hdropped | hwaits | hfinished⟩ | hmove
  · exact absurd (.inl hdropped) hunfinished
  · obtain ⟨hempty, hended⟩ := of_not_ready h.channel hwaits
    refine ⟨.task, by simp, ?_⟩
    rw [step]
    cases hphase : s.phase with
    | fetching => exact fetch_cases hphase
    | sending item =>
      obtain ⟨behind, hpush⟩ := push?_of_empty h.channel hempty item
      have hdropped : s.dropped = false := Bool.eq_false_iff.mpr fun hlost => hunfinished (.inl hlost)
      show Move columns s (s.send item)
      rw [send, if_neg (by simp [hdropped]), hpush]
      exact .sent hphase hdropped hpush
    | ended =>
      rw [hphase] at hended
      exact absurd hended (by simp [Phase.isEnded])
  · exact absurd hfinished hunfinished
  · exact ⟨.reader, by simp, hmove⟩

theorem progress (columns : List Column) (items : List Item) (calls : List Call) :
    Progress (step columns) [.task, .reader] (Sound columns items calls) Finished work :=
  .of_moves (step_cases columns) (fun _ _ => sound_move) (fun _ _ => finished_move)
    (fun _ _ => work_move) fun _ => exists_move

/-- Behind every schedule, what was answered and what is left make up the items up to the first
failure. -/
theorem sound_run (columns : List Column) (stream : List Sent) (calls : List Call)
    (turns : List Turn) :
    (run columns stream calls turns).Sound columns (untilFailure (stream.map (convert columns))) calls :=
  (progress columns _ calls).sound_foldl (sound_start columns stream calls) turns

/-- A cursor that is gone was never given to the reader, since the query failed. -/
def LostByFailure (s : Fetching) : Prop := s.dropped = true → ∃ e, s.opened = some (.error e)

theorem lostByFailure_step {turn : Turn} (hturn : turn ≠ .drop) (h : s.LostByFailure) :
    (s.step columns turn).LostByFailure := by
  cases turn with
  | drop => exact absurd rfl hturn
  | task =>
    rw [step]
    split
    · rw [fetch]
      split <;> exact h
    · rw [send]
      split
      · exact h
      · split <;> exact h
    · exact h
  | reader =>
    rw [step, read]
    split
    · next hready =>
      split
      · rw [look]
        split
        · exact fun hlost => absurd (hlost.symm.trans hready.1) (by simp)
        · exact fun _ => ⟨_, rfl⟩
      · exact h
      · exact h
    · exact h

/-- A cursor is lost for no other reason, unless the reader lets go of it. -/
theorem lostByFailure_steps {turns : List Turn} (hturns : .drop ∉ turns) (h : s.LostByFailure) :
    (turns.foldl (step columns) s).LostByFailure := by
  induction turns generalizing s with
  | nil => exact h
  | cons turn turns ih =>
    obtain ⟨hturn, hlater⟩ := not_or.mp (mt List.mem_cons.mpr hturns)
    exact ih hlater (lostByFailure_step (Ne.symm hturn) h)

end Fetching

/-! ### What a query delivers -/

/-- The result of a query: a failure in front of all rows is its own. -/
def outcomeOf : List Row → Option Error → Except Error Unit
  | [], some e => .error e
  | _, _ => .ok ()

variable {rows : List Row} {failure : Option Error} {columns : List Column} {stream : List Sent}
  {calls : List Call}

/-- A look at the first item finds a failure exactly when no row is in front of it. -/
theorem opening_itemsOf (rows : List Row) (failure : Option Error) :
    opening (itemsOf rows failure) = outcomeOf rows failure := by
  cases rows <;> cases failure <;> rfl

/-- An error among rows and the failure behind them is that failure, at the end. -/
theorem eq_of_error_mem {front later : List Item} {e : Error}
    (h : front ++ .error e :: later = itemsOf rows failure) :
    front = rows.map .ok ∧ failure = some e ∧ later = [] := by
  induction rows generalizing front with
  | nil =>
    have hfailure : front ++ .error e :: later = (failure.map Except.error).toList := h
    cases failure with
    | none => exact absurd hfailure (by simp)
    | some e' =>
      cases front with
      | nil =>
        obtain ⟨he, hlater⟩ := List.cons.inj hfailure
        rw [Except.error.inj he]
        exact ⟨rfl, rfl, hlater⟩
      | cons item front => exact absurd (congrArg List.length hfailure) (by simp)
  | cons row rows ih =>
    have hrow : front ++ .error e :: later = .ok row :: itemsOf rows failure := h
    cases front with
    | nil => exact absurd (List.cons.inj hrow).1 (by simp)
    | cons item front =>
      obtain ⟨rfl, hrest⟩ := List.cons.inj hrow
      obtain ⟨rfl, hfailure, hlater⟩ := ih hrest
      exact ⟨rfl, hfailure, hlater⟩

namespace Fetching

/-- The query has the result that it should have, and the reader is handed out the rows in order, then the
failure, then nothing. -/
structure Delivers (rows : List Row) (failure : Option Error) (calls : List Call) (s : Fetching) :
    Prop where
  outcome : ∀ outcome, s.opened = some outcome → outcome = outcomeOf rows failure
  /-- A query that has not succeeded has no cursor to call. -/
  unopened : s.opened ≠ some (.ok ()) → s.answers = []
  answers : s.answers <+: answersTo (itemsOf rows failure) calls
  order : handedOut s.answers <+: itemsOf rows failure
  /-- An error is the failure. All rows are in front of it, and nothing comes behind it. -/
  once : ∀ (front later : List Item) (e : Error), handedOut s.answers = front ++ .error e :: later →
    front = rows.map .ok ∧ failure = some e ∧ later = []
  /-- There is no next item only when all have been handed out. -/
  ends : ∀ front behind : List Answer, s.answers = front ++ .next none :: behind →
    handedOut front = itemsOf rows failure

variable {s : Fetching}

theorem Sound.delivers (h : s.Sound columns (itemsOf rows failure) calls) :
    s.Delivers rows failure calls := by
  have horder : handedOut s.answers <+: itemsOf rows failure :=
    (List.IsPrefix.filterMap _ h.told).trans (Cursor.handedOut_prefix _ calls)
  refine ⟨?_, h.unanswered, h.told, horder, ?_, ?_⟩
  · intro outcome houtcome
    rw [← opening_itemsOf]
    exact h.result outcome houtcome
  · intro front later e hitems
    obtain ⟨more, hmore⟩ := horder
    rw [hitems, List.append_assoc, List.cons_append] at hmore
    obtain ⟨hfront, hfailure, hnone⟩ := eq_of_error_mem hmore
    exact ⟨hfront, hfailure, (List.append_eq_nil_iff.mp hnone).1⟩
  · intro front behind hanswers
    obtain ⟨more, hmore⟩ := h.told
    rw [hanswers, List.append_assoc, List.cons_append] at hmore
    exact Cursor.handedOut_of_end hmore.symm

/-- The query has its result, and if it has succeeded, all calls are answered. -/
structure Settled (rows : List Row) (failure : Option Error) (calls : List Call) (s : Fetching) :
    Prop where
  opened : s.opened = some (outcomeOf rows failure)
  answers : outcomeOf rows failure = .ok () → s.answers = answersTo (itemsOf rows failure) calls

theorem Sound.settled (h : s.Sound columns (itemsOf rows failure) calls) (hfinished : s.Finished)
    (hlost : s.LostByFailure) : s.Settled rows failure calls := by
  have hresult (outcome : Except Error Unit) (houtcome : s.opened = some outcome) :
      s.opened = some (outcomeOf rows failure) := by
    rw [houtcome, h.result outcome houtcome, opening_itemsOf]
  cases hdropped : s.dropped with
  | true =>
    obtain ⟨e, he⟩ := hlost hdropped
    have hopened := hresult _ he
    refine ⟨hopened, fun hok => ?_⟩
    rw [hok, he] at hopened
    exact absurd hopened (by simp)
  | false =>
    rcases hfinished with hgone | ⟨hsome, hcalls⟩
    · exact absurd (hdropped.symm.trans hgone) (by simp)
    · obtain ⟨outcome, houtcome⟩ := Option.isSome_iff_exists.mp hsome
      refine ⟨hresult outcome houtcome, fun _ => ?_⟩
      have hanswered := h.answered hdropped
      rw [hcalls] at hanswered
      exact (List.append_nil _).symm.trans hanswered

/-- When both sides have their turns again and again, the query has its result and the reader its
answers. -/
theorem settled_of_rounds {rounds : List (List Turn)}
    (hitems : untilFailure (stream.map (convert columns)) = itemsOf rows failure)
    (hrounds : ∀ round ∈ rounds, .task ∈ round ∧ .reader ∈ round ∧ .drop ∉ round)
    (hlength : 2 * stream.length + calls.length + 3 ≤ rounds.length) :
    (run columns stream calls rounds.flatten).Settled rows failure calls := by
  have hsound := sound_run columns stream calls rounds.flatten
  rw [hitems] at hsound
  refine hsound.settled ?_ ?_
  · refine (progress columns _ calls).done_of_rounds (sound_start columns stream calls) ?_ ?_
    · intro round hround turn hturn
      obtain ⟨htask, hreader, -⟩ := hrounds round hround
      rcases List.mem_cons.mp hturn with rfl | hturn
      · exact htask
      · rw [List.mem_singleton.mp hturn]
        exact hreader
    · rw [work_start]
      exact hlength
  · refine lostByFailure_steps ?_ fun hlost => absurd hlost (by simp [start])
    intro hdrop
    obtain ⟨round, hround, hmem⟩ := List.mem_flatten.mp hdrop
    exact (hrounds round hround).2.2 hmem

end Fetching

open Fetching (Turn)

def Server.next (server : Server) : Reply := server.replies.head?.getD {}

theorem Server.query_eq (server : Server) (q : Aql.BoundQuery) :
    ((Server.query q).run server).1
      = (Cursor.ofChannel (.ofItems Server.bufferSize (untilFailure server.next.items))).primed := rfl

/-- The cursor of a server that has fetched everything at once answers the same. -/
theorem callAll_query {server : Server}
    (h : Shows server.next.columns server.next.stream rows failure) (q : Aql.BoundQuery)
    (calls : List Call) :
    ((Server.query q).run server).1.map (·.callAll calls)
      = (outcomeOf rows failure).map fun _ => answersTo (itemsOf rows failure) calls := by
  let cursor := Cursor.ofChannel (.ofItems Server.bufferSize (itemsOf rows failure))
  have hcursor : ((Server.query q).run server).1 = cursor.primed := by
    rw [server.query_eq, Reply.items_eq, untilFailure_of_shows h]
  have hremaining : cursor.remaining = itemsOf rows failure := rfl
  have hprimed := cursor.primed_eq
  rw [hremaining] at hprimed
  rw [hcursor, hprimed, ← opening_itemsOf]
  cases hopening : opening (itemsOf rows failure) with
  | error e => rfl
  | ok u =>
    have hbehind := (cursor.call_eq .prime).2
    rw [hremaining, Cursor.leftAfter_of_opening hopening] at hbehind
    show Except.ok ((cursor.call .prime).2.callAll calls) = _
    rw [Cursor.callAll_eq, hbehind]
    rfl

/-- Whatever the server sends, it shows rows and then a failure or its end. A failure in front of all rows
is the error of the query. Else the cursor hands out the rows in order, then the failure once, and then
ends, under every schedule of the task that fetches and of the reader, who may let go at any time; and the
reader is given all answers when both have their turns again and again. So do the cursors of the server. -/
theorem query_delivers (columns : List Column) (stream : List Sent) :
    (∃ rows failure, Shows columns stream rows failure) ∧
      ∀ rows failure, Shows columns stream rows failure → ∀ calls : List Call,
        (∀ turns : List Turn,
          (Fetching.run columns stream calls turns).Delivers rows failure calls) ∧
        (∀ rounds : List (List Turn),
          (∀ round ∈ rounds, .task ∈ round ∧ .reader ∈ round ∧ .drop ∉ round) →
          2 * stream.length + calls.length + 3 ≤ rounds.length →
          (Fetching.run columns stream calls rounds.flatten).Settled rows failure calls) ∧
        ∀ (server : Server) (q : Aql.BoundQuery),
          server.next.columns = columns → server.next.stream = stream →
          ((Server.query q).run server).1.map (·.callAll calls)
            = (outcomeOf rows failure).map fun _ => answersTo (itemsOf rows failure) calls := by
  refine ⟨exists_shows columns stream, fun rows failure h calls => ⟨?_, ?_, ?_⟩⟩
  · intro turns
    have hsound := Fetching.sound_run columns stream calls turns
    rw [untilFailure_of_shows h] at hsound
    exact hsound.delivers
  · intro rounds hrounds hlength
    exact Fetching.settled_of_rounds (untilFailure_of_shows h) hrounds hlength
  · rintro server q rfl rfl
    exact callAll_query h q calls

/-- The second of three rows cannot be read, and the reader has its answers although the task has to be
waited for. -/
theorem query_delivers_unreadable :
    let columns : List Column := [⟨"code", .text⟩, ⟨"height", .int4⟩]
    let stream : List Sent :=
      [.ok [.text "C001", .integer 3], .ok [.text "C002", .text "tall"], .ok [.text "C003", .null]]
    let row : Row := ⟨["code", "height"], [.text "C001", .integer 3]⟩
    let failure : Error := .database (.columnDecode 1)
    let rounds := List.replicate 12 [Turn.reader, Turn.task]
    Shows columns stream [row] (some failure) ∧
      (∀ round ∈ rounds, .task ∈ round ∧ .reader ∈ round ∧ .drop ∉ round) ∧
      (Fetching.run columns stream [.next, .next, .next] rounds.flatten).opened = some (.ok ()) ∧
      (Fetching.run columns stream [.next, .next, .next] rounds.flatten).answers
        = [.next (some (.ok row)), .next (some (.error failure)), .next none] := by
  intro columns stream row failure rounds
  have hshows : Shows columns stream [row] (some failure) := .row rfl (.unreadable rfl)
  have hrounds : ∀ round ∈ rounds, .task ∈ round ∧ .reader ∈ round ∧ .drop ∉ round := by
    intro round hround
    rw [List.eq_of_mem_replicate hround]
    decide
  obtain ⟨-, hdelivers⟩ := query_delivers columns stream
  obtain ⟨-, hsettles, -⟩ := hdelivers _ _ hshows [.next, .next, .next]
  have hsettled := hsettles rounds hrounds (by decide)
  exact ⟨hshows, hrounds, hsettled.opened, hsettled.answers rfl⟩

end AqlGateway.Postgres
