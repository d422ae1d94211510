import AqlGateway.Proofs.Remote.Lines
import AqlGateway.Proofs.Remote.Steps

/-!
# Answers go to those who asked

However calls take turns, an answer that a query returns is the engine's reply to the line that this
query wrote. What carries this is the state of the connection: when no task reads, nothing that was sent
on it is unread and every request on it has its answer; when a task reads, all that is unread is the
reply to its own request, the last one that was written.

* `Request.reply?`, `Request.Answered` — the engine's reply to a request, and its envelope;
* `Run.Settled`, `Run.Awaiting` — the two states of a connection; `Run.OwnAnswer` — what a query returns;
* `Run.Sound`, `sound_make` — the invariant, and that each move keeps it;
* `query_answered` — the answers of queries, and the state in which a request is written.
-/

namespace AqlGateway.Remote

variable {client : Client} {dialing : Nat → Dial}

/-! ### Replies -/

/-- The replies on the connection that a dial leads to, none without one. -/
def Dial.replies : Dial → List Reply
  | .accept replies => replies
  | .refuse _ => []

/-- What the engine does with a request: the reply in its place on its connection. -/
def Request.reply? (dialing : Nat → Dial) (request : Request) : Option Reply :=
  (dialing request.connection).replies[request.position]?

/-- The bytes that the engine sends because of a request. -/
def Request.sent (dialing : Nat → Dial) (request : Request) : List UInt8 :=
  ((request.reply? dialing).map Reply.sent).getD []

/-- The engine's reply to a request is a line with this envelope. -/
def Request.Answered (dialing : Nat → Dial) (request : Request) (envelope : Envelope) : Prop :=
  ∃ reply, request.reply? dialing = some reply ∧ decodeLine reply.sent = .ok envelope

/-- An engine that sends at most one line because of a request, on every connection. -/
def OneLineEach (dialing : Nat → Dial) : Prop :=
  ∀ n, ∀ reply ∈ (dialing n).replies, reply.OneLine

theorem oneLine_of_reply {request : Request} {reply : Reply} (hengine : OneLineEach dialing)
    (h : request.reply? dialing = some reply) : reply.OneLine :=
  hengine request.connection reply (List.mem_of_getElem? h)

/-- A line with an envelope that is read from the bytes of a reply is all of them. -/
theorem answered_of_decodeLine {request : Request} {data : List UInt8} {rest : List Arrival}
    {envelope : Envelope} (hengine : OneLineEach dialing)
    (hsent : request.sent dialing = data ++ carried rest) (hdecode : decodeLine data = .ok envelope) :
    carried rest = [] ∧ request.Answered dialing envelope := by
  have hlast := getLast?_of_decodeLine hdecode
  rw [Request.sent] at hsent
  cases hreply : request.reply? dialing with
  | none =>
    rw [hreply] at hsent
    have hdata : data = [] := (List.append_eq_nil_iff.mp hsent.symm).1
    rw [hdata] at hlast
    exact absurd hlast (by simp)
  | some reply =>
    rw [hreply] at hsent
    have hrest := eq_nil_of_oneLine (oneLine_of_reply hengine hreply) hsent hlast
    refine ⟨hrest, reply, hreply, ?_⟩
    have hdata : reply.sent = data := by
      rw [hrest, List.append_nil] at hsent
      exact hsent
    rw [hdata]
    exact hdecode

/-- What a written request makes of a stream: one reply less to come, and its bytes to read. -/
theorem written_of_write {stream written : Stream} {now : Nat}
    (h : stream.write now = .ok written) :
    written.replies = stream.replies.drop 1 ∧ carried written.arrivals
      = carried stream.arrivals ++ ((stream.replies[0]?).map Reply.sent).getD [] := by
  rw [Stream.write.eq_def] at h
  split at h
  · exact absurd h (by simp)
  · next reply replies _ hreplies =>
    rw [← Except.ok.inj h, hreplies, carried_append, carried_arrivals]
    exact ⟨rfl, rfl⟩
  · next hreplies =>
    rw [← Except.ok.inj h, hreplies, carried_append, carried_arrivals]
    exact ⟨rfl, rfl⟩

/-! ### The state of the connection -/

namespace Run

/-- Nothing on the connection is unread, and every request on it has its answer. -/
def Settled (dialing : Nat → Dial) (run : Run) (stream : Stream) : Prop :=
  carried stream.arrivals = [] ∧
    ∀ request ∈ run.outgoing, ∃ envelope, request.Answered dialing envelope

/-- The last request is that of task `i` in its last attempt. All that is unread is the reply to it, and
every request before it on the connection has its answer. -/
structure Awaiting (dialing : Nat → Dial) (run : Run) (i : Nat) (job : Job) (stream : Stream)
    (earlier : List Request) (request : Request) : Prop where
  requests : run.requests = earlier ++ [request]
  line : job.line? = some request.line
  task_eq : request.task = i
  attempt : request.attempt = run.attempts i
  connection : request.connection = run.connection
  unread : carried stream.arrivals = request.sent dialing
  answered : ∀ before ∈ earlier, before.connection = run.connection →
    ∃ envelope, before.Answered dialing envelope

def lastRequest (run : Run) (i : Nat) : Option Request :=
  (run.requests.filter fun request => request.task = i).getLast?

/-- A payload is that of the engine's reply to the last request of task `i`, which has this line and was
written in the last attempt of the task. -/
def OwnAnswer (dialing : Nat → Dial) (run : Run) (i : Nat) (line : String) (data : Json) : Prop :=
  ∃ request envelope, run.lastRequest i = some request ∧ request.attempt = run.attempts i ∧
    request.line = line ∧ request.Answered dialing envelope ∧ envelope.result = .ok data

/-- No task reads. -/
def Unread (run : Run) : Prop :=
  ∀ (i : Nat) (job : Job) (deadline : Nat), run.pool.tasks[i]? ≠ some ⟨job, .reading deadline⟩

/-- What holds between the moves of a run. -/
structure Sound (dialing : Nat → Dial) (run : Run) : Prop where
  dialing_eq : run.pool.link.dialing = dialing
  past : ∀ request ∈ run.requests, request.connection < run.pool.link.dials
  readersHold : run.pool.ReadersHold
  /-- The replies to come are those behind the ones to the requests that were written. -/
  replies : ∀ stream, run.pool.link.connection = some stream → 0 < run.pool.link.dials ∧
    stream.replies = (dialing run.connection).replies.drop run.outgoing.length
  settled : ∀ stream, run.pool.link.connection = some stream → run.Unread →
    run.Settled dialing stream
  awaiting : ∀ i job deadline, run.pool.tasks[i]? = some ⟨job, .reading deadline⟩ →
    ∃ stream earlier request, run.pool.link.connection = some stream ∧
      run.Awaiting dialing i job stream earlier request
  finished : ∀ i line retries data,
    run.pool.tasks[i]? = some ⟨.query line retries, .finished (.ok data)⟩ →
    run.OwnAnswer dialing i line data

/-! ### Steps -/

variable {run after : Run} {pool : Pool} {i : Nat} {task next : Task}

theorem connection_eq (h : after.pool.link.dials = run.pool.link.dials) :
    after.connection = run.connection := by
  rw [connection, connection, h]

theorem outgoing_eq (hdials : after.pool.link.dials = run.pool.link.dials)
    (hrequests : after.requests = run.requests) : after.outgoing = run.outgoing := by
  rw [outgoing, outgoing, hrequests, connection_eq hdials]

theorem outgoing_append {request : Request} (hdials : after.pool.link.dials = run.pool.link.dials)
    (hrequests : after.requests = run.requests ++ [request])
    (hconnection : request.connection = run.connection) :
    after.outgoing = run.outgoing ++ [request] := by
  rw [outgoing, outgoing, hrequests, connection_eq hdials, List.filter_append,
    List.filter_cons_of_pos (by simpa using hconnection), List.filter_nil]

/-- A connection on which nothing was written stays settled. -/
theorem Settled.of_eq {stream : Stream} (h : run.Settled dialing stream)
    (hdials : after.pool.link.dials = run.pool.link.dials)
    (hrequests : after.requests = run.requests) : after.Settled dialing stream := by
  rw [Settled, outgoing_eq hdials hrequests]
  exact h

theorem Awaiting.of_eq {job : Job} {stream : Stream} {earlier : List Request} {request : Request}
    (h : run.Awaiting dialing i job stream earlier request)
    (hdials : after.pool.link.dials = run.pool.link.dials)
    (hrequests : after.requests = run.requests) (hattempts : after.attempts i = run.attempts i) :
    after.Awaiting dialing i job stream earlier request := by
  have hconnection := connection_eq hdials
  have hattempt := h.attempt.trans hattempts.symm
  refine ⟨hrequests.trans h.requests, h.line, h.task_eq, hattempt, ?_, h.unread, ?_⟩
  · rw [hconnection]
    exact h.connection
  · rw [hconnection]
    exact h.answered

/-- A request that is written on a settled connection is the one that is awaited there. -/
theorem Settled.awaiting {line : String} {retries : Nat} {stream written : Stream} {request : Request}
    (h : run.Settled dialing stream)
    (hreplies : stream.replies = (dialing run.connection).replies.drop run.outgoing.length)
    (hwrite : stream.write run.pool.link.now = .ok written)
    (hrequest : request = run.request i line)
    (hdials : after.pool.link.dials = run.pool.link.dials)
    (hrequests : after.requests = run.requests ++ [request])
    (hattempts : after.attempts i = run.attempts i) :
    after.Awaiting dialing i (.query line retries) written run.requests request := by
  obtain ⟨hread, hanswered⟩ := h
  have hlast := connection_eq hdials
  -- Nothing was unread, so all that is unread now is the reply to the new request.
  have hunread : carried written.arrivals = request.sent dialing := by
    rw [(written_of_write hwrite).2, hread, List.nil_append, hreplies, List.getElem?_drop,
      Nat.add_zero, Request.sent, Request.reply?, hrequest, Run.request]
  subst hrequest
  refine ⟨hrequests, rfl, rfl, hattempts.symm, hlast.symm, hunread, ?_⟩
  intro before hbefore heq
  rw [hlast] at heq
  exact hanswered before (List.mem_filter.mpr ⟨hbefore, decide_eq_true heq⟩)

/-- When the reply to the awaited request is read, the connection is settled. -/
theorem Awaiting.settled {job : Job} {stream left : Stream} {earlier : List Request}
    {request : Request} {envelope : Envelope}
    (h : run.Awaiting dialing i job stream earlier request)
    (hanswer : request.Answered dialing envelope) (hleft : carried left.arrivals = []) :
    run.Settled dialing left := by
  refine ⟨hleft, ?_⟩
  intro before hbefore
  obtain ⟨hmem, heq⟩ := List.mem_filter.mp hbefore
  rw [h.requests, List.mem_append, List.mem_singleton] at hmem
  rcases hmem with hmem | rfl
  · exact h.answered before hmem (of_decide_eq_true heq)
  · exact ⟨envelope, hanswer⟩

theorem lastRequest_self {earlier : List Request} {request : Request}
    (h : run.requests = earlier ++ [request]) : run.lastRequest request.task = some request := by
  rw [lastRequest, h, List.filter_append, List.filter_cons_of_pos (by simp), List.filter_nil,
    List.getLast?_append]
  rfl

/-- The request of one task leaves the last request of another as it was. -/
theorem lastRequest_of_ne {request : Request} (h : after.requests = run.requests ++ [request])
    (hne : request.task ≠ i) : after.lastRequest i = run.lastRequest i := by
  rw [lastRequest, h, List.filter_append, List.filter_cons_of_neg (by simpa using hne),
    List.filter_nil, List.append_nil]
  rfl

/-- Two tasks do not hold the connection lock at once. -/
theorem Sound.eq_of_reading (h : run.Sound dialing)
    (howner : run.pool.connectionLock.owner = some i) {j : Nat} {job : Job} {deadline : Nat}
    (hj : run.pool.tasks[j]? = some ⟨job, .reading deadline⟩) : j = i := by
  have hreader := (h.readersHold j job deadline hj).1
  rw [howner] at hreader
  exact (Option.some.inj hreader).symm

/-- While a task is about to use the connection, no task reads. -/
theorem Sound.unread_of_connecting (h : run.Sound dialing)
    (howner : run.pool.connectionLock.owner = some i) {job : Job}
    (htask : run.pool.tasks[i]? = some ⟨job, .connecting⟩) : run.Unread := by
  intro j other deadline hj
  rw [h.eq_of_reading howner hj, htask] at hj
  exact absurd (congrArg Task.phase (Option.some.inj hj)) (by simp)

/-- Behind a step of the task with the lock that does not begin to read, no task reads. -/
theorem Sound.unread_of_stepped (h : run.Sound dialing)
    (howner : run.pool.connectionLock.owner = some i)
    (hstep : Stepped i run.pool task after.pool next)
    (hnext : ∀ deadline, next.phase ≠ .reading deadline) : after.Unread := by
  intro j job deadline hj
  by_cases hne : j = i
  · rw [hne] at hj
    exact hnext deadline (congrArg Task.phase (hstep.eq_next hj)).symm
  · rw [hstep.getElem?_of_ne hne] at hj
    exact hne (h.eq_of_reading howner hj)

/-- The answers given so far stay when a step gives none. -/
theorem Sound.finished_of_stepped (h : run.Sound dialing)
    (hstep : Stepped i run.pool task after.pool next) (hnext : next.unanswered = true)
    (hrequests : after.requests = run.requests)
    (hattempts : ∀ j, j ≠ i → after.attempts j = run.attempts j) {j : Nat} {line : String}
    {retries : Nat} {data : Json}
    (hj : after.pool.tasks[j]? = some ⟨.query line retries, .finished (.ok data)⟩) :
    after.OwnAnswer dialing j line data := by
  obtain ⟨hne, hbefore⟩ := hstep.of_answered hnext rfl hj
  rw [OwnAnswer, lastRequest, hrequests, hattempts j hne]
  exact h.finished j line retries data hbefore

/-- Without a task that reads, nothing is to be shown about those. -/
theorem Unread.sound (h : run.Unread) (hdialing : run.pool.link.dialing = dialing)
    (hpast : ∀ request ∈ run.requests, request.connection < run.pool.link.dials)
    (hreplies : ∀ stream, run.pool.link.connection = some stream → 0 < run.pool.link.dials ∧
      stream.replies = (dialing run.connection).replies.drop run.outgoing.length)
    (hsettled : ∀ stream, run.pool.link.connection = some stream → run.Settled dialing stream)
    (hfinished : ∀ i line retries data,
      run.pool.tasks[i]? = some ⟨.query line retries, .finished (.ok data)⟩ →
      run.OwnAnswer dialing i line data) :
    run.Sound dialing where
  dialing_eq := hdialing
  past := hpast
  readersHold := fun i job deadline hi => absurd hi (h i job deadline)
  replies := hreplies
  settled := fun stream hstream _ => hsettled stream hstream
  awaiting := fun i job deadline hi => absurd hi (h i job deadline)
  finished := hfinished

/-- The connection stays, and so do the tasks that read or have their payload. -/
theorem sound_kept (h : run.Sound dialing) (hrequests : after.requests = run.requests)
    (hdialing : after.pool.link.dialing = run.pool.link.dialing)
    (hconnection : after.pool.link.connection = run.pool.link.connection)
    (hdials : after.pool.link.dials = run.pool.link.dials)
    (howner : run.pool.connectionLock.owner = none ∨
      after.pool.connectionLock.owner = run.pool.connectionLock.owner)
    (htasks : ∀ (j : Nat) (other : Task), other.unanswered = false →
      (after.pool.tasks[j]? = some other ↔ run.pool.tasks[j]? = some other))
    (hattempts : ∀ (j : Nat) (other : Task), other.unanswered = false →
      run.pool.tasks[j]? = some other → after.attempts j = run.attempts j) :
    after.Sound dialing := by
  have hreading : ∀ (j : Nat) (job : Job) (deadline : Nat),
      after.pool.tasks[j]? = some ⟨job, .reading deadline⟩ ↔
        run.pool.tasks[j]? = some ⟨job, .reading deadline⟩ :=
    fun j job deadline => htasks j _ (unanswered_reading job deadline)
  refine {
    dialing_eq := hdialing.trans h.dialing_eq
    past := ?past
    readersHold := ?readers
    replies := ?replies
    settled := ?settled
    awaiting := ?awaiting
    finished := ?finished }
  case past =>
    rw [hrequests, hdials]
    exact h.past
  case readers =>
    intro j job deadline hj
    obtain ⟨hreader, hjob⟩ := h.readersHold j job deadline ((hreading j job deadline).mp hj)
    -- The lock of a reader was not free, so it has not changed hands.
    rcases howner with hnone | hsame
    · rw [hnone] at hreader
      exact absurd hreader (by simp)
    · exact ⟨hsame.trans hreader, hjob⟩
  case replies =>
    rw [hconnection, hdials, connection_eq hdials, outgoing_eq hdials hrequests]
    exact h.replies
  case settled =>
    intro stream hstream hunread
    rw [hconnection] at hstream
    refine (h.settled stream hstream ?_).of_eq hdials hrequests
    intro j job deadline hj
    exact hunread j job deadline ((hreading j job deadline).mpr hj)
  case awaiting =>
    intro j job deadline hj
    have hbefore := (hreading j job deadline).mp hj
    obtain ⟨stream, earlier, request, hstream, hawaiting⟩ := h.awaiting j job deadline hbefore
    have hsame := hattempts j _ (unanswered_reading job deadline) hbefore
    exact ⟨stream, earlier, request, hconnection.trans hstream,
      hawaiting.of_eq hdials hrequests hsame⟩
  case finished =>
    intro j line retries data hj
    have hbefore := (htasks j _ rfl).mp hj
    rw [OwnAnswer, lastRequest, hrequests, hattempts j _ rfl hbefore]
    exact h.finished j line retries data hbefore

/-- The task with the lock drops the connection or replaces it. -/
theorem sound_replaced (h : run.Sound dialing) (hstep : Stepped i run.pool task after.pool next)
    (hrequests : after.requests = run.requests)
    (hattempts : ∀ j, j ≠ i → after.attempts j = run.attempts j)
    (howner : run.pool.connectionLock.owner = some i) (hnext : next.unanswered = true)
    (hdials : run.pool.link.dials ≤ after.pool.link.dials)
    (hfresh : ∀ stream, after.pool.link.connection = some stream →
      after.pool.link.dials = run.pool.link.dials + 1 ∧
        ∃ replies, run.pool.link.dialing run.pool.link.dials = .accept replies ∧
          stream = Stream.fresh replies) : after.Sound dialing := by
  have hunread := h.unread_of_stepped howner hstep (phase_ne_reading hnext)
  -- No request was written on a connection that has just been made.
  have hnew : after.pool.link.dials = run.pool.link.dials + 1 → after.outgoing = [] := by
    intro heq
    rw [outgoing, List.filter_eq_nil_iff]
    intro request hrequest
    rw [hrequests] at hrequest
    have hpast := h.past request hrequest
    rw [connection, decide_eq_true_eq]
    omega
  refine hunread.sound (hstep.dialing.trans h.dialing_eq) ?_ ?_ ?_ ?_
  · intro request hrequest
    rw [hrequests] at hrequest
    have hpast := h.past request hrequest
    omega
  · intro stream hstream
    obtain ⟨heq, replies, hdial, rfl⟩ := hfresh stream hstream
    have hlast : after.connection = run.pool.link.dials := by
      rw [connection, heq, Nat.add_sub_cancel]
    refine ⟨by omega, ?_⟩
    rw [hnew heq, hlast, ← h.dialing_eq, hdial]
    rfl
  · intro stream hstream
    obtain ⟨heq, replies, hdial, rfl⟩ := hfresh stream hstream
    refine ⟨rfl, ?_⟩
    rw [hnew heq]
    intro request hrequest
    exact absurd hrequest List.not_mem_nil
  · intro j line retries data hj
    exact h.finished_of_stepped hstep hnext hrequests hattempts hj

/-- The task with the lock writes a request. -/
theorem sound_wrote {line : String} {retries deadline : Nat} {stream written : Stream}
    (h : run.Sound dialing)
    (htask : run.pool.tasks[i]? = some ⟨.query line retries, .connecting⟩)
    (hstep : Stepped i run.pool ⟨.query line retries, .connecting⟩ after.pool
      ⟨.query line retries, .reading deadline⟩)
    (hrequests : after.requests = run.requests ++ [run.request i line])
    (hattempts : ∀ j, after.attempts j = run.attempts j)
    (howner : run.pool.connectionLock.owner = some i)
    (hkept : after.pool.connectionLock.owner = some i)
    (hstream : run.pool.link.connection = some stream)
    (hwrite : stream.write run.pool.link.now = .ok written)
    (hconnection : after.pool.link.connection = some written)
    (hdials : after.pool.link.dials = run.pool.link.dials) : after.Sound dialing := by
  obtain ⟨hpos, hreplies⟩ := h.replies stream hstream
  have hidle := h.unread_of_connecting howner htask
  have hreading := hstep.getElem?_self htask
  -- Nobody else reads, for the lock would be theirs.
  have hreader : ∀ (j : Nat) (job : Job) (limit : Nat),
      after.pool.tasks[j]? = some ⟨job, .reading limit⟩ → j = i ∧ job = .query line retries := by
    intro j job limit hj
    by_cases hne : j = i
    · rw [hne] at hj
      exact ⟨hne, congrArg Task.job (hstep.eq_next hj)⟩
    · rw [hstep.getElem?_of_ne hne] at hj
      exact absurd hj (hidle j job limit)
  generalize hrequest : run.request i line = request at hrequests
  have hawaiting : after.Awaiting dialing i (.query line retries) written run.requests request :=
    (h.settled stream hstream hidle).awaiting hreplies hwrite hrequest.symm hdials hrequests
      (hattempts i)
  have hlast := connection_eq hdials
  have hconnected : request.connection = run.connection := hawaiting.connection.trans hlast
  refine {
    dialing_eq := hstep.dialing.trans h.dialing_eq
    past := ?past
    readersHold := ?readers
    replies := ?replies
    settled := ?settled
    awaiting := ?awaiting
    finished := ?finished }
  case past =>
    intro other hother
    rw [hrequests, List.mem_append, List.mem_singleton] at hother
    rw [hdials]
    rcases hother with hother | rfl
    · exact h.past other hother
    · rw [hconnected, connection]
      omega
  case readers =>
    intro j job limit hj
    obtain ⟨rfl, hjob⟩ := hreader j job limit hj
    exact ⟨hkept, line, retries, hjob⟩
  case replies =>
    intro other hother
    rw [hconnection] at hother
    rw [hdials, hlast, outgoing_append hdials hrequests hconnected, List.length_append,
      List.length_singleton, ← Option.some.inj hother]
    refine ⟨hpos, ?_⟩
    rw [(written_of_write hwrite).1, hreplies, List.drop_drop]
  case settled =>
    intro other hother hunread
    exact absurd hreading (hunread i _ deadline)
  case awaiting =>
    intro j job limit hj
    obtain ⟨rfl, rfl⟩ := hreader j job limit hj
    exact ⟨written, run.requests, request, hconnection, hawaiting⟩
  case finished =>
    intro j line' retries' data hj
    have hne : j ≠ i := by
      rintro rfl
      exact absurd (congrArg Task.phase (hstep.eq_next hj)) (by simp)
    rw [hstep.getElem?_of_ne hne] at hj
    have hother : request.task ≠ j := by
      rw [hawaiting.task_eq]
      exact hne.symm
    rw [OwnAnswer, lastRequest_of_ne hrequests hother, hattempts j]
    exact h.finished j line' retries' data hj

/-- The task with the lock reads the answer to its request. -/
theorem sound_answered {line : String} {retries deadline time : Nat} {stream : Stream}
    {data : List UInt8} {rest : List Arrival} {envelope : Envelope} (hengine : OneLineEach dialing)
    (h : run.Sound dialing)
    (htask : run.pool.tasks[i]? = some ⟨.query line retries, .reading deadline⟩)
    (hstep : Stepped i run.pool ⟨.query line retries, .reading deadline⟩ after.pool next)
    (hrequests : after.requests = run.requests) (hattempts : ∀ j, after.attempts j = run.attempts j)
    (hnext : next.unanswered = true ∨ ∃ payload, envelope.result = .ok payload ∧
      next = ⟨.query line retries, .finished (.ok payload)⟩)
    (hstream : run.pool.link.connection = some stream)
    (hread : readLine? [] run.pool.link.now stream.arrivals = some (time, .line data, rest))
    (hdecode : decodeLine data = .ok envelope)
    (hconnection : after.pool.link.connection = some { stream with arrivals := rest })
    (hdials : after.pool.link.dials = run.pool.link.dials) : after.Sound dialing := by
  have howner := (h.readersHold i _ deadline htask).1
  obtain ⟨installed, earlier, request, hinstalled, hawaiting⟩ := h.awaiting i _ deadline htask
  rw [hstream] at hinstalled
  obtain rfl := Option.some.inj hinstalled
  have hbytes := carried_of_readLine hread
  rw [List.nil_append, hawaiting.unread] at hbytes
  -- The line ends in a line feed and the reply has no other, so it is the whole reply.
  obtain ⟨hrest, hanswer⟩ := answered_of_decodeLine hengine hbytes hdecode
  have hphase : ∀ limit, next.phase ≠ .reading limit := by
    rcases hnext with hnext | ⟨payload, -, rfl⟩
    · exact phase_ne_reading hnext
    · intro limit
      simp
  have hunread := h.unread_of_stepped howner hstep hphase
  have hlastRequest : after.lastRequest i = some request := by
    rw [← hawaiting.task_eq]
    exact lastRequest_self (hrequests.trans hawaiting.requests)
  have hlast := connection_eq hdials
  refine hunread.sound (hstep.dialing.trans h.dialing_eq) ?_ ?_ ?_ ?_
  · rw [hrequests, hdials]
    exact h.past
  · intro left hleft
    rw [hconnection] at hleft
    rw [hdials, hlast, outgoing_eq hdials hrequests, ← Option.some.inj hleft]
    exact h.replies stream hstream
  · intro left hleft
    rw [hconnection] at hleft
    rw [← Option.some.inj hleft]
    exact (hawaiting.of_eq hdials hrequests (hattempts i)).settled hanswer hrest
  · intro j line' retries' payload hj
    by_cases hne : j = i
    · rw [hne] at hj
      have heq := hstep.eq_next hj
      rcases hnext with hnext | ⟨received, hresult, rfl⟩
      · rw [← heq] at hnext
        exact absurd hnext Bool.false_ne_true
      · obtain ⟨hjob, hfinished⟩ := Task.mk.inj heq
        obtain rfl := Except.ok.inj (Phase.finished.inj hfinished)
        refine ⟨request, envelope, hne ▸ hlastRequest, ?_, ?_, hanswer, hresult⟩
        · rw [hne, hattempts i]
          exact hawaiting.attempt
        · have hline := hawaiting.line
          rw [← hjob] at hline
          exact (Option.some.inj hline).symm
    · rw [hstep.getElem?_of_ne hne] at hj
      rw [OwnAnswer, lastRequest, hrequests, hattempts j]
      exact h.finished j line' retries' payload hj

/-! ### Runs -/

theorem step_eq {lines : List String} (htask : run.pool.tasks[i]? = some task)
    (hsent : run.pool.link.sentSince (run.pool.step client i).link = lines) :
    run.step client i = ⟨run.pool.step client i, run.calls, run.requests ++ lines.map (run.request i),
      if task.isReady then run.begun ++ [i] else run.begun⟩ := by
  rw [step, htask, ← hsent]

/-- A step of one task does not begin an attempt of another. -/
theorem attempts_of_ne {pool : Pool} {calls : List Call} {requests : List Request} (ready : Bool)
    {j : Nat} (hne : j ≠ i) :
    (Run.mk pool calls requests (if ready then run.begun ++ [i] else run.begun)).attempts j
      = run.attempts j := by
  rw [attempts, attempts]
  cases ready with
  | false => rfl
  | true =>
    show (run.begun ++ [i]).count j = run.begun.count j
    rw [List.count_append, List.count_singleton, if_neg (by simpa using Ne.symm hne), Nat.add_zero]

/-- A step keeps the account of requests and answers, whatever the phase of its task. -/
theorem sound_step (hengine : OneLineEach dialing) (h : run.Sound dialing)
    (hcan : run.pool.canStep i = true) : (run.step client i).Sound dialing := by
  obtain ⟨task, next, htask, hstep⟩ := Pool.stepped_step client h.readersHold hcan
  have hsilent : run.pool.link.sentSince (run.pool.step client i).link = [] →
      run.step client i = ⟨run.pool.step client i, run.calls, run.requests,
        if task.isReady then run.begun ++ [i] else run.begun⟩ := by
    intro hsent
    rw [step_eq htask hsent, List.map_nil, List.append_nil]
  cases hstep.effect with
  | kept hidle hnext howner hconnection hdials hsent =>
    rw [hsilent hsent]
    exact sound_kept h rfl hstep.dialing hconnection hdials howner
      (fun j other hother => hstep.answered_iff htask hidle hnext hother)
      (fun j other hother hj => attempts_of_ne _ (ne_of_unanswered htask hidle hother hj))
  | dropped howner hnext hconnection hdials hsent =>
    rw [hsilent hsent]
    refine sound_replaced h hstep rfl (fun j hne => attempts_of_ne _ hne) howner hnext
      (Nat.le_of_eq hdials.symm) ?_
    intro stream hstream
    exact absurd (hconnection.symm.trans hstream) (by simp)
  | dialed howner hnext hfresh hdials hsent =>
    rw [hsilent hsent]
    exact sound_replaced h hstep rfl (fun j hne => attempts_of_ne _ hne) howner hnext
      (hdials ▸ Nat.le_succ _) fun stream hstream => ⟨hdials, hfresh stream hstream⟩
  | wrote howner hkept htask' hnext hstream hwrite hconnection hdials hsent =>
    rw [step_eq htask hsent]
    subst htask' hnext
    exact sound_wrote h htask hstep rfl (fun _ => rfl) howner hkept hstream hwrite hconnection hdials
  | answered howner htask' hnext hstream hread hdecode hconnection hdials hsent =>
    rw [hsilent hsent]
    subst htask'
    exact sound_answered hengine h htask hstep rfl (fun _ => rfl) hnext hstream hread hdecode
      hconnection hdials

theorem unanswered_task (client : Client) (call : Call) :
    (call.task client).unanswered = true := by
  cases call with
  | query statement =>
    rw [Call.task, Client.queryTask]
    split <;> rfl
  | _ => rfl

/-- A task that comes in neither reads nor has a payload. -/
theorem getElem?_concat_iff {tasks : List Task} {new other : Task} (hnew : new.unanswered = true)
    (hother : other.unanswered = false) (j : Nat) :
    (tasks ++ [new])[j]? = some other ↔ tasks[j]? = some other := by
  have hne : new ≠ other := by
    rintro rfl
    rw [hnew] at hother
    exact Bool.false_ne_true hother.symm
  rcases Nat.lt_trichotomy j tasks.length with hlt | heq | hgt
  · rw [List.getElem?_append_left hlt]
  · rw [heq, List.getElem?_concat_length, List.getElem?_eq_none (Nat.le_refl _)]
    simp [hne]
  · have hlength : (tasks ++ [new]).length = tasks.length + 1 := by
      rw [List.length_append, List.length_singleton]
    rw [List.getElem?_eq_none (by omega), List.getElem?_eq_none (by omega)]

/-- Every possible move keeps the account of requests and answers. -/
theorem sound_make (hengine : OneLineEach dialing) {move : Move} (hallows : run.Allows move)
    (h : run.Sound dialing) : (run.make client move).Sound dialing := by
  cases move with
  | call call =>
    exact sound_kept h rfl rfl rfl rfl (.inr rfl)
      (fun j other hother => getElem?_concat_iff (unanswered_task client call) hother j)
      (fun _ _ _ _ => rfl)
  | step i => exact sound_step hengine h hallows
  | wait time =>
    exact sound_kept h rfl rfl rfl rfl (.inr rfl) (fun _ _ _ => Iff.rfl) (fun _ _ _ _ => rfl)

theorem sound_start (dialing : Nat → Dial) : (start dialing).Sound dialing where
  dialing_eq := rfl
  past := fun _ hrequest => absurd hrequest List.not_mem_nil
  readersHold := fun _ _ _ hi => absurd hi (by simp [start])
  replies := fun _ hstream => absurd hstream (by simp [start])
  settled := fun _ hstream => absurd hstream (by simp [start])
  awaiting := fun _ _ _ hi => absurd hi (by simp [start])
  finished := fun _ _ _ _ hi => absurd hi (by simp [start])

/-! ### Calls and their tasks -/

/-- Each call has a task; that of a query sends its line, or it has failed for want of one. -/
structure Called (run : Run) : Prop where
  length : run.calls.length = run.pool.tasks.length
  query : ∀ (i : Nat) (statement : String) (task : Task), run.calls[i]? = some (.query statement) →
    run.pool.tasks[i]? = some task →
    (∃ line, encodeRequest statement = .ok line ∧ task.job.line? = some line) ∨
      ∃ e, encodeRequest statement = .error e ∧ task = ⟨.close, .finished (.error e)⟩

theorem called_queryTask (client : Client) (statement : String) :
    (∃ line, encodeRequest statement = .ok line ∧
        (client.queryTask statement).job.line? = some line) ∨
      ∃ e, encodeRequest statement = .error e ∧
        client.queryTask statement = ⟨.close, .finished (.error e)⟩ := by
  rw [Client.queryTask]
  cases hline : encodeRequest statement with
  | ok line => exact .inl ⟨line, rfl, rfl⟩
  | error e => exact .inr ⟨e, rfl, rfl⟩

/-- A step leaves each call with its task and its request line. -/
theorem called_step (hreaders : run.pool.ReadersHold) (h : run.Called)
    (hcan : run.pool.canStep i = true) : (run.step client i).Called := by
  obtain ⟨task, next, htask, hstep⟩ := Pool.stepped_step client hreaders hcan
  rw [step_eq htask rfl]
  constructor
  · show run.calls.length = (run.pool.step client i).tasks.length
    rw [hstep.tasks, List.length_set]
    exact h.length
  · intro j statement other hcall hother
    by_cases hne : j = i
    · subst hne
      rw [hstep.eq_next hother]
      rcases h.query j statement task hcall htask with ⟨line, hline, hjob⟩ | ⟨e, hline, rfl⟩
      · exact .inl ⟨line, hline, hstep.line.trans hjob⟩
      · rw [Pool.canStep, htask] at hcan
        exact absurd hcan Bool.false_ne_true
    · rw [hstep.getElem?_of_ne hne] at hother
      exact h.query j statement other hcall hother

theorem called_make {move : Move} (hallows : run.Allows move) (hreaders : run.pool.ReadersHold)
    (h : run.Called) : (run.make client move).Called := by
  cases move with
  | call call =>
    constructor
    · show (run.calls ++ [call]).length = (run.pool.tasks ++ [call.task client]).length
      rw [List.length_append, List.length_append, h.length]
      rfl
    · intro j statement task hcall htask
      have hlength := h.length
      change (run.calls ++ [call])[j]? = _ at hcall
      change (run.pool.tasks ++ [call.task client])[j]? = _ at htask
      rcases Nat.lt_trichotomy j run.calls.length with hlt | heq | hgt
      · rw [List.getElem?_append_left hlt] at hcall
        rw [List.getElem?_append_left (by omega)] at htask
        exact h.query j statement task hcall htask
      · rw [heq, List.getElem?_concat_length] at hcall
        rw [heq, hlength, List.getElem?_concat_length] at htask
        rw [← Option.some.inj htask, Option.some.inj hcall]
        exact called_queryTask client statement
      · rw [List.getElem?_eq_none (by simp only [List.length_append, List.length_singleton]; omega)]
          at hcall
        exact absurd hcall (by simp)
  | step i => exact called_step hreaders h hallows
  | wait time => exact ⟨h.length, h.query⟩

/-- What an engine with one line for each request leaves after every run. -/
theorem sound_after (hengine : OneLineEach dialing) {moves : List Move}
    (hmoves : (start dialing).Allowed client moves) :
    ((start dialing).after client moves).Sound dialing ∧
      ((start dialing).after client moves).Called := by
  refine after_of_make (P := fun run => run.Sound dialing ∧ run.Called) ?_ hmoves ?_
  · intro run move hallows h
    exact ⟨sound_make hengine hallows h.1, called_make hallows h.1.readersHold h.2⟩
  · exact ⟨sound_start dialing, rfl, fun _ _ _ hcall => absurd hcall (by simp [start])⟩

end Run

theorem eq_query_of_line {job : Job} {line : String} (h : job.line? = some line) :
    ∃ retries, job = .query line retries := by
  cases job with
  | query written retries =>
    rw [← Option.some.inj h]
    exact ⟨retries, rfl⟩
  | _ => exact absurd h (by simp [Job.line?])

theorem data_of_result {envelope : Envelope} {data : Json} (h : envelope.result = .ok data) :
    envelope.success = true ∧ envelope.data = data := by
  rw [Envelope.result] at h
  split at h
  · next hsuccess => exact ⟨hsuccess, Except.ok.inj h⟩
  · exact absurd h (by simp)

/-- However calls take turns: the payload that a query returns is the one in the engine's reply to the
last line that this query wrote, in its last attempt. When a task is about to write a request on a
connection, nothing on it is unread and every request on it has its answer. -/
theorem query_answered (hengine : OneLineEach dialing) {moves : List Move}
    (hmoves : (Run.start dialing).Allowed client moves) :
    let run := (Run.start dialing).after client moves
    (∀ (i : Nat) (statement : String) (task : Task) (data : Json),
        run.calls[i]? = some (.query statement) → run.pool.tasks[i]? = some task →
        task.phase = .finished (.ok data) →
        ∃ line request envelope, encodeRequest statement = .ok line ∧
          run.lastRequest i = some request ∧ request.line = line ∧
          request.attempt = run.attempts i ∧ request.Answered dialing envelope ∧
          envelope.success = true ∧ envelope.data = data) ∧
      ∀ (i : Nat) (line : String) (retries : Nat) (stream : Stream),
        run.pool.tasks[i]? = some ⟨.query line retries, .connecting⟩ → run.pool.canStep i = true →
        run.pool.link.connection = some stream → run.Settled dialing stream := by
  intro run
  obtain ⟨hsound, hcalled⟩ := Run.sound_after hengine hmoves
  constructor
  · intro i statement task data hcall htask hphase
    obtain ⟨job, phase⟩ := task
    have hfinished : phase = .finished (.ok data) := hphase
    subst hfinished
    rcases hcalled.query i statement _ hcall htask with ⟨line, hline, hjob⟩ | ⟨e, -, htask⟩
    · obtain ⟨retries, rfl⟩ := eq_query_of_line hjob
      obtain ⟨request, envelope, hlast, hsame, hsent, hanswered, hresult⟩ :=
        hsound.finished i line retries data htask
      exact ⟨line, request, envelope, hline, hlast, hsent, hsame, hanswered, data_of_result hresult⟩
    · exact absurd (congrArg Task.phase htask) (by simp)
  · intro i line retries stream htask hcan hstream
    have howner := Pool.owner_of_canStep hcan htask (.inl rfl)
    exact hsound.settled stream hstream (hsound.unread_of_connecting howner htask)

/-! ### A late answer -/

theorem oneLineEach_scripted {outcomes : List Dial}
    (h : ∀ outcome ∈ outcomes, ∀ reply ∈ outcome.replies, reply.OneLine) :
    OneLineEach (Link.scripted outcomes) := by
  intro n reply hreply
  rw [Link.scripted] at hreply
  cases houtcome : outcomes[n]? with
  | none =>
    rw [houtcome] at hreply
    exact absurd hreply List.not_mem_nil
  | some outcome =>
    rw [houtcome] at hreply
    exact h outcome (List.mem_of_getElem? houtcome) reply hreply

/-- The text that a query was given as its payload. -/
def Task.text? (task : Task) : Option String :=
  match task.phase with
  | .finished (.ok (.string text)) => some text
  | _ => none

theorem phase_of_text? {task : Task} {text : String} (h : task.text? = some text) :
    task.phase = .finished (.ok (.string text)) := by
  rw [Task.text?] at h
  split at h
  · next hphase => rw [hphase, Option.some.inj h]
  · exact absurd h (by simp)

/-- An engine that answers its first request too late. -/
def lateEngine : List Dial :=
  [.accept [.data 20000 (.string "late")],
    .accept [.data 0 (.string "trees"), .data 0 (.string "fields")]]

/-- Two queries, of which the first to write waits in vain and writes last on the next connection. -/
def lateMoves : List Move :=
  [.call .connect, .step 0, .step 0, .call (.query "LIHAT LAHAN"),
    .call (.query "PANEN * DARI trees"), .step 1, .step 1, .wait 10000, .step 1, .step 1, .step 1,
    .step 1, .step 2, .step 1, .step 2, .step 2, .step 1, .step 1]

/-- The answer that came too late is dropped with its connection, and each query gets its own. -/
theorem query_answered_late :
    let run := (Run.start (Link.scripted lateEngine)).after ⟨"sawit", {}⟩ lateMoves
    ∃ task line request envelope, run.pool.tasks[1]? = some task ∧
      task.phase = .finished (.ok (.string "fields")) ∧
      encodeRequest "LIHAT LAHAN" = .ok line ∧ run.lastRequest 1 = some request ∧
      request.line = line ∧ request.attempt = run.attempts 1 ∧
      request.Answered (Link.scripted lateEngine) envelope ∧ envelope.success = true ∧
      envelope.data = .string "fields" := by
  intro run
  have hengine : OneLineEach (Link.scripted lateEngine) :=
    oneLineEach_scripted (by decide +kernel)
  have hmoves : (Run.start (Link.scripted lateEngine)).Allowed ⟨"sawit", {}⟩ lateMoves := by
    decide +kernel
  have htext : run.pool.tasks[1]?.bind Task.text? = some "fields" := by decide +kernel
  obtain ⟨task, htask, hpayload⟩ := Option.bind_eq_some_iff.mp htext
  have hphase := phase_of_text? hpayload
  have hcall : run.calls[1]? = some (.query "LIHAT LAHAN") := by decide +kernel
  obtain ⟨line, request, envelope, hanswer⟩ :=
    (query_answered hengine hmoves).1 1 "LIHAT LAHAN" task (.string "fields") hcall htask hphase
  exact ⟨task, line, request, envelope, htask, hphase, hanswer⟩

end AqlGateway.Remote
