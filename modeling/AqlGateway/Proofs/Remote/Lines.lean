import AqlGateway.Proofs.Text.Utf8
import AqlGateway.Remote.Stream

/-!
# Bytes on a connection

A reader cuts lines from the bytes that arrive. No byte is lost or read twice.

* `carried` — the bytes of arrivals; `Reply.sent` — those of a reply;
* `carried_of_readLine` — a line and what is left of the arrivals are the bytes that arrived;
* `getLast?_of_decodeLine` — a line with an envelope ends in a line feed;
* `Reply.OneLine`, `eq_nil_of_oneLine` — behind the line of a reply nothing is left.
-/

namespace AqlGateway.Remote

def Arrival.data : Arrival → List UInt8
  | .bytes _ data => data
  | _ => []

def carried (arrivals : List Arrival) : List UInt8 := arrivals.flatMap Arrival.data

/-- The bytes that an engine sends because of a request. -/
def Reply.sent : Reply → List UInt8
  | .bytes _ data => data
  | .pieces parts _ => parts.flatMap Prod.snd
  | _ => []

variable {start data : List UInt8} {arrivals rest : List Arrival} {time t : Nat}

theorem carried_append (a b : List Arrival) : carried (a ++ b) = carried a ++ carried b :=
  List.flatMap_append

/-- However the bytes of a reply are cut up and delayed, they arrive in order. -/
theorem carried_arrivals (reply : Reply) (now : Nat) :
    carried (reply.arrivals now) = reply.sent := by
  cases reply with
  | bytes delay data =>
    rw [Reply.arrivals]
    split
    · exact List.append_nil data
    · exact List.append_nil data
  | pieces parts ending =>
    have hending : carried (ending.map fun delay => Arrival.ending (now + delay)).toList = [] := by
      cases ending <;> rfl
    rw [Reply.arrivals, carried_append, hending, List.append_nil, carried, List.flatMap_map]
    rfl
  | _ => rfl

/-! ### Reading -/

/-- Cutting a line off loses no byte. -/
theorem cutLine?_eq_some {line behind : List UInt8} (h : cutLine? data = some (line, behind)) :
    data = line ++ behind := by
  induction data generalizing line with
  | nil => exact absurd h (by simp [cutLine?])
  | cons b data ih =>
    rw [cutLine?] at h
    split at h
    · obtain ⟨rfl, rfl⟩ := Prod.mk.inj (Option.some.inj h)
      rfl
    · obtain ⟨⟨more, left⟩, hcut, heq⟩ := Option.map_eq_some_iff.mp h
      obtain ⟨rfl, rfl⟩ := Prod.mk.inj heq
      rw [ih hcut]
      rfl

/-- What a reader had and what arrived is the line and what is left. -/
theorem carried_of_readLine (h : readLine? start time arrivals = some (t, .line data, rest)) :
    start ++ carried arrivals = data ++ carried rest := by
  induction arrivals generalizing start time with
  | nil => exact absurd h (by simp [readLine?])
  | cons arrival arrivals ih =>
    cases arrival with
    | ending s =>
      obtain ⟨-, hrest⟩ := Prod.mk.inj (Option.some.inj h)
      obtain ⟨hdata, rfl⟩ := Prod.mk.inj hrest
      rw [LineRead.line.inj hdata]
    | failure s text =>
      obtain ⟨-, hrest⟩ := Prod.mk.inj (Option.some.inj h)
      exact absurd (Prod.mk.inj hrest).1 (by simp)
    | bytes s more =>
      rw [readLine?] at h
      cases hcut : cutLine? more with
      | none =>
        rw [hcut] at h
        have hread := ih h
        rw [List.append_assoc] at hread
        exact hread
      | some found =>
        obtain ⟨line, behind⟩ := found
        rw [hcut] at h
        obtain ⟨-, hrest⟩ := Prod.mk.inj (Option.some.inj h)
        obtain ⟨hdata, rfl⟩ := Prod.mk.inj hrest
        -- An arrival is cut in two where its line ends, unless it ends there itself.
        have hleft : carried (if behind.isEmpty then arrivals else .bytes s behind :: arrivals)
            = behind ++ carried arrivals := by
          cases behind <;> rfl
        rw [← LineRead.line.inj hdata, hleft]
        show start ++ (more ++ carried arrivals) = _
        rw [cutLine?_eq_some hcut]
        simp only [List.append_assoc]

/-! ### Lines with envelopes -/

theorem getLast?_of_decodeResponse {line : String} {e : Envelope} (h : decodeResponse line = .ok e) :
    line.toList.getLast? = some '\n' := by
  rw [decodeResponse] at h
  split at h
  · next body hreverse => rw [List.getLast?_eq_head?_reverse, hreverse, List.head?_cons]
  · exact absurd h (by simp)

/-- Only a line that is complete has an envelope. -/
theorem getLast?_of_decodeLine {e : Envelope} (h : decodeLine data = .ok e) :
    data.getLast? = some lineFeed := by
  rw [decodeLine] at h
  split at h
  · exact absurd h (by simp)
  · split at h
    · next line hdecode =>
      obtain ⟨cs, hcs, rfl⟩ := Text.Utf8.map_eq_ok hdecode
      have hlast := getLast?_of_decodeResponse h
      rw [String.toList_ofList] at hlast
      exact Text.Utf8.getLast?_of_decodeFrom hcs hlast
    · exact absurd h (by simp)

/-! ### Replies of one line -/

/-- An engine sends at most one line because of a request, and nothing behind it. -/
def Reply.OneLine (reply : Reply) : Prop := lineFeed ∉ reply.sent.dropLast

instance (reply : Reply) : Decidable reply.OneLine :=
  inferInstanceAs (Decidable (lineFeed ∉ reply.sent.dropLast))

/-- Behind the line of an engine that sends one line, nothing is left. -/
theorem eq_nil_of_oneLine {sent left : List UInt8} (honeLine : lineFeed ∉ sent.dropLast)
    (hsent : sent = data ++ left) (hlast : data.getLast? = some lineFeed) : left = [] := by
  cases left with
  | nil => rfl
  | cons b left =>
    have hmem : lineFeed ∈ sent.dropLast := by
      rw [hsent, List.dropLast_append_of_ne_nil (List.cons_ne_nil b left)]
      exact List.mem_append_left _ (List.mem_of_getLast? hlast)
    exact absurd hmem honeLine

end AqlGateway.Remote
