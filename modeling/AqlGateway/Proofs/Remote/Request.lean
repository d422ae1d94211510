import Mathlib.Data.List.Forall2
import AqlGateway.Proofs.Text.Join
import AqlGateway.Proofs.Text.Utf8
import AqlGateway.Remote.Request
import AqlGateway.Remote.Stream

/-!
# Requests on the wire

Every statement travels as one line. The lines are told apart by their line feeds alone, so no line may
have one of its own.

* `Frames` — what the line of a statement is;
* `frames_lineOf` — the line that a statement is given is such a line;
* `encodeRequest_eq_error_iff` — only a blank statement is given none;
* `splitOn_lines` — bytes of lines split at the line feeds;
* `requests_framed` — so a stream of requests is split into one line for each statement, in order.
-/

namespace AqlGateway.Remote

open Text

/-- A character of a statement, and what it is on the line: a line break is a space, and everything else
is itself. -/
def Carries (c d : Char) : Prop := if c = '\r' ∨ c = '\n' then d = ' ' else d = c

/-- A line has the characters of a statement without the blanks at its ends, one for one, has no line
break of its own, and neither begins nor ends with a blank. -/
structure Frames (statement line : String) : Prop where
  characters : ∃ front kept behind : List Char, statement.toList = front ++ kept ++ behind ∧
    (∀ c ∈ front, isBlank c = true) ∧ IsSolid kept ∧ (∀ c ∈ behind, isBlank c = true) ∧
    List.Forall₂ Carries kept line.toList
  noReturn : '\r' ∉ line.toList
  noFeed : '\n' ∉ line.toList
  solid : IsSolid line.toList

/-! ### One request -/

variable {statement : String} {s : List Char}

theorem encodeRequest_of_blank {statement : String} (h : trim statement.toList = []) :
    encodeRequest statement = .error .emptyStatement := by
  rw [encodeRequest, requestBody, h]
  rfl

/-- The line of a statement that is not blank ends in a line feed. -/
theorem encodeRequest_of_not_blank {statement : String} (h : trim statement.toList ≠ []) :
    encodeRequest statement
      = .ok (String.ofList (requestBody statement.toList ++ ['\n'])) := by
  have hbody : (requestBody statement.toList).isEmpty = false := by
    rw [requestBody, List.isEmpty_map]
    exact List.isEmpty_eq_false_iff.mpr h
  rw [encodeRequest, hbody]
  rfl

/-- A statement without a line is blank, and this is what its error says. -/
theorem encodeRequest_eq_error_iff {e : Error} :
    encodeRequest statement = .error e ↔
      e = .emptyStatement ∧ ∀ c ∈ statement.toList, isBlank c = true := by
  rw [← trim_eq_nil_iff]
  by_cases hblank : trim statement.toList = []
  · rw [encodeRequest_of_blank hblank, Except.error.injEq]
    exact ⟨fun h => ⟨h.symm, hblank⟩, fun h => h.1.symm⟩
  · rw [encodeRequest_of_not_blank hblank]
    exact ⟨fun h => absurd h (by simp), fun h => absurd h.2 hblank⟩

theorem carries_flatten (c : Char) : Carries c (flatten c) := by
  rw [Carries, flatten]
  split <;> rfl

theorem flatten_ne {c d : Char} (hd : d = '\r' ∨ d = '\n') : flatten c ≠ d := by
  rw [flatten]
  split
  · rcases hd with rfl | rfl <;> decide
  · next h =>
    rintro rfl
    exact h hd

theorem flatten_of_ne {c : Char} (hreturn : c ≠ '\r') (hfeed : c ≠ '\n') : flatten c = c :=
  if_neg fun h => h.elim hreturn hfeed

theorem map_flatten_eq_self (hreturn : '\r' ∉ s) (hfeed : '\n' ∉ s) :
    s.map flatten = s := by
  refine (List.map_congr_left fun c hc => ?_).trans (List.map_id s)
  exact flatten_of_ne (fun h => hreturn (h ▸ hc)) fun h => hfeed (h ▸ hc)

/-- A line break is as blank as the space in its place. -/
theorem isBlank_flatten (c : Char) : isBlank (flatten c) = isBlank c := by
  rw [flatten]
  split
  · next h => rcases h with rfl | rfl <;> decide
  · rfl

theorem stops_map_flatten (h : Stops isBlank s) : Stops isBlank (s.map flatten) := by
  cases s with
  | nil => exact stops_nil
  | cons c s => exact stops_cons.mpr ((isBlank_flatten c).trans (stops_cons.mp h))

theorem isSolid_requestBody (h : trim s ≠ []) : IsSolid (requestBody s) where
  ne_nil := by simpa [requestBody] using h
  first := stops_map_flatten (isSolid_trim h).first
  last := by
    rw [requestBody, ← List.map_reverse]
    exact stops_map_flatten (isSolid_trim h).last

theorem notMem_requestBody {c : Char} (hc : c = '\r' ∨ c = '\n') : c ∉ requestBody s := by
  intro h
  obtain ⟨d, -, hd⟩ := List.mem_map.mp h
  exact flatten_ne hc hd

def lineOf (statement : String) : String := String.ofList (requestBody statement.toList)

theorem toList_lineOf (statement : String) : (lineOf statement).toList = requestBody statement.toList :=
  String.toList_ofList

/-- The line of a statement is its trimmed text, character for character, with blanks for line
breaks. -/
theorem frames_lineOf (h : trim statement.toList ≠ []) : Frames statement (lineOf statement) where
  characters := by
    obtain ⟨front, behind, hsplit, hfront, hbehind⟩ := trim_spec statement.toList
    refine ⟨front, trim statement.toList, behind, hsplit, hfront, isSolid_trim h, hbehind, ?_⟩
    rw [toList_lineOf, requestBody, List.forall₂_map_right_iff, List.forall₂_same]
    exact fun c _ => carries_flatten c
  noReturn := by
    rw [toList_lineOf]
    exact notMem_requestBody (.inl rfl)
  noFeed := by
    rw [toList_lineOf]
    exact notMem_requestBody (.inr rfl)
  solid := by
    rw [toList_lineOf]
    exact isSolid_requestBody h

/-- A line with its line feed is given the same line again. -/
theorem encodeRequest_line {line : String} (hreturn : '\r' ∉ line.toList) (hfeed : '\n' ∉ line.toList)
    (hsolid : IsSolid line.toList) : encodeRequest (line ++ "\n") = .ok (line ++ "\n") := by
  have hend : (line ++ "\n").toList = line.toList ++ ['\n'] := String.toList_append
  have htrim : trim (line ++ "\n").toList = line.toList := by
    rw [hend, trim_append_blanks (List.forall_mem_singleton.mpr (by decide)), hsolid.trim_eq]
  have hbody : requestBody (line ++ "\n").toList = line.toList := by
    rw [requestBody, htrim, map_flatten_eq_self hreturn hfeed]
  have hne : trim (line ++ "\n").toList ≠ [] := by
    rw [htrim]
    exact hsolid.ne_nil
  rw [encodeRequest_of_not_blank hne, hbody, ← hend, String.ofList_toList]

theorem encodeRequest_eq (h : trim statement.toList ≠ []) :
    encodeRequest statement = .ok (lineOf statement ++ "\n") := by
  rw [encodeRequest_of_not_blank h, ← toList_lineOf, String.ofList_append, String.ofList_toList]

/-! ### A stream of requests -/

/-- Bytes of lines split at the line feeds, with nothing behind the last one. -/
theorem splitOn_lines {lines : List String} (h : ∀ line ∈ lines, '\n' ∉ line.toList) :
    ((lines.map (· ++ "\n")).flatMap Utf8.encode).splitOn lineFeed
      = lines.map Utf8.encode ++ [[]] := by
  induction lines with
  | nil => rfl
  | cons line rest ih =>
    have hline : lineFeed ∉ Utf8.encode line := fun hmem =>
      h line (by simp) (Utf8.lineFeed_mem_encode.mp hmem)
    have hfeed : Utf8.encode "\n" = [lineFeed] := by
      rw [Utf8.encode_eq_flatMap]
      decide
    rw [List.map_cons, List.flatMap_cons, Utf8.encode_append, hfeed, List.append_assoc,
      List.singleton_append, List.splitOn_append_cons_self_of_not_mem hline,
      ih fun l hl => h l (List.mem_cons_of_mem line hl)]
    rfl

/-- Statements that are not blank are encoded one by one. -/
theorem mapM_encodeRequest {statements : List String}
    (h : ∀ s ∈ statements, trim s.toList ≠ []) :
    statements.mapM encodeRequest = .ok ((statements.map lineOf).map (· ++ "\n")) := by
  induction statements with
  | nil => rfl
  | cons s rest ih =>
    rw [List.mapM_cons, encodeRequest_eq (h s (by simp)), ih fun t ht => h t (by simp [ht])]
    rfl

/-- A statement is refused exactly when it is blank. The requests of statements that are not blank, one
behind the other, are split at the line feeds into one line for each statement, in order: the statement
without the blanks at its ends, each line break replaced by a space. Such a request is its own
request. -/
theorem requests_framed :
    (∀ statement e, encodeRequest statement = .error e ↔
      e = .emptyStatement ∧ ∀ c ∈ statement.toList, isBlank c = true) ∧
    ∀ statements : List String, (∀ s ∈ statements, ∃ c ∈ s.toList, isBlank c = false) →
      ∃ requests lines, statements.mapM encodeRequest = .ok requests ∧
        List.Forall₂ Frames statements lines ∧
        (requests.flatMap Utf8.encode).splitOn lineFeed = lines.map Utf8.encode ++ [[]] ∧
        ∀ request ∈ requests, encodeRequest request = .ok request := by
  refine ⟨fun _ _ => encodeRequest_eq_error_iff, fun statements h => ?_⟩
  have hvisible : ∀ s ∈ statements, trim s.toList ≠ [] := by
    intro s hs hblank
    obtain ⟨c, hc, hvisible⟩ := h s hs
    rw [trim_eq_nil_iff.mp hblank c hc] at hvisible
    exact absurd hvisible (by simp)
  refine ⟨_, statements.map lineOf, mapM_encodeRequest hvisible, ?_, splitOn_lines ?_, ?_⟩
  · rw [List.forall₂_map_right_iff, List.forall₂_same]
    exact fun s hs => frames_lineOf (hvisible s hs)
  · intro line hline
    obtain ⟨s, hs, rfl⟩ := List.mem_map.mp hline
    exact (frames_lineOf (hvisible s hs)).noFeed
  · intro request hrequest
    obtain ⟨line, hline, rfl⟩ := List.mem_map.mp hrequest
    obtain ⟨s, hs, rfl⟩ := List.mem_map.mp hline
    have hframes := frames_lineOf (hvisible s hs)
    exact encodeRequest_line hframes.noReturn hframes.noFeed hframes.solid

/-- A statement with blanks at its ends and a line break inside, and one without either. -/
theorem requests_framed_line_break :
    let statements := ["  PANEN *\r\nDARI trees ", "LIHAT LAHAN"]
    let requests := ["PANEN *  DARI trees\n", "LIHAT LAHAN\n"]
    (∀ s ∈ statements, ∃ c ∈ s.toList, isBlank c = false) ∧
      statements.mapM encodeRequest = .ok requests ∧
      ∃ lines, List.Forall₂ Frames statements lines ∧
        (requests.flatMap Utf8.encode).splitOn lineFeed = lines.map Utf8.encode ++ [[]] := by
  intro statements requests
  have hvisible : ∀ s ∈ statements, ∃ c ∈ s.toList, isBlank c = false := by
    intro s hs
    rcases List.mem_pair.mp hs with rfl | rfl
    · exact ⟨'P', by decide, by decide⟩
    · exact ⟨'L', by decide, by decide⟩
  obtain ⟨encoded, lines, hencoded, hframes, hsplit, -⟩ := requests_framed.2 statements hvisible
  have hrequests : statements.mapM encodeRequest = .ok requests := by decide +kernel
  obtain rfl := Except.ok.inj (hencoded.symm.trans hrequests)
  exact ⟨hvisible, hrequests, lines, hframes, hsplit⟩

end AqlGateway.Remote
