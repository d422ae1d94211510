import AqlGateway.Text.Utf8

/-!
# Line feeds in UTF-8

A line feed is one byte, and no other character ends in it or reads as it.

* `decodeFrom_cons` — the first character of bytes, and the bytes that it takes;
* `getLast?_of_decodeFrom` — bytes whose text ends in a line feed end in one;
* `encode_eq_flatMap` — the bytes of a text are those of its characters, one behind the other;
* `lineFeed_mem_encode` — they have a line feed exactly when the text has one.
-/

namespace AqlGateway.Text.Utf8

/-! ### Code points -/

theorem eq_of_ofNat_eq_lineFeed {n : Nat} (h : Char.ofNat n = '\n') : n = 10 := by
  by_cases hvalid : n.isValidChar
  · have hvalue : (Char.ofNat n).toNat = n := by
      rw [Char.ofNat, dif_pos hvalid]
      rfl
    rw [h] at hvalue
    exact hvalue.symm
  · rw [Char.ofNat, dif_neg hvalid] at h
    exact absurd h (by decide)

theorem within_iff {low high b : UInt8} :
    within low high b = true ↔ low.toNat ≤ b.toNat ∧ b.toNat ≤ high.toNat := by
  rw [within, Bool.and_eq_true, decide_eq_true_eq, decide_eq_true_eq, UInt8.le_iff_toNat_le,
    UInt8.le_iff_toNat_le]

theorem extend_pos {n : Nat} (h : 0 < n) (b : UInt8) : 0 < extend n b := by
  rw [extend]
  omega

/-- No continued code point is that of the line feed. -/
theorem extend_ne_lineFeed {n : Nat} (h : 0 < n) (b : UInt8) : extend n b ≠ 10 := by
  rw [extend]
  omega

/-- A character of three bytes is none that has a shorter form. -/
theorem extend_pos_of_three {a b : UInt8} (ha : within 0xE0 0xEF a = true)
    (hb : secondOfThree a b = true) : 0 < extend (a.toNat % 16) b := by
  have hrange := within_iff.mp ha
  have hlow : (0xE0 : UInt8).toNat = 224 := rfl
  have hhigh : (0xEF : UInt8).toNat = 239 := rfl
  rw [secondOfThree] at hb
  rw [extend]
  split at hb
  · have hsecond := within_iff.mp hb
    have hlow' : (0xA0 : UInt8).toNat = 160 := rfl
    have hhigh' : (0xBF : UInt8).toNat = 191 := rfl
    omega
  · next hne =>
    have hvalue : a.toNat ≠ 224 := fun h => hne (UInt8.toNat_inj.mp h)
    omega

/-- Nor is one of four bytes. -/
theorem extend_pos_of_four {a b : UInt8} (ha : within 0xF0 0xF4 a = true)
    (hb : secondOfFour a b = true) : 0 < extend (a.toNat % 8) b := by
  have hrange := within_iff.mp ha
  have hlow : (0xF0 : UInt8).toNat = 240 := rfl
  have hhigh : (0xF4 : UInt8).toNat = 244 := rfl
  rw [secondOfFour] at hb
  rw [extend]
  split at hb
  · have hsecond := within_iff.mp hb
    have hlow' : (0x90 : UInt8).toNat = 144 := rfl
    have hhigh' : (0xBF : UInt8).toNat = 191 := rfl
    omega
  · next hne =>
    have hvalue : a.toNat ≠ 240 := fun h => hne (UInt8.toNat_inj.mp h)
    omega

/-! ### Characters and their bytes -/

theorem map_eq_ok {α β : Type} {x : Except Fault α} {f : α → β} {b : β} (h : x.map f = .ok b) :
    ∃ a, x = .ok a ∧ b = f a := by
  cases x with
  | error e => exact absurd h (by simp [Except.map])
  | ok a => exact ⟨a, rfl, (Except.ok.inj h).symm⟩

/-- The first character takes one byte or more, and only one when it is a line feed. -/
theorem decodeFrom_cons {index : Nat} {a : UInt8} {s : List UInt8} {cs : List Char}
    (h : decodeFrom index (a :: s) = .ok cs) :
    ∃ lead rest point behind tail, a :: s = lead ++ rest ∧ lead ≠ [] ∧
      decodeFrom behind rest = .ok tail ∧ cs = Char.ofNat point :: tail ∧
      (point = 10 → lead = [10]) := by
  -- The branches of the decoder in their order: one byte, two, three and four. What it refuses
  -- gives no text.
  rw [decodeFrom.eq_def] at h
  simp only at h
  split at h
  · obtain ⟨tail, htail, rfl⟩ := map_eq_ok h
    refine ⟨[a], s, a.toNat, index + 1, tail, rfl, List.cons_ne_nil _ _, htail, rfl, ?_⟩
    intro hten
    exact congrArg (fun b => [b]) (UInt8.toNat_inj.mp hten)
  · split at h
    · next ha =>
      split at h
      · exact absurd h (by simp)
      · next b rest =>
        split at h
        · obtain ⟨tail, htail, rfl⟩ := map_eq_ok h
          -- A first byte from C2 on has bits to hand on, so the code point is not below 64.
          have hpos : 0 < a.toNat % 32 := by
            have hrange := within_iff.mp ha
            have hlow : (0xC2 : UInt8).toNat = 194 := rfl
            have hhigh : (0xDF : UInt8).toNat = 223 := rfl
            omega
          exact ⟨[a, b], rest, _, _, tail, rfl, List.cons_ne_nil _ _, htail, rfl,
            fun hten => absurd hten (extend_ne_lineFeed hpos b)⟩
        · exact absurd h (by simp)
    · split at h
      · next ha =>
        split at h
        · exact absurd h (by simp)
        · exact absurd h (by simp)
        · next b c rest =>
          split at h
          · exact absurd h (by simp)
          · next hsecond =>
            split at h
            · exact absurd h (by simp)
            · obtain ⟨tail, htail, rfl⟩ := map_eq_ok h
              have hpos := extend_pos_of_three ha (by simpa using hsecond)
              exact ⟨[a, b, c], rest, _, _, tail, rfl, List.cons_ne_nil _ _, htail, rfl,
                fun hten => absurd hten (extend_ne_lineFeed hpos c)⟩
      · split at h
        · next ha =>
          split at h
          · exact absurd h (by simp)
          · exact absurd h (by simp)
          · exact absurd h (by simp)
          · next b c d rest =>
            split at h
            · exact absurd h (by simp)
            · next hsecond =>
              split at h
              · exact absurd h (by simp)
              · split at h
                · exact absurd h (by simp)
                · obtain ⟨tail, htail, rfl⟩ := map_eq_ok h
                  have hpos := extend_pos (extend_pos_of_four ha (by simpa using hsecond)) c
                  exact ⟨[a, b, c, d], rest, _, _, tail, rfl, List.cons_ne_nil _ _, htail, rfl,
                    fun hten => absurd hten (extend_ne_lineFeed hpos d)⟩
        · exact absurd h (by simp)

/-- Bytes whose text ends in a line feed end in one. -/
theorem getLast?_of_decodeFrom {index : Nat} {bytes : List UInt8} {cs : List Char}
    (h : decodeFrom index bytes = .ok cs) (hlast : cs.getLast? = some '\n') :
    bytes.getLast? = some 10 := by
  -- A character takes up to four bytes, so the induction is on the number of bytes.
  induction hlength : bytes.length using Nat.strongRecOn generalizing index bytes cs with
  | ind n ih =>
    cases bytes with
    | nil =>
      rw [decodeFrom] at h
      rw [← Except.ok.inj h] at hlast
      exact absurd hlast (by simp)
    | cons a s =>
      obtain ⟨lead, rest, point, behind, tail, hbytes, hlead, htail, rfl, hpoint⟩ :=
        decodeFrom_cons h
      rw [hbytes]
      cases tail with
      | nil =>
        have hnil : rest = [] := by
          cases rest with
          | nil => rfl
          | cons b rest =>
            obtain ⟨_, _, _, _, _, _, _, _, hcons, _⟩ := decodeFrom_cons htail
            exact absurd hcons (by simp)
        have hchar : Char.ofNat point = '\n' := by simpa using hlast
        rw [hnil, hpoint (eq_of_ofNat_eq_lineFeed hchar)]
        rfl
      | cons c tail =>
        have hshorter : rest.length < n := by
          have hpos : 0 < lead.length := List.length_pos_iff.mpr hlead
          rw [← hlength, hbytes, List.length_append]
          omega
        have hrest := ih rest.length hshorter htail (by simpa using hlast) rfl
        rw [List.getLast?_append, hrest]
        rfl

/-! ### The bytes of texts -/

/-- The loop appends the bytes from `i` on to those that it has in reverse. -/
theorem toList_loop (bytes : ByteArray) (i : Nat) (r : List UInt8) :
    ByteArray.toList.loop bytes i r = r.reverse ++ bytes.data.toList.drop i := by
  fun_induction ByteArray.toList.loop bytes i r with
  | case1 i r hlt ih =>
    have hlength : i < bytes.data.toList.length := by simpa using hlt
    have hget : bytes.get! i = bytes.data[i]! := by cases bytes; rfl
    rw [ih, List.drop_eq_getElem_cons hlength, hget, getElem!_pos bytes.data i hlt,
      List.reverse_cons, List.append_assoc]
    rfl
  | case2 i r hlt =>
    rw [List.drop_eq_nil_of_le (by simpa using Nat.le_of_not_lt hlt), List.append_nil]

/-- The bytes of a text are those of its characters. -/
theorem encode_eq_flatMap (s : String) : encode s = s.toList.flatMap String.utf8EncodeChar := by
  have hbytes : s.toByteArray = s.toList.utf8Encode := by
    rw [← String.toByteArray_ofList, String.ofList_toList]
  rw [encode, String.toUTF8, hbytes, List.utf8Encode, ByteArray.toList, toList_loop,
    List.toList_data_toByteArray]
  rfl

theorem encode_append (s t : String) : encode (s ++ t) = encode s ++ encode t := by
  rw [encode_eq_flatMap, encode_eq_flatMap, encode_eq_flatMap, String.toList_append,
    List.flatMap_append]

/-- A character above 127 has no byte up to 127. -/
theorem lt_of_mem_encodeChar {c : Char} {b : UInt8} (hc : 127 < c.toNat)
    (hb : b ∈ String.utf8EncodeChar c) : 127 < b.toNat := by
  have hvalue : 127 < c.val.toNat := hc
  rw [String.utf8EncodeChar, if_neg (by omega)] at hb
  split at hb
  · simp only [List.mem_cons, List.not_mem_nil, or_false] at hb
    rcases hb with rfl | rfl <;> simp only [UInt8.toNat_ofNat'] <;> omega
  · split at hb
    · simp only [List.mem_cons, List.not_mem_nil, or_false] at hb
      rcases hb with rfl | rfl | rfl <;> simp only [UInt8.toNat_ofNat'] <;> omega
    · simp only [List.mem_cons, List.not_mem_nil, or_false] at hb
      rcases hb with rfl | rfl | rfl | rfl <;> simp only [UInt8.toNat_ofNat'] <;> omega

/-- Of all characters only the line feed has the byte of a line feed. -/
theorem lineFeed_mem_encodeChar {c : Char} : 10 ∈ String.utf8EncodeChar c ↔ c = '\n' := by
  constructor
  · intro h
    by_cases hc : 127 < c.toNat
    · exact absurd (lt_of_mem_encodeChar hc h) (by decide)
    · have hvalue : c.val.toNat ≤ 127 := Nat.le_of_not_lt hc
      rw [String.utf8EncodeChar, if_pos hvalue, List.mem_singleton] at h
      have hten : 10 = c.val.toNat % 256 := by simpa using congrArg UInt8.toNat h
      have hchar : c.toNat = 10 := by
        show c.val.toNat = 10
        omega
      exact Char.toNat_inj.mp hchar
  · rintro rfl
    decide

/-- The byte of a line feed encodes nothing but a line feed. -/
theorem lineFeed_mem_encode {s : String} : 10 ∈ encode s ↔ '\n' ∈ s.toList := by
  rw [encode_eq_flatMap, List.mem_flatMap]
  constructor
  · rintro ⟨c, hc, hten⟩
    rwa [← lineFeed_mem_encodeChar.mp hten]
  · intro h
    exact ⟨'\n', h, lineFeed_mem_encodeChar.mpr rfl⟩

end AqlGateway.Text.Utf8
