import AqlGateway.Proofs.Calendar.Digits

/-!
# Dates and instants in texts

* `Date.HasPlainYear` — the years that are written with four digits and no sign;
* `Date.ofText?_text` — a date of such a year is read from its text;
* `Instant.readFraction?_fraction`, `Instant.ofLocal?_clock` — the fraction of a second, and the time of
  day with its leap second, are read as they are written;
* `Instant.ofText?_fullText` — so is the whole instant.
-/

namespace AqlGateway

open Text

namespace Date

/-- A year from 0 to 9999. -/
def HasPlainYear (d : Date) : Prop := 0 ≤ d.year ∧ d.year ≤ 9999

instance (d : Date) : Decidable d.HasPlainYear := instDecidableAnd

variable {d : Date} {n : Nat}

theorem month_day_lt (d : Date) : d.month < 100 ∧ d.day < 100 := by
  have hdays : ∀ year month, daysInMonth year month ≤ 31 ∧ (12 < month → daysInMonth year month = 0) := by
    intro year month
    unfold daysInMonth
    split
    · split <;> omega
    all_goals omega
  have hday := d.exists_day
  simp only [isDay, Bool.and_eq_true, decide_eq_true_eq] at hday
  have hmonth := hdays d.year d.month
  omega

theorem of?_self (d : Date) : of? d.year d.month d.day = some d := dif_pos d.exists_day

/-- A date with a plain year has four, two and two digits. -/
theorem chars_of_plain (h : d.HasPlainYear) :
    d.chars = padded 4 d.year.toNat ++ '-' :: (padded 2 d.month ++ '-' :: padded 2 d.day) := by
  have hyear : yearText d.year = padded 4 d.year.toNat := if_pos h
  rw [chars, hyear, List.append_assoc]
  rfl

theorem readYear?_padded (hn : n < 10000) (r : List Char) :
    readYear? (padded 4 n ++ r) = some ((n : Int), r) := by
  obtain ⟨c, s, hs⟩ := List.exists_cons_of_ne_nil (padded_ne_nil 4 n)
  have hc : c.isDigit = true := isDigit_of_mem_padded (hs ▸ List.mem_cons_self)
  have hread : readNumber? 4 (padded 4 n ++ r) = some (n, r) := readNumber?_padded (by decide) hn r
  rw [hs, List.cons_append] at hread
  have htrim := trimStart_padded 4 n r
  rw [hs, List.cons_append] at htrim
  rw [hs, List.cons_append, readYear?, htrim]
  split
  · next h => exact absurd ((List.cons.inj h).1 ▸ hc) (by decide)
  · next h => exact absurd ((List.cons.inj h).1 ▸ hc) (by decide)
  · rw [hread]
    rfl

/-- A date of a plain year is read from its text. -/
theorem ofText?_text (h : d.HasPlainYear) : ofText? d.text = some d := by
  obtain ⟨hmonth, hday⟩ := d.month_day_lt
  have hyear : d.year.toNat < 10000 := by have := h.2; omega
  have hnat : (d.year.toNat : Int) = d.year := Int.toNat_of_nonneg h.1
  have hlast := readPair?_padded hday []
  rw [List.append_nil] at hlast
  have hfields : readFields? false d.chars = some ((d.year, d.month, d.day), []) := by
    rw [chars_of_plain h, readFields?, readYear?_padded hyear]
    simp only [Option.bind_eq_bind, Option.bind_some, behind?_mark, readPair?_padded hmonth, hlast, hnat]
    rfl
  rw [ofText?, text, String.toList_ofList, hfields]
  exact of?_self d

end Date

namespace Instant

open Date

variable {t : Instant} {places n : Nat} {r : List Char}

theorem isTime_iff {second nanos : Nat} : isTime second nanos = true ↔
    second < 86400 ∧ (nanos < 1000000000 ∨ second % 60 = 59 ∧ nanos < 2000000000) := by
  simp [isTime]

/-- Digits that are fewer than nine stand for larger parts of a second. -/
theorem readFraction?_padded (hpos : 0 < places) (hplaces : places ≤ 9) (hn : n < 10 ^ places)
    (hr : Stops Char.isDigit r) :
    readFraction? ('.' :: (padded places n ++ r)) = some (n * 10 ^ (9 - places), r) := by
  have hlength := length_padded_of_lt hpos hn
  have hkept : (padded places n).take 9 = padded places n := List.take_of_length_le (by omega)
  rw [readFraction?, takeWhile_padded hr, hkept, if_neg (by simpa using padded_ne_nil places n)]
  show some (number (padded places n) * Nat.pow 10 (9 - (padded places n).length), _) = _
  rw [number_padded, Nat.pow_eq, hlength, List.drop_left' hlength]

/-- A fraction is read back whether it has three, six or nine digits, or none. -/
theorem readFraction?_fraction (t : Instant) :
    readFraction? (t.fraction ++ ['Z']) = some (t.nanos % 1000000000, ['Z']) := by
  have hstop : Stops Char.isDigit ['Z'] := stops_cons.mpr (by decide)
  rw [fraction]
  split
  · next h =>
    rw [h]
    rfl
  · split
    · rw [List.cons_append, readFraction?_padded (by decide) (by decide) (by omega) hstop]
      congr 2
      omega
    · split
      · rw [List.cons_append, readFraction?_padded (by decide) (by decide) (by omega) hstop]
        congr 2
        omega
      · rw [List.cons_append, readFraction?_padded (by decide) (by decide) (by omega) hstop]
        congr 2
        omega

/-- The second of a minute as it is written. -/
def shownSecond (t : Instant) : Nat := t.second % 60 + (if t.isLeap then 1 else 0)

theorem clock_eq (t : Instant) : t.clock = padded 2 (t.second / 3600)
    ++ ':' :: (padded 2 (t.second / 60 % 60) ++ ':' :: padded 2 t.shownSecond) := by
  rw [clock, List.append_assoc]
  rfl

/-- A time of day in UTC; second 60 is the last one of its minute over again. -/
theorem ofLocal?_utc {date : Date} {hour minute second : Nat} (hhour : hour ≤ 23) (hminute : minute ≤ 59)
    (hsecond : second ≤ 60) (nanos : Nat) :
    ofLocal? date hour minute second nanos 0
      = of? date (hour * 3600 + minute * 60 + if second = 60 then 59 else second)
          (if second = 60 then nanos + 1000000000 else nanos) := by
  have hlast : (if second = 60 then 59 else second) ≤ 59 := by split <;> omega
  rw [ofLocal?, if_pos ⟨hhour, hminute, hsecond⟩]
  simp only []
  generalize (if second = 60 then 59 else second) = last at hlast ⊢
  have hday : 0 ≤ (hour * 3600 + minute * 60 + last : Int) - 0 ∧
      (hour * 3600 + minute * 60 + last : Int) - 0 < 86400 := by omega
  have hinDay : (((hour * 3600 + minute * 60 + last : Int) - 0).fmod 86400).toNat
      = hour * 3600 + minute * 60 + last := by
    rw [Int.fmod_eq_emod_of_nonneg _ (by decide), Int.emod_eq_of_lt hday.1 hday.2]
    omega
  rw [if_pos hday, hinDay]
  rfl

/-- The time of day is read from what is written of it. -/
theorem ofLocal?_clock (t : Instant) :
    ofLocal? t.date (t.second / 3600) (t.second / 60 % 60) t.shownSecond (t.nanos % 1000000000) 0
      = some t := by
  obtain ⟨hday, htime⟩ := isTime_iff.mp t.exists_time
  have hself : of? t.date t.second t.nanos = some t := dif_pos t.exists_time
  by_cases hleap : t.isLeap = true
  · have hnanos : 1000000000 ≤ t.nanos := of_decide_eq_true hleap
    have hshown : t.shownSecond = 60 := by
      rw [shownSecond, if_pos hleap]
      omega
    rw [hshown, ofLocal?_utc (by omega) (by omega) (by omega), if_pos rfl, if_pos rfl, ← hself]
    congr 1 <;> omega
  · have hnanos : ¬ 1000000000 ≤ t.nanos := fun h => hleap (decide_eq_true h)
    have hshown : t.shownSecond = t.second % 60 := by
      rw [shownSecond, if_neg hleap]
      rfl
    have hplain : ¬ t.second % 60 = 60 := by omega
    rw [hshown, ofLocal?_utc (by omega) (by omega) (by omega), if_neg hplain, if_neg hplain, ← hself]
    congr 1 <;> omega

theorem shownSecond_lt (t : Instant) : t.shownSecond < 100 := by
  rw [shownSecond]
  split <;> omega

/-- The full text of an instant, number by number. -/
theorem fullText_of_plain (h : t.date.HasPlainYear) : t.fullText.toList
    = padded 4 t.date.year.toNat ++ '-' :: (padded 2 t.date.month ++ '-' :: (padded 2 t.date.day
      ++ 'T' :: (padded 2 (t.second / 3600) ++ ':' :: (padded 2 (t.second / 60 % 60)
      ++ ':' :: (padded 2 t.shownSecond ++ (t.fraction ++ ['Z'])))))) := by
  rw [fullText, String.toList_ofList, chars_of_plain h, clock_eq]
  simp only [List.append_assoc, List.cons_append]

theorem behindMark?_t (s : List Char) : behindMark? ('T' :: s) = some s := rfl

theorem readOffset?_z (separator? : List Char → Option (List Char)) (s : List Char) :
    readOffset? separator? ('Z' :: s) = some (0, s) := rfl

/-- An instant of a plain year is read from its text, fraction and leap second included. -/
theorem ofText?_fullText (h : t.date.HasPlainYear) : ofText? t.fullText = some t := by
  have pair {n : Nat} (hn : n < 100) (r : List Char) : readDigits? 2 (padded 2 n ++ r) = some (n, r) :=
    readDigits?_padded (by decide) hn r
  obtain ⟨hmonth, hday⟩ := t.date.month_day_lt
  have hyear : t.date.year.toNat < 10 ^ 4 := by have := h.2; omega
  have hnat : (t.date.year.toNat : Int) = t.date.year := Int.toNat_of_nonneg h.1
  have htime := (isTime_iff.mp t.exists_time).1
  have hhour : t.second / 3600 < 100 := by omega
  have hminute : t.second / 60 % 60 < 100 := by omega
  have hdate : Date.of? t.date.year.toNat t.date.month t.date.day = some t.date := by
    rw [hnat]
    exact of?_self t.date
  rw [ofText?, fullText_of_plain h]
  refine Option.bind_eq_some_iff.mpr ⟨_, readDigits?_padded (by decide) hyear _, ?_⟩
  refine Option.bind_eq_some_iff.mpr ⟨_, behind?_mark _ _, ?_⟩
  refine Option.bind_eq_some_iff.mpr ⟨_, pair hmonth _, ?_⟩
  refine Option.bind_eq_some_iff.mpr ⟨_, behind?_mark _ _, ?_⟩
  refine Option.bind_eq_some_iff.mpr ⟨_, pair hday _, ?_⟩
  refine Option.bind_eq_some_iff.mpr ⟨_, behindMark?_t _, ?_⟩
  refine Option.bind_eq_some_iff.mpr ⟨_, pair hhour _, ?_⟩
  refine Option.bind_eq_some_iff.mpr ⟨_, behind?_mark _ _, ?_⟩
  refine Option.bind_eq_some_iff.mpr ⟨_, pair hminute _, ?_⟩
  refine Option.bind_eq_some_iff.mpr ⟨_, behind?_mark _ _, ?_⟩
  refine Option.bind_eq_some_iff.mpr ⟨_, pair t.shownSecond_lt _, ?_⟩
  refine Option.bind_eq_some_iff.mpr ⟨_, readFraction?_fraction t, ?_⟩
  refine Option.bind_eq_some_iff.mpr ⟨_, readOffset?_z _ _, ?_⟩
  refine Option.bind_eq_some_iff.mpr ⟨_, hdate, ?_⟩
  rw [if_pos List.isEmpty_nil]
  exact ofLocal?_clock t

/-- A leap second with a fraction, in the last year that has four digits. -/
example :
    let t : Instant := ⟨⟨9999, 12, 31, by decide⟩, 86399, 1500000000, by decide⟩
    t.fullText = "9999-12-31T23:59:60.500Z" ∧ ofText? t.fullText = some t := by decide +kernel

end Instant

end AqlGateway
