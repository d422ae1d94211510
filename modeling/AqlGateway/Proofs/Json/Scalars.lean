import AqlGateway.Json.Fields
import AqlGateway.Proofs.Text.ByteOrder
import AqlGateway.Proofs.Text.Trim

/-!
# Strings and whole numbers as JSON texts

* `Json.Escapes` — how a character stands inside a string;
* `JsonText.stringBody?_escaped`, `text?_escaped` — a written string is read up to its closing quote,
  and means the string;
* `JsonNumeral.ofInt` — the numeral of a whole number;
* `JsonText.numeral?_integerChars`, `JsonNumeral.meaning?_ofInt` — a written whole number is read as
  its numeral, and means the number.
-/

namespace AqlGateway

open Text

namespace Json

/-! ### Characters -/

/-- A text without control characters. -/
def IsVisible (s : List Char) : Prop := ∀ c ∈ s, 32 ≤ c.toNat

instance {s : List Char} : Decidable (IsVisible s) :=
  List.decidableBAll (fun c : Char => 32 ≤ c.toNat) s

theorem isVisible_cons {c : Char} {s : List Char} :
    IsVisible (c :: s) ↔ 32 ≤ c.toNat ∧ IsVisible s := List.forall_mem_cons

theorem isVisible_append {s t : List Char} : IsVisible (s ++ t) ↔ IsVisible s ∧ IsVisible t :=
  List.forall_mem_append

/-- How a character stands inside a string: behind a backslash, by its number, or as it is. -/
inductive Escapes (c : Char) : List Char → Prop
  | letter {d : Char} (short : JsonText.isShortEscape d = true) (means : shortEscape d = c) :
    Escapes c ['\\', d]
  | number (control : c.toNat < 32) : Escapes c ('\\' :: 'u' :: '0' :: '0' :: hexPair c.toNat)
  | plain (visible : 32 ≤ c.toNat) (quote : c ≠ '"') (slash : c ≠ '\\') : Escapes c [c]

/-- Every character is written in one of the ways that are read. -/
theorem escapes_escape (c : Char) : Escapes c (escape c) := by
  rw [escape]
  split
  · next h => exact .letter rfl h.symm
  split
  · next h => exact .letter rfl h.symm
  split
  · next h => exact .letter rfl h.symm
  split
  · next h => exact .letter rfl h.symm
  split
  · next h => exact .letter rfl h.symm
  split
  · next h => exact .letter rfl h.symm
  split
  · next h => exact .letter rfl h.symm
  split
  · next h => exact .number h
  · next hquote hslash _ _ _ _ _ h => exact .plain (Nat.le_of_not_lt h) hquote hslash

theorem ne_of_isShortEscape {d : Char} (h : JsonText.isShortEscape d = true) : d ≠ 'u' := by
  rintro rfl
  exact absurd h (by decide)

/-- The hexadecimal digits of a control character are read as its number. -/
theorem hexWord_hexPair : ∀ n < 32, JsonText.isHex (Nat.digitChar (n / 16)) = true ∧
    JsonText.isHex (Nat.digitChar (n % 16)) = true ∧
    hexWord '0' '0' (Nat.digitChar (n / 16)) (Nat.digitChar (n % 16)) = n := by
  decide +kernel

namespace Escapes

variable {c : Char} {text : List Char}

theorem isVisible (h : Escapes c text) : IsVisible text := by
  cases h with
  | @letter d short _ =>
    refine isVisible_cons.mpr ⟨by decide, List.forall_mem_singleton.mpr ?_⟩
    by_contra hlow
    have hcontrol : ∀ n < 32, JsonText.isShortEscape (Char.ofNat n) = false := by decide +kernel
    have hshort := hcontrol d.toNat (by omega)
    rw [Char.ofNat_toNat, short] at hshort
    exact Bool.noConfusion hshort
  | number control =>
    have hdigits : ∀ n < 32, IsVisible ('\\' :: 'u' :: '0' :: '0' :: hexPair n) := by
      decide +kernel
    exact hdigits c.toNat control
  | plain visible _ _ => exact List.forall_mem_singleton.mpr visible

/-- A string goes on behind a written character. -/
theorem stringBody? (h : Escapes c text) (s : List Char) :
    JsonText.stringBody? (text ++ s)
      = (JsonText.stringBody? s).map fun p => (text ++ p.1, p.2) := by
  cases h with
  | @letter d short _ =>
    show JsonText.stringBody? ('\\' :: d :: s) = _
    rw [JsonText.stringBody?.eq_def]
    simp [ne_of_isShortEscape short, short]
  | number control =>
    obtain ⟨hhigh, hlow, -⟩ := hexWord_hexPair c.toNat control
    have hzero : JsonText.isHex '0' = true := by decide
    show JsonText.stringBody? ('\\' :: 'u' :: '0' :: '0' :: _ :: _ :: s) = _
    rw [JsonText.stringBody?.eq_def]
    simp [hexPair, hzero, hhigh, hlow]
  | plain visible _ slash =>
    have hvisible : ¬ c.toNat < 32 := by omega
    show JsonText.stringBody? (c :: s) = _
    rw [JsonText.stringBody?.eq_def]
    simp [slash, hvisible]

/-- A written character stands for itself. -/
theorem decodeString? (h : Escapes c text) (s : List Char) :
    AqlGateway.decodeString? (text ++ s) = (AqlGateway.decodeString? s).map (c :: ·) := by
  cases h with
  | @letter d short means =>
    show AqlGateway.decodeString? ('\\' :: d :: s) = _
    rw [AqlGateway.decodeString?.eq_def]
    simp [ne_of_isShortEscape short, means]
  | number control =>
    obtain ⟨-, -, hword⟩ := hexWord_hexPair c.toNat control
    have hhigh : isHighSurrogate c.toNat = false := by
      simp [isHighSurrogate]
      omega
    have hlow : isLowSurrogate c.toNat = false := by
      simp [isLowSurrogate]
      omega
    show AqlGateway.decodeString? ('\\' :: 'u' :: '0' :: '0' :: _ :: _ :: s) = _
    rw [AqlGateway.decodeString?.eq_def]
    simp only [hword, hhigh, hlow, Char.ofNat_toNat, Bool.false_eq_true, if_false]
  | plain _ _ slash =>
    show AqlGateway.decodeString? (c :: s) = _
    rw [AqlGateway.decodeString?.eq_def]
    simp [slash]

end Escapes

/-! ### Strings -/

/-- What stands between the quotes of a written string. -/
def escaped (s : List Char) : List Char := s.flatMap escape

theorem escaped_cons (c : Char) (s : List Char) : escaped (c :: s) = escape c ++ escaped s :=
  List.flatMap_cons

theorem quoted_eq (s : String) (rest : List Char) :
    quoted s rest = '"' :: (escaped s.toList ++ '"' :: rest) := by
  rw [quoted]
  induction s.toList with
  | nil => rfl
  | cons c l ih =>
    rw [List.cons.injEq] at ih ⊢
    rw [List.foldr_cons, ih.2, escaped_cons, List.append_assoc]
    exact ⟨rfl, rfl⟩

theorem isVisible_escaped (s : List Char) : IsVisible (escaped s) := by
  intro c hc
  obtain ⟨d, -, hd⟩ := List.mem_flatMap.mp hc
  exact (escapes_escape d).isVisible c hd

end Json

namespace JsonText

open Json

/-- A written string is read up to its closing quote. -/
theorem stringBody?_escaped (s rest : List Char) :
    stringBody? (escaped s ++ '"' :: rest) = some (escaped s, rest) := by
  induction s with
  | nil => rfl
  | cons c s ih =>
    rw [escaped_cons, List.append_assoc, (escapes_escape c).stringBody?, ih]
    rfl

/-- A string is read back from between its quotes. -/
theorem decodeString?_escaped (s : List Char) : decodeString? (escaped s) = some s := by
  induction s with
  | nil => rfl
  | cons c s ih =>
    rw [escaped_cons, (escapes_escape c).decodeString?, ih]
    rfl

/-- A written string means the string. -/
theorem text?_escaped (s : String) : text? (escaped s.toList) = some s := by
  rw [text?, decodeString?_escaped, Option.map_some, String.ofList_toList]

end JsonText

/-! ### Whole numbers -/

namespace JsonNumeral

def ofInt (n : Int) : JsonNumeral := ⟨decide (n < 0), Nat.toDigits 10 n.natAbs, none, none⟩

theorem isDigit_toDigits (n : Nat) : ∀ c ∈ Nat.toDigits 10 n, c.isDigit = true := fun _ hc =>
  Nat.isDigit_of_mem_toDigits (by decide) (by decide) hc

/-- Only zero itself is written with a zero in front. -/
theorem toDigits_ne_zero_cons (n : Nat) (c : Char) (s : List Char) :
    Nat.toDigits 10 n ≠ '0' :: c :: s := by
  intro h
  have hdigits : ∀ d ∈ c :: s, d.isDigit = true := fun d hd =>
    isDigit_toDigits n d (by rw [h]; exact List.mem_cons_of_mem _ hd)
  have hvalue : Nat.ofDigitChars 10 (c :: s) 0 = n := by
    have hread := Nat.ofDigitChars_toDigits (b := 10) (n := n) (by decide) (by decide)
    rw [h, Nat.ofDigitChars_cons] at hread
    exact hread
  have hlt := (Utf8.ofDigitChars_bounds hdigits 0).2
  rw [hvalue, Nat.zero_add, Nat.one_mul] at hlt
  have hlength := (Nat.length_toDigits_le_iff (by decide) (by simp)).mpr hlt
  rw [h, List.length_cons] at hlength
  omega

/-- Digits that do not lead above the limit are all kept. -/
theorem keepDigits_eq {s : List Char} (hs : ∀ c ∈ s, c.isDigit = true) {n : Nat}
    (h : Nat.ofDigitChars 10 s n ≤ wordLimit) : keepDigits n s = (Nat.ofDigitChars 10 s n, 0) := by
  induction s generalizing n with
  | nil => rfl
  | cons c s ih =>
    have hs' : ∀ d ∈ s, d.isDigit = true := fun d hd => hs d (List.mem_cons_of_mem c hd)
    rw [Nat.ofDigitChars_cons, Nat.mul_comm] at h ⊢
    have hnext : n * 10 + (c.toNat - '0'.toNat) ≤ wordLimit :=
      calc n * 10 + (c.toNat - '0'.toNat)
          ≤ (n * 10 + (c.toNat - '0'.toNat)) * 10 ^ s.length :=
            Nat.le_mul_of_pos_right _ (Nat.pow_pos (by decide))
        _ ≤ _ := (Utf8.ofDigitChars_bounds hs' _).1
        _ ≤ wordLimit := h
    rw [keepDigits, if_pos hnext, ih hs' h]

theorem natAbs_le_wordLimit (n : JsonInteger) : n.value.natAbs ≤ wordLimit := by
  have hfits := n.fits
  rw [wordLimit]
  omega

/-- A whole number of 64 bits is read back as a whole number. -/
theorem wholeMeaning_eq (n : JsonInteger) :
    wholeMeaning (decide (n.value < 0)) n.value.natAbs = .integer n := by
  have hvalue : (if decide (n.value < 0) = true then -(n.value.natAbs : Int) else n.value.natAbs)
      = n.value := by
    by_cases hnegative : n.value < 0
    · rw [decide_eq_true hnegative, if_pos rfl]
      omega
    · rw [decide_eq_false hnegative, if_neg Bool.false_ne_true]
      omega
  have hzero : ¬ (decide (n.value < 0) = true ∧ n.value.natAbs = 0) := by
    rw [decide_eq_true_eq]
    omega
  simp only [wholeMeaning, hvalue, dif_pos n.fits, if_neg hzero]

/-- The numeral of a whole number of 64 bits means the number. -/
theorem meaning?_ofInt (n : JsonInteger) : (ofInt n.value).meaning? = some (.integer n) := by
  have hread : Nat.ofDigitChars 10 (Nat.toDigits 10 n.value.natAbs) 0 = n.value.natAbs :=
    Nat.ofDigitChars_toDigits (by decide) (by decide)
  have hkept : keepDigits 0 (Nat.toDigits 10 n.value.natAbs) = (n.value.natAbs, 0) := by
    rw [keepDigits_eq (isDigit_toDigits _) (hread.symm ▸ natAbs_le_wordLimit n), hread]
  rw [meaning?, ofInt, hkept]
  exact congrArg some (wholeMeaning_eq n)

end JsonNumeral

namespace JsonText

/-- The characters with which a number can go on. -/
def continuesNumber (c : Char) : Bool := c.isDigit || c == '.' || c == 'e' || c == 'E'

variable {r : List Char}

theorem stops_digit (hr : Stops continuesNumber r) : Stops Char.isDigit r := by
  intro c hc
  have hstop := hr c hc
  rw [continuesNumber, Bool.or_eq_false_iff, Bool.or_eq_false_iff, Bool.or_eq_false_iff] at hstop
  exact hstop.1.1.1

/-- A run of digits is read up to what is no digit. -/
theorem digits?_append {w : List Char} (hw : ∀ c ∈ w, c.isDigit = true) (hne : w ≠ [])
    (hr : Stops Char.isDigit r) : digits? (w ++ r) = some (w, r) := by
  rw [digits?, takeWhile_run hw hr, dropWhile_run hw hr]
  simp [hne]

theorem whole?_toDigits (n : Nat) (hr : Stops Char.isDigit r) :
    whole? (Nat.toDigits 10 n ++ r) = some (Nat.toDigits 10 n, r) := by
  rw [whole?, digits?_append (JsonNumeral.isDigit_toDigits n) Nat.toDigits_ne_nil hr]
  split
  · next hzero =>
    have hdigits := congrArg Prod.fst (Option.some.inj hzero)
    exact absurd hdigits (JsonNumeral.toDigits_ne_zero_cons n _ _)
  · rfl

theorem fraction?_of_stops (hr : Stops continuesNumber r) : fraction? r = some (none, r) := by
  cases r with
  | nil => rfl
  | cons c r =>
    have hpoint : c ≠ '.' := by
      rintro rfl
      exact absurd (stops_cons.mp hr) (by decide)
    simp [fraction?, hpoint]

theorem exponent?_of_stops (hr : Stops continuesNumber r) : exponent? r = some (none, r) := by
  cases r with
  | nil => rfl
  | cons c r =>
    have hletter : ¬ (c = 'e' ∨ c = 'E') := by
      rintro (rfl | rfl)
      all_goals exact absurd (stops_cons.mp hr) (by decide)
    rw [exponent?.eq_def]
    exact if_neg hletter

/-- A written whole number is read as its numeral, if it cannot go on behind it. -/
theorem numeral?_integerChars (n : Int) (hr : Stops continuesNumber r) :
    numeral? (Json.integerChars n ++ r) = some (JsonNumeral.ofInt n, r) := by
  have hwhole := whole?_toDigits n.natAbs (stops_digit hr)
  have hfraction := fraction?_of_stops hr
  have hexponent := exponent?_of_stops hr
  rw [Json.integerChars]
  split
  · next hnegative =>
    simp [numeral?, hwhole, hfraction, hexponent, JsonNumeral.ofInt, hnegative]
  · next hnegative =>
    -- The first digit is no sign, so none is read.
    have hsign : ∀ s, Nat.toDigits 10 n.natAbs ++ r ≠ '-' :: s := by
      intro s hs
      obtain ⟨c, w, hcons⟩ := List.exists_cons_of_ne_nil
        (Nat.toDigits_ne_nil (n := n.natAbs) (b := 10))
      have hdigit := JsonNumeral.isDigit_toDigits n.natAbs c (by simp [hcons])
      rw [hcons, List.cons_append, List.cons.injEq] at hs
      rw [hs.1] at hdigit
      exact absurd hdigit (by decide)
    simp [numeral?, hwhole, hfraction, hexponent, JsonNumeral.ofInt, hnegative]

end JsonText

end AqlGateway
