import JenkinsOperator.Proofs.Text.Digits
import JenkinsOperator.Time.Rfc3339

/-!
# Times read back

A moment that is written and read again is the same moment, whatever its year, its fraction and its
second (`Time.ofRfc3339?_rfc3339`). One lemma for each reader says that it reads what the writer of
its part has written, and leaves what follows.

A moment that is written to the second is read as that second (`Time.ofRfc3339?_rfc3339Seconds`).
-/

namespace JenkinsOperator

namespace Text

theorem isBlank_of_isDigit {c : Char} (h : c.isDigit = true) : isBlank c = false := by
  have bounds : 48 ≤ c.toNat ∧ c.toNat ≤ 57 := by
    unfold Char.isDigit at h
    simp only [ge_iff_le, Bool.and_eq_true, decide_eq_true_eq, UInt32.le_iff_toNat_le] at h
    exact h
  simp only [isBlank, Bool.or_eq_false_iff, Bool.and_eq_false_iff, decide_eq_false_iff_not,
    beq_eq_false_iff_ne]
  omega

theorem skipBlanks_cons {c : Char} {cs : List Char} (h : isBlank c = false) :
    skipBlanks (c :: cs) = c :: cs := by
  rw [skipBlanks, List.dropWhile_cons_of_neg (by rw [h]; exact Bool.false_ne_true)]

end Text

namespace Time

open Text (padded skipBlanks)

/-! ## Numbers -/

/-- Digits are taken as far as they go, or as far as the width allows. -/
theorem takeWhile_take_append {width : Nat} {digits rest : List Char}
    (all : ∀ c ∈ digits, c.isDigit = true) (fits : digits.length ≤ width)
    (ends : digits.length = width ∨ ∀ c ∈ rest.head?, c.isDigit = false) :
    ((digits ++ rest).take width).takeWhile Char.isDigit = digits := by
  rw [List.take_append, List.take_of_length_le fits, List.takeWhile_append_of_pos all]
  rcases ends with full | stops
  · rw [full, Nat.sub_self, List.take_zero, List.takeWhile_nil, List.append_nil]
  · -- What follows the digits does not begin with one, so nothing more is taken.
    cases rest with
    | nil => simp
    | cons c rest =>
      have stop : c.isDigit = false := stops c rfl
      cases width - digits.length with
      | zero => simp
      | succ left => simp [stop]

theorem number?_append {width : Nat} {digits rest : List Char}
    (all : ∀ c ∈ digits, c.isDigit = true) (some : digits ≠ []) (fits : digits.length ≤ width)
    (ends : digits.length = width ∨ ∀ c ∈ rest.head?, c.isDigit = false) :
    number? width (digits ++ rest) = .some (Text.natOfDigits digits, rest) := by
  unfold number?
  simp only [takeWhile_take_append all fits ends, List.isEmpty_iff, some, if_false, List.drop_left]

/-- A padded number is read back, and what follows is left over. -/
theorem number?_padded {width n : Nat} (pos : 0 < width) (fits : n < 10 ^ width)
    (rest : List Char) : number? width (padded width n ++ rest) = some (n, rest) := by
  have length := Text.length_padded pos fits
  rw [number?_append (fun _ => Text.isDigit_of_mem_padded) (Text.padded_ne_nil width n)
    (Nat.le_of_eq length) (.inl length), Text.natOfDigits_padded]

theorem skipBlanks_padded (width n : Nat) (rest : List Char) :
    skipBlanks (padded width n ++ rest) = padded width n ++ rest := by
  obtain ⟨c, digits, same⟩ := List.exists_cons_of_ne_nil (Text.padded_ne_nil width n)
  have digit : c.isDigit = true := Text.isDigit_of_mem_padded (same ▸ List.mem_cons_self)
  rw [same]
  exact Text.skipBlanks_cons (Text.isBlank_of_isDigit digit)

theorem spacedNumber?_padded {width n : Nat} (pos : 0 < width) (fits : n < 10 ^ width)
    (rest : List Char) : spacedNumber? width (padded width n ++ rest) = some (n, rest) := by
  rw [spacedNumber?, skipBlanks_padded, number?_padded pos fits]

theorem spaced?_cons {c : Char} (solid : Text.isBlank c = false) (rest : List Char) :
    spaced? c (c :: rest) = some rest := by
  rw [spaced?, Text.skipBlanks_cons solid]
  exact if_pos rfl

/-! ## Years -/

/-- A year is read back, whatever follows it but a digit. -/
theorem year?_yearChars (year : Int) {rest : List Char}
    (stops : ∀ c ∈ rest.head?, c.isDigit = false) :
    year? (yearChars year ++ rest) = some (year, rest) := by
  have signed (n : Nat) :
      number? (padded 4 n ++ rest).length (padded 4 n ++ rest) = some (n, rest) := by
    rw [number?_append (fun _ => Text.isDigit_of_mem_padded) (Text.padded_ne_nil 4 n)
      (by simp) (.inr stops), Text.natOfDigits_padded]
  unfold yearChars
  split
  case isTrue short =>
    -- Four digits, of which the first is no sign.
    have fits : year.toNat < 10 ^ 4 := by omega
    obtain ⟨c, digits, same⟩ := List.exists_cons_of_ne_nil (Text.padded_ne_nil 4 year.toNat)
    have digit : c.isDigit = true := Text.isDigit_of_mem_padded (same ▸ List.mem_cons_self)
    have read := number?_padded (by decide) fits rest
    unfold year?
    rw [skipBlanks_padded]
    rw [same] at read ⊢
    split
    case h_1 minus =>
      cases minus
      cases digit
    case h_2 plus =>
      cases plus
      cases digit
    case h_3 =>
      rw [read]
      simp only [Option.map_some, Option.some.injEq, Prod.mk.injEq, and_true]
      omega
  case isFalse long =>
    unfold year?
    by_cases negative : year < 0
    · rw [if_pos negative, List.cons_append, Text.skipBlanks_cons rfl]
      simp only [signed, Option.map_some, Option.some.injEq, Prod.mk.injEq, and_true]
      omega
    · rw [if_neg negative, List.cons_append, Text.skipBlanks_cons rfl]
      simp only [signed, Option.map_some, Option.some.injEq, Prod.mk.injEq, and_true]
      omega

/-! ## Fractions -/

/-- Digits after a point count from the left, nine of them to the nanosecond. -/
theorem fraction?_padded {width n : Nat} (pos : 0 < width) (short : width ≤ 9)
    (fits : n < 10 ^ width) {rest : List Char} (stops : ∀ c ∈ rest.head?, c.isDigit = false) :
    fraction? ('.' :: (padded width n ++ rest)) = some (n * 10 ^ (9 - width), rest) := by
  have length := Text.length_padded pos fits
  have all : ∀ c ∈ padded width n, c.isDigit = true := fun _ => Text.isDigit_of_mem_padded
  have taken : ((padded width n ++ rest).take 9).takeWhile Char.isDigit = padded width n :=
    takeWhile_take_append all (length.symm ▸ short) (.inr stops)
  have dropped : (padded width n ++ rest).dropWhile Char.isDigit = rest := by
    rw [List.dropWhile_append_of_pos all]
    cases rest with
    | nil => rfl
    | cons c rest => rw [List.dropWhile_cons_of_neg (by rw [stops c rfl]; exact Bool.false_ne_true)]
  unfold fraction?
  simp only [taken, dropped, List.isEmpty_iff, Text.padded_ne_nil, if_false, length,
    Text.natOfDigits_append_zeros, Text.natOfDigits_padded]

/-- A fraction is read back, however many digits it was written in. -/
theorem fraction?_fractionChars {nano : Nat} (small : nano < 1000000000) :
    fraction? (fractionChars nano ++ ['Z']) = some (nano, ['Z']) := by
  have stops : ∀ c ∈ ['Z'].head?, c.isDigit = false := by simp
  unfold fractionChars
  split
  case isTrue none =>
    rw [none]
    rfl
  case isFalse =>
    split
    case isTrue millis =>
      rw [List.cons_append, fraction?_padded (by decide) (by decide) (by omega) stops]
      simp only [Option.some.injEq, Prod.mk.injEq, and_true]
      omega
    case isFalse =>
      split
      case isTrue micros =>
        rw [List.cons_append, fraction?_padded (by decide) (by decide) (by omega) stops]
        simp only [Option.some.injEq, Prod.mk.injEq, and_true]
        omega
      case isFalse nanos =>
        rw [List.cons_append, fraction?_padded (by decide) (by decide) (by omega) stops]
        simp only [Option.some.injEq, Prod.mk.injEq, and_true]
        omega

/-! ## Moments -/

theorem dateOf?_self (d : Date) : Date.of? d.year d.month d.day = some d :=
  dif_pos ⟨⟨d.year_ge, d.year_le⟩, ⟨d.month_pos, d.month_le⟩, d.day_pos, d.day_le⟩

theorem daysInMonth_le (year : Int) (month : Nat) : daysInMonth year month ≤ 31 := by
  unfold daysInMonth
  repeat' split
  all_goals decide

/-- A clock reading made in UTC is that moment. -/
theorem ofLocal?_utc (t : Time) : ofLocal? t.date t.hour t.minute t.second t.nano 0 = some t := by
  have hour := t.hour_lt
  have minute := t.minute_lt
  have inDay : ¬(t.hour * 60 + t.minute - 0 : Int) < 0 ∧ ¬1440 ≤ (t.hour * 60 + t.minute - 0 : Int) := by
    omega
  have minuteOfDay : ((t.hour * 60 + t.minute - 0 : Int) % 1440).toNat = t.hour * 60 + t.minute := by
    omega
  unfold ofLocal?
  simp only [if_neg inDay.1, if_neg inDay.2, Option.bind_some, minuteOfDay]
  rw [show (t.hour * 60 + t.minute) / 60 = t.hour by omega,
    show (t.hour * 60 + t.minute) % 60 = t.minute by omega]
  exact dif_pos ⟨t.hour_lt, t.minute_lt, t.second_le, t.nano_lt⟩

/-- The same second with other nanoseconds. -/
def withNano (t : Time) (nano : Nat) (small : nano < 1000000000) : Time :=
  { t with nano := nano, nano_lt := small }

theorem no_nanos : 0 < 1000000000 := by decide

theorem offset?_utc : offset? (skipBlanks ['Z']) = some (0, []) := by
  rw [Text.skipBlanks_cons rfl]
  rfl

/-- The characters of a second are read as that second, with the fraction that follows. -/
theorem ofChars?_secondChars (t : Time) {nano : Nat} {rest : List Char} (small : nano < 1000000000)
    (fraction : fraction? rest = some (nano, ['Z'])) :
    ofChars? (t.secondChars ++ rest) = some (t.withNano nano small) := by
  have read (n : Nat) (two : n < 100) (after : List Char) :
      spacedNumber? 2 (padded 2 n ++ after) = some (n, after) :=
    spacedNumber?_padded (by decide) two after
  -- Each number is followed by the separator before the next one, the last one by the fraction.
  have month := read t.date.month (Nat.lt_of_le_of_lt t.date.month_le (by decide))
  have day := read t.date.day
    (Nat.lt_of_le_of_lt (Nat.le_trans t.date.day_le (daysInMonth_le _ _)) (by decide))
  have hour := read t.hour (Nat.lt_trans t.hour_lt (by decide))
  have minute := read t.minute (Nat.lt_trans t.minute_lt (by decide))
  have second := read t.second (Nat.lt_of_le_of_lt t.second_le (by decide))
  have dash (after : List Char) : spaced? '-' ('-' :: after) = some after := spaced?_cons rfl after
  have colon (after : List Char) : spaced? ':' (':' :: after) = some after := spaced?_cons rfl after
  have parting (after : List Char) : parting? ('T' :: after) = some after := rfl
  unfold secondChars
  simp only [List.append_assoc, List.cons_append]
  refine Option.bind_eq_some_iff.2 ⟨_, year?_yearChars t.date.year (by simp), ?_⟩
  refine Option.bind_eq_some_iff.2 ⟨_, dash _, ?_⟩
  refine Option.bind_eq_some_iff.2 ⟨_, month _, ?_⟩
  refine Option.bind_eq_some_iff.2 ⟨_, dash _, ?_⟩
  refine Option.bind_eq_some_iff.2 ⟨_, day _, ?_⟩
  refine Option.bind_eq_some_iff.2 ⟨_, parting _, ?_⟩
  refine Option.bind_eq_some_iff.2 ⟨_, hour _, ?_⟩
  refine Option.bind_eq_some_iff.2 ⟨_, colon _, ?_⟩
  refine Option.bind_eq_some_iff.2 ⟨_, minute _, ?_⟩
  refine Option.bind_eq_some_iff.2 ⟨_, colon _, ?_⟩
  refine Option.bind_eq_some_iff.2 ⟨_, second _, ?_⟩
  refine Option.bind_eq_some_iff.2 ⟨_, fraction, ?_⟩
  refine Option.bind_eq_some_iff.2 ⟨_, offset?_utc, ?_⟩
  have inDay : (([] : List Char).all Text.isBlank && decide (t.hour < 24 ∧ t.minute < 60)) = true := by
    rw [decide_eq_true ⟨t.hour_lt, t.minute_lt⟩]
    rfl
  refine (if_pos inDay).trans ?_
  refine Option.bind_eq_some_iff.2 ⟨_, dateOf?_self _, ?_⟩
  exact ofLocal?_utc (t.withNano nano small)

/-- A moment is read back. -/
theorem ofRfc3339?_rfc3339 (t : Time) : ofRfc3339? t.rfc3339 = some t := by
  rw [ofRfc3339?, rfc3339, String.toList_ofList, rfc3339Chars, List.append_assoc]
  exact ofChars?_secondChars t t.nano_lt (fraction?_fractionChars t.nano_lt)

/-- A moment that was written to the second is read back as that second. -/
theorem ofRfc3339?_rfc3339Seconds (t : Time) :
    ofRfc3339? t.rfc3339Seconds = some (t.withNano 0 no_nanos) := by
  rw [ofRfc3339?, rfc3339Seconds, String.toList_ofList]
  exact ofChars?_secondChars t no_nanos rfl

end Time

end JenkinsOperator
