import JenkinsOperator.DeployKey.Base64
import JenkinsOperator.Text.Blank
import Mathlib.Data.List.Basic

/-!
# One text for each byte string

Reading Base64 accepts exactly what writing produces (`decode?_eq_some_iff`). Each kind of group is
taken apart by itself: which characters are read as these bytes (`decodeThree?_eq_some_iff`,
`decodeTwo?_eq_some_iff`, `decodeOne?_eq_some_iff`). The bits that a last group does not need are
zero, and so no other characters stand for its bytes.
-/

namespace JenkinsOperator.Base64

/-! ## Characters -/

variable {c : Char} {n : Nat}

/-- A digit has the value that it stands for. -/
theorem value?_digit (below : n < 64) : value? (digit n) = some n := by
  have all : ∀ n < 64, value? (digit n) = some n := by decide +kernel
  exact all n below

theorem digit_of_value? (read : value? c = some n) : n < 64 ∧ digit n = c := by
  -- In each range of the alphabet the number tells how far the character is from its first one.
  have inRange {first last : Nat} (offset : Nat) (low : first ≤ c.toNat) (high : c.toNat ≤ last)
      (back : ∀ m ≤ last - first, digit (m + offset) = Char.ofNat (first + m)) :
      digit (c.toNat - first + offset) = c := by
    rw [back _ (Nat.sub_le_sub_right high first), Nat.add_sub_cancel' low, Char.ofNat_toNat]
  rw [value?] at read
  split at read
  case isTrue upper =>
    cases read
    exact ⟨by omega, inRange 0 upper.1 upper.2 (by decide)⟩
  case isFalse =>
    split at read
    case isTrue lower =>
      cases read
      exact ⟨by omega, inRange 26 lower.1 lower.2 (by decide)⟩
    case isFalse =>
      split at read
      case isTrue decimal =>
        cases read
        exact ⟨by omega, inRange 52 decimal.1 decimal.2 (by decide)⟩
      case isFalse =>
        split at read
        case isTrue plus =>
          cases read
          exact ⟨by decide, plus.symm⟩
        case isFalse =>
          split at read
          case isTrue slash =>
            cases read
            exact ⟨by decide, slash.symm⟩
          case isFalse => cases read

/-- The characters that have a value are the digits, each of its own. -/
theorem value?_eq_some_iff : value? c = some n ↔ n < 64 ∧ c = digit n := by
  constructor
  · intro read
    obtain ⟨below, same⟩ := digit_of_value? read
    exact ⟨below, same.symm⟩
  · rintro ⟨below, rfl⟩
    exact value?_digit below

/-- No digit is the sign that fills up the last group. -/
theorem digit_ne_pad (below : n < 64) : digit n ≠ '=' := by
  have all : ∀ n < 64, digit n ≠ '=' := by decide +kernel
  exact all n below

/-! ## Groups -/

variable {w x y z : Char} {bytes : List UInt8} {cs : List Char}

theorem toNat_ofNat (below : n < 256) : (UInt8.ofNat n).toNat = n :=
  UInt8.toNat_ofNat_of_lt' below

theorem ofNat_eq_iff {b : UInt8} (below : n < 256) : UInt8.ofNat n = b ↔ n = b.toNat := by
  rw [← UInt8.toNat_inj, toNat_ofNat below]

/-- The characters that are read as one byte. -/
theorem decodeOne?_eq_some_iff : decodeOne? w x = some bytes ↔
    ∃ a : UInt8, bytes = [a] ∧ w = digit (a.toNat / 4) ∧ x = digit (a.toNat % 4 * 16) := by
  simp only [decodeOne?, Option.bind_eq_bind, Option.bind_eq_some_iff, value?_eq_some_iff]
  constructor
  · rintro ⟨p, ⟨hp, rfl⟩, q, ⟨hq, rfl⟩, read⟩
    -- The low bits of the second number are not needed, and must be zero.
    split at read
    case isTrue zero =>
      cases read
      have first : (UInt8.ofNat (p * 4 + q / 16)).toNat = p * 4 + q / 16 := toNat_ofNat (by omega)
      exact ⟨_, rfl, congrArg digit (by omega), congrArg digit (by omega)⟩
    case isFalse => cases read
  · rintro ⟨a, rfl, rfl, rfl⟩
    have ha : a.toNat < 256 := a.toNat_lt
    refine ⟨_, ⟨by omega, rfl⟩, _, ⟨by omega, rfl⟩, ?_⟩
    rw [if_pos (by omega)]
    exact congrArg (fun b => some [b]) ((ofNat_eq_iff (by omega)).2 (by omega))

/-- The characters that are read as two bytes. -/
theorem decodeTwo?_eq_some_iff : decodeTwo? w x y = some bytes ↔
    ∃ a b : UInt8, bytes = [a, b] ∧ w = digit (a.toNat / 4) ∧
      x = digit (a.toNat % 4 * 16 + b.toNat / 16) ∧ y = digit (b.toNat % 16 * 4) := by
  simp only [decodeTwo?, Option.bind_eq_bind, Option.bind_eq_some_iff, value?_eq_some_iff]
  constructor
  · rintro ⟨p, ⟨hp, rfl⟩, q, ⟨hq, rfl⟩, r, ⟨hr, rfl⟩, read⟩
    split at read
    case isTrue zero =>
      cases read
      have first : (UInt8.ofNat (p * 4 + q / 16)).toNat = p * 4 + q / 16 := toNat_ofNat (by omega)
      have second : (UInt8.ofNat (q % 16 * 16 + r / 4)).toNat = q % 16 * 16 + r / 4 :=
        toNat_ofNat (by omega)
      exact ⟨_, _, rfl, congrArg digit (by omega), congrArg digit (by omega),
        congrArg digit (by omega)⟩
    case isFalse => cases read
  · rintro ⟨a, b, rfl, rfl, rfl, rfl⟩
    have ha : a.toNat < 256 := a.toNat_lt
    have hb : b.toNat < 256 := b.toNat_lt
    refine ⟨_, ⟨by omega, rfl⟩, _, ⟨by omega, rfl⟩, _, ⟨by omega, rfl⟩, ?_⟩
    rw [if_pos (by omega)]
    have first : UInt8.ofNat (a.toNat / 4 * 4 + (a.toNat % 4 * 16 + b.toNat / 16) / 16) = a :=
      (ofNat_eq_iff (by omega)).2 (by omega)
    have second : UInt8.ofNat
        ((a.toNat % 4 * 16 + b.toNat / 16) % 16 * 16 + b.toNat % 16 * 4 / 4) = b :=
      (ofNat_eq_iff (by omega)).2 (by omega)
    rw [first, second]
    rfl

/-- The characters that are read as three bytes. -/
theorem decodeThree?_eq_some_iff : decodeThree? w x y z = some bytes ↔
    ∃ a b c : UInt8, bytes = [a, b, c] ∧ w = digit (a.toNat / 4) ∧
      x = digit (a.toNat % 4 * 16 + b.toNat / 16) ∧
      y = digit (b.toNat % 16 * 4 + c.toNat / 64) ∧ z = digit (c.toNat % 64) := by
  simp only [decodeThree?, Option.bind_eq_bind, Option.bind_eq_some_iff, value?_eq_some_iff]
  constructor
  · rintro ⟨p, ⟨hp, rfl⟩, q, ⟨hq, rfl⟩, r, ⟨hr, rfl⟩, s, ⟨hs, rfl⟩, read⟩
    cases read
    -- Four numbers of six bits are three bytes, and none of them overflows.
    have first : (UInt8.ofNat (p * 4 + q / 16)).toNat = p * 4 + q / 16 := toNat_ofNat (by omega)
    have second : (UInt8.ofNat (q % 16 * 16 + r / 4)).toNat = q % 16 * 16 + r / 4 :=
      toNat_ofNat (by omega)
    have third : (UInt8.ofNat (r % 4 * 64 + s)).toNat = r % 4 * 64 + s := toNat_ofNat (by omega)
    exact ⟨_, _, _, rfl, congrArg digit (by omega), congrArg digit (by omega),
      congrArg digit (by omega), congrArg digit (by omega)⟩
  · rintro ⟨a, b, c, rfl, rfl, rfl, rfl, rfl⟩
    have ha : a.toNat < 256 := a.toNat_lt
    have hb : b.toNat < 256 := b.toNat_lt
    have hc : c.toNat < 256 := c.toNat_lt
    refine ⟨_, ⟨by omega, rfl⟩, _, ⟨by omega, rfl⟩, _, ⟨by omega, rfl⟩, _, ⟨by omega, rfl⟩, ?_⟩
    have first : UInt8.ofNat (a.toNat / 4 * 4 + (a.toNat % 4 * 16 + b.toNat / 16) / 16) = a :=
      (ofNat_eq_iff (by omega)).2 (by omega)
    have second : UInt8.ofNat ((a.toNat % 4 * 16 + b.toNat / 16) % 16 * 16 +
        (b.toNat % 16 * 4 + c.toNat / 64) / 4) = b :=
      (ofNat_eq_iff (by omega)).2 (by omega)
    have third : UInt8.ofNat ((b.toNat % 16 * 4 + c.toNat / 64) % 4 * 64 + c.toNat % 64) = c :=
      (ofNat_eq_iff (by omega)).2 (by omega)
    rw [first, second, third]
    rfl

/-! ## Texts -/

/-- A group that does not end with `=` is followed by others. -/
theorem decode?_cons (full : z ≠ '=') : decode? (w :: x :: y :: z :: cs) =
    match decodeThree? w x y z with
    | none => none
    | some bytes => (decode? cs).map (bytes ++ ·) :=
  decode?.eq_4 w x y z cs (fun _ pad _ => full pad) (fun pad _ => full pad)

/-- Bytes are read back from their encoding. -/
theorem decode?_encode (bytes : List UInt8) : decode? (encode bytes) = some bytes := by
  -- The induction is on the groups of three bytes; only the last group may be shorter.
  fun_induction encode bytes with
  | case1 => rfl
  | case2 a =>
    exact decodeOne?_eq_some_iff.2 ⟨a, rfl, rfl, rfl⟩
  | case3 a b =>
    have there : digit (b.toNat % 16 * 4) ≠ '=' := digit_ne_pad (by omega)
    rw [decode?]
    · exact decodeTwo?_eq_some_iff.2 ⟨a, b, rfl, rfl, rfl, rfl⟩
    · exact there
  | case4 a b c rest ih =>
    have group := decodeThree?_eq_some_iff.2 ⟨a, b, c, rfl, rfl, rfl, rfl, rfl⟩
    rw [decode?_cons (digit_ne_pad (by omega)), group, ih]
    rfl

/-- Nothing is read but what is written. -/
theorem eq_encode_of_decode? (read : decode? cs = some bytes) : cs = encode bytes := by
  fun_induction decode? cs generalizing bytes with
  | case1 =>
    cases read
    rfl
  | case2 w x =>
    obtain ⟨a, rfl, rfl, rfl⟩ := decodeOne?_eq_some_iff.1 read
    rfl
  | case3 w x y =>
    obtain ⟨a, b, rfl, rfl, rfl, rfl⟩ := decodeTwo?_eq_some_iff.1 read
    rfl
  | case4 => cases read
  | case5 w x y z rest _ _ group isGroup ih =>
    obtain ⟨a, b, c, rfl, rfl, rfl, rfl, rfl⟩ := decodeThree?_eq_some_iff.1 isGroup
    obtain ⟨others, readOthers, rfl⟩ := Option.map_eq_some_iff.1 read
    rw [ih readOthers]
    rfl
  | case6 => cases read

/-- A text is read as some bytes if and only if it is their encoding, so there is no other way to
write them. -/
theorem decode?_eq_some_iff : decode? cs = some bytes ↔ cs = encode bytes := by
  constructor
  · exact eq_encode_of_decode?
  · rintro rfl
    exact decode?_encode bytes

/-- The characters of a text. -/
theorem mem_encode (member : c ∈ encode bytes) : c = '=' ∨ ∃ n < 64, c = digit n := by
  fun_induction encode bytes with
  | case1 => cases member
  | case2 a =>
    simp only [List.mem_cons, List.not_mem_nil, or_false] at member
    have ha : a.toNat < 256 := a.toNat_lt
    rcases member with rfl | rfl | pad | pad
    · exact .inr ⟨_, by omega, rfl⟩
    · exact .inr ⟨_, by omega, rfl⟩
    · exact .inl pad
    · exact .inl pad
  | case3 a b =>
    simp only [List.mem_cons, List.not_mem_nil, or_false] at member
    have ha : a.toNat < 256 := a.toNat_lt
    have hb : b.toNat < 256 := b.toNat_lt
    rcases member with rfl | rfl | rfl | pad
    · exact .inr ⟨_, by omega, rfl⟩
    · exact .inr ⟨_, by omega, rfl⟩
    · exact .inr ⟨_, by omega, rfl⟩
    · exact .inl pad
  | case4 a b c rest ih =>
    simp only [List.mem_cons] at member
    have ha : a.toNat < 256 := a.toNat_lt
    have hb : b.toNat < 256 := b.toNat_lt
    have hc : c.toNat < 256 := c.toNat_lt
    rcases member with rfl | rfl | rfl | rfl | later
    · exact .inr ⟨_, by omega, rfl⟩
    · exact .inr ⟨_, by omega, rfl⟩
    · exact .inr ⟨_, by omega, rfl⟩
    · exact .inr ⟨_, by omega, rfl⟩
    · exact ih later

/-- No character of a text is blank or a hyphen, and all are of ASCII. -/
theorem plain_of_mem_encode (member : c ∈ encode bytes) :
    Text.isBlank c = false ∧ c ≠ '-' ∧ c.toNat < 128 := by
  have digits : ∀ n < 64,
      Text.isBlank (digit n) = false ∧ digit n ≠ '-' ∧ (digit n).toNat < 128 := by
    decide +kernel
  rcases mem_encode member with rfl | ⟨n, below, rfl⟩
  · decide
  · exact digits n below

end JenkinsOperator.Base64
