import JenkinsOperator.DeployKey.Der
import Mathlib.Algebra.Order.Ring.Nat
import Mathlib.Data.List.Basic
import Mathlib.Data.List.Induction

/-!
# One encoding for each value

Reading is strict, so each reader accepts exactly what its writer produces, with anything behind it:
lengths (`length?_eq_some_iff`), elements (`element?_eq_some_iff`), whole numbers
(`nat?_eq_some_iff`) and numbers one after another (`nats?_eq_some_iff`). Behind all of them is that
the fewest octets of a number are those with no zero in front (`bytesOfNat_eq_iff`).
-/

namespace JenkinsOperator.Der

/-! ## Octets of a number -/

variable {n : Nat} {bytes rest contents : List UInt8} {tag b : UInt8}

theorem natOfBytes_concat (bytes : List UInt8) (b : UInt8) :
    natOfBytes (bytes ++ [b]) = natOfBytes bytes * 256 + b.toNat := by
  rw [natOfBytes, List.foldl_append]
  rfl

theorem natOfBytes_singleton (b : UInt8) : natOfBytes [b] = b.toNat := by
  simp [natOfBytes]

theorem bytesOfNat_zero : bytesOfNat 0 = [] := by
  rw [bytesOfNat, if_pos rfl]

theorem bytesOfNat_of_ne_zero (some : n ≠ 0) :
    bytesOfNat n = bytesOfNat (n / 256) ++ [UInt8.ofNat (n % 256)] := by
  rw [bytesOfNat, if_neg some]

/-- A number is read back from its bytes. -/
theorem natOfBytes_bytesOfNat (n : Nat) : natOfBytes (bytesOfNat n) = n := by
  induction n using bytesOfNat.induct with
  | case1 =>
    rw [bytesOfNat_zero]
    rfl
  | case2 n some ih =>
    have last : (UInt8.ofNat (n % 256)).toNat = n % 256 :=
      UInt8.toNat_ofNat_of_lt' (Nat.mod_lt n (by decide))
    rw [bytesOfNat_of_ne_zero some, natOfBytes_concat, ih, last]
    omega

/-- Octets with no zero in front denote a number that is not zero, unless there are none. -/
theorem natOfBytes_pos (some : bytes ≠ []) (front : bytes.head? ≠ Option.some 0) :
    0 < natOfBytes bytes := by
  induction bytes using List.reverseRecOn with
  | nil => exact absurd rfl some
  | append_singleton init b ih =>
    rw [natOfBytes_concat]
    by_cases alone : init = []
    · -- The only octet is the one in front.
      subst alone
      have nonzero : b.toNat ≠ 0 := by
        intro zero
        exact front (congrArg Option.some (UInt8.toNat_inj.1 zero))
      omega
    · rw [List.head?_append_of_ne_nil _ alone] at front
      have := ih alone front
      omega

/-- Octets with no zero in front are the fewest of their number. -/
theorem bytesOfNat_natOfBytes (front : bytes.head? ≠ some 0) :
    bytesOfNat (natOfBytes bytes) = bytes := by
  induction bytes using List.reverseRecOn with
  | nil => exact bytesOfNat_zero
  | append_singleton init b ih =>
    have positive := natOfBytes_pos (by simp) front
    have below : b.toNat < 256 := b.toNat_lt
    have ih : bytesOfNat (natOfBytes init) = init := by
      by_cases alone : init = []
      · subst alone
        exact bytesOfNat_zero
      · rw [List.head?_append_of_ne_nil _ alone] at front
        exact ih front
    rw [bytesOfNat_of_ne_zero (Nat.ne_of_gt positive), natOfBytes_concat,
      show (natOfBytes init * 256 + b.toNat) / 256 = natOfBytes init by omega,
      show (natOfBytes init * 256 + b.toNat) % 256 = b.toNat by omega, ih, UInt8.ofNat_toNat]

/-- The bytes of a number do not begin with a zero. -/
theorem head?_bytesOfNat (n : Nat) : (bytesOfNat n).head? ≠ some 0 := by
  induction n using bytesOfNat.induct with
  | case1 =>
    rw [bytesOfNat_zero]
    nofun
  | case2 n some ih =>
    rw [bytesOfNat_of_ne_zero some]
    by_cases small : n / 256 = 0
    · -- The only octet is the number itself.
      rw [small, bytesOfNat_zero, List.nil_append, List.head?_cons]
      intro front
      have same := congrArg UInt8.toNat (Option.some.inj front)
      rw [UInt8.toNat_ofNat_of_lt' (Nat.mod_lt n (by decide))] at same
      have : n % 256 = 0 := same
      omega
    · have more : bytesOfNat (n / 256) ≠ [] := by
        rw [bytesOfNat_of_ne_zero small]
        simp
      rw [List.head?_append_of_ne_nil _ more]
      exact ih

/-- The fewest octets of a number are the ones that denote it with no zero in front. -/
theorem bytesOfNat_eq_iff : bytesOfNat n = bytes ↔ natOfBytes bytes = n ∧ bytes.head? ≠ some 0 := by
  constructor
  · rintro rfl
    exact ⟨natOfBytes_bytesOfNat n, head?_bytesOfNat n⟩
  · rintro ⟨rfl, front⟩
    exact bytesOfNat_natOfBytes front

/-- As many octets denote the same number only if they are the same. -/
theorem natOfBytes_inj {bytes' : List UInt8} (lengths : bytes.length = bytes'.length)
    (same : natOfBytes bytes = natOfBytes bytes') : bytes = bytes' := by
  induction bytes using List.reverseRecOn generalizing bytes' with
  | nil => exact (List.length_eq_zero_iff.1 lengths.symm).symm
  | append_singleton init b ih =>
    rcases List.eq_nil_or_concat bytes' with rfl | ⟨init', b', rfl⟩
    · simp at lengths
    · rw [List.concat_eq_append] at lengths same ⊢
      rw [natOfBytes_concat, natOfBytes_concat] at same
      have below : b.toNat < 256 := b.toNat_lt
      have below' : b'.toNat < 256 := b'.toNat_lt
      -- The last octets are the remainders modulo 256, and what stands before them the quotients.
      have front : init = init' := ih (by simpa using lengths) (by omega)
      have last : b = b' := UInt8.toNat_inj.1 (by omega)
      rw [front, last]

/-- A number below a power of 256 takes no more bytes than the exponent says. -/
theorem length_bytesOfNat_le {k : Nat} (below : n < 256 ^ k) : (bytesOfNat n).length ≤ k := by
  induction k generalizing n with
  | zero =>
    obtain rfl : n = 0 := by simpa using below
    simp [bytesOfNat_zero]
  | succ k ih =>
    by_cases zero : n = 0
    · simp [zero, bytesOfNat_zero]
    · rw [bytesOfNat_of_ne_zero zero, List.length_append, List.length_singleton]
      rw [Nat.pow_succ] at below
      exact Nat.succ_le_succ (ih (Nat.div_lt_of_lt_mul (by omega)))

/-! ## Lengths -/

theorem toNat_lengthMarker {count : Nat} (few : count ≤ 4) :
    (UInt8.ofNat (128 + count)).toNat = 128 + count :=
  UInt8.toNat_ofNat_of_lt' (by show _ < 256; omega)

/-- A length is read back from its encoding, and what follows is left over. -/
theorem length?_encodeLength (below : n < 0x10000000) (rest : List UInt8) :
    length? (encodeLength n ++ rest) = some (n, rest) := by
  rw [encodeLength]
  by_cases short : n < 128
  · have one : (UInt8.ofNat n).toNat = n := UInt8.toNat_ofNat_of_lt' (by show _ < 256; omega)
    have small : UInt8.ofNat n < 128 := by
      rw [UInt8.lt_iff_toNat_lt, one]
      exact short
    rw [if_pos short, List.singleton_append, length?, if_pos small, one]
  · -- In the long form the marker counts the octets, of which there are at most four.
    have few : (bytesOfNat n).length ≤ 4 :=
      length_bytesOfNat_le (Nat.lt_trans below (by decide))
    have some : 1 ≤ (bytesOfNat n).length := by
      rw [bytesOfNat_of_ne_zero (by omega)]
      simp
    have marker : (UInt8.ofNat (lengthMarker n)).toNat = 128 + (bytesOfNat n).length := by
      rw [lengthMarker, if_neg short]
      exact toNat_lengthMarker few
    have big : ¬ UInt8.ofNat (lengthMarker n) < 128 := by
      rw [UInt8.lt_iff_toNat_lt, marker]
      exact Nat.not_lt.2 (Nat.le_add_right 128 _)
    rw [if_neg short, List.cons_append, length?, if_neg big]
    simp only [marker, Nat.add_sub_cancel_left, List.take_left, List.drop_left,
      natOfBytes_bytesOfNat]
    refine if_pos ⟨some, few, trivial, below, ?_⟩
    rw [lengthMarker, if_neg short]

/-- A length that was read had the shortest encoding there is of it. -/
theorem encodeLength_of_length? (read : length? bytes = some (n, rest)) :
    n < 0x10000000 ∧ bytes = encodeLength n ++ rest := by
  cases bytes with
  | nil => cases read
  | cons first after =>
    by_cases short : first < 128
    · rw [length?, if_pos short] at read
      obtain ⟨rfl, rfl⟩ := Prod.mk.inj (Option.some.inj read)
      have short : first.toNat < 128 := UInt8.lt_iff_toNat_lt.1 short
      refine ⟨by omega, ?_⟩
      rw [encodeLength, if_pos short, UInt8.ofNat_toNat]
      rfl
    · rw [length?, if_neg short] at read
      extract_lets count octets number at read
      obtain ⟨⟨-, -, enough, below, marker⟩, same⟩ := Option.ite_none_right_eq_some.1 read
      obtain ⟨rfl, rfl⟩ := Prod.mk.inj (Option.some.inj same)
      have long : 128 ≤ first.toNat :=
        Nat.not_lt.1 fun small => short (UInt8.lt_iff_toNat_lt.2 small)
      refine ⟨below, ?_⟩
      -- The marker tells that the length takes as many octets as there are.
      have big : ¬ number < 128 := by
        intro small
        rw [lengthMarker, if_pos small] at marker
        omega
      have many : (bytesOfNat number).length = octets.length := by
        rw [lengthMarker, if_neg big] at marker
        omega
      have fewest : bytesOfNat number = octets :=
        natOfBytes_inj many (natOfBytes_bytesOfNat number)
      rw [encodeLength, if_neg big, marker, UInt8.ofNat_toNat, fewest, List.cons_append,
        List.take_append_drop]

/-- A length is read if and only if it is small enough and stands there in its only encoding. -/
theorem length?_eq_some_iff :
    length? bytes = some (n, rest) ↔ n < 0x10000000 ∧ bytes = encodeLength n ++ rest := by
  constructor
  · exact encodeLength_of_length?
  · rintro ⟨below, rfl⟩
    exact length?_encodeLength below rest

/-! ## Elements -/

/-- An element is read if and only if it stands there, under its tag and in its only encoding. -/
theorem element?_eq_some_iff : element? tag bytes = some (contents, rest) ↔
    contents.length < 0x10000000 ∧ bytes = encodeElement tag contents ++ rest := by
  constructor
  · intro read
    cases bytes with
    | nil => cases read
    | cons first after =>
      rw [element?] at read
      split at read
      case isTrue same =>
        split at read
        case h_1 => cases read
        case h_2 n rest' isLength =>
          obtain ⟨enough, both⟩ := Option.ite_none_right_eq_some.1 read
          obtain ⟨rfl, rfl⟩ := Prod.mk.inj (Option.some.inj both)
          obtain ⟨below, rfl⟩ := length?_eq_some_iff.1 isLength
          rw [List.length_take_of_le enough]
          refine ⟨below, ?_⟩
          -- What was taken for the contents and what was left are the rest of the bytes.
          rw [same, encodeElement, List.length_take_of_le enough, List.cons_append,
            List.append_assoc, List.take_append_drop]
      case isFalse => cases read
  · rintro ⟨below, rfl⟩
    rw [encodeElement, List.cons_append, List.append_assoc, element?, if_pos rfl,
      length?_encodeLength below]
    simp

/-- A document is one element, with its encoding below the bound. -/
theorem document?_eq_some_iff : document? tag bytes = some contents ↔
    bytes.length < 0x10000000 ∧ bytes = encodeElement tag contents := by
  rw [document?]
  constructor
  · intro read
    obtain ⟨below, alone⟩ := Option.ite_none_right_eq_some.1 read
    refine ⟨below, ?_⟩
    split at alone
    case h_1 contents' isElement =>
      obtain ⟨-, whole⟩ := element?_eq_some_iff.1 isElement
      rw [whole, Option.some.inj alone, List.append_nil]
    case h_2 => cases alone
  · rintro ⟨below, rfl⟩
    have shorter : contents.length < 0x10000000 := by
      refine Nat.lt_of_le_of_lt ?_ below
      rw [encodeElement, List.length_cons, List.length_append]
      omega
    have isElement : element? tag (encodeElement tag contents) = some (contents, []) :=
      element?_eq_some_iff.2 ⟨shorter, (List.append_nil _).symm⟩
    rw [if_pos below, isElement]

/-! ## Whole numbers -/

theorem contentsOfNat_zero : contentsOfNat 0 = [0] := by
  rw [contentsOfNat, bytesOfNat_zero]

/-- A sign octet stands in front if and only if the first octet would be read as a sign. -/
theorem contentsOfNat_natOfBytes {first : UInt8} (nonzero : first ≠ 0) (rest : List UInt8) :
    contentsOfNat (natOfBytes (first :: rest)) =
      if first < 128 then first :: rest else 0 :: first :: rest := by
  have front : (first :: rest).head? ≠ some 0 := fun zero => nonzero (Option.some.inj zero)
  rw [contentsOfNat, bytesOfNat_natOfBytes front]

/-- A number is read back from its contents. -/
theorem natOfContents?_contentsOfNat (n : Nat) : natOfContents? (contentsOfNat n) = some n := by
  rw [contentsOfNat]
  cases octets : bytesOfNat n with
  | nil =>
    obtain rfl : 0 = n := (bytesOfNat_eq_iff.1 octets).1
    rfl
  | cons first rest =>
    obtain ⟨denoted, front⟩ := bytesOfNat_eq_iff.1 octets
    have nonzero : first ≠ 0 := fun zero => front (congrArg some zero)
    dsimp only
    split
    case isTrue small =>
      cases rest with
      | nil =>
        rw [natOfContents?, if_pos small, ← natOfBytes_singleton, denoted]
      | cons second rest =>
        rw [natOfContents?, if_neg nonzero, if_pos small, denoted]
    case isFalse big =>
      rw [natOfContents?, if_pos rfl, if_neg big, denoted]

/-- Contents that were read as a number are the shortest that it has. -/
theorem contentsOfNat_of_natOfContents? (read : natOfContents? contents = some n) :
    contents = contentsOfNat n := by
  cases contents with
  | nil => cases read
  | cons first rest =>
    cases rest with
    | nil =>
      obtain ⟨small, number⟩ := Option.ite_none_right_eq_some.1 read
      obtain rfl := Option.some.inj number
      by_cases zero : first = 0
      · subst zero
        exact contentsOfNat_zero.symm
      · rw [← natOfBytes_singleton, contentsOfNat_natOfBytes zero, if_pos small]
    | cons second rest =>
      rw [natOfContents?] at read
      split at read
      case isTrue zero =>
        -- The octet behind the sign octet would be read as a sign, so it is not zero.
        obtain ⟨big, number⟩ := Option.ite_none_left_eq_some.1 read
        obtain rfl := Option.some.inj number
        have nonzero : second ≠ 0 := by
          rintro rfl
          exact big (by decide)
        rw [contentsOfNat_natOfBytes nonzero, if_neg big, zero]
      case isFalse nonzero =>
        obtain ⟨small, number⟩ := Option.ite_none_right_eq_some.1 read
        obtain rfl := Option.some.inj number
        rw [contentsOfNat_natOfBytes nonzero, if_pos small]

/-- A number has exactly one form of contents. -/
theorem natOfContents?_eq_some_iff :
    natOfContents? contents = some n ↔ contents = contentsOfNat n := by
  constructor
  · exact contentsOfNat_of_natOfContents?
  · rintro rfl
    exact natOfContents?_contentsOfNat n

/-- A number is read if and only if it stands there in its only encoding. -/
theorem nat?_eq_some_iff : nat? bytes = some (n, rest) ↔
    (contentsOfNat n).length < 0x10000000 ∧ bytes = encodeNat n ++ rest := by
  rw [nat?, encodeNat]
  constructor
  · intro read
    split at read
    case h_1 => cases read
    case h_2 contents rest' isElement =>
      obtain ⟨number, isNumber, both⟩ := Option.map_eq_some_iff.1 read
      obtain ⟨rfl, rfl⟩ := Prod.mk.inj both
      obtain rfl := natOfContents?_eq_some_iff.1 isNumber
      exact element?_eq_some_iff.1 isElement
  · intro written
    rw [element?_eq_some_iff.2 written]
    exact congrArg (Option.map fun n => (n, rest)) (natOfContents?_contentsOfNat n)

/-- A list of numbers is read if and only if it has the length that is asked for and stands there in
its only encoding. -/
theorem nats?_eq_some_iff {count : Nat} {ns : List Nat} : nats? count bytes = some (ns, rest) ↔
    ns.length = count ∧ (∀ n ∈ ns, (contentsOfNat n).length < 0x10000000) ∧
      bytes = ns.flatMap encodeNat ++ rest := by
  -- The induction is on how many numbers are left to read, for any bytes that follow.
  induction count generalizing bytes ns with
  | zero =>
    rw [nats?, Option.some_inj, Prod.mk.injEq, List.length_eq_zero_iff]
    constructor
    · rintro ⟨rfl, rfl⟩
      exact ⟨rfl, nofun, rfl⟩
    · rintro ⟨rfl, -, rfl⟩
      exact ⟨rfl, rfl⟩
  | succ count ih =>
    rw [nats?]
    constructor
    · intro read
      split at read
      case h_1 => cases read
      case h_2 n rest' isNat =>
        obtain ⟨⟨others, rest''⟩, areNats, both⟩ := Option.map_eq_some_iff.1 read
        obtain ⟨rfl, rfl⟩ := Prod.mk.inj both
        obtain ⟨below, rfl⟩ := nat?_eq_some_iff.1 isNat
        obtain ⟨many, allBelow, rfl⟩ := ih.1 areNats
        refine ⟨congrArg (· + 1) many, List.forall_mem_cons.2 ⟨below, allBelow⟩, ?_⟩
        rw [List.flatMap_cons, List.append_assoc]
    · rintro ⟨many, allBelow, rfl⟩
      cases ns with
      | nil => cases many
      | cons n others =>
        obtain ⟨below, allBelow⟩ := List.forall_mem_cons.1 allBelow
        rw [List.flatMap_cons, List.append_assoc, nat?_eq_some_iff.2 ⟨below, rfl⟩]
        dsimp only
        rw [ih.2 ⟨Nat.succ.inj many, allBelow, rfl⟩]
        rfl

/-- The contents of numbers are no longer than all their elements together. -/
theorem length_contentsOfNat_le {ns : List Nat} (member : n ∈ ns) :
    (contentsOfNat n).length ≤ (ns.flatMap encodeNat).length := by
  obtain ⟨before, after, rfl⟩ := List.append_of_mem member
  rw [List.flatMap_append, List.flatMap_cons, encodeNat, encodeElement]
  simp only [List.length_append, List.length_cons]
  omega

end JenkinsOperator.Der
