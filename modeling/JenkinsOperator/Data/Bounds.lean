/-!
# Bounds of words

Whole numbers are unbounded here. Where a format holds one in a word of 64 or of 32 bits, reading
checks that it fits.
-/

namespace JenkinsOperator

/-- Whether a number fits in 64 bits. -/
def fitsWord (n : Nat) : Bool := decide (n < 18446744073709551616)

/-- Whether a number fits in 64 bits, one of them for the sign. -/
def fitsSignedWord (n : Int) : Bool :=
  decide (-9223372036854775808 ≤ n) && decide (n ≤ 9223372036854775807)

/-- Whether a number fits in 32 bits, one of them for the sign. -/
def fitsSignedHalf (n : Int) : Bool := decide (-2147483648 ≤ n) && decide (n ≤ 2147483647)

end JenkinsOperator
