/-!
# Words

Whole numbers that fit in a given number of bits.
-/

namespace StateMetrics

/-- How many values a number of bits has. -/
def wordSize (bits : Nat) : Nat := Nat.pow 2 bits

theorem wordSize_pos (bits : Nat) : 0 < wordSize bits := Nat.pow_pos (by decide)

/-- Whether an integer fits in 64 bits, with or without a sign. -/
def fitsInWord (value : Int) : Bool := -(wordSize 63 : Int) ≤ value && value < wordSize 64

end StateMetrics
