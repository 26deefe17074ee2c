/-! # Writing whole numbers

A whole number is written in decimal, with a minus sign if it is negative.
-/

namespace RegistryMend.Decimal

/-- The decimal text of a whole number. -/
def integerChars (n : Int) : List Char :=
  if n < 0 then '-' :: Nat.toDigits 10 n.natAbs else Nat.toDigits 10 n.natAbs

/-- The decimal text of a whole number. -/
def integerText (n : Int) : String :=
  String.ofList (integerChars n)

/-- The decimal text of a count. -/
def naturalText (n : Nat) : String :=
  String.ofList (Nat.toDigits 10 n)

example : integerText (-120) = "-120" := by decide +kernel

end RegistryMend.Decimal
