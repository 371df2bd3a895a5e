/-!
# Totals

The sum of a list of whole numbers, and of a list of natural numbers.
-/

namespace SurfaceKinetics

/-- The sum of natural numbers. -/
def total (counts : List Nat) : Nat := counts.foldr (· + ·) 0

@[simp]
theorem total_nil : total [] = 0 := rfl

@[simp]
theorem total_cons
    (count : Nat)
    (counts : List Nat) :
    total (count :: counts) = count + total counts :=
  rfl

/-- The sum of whole numbers. -/
def netTotal (changes : List Int) : Int := changes.foldr (· + ·) 0

@[simp]
theorem netTotal_nil : netTotal [] = 0 := rfl

@[simp]
theorem netTotal_cons
    (change : Int)
    (changes : List Int) :
    netTotal (change :: changes) = change + netTotal changes :=
  rfl

end SurfaceKinetics
