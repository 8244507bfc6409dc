import PlaceholderScripts.Number.Power

/-!
# Machine words

Arithmetic in words of thirty-two and of sixty-four bits. A step of it has an exact result. How that becomes
a word is left to the arithmetic in which the step is taken: a wrapping one keeps the low bits of what does
not fit, another one may stop there. A checked operation has no result where that does not fit.
-/

namespace PlaceholderScripts

/-- How the result of a step becomes a word of thirty-two bits. -/
abbrev Arithmetic (m : Type → Type) := Int → m UInt32

namespace Arithmetic

/-- Words keep the low bits of what does not fit. -/
def wrapping : Arithmetic Id := UInt32.ofInt

/-- What fits becomes the word of that value. -/
def IsExact {m : Type → Type} [Monad m] (keep : Arithmetic m) : Prop :=
  ∀ n : Nat, n < 2 ^ 32 → keep n = pure (UInt32.ofNat n)

theorem isExact_wrapping : IsExact wrapping := by
  intro n hn
  have hmod : (n : Int) % 2 ^ 32 = n := by omega
  change UInt32.ofNat ((n : Int) % 2 ^ 32).toNat = UInt32.ofNat n
  rw [hmod, Int.toNat_natCast]

end Arithmetic

def checkedMul? (a b : UInt64) : Option UInt64 :=
  if a.toNat * b.toNat < 2 ^ 64 then some (a * b) else none

theorem toNat_mul_of_lt {a b : UInt64} (h : a.toNat * b.toNat < 2 ^ 64) :
    (a * b).toNat = a.toNat * b.toNat := by
  rw [UInt64.toNat_mul, Nat.mod_eq_of_lt h]

end PlaceholderScripts
