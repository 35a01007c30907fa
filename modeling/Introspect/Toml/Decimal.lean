/-! Decimal numbers with an exponent.

    A decimal number is read as the nearest binary number of 64 bits. From halfway between the
    largest finite one and the power of two above it, that nearest number is infinite. Whether a
    number lies so high is decided without the power of ten, which may have more digits than fit
    anywhere; the main statements say that the shortcut does not change the answer. -/

namespace Introspect.Toml

/-- The number that is `coefficient` times ten to the power `exponent`. -/
structure Decimal where
  coefficient : Nat
  exponent : Int

namespace Decimal

/-- A power of ten. -/
def tenTo (k : Nat) : Nat := Nat.pow 10 k

/-- The least number that rounds to infinity. It has 309 digits. -/
def firstInfinite : Nat := Nat.pow 2 1024 - Nat.pow 2 970

/-- Whether the number rounds to infinity. A power of ten of 310 digits is above the limit by
    itself, and one with more digits than the coefficient has binary digits is above the
    coefficient. -/
def isInfinite : Decimal → Bool
  | ⟨c, .ofNat k⟩ => c != 0 && (309 ≤ k || firstInfinite ≤ c * tenTo k)
  | ⟨c, .negSucc k⟩ => k < c.log2 && firstInfinite ≤ c / tenTo (k + 1)

theorem tenTo_pos (k : Nat) : 0 < tenTo k := Nat.pow_pos (by decide)

theorem tenTo_add (j k : Nat) : tenTo (j + k) = tenTo j * tenTo k := Nat.pow_add 10 j k

theorem firstInfinite_pos : 0 < firstInfinite := by decide +kernel

theorem firstInfinite_le_tenTo {k : Nat} (h : 309 ≤ k) : firstInfinite ≤ tenTo k := by
  have hk : k = 309 + (k - 309) := by omega
  have hle : firstInfinite ≤ tenTo 309 := by decide +kernel
  rw [hk, tenTo_add]
  exact Nat.le_trans hle (Nat.le_mul_of_pos_right _ (tenTo_pos _))

theorem le_log2_of_tenTo_le {c k : Nat} (h : tenTo k ≤ c) : k ≤ c.log2 := by
  have hpos := tenTo_pos k
  exact (Nat.le_log2 (by omega)).2 (Nat.le_trans (Nat.pow_le_pow_left (by decide) k) h)

theorem isInfinite_ofNat (c k : Nat) :
    (⟨c, k⟩ : Decimal).isInfinite ↔ firstInfinite ≤ c * tenTo k := by
  have hpos := firstInfinite_pos
  change (c != 0 && (decide (309 ≤ k) || decide (firstInfinite ≤ c * tenTo k))) = true ↔ _
  rcases Nat.eq_zero_or_pos c with rfl | hc
  · simp; omega
  · have hle : 309 ≤ k → firstInfinite ≤ c * tenTo k := fun h =>
      Nat.le_trans (firstInfinite_le_tenTo h) (Nat.le_mul_of_pos_left _ hc)
    simp only [Bool.and_eq_true, bne_iff_ne, Bool.or_eq_true, decide_eq_true_eq]
    exact ⟨fun h => h.2.elim hle id, fun h => ⟨by omega, .inr h⟩⟩

theorem isInfinite_negSucc (c k : Nat) :
    (⟨c, .negSucc k⟩ : Decimal).isInfinite ↔ firstInfinite * tenTo (k + 1) ≤ c := by
  change (decide (k < c.log2) && decide (firstInfinite ≤ c / tenTo (k + 1))) = true ↔ _
  simp only [Bool.and_eq_true, decide_eq_true_eq, Nat.le_div_iff_mul_le (tenTo_pos (k + 1))]
  exact ⟨And.right, fun h => ⟨le_log2_of_tenTo_le
    (Nat.le_trans (Nat.le_mul_of_pos_left _ firstInfinite_pos) h), h⟩⟩

end Decimal

end Introspect.Toml
