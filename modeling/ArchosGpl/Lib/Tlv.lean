import Mathlib.Data.Nat.Notation
import Mathlib.Tactic.TypeStar

/-!
# Elements with a type byte and a length byte

In a buffer that ends at `stop`, an element at `o` has its type in byte `o`, its length in byte `o +
1` and its body behind. `elements` are the offsets of the elements from the start of the buffer, one
behind the other, up to the first one that does not lie wholly inside; `tail` is where they end.

The bytes are a function of their offset, whatever is behind the buffer.
-/

namespace ArchosGpl.Lib.Tlv

variable (mem : ℕ → UInt8) (stop : ℕ)

/-- The length of the body of the element at an offset. -/
def bodyLen (o : ℕ) : ℕ := (mem (o + 1)).toNat

/-- Where the element at an offset ends. -/
def next (o : ℕ) : ℕ := o + 2 + bodyLen mem o

def elementsFrom : ℕ → ℕ → List ℕ
  | 0, _ => []
  | fuel + 1, o => if next mem o ≤ stop then o :: elementsFrom fuel (next mem o) else []

/-- The offset behind the last whole element from an offset on. -/
def tailFrom : ℕ → ℕ → ℕ
  | 0, o => o
  | fuel + 1, o => if next mem o ≤ stop then tailFrom fuel (next mem o) else o

/-- **The elements of a buffer.** -/
def elements : List ℕ := elementsFrom mem stop stop 0

/-- The offset behind the last whole element. -/
def tail : ℕ := tailFrom mem stop stop 0

variable {mem stop} {fuel o x : ℕ}

theorem add_two_le_next (mem : ℕ → UInt8) (o : ℕ) : o + 2 ≤ next mem o := Nat.le_add_right _ _

theorem mem_elementsFrom (h : x ∈ elementsFrom mem stop fuel o) : o ≤ x ∧ next mem x ≤ stop := by
  induction fuel generalizing o with
  | zero => cases h
  | succ fuel ih =>
    unfold elementsFrom at h
    split at h
    next hle =>
      rcases List.mem_cons.mp h with rfl | h
      · exact ⟨Nat.le_refl _, hle⟩
      · have hx := ih h
        have ho := add_two_le_next mem o
        exact ⟨by omega, hx.2⟩
    · cases h

end ArchosGpl.Lib.Tlv
