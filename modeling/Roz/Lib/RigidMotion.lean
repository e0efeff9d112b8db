import Mathlib.Algebra.Star.Unitary
import Mathlib.GroupTheory.SemidirectProduct

/-!
# Motions of a ring with a star

A unit `u` with inverse `star u` turns `x` to `u x (star u)`; a motion turns and then shifts.
Motions are a group, the semidirect product of the shifts and the turns.  Over the quaternions
with imaginary shifts these are the rigid motions of space.

    (m₁ * m₂).shift = m₁.shift + u₁ * m₂.shift * star u₁  (shift_mul)
    m⁻¹.shift = -(star u * m.shift * u)  (shift_inv)
-/

namespace RigidMotion
variable {A : Type} [Ring A] [StarRing A]

/-- A turn as an automorphism of the shifts. -/
def turnAut (u : unitary A) : MulAut (Multiplicative A) where
  toFun x := .ofAdd (u * x.toAdd * star (u : A))
  invFun x := .ofAdd (star (u : A) * x.toAdd * u)
  left_inv x := by
    have h := Unitary.star_mul_self_of_mem u.2
    dsimp only
    rw [toAdd_ofAdd, mul_assoc, mul_assoc (u * x.toAdd), h, mul_one, ← mul_assoc, h, one_mul, ofAdd_toAdd]
  right_inv x := by
    have h := Unitary.mul_star_self_of_mem u.2
    dsimp only
    rw [toAdd_ofAdd, mul_assoc, mul_assoc (star (u : A) * x.toAdd), h, mul_one, ← mul_assoc, h, one_mul, ofAdd_toAdd]
  map_mul' x y := by rw [toAdd_mul, mul_add, add_mul, ofAdd_add]

def turn : unitary A →* MulAut (Multiplicative A) where
  toFun := turnAut
  map_one' := by
    ext x
    simp [turnAut]
  map_mul' u v := by
    ext x
    simp [turnAut, mul_assoc]

variable (A) in
abbrev Motion : Type := Multiplicative A ⋊[turn] unitary A

namespace Motion

def shift (m : Motion A) : A := m.left.toAdd

def mk' (shift : A) (u : unitary A) : Motion A := ⟨.ofAdd shift, u⟩

@[simp] lemma shift_mk' (shift : A) (u : unitary A) : (mk' shift u).shift = shift := rfl

@[simp] lemma right_mk' (shift : A) (u : unitary A) : (mk' shift u).right = u := rfl

lemma shift_mul (m₁ m₂ : Motion A) : (m₁ * m₂).shift = m₁.shift + m₁.right * m₂.shift * star (m₁.right : A) := rfl

lemma shift_inv (m : Motion A) : m⁻¹.shift = -(star (m.right : A) * m.shift * m.right) := by
  show (star m.right : A) * -m.shift * star (star (m.right : A)) = _
  rw [star_star, mul_neg, neg_mul]

lemma ext_iff {m₁ m₂ : Motion A} : m₁ = m₂ ↔ m₁.shift = m₂.shift ∧ (m₁.right : A) = m₂.right := by
  constructor
  · rintro rfl
    exact ⟨rfl, rfl⟩
  · rintro ⟨hshift, hright⟩
    exact SemidirectProduct.ext hshift (Subtype.ext hright)

end Motion
end RigidMotion
