import Mathlib.Algebra.Algebra.Defs
import Mathlib.Data.ZMod.Basic

/-!
# Base field elements

`Felt` is the 64-bit Goldilocks field of the VM, `ZMod FELT_MODULUS` with
`FELT_MODULUS = 2^64 - 2^32 + 1`. The integer conversions the chiplet code uses are modelled with
the wrapping they have in Rust:

* `Felt.asInt` is `as_int()`, the canonical `u64` value;
* `Felt.new` is `Felt::new(u64)`, reduction modulo `FELT_MODULUS`;
* `Felt.ofU32Cast n` is `Felt::from(n as u32)`, which first truncates `n` to 32 bits;
* `Felt.div` is winterfell's `a / b = a * b.inv()`, where `inv(0) = 0`.

The extension field `E` the bus columns live in is any commutative `Felt`-algebra; `mulBase`
is `E::mul_base`.
-/

namespace MidenVm

/-- The Goldilocks prime `2^64 - 2^32 + 1`. -/
def FELT_MODULUS : ℕ := 18446744069414584321

abbrev Felt := ZMod FELT_MODULUS

instance : NeZero FELT_MODULUS := ⟨by decide⟩

instance : Fact (1 < FELT_MODULUS) := ⟨by decide⟩

namespace Felt

/-- `Felt::as_int`: the canonical integer of an element. -/
def asInt (x : Felt) : ℕ := x.val

/-- `Felt::new`: reduction of an integer modulo `FELT_MODULUS`. -/
def new (n : ℕ) : Felt := (n : Felt)

/-- `Felt::from(n as u32)`: `n` is truncated to 32 bits before the conversion. -/
def ofU32Cast (n : ℕ) : Felt := ((n % 2 ^ 32 : ℕ) : Felt)

/-- `a / b` on field elements: `a * b.inv()`, with `inv(0) = 0`. -/
def div (a b : Felt) : Felt := a * b⁻¹

def mulSmall (x : Felt) (k : ℕ) : Felt := x * (k : Felt)

/-- `(x.as_int() - 1) as usize` on a 64-bit target: the `u64` subtraction wraps at `0`. -/
def asIntPred (x : Felt) : ℕ := (x.asInt + (2 ^ 64 - 1)) % 2 ^ 64

lemma val_natCast_of_lt {n : ℕ} (h : n < FELT_MODULUS) : ((n : Felt)).val = n :=
  ZMod.val_cast_of_lt h

lemma asInt_lt (x : Felt) : x.asInt < 2 ^ 64 := by
  have : x.val < FELT_MODULUS := ZMod.val_lt x
  unfold asInt
  unfold FELT_MODULUS at this
  omega

@[simp] lemma asInt_natCast {n : ℕ} (h : n < FELT_MODULUS) : Felt.asInt (n : Felt) = n :=
  val_natCast_of_lt h

lemma asIntPred_of_pos {x : Felt} (h : 0 < x.asInt) : x.asIntPred = x.asInt - 1 := by
  have := asInt_lt x
  unfold asIntPred
  rw [show x.asInt + (2 ^ 64 - 1) = (x.asInt - 1) + 2 ^ 64 by omega, Nat.add_mod_right,
    Nat.mod_eq_of_lt (by omega)]

lemma ofU32Cast_of_lt {n : ℕ} (h : n < 2 ^ 32) : ofU32Cast n = (n : Felt) := by
  rw [ofU32Cast, Nat.mod_eq_of_lt h]

end Felt

section Extension

variable {E : Type*} [CommRing E] [Algebra Felt E]

/-- `E::mul_base`: an extension element times a base element. -/
def mulBase (a : E) (x : Felt) : E := a * algebraMap Felt E x

@[simp] lemma mulBase_zero (a : E) : mulBase a 0 = 0 := by simp [mulBase]

@[simp] lemma mulBase_one (a : E) : mulBase a 1 = a := by simp [mulBase]

lemma mulBase_add (a : E) (x y : Felt) : mulBase a (x + y) = mulBase a x + mulBase a y := by
  simp [mulBase, mul_add]

end Extension

end MidenVm
