import Mathlib.Algebra.MvPolynomial.Degrees
import Mathlib.Algebra.MvPolynomial.Polynomial
import Mathlib.Algebra.Polynomial.BigOperators
import Mathlib.Algebra.Polynomial.Degree.SmallDegree
import Mathlib.LinearAlgebra.Lagrange

/-!
# Round polynomials and composition polynomials

A round of the sum-check prover sends a univariate polynomial of degree at most `d` by its values
at `1, …, d` (`UnivariatePolyEvals`); `to_poly` puts back the value at `0`, recovered from the
round claim, and the polynomial is then evaluated at the challenge (`UnivariatePolyCoef`). A
composition polynomial `g` is queried only by its values.

* `evaluate_eq_eval`: a polynomial of degree at most `d`, held by its values at `0, …, d`,
  evaluates as itself everywhere (Lagrange interpolation), when `0, …, d` are distinct in `E`;
* `lineDegreeLE_of_totalDegree`: a composition polynomial of total degree at most `d` is, along
  every line, a polynomial of degree at most `d`: the property the round polynomials need. A
  degree bound in each variable separately does not give it (`Completeness`).
-/

namespace MidenVm.VirtualBus

open Polynomial

variable {E : Type*} [Field E]

/-- Modelled from the spec: `CompositionPolynomial`, the polynomial `g` of the sum-check
relation, by its degree bound `max_degree` and its values. -/
structure CompositionPolynomial (E : Type*) where
  maxDegree : ℕ
  evaluate : List E → E

/-- Modelled from the spec: `UnivariatePolyEvals`, a round polynomial by its values at
`1, …, d`. -/
structure UnivariatePolyEvals (E : Type*) where
  partialEvaluations : List E

/-- Modelled from the spec: `UnivariatePolyCoef`, a round polynomial of degree at most `d`. It is
held by its values at `0, 1, …, d`, which fix its coefficients. -/
structure UnivariatePolyCoef (E : Type*) where
  values : List E

/-- Modelled from the spec: `UnivariatePolyEvals::to_poly`, which puts `s(0) = claim - s(1)` in
front of `s(1), …, s(d)`. -/
def UnivariatePolyEvals.toPoly (evals : UnivariatePolyEvals E) (roundClaim : E) :
    UnivariatePolyCoef E :=
  ⟨(roundClaim - evals.partialEvaluations.headD 0) :: evals.partialEvaluations⟩

namespace UnivariatePolyCoef

/-- Modelled from the spec: `UnivariatePolyCoef::evaluate`, the value at `t` of the polynomial
through the points `(k, values[k])`, by Lagrange's formula. -/
def evaluate (p : UnivariatePolyCoef E) (t : E) : E :=
  ∑ k in Finset.range p.values.length, p.values.getD k 0 *
    ∏ j in (Finset.range p.values.length).erase k, ((k : E) - j)⁻¹ * (t - j)

lemma evaluate_eq_interpolate (p : UnivariatePolyCoef E) (t : E) :
    p.evaluate t = (Lagrange.interpolate (Finset.range p.values.length) (Nat.cast : ℕ → E)
      fun k => p.values.getD k 0).eval t := by
  simp [evaluate, Lagrange.interpolate_apply, eval_finset_sum, Lagrange.basis, eval_prod,
    Lagrange.basisDivisor]

end UnivariatePolyCoef

lemma cast_injOn_range {d : ℕ} (hnodes : ∀ k, 0 < k → k ≤ d → (k : E) ≠ 0) :
    Set.InjOn (Nat.cast : ℕ → E) (Finset.range (d + 1)) := by
  intro i hi j hj hij
  simp only [Finset.coe_range, Set.mem_Iio] at hi hj
  by_contra hne
  rcases Nat.lt_or_gt_of_ne hne with h | h
  · exact hnodes (j - i) (by omega) (by omega) (by rw [Nat.cast_sub h.le, hij, sub_self])
  · exact hnodes (i - j) (by omega) (by omega) (by rw [Nat.cast_sub h.le, hij, sub_self])

/-- **Interpolation recovers the polynomial**: a polynomial of degree at most `d`, held by its
values at `0, …, d`, evaluates as itself everywhere. -/
theorem evaluate_eq_eval {d : ℕ} (hnodes : ∀ k, 0 < k → k ≤ d → (k : E) ≠ 0) (q : E[X])
    (hq : q.natDegree ≤ d) (t : E) :
    (⟨(List.range (d + 1)).map fun k : ℕ => q.eval (k : E)⟩ : UnivariatePolyCoef E).evaluate t =
      q.eval t := by
  rw [UnivariatePolyCoef.evaluate_eq_interpolate]
  simp only [List.length_map, List.length_range]
  have hdeg : q.degree < (Finset.range (d + 1)).card := by
    rw [Finset.card_range]
    exact (degree_le_of_natDegree_le hq).trans_lt (WithBot.coe_lt_coe.2 d.lt_succ_self)
  rw [← Lagrange.eq_interpolate_of_eval_eq _ (cast_injOn_range hnodes) hdeg fun k hk => ?_]
  rw [List.getD_eq_getElem?_getD, List.getElem?_map, List.getElem?_range (Finset.mem_range.1 hk)]
  rfl

/-- `to_poly` of the values `s(1), …, s(d)` at the claim `s(0) + s(1)` holds `s(0), …, s(d)`. -/
lemma toPoly_of_values {d : ℕ} (hd : 1 ≤ d) (s : ℕ → E) :
    (⟨(List.range d).map fun k => s (k + 1)⟩ : UnivariatePolyEvals E).toPoly (s 0 + s 1) =
      ⟨(List.range (d + 1)).map s⟩ := by
  obtain ⟨d, rfl⟩ := Nat.exists_eq_add_of_le' hd
  simp [UnivariatePolyEvals.toPoly, List.range_succ_eq_map, List.map_map, Function.comp_def]

/-! ## Composition polynomials along lines -/

/-- The arguments `a + t (b - a)`: the line through `a` (at `t = 0`) and `b` (at `t = 1`). -/
def lineThrough (a b : List E) (t : E) : List E := List.zipWith (fun x y => x + t * (y - x)) a b

/-- Along every line, `g` is a polynomial of degree at most `d` in the line's parameter. -/
def LineDegreeLE (g : List E → E) (d : ℕ) : Prop :=
  ∀ a b : List E, a.length = b.length →
    ∃ q : E[X], q.natDegree ≤ d ∧ ∀ t, g (lineThrough a b t) = q.eval t

lemma lineThrough_map {ι : Type*} (l : List ι) (a b : ι → E) (t : E) :
    lineThrough (l.map a) (l.map b) t = l.map fun i => a i + t * (b i - a i) := by
  simp [lineThrough, List.zipWith_map, List.zipWith_same]

lemma getD_lineThrough {a b : List E} (h : a.length = b.length) (t : E) (j : ℕ) :
    (lineThrough a b t).getD j 0 = a.getD j 0 + t * (b.getD j 0 - a.getD j 0) := by
  simp only [lineThrough, List.getD_eq_getElem?_getD, List.getElem?_zipWith]
  rcases lt_or_le j a.length with hj | hj
  · simp [List.getElem?_eq_getElem hj, List.getElem?_eq_getElem (h ▸ hj)]
  · simp [List.getElem?_eq_none hj, List.getElem?_eq_none (h ▸ hj)]

/-- Each monomial of total degree at most `d`, at affine arguments, has degree at most `d`. -/
lemma natDegree_eval₂_le (p : MvPolynomial ℕ E) (ℓ : ℕ → E[X]) (hℓ : ∀ j, (ℓ j).natDegree ≤ 1) :
    (MvPolynomial.eval₂ C ℓ p).natDegree ≤ p.totalDegree := by
  rw [MvPolynomial.eval₂_eq]
  refine natDegree_sum_le_of_forall_le _ _ fun m hm => ?_
  calc (C (p.coeff m) * ∏ i in m.support, ℓ i ^ m i).natDegree
      ≤ (∏ i in m.support, ℓ i ^ m i).natDegree := natDegree_C_mul_le _ _
    _ ≤ ∑ i in m.support, (ℓ i ^ m i).natDegree := natDegree_prod_le _ _
    _ ≤ ∑ i in m.support, m i := Finset.sum_le_sum fun i _ =>
        natDegree_pow_le.trans ((Nat.mul_le_mul_left _ (hℓ i)).trans (Nat.mul_one _).le)
    _ ≤ p.totalDegree := MvPolynomial.le_totalDegree hm

/-- **A total degree at most `d` bounds the degree along every line.** -/
theorem lineDegreeLE_of_totalDegree {g : List E → E} {d : ℕ} (p : MvPolynomial ℕ E)
    (hg : ∀ xs, g xs = MvPolynomial.eval (fun j => xs.getD j 0) p) (hp : p.totalDegree ≤ d) :
    LineDegreeLE g d := by
  intro a b hab
  let ℓ : ℕ → E[X] := fun j => C (b.getD j 0 - a.getD j 0) * X + C (a.getD j 0)
  refine ⟨MvPolynomial.eval₂ C ℓ p,
    (natDegree_eval₂_le p ℓ fun _ => natDegree_linear_le).trans hp, fun t => ?_⟩
  have hC : (evalRingHom t).comp C = RingHom.id E := RingHom.ext fun _ => eval_C
  rw [hg, MvPolynomial.polynomial_eval_eval₂, hC]
  change MvPolynomial.eval₂ (RingHom.id E) _ p = _
  congr 1
  funext j
  simp only [ℓ, getD_lineThrough hab, eval_add, eval_mul, eval_C, eval_X]
  ring

/-- A sum of `g` over `N` lines is a polynomial of degree at most `d`. -/
lemma LineDegreeLE.sum {g : List E → E} {d : ℕ} (hg : LineDegreeLE g d) (N : ℕ)
    (a b : ℕ → List E) (hab : ∀ m, (a m).length = (b m).length) :
    ∃ q : E[X], q.natDegree ≤ d ∧
      ∀ t, ∑ m in Finset.range N, g (lineThrough (a m) (b m) t) = q.eval t := by
  choose q hq using fun m => hg (a m) (b m) (hab m)
  exact ⟨∑ m in Finset.range N, q m, natDegree_sum_le_of_forall_le _ _ fun m _ => (hq m).1,
    fun t => by simp only [eval_finset_sum, (hq _).2]⟩

end MidenVm.VirtualBus
