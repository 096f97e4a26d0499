import MidenVm.VirtualBus.Multilinear
import MidenVm.VirtualBus.Univariate

/-!
# The sum-check protocol

The protocol of the description of `SumCheckProver`, for `ν` variables, multilinear polynomials
`f_0, …, f_{c-1}` and a composition polynomial `g`: round `i` sends `s_i`, the verifier checks
`s_0(0) + s_0(1) = v` and `s_i(0) + s_i(1) = s_{i-1}(r_{i-1})`, and at the end
`s_{ν-1}(r_{ν-1}) = g(u)` with `u_j = f_j(r_0, …, r_{ν-1})` (`VerifierAccepts`).

This module gives the types of a proof, the verifier's checks, and the honest round polynomials
`partialSum`, `X ↦ Σ_x g(f(r_0, …, r_{i-1}, X, x))`, and proves that the honest polynomials pass
every check (`honest_accepts`). The prover's refinement of them is `Completeness`.
-/

namespace MidenVm.VirtualBus

open Finset Polynomial

variable {E : Type*} [Field E]

/-- Modelled from the spec: `RoundProof`, the round polynomial of one round. -/
structure RoundProof (E : Type*) where
  roundPolyCoefs : UnivariatePolyCoef E

/-- Modelled from the spec: `RoundClaim`, the challenges so far and the current claim. -/
structure RoundClaim (E : Type*) where
  evalPoint : List E
  claim : E

/-- Modelled from the spec: `reduce_claim`, which appends the challenge to the evaluation point
and evaluates the round polynomial at it. -/
def reduceClaim (currentProof : RoundProof E) (currentRoundClaim : RoundClaim E)
    (roundChallenge : E) : RoundClaim E :=
  ⟨currentRoundClaim.evalPoint ++ [roundChallenge],
    currentProof.roundPolyCoefs.evaluate roundChallenge⟩

/-- Modelled from the spec: `FinalOpeningClaim`, the point `r` and the openings `f_j(r)`. -/
structure FinalOpeningClaim (E : Type*) where
  evalPoint : List E
  openings : List E

/-- Modelled from the spec: `Proof`. -/
structure Proof (E : Type*) where
  openingsClaim : FinalOpeningClaim E
  roundProofs : List (RoundProof E)

namespace Proof

/-- The round polynomial `s_i` of the proof, at `t`. -/
def roundPoly (proof : Proof E) (i : ℕ) (t : E) : E :=
  match proof.roundProofs[i]? with
  | some roundProof => roundProof.roundPolyCoefs.evaluate t
  | none => 0

/-- The challenge `r_i`, read off the final evaluation point. -/
def challenge (proof : Proof E) (i : ℕ) : E := proof.openingsClaim.evalPoint.getD i 0

end Proof

/-- The verifier of the description of `SumCheckProver` (its steps 2, 4.b and 5), for `ν` rounds,
the composition polynomial `g` and the claimed sum `v`. -/
structure VerifierAccepts (g : CompositionPolynomial E) (ν : ℕ) (v : E) (proof : Proof E) :
    Prop where
  length_roundProofs : proof.roundProofs.length = ν
  length_evalPoint : proof.openingsClaim.evalPoint.length = ν
  first : proof.roundPoly 0 0 + proof.roundPoly 0 1 = v
  next : ∀ i, 1 ≤ i → i < ν →
    proof.roundPoly i 0 + proof.roundPoly i 1 = proof.roundPoly (i - 1) (proof.challenge (i - 1))
  last : proof.roundPoly (ν - 1) (proof.challenge (ν - 1)) =
    g.evaluate proof.openingsClaim.openings

/-! ## The honest round polynomials -/

section Honest

variable (g : CompositionPolynomial E) (fs : List (MultiLinearPoly E)) (ν : ℕ)

/-- The sum `Σ_{x ∈ {0,1}^ν} g(f_0(x), …, f_{c-1}(x))` over the tables. -/
def hypercubeSum : E := ∑ x in range (2 ^ ν), g.evaluate (fs.map fun f => f.value x)

/-- `Σ_x g(f(r_0, …, r_{i-1}, x))`: the claim after the challenges `rs`. -/
def fullSum (rs : List E) : E :=
  ∑ m in range (2 ^ (ν - rs.length)),
    g.evaluate (fs.map fun f => mle f.value ν (prependPoint rs (bit m)))

/-- The partial-sum polynomial `X ↦ Σ_x g(f(r_0, …, r_{i-1}, X, x))` of the round after the
challenges `rs`, at `t`. -/
def partialSum (rs : List E) (t : E) : E :=
  ∑ m in range (2 ^ (ν - rs.length - 1)),
    g.evaluate (fs.map fun f => mle f.value ν (prependPoint rs (consPoint t (bit m))))

lemma fullSum_nil : fullSum g fs ν [] = hypercubeSum g fs ν :=
  sum_congr rfl fun m hm => by
    simp only [prependPoint_nil, mle_bits _ _ (mem_range.1 hm)]

/-- The round polynomial sums to the claim over `{0, 1}`. -/
lemma partialSum_zero_add_one {rs : List E} (h : rs.length < ν) :
    partialSum g fs ν rs 0 + partialSum g fs ν rs 1 = fullSum g fs ν rs := by
  have hpow : 2 ^ (ν - rs.length) = 2 * 2 ^ (ν - rs.length - 1) := by
    rw [← pow_succ']
    congr 1
    omega
  rw [partialSum, partialSum, ← sum_add_distrib, fullSum, hpow, sum_range_two_mul]
  simp only [consPoint_bit_zero, consPoint_bit_one]

lemma partialSum_eq_fullSum_append (rs : List E) (r : E) :
    partialSum g fs ν rs r = fullSum g fs ν (rs ++ [r]) := by
  simp only [partialSum, fullSum, prependPoint_append, List.length_append, List.length_singleton,
    Nat.sub_add_eq]

/-- After all `ν` challenges the claim is `g(u)`, with `u_j = f_j(r_0, …, r_{ν-1})`. -/
lemma fullSum_of_length {rs : List E} (h : rs.length = ν) :
    fullSum g fs ν rs = g.evaluate (fs.map fun f => mle f.value ν fun k => rs.getD k 0) := by
  simp only [fullSum, h, Nat.sub_self, pow_zero, sum_range_one]
  congr 1
  exact List.map_congr_left fun f _ =>
    mle_congr_point _ fun k hk => prependPoint_eq_getD rs _ (h ▸ hk)

/-- The round polynomial has degree at most `d` when `g` has along every line. -/
lemma partialSum_poly {d : ℕ} (hg : LineDegreeLE g.evaluate d) (rs : List E) :
    ∃ q : E[X], q.natDegree ≤ d ∧ ∀ t, partialSum g fs ν rs t = q.eval t := by
  let at_ (s : E) (m : ℕ) := fs.map fun f => mle f.value ν (prependPoint rs (consPoint s (bit m)))
  obtain ⟨q, hq, heval⟩ := hg.sum (2 ^ (ν - rs.length - 1)) (at_ 0) (at_ 1) (by simp [at_])
  refine ⟨q, hq, fun t => ?_⟩
  rw [partialSum, ← heval]
  refine sum_congr rfl fun m _ => ?_
  rw [lineThrough_map]
  exact congrArg g.evaluate (List.map_congr_left fun f _ => mle_prepend_consPoint _ _ _ _ _)

lemma take_succ_getD (l : List E) {i : ℕ} (h : i < l.length) :
    l.take (i + 1) = l.take i ++ [l.getD i 0] := by
  rw [List.take_succ, List.getElem?_eq_getElem h, List.getD_eq_getElem _ _ h]
  rfl

/-- **Honest round polynomials pass every check of the verifier**: a proof whose round `i`
polynomial is the partial sum after its first `i` challenges, and whose openings are the
polynomials at its challenges, is accepted for the claim `Σ_x g(f(x))`. -/
theorem honest_accepts (hν : 1 ≤ ν) (proof : Proof E) (hlen : proof.roundProofs.length = ν)
    (hpt : proof.openingsClaim.evalPoint.length = ν)
    (hround : ∀ i < ν, ∀ t,
      proof.roundPoly i t = partialSum g fs ν (proof.openingsClaim.evalPoint.take i) t)
    (hopen : proof.openingsClaim.openings =
      fs.map fun f => mle f.value ν fun k => proof.challenge k) :
    VerifierAccepts g ν (hypercubeSum g fs ν) proof := by
  set rs := proof.openingsClaim.evalPoint
  -- the claim after the first `i + 1` challenges
  have hclaim : ∀ i, i < ν →
      proof.roundPoly i (proof.challenge i) = fullSum g fs ν (rs.take (i + 1)) := fun i hi => by
      rw [hround i hi, partialSum_eq_fullSum_append, take_succ_getD rs (hpt ▸ hi)]
      rfl
  refine ⟨hlen, hpt, ?_, fun i hi1 hi => ?_, ?_⟩
  · rw [hround 0 hν, hround 0 hν, List.take_zero, partialSum_zero_add_one _ _ _ (by simpa),
      fullSum_nil]
  · rw [hround i hi, hround i hi, partialSum_zero_add_one _ _ _ (by simp; omega),
      hclaim (i - 1) (by omega), Nat.sub_add_cancel hi1]
  · rw [hclaim (ν - 1) (by omega), Nat.sub_add_cancel hν, List.take_of_length_le hpt.le,
      fullSum_of_length _ _ _ hpt, hopen]
    rfl

end Honest

end MidenVm.VirtualBus
