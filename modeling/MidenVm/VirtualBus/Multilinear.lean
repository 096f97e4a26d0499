import Mathlib.Algebra.BigOperators.Intervals
import Mathlib.Algebra.EuclideanDomain.Field
import Mathlib.Tactic.Ring

/-!
# Multilinear polynomials over the hypercube

The sum-check prover of the virtual bus (`trace/virtual_bus/sum_check`) holds each multilinear
polynomial `f` in `ν` variables as its table of `2^ν` values over the hypercube, variable `k`
being bit `k` of the index, and fixes the variables one at a time, lowest first, by
`MultiLinearPoly::bind`. This module models the table and `bind`, gives the polynomial the table
stands for (`mle`), and proves that binding is evaluation:

* `mle_bits`: on the hypercube the polynomial is the table;
* `mle_succ`: the polynomial at `(r, x)` is the bound table's polynomial at `x`;
* `mle_prepend`: fixing the lowest variables to `r_0, …, r_{i-1}` one at a time is evaluating there;
* `sum_range_two_mul`: a sum over the hypercube in `n + 1` variables splits on the lowest bit.
-/

namespace MidenVm.VirtualBus

open scoped BigOperators

variable {E : Type*} [Field E]

/-- Modelled from the spec: `MultiLinearPoly`, the values of a multilinear polynomial in
`numVariables` variables over the hypercube; variable `k` is bit `k` of the index. -/
structure MultiLinearPoly (E : Type*) where
  numVariables : ℕ
  evaluations : List E
  length_evaluations : evaluations.length = 2 ^ numVariables

/-- The table fixed at `r` in its lowest variable: `f'[i] = f[2i] + r (f[2i + 1] - f[2i])`. -/
def bindFn (f : ℕ → E) (r : E) (i : ℕ) : E := f (2 * i) + r * (f (2 * i + 1) - f (2 * i))

namespace MultiLinearPoly

def value (ml : MultiLinearPoly E) (i : ℕ) : E := ml.evaluations.getD i 0

/-- The loop of `bind`: the table with its lowest variable fixed to `r`, in
`num_variables - 1` variables. -/
def fixLowest (ml : MultiLinearPoly E) (r : E) : MultiLinearPoly E :=
  ⟨ml.numVariables - 1, (List.range (2 ^ (ml.numVariables - 1))).map (bindFn ml.value r), by simp⟩

/-- Modelled from the spec: `MultiLinearPoly::bind`, which fixes the lowest variable to `r`;
`num_variables - 1` underflows, and panics, when no variable is left. -/
def bind (ml : MultiLinearPoly E) (r : E) : Option (MultiLinearPoly E) :=
  if ml.numVariables = 0 then none else some (ml.fixLowest r)

/-- The table after fixing its lowest variables to `r_0, r_1, …` in turn. -/
def fixAll (ml : MultiLinearPoly E) (rs : List E) : MultiLinearPoly E := rs.foldl fixLowest ml

@[simp] lemma numVariables_fixLowest (ml : MultiLinearPoly E) (r : E) :
    (ml.fixLowest r).numVariables = ml.numVariables - 1 := rfl

lemma value_fixLowest (ml : MultiLinearPoly E) (r : E) {i : ℕ}
    (hi : i < 2 ^ (ml.numVariables - 1)) : (ml.fixLowest r).value i = bindFn ml.value r i := by
  simp only [fixLowest, value, List.getD_eq_getElem?_getD, List.getElem?_map,
    List.getElem?_range hi, Option.map_some', Option.getD_some]

lemma bind_eq_some {ml : MultiLinearPoly E} (h : 0 < ml.numVariables) (r : E) :
    ml.bind r = some (ml.fixLowest r) := by
  simp [bind, h.ne']

lemma bind_eq_none {ml : MultiLinearPoly E} {r : E} : ml.bind r = none ↔ ml.numVariables = 0 := by
  simp [bind]

lemma fixAll_append (ml : MultiLinearPoly E) (rs : List E) (r : E) :
    ml.fixAll (rs ++ [r]) = (ml.fixAll rs).fixLowest r := by
  simp [fixAll, List.foldl_append]

@[simp] lemma numVariables_fixAll : ∀ (ml : MultiLinearPoly E) (rs : List E),
    (ml.fixAll rs).numVariables = ml.numVariables - rs.length
  | _, [] => rfl
  | ml, r :: rs => by
    rw [List.length_cons, ← Nat.sub_sub, Nat.sub_right_comm, ← numVariables_fixLowest ml r]
    exact numVariables_fixAll (ml.fixLowest r) rs

end MultiLinearPoly

/-! ## The polynomial a table stands for -/

/-- The multilinear polynomial in `n` variables whose values over the hypercube are the table
`f`, at the point `x`: variable `0` is the lowest bit of the index. -/
def mle (f : ℕ → E) : ℕ → (ℕ → E) → E
  | 0, _ => f 0
  | n + 1, x =>
    (1 - x 0) * mle (fun i => f (2 * i)) n (fun k => x (k + 1)) +
      x 0 * mle (fun i => f (2 * i + 1)) n (fun k => x (k + 1))

/-- The point `(r, x_0, x_1, ...)`. -/
def consPoint {α : Type*} (r : α) (x : ℕ → α) : ℕ → α
  | 0 => r
  | k + 1 => x k

def bit (m k : ℕ) : E := ((m / 2 ^ k % 2 : ℕ) : E)

lemma mle_linear (a b : E) : ∀ (n : ℕ) (f g : ℕ → E) (x : ℕ → E),
    mle (fun i => a * f i + b * g i) n x = a * mle f n x + b * mle g n x
  | 0, _, _, _ => rfl
  | n + 1, f, g, x => by
    simp only [mle, mle_linear a b n]
    ring

lemma mle_congr : ∀ {n : ℕ} {f g : ℕ → E}, (∀ i < 2 ^ n, f i = g i) → ∀ x, mle f n x = mle g n x
  | 0, _, _, h, _ => h 0 (by norm_num)
  | n + 1, _, _, h, x => by
    simp only [mle]
    rw [mle_congr (fun i hi => h _ (by rw [pow_succ]; omega)),
      mle_congr (fun i hi => h _ (by rw [pow_succ]; omega))]

/-- **Binding is evaluation**: the polynomial at `(r, x)` is the bound table's polynomial at `x`. -/
lemma mle_succ (f : ℕ → E) (n : ℕ) (r : E) (x : ℕ → E) :
    mle f (n + 1) (consPoint r x) = mle (bindFn f r) n x := by
  have h := mle_linear (1 - r) r n (fun i => f (2 * i)) (fun i => f (2 * i + 1)) x
  simp only [mle, consPoint]
  rw [← h]
  congr 1
  funext i
  simp only [bindFn]
  ring

lemma bit_succ (m k : ℕ) : (bit m (k + 1) : E) = bit (m / 2) k := by
  simp only [bit, pow_succ', Nat.div_div_eq_div_mul]

lemma mle_bits : ∀ (n : ℕ) (f : ℕ → E) {m : ℕ}, m < 2 ^ n → mle f n (bit m) = f m
  | 0, f, m, hm => by
    rw [pow_zero, Nat.lt_one_iff] at hm
    subst hm
    rfl
  | n + 1, f, m, hm => by
    have hm2 : m / 2 < 2 ^ n := by rw [pow_succ] at hm; omega
    simp only [mle, bit_succ]
    rw [mle_bits n _ hm2, mle_bits n _ hm2]
    simp only [bit, pow_zero, Nat.div_one]
    rcases Nat.mod_two_eq_zero_or_one m with h | h
    · rw [h, Nat.cast_zero, sub_zero, one_mul, zero_mul, add_zero]
      congr 1
      omega
    · rw [h, Nat.cast_one, sub_self, zero_mul, zero_add, one_mul]
      congr 1
      omega

/-! ## Binding several variables -/

/-- The table after binding its lowest variables to `r_0, r_1, …` in turn. -/
def bindAll (f : ℕ → E) (rs : List E) : ℕ → E := rs.foldl bindFn f

/-- The point `(r_0, …, r_{i-1}, x_0, x_1, …)`. -/
def prependPoint {α : Type*} (rs : List α) (x : ℕ → α) : ℕ → α := rs.foldr consPoint x

@[simp] lemma bindAll_nil (f : ℕ → E) : bindAll f [] = f := rfl

lemma bindAll_append (f : ℕ → E) (rs : List E) (r : E) :
    bindAll f (rs ++ [r]) = bindFn (bindAll f rs) r := by
  simp [bindAll, List.foldl_append]

section Points

variable {α : Type*}

@[simp] lemma prependPoint_nil (x : ℕ → α) : prependPoint [] x = x := rfl

lemma prependPoint_append (rs : List α) (r : α) (x : ℕ → α) :
    prependPoint (rs ++ [r]) x = prependPoint rs (consPoint r x) := by
  simp [prependPoint, List.foldr_append]

lemma prependPoint_eq_getD [Zero α] : ∀ (rs : List α) (x : ℕ → α) {k : ℕ}, k < rs.length →
    prependPoint rs x k = rs.getD k 0
  | [], _, _, h => absurd h (Nat.not_lt_zero _)
  | _ :: _, _, 0, _ => rfl
  | _ :: rs, x, _ + 1, h =>
    prependPoint_eq_getD rs x (Nat.lt_of_succ_lt_succ h)

end Points

/-- **Binding is evaluation**, over several rounds. -/
lemma mle_prepend : ∀ (f : ℕ → E) (rs : List E) (n : ℕ) (x : ℕ → E),
    mle f (rs.length + n) (prependPoint rs x) = mle (bindAll f rs) n x
  | _, [], _, _ => by rw [List.length_nil, Nat.zero_add]; rfl
  | f, r :: rs, n, x => by
    rw [List.length_cons, Nat.add_right_comm]
    exact (mle_succ f _ r _).trans (mle_prepend (bindFn f r) rs n x)

lemma mle_congr_point : ∀ {n : ℕ} (f : ℕ → E) {x y : ℕ → E}, (∀ k < n, x k = y k) →
    mle f n x = mle f n y
  | 0, _, _, _, _ => rfl
  | n + 1, f, x, y, h => by
    simp only [mle, h 0 n.succ_pos,
      mle_congr_point _ fun k hk => h (k + 1) (Nat.succ_lt_succ hk)]

lemma mle_consPoint (f : ℕ → E) (n : ℕ) (t : E) (x : ℕ → E) :
    mle f (n + 1) (consPoint t x) =
      mle f (n + 1) (consPoint 0 x) +
        t * (mle f (n + 1) (consPoint 1 x) - mle f (n + 1) (consPoint 0 x)) := by
  simp only [mle, consPoint]
  ring

lemma mle_prepend_consPoint (f : ℕ → E) (n : ℕ) (rs : List E) (t : E) (x : ℕ → E) :
    mle f n (prependPoint rs (consPoint t x)) = mle f n (prependPoint rs (consPoint 0 x)) +
      t * (mle f n (prependPoint rs (consPoint 1 x)) -
        mle f n (prependPoint rs (consPoint 0 x))) := by
  rcases le_or_lt n rs.length with h | h
  · have key : ∀ s s' : E, mle f n (prependPoint rs (consPoint s x)) =
        mle f n (prependPoint rs (consPoint s' x)) := fun s s' =>
      mle_congr_point _ fun k hk => by
        rw [prependPoint_eq_getD _ _ (by omega), prependPoint_eq_getD _ _ (by omega)]
    rw [key t 0, key 1 0, sub_self, mul_zero, add_zero]
  · obtain ⟨m, rfl⟩ := Nat.exists_eq_add_of_lt h
    simp only [Nat.add_assoc, mle_prepend]
    exact mle_consPoint _ _ _ _

lemma consPoint_bit_zero (m : ℕ) : consPoint (0 : E) (bit m) = bit (2 * m) := by
  funext k
  cases k with
  | zero => simp [consPoint, bit]
  | succ k => rw [bit_succ, Nat.mul_div_cancel_left m two_pos]; rfl

lemma consPoint_bit_one (m : ℕ) : consPoint (1 : E) (bit m) = bit (2 * m + 1) := by
  funext k
  cases k with
  | zero => simp [consPoint, bit, Nat.add_mod]
  | succ k => rw [bit_succ, show (2 * m + 1) / 2 = m by omega]; rfl

/-- **Fixing the lowest variables is evaluating there**: the table with its lowest variables
fixed to `rs` stands for the polynomial at `(rs, x)`. -/
lemma mle_fixAll : ∀ (rs : List E) (ml : MultiLinearPoly E), rs.length ≤ ml.numVariables →
    ∀ x, mle (ml.fixAll rs).value (ml.numVariables - rs.length) x =
      mle ml.value ml.numVariables (prependPoint rs x)
  | [], _, _, _ => rfl
  | r :: rs, ml, h, x => by
    rw [List.length_cons] at h ⊢
    have hn : ml.numVariables = ml.numVariables - 1 + 1 := by omega
    rw [Nat.sub_add_eq, Nat.sub_right_comm, ← MultiLinearPoly.numVariables_fixLowest ml r]
    refine (mle_fixAll rs (ml.fixLowest r) (by simp; omega) x).trans ?_
    rw [MultiLinearPoly.numVariables_fixLowest,
      mle_congr (fun i hi => MultiLinearPoly.value_fixLowest ml r hi), ← mle_succ, ← hn]
    rfl

lemma value_fixAll_of_length {ml : MultiLinearPoly E} {rs : List E}
    (h : rs.length = ml.numVariables) :
    (ml.fixAll rs).value 0 = mle ml.value ml.numVariables fun k => rs.getD k 0 :=
  calc (ml.fixAll rs).value 0
      = mle (ml.fixAll rs).value (ml.numVariables - rs.length) fun _ => 0 := by
        rw [← h, Nat.sub_self]
        rfl
    _ = mle ml.value ml.numVariables (prependPoint rs fun _ => 0) := mle_fixAll rs ml h.le _
    _ = mle ml.value ml.numVariables fun k => rs.getD k 0 :=
        mle_congr_point _ fun k hk => prependPoint_eq_getD rs _ (h ▸ hk)

lemma sum_range_two_mul {M : Type*} [AddCommMonoid M] (h : ℕ → M) :
    ∀ N, ∑ x in Finset.range (2 * N), h x = ∑ m in Finset.range N, (h (2 * m) + h (2 * m + 1))
  | 0 => rfl
  | N + 1 => by
    rw [show 2 * (N + 1) = 2 * N + 1 + 1 by ring, Finset.sum_range_succ, Finset.sum_range_succ,
      sum_range_two_mul h N, Finset.sum_range_succ, add_assoc]

end MidenVm.VirtualBus
