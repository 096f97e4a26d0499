import Mathlib.Data.List.Sort

/-!
# Decorators and their iterator

A span block carries a `DecoratorList`: pairs of the position of an operation within the block
and a decorator to execute before that operation (`core/src/operations/decorators/mod.rs`). The
`DecoratorIterator` walks the list with an index: `next_filtered(pos)` yields the next decorator
only when it sits at `pos`, and `next()` yields it whatever its position. The iterator never
looks inside a decorator, so the decorator type is a parameter `D`.

Before operation `p = 0, 1, …, n - 1` of a span, its executor asks `next_filtered(p)` for
decorators until there are none, and after the span it drains the rest with `next()`
(`runDecorators`).

* `drainFiltered_eq`, `drain_eq`: the two loops take from the front of the unread suffix the
  decorators at `pos`, and all of it;
* `foldl_execOp`: after the operations before `p`, the decorators at positions below `p` have
  been yielded, each at its own position;
* `decorators_yielded_once_in_order`: on a list whose positions never decrease, the run yields
  every decorator once and in list order, those at positions `p < n` from `next_filtered(p)`
  and the others from `next()`.
-/

namespace MidenVm.Core

variable {D : Type}

/-- `DecoratorList`: the position of an operation within a span block, and a decorator to
execute at it. -/
abbrev DecoratorList (D : Type) := List (ℕ × D)

/-- `DecoratorIterator`: the list and the index of the next decorator. -/
structure DecoratorIterator (D : Type) where
  decorators : DecoratorList D
  idx : ℕ

namespace DecoratorIterator

def new (decorators : DecoratorList D) : DecoratorIterator D := ⟨decorators, 0⟩

def advance (it : DecoratorIterator D) : DecoratorIterator D := ⟨it.decorators, it.idx + 1⟩

/-- `next_filtered(pos)`: when `idx < len` and `decorators[idx].0 == pos`, the decorator at
`idx`, and the iterator past it; otherwise `None`, and the iterator unchanged. -/
def nextFiltered (it : DecoratorIterator D) (pos : ℕ) : Option D × DecoratorIterator D :=
  match it.decorators[it.idx]? with
  | some (p, d) => if p = pos then (some d, it.advance) else (none, it)
  | none => (none, it)

/-- `Iterator::next`: when `idx < len`, the decorator at `idx`, and the iterator past it. -/
def next (it : DecoratorIterator D) : Option D × DecoratorIterator D :=
  match it.decorators[it.idx]? with
  | some (_, d) => (some d, it.advance)
  | none => (none, it)

lemma nextFiltered_eq_some {it it' : DecoratorIterator D} {pos : ℕ} {d : D}
    (h : it.nextFiltered pos = (some d, it')) :
    it' = it.advance ∧ it.idx < it.decorators.length := by
  unfold nextFiltered at h
  split at h
  · rename_i hx
    split_ifs at h
    · exact ⟨(Prod.mk.inj h).2.symm, (List.getElem?_eq_some_iff.1 hx).1⟩
    · simp at h
  · simp at h

lemma next_eq_some {it it' : DecoratorIterator D} {d : D} (h : it.next = (some d, it')) :
    it' = it.advance ∧ it.idx < it.decorators.length := by
  unfold next at h
  split at h
  · rename_i hx
    exact ⟨(Prod.mk.inj h).2.symm, (List.getElem?_eq_some_iff.1 hx).1⟩
  · simp at h

/-- `while let Some(decorator) = it.next_filtered(pos)`: the decorators yielded, and the iterator
after the call that returned `None`. -/
def drainFiltered (it : DecoratorIterator D) (pos : ℕ) : List D × DecoratorIterator D :=
  match h : it.nextFiltered pos with
  | (some d, it') =>
    let r := it'.drainFiltered pos
    (d :: r.1, r.2)
  | (none, it') => ([], it')
termination_by it.decorators.length - it.idx
decreasing_by
  obtain ⟨rfl, hlt⟩ := nextFiltered_eq_some h
  simp only [advance]
  omega

/-- `for decorator in it`: the decorators `next()` yields until it returns `None`. -/
def drain (it : DecoratorIterator D) : List D :=
  match h : it.next with
  | (some d, it') => d :: it'.drain
  | (none, _) => []
termination_by it.decorators.length - it.idx
decreasing_by
  obtain ⟨rfl, hlt⟩ := next_eq_some h
  simp only [advance]
  omega

/-! ### The unread suffix -/

def rest (it : DecoratorIterator D) : DecoratorList D := it.decorators.drop it.idx

lemma getElem?_idx_of_rest_nil {it : DecoratorIterator D} (h : it.rest = []) :
    it.decorators[it.idx]? = none := by
  rw [← List.head?_drop, ← rest, h, List.head?_nil]

lemma getElem?_idx_of_rest_cons {it : DecoratorIterator D} {x : ℕ × D} {l : DecoratorList D}
    (h : it.rest = x :: l) : it.decorators[it.idx]? = some x := by
  rw [← List.head?_drop, ← rest, h, List.head?_cons]

lemma rest_advance_of_rest_cons {it : DecoratorIterator D} {x : ℕ × D} {l : DecoratorList D}
    (h : it.rest = x :: l) : it.advance.rest = l := by
  rw [rest, advance, ← List.tail_drop, ← rest, h, List.tail_cons]

section Suffix

variable {it : DecoratorIterator D} {q : ℕ} {e : D} {l : DecoratorList D}

lemma nextFiltered_of_rest_nil (h : it.rest = []) (pos : ℕ) : it.nextFiltered pos = (none, it) := by
  rw [nextFiltered, getElem?_idx_of_rest_nil h]

lemma nextFiltered_of_rest_cons (h : it.rest = (q, e) :: l) (pos : ℕ) :
    it.nextFiltered pos = if q = pos then (some e, it.advance) else (none, it) := by
  rw [nextFiltered, getElem?_idx_of_rest_cons h]

lemma next_of_rest_nil (h : it.rest = []) : it.next = (none, it) := by
  rw [next, getElem?_idx_of_rest_nil h]

lemma next_of_rest_cons (h : it.rest = (q, e) :: l) : it.next = (some e, it.advance) := by
  rw [next, getElem?_idx_of_rest_cons h]

end Suffix

/-- **`next_filtered(pos)` until `None`** yields the decorators at `pos` at the front of the
unread suffix, and leaves the iterator past them. -/
lemma drainFiltered_eq (pos : ℕ) : ∀ (l : DecoratorList D) (it : DecoratorIterator D),
    it.rest = l → it.drainFiltered pos = ((l.takeWhile (·.1 = pos)).map Prod.snd,
      ⟨it.decorators, it.idx + (l.takeWhile (·.1 = pos)).length⟩)
  | [], it, h => by
    rw [drainFiltered]
    split <;> rename_i hnf <;> rw [nextFiltered_of_rest_nil h] at hnf
    · simp at hnf
    · obtain rfl : it = _ := (Prod.mk.inj hnf).2
      rfl
  | (q, e) :: l, it, h => by
    rw [drainFiltered]
    split <;> rename_i hnf <;> rw [nextFiltered_of_rest_cons h] at hnf <;>
      by_cases hq : q = pos <;> simp only [hq, if_true, if_false, Prod.mk.injEq,
        Option.some.injEq, reduceCtorEq, false_and, true_and] at hnf
    · -- the decorator is at `pos`: it is yielded, and the loop goes on past it
      obtain ⟨rfl, rfl⟩ := hnf
      rw [drainFiltered_eq pos l it.advance (rest_advance_of_rest_cons h),
        List.takeWhile_cons_of_pos (by simpa using hq)]
      simp only [advance, List.map_cons, List.length_cons]
      rw [Nat.add_right_comm, Nat.add_assoc]
    · -- it is not: the loop stops
      subst hnf
      rw [List.takeWhile_cons_of_neg (by simpa using hq)]
      rfl

/-- **`next()` until `None`** yields the whole unread suffix. -/
lemma drain_eq : ∀ (l : DecoratorList D) (it : DecoratorIterator D),
    it.rest = l → it.drain = l.map Prod.snd
  | [], it, h => by
    rw [drain]
    split <;> rename_i hn
    · rw [next_of_rest_nil h] at hn
      simp at hn
    · rfl
  | (q, e) :: l, it, h => by
    rw [drain]
    split <;> rename_i hn
    · rw [next_of_rest_cons h, Prod.mk.injEq, Option.some.injEq] at hn
      obtain ⟨rfl, rfl⟩ := hn
      rw [drain_eq l it.advance (rest_advance_of_rest_cons h), List.map_cons]
    · rw [next_of_rest_cons h] at hn
      simp at hn

end DecoratorIterator

open DecoratorIterator

/-! ### A span's run -/

/-- Modelled from the spec: the executor before operation `pos`, which calls
`next_filtered(pos)` until `None` and tags each decorator it yields with `pos`. -/
def execOp (st : List (Option ℕ × D) × DecoratorIterator D) (pos : ℕ) :
    List (Option ℕ × D) × DecoratorIterator D :=
  let r := st.2.drainFiltered pos
  (st.1 ++ r.1.map fun d => (some pos, d), r.2)

/-- Modelled from the spec: the decorators of a span of `n` operations, in the order they are
executed, each tagged with the position of the `next_filtered` call that yielded it, or `none`
when the `next()` drain after the last operation did. -/
def runDecorators (decorators : DecoratorList D) (n : ℕ) : List (Option ℕ × D) :=
  let st := (List.range n).foldl execOp ([], DecoratorIterator.new decorators)
  st.1 ++ st.2.drain.map fun d => (none, d)

section TakeWhile

variable {α : Type} {P Q : α → Bool}

lemma takeWhile_congr_of_mem : ∀ {l : List α}, (∀ x ∈ l, P x = Q x) →
    l.takeWhile P = l.takeWhile Q
  | [], _ => rfl
  | x :: l, h => by
    rw [List.takeWhile_cons, List.takeWhile_cons, h x (List.mem_cons_self _ _),
      takeWhile_congr_of_mem fun y hy => h y (List.mem_cons_of_mem _ hy)]

/-- For a predicate `Q` weaker than `P`, taking while `Q` is taking while `P`, and then while
`Q` from where `P` stopped. -/
lemma takeWhile_append_takeWhile_dropWhile (hPQ : ∀ x, P x → Q x) : ∀ l : List α,
    l.takeWhile P ++ (l.dropWhile P).takeWhile Q = l.takeWhile Q ∧
      (l.dropWhile P).dropWhile Q = l.dropWhile Q
  | [] => ⟨rfl, rfl⟩
  | x :: l => by
    by_cases hx : P x
    · rw [List.takeWhile_cons_of_pos hx, List.dropWhile_cons_of_pos hx,
        List.takeWhile_cons_of_pos (hPQ x hx), List.dropWhile_cons_of_pos (hPQ x hx),
        List.cons_append]
      exact (takeWhile_append_takeWhile_dropWhile hPQ l).imp (congrArg _) id
    · rw [List.takeWhile_cons_of_neg hx, List.dropWhile_cons_of_neg hx]
      exact ⟨rfl, rfl⟩

lemma drop_length_takeWhile (P : α → Bool) (l : List α) :
    l.drop (l.takeWhile P).length = l.dropWhile P := by
  have := List.drop_left (l.takeWhile P) (l.dropWhile P)
  rwa [List.takeWhile_append_dropWhile] at this

end TakeWhile

/-- On a list whose positions never decrease, the decorators left once those below `p` are
dropped sit at `p` or later. -/
lemma le_of_mem_dropWhile {l : DecoratorList D} (hs : l.Pairwise fun a b => a.1 ≤ b.1)
    (p : ℕ) : ∀ x ∈ l.dropWhile (·.1 < p), p ≤ x.1 := by
  induction l with
  | nil => simp
  | cons y l ih =>
    rw [List.pairwise_cons] at hs
    by_cases hy : y.1 < p
    · rw [List.dropWhile_cons_of_pos (by simpa using hy)]
      exact ih hs.2
    · rw [List.dropWhile_cons_of_neg (by simpa using hy)]
      rintro x (_ | ⟨_, hx⟩)
      · omega
      · exact (Nat.not_lt.1 hy).trans (hs.1 x hx)

/-- **The run's invariant**: after the operations before `p`, the decorators at positions below
`p` have been yielded, each tagged with its own position, and the iterator stands at the first
decorator at `p` or later. -/
lemma foldl_execOp {l : DecoratorList D} (hs : l.Pairwise fun a b => a.1 ≤ b.1) : ∀ p,
    (List.range p).foldl execOp ([], DecoratorIterator.new l) =
      ((l.takeWhile (·.1 < p)).map fun x => (some x.1, x.2),
        ⟨l, (l.takeWhile (·.1 < p)).length⟩)
  | 0 => by cases l <;> simp [DecoratorIterator.new]
  | p + 1 => by
    -- the decorators at `p` are the front of the suffix from `p` on
    have hr : (l.dropWhile (·.1 < p)).takeWhile (·.1 = p) =
        (l.dropWhile (·.1 < p)).takeWhile (·.1 < p + 1) :=
      takeWhile_congr_of_mem fun x hx => by
        have := le_of_mem_dropWhile hs p x hx
        simp only [decide_eq_decide]
        omega
    have htag : ((((l.dropWhile (·.1 < p)).takeWhile (·.1 = p)).map Prod.snd).map
        fun d => (some p, d)) =
          ((l.dropWhile (·.1 < p)).takeWhile (·.1 = p)).map fun x => (some x.1, x.2) := by
      rw [List.map_map]
      refine List.map_congr_left fun x hx => ?_
      have hx : x.1 = p := by simpa using List.mem_takeWhile_imp hx
      simp [hx]
    obtain ⟨htake, -⟩ := takeWhile_append_takeWhile_dropWhile
      (P := fun x : ℕ × D => x.1 < p) (Q := fun x => x.1 < p + 1)
      (fun x hx => by simp only [decide_eq_true_eq] at hx ⊢; omega) l
    rw [List.range_succ, List.foldl_append, foldl_execOp hs p, List.foldl_cons, List.foldl_nil,
      execOp, drainFiltered_eq p _ ⟨l, _⟩ (drop_length_takeWhile _ l)]
    dsimp only
    rw [htag, hr, ← List.map_append, ← List.length_append, htake]

/-- **Every decorator is executed once, in order, at its own operation.** On a list whose
positions never decrease, the run over `n` operations yields every decorator of the list
exactly once and in list order; a decorator at position `p < n` is yielded by the
`next_filtered(p)` calls before operation `p`, and one at a position `p ≥ n` by the final
`next()` drain. -/
theorem decorators_yielded_once_in_order (decorators : DecoratorList D)
    (hsorted : (decorators.map Prod.fst).Sorted (· ≤ ·)) (n : ℕ) :
    runDecorators decorators n =
      decorators.map fun x => (if x.1 < n then some x.1 else none, x.2) := by
  have hs : decorators.Pairwise fun a b => a.1 ≤ b.1 := List.pairwise_map.1 hsorted
  rw [runDecorators, foldl_execOp hs n,
    drain_eq _ ⟨decorators, _⟩ (drop_length_takeWhile _ decorators), List.map_map]
  conv_rhs => rw [← List.takeWhile_append_dropWhile (·.1 < n) decorators, List.map_append]
  congr 1
  · -- the decorators before operation `n`
    refine List.map_congr_left fun x hx => ?_
    have hx : x.1 < n := by simpa using List.mem_takeWhile_imp hx
    simp [hx]
  · -- the rest, drained by `next()`
    refine List.map_congr_left fun x hx => ?_
    have hx : ¬ x.1 < n := Nat.not_lt.2 (le_of_mem_dropWhile hs n x hx)
    simp [hx]

/-- Two decorators at operation `0`, one at `2` after a gap, and one past the last of `3`
operations. -/
def sampleDecorators : DecoratorList ℕ := [(0, 10), (0, 11), (2, 12), (5, 13)]

theorem decorators_yielded_once_in_order_sample :
    (sampleDecorators.map Prod.fst).Sorted (· ≤ ·) ∧
      runDecorators sampleDecorators 3 =
        sampleDecorators.map fun x => (if x.1 < 3 then some x.1 else none, x.2) :=
  ⟨by decide, decorators_yielded_once_in_order sampleDecorators (by decide) 3⟩

end MidenVm.Core
