import MidenVm.Processor.Dispatch
import Mathlib.Data.List.GetD
import Mathlib.Algebra.BigOperators.Intervals

/-!
# Hasher requests against hasher responses

The decoder and the stack ask the hasher chiplet for the start and the end of a hash, and the
hasher answers at the first and the last row of each of its 8-row cycles. The two sides are
written separately: the requests compute the cycle position of an address and fold the alphas
in reverse over stack elements, the responses use the row itself and fold the alphas forwards
over the hasher state. This module proves they agree.

* `buildValue_eq_sum`, `revFold_eq_sum`: the two folds as sums.
* `buildHasherChipletResponses_bp`, `_leaf`, `_hout`, `_sout`, `_abp`: what the hasher answers in
  each of its cases.
* `ControlBlockEvent`, ..., `MrupdateEvent`: the rows of the hasher that serve one request.
* `hasher_requests_match`: every request factor is the product of the responses at the rows of
  its event, on the code's `u32` rows, where `(row + 1) as u32` is exact.
* `respan_request_mismatch`: `build_respan_block_request` reads the chiplets table at the
  decoder's row, so it misses the absorption it asks for unless the two rows coincide.
-/

namespace MidenVm.Processor

open scoped BigOperators

variable {E : Type*} [CommRing E] [Algebra Felt E]

/-! ## The folds as sums -/

lemma buildValue_eq_sum (alphas : ℕ → E) (el : ℕ → Felt) (n : ℕ) :
    buildValue alphas el n = ∑ i in Finset.range n, mulBase (alphas i) (el i) := by
  induction n with
  | zero => rfl
  | succ n ih =>
    rw [Finset.sum_range_succ, ← ih]
    simp only [buildValue, List.range_succ, List.foldl_append, List.foldl_cons, List.foldl_nil]

omit [Algebra Felt E] in
lemma foldl_enumFrom (g : ℕ → ℕ → E) : ∀ (l : List ℕ) (k : ℕ) (a : E),
    (l.enumFrom k).foldl (fun acc (ix : ℕ × ℕ) => acc + g ix.1 ix.2) a =
      a + ∑ i in Finset.range l.length, g (k + i) (l.getD i 0)
  | [], k, a => by simp
  | x :: l, k, a => by
    rw [List.enumFrom_cons, List.foldl_cons, foldl_enumFrom g l (k + 1), List.length_cons,
      Finset.sum_range_succ']
    simp only [List.getD_cons_succ, List.getD_cons_zero, add_zero]
    rw [add_assoc, add_comm (g k x)]
    congr 2
    exact Finset.sum_congr rfl fun i _ => by rw [show k + 1 + i = k + (i + 1) by omega]

lemma revFold_eq_sum (alphas : ℕ → E) (lo hi : ℕ) (s : ℕ → Felt) :
    revFold alphas lo hi s =
      ∑ i in Finset.range (hi - lo), mulBase (alphas (hi - 1 - i)) (s i) := by
  rw [revFold, List.enum, foldl_enumFrom (fun i x => mulBase (alphas x) (s i)), zero_add]
  simp only [List.length_reverse, List.length_range', zero_add]
  refine Finset.sum_congr rfl fun i hi' => ?_
  rw [Finset.mem_range] at hi'
  rw [List.getD_eq_getElem _ _ (by simp; omega), List.getElem_reverse, List.getElem_range']
  congr 2
  simp only [List.length_range']
  omega

lemma buildValue_congr {alphas : ℕ → E} {el el' : ℕ → Felt} {n : ℕ}
    (h : ∀ i < n, el i = el' i) : buildValue alphas el n = buildValue alphas el' n := by
  simp only [buildValue_eq_sum]
  exact Finset.sum_congr rfl fun i hi => by rw [h i (Finset.mem_range.1 hi)]

lemma buildValue_add (alphas : ℕ → E) (el : ℕ → Felt) (n m : ℕ) :
    buildValue alphas el (n + m) =
      buildValue alphas el n + buildValue (fun i => alphas (n + i)) (fun i => el (n + i)) m := by
  simp only [buildValue_eq_sum, Finset.sum_range_add]

lemma revFold_eq_buildValue (alphas : ℕ → E) (lo hi : ℕ) (s : ℕ → Felt) :
    revFold alphas lo hi s =
      buildValue (fun i => alphas (lo + i)) (fun i => s (hi - lo - 1 - i)) (hi - lo) := by
  rw [revFold_eq_sum, buildValue_eq_sum, ← Finset.sum_range_reflect]
  refine Finset.sum_congr rfl fun i hi' => ?_
  rw [Finset.mem_range] at hi'
  congr 3; omega

lemma buildValue_four (alphas : ℕ → E) (el : ℕ → Felt) :
    buildValue alphas el 4 = mulBase (alphas 0) (el 0) + mulBase (alphas 1) (el 1) +
      mulBase (alphas 2) (el 2) + mulBase (alphas 3) (el 3) := by
  simp [buildValue_eq_sum, Finset.sum_range_succ]

lemma leafWord_eq (alphas : ℕ → E) (state : ℕ → Felt) {b : ℕ} (hb : b < 2) :
    ((1 - b : ℕ) : E) * buildValue (fun i => alphas (8 + i)) (fun i => state (4 + i)) 4 +
      (b : E) * buildValue (fun i => alphas (8 + i)) (fun i => state (8 + i)) 4 =
      buildValue (fun i => alphas (8 + i)) (fun j => state (4 + 4 * b + j)) 4 := by
  match b, hb with
  | 0, _ => simp
  | 1, _ => simp [← Nat.add_assoc]

/-! ## Labels and addresses -/

lemma getOpLabel_hasher (s1 s2 s3 : ℕ) :
    getOpLabel 0 (s1 : Felt) s2 s3 = ((8 * s3 + 4 * s2 + 2 * s1 + 1 : ℕ) : Felt) := by
  simp only [getOpLabel, Felt.mulSmall]
  push_cast
  ring

/-! The label constants are `get_op_label` of the selectors they name, shifted by the phase. -/

lemma label_linear_first : getOpLabel 0 1 0 0 + 16 = ((LINEAR_HASH_LABEL + 16 : ℕ) : Felt) := by
  simp [getOpLabel, Felt.mulSmall, LINEAR_HASH_LABEL]; norm_num

lemma label_return_hash_last : getOpLabel 0 0 0 0 + 32 = ((RETURN_HASH_LABEL + 32 : ℕ) : Felt) := by
  simp [getOpLabel, Felt.mulSmall, RETURN_HASH_LABEL]; norm_num

lemma label_return_state_last :
    getOpLabel 0 0 0 1 + 32 = ((RETURN_STATE_LABEL + 32 : ℕ) : Felt) := by
  simp [getOpLabel, Felt.mulSmall, RETURN_STATE_LABEL]; norm_num

lemma label_mp_verify_first : getOpLabel 0 1 0 1 + 16 = ((MP_VERIFY_LABEL + 16 : ℕ) : Felt) := by
  simp [getOpLabel, Felt.mulSmall, MP_VERIFY_LABEL]; norm_num

lemma label_mr_update_old_first :
    getOpLabel 0 1 1 0 + 16 = ((MR_UPDATE_OLD_LABEL + 16 : ℕ) : Felt) := by
  simp [getOpLabel, Felt.mulSmall, MR_UPDATE_OLD_LABEL]; norm_num

lemma label_mr_update_new_first :
    getOpLabel 0 1 1 1 + 16 = ((MR_UPDATE_NEW_LABEL + 16 : ℕ) : Felt) := by
  simp [getOpLabel, Felt.mulSmall, MR_UPDATE_NEW_LABEL]; norm_num

/-- Below `2^32` the response's address `(row + 1) as u32` is the row's address. -/
lemma hasherHeader_eq (alphas : ℕ → E) (label : Felt) {row : ℕ} (idx : Felt)
    (h : row + 1 < 2 ^ 32) :
    hasherHeader alphas label row idx =
      header3 alphas label ((row + 1 : ℕ) : Felt) + mulBase (alphas 3) idx := by
  rw [hasherHeader, header3, Felt.ofU32Cast_of_lt h]

lemma addrToHashCycle_natCast {n : ℕ} (h0 : 0 < n) (hp : n < FELT_MODULUS) :
    addrToHashCycle (n : Felt) = (n - 1) % 8 := by
  rw [addrToHashCycle, Felt.asIntPred_of_pos (by rw [Felt.asInt_natCast hp]; omega),
    Felt.asInt_natCast hp, HASH_CYCLE_LEN]

lemma addrToRowIndex_natCast {n : ℕ} (h0 : 0 < n) (hp : n < FELT_MODULUS) :
    addrToRowIndex (n : Felt) = n - 1 := by
  rw [addrToRowIndex, Felt.asIntPred_of_pos (by rw [Felt.asInt_natCast hp]; omega),
    Felt.asInt_natCast hp]

/-! ## What the hasher answers -/

section Responses

variable (mt : MainTrace) (alphas : ℕ → E) {row : ℕ}

lemma getResponsesAt_of_hasher {s1 s2 s3 : Felt} (h : mt.HasherSelectors row s1 s2 s3) :
    getResponsesAt mt alphas row = buildHasherChipletResponses mt row alphas s1 s2 s3 := by
  obtain ⟨h0, h1, h2, h3⟩ := h
  simp [getResponsesAt, responseSegment, h0, h1, h2, h3]

/-- `f_bp`: the first row of a linear hash answers with the whole state. -/
lemma buildHasherChipletResponses_bp (h0 : row % 8 = 0) (hs : mt.chipletSelector 0 row = 0) :
    buildHasherChipletResponses mt row alphas 1 0 0 =
      hasherHeader alphas (getOpLabel 0 1 0 0 + 16) row (mt.chipletNodeIndex row) +
        buildValue (fun i => alphas (4 + i)) (mt.chipletHasherState row) 12 := by
  simp [buildHasherChipletResponses, HASH_CYCLE_LEN, h0, hs, STATE_WIDTH, NUM_HEADER_ALPHAS]

/-- `f_mp`, `f_mv`, `f_mu`: the first row of a Merkle path answers with the node, read from the
left or the right half of the state by the low bit of the node index. -/
lemma buildHasherChipletResponses_leaf {s2 s3 : Felt} (h0 : row % 8 = 0)
    (hs : mt.chipletSelector 0 row = 0) (h23 : ¬ (s2 = 0 ∧ s3 = 0)) :
    buildHasherChipletResponses mt row alphas 1 s2 s3 =
      hasherHeader alphas (getOpLabel 0 1 s2 s3 + 16) row (mt.chipletNodeIndex row) +
        ((1 - (mt.chipletNodeIndex row).asInt % 2 : ℕ) : E) *
          buildValue (fun i => alphas (8 + i)) (fun i => mt.chipletHasherState row (4 + i)) 4 +
        (((mt.chipletNodeIndex row).asInt % 2 : ℕ) : E) *
          buildValue (fun i => alphas (8 + i)) (fun i => mt.chipletHasherState row (8 + i)) 4 := by
  have h23' : ¬ (s2 = 0 ∧ s3 = 0) := h23
  simp only [buildHasherChipletResponses, HASH_CYCLE_LEN, h0, hs, if_true, true_and, h23',
    not_false_eq_true, if_false, NUM_HEADER_ALPHAS, DIGEST_RANGE_START, DIGEST_RANGE_END]
  simp only [show ¬ (0 = 8 - 1) by omega, if_false, and_false, false_and, ← Nat.add_assoc,
    Nat.reduceAdd]

/-- `f_hout`: the last row of a hash answers with the digest. -/
lemma buildHasherChipletResponses_hout (h7 : row % 8 = 7) (hs : mt.chipletSelector 0 row = 0) :
    buildHasherChipletResponses mt row alphas 0 0 0 =
      hasherHeader alphas (getOpLabel 0 0 0 0 + 32) row (mt.chipletNodeIndex row) +
        buildValue (fun i => alphas (8 + i)) (fun i => mt.chipletHasherState row (4 + i)) 4 := by
  simp [buildHasherChipletResponses, HASH_CYCLE_LEN, h7, hs, NUM_HEADER_ALPHAS,
    DIGEST_RANGE_START, ← Nat.add_assoc]

/-- `f_sout`: the last row of a permutation answers with the whole state. -/
lemma buildHasherChipletResponses_sout (h7 : row % 8 = 7) (hs : mt.chipletSelector 0 row = 0) :
    buildHasherChipletResponses mt row alphas 0 0 1 =
      hasherHeader alphas (getOpLabel 0 0 0 1 + 32) row (mt.chipletNodeIndex row) +
        buildValue (fun i => alphas (4 + i)) (mt.chipletHasherState row) 12 := by
  simp [buildHasherChipletResponses, HASH_CYCLE_LEN, h7, hs, NUM_HEADER_ALPHAS, STATE_WIDTH]

/-- `f_abp`: the last row of a cycle that absorbs the next batch answers with the change of the
rate. -/
lemma buildHasherChipletResponses_abp (h7 : row % 8 = 7) (hs : mt.chipletSelector 0 row = 0) :
    buildHasherChipletResponses mt row alphas 1 0 0 =
      hasherHeader alphas (getOpLabel 0 1 0 0 + 32) row (mt.chipletNodeIndex row) +
        buildValue (fun i => alphas (8 + i)) (fun i => mt.chipletHasherState (row + 1) (4 + i)) 8 -
        buildValue (fun i => alphas (8 + i)) (fun i => mt.chipletHasherState row (4 + i)) 8 := by
  simp [buildHasherChipletResponses, HASH_CYCLE_LEN, h7, hs, NUM_HEADER_ALPHAS, CAPACITY_LEN,
    ← Nat.add_assoc]

end Responses

/-! ## The hasher rows serving one request -/

/-- Row `row` of the hasher has the selectors `s1, s2, s3` and the node index `idx`. -/
structure MainTrace.HashRow (mt : MainTrace) (row : ℕ) (s1 s2 s3 idx : Felt) : Prop where
  selectors : mt.HasherSelectors row s1 s2 s3
  nodeIndex : mt.chipletNodeIndex row = idx

/-- A control block (`JOIN`, `SPLIT`, `LOOP`, `DYN`, `CALL`, `SYSCALL`) the decoder opens at row
`i` with opcode `op`, hashed by the hasher cycle `c`: the decoder's next address is the cycle's
address `8c + 1`, and the cycle's first row holds the opcode as domain in the capacity and the
decoder's words in the rate. -/
structure ControlBlockEvent (mt : MainTrace) (i c : ℕ) (op : Felt) : Prop where
  addr : mt.addr (i + 1) = ((8 * c + 1 : ℕ) : Felt)
  first : mt.HashRow (8 * c) 1 0 0 0
  capacity : ∀ k < 4, mt.chipletHasherState (8 * c) k = if k = 1 then op else 0
  rate : ∀ j < 8, mt.chipletHasherState (8 * c) (4 + j) = mt.decoderHasherState i j

/-- A `SPAN` at row `i` hashed by the cycle `c`: an empty capacity and the first batch in the
rate. -/
structure SpanEvent (mt : MainTrace) (i c : ℕ) : Prop where
  addr : mt.addr (i + 1) = ((8 * c + 1 : ℕ) : Felt)
  first : mt.HashRow (8 * c) 1 0 0 0
  capacity : ∀ k < 4, mt.chipletHasherState (8 * c) k = 0
  rate : ∀ j < 8, mt.chipletHasherState (8 * c) (4 + j) = mt.decoderHasherState i j

/-- An `END` at row `i` of the block whose last cycle is `c`: the cycle's last row returns the
digest the decoder holds. -/
structure EndEvent (mt : MainTrace) (i c : ℕ) : Prop where
  addr : mt.addr i = ((8 * c + 1 : ℕ) : Felt)
  last : mt.HashRow (8 * c + 7) 0 0 0 0
  digest : ∀ j < 4, mt.chipletHasherState (8 * c + 7) (4 + j) = mt.decoderHasherState i j

/-- An `HPERM` at row `i` served by the cycle `c`: the cycle starts from the top twelve stack
elements (the top of the stack last) and returns the permuted state on the next row's stack. -/
structure HpermEvent (mt : MainTrace) (i c : ℕ) : Prop where
  addr : mt.helperRegister 0 i = ((8 * c + 1 : ℕ) : Felt)
  first : mt.HashRow (8 * c) 1 0 0 0
  input : ∀ k < 12, mt.chipletHasherState (8 * c) k = mt.stackElement (11 - k) i
  last : mt.HashRow (8 * c + 7) 0 0 1 0
  output : ∀ k < 12, mt.chipletHasherState (8 * c + 7) k = mt.stackElement (11 - k) (i + 1)

/-- The low bit of the node index on the stack at row `i`. -/
def MainTrace.indexBit (mt : MainTrace) (i : ℕ) : ℕ := (mt.stackElement 5 i).asInt % 2

/-- An `MPVERIFY` at row `i` of a path of depth `d`, computed from the cycle `c` on: the first
row holds the node in the half the index bit names, and the last row of the `d`-th cycle returns
the root. -/
structure MpverifyEvent (mt : MainTrace) (i c d : ℕ) : Prop where
  addr : mt.helperRegister 0 i = ((8 * c + 1 : ℕ) : Felt)
  depth : mt.stackElement 4 i = (d : Felt)
  first : mt.HashRow (8 * c) 1 0 1 (mt.stackElement 5 i)
  leaf : ∀ j < 4,
    mt.chipletHasherState (8 * c) (4 + 4 * mt.indexBit i + j) = mt.stackElement (3 - j) i
  last : mt.HashRow (8 * c + 8 * d - 1) 0 0 0 0
  root : ∀ j < 4, mt.chipletHasherState (8 * c + 8 * d - 1) (4 + j) = mt.stackElement (9 - j) i

/-- An `MRUPDATE` at row `i` of a path of depth `d`: the old root is computed over the cycles
from `c` on, the new one over the `d` cycles after them. -/
structure MrupdateEvent (mt : MainTrace) (i c d : ℕ) : Prop where
  addr : mt.helperRegister 0 i = ((8 * c + 1 : ℕ) : Felt)
  depth : mt.stackElement 4 i = (d : Felt)
  oldFirst : mt.HashRow (8 * c) 1 1 0 (mt.stackElement 5 i)
  oldLeaf : ∀ j < 4,
    mt.chipletHasherState (8 * c) (4 + 4 * mt.indexBit i + j) = mt.stackElement (3 - j) i
  oldLast : mt.HashRow (8 * c + 8 * d - 1) 0 0 0 0
  oldRoot : ∀ j < 4,
    mt.chipletHasherState (8 * c + 8 * d - 1) (4 + j) = mt.stackElement (9 - j) i
  newFirst : mt.HashRow (8 * c + 8 * d) 1 1 1 (mt.stackElement 5 i)
  newLeaf : ∀ j < 4,
    mt.chipletHasherState (8 * c + 8 * d) (4 + 4 * mt.indexBit i + j) =
      mt.stackElement (13 - j) i
  newLast : mt.HashRow (8 * c + 16 * d - 1) 0 0 0 0
  newRoot : ∀ j < 4,
    mt.chipletHasherState (8 * c + 16 * d - 1) (4 + j) = mt.stackElement (3 - j) (i + 1)

/-! ## Requests against responses -/

section Requests

variable (mt : MainTrace) (alphas : ℕ → E) {i c d : ℕ}

lemma leaf_response_eq {row : ℕ} {s2 s3 : Felt}
    (hrow : mt.HashRow row 1 s2 s3 (mt.stackElement 5 i)) (h0 : row % 8 = 0)
    (h23 : ¬ (s2 = 0 ∧ s3 = 0)) (hr : row + 1 < 2 ^ 32) (w : ℕ → Felt)
    (hleaf : ∀ j < 4, mt.chipletHasherState row (4 + 4 * mt.indexBit i + j) = w j) :
    getResponsesAt mt alphas row =
      header3 alphas (getOpLabel 0 1 s2 s3 + 16) ((row + 1 : ℕ) : Felt) +
        mulBase (alphas 3) (mt.stackElement 5 i) + buildValue (fun j => alphas (8 + j)) w 4 := by
  rw [getResponsesAt_of_hasher mt alphas hrow.selectors,
    buildHasherChipletResponses_leaf mt alphas h0 hrow.selectors.1 h23, hasherHeader_eq _ _ _ hr,
    hrow.nodeIndex, add_assoc, leafWord_eq _ _ (Nat.mod_lt _ (by omega))]
  exact congrArg _ (buildValue_congr hleaf)

lemma root_response_eq {row : ℕ} (hrow : mt.HashRow row 0 0 0 0) (h7 : row % 8 = 7)
    (hr : row + 1 < 2 ^ 32) (w : ℕ → Felt)
    (hroot : ∀ j < 4, mt.chipletHasherState row (4 + j) = w j) :
    getResponsesAt mt alphas row =
      header3 alphas ((RETURN_HASH_LABEL + 32 : ℕ) : Felt) ((row + 1 : ℕ) : Felt) +
        buildValue (fun j => alphas (8 + j)) w 4 := by
  rw [getResponsesAt_of_hasher mt alphas hrow.selectors,
    buildHasherChipletResponses_hout mt alphas h7 hrow.selectors.1, hasherHeader_eq _ _ _ hr,
    hrow.nodeIndex, mulBase_zero, add_zero, label_return_hash_last, buildValue_congr hroot]

lemma control_block_request_eq {op : Felt} (ev : ControlBlockEvent mt i c op)
    (hc : 8 * c + 1 < 2 ^ 32) :
    buildControlBlockRequest mt op alphas i = getResponsesAt mt alphas (8 * c) := by
  have hp : 8 * c + 1 < FELT_MODULUS := by unfold FELT_MODULUS; omega
  rw [getResponsesAt_of_hasher mt alphas ev.first.selectors,
    buildHasherChipletResponses_bp mt alphas (by omega) ev.first.selectors.1,
    hasherHeader_eq _ _ _ hc, ev.first.nodeIndex, show (12 : ℕ) = 4 + 8 from rfl, buildValue_add,
    buildValue_four, buildValue_congr (n := 8) ev.rate]
  simp only [buildControlBlockRequest, ev.addr, addrToRowIndex_natCast (by omega) hp,
    HASH_CYCLE_LEN, Nat.add_sub_cancel, Nat.mul_mod_right, if_true, ev.capacity 0 (by omega),
    ev.capacity 1 (by omega), ev.capacity 2 (by omega), ev.capacity 3 (by omega), if_true,
    if_false, show (0 : ℕ) ≠ 1 by omega, show (2 : ℕ) ≠ 1 by omega, show (3 : ℕ) ≠ 1 by omega,
    mulBase_zero, add_zero, zero_add, label_linear_first, ← Nat.add_assoc, Nat.reduceAdd]
  ring

lemma span_request_eq (ev : SpanEvent mt i c) (hc : 8 * c + 1 < 2 ^ 32) :
    buildSpanBlockRequest mt alphas i = getResponsesAt mt alphas (8 * c) := by
  have hp : 8 * c + 1 < FELT_MODULUS := by unfold FELT_MODULUS; omega
  rw [getResponsesAt_of_hasher mt alphas ev.first.selectors,
    buildHasherChipletResponses_bp mt alphas (by omega) ev.first.selectors.1,
    hasherHeader_eq _ _ _ hc, ev.first.nodeIndex, show (12 : ℕ) = 4 + 8 from rfl, buildValue_add,
    buildValue_four, buildValue_congr (n := 8) ev.rate]
  simp only [buildSpanBlockRequest, ev.addr, addrToRowIndex_natCast (by omega) hp,
    HASH_CYCLE_LEN, Nat.add_sub_cancel, Nat.mul_mod_right, if_true, ev.capacity 0 (by omega),
    ev.capacity 1 (by omega), ev.capacity 2 (by omega), ev.capacity 3 (by omega), mulBase_zero,
    add_zero, zero_add, label_linear_first, ← Nat.add_assoc, Nat.reduceAdd]

lemma end_request_eq (ev : EndEvent mt i c) (hc : 8 * c + 8 < 2 ^ 32) :
    buildEndBlockRequest mt alphas i = getResponsesAt mt alphas (8 * c + 7) := by
  have hp : 8 * c + 8 < FELT_MODULUS := by unfold FELT_MODULUS; omega
  have ha : mt.addr i + ((NUM_ROUNDS : ℕ) : Felt) = ((8 * c + 7 + 1 : ℕ) : Felt) := by
    rw [ev.addr, NUM_ROUNDS]; push_cast; ring
  rw [root_response_eq mt alphas ev.last (by omega) (by omega) _ ev.digest]
  simp only [buildEndBlockRequest, ha, addrToRowIndex_natCast (by omega) hp, HASH_CYCLE_LEN,
    show (8 * c + 8 - 1) % 8 = 7 by omega, show (7 : ℕ) ≠ 0 by omega, if_false]

lemma hperm_request_eq (ev : HpermEvent mt i c) (hc : 8 * c + 8 < 2 ^ 32) :
    buildHpermRequest mt alphas i =
      getResponsesAt mt alphas (8 * c) * getResponsesAt mt alphas (8 * c + 7) := by
  have hp : 8 * c + 8 < FELT_MODULUS := by unfold FELT_MODULUS; omega
  have ha : ((8 * c + 1 : ℕ) : Felt) + Felt.new 7 = ((8 * c + 8 : ℕ) : Felt) := by
    rw [Felt.new]; push_cast; ring
  rw [getResponsesAt_of_hasher mt alphas ev.first.selectors,
    buildHasherChipletResponses_bp mt alphas (by omega) ev.first.selectors.1,
    getResponsesAt_of_hasher mt alphas ev.last.selectors,
    buildHasherChipletResponses_sout mt alphas (by omega) ev.last.selectors.1,
    hasherHeader_eq _ _ _ (by omega), hasherHeader_eq _ _ _ (by omega), ev.first.nodeIndex,
    ev.last.nodeIndex, buildValue_congr (n := 12) ev.input, buildValue_congr (n := 12) ev.output]
  simp only [buildHpermRequest, ha, ev.addr, addrToHashCycle_natCast (by omega) hp,
    addrToHashCycle_natCast (show 0 < 8 * c + 1 by omega) (by omega), Nat.add_sub_cancel,
    Nat.mul_mod_right, if_true, show (8 * c + 8 - 1) % 8 = 7 by omega,
    show (7 : ℕ) ≠ 0 by omega, if_false, mulBase_zero, add_zero, label_linear_first,
    label_return_state_last, revFold_eq_buildValue, Nat.reduceSub, Nat.add_assoc,
    Nat.reduceAdd]

lemma mpverify_request_eq (ev : MpverifyEvent mt i c d) (hd : 1 ≤ d)
    (hc : 8 * c + 8 * d < 2 ^ 32) :
    buildMpverifyRequest mt alphas i =
      getResponsesAt mt alphas (8 * c) * getResponsesAt mt alphas (8 * c + 8 * d - 1) := by
  have hp : 8 * c + 1 < FELT_MODULUS := by unfold FELT_MODULUS; omega
  have ha : ((8 * c + 1 : ℕ) : Felt) + Felt.mulSmall (d : Felt) 8 - 1 =
      ((8 * c + 8 * d - 1 + 1 : ℕ) : Felt) := by
    rw [Nat.sub_add_cancel (by omega), Felt.mulSmall]; push_cast; ring
  rw [leaf_response_eq mt alphas ev.first (by omega) (by simp) (by omega) _ ev.leaf,
    root_response_eq mt alphas ev.last (by omega) (by omega)
      (fun j => mt.stackElement (6 + (3 - j)) i)
      fun j hj => (ev.root j hj).trans (by congr 1; omega)]
  simp only [buildMpverifyRequest, ev.addr, ev.depth, ha, addrToHashCycle_natCast (by omega) hp,
    Nat.add_sub_cancel, Nat.mul_mod_right, if_true,
    Felt.asInt_natCast hp, show (8 * c + 1) % 8 = 1 by omega, show (1 : ℕ) ≠ 0 by omega,
    if_false, label_mp_verify_first, revFold_eq_buildValue, Nat.reduceSub, Nat.zero_add]

lemma mrupdate_request_eq (ev : MrupdateEvent mt i c d) (hd : 1 ≤ d)
    (hc : 8 * c + 16 * d < 2 ^ 32) :
    buildMrupdateRequest mt alphas i =
      getResponsesAt mt alphas (8 * c) * getResponsesAt mt alphas (8 * c + 8 * d - 1) *
        getResponsesAt mt alphas (8 * c + 8 * d) *
        getResponsesAt mt alphas (8 * c + 16 * d - 1) := by
  have hp : 8 * c + 16 * d < FELT_MODULUS := by unfold FELT_MODULUS; omega
  have hnew : ((8 * c + 1 : ℕ) : Felt) + Felt.mulSmall (d : Felt) 8 =
      ((8 * c + 8 * d + 1 : ℕ) : Felt) := by
    rw [Felt.mulSmall]; push_cast; ring
  have hold : ((8 * c + 8 * d + 1 : ℕ) : Felt) - 1 = ((8 * c + 8 * d - 1 + 1 : ℕ) : Felt) := by
    rw [Nat.sub_add_cancel (by omega)]; push_cast; ring
  have hlast : ((8 * c + 1 : ℕ) : Felt) + Felt.mulSmall (d : Felt) 16 - 1 =
      ((8 * c + 16 * d - 1 + 1 : ℕ) : Felt) := by
    rw [Nat.sub_add_cancel (by omega), Felt.mulSmall]; push_cast; ring
  rw [leaf_response_eq mt alphas ev.oldFirst (by omega) (by simp) (by omega) _ ev.oldLeaf,
    root_response_eq mt alphas ev.oldLast (by omega) (by omega)
      (fun j => mt.stackElement (6 + (3 - j)) i)
      fun j hj => (ev.oldRoot j hj).trans (by congr 1; omega),
    leaf_response_eq mt alphas ev.newFirst (by omega) (by simp) (by omega)
      (fun j => mt.stackElement (10 + (3 - j)) i)
      fun j hj => (ev.newLeaf j hj).trans (by congr 1; omega),
    root_response_eq mt alphas ev.newLast (by omega) (by omega) _ ev.newRoot]
  simp only [buildMrupdateRequest, ev.addr, ev.depth, hnew, hold, hlast,
    addrToHashCycle_natCast (show 0 < 8 * c + 1 by omega) (by omega),
    addrToHashCycle_natCast (show 0 < 8 * c + 8 * d - 1 + 1 by omega) (by omega),
    addrToHashCycle_natCast (show 0 < 8 * c + 8 * d + 1 by omega) (by omega),
    addrToHashCycle_natCast (show 0 < 8 * c + 16 * d - 1 + 1 by omega) (by omega),
    Nat.add_sub_cancel, Nat.mul_mod_right, if_true,
    show (8 * c + 8 * d - 1) % 8 = 7 by omega, show (8 * c + 16 * d - 1) % 8 = 7 by omega,
    show (8 * c + 8 * d) % 8 = 0 by omega, show (7 : ℕ) ≠ 0 by omega, if_false,
    label_mr_update_old_first, label_mr_update_new_first, revFold_eq_buildValue, Nat.reduceSub,
    Nat.zero_add]
  ring

end Requests

/-- **Every hasher request is answered.** For each operation that asks the hasher for a hash,
a permutation or a Merkle path, the request factor is the product of the responses the hasher
chiplet emits at the rows of the cycles serving it. The rows are those of the code's domain:
row indices are `u32` (`RowIndex`, and `clk` as the hasher address), so a response row `r` has
`r + 1 < 2^32`, where the response's `(row + 1) as u32` is the row's address. The control-block
case covers the hash factor of `SYSCALL`, which `build_syscall_block_request` takes from
`build_control_block_request`. -/
theorem hasher_requests_match (mt : MainTrace) (alphas : ℕ → E) (i c d : ℕ) :
    (∀ op, ControlBlockEvent mt i c op → 8 * c + 1 < 2 ^ 32 →
      buildControlBlockRequest mt op alphas i = getResponsesAt mt alphas (8 * c)) ∧
    (SpanEvent mt i c → 8 * c + 1 < 2 ^ 32 →
      buildSpanBlockRequest mt alphas i = getResponsesAt mt alphas (8 * c)) ∧
    (EndEvent mt i c → 8 * c + 8 < 2 ^ 32 →
      buildEndBlockRequest mt alphas i = getResponsesAt mt alphas (8 * c + 7)) ∧
    (HpermEvent mt i c → 8 * c + 8 < 2 ^ 32 →
      buildHpermRequest mt alphas i =
        getResponsesAt mt alphas (8 * c) * getResponsesAt mt alphas (8 * c + 7)) ∧
    (MpverifyEvent mt i c d → 1 ≤ d → 8 * c + 8 * d < 2 ^ 32 →
      buildMpverifyRequest mt alphas i =
        getResponsesAt mt alphas (8 * c) * getResponsesAt mt alphas (8 * c + 8 * d - 1)) ∧
    (MrupdateEvent mt i c d → 1 ≤ d → 8 * c + 16 * d < 2 ^ 32 →
      buildMrupdateRequest mt alphas i =
        getResponsesAt mt alphas (8 * c) * getResponsesAt mt alphas (8 * c + 8 * d - 1) *
          getResponsesAt mt alphas (8 * c + 8 * d) *
          getResponsesAt mt alphas (8 * c + 16 * d - 1)) :=
  ⟨fun _ ev hc => control_block_request_eq mt alphas ev hc,
    fun ev hc => span_request_eq mt alphas ev hc, fun ev hc => end_request_eq mt alphas ev hc,
    fun ev hc => hperm_request_eq mt alphas ev hc,
    fun ev hd hc => mpverify_request_eq mt alphas ev hd hc,
    fun ev hd hc => mrupdate_request_eq mt alphas ev hd hc⟩

/-- A trace whose decoder, at row `0`, ends the block hashed by the first cycle of an empty
chiplets table. -/
def endFirstCycleTrace : MainTrace where
  opCode := fun _ => 0
  addr := fun _ => 1
  decoderHasherState := fun _ _ => 0
  stackElement := fun _ _ => 0
  helperRegister := fun _ _ => 0
  ctx := fun _ => 0
  clk := fun _ => 0
  chiplets := Table.zero

theorem hasher_requests_match_end_first_cycle :
    EndEvent endFirstCycleTrace 0 0 ∧
      buildEndBlockRequest endFirstCycleTrace (fun _ => (1 : Felt)) 0 =
        getResponsesAt endFirstCycleTrace (fun _ => 1) (8 * 0 + 7) := by
  have ev : EndEvent endFirstCycleTrace 0 0 := ⟨by simp [endFirstCycleTrace],
    ⟨⟨rfl, rfl, rfl, rfl⟩, rfl⟩, fun _ _ => rfl⟩
  exact ⟨ev, (hasher_requests_match endFirstCycleTrace (fun _ => (1 : Felt)) 0 0 0).2.2.1 ev
    (by norm_num)⟩

/-! ## `RESPAN` -/

lemma label_linear_last : getOpLabel 0 1 0 0 + 32 = ((LINEAR_HASH_LABEL + 32 : ℕ) : Felt) := by
  simp [getOpLabel, Felt.mulSmall, LINEAR_HASH_LABEL]; norm_num

/-- A `RESPAN` at row `i` absorbed at the last row `8c + 7` of the hasher cycle `c`: the
decoder's next address is `a = 8c + 9`, so the absorption row is `a - 2`; that row has node index
`0`, and the next row's rate is the batch the decoder holds at row `i`. -/
structure RespanEvent (mt : MainTrace) (i c : ℕ) : Prop where
  addr : mt.addr (i + 1) = ((8 * c + 9 : ℕ) : Felt)
  last : mt.HashRow (8 * c + 7) 1 0 0 0
  batch : ∀ j < 8, mt.chipletHasherState (8 * c + 8) (4 + j) = mt.decoderHasherState i j

/-- The change of the rate of the chiplets table from row `row` to row `row + 1`, as the
`f_abp` response and the `RESPAN` request weigh it. -/
def MainTrace.rateDelta (mt : MainTrace) (alphas : ℕ → E) (row : ℕ) : E :=
  buildValue (fun j => alphas (8 + j)) (fun j => mt.chipletHasherState (row + 1) (4 + j)) 8 -
    buildValue (fun j => alphas (8 + j)) (fun j => mt.chipletHasherState row (4 + j)) 8

/-- The `RESPAN` request is the absorption response with the rate change of the rows `r, r + 1`
replaced by that of the rows `i - 2, i - 1`: the request reads the chiplets table at the
decoder's row. -/
lemma respan_request_eq (mt : MainTrace) (alphas : ℕ → E) {i c : ℕ} (ev : RespanEvent mt i c)
    (hi : 2 ≤ i) (hc : 8 * c + 8 < 2 ^ 32) :
    buildRespanBlockRequest mt alphas i =
      some (getResponsesAt mt alphas (8 * c + 7) - mt.rateDelta alphas (8 * c + 7) +
        mt.rateDelta alphas (i - 2)) := by
  have hp : 8 * c + 8 < FELT_MODULUS := by unfold FELT_MODULUS; omega
  have ha : ((8 * c + 9 : ℕ) : Felt) - 1 = ((8 * c + 7 + 1 : ℕ) : Felt) := by push_cast; ring
  rw [getResponsesAt_of_hasher mt alphas ev.last.selectors,
    buildHasherChipletResponses_abp mt alphas (by omega) ev.last.selectors.1,
    hasherHeader_eq _ _ _ (by omega), ev.last.nodeIndex, label_linear_last]
  simp only [buildRespanBlockRequest, if_neg (show ¬ i < 2 by omega), ev.addr, ha,
    addrToRowIndex_natCast (by omega) hp, Nat.add_sub_cancel, HASH_CYCLE_LEN, CAPACITY_LEN,
    show (8 * c + 8 - 1) % 8 = 7 by omega, show (7 : ℕ) ≠ 0 by omega, if_false,
    show i - 2 + 1 = i - 1 by omega, MainTrace.rateDelta, Option.some.injEq]
  ring

/-- A `RESPAN` at row `2` whose absorption is the row `15` of the chiplets table: the batch, a
single `1`, is absorbed at row `16`, and the rows `0, 1` the request reads are empty. -/
def respanTrace : MainTrace where
  opCode := fun _ => 0
  addr := fun _ => 17
  decoderHasherState := fun _ j => if j = 0 then 1 else 0
  stackElement := fun _ _ => 0
  helperRegister := fun _ _ => 0
  ctx := fun _ => 0
  clk := fun _ => 0
  chiplets := fun col row => if row = 15 ∧ col = 1 then 1 else if row = 16 ∧ col = 8 then 1 else 0

/-- **The `RESPAN` request misses its response.** The decoder's `RESPAN` at row `2` is absorbed at
the chiplets row `15`; the request weighs the empty rows `0, 1` and differs from the response by
the batch. -/
theorem respan_request_mismatch :
    RespanEvent respanTrace 2 1 ∧
      buildRespanBlockRequest respanTrace (fun _ => (1 : Felt)) 2 ≠
        some (getResponsesAt respanTrace (fun _ => 1) 15) := by
  have ev : RespanEvent respanTrace 2 1 := ⟨rfl, ⟨⟨rfl, rfl, rfl, rfl⟩, rfl⟩, by decide⟩
  refine ⟨ev, ?_⟩
  rw [respan_request_eq _ _ ev le_rfl (by norm_num), Ne, Option.some.injEq]
  simp only [MainTrace.rateDelta, buildValue_eq_sum, Finset.sum_range_succ, Finset.sum_range_zero]
  decide

end MidenVm.Processor
