import MidenVm.Processor.MainTrace

/-!
# The chiplets bus and virtual table builders

The builders of `aux_trace/mod.rs`, one definition per Rust function and in the same order:
the virtual-table requests and responses (`chipletsVtableAddSibling`, ...), the requests the
decoder and the stack make to the chiplets (`buildControlBlockRequest`, ...,
`buildMrupdateRequest`), the responses of the chiplets (`buildHasherChipletResponses`, ...), and
the helpers `buildValue`, `getOpLabel`, `addrToHashCycle`, `addrToRowIndex`,
`computeMemoryRequest`. The two dispatchers `getRequestsAt` and `getResponsesAt` are the
`AuxColumnBuilder` methods of `BusColumnBuilder`.

The random challenges `alphas` are a function of the index; the builders read at most
`alphas[15]`. `E` is any commutative `Felt`-algebra. A builder that can panic (the `row - 2` of
`build_respan_block_request`) returns an `Option`.
-/

namespace MidenVm.Processor

/-! ## Protocol constants -/

/-- Modelled from the spec: `HASH_CYCLE_LEN`, the rows of one hasher permutation. -/
def HASH_CYCLE_LEN : ℕ := 8

/-- Modelled from the spec: `NUM_ROUNDS`, the rounds of one permutation. -/
def NUM_ROUNDS : ℕ := 7

/-- Modelled from the spec: `STATE_WIDTH` of the hasher. -/
def STATE_WIDTH : ℕ := 12

/-- Modelled from the spec: `CAPACITY_LEN` of the hasher state. -/
def CAPACITY_LEN : ℕ := 4

/-- Modelled from the spec: `DIGEST_RANGE = 4..8` of the hasher state. -/
def DIGEST_RANGE_START : ℕ := 4

/-- Modelled from the spec: the end of `DIGEST_RANGE`. -/
def DIGEST_RANGE_END : ℕ := 8

/-- Modelled from the spec: `bitwise::OP_CYCLE_LEN`. -/
def BITWISE_OP_CYCLE_LEN : ℕ := 8

def NUM_HEADER_ALPHAS : ℕ := 4

/-- Modelled from the spec: `LINEAR_HASH_LABEL`, `get_op_label` of the selectors `0, 1, 0, 0`. -/
def LINEAR_HASH_LABEL : ℕ := 3

/-- Modelled from the spec: `MP_VERIFY_LABEL`, of the selectors `0, 1, 0, 1`. -/
def MP_VERIFY_LABEL : ℕ := 11

/-- Modelled from the spec: `MR_UPDATE_OLD_LABEL`, of the selectors `0, 1, 1, 0`. -/
def MR_UPDATE_OLD_LABEL : ℕ := 7

/-- Modelled from the spec: `MR_UPDATE_NEW_LABEL`, of the selectors `0, 1, 1, 1`. -/
def MR_UPDATE_NEW_LABEL : ℕ := 15

/-- Modelled from the spec: `RETURN_HASH_LABEL`, of the selectors `0, 0, 0, 0`. -/
def RETURN_HASH_LABEL : ℕ := 1

/-- Modelled from the spec: `RETURN_STATE_LABEL`, of the selectors `0, 0, 0, 1`. -/
def RETURN_STATE_LABEL : ℕ := 9

/-- Modelled from the spec: `KERNEL_PROC_LABEL`, of the selectors `1, 1, 1, 0`. -/
def KERNEL_PROC_LABEL : Felt := 8

/-- Modelled from the spec: `MEMORY_READ_LABEL`, of the selectors `1, 1, 0, 1`. -/
def MEMORY_READ_LABEL : ℕ := 12

/-- Modelled from the spec: `MEMORY_WRITE_LABEL`, of the selectors `1, 1, 0, 0`. -/
def MEMORY_WRITE_LABEL : ℕ := 4

/-- The opcodes `get_requests_at` dispatches on (`Operation::op_code()` of `vm_core`, not in the
sources), taken as parameters. -/
structure OpCodes where
  join : ℕ
  split : ℕ
  loop : ℕ
  dyn : ℕ
  call : ℕ
  syscall : ℕ
  span : ℕ
  respan : ℕ
  «end» : ℕ
  u32and : ℕ
  u32xor : ℕ
  mloadw : ℕ
  mstorew : ℕ
  mload : ℕ
  mstore : ℕ
  mstream : ℕ
  rcombbase : ℕ
  hperm : ℕ
  mpverify : ℕ
  mrupdate : ℕ

variable {E : Type*} [CommRing E] [Algebra Felt E]

/-! ## Helpers -/

/-- `build_value(alphas, elements)` on slices of length `n`: `Σ alphas[i] · elements[i]`, folded
from the first element. -/
def buildValue (alphas : ℕ → E) (elements : ℕ → Felt) (n : ℕ) : E :=
  (List.range n).foldl (fun value i => value + mulBase (alphas i) (elements i)) 0

/-- `alphas[lo..hi].iter().rev().enumerate().fold(ZERO, |acc, (i, x)| acc + x.mul_base(s[i]))`:
the `i`-th element of `s` meets `alphas[hi - 1 - i]`. -/
def revFold (alphas : ℕ → E) (lo hi : ℕ) (s : ℕ → Felt) : E :=
  ((List.range' lo (hi - lo)).reverse.enum.foldl
    (fun acc (ix : ℕ × ℕ) => acc + mulBase (alphas ix.2) (s ix.1)) 0)

def getOpLabel (s0 s1 s2 s3 : Felt) : Felt :=
  Felt.mulSmall s3 (1 <<< 3) + Felt.mulSmall s2 (1 <<< 2) + Felt.mulSmall s1 2 + s0 + 1

/-- `addr_to_hash_cycle(addr)`: the row of the address within its hash cycle. -/
def addrToHashCycle (addr : Felt) : ℕ := addr.asIntPred % HASH_CYCLE_LEN

def addrToRowIndex (addr : Felt) : ℕ := addr.asIntPred

/-- The header `alphas[0] + alphas[1]·label + alphas[2]·addr` shared by the hasher requests. -/
def header3 (alphas : ℕ → E) (label addr : Felt) : E :=
  alphas 0 + mulBase (alphas 1) label + mulBase (alphas 2) addr

def computeMemoryRequest (mt : MainTrace) (opLabel : ℕ) (alphas : ℕ → E) (row : ℕ) (addr : Felt)
    (value : ℕ → Felt) : E :=
  let ctx := mt.ctx row
  let clk := mt.clk row
  alphas 0 + mulBase (alphas 1) (opLabel : Felt) + mulBase (alphas 2) ctx +
    mulBase (alphas 3) addr + mulBase (alphas 4) clk + mulBase (alphas 5) (value 0) +
    mulBase (alphas 6) (value 1) + mulBase (alphas 7) (value 2) + mulBase (alphas 8) (value 3)

/-! ## Virtual table requests and responses -/

/-- The sibling entry of the virtual table at `row` for the node index `index`: the right half
of the hasher state when the index is even, the left half when it is odd. -/
def siblingEntry (mt : MainTrace) (alphas : ℕ → E) (row : ℕ) (index : Felt) : E :=
  let lsb := index.asInt % 2
  if lsb = 0 then
    let sibling := fun i => mt.chipletHasherState row (DIGEST_RANGE_END + i)
    alphas 0 + mulBase (alphas 3) index + mulBase (alphas 12) (sibling 0) +
      mulBase (alphas 13) (sibling 1) + mulBase (alphas 14) (sibling 2) +
      mulBase (alphas 15) (sibling 3)
  else
    let sibling := fun i => mt.chipletHasherState row (DIGEST_RANGE_START + i)
    alphas 0 + mulBase (alphas 3) index + mulBase (alphas 8) (sibling 0) +
      mulBase (alphas 9) (sibling 1) + mulBase (alphas 10) (sibling 2) +
      mulBase (alphas 11) (sibling 3)

/-- `chiplets_vtable_add_sibling`: the sibling added while the old Merkle root is computed. -/
def chipletsVtableAddSibling (mt : MainTrace) (alphas : ℕ → E) (row : ℕ) : E :=
  let fMva : Prop := if row = 0 then False else mt.fMva (row - 1)
  if mt.fMv row ∨ fMva then
    let index := if fMva then mt.chipletNodeIndex (row - 1) else mt.chipletNodeIndex row
    siblingEntry mt alphas row index
  else 1

/-- `chiplets_vtable_remove_sibling`: the sibling removed while the new Merkle root is
computed. -/
def chipletsVtableRemoveSibling (mt : MainTrace) (alphas : ℕ → E) (row : ℕ) : E :=
  let fMua : Prop := if row = 0 then False else mt.fMua (row - 1)
  if mt.fMu row ∨ fMua then
    let index := if fMua then mt.chipletNodeIndex (row - 1) else mt.chipletNodeIndex row
    siblingEntry mt alphas row index
  else 1

/-- `chiplets_kernel_table_include`: a kernel row whose address changes at the next row includes
its procedure in the kernel procedure table. -/
def chipletsKernelTableInclude (mt : MainTrace) (alphas : ℕ → E) (row : ℕ) : E :=
  if mt.isKernelRow row ∧ mt.isAddrChange row then
    alphas 0 + mulBase (alphas 1) (mt.addr row) + mulBase (alphas 2) (mt.chipletKernelRoot 0 row) +
      mulBase (alphas 3) (mt.chipletKernelRoot 1 row) +
      mulBase (alphas 4) (mt.chipletKernelRoot 2 row) +
      mulBase (alphas 5) (mt.chipletKernelRoot 3 row)
  else 1

def vtableGetRequestsAt (mt : MainTrace) (alphas : ℕ → E) (row : ℕ) : E :=
  chipletsVtableRemoveSibling mt alphas row

def vtableGetResponsesAt (mt : MainTrace) (alphas : ℕ → E) (row : ℕ) : E :=
  chipletsVtableAddSibling mt alphas row * chipletsKernelTableInclude mt alphas row

/-! ## Chiplets requests -/

def buildControlBlockRequest (mt : MainTrace) (opCodeFelt : Felt) (alphas : ℕ → E) (row : ℕ) :
    E :=
  let opLabel := LINEAR_HASH_LABEL
  let addrNxt := mt.addr (row + 1)
  let firstCycleRow := addrToRowIndex addrNxt % HASH_CYCLE_LEN = 0
  let transitionLabel := if firstCycleRow then opLabel + 16 else opLabel + 32
  let header := header3 alphas (transitionLabel : Felt) addrNxt
  let state := mt.decoderHasherState row
  header + buildValue (fun i => alphas (8 + i)) state 8 + mulBase (alphas 5) opCodeFelt

def buildSyscallBlockRequest (mt : MainTrace) (opCodeFelt : Felt) (alphas : ℕ → E) (row : ℕ) :
    E :=
  let factor1 := buildControlBlockRequest mt opCodeFelt alphas row
  let opLabel := KERNEL_PROC_LABEL
  let state := mt.decoderHasherState row
  let factor2 := alphas 0 + mulBase (alphas 1) opLabel + mulBase (alphas 2) (state 0) +
    mulBase (alphas 3) (state 1) + mulBase (alphas 4) (state 2) + mulBase (alphas 5) (state 3)
  factor1 * factor2

def buildSpanBlockRequest (mt : MainTrace) (alphas : ℕ → E) (row : ℕ) : E :=
  let opLabel := LINEAR_HASH_LABEL
  let addrNxt := mt.addr (row + 1)
  let firstCycleRow := addrToRowIndex addrNxt % HASH_CYCLE_LEN = 0
  let transitionLabel := if firstCycleRow then opLabel + 16 else opLabel + 32
  let header := header3 alphas (transitionLabel : Felt) addrNxt
  let state := mt.decoderHasherState row
  header + buildValue (fun i => alphas (8 + i)) state 8

/-- `build_respan_block_request`; `row - 2` underflows, and panics, at rows `0` and `1`. -/
def buildRespanBlockRequest (mt : MainTrace) (alphas : ℕ → E) (row : ℕ) : Option E :=
  if row < 2 then none else
  let opLabel := LINEAR_HASH_LABEL
  let addrNxt := mt.addr (row + 1)
  let firstCycleRow := addrToRowIndex (addrNxt - 1) % HASH_CYCLE_LEN = 0
  let transitionLabel := if firstCycleRow then opLabel + 16 else opLabel + 32
  let header := header3 alphas (transitionLabel : Felt) (addrNxt - 1) + mulBase (alphas 3) 0
  let state := fun i => mt.chipletHasherState (row - 2) (CAPACITY_LEN + i)
  let stateNxt := fun i => mt.chipletHasherState (row - 1) (CAPACITY_LEN + i)
  some (header + buildValue (fun i => alphas (8 + i)) stateNxt 8 -
    buildValue (fun i => alphas (8 + i)) state 8)

def buildEndBlockRequest (mt : MainTrace) (alphas : ℕ → E) (row : ℕ) : E :=
  let opLabel := RETURN_HASH_LABEL
  let addr := mt.addr row + ((NUM_ROUNDS : ℕ) : Felt)
  let firstCycleRow := addrToRowIndex addr % HASH_CYCLE_LEN = 0
  let transitionLabel := if firstCycleRow then opLabel + 16 else opLabel + 32
  let header := header3 alphas (transitionLabel : Felt) addr
  let state := mt.decoderHasherState row
  header + buildValue (fun i => alphas (8 + i)) state 4

def buildBitwiseRequest (mt : MainTrace) (isXor : Felt) (alphas : ℕ → E) (row : ℕ) : E :=
  let opLabel := getOpLabel 1 0 isXor 0
  let a := mt.stackElement 1 row
  let b := mt.stackElement 0 row
  let z := mt.stackElement 0 (row + 1)
  alphas 0 + mulBase (alphas 1) opLabel + mulBase (alphas 2) a + mulBase (alphas 3) b +
    mulBase (alphas 4) z

/-- `build_mem_request_element`: `MLOAD` and `MSTORE`. -/
def buildMemRequestElement (mt : MainTrace) (opLabel : ℕ) (alphas : ℕ → E) (row : ℕ) : E :=
  let word := ![mt.stackElement 0 (row + 1), mt.helperRegister 2 row, mt.helperRegister 1 row,
    mt.helperRegister 0 row]
  let addr := mt.stackElement 0 row
  computeMemoryRequest mt opLabel alphas row addr fun i => if h : i < 4 then word ⟨i, h⟩ else 0

/-- `build_mem_request_word`: `MLOADW` and `MSTOREW`. -/
def buildMemRequestWord (mt : MainTrace) (opLabel : ℕ) (alphas : ℕ → E) (row : ℕ) : E :=
  let word := fun i => mt.stackElement (3 - i) (row + 1)
  let addr := mt.stackElement 0 row
  computeMemoryRequest mt opLabel alphas row addr word

def buildMstreamRequest (mt : MainTrace) (alphas : ℕ → E) (row : ℕ) : E :=
  let word1 := fun i => mt.stackElement (7 - i) (row + 1)
  let word2 := fun i => mt.stackElement (3 - i) (row + 1)
  let addr := mt.stackElement 12 row
  let opLabel := MEMORY_READ_LABEL
  let factor1 := computeMemoryRequest mt opLabel alphas row addr word1
  let factor2 := computeMemoryRequest mt opLabel alphas row (addr + 1) word2
  factor1 * factor2

def buildRcombBaseRequest (mt : MainTrace) (alphas : ℕ → E) (row : ℕ) : E :=
  let tz0 := mt.helperRegister 0 row
  let tz1 := mt.helperRegister 1 row
  let tzg0 := mt.helperRegister 2 row
  let tzg1 := mt.helperRegister 3 row
  let a0 := mt.helperRegister 4 row
  let a1 := mt.helperRegister 5 row
  let zPtr := mt.stackElement 13 row
  let aPtr := mt.stackElement 14 row
  let opLabel := MEMORY_READ_LABEL
  let factor1 := computeMemoryRequest mt opLabel alphas row zPtr
    fun i => if i = 0 then tz0 else if i = 1 then tz1 else if i = 2 then tzg0 else tzg1
  let factor2 := computeMemoryRequest mt opLabel alphas row aPtr
    fun i => if i = 0 then a0 else if i = 1 then a1 else 0
  factor1 * factor2

def buildHpermRequest (mt : MainTrace) (alphas : ℕ → E) (row : ℕ) : E :=
  let helper0 := mt.helperRegister 0 row
  let s0S12Cur := fun i => mt.stackElement i row
  let s0S12Nxt := fun i => mt.stackElement i (row + 1)
  let opLabel := if addrToHashCycle helper0 = 0 then LINEAR_HASH_LABEL + 16
    else LINEAR_HASH_LABEL + 32
  let sumInput := revFold alphas 4 16 s0S12Cur
  let vInput := header3 alphas (opLabel : Felt) helper0 + sumInput
  let opLabel := if addrToHashCycle (helper0 + Felt.new 7) = 0 then RETURN_STATE_LABEL + 16
    else RETURN_STATE_LABEL + 32
  let sumOutput := revFold alphas 4 16 s0S12Nxt
  let vOutput := header3 alphas (opLabel : Felt) (helper0 + Felt.new 7) + sumOutput
  vInput * vOutput

def buildMpverifyRequest (mt : MainTrace) (alphas : ℕ → E) (row : ℕ) : E :=
  let helper0 := mt.helperRegister 0 row
  let s0S3 := fun i => mt.stackElement i row
  let s4 := mt.stackElement 4 row
  let s5 := mt.stackElement 5 row
  let s6S9 := fun i => mt.stackElement (6 + i) row
  let opLabel := if addrToHashCycle helper0 = 0 then MP_VERIFY_LABEL + 16
    else MP_VERIFY_LABEL + 32
  let sumInput := revFold alphas 8 12 s0S3
  let vInput := header3 alphas (opLabel : Felt) helper0 + mulBase (alphas 3) s5 + sumInput
  let opLabel := if helper0.asInt % 8 = 0 then RETURN_HASH_LABEL + 16
    else RETURN_HASH_LABEL + 32
  let sumOutput := revFold alphas 8 12 s6S9
  let vOutput := header3 alphas (opLabel : Felt) (helper0 + Felt.mulSmall s4 8 - 1) + sumOutput
  vInput * vOutput

def buildMrupdateRequest (mt : MainTrace) (alphas : ℕ → E) (row : ℕ) : E :=
  let helper0 := mt.helperRegister 0 row
  let s0S3 := fun i => mt.stackElement i row
  let s0S3Nxt := fun i => mt.stackElement i (row + 1)
  let s4 := mt.stackElement 4 row
  let s5 := mt.stackElement 5 row
  let s6S9 := fun i => mt.stackElement (6 + i) row
  let s10S13 := fun i => mt.stackElement (10 + i) row
  let opLabel := if addrToHashCycle helper0 = 0 then MR_UPDATE_OLD_LABEL + 16
    else MR_UPDATE_OLD_LABEL + 32
  let sumInput := revFold alphas 8 12 s0S3
  let vInputOld := header3 alphas (opLabel : Felt) helper0 + mulBase (alphas 3) s5 + sumInput
  let opLabel := if addrToHashCycle (helper0 + Felt.mulSmall s4 8 - 1) = 0
    then RETURN_HASH_LABEL + 16 else RETURN_HASH_LABEL + 32
  let sumOutput := revFold alphas 8 12 s6S9
  let vOutputOld := header3 alphas (opLabel : Felt) (helper0 + Felt.mulSmall s4 8 - 1) + sumOutput
  let opLabel := if addrToHashCycle (helper0 + Felt.mulSmall s4 8) = 0
    then MR_UPDATE_NEW_LABEL + 16 else MR_UPDATE_NEW_LABEL + 32
  let sumInput := revFold alphas 8 12 s10S13
  let vInputNew := header3 alphas (opLabel : Felt) (helper0 + Felt.mulSmall s4 8) +
    mulBase (alphas 3) s5 + sumInput
  let opLabel := if addrToHashCycle (helper0 + Felt.mulSmall s4 16 - 1) = 0
    then RETURN_HASH_LABEL + 16 else RETURN_HASH_LABEL + 32
  let sumOutput := revFold alphas 8 12 s0S3Nxt
  let vOutputNew := header3 alphas (opLabel : Felt) (helper0 + Felt.mulSmall s4 16 - 1) +
    sumOutput
  vInputNew * vInputOld * vOutputNew * vOutputOld

/-! ## Chiplets responses -/

/-- The header of a hasher response at `row`: label, address `row + 1` (as `u32`), node
index. -/
def hasherHeader (alphas : ℕ → E) (transitionLabel : Felt) (row : ℕ) (nodeIndex : Felt) : E :=
  alphas 0 + mulBase (alphas 1) transitionLabel + mulBase (alphas 2) (Felt.ofU32Cast (row + 1)) +
    mulBase (alphas 3) nodeIndex

/-- `build_hasher_chiplet_responses`: the `multiplicand` is overwritten by every case that
applies, in the order of the code. -/
def buildHasherChipletResponses (mt : MainTrace) (row : ℕ) (alphas : ℕ → E)
    (selector1 selector2 selector3 : Felt) : E :=
  let selector0 := mt.chipletSelector 0 row
  let opLabel := getOpLabel selector0 selector1 selector2 selector3
  let alphasState := fun i => alphas (NUM_HEADER_ALPHAS + i)
  let state := mt.chipletHasherState row
  let nodeIndex := mt.chipletNodeIndex row
  -- f_bp, f_mp, f_mv or f_mu == 1
  let multiplicand : E :=
    if row % HASH_CYCLE_LEN = 0 then
      let header := hasherHeader alphas (opLabel + 16) row nodeIndex
      -- f_bp == 1
      let m : E := if selector1 = 1 ∧ selector2 = 0 ∧ selector3 = 0 then
        header + buildValue alphasState state STATE_WIDTH else 1
      -- f_mp or f_mv or f_mu == 1
      if selector1 = 1 ∧ ¬ (selector2 = 0 ∧ selector3 = 0) then
        let bit := nodeIndex.asInt % 2
        let leftWord := buildValue (fun i => alphasState (DIGEST_RANGE_START + i))
          (fun i => state (DIGEST_RANGE_START + i)) 4
        let rightWord := buildValue (fun i => alphasState (DIGEST_RANGE_START + i))
          (fun i => state (DIGEST_RANGE_END + i)) 4
        header + ((1 - bit : ℕ) : E) * leftWord + (bit : E) * rightWord
      else m
    else 1
  -- f_hout, f_sout, f_abp == 1
  if row % HASH_CYCLE_LEN = HASH_CYCLE_LEN - 1 then
    let header := hasherHeader alphas (opLabel + 32) row nodeIndex
    -- f_hout == 1
    let m : E := if selector1 = 0 ∧ selector2 = 0 ∧ selector3 = 0 then
      header + buildValue (fun i => alphasState (DIGEST_RANGE_START + i))
        (fun i => state (DIGEST_RANGE_START + i)) 4
      else multiplicand
    -- f_sout == 1
    let m : E := if selector1 = 0 ∧ selector2 = 0 ∧ selector3 = 1 then
      header + buildValue alphasState state STATE_WIDTH else m
    -- f_abp == 1
    if selector1 = 1 ∧ selector2 = 0 ∧ selector3 = 0 then
      let stateNxt := mt.chipletHasherState (row + 1)
      let nextStateValue := buildValue (fun i => alphasState (CAPACITY_LEN + i))
        (fun i => stateNxt (CAPACITY_LEN + i)) 8
      let stateValue := buildValue (fun i => alphasState (CAPACITY_LEN + i))
        (fun i => state (CAPACITY_LEN + i)) 8
      header + nextStateValue - stateValue
    else m
  else multiplicand

def buildBitwiseChipletResponses (mt : MainTrace) (row : ℕ) (isXor : Felt) (alphas : ℕ → E) : E :=
  if row % BITWISE_OP_CYCLE_LEN = BITWISE_OP_CYCLE_LEN - 1 then
    let opLabel := getOpLabel 1 0 isXor 0
    let a := mt.chipletBitwiseA row
    let b := mt.chipletBitwiseB row
    let z := mt.chipletBitwiseZ row
    alphas 0 + mulBase (alphas 1) opLabel + mulBase (alphas 2) a + mulBase (alphas 3) b +
      mulBase (alphas 4) z
  else 1

def buildMemoryChipletResponses (mt : MainTrace) (row : ℕ) (isRead : Felt) (alphas : ℕ → E) : E :=
  let opLabel := getOpLabel 1 1 0 isRead
  alphas 0 + mulBase (alphas 1) opLabel + mulBase (alphas 2) (mt.chipletMemoryCtx row) +
    mulBase (alphas 3) (mt.chipletMemoryAddr row) + mulBase (alphas 4) (mt.chipletMemoryClk row) +
    mulBase (alphas 5) (mt.chipletMemoryValue 0 row) +
    mulBase (alphas 6) (mt.chipletMemoryValue 1 row) +
    mulBase (alphas 7) (mt.chipletMemoryValue 2 row) +
    mulBase (alphas 8) (mt.chipletMemoryValue 3 row)

/-- `build_kernel_chiplet_responses`: the procedure's entry when the kernel selector is set,
the neutral element otherwise. -/
def buildKernelChipletResponses (mt : MainTrace) (row : ℕ) (kernelChipletSelector : Felt)
    (alphas : ℕ → E) : E :=
  let opLabel := KERNEL_PROC_LABEL
  let v := alphas 0 + mulBase (alphas 1) opLabel + mulBase (alphas 2) (mt.chipletKernelRoot 0 row) +
    mulBase (alphas 3) (mt.chipletKernelRoot 1 row) +
    mulBase (alphas 4) (mt.chipletKernelRoot 2 row) +
    mulBase (alphas 5) (mt.chipletKernelRoot 3 row)
  mulBase v kernelChipletSelector + algebraMap Felt E (1 - kernelChipletSelector)

def buildKernelProcedureTableResponses (mt : MainTrace) (row : ℕ) (alphas : ℕ → E) : E :=
  let addr := mt.chipletKernelAddr row
  let addrNxt := mt.chipletKernelAddr (row + 1)
  let addrDelta := addrNxt - addr
  let v := alphas 0 + mulBase (alphas 1) addr + mulBase (alphas 2) (mt.chipletKernelRoot 0 row) +
    mulBase (alphas 3) (mt.chipletKernelRoot 1 row) +
    mulBase (alphas 4) (mt.chipletKernelRoot 2 row) +
    mulBase (alphas 5) (mt.chipletKernelRoot 3 row)
  mulBase v addrDelta + algebraMap Felt E (1 - addrDelta)

/-! ## The bus column builder -/

/-- The segment whose response `get_responses_at` builds, read off the if-chain on the selector
values. -/
inductive Segment
  | hasher
  | bitwise
  | memory
  | kernelRom
  | padding
deriving DecidableEq, Repr

/-- The if-chain of `get_responses_at`: the first selector that is `ZERO` names the segment. -/
def responseSegment (selector0 selector1 selector2 selector3 : Felt) : Segment :=
  if selector0 = 0 then .hasher
  else if selector1 = 0 then .bitwise
  else if selector2 = 0 then .memory
  else if selector3 = 0 then .kernelRom
  else .padding

/-- `BusColumnBuilder::get_responses_at` (the `debug_assert`s are left out). -/
def getResponsesAt (mt : MainTrace) (alphas : ℕ → E) (row : ℕ) : E :=
  let selector0 := mt.chipletSelector 0 row
  let selector1 := mt.chipletSelector 1 row
  let selector2 := mt.chipletSelector 2 row
  let selector3 := mt.chipletSelector 3 row
  let selector4 := mt.chipletSelector 4 row
  match responseSegment selector0 selector1 selector2 selector3 with
  | .hasher => buildHasherChipletResponses mt row alphas selector1 selector2 selector3
  | .bitwise => buildBitwiseChipletResponses mt row selector2 alphas
  | .memory => buildMemoryChipletResponses mt row selector3 alphas
  | .kernelRom => buildKernelChipletResponses mt row selector4 alphas *
      buildKernelProcedureTableResponses mt row alphas
  | .padding => 1

/-- `BusColumnBuilder::get_requests_at`: the first arm of the `match` on the opcode that matches;
`none` is the panic of `build_respan_block_request`. -/
def getRequestsAt (ops : OpCodes) (mt : MainTrace) (alphas : ℕ → E) (row : ℕ) : Option E :=
  let opCodeFelt := mt.getOpCode row
  let opCode := opCodeFelt.asInt % 256
  if opCode ∈ [ops.join, ops.split, ops.loop, ops.dyn, ops.call] then
    some (buildControlBlockRequest mt opCodeFelt alphas row)
  else if opCode = ops.syscall then some (buildSyscallBlockRequest mt opCodeFelt alphas row)
  else if opCode = ops.span then some (buildSpanBlockRequest mt alphas row)
  else if opCode = ops.respan then buildRespanBlockRequest mt alphas row
  else if opCode = ops.end then some (buildEndBlockRequest mt alphas row)
  else if opCode = ops.u32and then some (buildBitwiseRequest mt 0 alphas row)
  else if opCode = ops.u32xor then some (buildBitwiseRequest mt 1 alphas row)
  else if opCode = ops.mloadw then some (buildMemRequestWord mt MEMORY_READ_LABEL alphas row)
  else if opCode = ops.mstorew then some (buildMemRequestWord mt MEMORY_WRITE_LABEL alphas row)
  else if opCode = ops.mload then some (buildMemRequestElement mt MEMORY_READ_LABEL alphas row)
  else if opCode = ops.mstore then some (buildMemRequestElement mt MEMORY_WRITE_LABEL alphas row)
  else if opCode = ops.mstream then some (buildMstreamRequest mt alphas row)
  else if opCode = ops.rcombbase then some (buildRcombBaseRequest mt alphas row)
  else if opCode = ops.hperm then some (buildHpermRequest mt alphas row)
  else if opCode = ops.mpverify then some (buildMpverifyRequest mt alphas row)
  else if opCode = ops.mrupdate then some (buildMrupdateRequest mt alphas row)
  else some 1

end MidenVm.Processor
