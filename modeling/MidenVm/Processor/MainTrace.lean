import MidenVm.Processor.Layout

/-!
# The main trace, as the chiplet bus builders read it

`MainTrace` (of `miden_air`, not in the sources) is modelled from the spec as the columns the
builders of `aux_trace/mod.rs` consume: the decoder's opcode, block address and hasher state,
the operand stack, the helper registers, the context and clock, and the chiplets table
`Chiplets::fill_trace` produces. Columns are total functions of the row; the builders only read
rows the column builder visits.

The chiplets accessors read the columns the doc of `Chiplets` assigns: the selectors are
columns `0 - 4`; the hasher's state is columns `4 - 15` and its node index column `16`; the
bitwise chiplet's `a`, `b`, `z` are columns `3`, `4`, `14`; the memory chiplet's context,
address, clock and value are columns `5`, `6`, `7`, `8 - 11`; the kernel ROM's address is column
`5` and its root columns `6 - 9`.
-/

namespace MidenVm.Processor

/-- Modelled from the spec: the main trace columns the chiplet bus builders read. -/
structure MainTrace where
  /-- the decoder's opcode, as a field element -/
  opCode : ℕ → Felt
  /-- the decoder's block address column `addr` -/
  addr : ℕ → Felt
  /-- `decoder_hasher_state(row)[i]` -/
  decoderHasherState : ℕ → ℕ → Felt
  /-- `stack_element(i, row)` -/
  stackElement : ℕ → ℕ → Felt
  /-- `helper_register(i, row)` -/
  helperRegister : ℕ → ℕ → Felt
  /-- `ctx(row)` -/
  ctx : ℕ → Felt
  /-- `clk(row)` -/
  clk : ℕ → Felt
  /-- the chiplets table -/
  chiplets : Table

namespace MainTrace

variable (mt : MainTrace)

def getOpCode (row : ℕ) : Felt := mt.opCode row

/-- `chiplet_selector_i(row)`, `i = 0 .. 4`. -/
def chipletSelector (i row : ℕ) : Felt := mt.chiplets i row

/-- `chiplet_hasher_state(row)[k]`, `k < 12`. -/
def chipletHasherState (row k : ℕ) : Felt := mt.chiplets (4 + k) row

def chipletNodeIndex (row : ℕ) : Felt := mt.chiplets 16 row

def chipletBitwiseA (row : ℕ) : Felt := mt.chiplets 3 row

def chipletBitwiseB (row : ℕ) : Felt := mt.chiplets 4 row

def chipletBitwiseZ (row : ℕ) : Felt := mt.chiplets 14 row

def chipletMemoryCtx (row : ℕ) : Felt := mt.chiplets 5 row

def chipletMemoryAddr (row : ℕ) : Felt := mt.chiplets 6 row

def chipletMemoryClk (row : ℕ) : Felt := mt.chiplets 7 row

/-- `chiplet_memory_value_i(row)`, `i < 4`. -/
def chipletMemoryValue (i row : ℕ) : Felt := mt.chiplets (8 + i) row

def chipletKernelAddr (row : ℕ) : Felt := mt.chiplets 5 row

/-- `chiplet_kernel_root_i(row)`, `i < 4`. -/
def chipletKernelRoot (i row : ℕ) : Felt := mt.chiplets (6 + i) row

/-- `is_kernel_row(row)`: the selectors read `1, 1, 1, 0`. -/
def isKernelRow (row : ℕ) : Prop :=
  mt.chipletSelector 0 row = 1 ∧ mt.chipletSelector 1 row = 1 ∧ mt.chipletSelector 2 row = 1 ∧
    mt.chipletSelector 3 row = 0

instance (row : ℕ) : Decidable (mt.isKernelRow row) := inferInstanceAs (Decidable (_ ∧ _))

/-- Modelled from the spec: `is_addr_change(row)`, the kernel ROM address of the row differs from
the next row's. -/
def isAddrChange (row : ℕ) : Prop := mt.chipletKernelAddr row ≠ mt.chipletKernelAddr (row + 1)

instance (row : ℕ) : Decidable (mt.isAddrChange row) := inferInstanceAs (Decidable (¬ _))

/-- The hasher selectors of a row are `0, s1, s2, s3`. -/
def HasherSelectors (row : ℕ) (s1 s2 s3 : Felt) : Prop :=
  mt.chipletSelector 0 row = 0 ∧ mt.chipletSelector 1 row = s1 ∧ mt.chipletSelector 2 row = s2 ∧
    mt.chipletSelector 3 row = s3

instance (row : ℕ) (s1 s2 s3 : Felt) : Decidable (mt.HasherSelectors row s1 s2 s3) :=
  inferInstanceAs (Decidable (_ ∧ _))

/-- Modelled from the spec: `f_mv(row)`, the first row of a cycle computing an old Merkle root. -/
def fMv (row : ℕ) : Prop := row % 8 = 0 ∧ mt.HasherSelectors row 1 1 0

/-- Modelled from the spec: `f_mva(row)`, the last row of a cycle computing an old Merkle root,
where the next node is absorbed. -/
def fMva (row : ℕ) : Prop := row % 8 = 7 ∧ mt.HasherSelectors row 1 1 0

/-- Modelled from the spec: `f_mu(row)`, the first row of a cycle computing a new Merkle root. -/
def fMu (row : ℕ) : Prop := row % 8 = 0 ∧ mt.HasherSelectors row 1 1 1

/-- Modelled from the spec: `f_mua(row)`, the last row of a cycle computing a new Merkle root,
where the next node is absorbed. -/
def fMua (row : ℕ) : Prop := row % 8 = 7 ∧ mt.HasherSelectors row 1 1 1

instance (row : ℕ) : Decidable (mt.fMv row) := inferInstanceAs (Decidable (_ ∧ _))
instance (row : ℕ) : Decidable (mt.fMva row) := inferInstanceAs (Decidable (_ ∧ _))
instance (row : ℕ) : Decidable (mt.fMu row) := inferInstanceAs (Decidable (_ ∧ _))
instance (row : ℕ) : Decidable (mt.fMua row) := inferInstanceAs (Decidable (_ ∧ _))

end MainTrace

end MidenVm.Processor
