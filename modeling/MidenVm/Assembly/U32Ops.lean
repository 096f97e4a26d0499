import MidenVm.Felt

/-!
# Parsers of the u32 instructions

`ast/parsers/u32_ops.rs` turns a token `op` (the instruction's name and its `.`-separated
parameters) into the node of a u32 instruction. Every parser has one of four shapes: a token of
one part is the instruction without immediate; a token of two parts reads one parameter, an
error code, an immediate value, an immediate divisor, or a shift or rotation amount; a token of
more parts is an `extra_param` error; and a token of no parts is `unreachable!()`, except in
`parse_u32checked_sub`, which has no arm for it. The assertions, the additions, subtractions and
multiplications and the comparisons first run `debug_assert_eq!(op.parts()[0], name)`, which
panics in a build with debug assertions; the divisions, shifts and rotations do not.

The helpers the parsers call (`parse_param`, `parse_checked_param`, `parse_error_code`,
`check_div_by_zero`) are not in the code modelled here; the results hold for any helpers, and
where they need one, they assume what the helper's name promises.

* `U32Parser.accepts_wellFormed`: in either build, every instruction a parser accepts has one or
  two parts and is well formed: no error code `0` (`u32assert.0` is `U32Assert`), no zero
  divisor, no shift or rotation by more than `31`;
* `U32Parser.run_debug`: a build with debug assertions runs the parser's assertion, if it has
  one, and then answers as a build without;
* `U32Parser.run_eq_none_iff`: a parser panics exactly on a token of no parts (except
  `parse_u32checked_sub`) and, with debug assertions, on a token that does not start with the
  name it asserts.
-/

namespace MidenVm.Assembly.Parsers

def MAX_U32_SHIFT_VALUE : ℕ := 31

def MAX_U32_ROTATE_VALUE : ℕ := 31

/-- Modelled from the spec: a `Token`, the parts of the instruction (its name first). -/
structure Token where
  parts : List String

def Token.numParts (op : Token) : ℕ := op.parts.length

/-- Modelled from the spec: `ParsingError`. These parsers build `extra_param`; the errors of the
helpers, which they pass on, are `invalidParam`. -/
inductive ParsingError
  | extraParam (op : Token)
  | invalidParam (op : Token) (index : ℕ)

/-- Modelled from the spec: the local constants an error code may name. -/
abbrev LocalConstMap := List (String × ℕ)

abbrev U8 := Fin (2 ^ 8)

abbrev U32 := Fin (2 ^ 32)

/-- Modelled from the spec: the helpers of the parser module that these parsers call:
`parse_param::<u32>(op, i)`, `parse_checked_param::<u8, _>(op, i, lo..=hi)`,
`parse_error_code(op, constants)` and `check_div_by_zero(value, op, i)`. -/
structure ParamParsers where
  parseParam : Token → ℕ → Except ParsingError U32
  parseCheckedParam : Token → ℕ → ℕ → ℕ → Except ParsingError U8
  parseErrorCode : Token → LocalConstMap → Except ParsingError U32
  checkDivByZero : ℕ → Token → ℕ → Except ParsingError Unit

/-- What the names of the two checking helpers promise: a checked parameter is in its range,
and a divisor that passes the check is not `0`. -/
structure ParamParsers.Sound (P : ParamParsers) : Prop where
  parseCheckedParam_mem : ∀ op i lo hi n, P.parseCheckedParam op i lo hi = .ok n →
    lo ≤ n.val ∧ n.val ≤ hi
  checkDivByZero_ne : ∀ value op i, P.checkDivByZero value op i = .ok () → value ≠ 0

/-- Modelled from the spec: the u32 instructions of `ast::Instruction` these parsers build. -/
inductive Instruction
  | u32Assert | u32AssertWithError (errCode : U32)
  | u32Assert2 | u32Assert2WithError (errCode : U32)
  | u32AssertW | u32AssertWWithError (errCode : U32)
  | u32CheckedAdd | u32CheckedAddImm (value : U32)
  | u32WrappingAdd | u32WrappingAddImm (value : U32)
  | u32OverflowingAdd | u32OverflowingAddImm (value : U32)
  | u32CheckedSub | u32CheckedSubImm (value : U32)
  | u32WrappingSub | u32WrappingSubImm (value : U32)
  | u32OverflowingSub | u32OverflowingSubImm (value : U32)
  | u32CheckedMul | u32CheckedMulImm (value : U32)
  | u32WrappingMul | u32WrappingMulImm (value : U32)
  | u32OverflowingMul | u32OverflowingMulImm (value : U32)
  | u32CheckedDiv | u32CheckedDivImm (value : U32)
  | u32Div | u32DivImm (value : U32)
  | u32CheckedMod | u32CheckedModImm (value : U32)
  | u32Mod | u32ModImm (value : U32)
  | u32CheckedDivMod | u32CheckedDivModImm (value : U32)
  | u32DivMod | u32DivModImm (value : U32)
  | u32CheckedShr | u32CheckedShrImm (n : U8)
  | u32Shr | u32ShrImm (n : U8)
  | u32CheckedShl | u32CheckedShlImm (n : U8)
  | u32Shl | u32ShlImm (n : U8)
  | u32CheckedRotr | u32CheckedRotrImm (n : U8)
  | u32Rotr | u32RotrImm (n : U8)
  | u32CheckedRotl | u32CheckedRotlImm (n : U8)
  | u32Rotl | u32RotlImm (n : U8)
  | u32CheckedEq | u32CheckedEqImm (value : U32)
  | u32CheckedNeq | u32CheckedNeqImm (value : U32)

/-- A well-formed u32 instruction: an error code is not `0`, a divisor is not `0`, and a shift
or rotation amount is at most its maximum. -/
def Instruction.WellFormed : Instruction → Prop
  | .u32AssertWithError errCode | .u32Assert2WithError errCode | .u32AssertWWithError errCode =>
    errCode.val ≠ 0
  | .u32CheckedDivImm value | .u32DivImm value | .u32CheckedModImm value | .u32ModImm value
  | .u32CheckedDivModImm value | .u32DivModImm value => value.val ≠ 0
  | .u32CheckedShrImm n | .u32ShrImm n | .u32CheckedShlImm n | .u32ShlImm n =>
    n.val ≤ MAX_U32_SHIFT_VALUE
  | .u32CheckedRotrImm n | .u32RotrImm n | .u32CheckedRotlImm n | .u32RotlImm n =>
    n.val ≤ MAX_U32_ROTATE_VALUE
  | _ => True

/-! ## The parsers -/

section Parsers

variable (P : ParamParsers) (op : Token)

/-- `debug_assert_eq!(op.parts()[0], name)`: with debug assertions it panics on a token without
parts (the index is out of bounds) or with another first part; without them it does nothing. -/
def debugAssertName (debugAssertions : Bool) (name : String) : Option Unit :=
  if debugAssertions then (if op.parts.head? = some name then some () else none) else some ()

/-- The shape all the parsers but `parse_u32checked_sub` share: no part is `unreachable!()`,
one part is `plain`, two parts are what `withParam` reads, more parts are an `extra_param`
error. -/
def parseOptionalParam (plain : Instruction) (withParam : Except ParsingError Instruction) :
    Option (Except ParsingError Instruction) :=
  match op.numParts with
  | 0 => none
  | 1 => some (.ok plain)
  | 2 => some withParam
  | _ => some (.error (.extraParam op))

/-- The two-part arm of the assertions: an error code of `0` is the plain assertion. -/
def withErrorCode (constants : LocalConstMap) (plain : Instruction)
    (withError : U32 → Instruction) : Except ParsingError Instruction := do
  let errCode ← P.parseErrorCode op constants
  pure (if errCode.val = 0 then plain else withError errCode)

/-- The two-part arm of the instructions with an immediate value. -/
def withValue (imm : U32 → Instruction) : Except ParsingError Instruction := do
  let value ← P.parseParam op 1
  pure (imm value)

/-- The two-part arm of the divisions: the divisor must pass `check_div_by_zero`. -/
def withDivisor (imm : U32 → Instruction) : Except ParsingError Instruction := do
  let value ← P.parseParam op 1
  P.checkDivByZero value.val op 1
  pure (imm value)

/-- The two-part arm of the shifts and rotations: an amount in `0..=max`. -/
def withAmount (max : ℕ) (imm : U8 → Instruction) : Except ParsingError Instruction := do
  let n ← P.parseCheckedParam op 1 0 max
  pure (imm n)

def parseU32assert (debugAssertions : Bool) (constants : LocalConstMap) := do
  debugAssertName op debugAssertions "u32assert"
  parseOptionalParam op .u32Assert (withErrorCode P op constants .u32Assert .u32AssertWithError)

def parseU32assert2 (debugAssertions : Bool) (constants : LocalConstMap) := do
  debugAssertName op debugAssertions "u32assert2"
  parseOptionalParam op .u32Assert2
    (withErrorCode P op constants .u32Assert2 .u32Assert2WithError)

def parseU32assertw (debugAssertions : Bool) (constants : LocalConstMap) := do
  debugAssertName op debugAssertions "u32assertw"
  parseOptionalParam op .u32AssertW
    (withErrorCode P op constants .u32AssertW .u32AssertWWithError)

def parseU32checkedAdd (debugAssertions : Bool) := do
  debugAssertName op debugAssertions "u32checked_add"
  parseOptionalParam op .u32CheckedAdd (withValue P op .u32CheckedAddImm)

def parseU32wrappingAdd (debugAssertions : Bool) := do
  debugAssertName op debugAssertions "u32wrapping_add"
  parseOptionalParam op .u32WrappingAdd (withValue P op .u32WrappingAddImm)

def parseU32overflowingAdd (debugAssertions : Bool) := do
  debugAssertName op debugAssertions "u32overflowing_add"
  parseOptionalParam op .u32OverflowingAdd (withValue P op .u32OverflowingAddImm)

/-- `parse_u32checked_sub`: the only parser without a `0 => unreachable!()` arm. A token of no
parts fails its debug assertion in a build with debug assertions, and falls to the `extra_param`
error in one without. -/
def parseU32checkedSub (debugAssertions : Bool) : Option (Except ParsingError Instruction) := do
  debugAssertName op debugAssertions "u32checked_sub"
  match op.numParts with
  | 1 => some (.ok .u32CheckedSub)
  | 2 => some (withValue P op .u32CheckedSubImm)
  | _ => some (.error (.extraParam op))

def parseU32wrappingSub (debugAssertions : Bool) := do
  debugAssertName op debugAssertions "u32wrapping_sub"
  parseOptionalParam op .u32WrappingSub (withValue P op .u32WrappingSubImm)

def parseU32overflowingSub (debugAssertions : Bool) := do
  debugAssertName op debugAssertions "u32overflowing_sub"
  parseOptionalParam op .u32OverflowingSub (withValue P op .u32OverflowingSubImm)

def parseU32checkedMul (debugAssertions : Bool) := do
  debugAssertName op debugAssertions "u32checked_mul"
  parseOptionalParam op .u32CheckedMul (withValue P op .u32CheckedMulImm)

def parseU32wrappingMul (debugAssertions : Bool) := do
  debugAssertName op debugAssertions "u32wrapping_mul"
  parseOptionalParam op .u32WrappingMul (withValue P op .u32WrappingMulImm)

def parseU32overflowingMul (debugAssertions : Bool) := do
  debugAssertName op debugAssertions "u32overflowing_mul"
  parseOptionalParam op .u32OverflowingMul (withValue P op .u32OverflowingMulImm)

def parseU32Div (checked : Bool) :=
  parseOptionalParam op (if checked then .u32CheckedDiv else .u32Div)
    (withDivisor P op fun value => if checked then .u32CheckedDivImm value else .u32DivImm value)

def parseU32Mod (checked : Bool) :=
  parseOptionalParam op (if checked then .u32CheckedMod else .u32Mod)
    (withDivisor P op fun value => if checked then .u32CheckedModImm value else .u32ModImm value)

def parseU32Divmod (checked : Bool) :=
  parseOptionalParam op (if checked then .u32CheckedDivMod else .u32DivMod)
    (withDivisor P op fun value =>
      if checked then .u32CheckedDivModImm value else .u32DivModImm value)

def parseU32Shr (checked : Bool) :=
  parseOptionalParam op (if checked then .u32CheckedShr else .u32Shr)
    (withAmount P op MAX_U32_SHIFT_VALUE fun n =>
      if checked then .u32CheckedShrImm n else .u32ShrImm n)

def parseU32Shl (checked : Bool) :=
  parseOptionalParam op (if checked then .u32CheckedShl else .u32Shl)
    (withAmount P op MAX_U32_SHIFT_VALUE fun n =>
      if checked then .u32CheckedShlImm n else .u32ShlImm n)

def parseU32Rotr (checked : Bool) :=
  parseOptionalParam op (if checked then .u32CheckedRotr else .u32Rotr)
    (withAmount P op MAX_U32_ROTATE_VALUE fun n =>
      if checked then .u32CheckedRotrImm n else .u32RotrImm n)

def parseU32Rotl (checked : Bool) :=
  parseOptionalParam op (if checked then .u32CheckedRotl else .u32Rotl)
    (withAmount P op MAX_U32_ROTATE_VALUE fun n =>
      if checked then .u32CheckedRotlImm n else .u32RotlImm n)

def parseU32checkedEq (debugAssertions : Bool) := do
  debugAssertName op debugAssertions "u32checked_eq"
  parseOptionalParam op .u32CheckedEq (withValue P op .u32CheckedEqImm)

def parseU32checkedNeq (debugAssertions : Bool) := do
  debugAssertName op debugAssertions "u32checked_neq"
  parseOptionalParam op .u32CheckedNeq (withValue P op .u32CheckedNeqImm)

end Parsers

/-- The parsers of the file, each with its `checked` flag where it has one. -/
inductive U32Parser
  | assert | assert2 | assertw
  | checkedAdd | wrappingAdd | overflowingAdd
  | checkedSub | wrappingSub | overflowingSub
  | checkedMul | wrappingMul | overflowingMul
  | div (checked : Bool) | mod (checked : Bool) | divmod (checked : Bool)
  | shr (checked : Bool) | shl (checked : Bool) | rotr (checked : Bool) | rotl (checked : Bool)
  | checkedEq | checkedNeq
  deriving DecidableEq

/-- A parser run on a token, in a build with or without debug assertions. -/
def U32Parser.run (P : ParamParsers) (debugAssertions : Bool) (op : Token)
    (constants : LocalConstMap) : U32Parser → Option (Except ParsingError Instruction)
  | .assert => parseU32assert P op debugAssertions constants
  | .assert2 => parseU32assert2 P op debugAssertions constants
  | .assertw => parseU32assertw P op debugAssertions constants
  | .checkedAdd => parseU32checkedAdd P op debugAssertions
  | .wrappingAdd => parseU32wrappingAdd P op debugAssertions
  | .overflowingAdd => parseU32overflowingAdd P op debugAssertions
  | .checkedSub => parseU32checkedSub P op debugAssertions
  | .wrappingSub => parseU32wrappingSub P op debugAssertions
  | .overflowingSub => parseU32overflowingSub P op debugAssertions
  | .checkedMul => parseU32checkedMul P op debugAssertions
  | .wrappingMul => parseU32wrappingMul P op debugAssertions
  | .overflowingMul => parseU32overflowingMul P op debugAssertions
  | .div checked => parseU32Div P op checked
  | .mod checked => parseU32Mod P op checked
  | .divmod checked => parseU32Divmod P op checked
  | .shr checked => parseU32Shr P op checked
  | .shl checked => parseU32Shl P op checked
  | .rotr checked => parseU32Rotr P op checked
  | .rotl checked => parseU32Rotl P op checked
  | .checkedEq => parseU32checkedEq P op debugAssertions
  | .checkedNeq => parseU32checkedNeq P op debugAssertions

/-- The name a parser's `debug_assert_eq!` compares the first part with; the divisions, shifts
and rotations have none. -/
def U32Parser.assertedName : U32Parser → Option String
  | .assert => some "u32assert"
  | .assert2 => some "u32assert2"
  | .assertw => some "u32assertw"
  | .checkedAdd => some "u32checked_add"
  | .wrappingAdd => some "u32wrapping_add"
  | .overflowingAdd => some "u32overflowing_add"
  | .checkedSub => some "u32checked_sub"
  | .wrappingSub => some "u32wrapping_sub"
  | .overflowingSub => some "u32overflowing_sub"
  | .checkedMul => some "u32checked_mul"
  | .wrappingMul => some "u32wrapping_mul"
  | .overflowingMul => some "u32overflowing_mul"
  | .div _ | .mod _ | .divmod _ | .shr _ | .shl _ | .rotr _ | .rotl _ => none
  | .checkedEq => some "u32checked_eq"
  | .checkedNeq => some "u32checked_neq"

/-- The debug assertion a parser runs first, if it has one. -/
def U32Parser.debugAssert (p : U32Parser) (debugAssertions : Bool) (op : Token) : Option Unit :=
  match p.assertedName with
  | some name => debugAssertName op debugAssertions name
  | none => some ()

/-! ## What the parsers accept -/

section Accepts

variable {P : ParamParsers} {op : Token} {inst : Instruction}

/-- The shared shape accepts one part as the plain instruction and two parts as the parameter's
arm: a well-formed plain instruction and an arm that accepts only well-formed ones make a parser
that accepts only well-formed ones. -/
lemma parseOptionalParam_wellFormed {plain : Instruction} {w : Except ParsingError Instruction}
    (h : parseOptionalParam op plain w = some (.ok inst)) (hplain : plain.WellFormed)
    (hw : ∀ inst, w = .ok inst → inst.WellFormed) :
    (op.numParts = 1 ∨ op.numParts = 2) ∧ inst.WellFormed := by
  unfold parseOptionalParam at h
  split at h
  · cases h
  · cases h
    exact ⟨.inl ‹_›, hplain⟩
  · exact ⟨.inr ‹_›, hw inst (Option.some_injective _ h)⟩
  · cases h

lemma of_debugAssertName_bind {debugAssertions : Bool} {name : String}
    {x : Option (Except ParsingError Instruction)} {y : Except ParsingError Instruction}
    (h : (debugAssertName op debugAssertions name >>= fun _ => x) = some y) : x = some y := by
  cases hd : debugAssertName op debugAssertions name <;> simp_all

variable (P op)

lemma withErrorCode_wellFormed (constants : LocalConstMap) {plain : Instruction}
    {withError : U32 → Instruction} (hplain : plain.WellFormed)
    (hwith : ∀ code : U32, code.val ≠ 0 → (withError code).WellFormed) :
    ∀ inst, withErrorCode P op constants plain withError = .ok inst → inst.WellFormed := by
  intro inst h
  unfold withErrorCode at h
  rcases hc : P.parseErrorCode op constants with _ | code <;> rw [hc] at h
  · cases h
  · cases h
    split_ifs with h0
    · exact hplain
    · exact hwith code h0

lemma withValue_wellFormed {imm : U32 → Instruction} (himm : ∀ value, (imm value).WellFormed) :
    ∀ inst, withValue P op imm = .ok inst → inst.WellFormed := by
  intro inst h
  unfold withValue at h
  rcases hv : P.parseParam op 1 with _ | value <;> rw [hv] at h
  · cases h
  · cases h
    exact himm value

variable {P op}

lemma withDivisor_wellFormed (hP : P.Sound) {imm : U32 → Instruction}
    (himm : ∀ value : U32, value.val ≠ 0 → (imm value).WellFormed) :
    ∀ inst, withDivisor P op imm = .ok inst → inst.WellFormed := by
  intro inst h
  unfold withDivisor at h
  rcases hv : P.parseParam op 1 with _ | value <;> simp only [hv, bind, Except.bind] at h
  · cases h
  rcases hd : P.checkDivByZero value.val op 1 with _ | ⟨⟩ <;> simp only [hd] at h
  · cases h
  · cases h
    exact himm value (hP.checkDivByZero_ne _ _ _ hd)

lemma withAmount_wellFormed (hP : P.Sound) {max : ℕ} {imm : U8 → Instruction}
    (himm : ∀ n : U8, n.val ≤ max → (imm n).WellFormed) :
    ∀ inst, withAmount P op max imm = .ok inst → inst.WellFormed := by
  intro inst h
  unfold withAmount at h
  rcases hn : P.parseCheckedParam op 1 0 max with _ | n <;> rw [hn] at h
  · cases h
  · cases h
    exact himm n (hP.parseCheckedParam_mem _ _ _ _ _ hn).2

lemma parseU32checkedSub_wellFormed {debugAssertions : Bool}
    (h : parseU32checkedSub P op debugAssertions = some (.ok inst)) :
    (op.numParts = 1 ∨ op.numParts = 2) ∧ inst.WellFormed := by
  replace h := of_debugAssertName_bind h
  split at h
  · cases h
    exact ⟨.inl ‹_›, trivial⟩
  · exact ⟨.inr ‹_›, withValue_wellFormed P op
      (show ∀ v, (Instruction.u32CheckedSubImm v).WellFormed from fun _ => trivial) inst
      (Option.some_injective _ h)⟩
  · cases h

end Accepts

open U32Parser

/-- **The u32 parsers accept only well-formed instructions.** With helpers that keep what their
names promise, every instruction a parser accepts comes from a token of one or two parts and is
well formed: an assertion carries no error code `0`, a division no divisor `0`, a shift or
rotation no amount above `31`. -/
theorem U32Parser.accepts_wellFormed (P : ParamParsers) (hP : P.Sound) (p : U32Parser)
    (debugAssertions : Bool) (op : Token) (constants : LocalConstMap) (inst : Instruction)
    (h : p.run P debugAssertions op constants = some (.ok inst)) :
    (op.numParts = 1 ∨ op.numParts = 2) ∧ inst.WellFormed := by
  cases p with
  | assert | assert2 | assertw =>
    exact parseOptionalParam_wellFormed (of_debugAssertName_bind h) trivial
      (withErrorCode_wellFormed P op constants trivial fun _ h0 => h0)
  | checkedAdd | wrappingAdd | overflowingAdd | wrappingSub | overflowingSub | checkedMul
  | wrappingMul | overflowingMul | checkedEq | checkedNeq =>
    exact parseOptionalParam_wellFormed (of_debugAssertName_bind h) trivial
      (withValue_wellFormed P op fun _ => trivial)
  | checkedSub => exact parseU32checkedSub_wellFormed h
  | div checked | mod checked | divmod checked =>
    cases checked <;>
      exact parseOptionalParam_wellFormed h trivial (withDivisor_wellFormed hP fun _ hv => hv)
  | shr checked | shl checked | rotr checked | rotl checked =>
    cases checked <;>
      exact parseOptionalParam_wellFormed h trivial (withAmount_wellFormed hP fun _ hn => hn)

def decimalValue (s : String) : Option ℕ :=
  if s.data ≠ [] ∧ s.data.all Char.isDigit = true then
    some (s.data.foldl (fun n c => 10 * n + (c.toNat - '0'.toNat)) 0)
  else none

/-- Helpers that read decimal parameters, keep an amount in its range and refuse a divisor
`0`. -/
def decimalParams : ParamParsers where
  parseParam op i :=
    match decimalValue (op.parts.getD i "") with
    | some n => if h : n < 2 ^ 32 then .ok ⟨n, h⟩ else .error (.invalidParam op i)
    | none => .error (.invalidParam op i)
  parseCheckedParam op i lo hi :=
    match decimalValue (op.parts.getD i "") with
    | some n =>
      if h : lo ≤ n ∧ n ≤ hi ∧ n < 2 ^ 8 then .ok ⟨n, h.2.2⟩ else .error (.invalidParam op i)
    | none => .error (.invalidParam op i)
  parseErrorCode op _ :=
    match decimalValue (op.parts.getD 1 "") with
    | some n => if h : n < 2 ^ 32 then .ok ⟨n, h⟩ else .error (.invalidParam op 1)
    | none => .error (.invalidParam op 1)
  checkDivByZero value op i := if value = 0 then .error (.invalidParam op i) else .ok ()

lemma decimalParams_sound : decimalParams.Sound where
  parseCheckedParam_mem op i lo hi n h := by
    simp only [decimalParams] at h
    split at h
    · split_ifs at h with hb
      cases h
      exact ⟨hb.1, hb.2.1⟩
    · cases h
  checkDivByZero_ne value op i h := by
    simp only [decimalParams] at h
    split_ifs at h with h0
    exact h0

/-- `u32checked_div.3` is accepted as a division by `3`. -/
theorem accepts_wellFormed_checked_div :
    ((⟨["u32checked_div", "3"]⟩ : Token).numParts = 1 ∨
      (⟨["u32checked_div", "3"]⟩ : Token).numParts = 2) ∧
    (Instruction.u32CheckedDivImm 3).WellFormed :=
  U32Parser.accepts_wellFormed decimalParams decimalParams_sound (.div true) true
    ⟨["u32checked_div", "3"]⟩ [] _ rfl

/-! ## Where the parsers panic -/

section Panics

@[simp] lemma debugAssertName_false {op : Token} {name : String} :
    debugAssertName op false name = some () := rfl

@[simp] lemma debugAssertName_eq_none_iff {op : Token} {name : String} {debugAssertions : Bool} :
    debugAssertName op debugAssertions name = none ↔
      debugAssertions = true ∧ op.parts.head? ≠ some name := by
  unfold debugAssertName
  split_ifs <;> simp_all

@[simp] lemma parseOptionalParam_eq_none_iff {op : Token} {plain : Instruction}
    {w : Except ParsingError Instruction} : parseOptionalParam op plain w = none ↔ op.numParts = 0 := by
  unfold parseOptionalParam
  split <;> simp_all

lemma bind_unit_eq_none_iff {α : Type} {x : Option Unit} {y : Option α} :
    (x >>= fun _ => y) = none ↔ x = none ∨ y = none := by
  cases x <;> simp

variable (P : ParamParsers) (p : U32Parser) (op : Token) (constants : LocalConstMap)

/-- **A build with debug assertions adds the assertion and nothing else.** It runs the parser's
`debug_assert_eq!`, if it has one, and then answers as a build without debug assertions. -/
theorem U32Parser.run_debug :
    p.run P true op constants = p.debugAssert true op >>= fun _ => p.run P false op constants := by
  cases p <;> rfl

/-- Without debug assertions, a parser panics exactly on a token of no parts, at its
`unreachable!()`; `parse_u32checked_sub`, which has no such arm, never panics. -/
lemma U32Parser.run_release_eq_none_iff :
    p.run P false op constants = none ↔ op.numParts = 0 ∧ p ≠ .checkedSub := by
  cases p
  case checkedSub =>
    simp only [run, parseU32checkedSub, debugAssertName_false, Option.pure_def, Option.bind_eq_bind,
      Option.some_bind]
    split <;> simp
  all_goals simp [run, parseU32assert, parseU32assert2, parseU32assertw, parseU32checkedAdd,
    parseU32wrappingAdd, parseU32overflowingAdd, parseU32wrappingSub, parseU32overflowingSub,
    parseU32checkedMul, parseU32wrappingMul, parseU32overflowingMul, parseU32Div, parseU32Mod,
    parseU32Divmod, parseU32Shr, parseU32Shl, parseU32Rotr, parseU32Rotl, parseU32checkedEq,
    parseU32checkedNeq]

/-- **Where the u32 parsers panic.** A parser panics on a token of no parts, except
`parse_u32checked_sub`, and, in a build with debug assertions, on a token that does not start
with the name it asserts; the divisions, shifts and rotations assert no name. -/
theorem U32Parser.run_eq_none_iff (debugAssertions : Bool) :
    p.run P debugAssertions op constants = none ↔
      (debugAssertions = true ∧ ∃ name, p.assertedName = some name ∧ op.parts.head? ≠ some name) ∨
        (op.numParts = 0 ∧ p ≠ .checkedSub) := by
  cases debugAssertions
  · simp [run_release_eq_none_iff]
  · rw [run_debug, bind_unit_eq_none_iff, run_release_eq_none_iff, debugAssert]
    cases p.assertedName <;> simp

end Panics

end MidenVm.Assembly.Parsers
