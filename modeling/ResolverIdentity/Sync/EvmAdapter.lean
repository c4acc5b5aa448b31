/-
  ResolverIdentity.Sync.EvmAdapter: the EVM adapter of the Registry synchronizer.

  `finalized_checkpoint` and `read_snapshot` of `ri-chain-adapter/src/evm.rs`.  What
  the JSON-RPC calls of one use return, and what `verify_target` and `resolver_record`
  make of the contract's answers, come from outside.

  Main results:
    * `parse_quantity_quantity`: a quantity is read back as the number it was written for.
-/
import Mathlib.Data.List.Dedup
import ResolverIdentity.Sync.Reconcile

namespace ResolverIdentity.Sync

open Library Store

/-! ## §1. Quantities. -/

/-- `char::to_digit(16)`. -/
def to_digit (c : Char) : Option Nat :=
  let n := c.toNat
  if 48 ≤ n && n ≤ 57 then some (n - 48)
  else if 97 ≤ n && n ≤ 102 then some (n - 87)
  else if 65 ≤ n && n ≤ 70 then some (n - 55)
  else none

/-- The loop of `u64::from_str_radix`. -/
def radix_digits : List Char → Nat → Except String Nat
  | [], n => .ok n
  | c :: rest, n => do
    let digit ← okOr (to_digit c) "invalid digit found in string"
    rejectIf (2 ^ 64 ≤ n * 16 + digit) "number too large to fit in target type"
    radix_digits rest (n * 16 + digit)

/-- `u64::from_str_radix(text, 16)`: one plus sign may stand in front of the digits. -/
def from_str_radix : List Char → Except String Nat
  | [] => .error "cannot parse integer from empty string"
  | [c] => radix_digits [c] 0
  | c :: rest => if c = '+' then radix_digits rest 0 else radix_digits (c :: rest) 0

/-- A hexadecimal quantity of JSON-RPC. -/
def parse_quantity (value : Json) : Except String Nat := do
  let text ← okOr value.as_str "quantity is not a string"
  match text.toList with
  | '0' :: 'x' :: rest => from_str_radix rest
  | _ => .error "quantity lacks 0x prefix"

/-- `format!("0x{number:x}")`. -/
def quantity (number : Nat) : String := String.ofList ('0' :: 'x' :: Nat.toDigits 16 number)

theorem radix_digits_append {digits : List Char} :
    ∀ {more : List Char} {n m : Nat}, radix_digits digits n = .ok m →
      radix_digits (digits ++ more) n = radix_digits more m := by
  induction digits with
  | nil =>
    intro more n m h
    rw [← Except.ok.inj h]
    rfl
  | cons c rest ih =>
    intro more n m h
    unfold radix_digits at h
    simp only [bind_eq_ok, exists_unit, okOr_eq_ok, rejectIf_eq_ok] at h
    obtain ⟨digit, hdigit, hfits, hrest⟩ := h
    rw [List.cons_append, radix_digits, hdigit]
    show (do rejectIf (2 ^ 64 ≤ n * 16 + digit) _; radix_digits (rest ++ more) _) = _
    rw [hfits]
    exact ih hrest

theorem to_digit_digitChar : ∀ digit < 16, to_digit (Nat.digitChar digit) = some digit := by
  decide

theorem radix_digits_toDigits {n : Nat} (h : n < 2 ^ 64) :
    radix_digits (Nat.toDigits 16 n) 0 = .ok n := by
  induction n using Nat.strongRecOn with
  | ind n ih =>
    -- the last digit, on its own or behind the others
    have hlast : ∀ prior, prior * 16 + n % 16 = n →
        radix_digits [Nat.digitChar (n % 16)] prior = .ok n := by
      intro prior hprior
      have hdigit := to_digit_digitChar (n % 16) (Nat.mod_lt n (by decide))
      unfold radix_digits
      rw [hdigit]
      show (do rejectIf (2 ^ 64 ≤ prior * 16 + n % 16) _; radix_digits [] _) = _
      rw [hprior, decide_eq_false (by omega)]
      rfl
    by_cases hsmall : n < 16
    · rw [Nat.toDigits_of_lt_base hsmall]
      have hone := hlast 0 (by omega)
      rw [Nat.mod_eq_of_lt hsmall] at hone
      exact hone
    · rw [Nat.toDigits_of_base_le (by decide) (by omega),
        radix_digits_append (ih (n / 16) (by omega) (by omega))]
      exact hlast (n / 16) (by omega)

/-- A quantity is read back as the number it was written for. -/
theorem parse_quantity_quantity {n : Nat} (h : n < 2 ^ 64) :
    parse_quantity (.string (quantity n)) = .ok n := by
  have hdigits := radix_digits_toDigits h
  unfold parse_quantity quantity
  simp only [Json.as_str, okOr, ok_bind, String.toList_ofList]
  cases hchars : Nat.toDigits 16 n with
  | nil => exact absurd hchars Nat.toDigits_ne_nil
  | cons c rest =>
    rw [hchars] at hdigits
    cases rest with
    | nil => exact hdigits
    | cons c' rest =>
      -- a digit is no plus sign
      have hne : c ≠ '+' := by
        intro hplus
        rw [hplus] at hdigits
        cases hdigits
      show (if c = '+' then _ else radix_digits (c :: c' :: rest) 0) = _
      rw [if_neg hne]
      exact hdigits

/-! ## §2. Blocks. -/

/-- Number and hash of a block. -/
def parse_block (value : Json) (finality_type : RegistryFinalityTypeV2) :
    Except String FinalizedCheckpoint := do
  let number ← okOr (value.get "number") "block number missing"
  let number ← parse_quantity number
  let hash ← okOr ((value.get "hash").bind Json.as_str) "block hash missing"
  let hash ← normalize_hash hash 32
  .ok { number, hash, finality_type }

/-- What the calls made for one checkpoint return. -/
structure CheckpointCalls where
  /-- `eth_getBlockByNumber` of the tag `finalized`. -/
  finalized : Except String Json
  /-- `eth_blockNumber`. -/
  block_number : Except String Json
  /-- `eth_getBlockByNumber` of a number. -/
  block : String → Except String Json

/-- The fallback of `finalized_checkpoint`. -/
def confirmed_checkpoint (fallback_confirmations : Nat) (calls : CheckpointCalls) :
    Except String FinalizedCheckpoint := do
  let head ← calls.block_number
  let head ← parse_quantity head
  rejectIf (head < fallback_confirmations)
    "chain head has fewer blocks than fallback confirmations"
  let value ← calls.block (quantity (head - fallback_confirmations))
  parse_block value .evmConfirmations

/-- Only a failed call or a null block falls back; a block that does not parse is an
error. -/
def finalized_checkpoint (fallback_confirmations : Nat) (calls : CheckpointCalls) :
    Except String FinalizedCheckpoint :=
  match calls.finalized with
  | .ok .null => confirmed_checkpoint fallback_confirmations calls
  | .ok value => parse_block value .evmFinalized
  | .error _ => confirmed_checkpoint fallback_confirmations calls

/-! ## §3. Snapshots. -/

/-- What the rest of one `read_snapshot` works on. -/
structure ContractAnswers where
  verify_target : Except String Unit
  resolver_record : DnsServerIdentityV2 → Except String RegistryRecord
  /-- `block_hash` of the checkpoint's height, after the records. -/
  block_hash : Except String String

/-- The loop over the identities; `resolver_keys` are those seen so far. -/
def resolver_records (resolver_record : DnsServerIdentityV2 → Except String RegistryRecord) :
    List DnsServerIdentityV2 → List String → AList (fun _ : String => RegistryRecord) →
      Except String (AList (fun _ : String => RegistryRecord))
  | [], _, records => .ok records
  | identity :: rest, resolver_keys, records => do
    let record ← resolver_record identity
    rejectIf (resolver_keys.contains record.resolver_id_key)
      "EVM Registry returned a duplicate Resolver ID key"
    rejectIf (records.lookup identity.server_id).isSome
      "duplicate server_id requested from EVM adapter"
    resolver_records resolver_record rest (record.resolver_id_key :: resolver_keys)
      (records.insert identity.server_id record)

/-- `read_snapshot` of the EVM adapter: the checkpoint, then the contract at it. -/
def read_snapshot (fallback_confirmations : Nat) (calls : CheckpointCalls)
    (answers : ContractAnswers) (identities : List DnsServerIdentityV2) :
    Except String ChainSnapshot := do
  let checkpoint ← finalized_checkpoint fallback_confirmations calls
  answers.verify_target
  let records ← resolver_records answers.resolver_record identities [] ∅
  let confirmed_hash ← answers.block_hash
  rejectIf (confirmed_hash != checkpoint.hash)
    "finalized block hash changed during EVM reconciliation"
  let state_roots := (records.entries.map (fun entry => entry.2.state_root)).dedup
  match state_roots with
  | [state_root] => .ok { generation := checkpoint.number, checkpoint, state_root, records }
  | _ => .error "EVM Registry records do not share one state root"

theorem checkpoint_of_read_snapshot {fallback_confirmations : Nat} {calls : CheckpointCalls}
    {answers : ContractAnswers} {identities : List DnsServerIdentityV2} {snapshot : ChainSnapshot}
    (h : read_snapshot fallback_confirmations calls answers identities = .ok snapshot) :
    finalized_checkpoint fallback_confirmations calls = .ok snapshot.checkpoint := by
  unfold read_snapshot at h
  simp only [bind_eq_ok, exists_unit, rejectIf_eq_ok] at h
  obtain ⟨checkpoint, hcheckpoint, _, records, _, _, _, _, h⟩ := h
  split at h
  · rw [← Except.ok.inj h]
    exact hcheckpoint
  · cases h

end ResolverIdentity.Sync
