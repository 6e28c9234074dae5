import Mathlib.Logic.Function.Basic
import Wifi.Iwlwifi.TxRing

/-!
# Host commands (`linux/drivers/net/wireless/intel/iwlwifi/pcie/tx.c`, `pcie/tx-gen2.c`)

* `HostCmd`, `Cmdq` — a command of two fragments, and the command queue with its DMA mappings and duplicated buffers.
* `checkFrags`, `copyFrags` — the two loops over the fragments.
* `enqueueHcmd` — `iwl_pcie_enqueue_hcmd` and `iwl_pcie_gen2_enqueue_hcmd`, which differ in the header, in the
  descriptors and in the order of two steps.
* `LaidOut`, `Fits` — the descriptor of an accepted command is right, and the condition on the command.
* `laidOut_iff` — when it is right.

The lock, the timer, the traces and `meta` are left out.  A copy beyond `out_cmd` has no result.
-/

namespace Iwlwifi.Hcmd

open TxRing

/-! ## Data -/

/-- What is stored of a number in a `u16`. -/
def u16 (n : Nat) : Nat := n % 2 ^ 16

def IWL_FIRST_TB_SIZE : Nat := 20
/-- `sizeof(struct iwl_cmd_header)` -/
def sizeofCmdHeader : Nat := 4
/-- `sizeof(struct iwl_cmd_header_wide)` -/
def sizeofCmdHeaderWide : Nat := 8
/-- `sizeof(struct iwl_device_cmd)`: the header, and `DEF_CMD_PAYLOAD_SIZE` bytes -/
def TFD_MAX_PAYLOAD_SIZE : Nat := sizeofCmdHeader + 320
def IWL_ALWAYS_LONG_GROUP : Nat := 1

/-- `data[i]`, `len[i]` and `dataflags[i]` of a command; `len` is a `u16`. -/
structure Frag where
  bytes : List (BitVec 8)
  nocopy : Bool
  dup : Bool
  fits : bytes.length < 2 ^ 16

/-- `struct iwl_host_cmd` -/
structure HostCmd where
  id : BitVec 32
  async : Bool
  blockTxqs : Bool
  frags : List Frag
  /-- `IWL_MAX_CMD_TBS_PER_TFD` -/
  two : frags.length = 2

/-- `iwl_cmd_opcode` -/
def HostCmd.opcode (cmd : HostCmd) : BitVec 8 := cmd.id.setWidth 8
/-- `iwl_cmd_groupid` -/
def HostCmd.groupId (cmd : HostCmd) : BitVec 8 := (cmd.id >>> 8).setWidth 8
/-- `iwl_cmd_version` -/
def HostCmd.version (cmd : HostCmd) : BitVec 8 := (cmd.id >>> 16).setWidth 8

/-- The device: `gen2` says which function it is, `apmgWakeUpWa` is `apmg_wake_up_wa`. -/
structure Config where
  gen2 : Bool
  wideCmdHeader : Bool
  apmgWakeUpWa : Bool
  maxTfdQueueSize : Nat
  cmdQId : Nat
  deriving DecidableEq, Repr

/-- What is answered in a call: there is memory for the duplicate, the mappings that succeed, the device is off the
    bus, and it can be woken up. -/
structure Answers where
  kmemdup : Bool
  mapOk : Nat → Bool
  transDead : Bool
  grabNicAccess : Bool

inductive Errno where
  | inval
  | nomem
  | nospc
  | nodev
  | io
  deriving DecidableEq, Repr

/-- A transfer buffer: its address, its length in the descriptor, and what lies at the address. -/
structure Tb where
  addr : Nat
  len : Nat
  data : List (BitVec 8)
  deriving DecidableEq, Repr

/-- The command queue.  `mapped` are the mappings there are, with address and length, and `freed` the buffers that
    were freed; addresses and buffers are numbers, given out one by one. -/
structure Cmdq where
  ring : Txq
  tfds : Nat → List Tb
  /-- `entries[i].free_buf` -/
  freeBuf : Nat → Option Nat
  mapped : List (Nat × Nat)
  nextAddr : Nat
  freed : List Nat
  nextBuf : Nat

section Code

variable (cfg : Config) (env : Answers)

/-! ## The fragments -/

/-- The locals of the first loop; `rests` are `cmddata` and `cmdlen`. -/
structure Pass where
  copySize : Nat
  cmdSize : Nat
  hadNocopy : Bool
  dupBuf : Option (List (BitVec 8))
  rests : List (List (BitVec 8))
  deriving DecidableEq, Repr

/-- How much of a fragment goes into the first transfer buffer. -/
def firstTbCopy (copySize len : Nat) : Nat :=
  if copySize < IWL_FIRST_TB_SIZE then min (IWL_FIRST_TB_SIZE - copySize) len else 0

/-- A round of the first loop; with an error it is the last one. -/
def checkFrag (f : Frag) (p : Pass) : Option Errno × Pass :=
  if f.bytes.length = 0 then (none, { p with rests := p.rests ++ [f.bytes] })
  else
    let copy := firstTbCopy p.copySize f.bytes.length
    let rest := f.bytes.drop copy
    let p := { p with copySize := u16 (p.copySize + copy), rests := p.rests ++ [rest] }
    let cmdSize := u16 (p.cmdSize + f.bytes.length)
    if f.nocopy then
      if f.dup then (some .inval, { p with hadNocopy := true })
      else (none, { p with hadNocopy := true, cmdSize := cmdSize })
    else if f.dup then
      if p.dupBuf.isSome then (some .inval, { p with hadNocopy := true })
      else if env.kmemdup then (none, { p with hadNocopy := true, dupBuf := some rest, cmdSize := cmdSize })
      else (some .nomem, { p with hadNocopy := true })
    else if p.hadNocopy then (some .inval, p)
    else (none, { p with copySize := u16 (p.copySize + rest.length), cmdSize := cmdSize })

def checkFrags : List Frag → Pass → Option Errno × Pass
  | [], p => (none, p)
  | f :: fs, p =>
    match checkFrag env f p with
    | (some e, p) => (some e, p)
    | (none, p) => checkFrags fs p

/-- The second loop, on what is in `out_cmd` up to `cmd_pos` and on `copy_size`. -/
def copyFrags : List Frag → List (BitVec 8) → Nat → Option (List (BitVec 8) × Nat)
  | [], out, copySize => some (out, copySize)
  | f :: fs, out, copySize =>
    if f.bytes.length = 0 then copyFrags fs out copySize
    else if f.nocopy = false ∧ f.dup = false then
      -- `memcpy` of the whole fragment
      if TFD_MAX_PAYLOAD_SIZE < out.length + f.bytes.length then none
      else copyFrags fs (out ++ f.bytes) (u16 (copySize + f.bytes.length))
    else
      -- as much as there is room for, for the debug dump
      copyFrags fs (out ++ f.bytes.take (TFD_MAX_PAYLOAD_SIZE - out.length))
        (u16 (copySize + firstTbCopy copySize f.bytes.length))

/-- What is left of the fragments that are not copied. -/
def remaining (dupBuf : Option (List (BitVec 8))) : List Frag → List (List (BitVec 8)) → List (List (BitVec 8))
  | f :: fs, rest :: rests =>
    if rest.length = 0 then remaining dupBuf fs rests
    else if f.nocopy = false ∧ f.dup = false then remaining dupBuf fs rests
    else (if f.dup then dupBuf.getD [] else rest) :: remaining dupBuf fs rests
  | _, _ => []

/-! ## The header -/

def wide (cmd : HostCmd) : Bool := cfg.gen2 || cmd.groupId != 0

def headerSize (cmd : HostCmd) : Nat := if wide cfg cmd then sizeofCmdHeaderWide else sizeofCmdHeader

/-- `QUEUE_TO_SEQ(q) | INDEX_TO_SEQ(i)` -/
def sequence (writePtr : Nat) : BitVec 16 :=
  (BitVec.ofNat 16 cfg.cmdQId &&& 0x1f) <<< 8 ||| (BitVec.ofNat 16 writePtr &&& 0xff)

/-- A `__le16` -/
def le16 (n : BitVec 16) : List (BitVec 8) := [n.setWidth 8, (n >>> 8).setWidth 8]

/-- The header, with this `length` where it has one. -/
def header (cmd : HostCmd) (length : BitVec 16) (writePtr : Nat) : List (BitVec 8) :=
  if wide cfg cmd then
    [cmd.opcode, cmd.groupId] ++ le16 (sequence cfg writePtr) ++ le16 length ++ [0, cmd.version]
  else [cmd.opcode, 0] ++ le16 (sequence cfg writePtr)

/-! ## The queue -/

/-- The length that `iwl_pcie_gen1_tfd_set_tb` and `iwl_txq_gen2_set_tb` put into a descriptor, as it is read back:
    on gen1 there are 12 bits for it. -/
def tbLen (n : Nat) : Nat := if cfg.gen2 then u16 n else u16 (u16 n * 16) / 16

/-- The descriptor at `write_ptr`. -/
def tfdIndex (q : Cmdq) : Nat := if cfg.gen2 then iwlTxqGetCmdIndex q.ring q.ring.writePtr else q.ring.writePtr

def Cmdq.setTfd (q : Cmdq) (i : Nat) (tbs : List Tb) : Cmdq := { q with tfds := Function.update q.tfds i tbs }

def Cmdq.alloc (q : Cmdq) (dup : Option Nat) : Cmdq := { q with nextBuf := q.nextBuf + dup.toList.length }

/-- `kfree`, of a pointer that may be `NULL` -/
def Cmdq.kfree (q : Cmdq) (buf : Option Nat) : Cmdq := { q with freed := q.freed ++ buf.toList }

/-- `iwl_txq_gen1_tfd_unmap` and `iwl_txq_gen2_tfd_unmap`: the first buffer is none that was mapped.  The descriptor is
    left with the address of `invalid_tx_cmd`. -/
def Cmdq.tfdUnmap (q : Cmdq) (i : Nat) : Cmdq :=
  { q with
    mapped := (q.tfds i).tail.foldl (fun mapped tb => mapped.erase (tb.addr, tb.len)) q.mapped
    tfds := Function.update q.tfds i [⟨0, 0, []⟩] }

/-- The buffers are mapped one by one and put into the descriptor, up to the first one that cannot be mapped; `k`
    mappings were asked for before. -/
def mapAll (i : Nat) : Nat → List (List (BitVec 8)) → Cmdq → Bool × Cmdq
  | _, [], q => (true, q)
  | k, data :: datas, q =>
    if env.mapOk k then
      mapAll i (k + 1) datas
        { q with
          mapped := q.mapped ++ [(q.nextAddr, data.length)]
          nextAddr := q.nextAddr + 1
          tfds := Function.update q.tfds i (q.tfds i ++ [⟨q.nextAddr, tbLen cfg data.length, data⟩]) }
    else (false, q)

/-- gen2 clears the descriptor before it looks for space. -/
def clearTfd (q : Cmdq) : Cmdq := if cfg.gen2 then q.setTfd (tfdIndex cfg q) [] else q

/-- `iwl_pcie_set_cmd_in_flight`, which gen2 has not -/
def setCmdInFlight : Option Errno :=
  if cfg.gen2 then none
  else if env.transDead then some .nodev
  else if cfg.apmgWakeUpWa && !env.grabNicAccess then some .io
  else none

def rejected (cmd : HostCmd) : Bool :=
  if cfg.gen2 then cmd.blockTxqs else !cfg.wideCmdHeader && decide (IWL_ALWAYS_LONG_GROUP < cmd.groupId.toNat)

/-- What is mapped: what remains of `out_cmd`, and of the fragments that are not copied. -/
def pieces (cmd : HostCmd) (p : Pass) (out : List (BitVec 8)) (copySize : Nat) : List (List (BitVec 8)) :=
  (if copySize > min copySize IWL_FIRST_TB_SIZE then [(out.take copySize).drop (min copySize IWL_FIRST_TB_SIZE)]
    else []) ++ remaining p.dupBuf cmd.frags p.rests

/-- The entry gets the duplicate, and the command is handed to the device. -/
def handOver (dup : Option Nat) (q : Cmdq) : Except Errno Nat × Cmdq :=
  let idx := iwlTxqGetCmdIndex q.ring q.ring.writePtr
  let q := { q.kfree (q.freeBuf idx) with freeBuf := Function.update q.freeBuf idx dup }
  match setCmdInFlight cfg env with
  | some e => (.error e, q.kfree dup)
  | none => (.ok idx, { q with ring.writePtr := iwlTxqIncWrap cfg.maxTfdQueueSize q.ring.writePtr })

/-- The descriptor is filled in; on gen2 it was cleared before. -/
def mapOut (cmd : HostCmd) (p : Pass) (dup : Option Nat) (out : List (BitVec 8)) (copySize : Nat) (q : Cmdq) :
    Except Errno Nat × Cmdq :=
  let slot := tfdIndex cfg q
  let first := out.take (min copySize IWL_FIRST_TB_SIZE)
  match mapAll cfg env slot 0 (pieces cmd p out copySize) (q.setTfd slot [⟨0, tbLen cfg first.length, first⟩]) with
  | (false, q) => (.error .nomem, (q.tfdUnmap slot).kfree dup)
  | (true, q) => handOver cfg env dup q

/-- The part of the functions under the lock, behind the check of the space. -/
def submit (cmd : HostCmd) (p : Pass) (dup : Option Nat) (q : Cmdq) : Option (Except Errno Nat × Cmdq) :=
  let length := BitVec.ofNat 16 (p.cmdSize + 2 ^ 16 - sizeofCmdHeaderWide)
  match copyFrags cmd.frags (header cfg cmd length q.ring.writePtr) (headerSize cfg cmd) with
  | none => none
  | some (out, copySize) => some (mapOut cfg env cmd p dup out copySize q)

/-- `iwl_pcie_enqueue_hcmd` and `iwl_pcie_gen2_enqueue_hcmd` -/
def enqueueHcmd (cmd : HostCmd) (q : Cmdq) : Option (Except Errno Nat × Cmdq) :=
  if rejected cfg cmd then some (.error .inval, q)
  else
    let (err, p) := checkFrags env cmd.frags ⟨headerSize cfg cmd, headerSize cfg cmd, false, none, []⟩
    let dup := p.dupBuf.map fun _ => q.nextBuf
    let q := q.alloc dup
    match err with
    | some e => some (.error e, q.kfree dup)
    | none =>
      if TFD_MAX_PAYLOAD_SIZE < p.copySize then some (.error .inval, q.kfree dup)
      else
        let q := clearTfd cfg q
        if iwlTxqSpace cfg.maxTfdQueueSize q.ring < (if cmd.async then 2 else 1) then some (.error .nospc, q.kfree dup)
        else submit cfg env cmd p dup q

end Code

/-! ## What is asked of an accepted command -/

def Tb.described (tb : Tb) : List (BitVec 8) := tb.data.take tb.len

/-- The command is accepted: it is not refused with an error. -/
def Accepted (r : Option (Except Errno Nat × Cmdq)) : Prop := ∀ e q', r ≠ some (.error e, q')

/-- **The descriptor is right**: every copy is inside `out_cmd`, the transfer buffers describe the header and the
    fragments, and a wide header has the length of the fragments. -/
def LaidOut (cfg : Config) (cmd : HostCmd) (q : Cmdq) (r : Option (Except Errno Nat × Cmdq)) : Prop :=
  ∃ idx q', r = some (.ok idx, q') ∧ ∃ length,
    (q'.tfds (tfdIndex cfg q)).flatMap Tb.described =
      header cfg cmd length q.ring.writePtr ++ cmd.frags.flatMap Frag.bytes ∧
    (wide cfg cmd = true → length.toNat = (cmd.frags.flatMap Frag.bytes).length)

/-! ## The condition -/

/-- What is to be copied, behind `size` bytes: the fragments that are copied, and what fills up the first transfer
    buffer of the others. -/
def toCopy (size : Nat) : List Frag → Nat
  | [] => size
  | f :: fs =>
    toCopy (size + if f.nocopy = false ∧ f.dup = false then f.bytes.length else firstTbCopy size f.bytes.length) fs

/-- What is not copied of the fragments behind `pos` bytes. -/
def notCopied (pos : Nat) : List Frag → List Nat
  | [] => []
  | f :: fs =>
    (if f.nocopy = false ∧ f.dup = false then 0 else f.bytes.length - (IWL_FIRST_TB_SIZE - pos)) ::
      notCopied (pos + f.bytes.length) fs

/-- **The condition**: a `u16` holds the size of what is copied and, for a wide header, of all fragments; and on gen1
    the length of a transfer buffer holds what is not copied of a fragment. -/
structure Fits (cfg : Config) (cmd : HostCmd) : Prop where
  copied : toCopy (headerSize cfg cmd) cmd.frags < 2 ^ 16
  length : wide cfg cmd = true → (cmd.frags.flatMap Frag.bytes).length < 2 ^ 16
  tbs : cfg.gen2 = false → ∀ n ∈ notCopied (headerSize cfg cmd) cmd.frags, n < 2 ^ 12

section Proofs

variable {cfg : Config} {env : Answers} {cmd : HostCmd} {q q' : Cmdq} {f : Frag} {fs : List Frag} {p p' : Pass}

theorem u16_of_lt {n : Nat} (h : n < 2 ^ 16) : u16 n = n := Nat.mod_eq_of_lt h

theorem firstTbCopy_le (size len : Nat) : firstTbCopy size len ≤ len := by
  unfold firstTbCopy
  split <;> omega

theorem le_toCopy : ∀ (fs : List Frag) (size : Nat), size ≤ toCopy size fs
  | [], _ => Nat.le_refl _
  | f :: fs, size => by
    have ih := le_toCopy fs (size + if f.nocopy = false ∧ f.dup = false then f.bytes.length else
      firstTbCopy size f.bytes.length)
    unfold toCopy
    omega

/-! ## The first loop -/

def Frag.behind (f : Frag) (p : Pass) : List (BitVec 8) := f.bytes.drop (firstTbCopy p.copySize f.bytes.length)

theorem Frag.length_behind (f : Frag) (p : Pass) :
    (f.behind p).length = f.bytes.length - firstTbCopy p.copySize f.bytes.length := List.length_drop

inductive Checked (f : Frag) (p p' : Pass) : Prop where
  | empty (hlen : f.bytes = []) (hp : p' = { p with rests := p.rests ++ [[]] })
  | nocopy (hlen : f.bytes ≠ []) (hf : f.nocopy = true ∧ f.dup = false)
      (hp : p' = { p with
        copySize := u16 (p.copySize + firstTbCopy p.copySize f.bytes.length)
        rests := p.rests ++ [f.behind p]
        hadNocopy := true
        cmdSize := u16 (p.cmdSize + f.bytes.length) })
  | dup (hlen : f.bytes ≠ []) (hf : f.nocopy = false ∧ f.dup = true) (hnone : p.dupBuf = none)
      (hp : p' = { p with
        copySize := u16 (p.copySize + firstTbCopy p.copySize f.bytes.length)
        rests := p.rests ++ [f.behind p]
        hadNocopy := true
        dupBuf := some (f.behind p)
        cmdSize := u16 (p.cmdSize + f.bytes.length) })
  | copied (hlen : f.bytes ≠ []) (hf : f.nocopy = false ∧ f.dup = false) (hnone : p.hadNocopy = false)
      (hp : p' = { p with
        copySize := u16 (u16 (p.copySize + firstTbCopy p.copySize f.bytes.length) +
          (f.behind p).length)
        rests := p.rests ++ [f.behind p]
        cmdSize := u16 (p.cmdSize + f.bytes.length) })

theorem checkFrag_cases (h : checkFrag env f p = (none, p')) : Checked f p p' := by
  unfold checkFrag at h
  by_cases hlen : f.bytes.length = 0
  · rw [if_pos hlen] at h
    cases h
    have hnil : f.bytes = [] := List.length_eq_zero_iff.mp hlen
    exact .empty hnil (by rw [hnil])
  · rw [if_neg hlen] at h
    have hne : f.bytes ≠ [] := fun hnil => hlen (by rw [hnil]; rfl)
    dsimp only at h
    cases hn : f.nocopy <;> cases hd : f.dup <;> simp only [hn, hd, if_true, if_false, Bool.false_eq_true] at h
    · split at h
      · cases h
      · rename_i hhad
        cases h
        exact .copied hne ⟨hn, hd⟩ (by simpa using hhad) rfl
    · split at h
      · cases h
      · rename_i hdup
        split at h
        · cases h
          exact .dup hne ⟨hn, hd⟩ (by simpa using hdup) rfl
        · cases h
    · cases h
      exact .nocopy hne ⟨hn, hd⟩ rfl
    · cases h

theorem checkFrags_cons (h : checkFrags env (f :: fs) p = (none, p')) :
    ∃ p₁, Checked f p p₁ ∧ checkFrags env fs p₁ = (none, p') := by
  unfold checkFrags at h
  split at h
  · cases h
  · rename_i p₁ hf
    exact ⟨p₁, checkFrag_cases hf, h⟩

theorem checkFrags_dupBuf {d : List (BitVec 8)} (h : checkFrags env fs p = (none, p')) (hd : p.dupBuf = some d) :
    p'.dupBuf = some d := by
  induction fs generalizing p with
  | nil =>
    cases h
    exact hd
  | cons f fs ih =>
    obtain ⟨p₁, hstep, h⟩ := checkFrags_cons h
    refine ih h ?_
    cases hstep with
    | empty hlen hp => rw [hp]; exact hd
    | nocopy hlen hf hp => rw [hp]; exact hd
    | dup hlen hf hnone hp =>
      rw [hnone] at hd
      cases hd
    | copied hlen hf hnone hp => rw [hp]; exact hd

/-- `cmd_size` is the size of all fragments, in a `u16`. -/
theorem checkFrags_cmdSize (h : checkFrags env fs p = (none, p')) :
    u16 p'.cmdSize = u16 (p.cmdSize + (fs.flatMap Frag.bytes).length) := by
  induction fs generalizing p with
  | nil =>
    cases h
    rfl
  | cons f fs ih =>
    obtain ⟨p₁, hstep, h⟩ := checkFrags_cons h
    have hsize : u16 p₁.cmdSize = u16 (p.cmdSize + f.bytes.length) := by
      cases hstep with
      | empty hlen hp => rw [hp, hlen]; rfl
      | nocopy hlen hf hp => rw [hp]; exact Nat.mod_mod _ _
      | dup hlen hf hnone hp => rw [hp]; exact Nat.mod_mod _ _
      | copied hlen hf hnone hp => rw [hp]; exact Nat.mod_mod _ _
    rw [ih h, List.flatMap_cons, List.length_append]
    unfold u16 at hsize ⊢
    omega

theorem Checked.copySize (h : Checked f p p') (hfit : toCopy p.copySize (f :: fs) < 2 ^ 16) :
    p'.copySize = p.copySize + if f.nocopy = false ∧ f.dup = false then f.bytes.length else
      firstTbCopy p.copySize f.bytes.length := by
  have hle := le_toCopy fs (p.copySize + if f.nocopy = false ∧ f.dup = false then f.bytes.length else
    firstTbCopy p.copySize f.bytes.length)
  unfold toCopy at hfit
  have hcopy := firstTbCopy_le p.copySize f.bytes.length
  cases h with
  | empty hlen hp =>
    rw [hp, hlen]
    simp [firstTbCopy]
  | nocopy hlen hf hp =>
    simp only [hf, Bool.true_eq_false, false_and, if_false] at hle hfit ⊢
    rw [hp]
    exact u16_of_lt (by omega)
  | dup hlen hf hnone hp =>
    simp only [hf, Bool.true_eq_false, and_false, if_false] at hle hfit ⊢
    rw [hp]
    exact u16_of_lt (by omega)
  | copied hlen hf hnone hp =>
    simp only [hf, and_self, if_true] at hle hfit ⊢
    rw [hp]
    dsimp only
    rw [f.length_behind, u16_of_lt (n := p.copySize + _) (by omega), u16_of_lt (by omega)]
    omega

theorem checkFrags_copySize (h : checkFrags env fs p = (none, p')) (hfit : toCopy p.copySize fs < 2 ^ 16) :
    p'.copySize = toCopy p.copySize fs := by
  induction fs generalizing p with
  | nil =>
    cases h
    rfl
  | cons f fs ih =>
    obtain ⟨p₁, hstep, h⟩ := checkFrags_cons h
    have hsize := hstep.copySize hfit
    unfold toCopy at hfit ⊢
    rw [← hsize] at hfit ⊢
    exact ih h hfit

/-! ## Both loops -/

/-- What the loops have in common behind some fragments: `out` is in `out_cmd`, the bytes so far are `all`, and `left`
    is what is not copied of them. -/
structure Agree (p : Pass) (out all left : List (BitVec 8)) : Prop where
  le : p.copySize ≤ out.length
  room : out.length ≤ TFD_MAX_PAYLOAD_SIZE
  taken : out.take p.copySize ++ left = all
  small : p.copySize < IWL_FIRST_TB_SIZE ∨ p.hadNocopy = false → out = all ∧ left = [] ∧ p.copySize = all.length

theorem Agree.piece {out all left : List (BitVec 8)} {bytes : List (BitVec 8)} (h : Agree p out all left)
    (hsize : p'.copySize = p.copySize + firstTbCopy p.copySize bytes.length) (hhad : p'.hadNocopy = true) :
    Agree p' (out ++ bytes.take (TFD_MAX_PAYLOAD_SIZE - out.length)) (all ++ bytes)
      (left ++ bytes.drop (firstTbCopy p.copySize bytes.length)) := by
  have hmax : IWL_FIRST_TB_SIZE < TFD_MAX_PAYLOAD_SIZE := by decide
  have hle := h.le
  have hroom := h.room
  by_cases hc : p.copySize < IWL_FIRST_TB_SIZE
  · -- up to here everything is in the first transfer buffer
    obtain ⟨rfl, rfl, hlen⟩ := h.small (.inl hc)
    have hcopy : firstTbCopy p.copySize bytes.length = min (IWL_FIRST_TB_SIZE - p.copySize) bytes.length := if_pos hc
    rw [hcopy] at hsize ⊢
    refine ⟨?_, ?_, ?_, ?_⟩
    · rw [List.length_append, List.length_take]
      omega
    · rw [List.length_append, List.length_take]
      omega
    · have htake : p'.copySize = out.length + min (IWL_FIRST_TB_SIZE - p.copySize) bytes.length := by omega
      rw [htake, List.take_length_add_append, List.take_take, Nat.min_eq_left (by omega), List.nil_append,
        List.append_assoc, List.take_append_drop]
    · rintro (hsmall | hno)
      · have hall : bytes.length < IWL_FIRST_TB_SIZE - p.copySize := by omega
        rw [List.take_of_length_le (by omega), List.drop_of_length_le (by omega)]
        refine ⟨rfl, rfl, ?_⟩
        rw [List.length_append]
        omega
      · rw [hhad] at hno
        cases hno
  · have hcopy : firstTbCopy p.copySize bytes.length = 0 := if_neg hc
    rw [hcopy, Nat.add_zero] at hsize
    rw [hcopy, List.drop_zero]
    refine ⟨?_, ?_, ?_, ?_⟩
    · rw [List.length_append]
      omega
    · rw [List.length_append, List.length_take]
      omega
    · rw [hsize, List.take_append_of_le_length hle, ← List.append_assoc, h.taken]
    · rintro (hsmall | hno)
      · omega
      · rw [hhad] at hno
        cases hno

/-- What the loops give for the fragments `fs`. -/
structure Loops (fs : List Frag) (p p' : Pass) (out all left : List (BitVec 8)) (rests : List (List (BitVec 8)))
    (out' : List (BitVec 8)) : Prop where
  copied : copyFrags fs out p.copySize = some (out', p'.copySize)
  agree : Agree p' out' (all ++ fs.flatMap Frag.bytes) (left ++ (remaining p'.dupBuf fs rests).flatten)
  lengths : (remaining p'.dupBuf fs rests).map List.length = (notCopied all.length fs).filter (0 < ·)

theorem Loops.piece {out all left : List (BitVec 8)} {rests : List (List (BitVec 8))} {out' : List (BitVec 8)} {p₁ : Pass}
    (hagree : Agree p out all left) (hf : ¬ (f.nocopy = false ∧ f.dup = false)) (hlen : f.bytes ≠ [])
    (hsize : p₁.copySize = u16 (p.copySize + firstTbCopy p.copySize f.bytes.length))
    (hdup : f.dup = true → p'.dupBuf = some (f.behind p))
    (h : Loops fs p₁ p' (out ++ f.bytes.take (TFD_MAX_PAYLOAD_SIZE - out.length)) (all ++ f.bytes)
      (left ++ f.behind p) rests out') :
    Loops (f :: fs) p p' out all left (f.behind p :: rests) out' := by
  have hrest : (remaining p'.dupBuf (f :: fs) (f.behind p :: rests)) =
      (if (f.behind p).length = 0 then []
        else [f.behind p]) ++ remaining p'.dupBuf fs rests := by
    rw [remaining]
    split
    · rfl
    · split
      · rename_i hd
        rw [hdup hd]
        rfl
      · rfl
  have hpos : f.bytes.length ≠ 0 := fun hnil => hlen (List.length_eq_zero_iff.mp hnil)
  refine ⟨?_, ?_, ?_⟩
  · rw [copyFrags, if_neg hpos, if_neg hf, ← hsize]
    exact h.copied
  · have hflat : left ++ (remaining p'.dupBuf (f :: fs)
        (f.behind p :: rests)).flatten =
        left ++ f.behind p ++ (remaining p'.dupBuf fs rests).flatten := by
      rw [hrest, List.flatten_append, List.append_assoc]
      split
      · rename_i h0
        rw [List.length_eq_zero_iff.mp h0]
        rfl
      · simp
    rw [hflat, List.flatMap_cons, ← List.append_assoc]
    exact h.agree
  · have hcut : (f.behind p).length =
        f.bytes.length - (IWL_FIRST_TB_SIZE - all.length) := by
      have hall : p.copySize ≤ all.length := by
        rw [← hagree.taken, List.length_append, List.length_take]
        have := hagree.le
        omega
      rw [f.length_behind]
      unfold firstTbCopy
      split
      · rename_i hc
        have := (hagree.small (.inl hc)).2.2
        omega
      · omega
    have hrests := h.lengths
    rw [List.length_append] at hrests
    rw [hrest, notCopied, if_neg hf, ← hcut, List.map_append, hrests, List.filter_cons]
    split
    · rename_i h0
      rw [if_neg (by simp [h0])]
      rfl
    · rename_i h0
      rw [if_pos (decide_eq_true (Nat.pos_of_ne_zero h0))]
      rfl

/-- **The loops agree**, for fragments of any lengths and kinds that the first one admits, as long as nothing
    wraps. -/
theorem loops_spec {out all left : List (BitVec 8)} (h : checkFrags env fs p = (none, p'))
    (hfit : toCopy p.copySize fs ≤ TFD_MAX_PAYLOAD_SIZE) (hagree : Agree p out all left) :
    ∃ rests out', p'.rests = p.rests ++ rests ∧ Loops fs p p' out all left rests out' := by
  have hmax : TFD_MAX_PAYLOAD_SIZE < 2 ^ 16 := by decide
  induction fs generalizing p out all left with
  | nil =>
    cases h
    refine ⟨[], out, (List.append_nil _).symm, rfl, ?_, ?_⟩
    · simpa [remaining] using hagree
    · simp [remaining, notCopied]
  | cons f fs ih =>
    obtain ⟨p₁, hstep, h⟩ := checkFrags_cons h
    have hsize := hstep.copySize (Nat.lt_of_le_of_lt hfit hmax)
    have hle := le_toCopy fs p₁.copySize
    unfold toCopy at hfit
    rw [← hsize] at hfit
    cases hstep with
    | empty hlen hp =>
      have hagree₁ : Agree p₁ out all left := by rw [hp]; exact ⟨hagree.le, hagree.room, hagree.taken, hagree.small⟩
      obtain ⟨rests, out', hrests, hloops⟩ := ih h hfit hagree₁
      have hsame : p₁.copySize = p.copySize := by rw [hp]
      refine ⟨[] :: rests, out', by rw [hrests, hp]; simp, ?_, ?_, ?_⟩
      · rw [copyFrags, if_pos (by rw [hlen]; rfl), ← hsame]
        exact hloops.copied
      · simpa [remaining, hlen] using hloops.agree
      · simpa [remaining, notCopied, hlen] using hloops.lengths
    | nocopy hlen hf hp =>
      have hf' : ¬ (f.nocopy = false ∧ f.dup = false) := by simp [hf]
      rw [if_neg hf'] at hsize
      obtain ⟨rests, out', hrests, hloops⟩ := ih h hfit (hagree.piece hsize (by rw [hp]))
      refine ⟨_ :: rests, out', ?_, hloops.piece hagree hf' hlen (by rw [hp]) (by simp [hf])⟩
      rw [hrests, hp, List.append_assoc]
      rfl
    | dup hlen hf hnone hp =>
      have hf' : ¬ (f.nocopy = false ∧ f.dup = false) := by simp [hf]
      rw [if_neg hf'] at hsize
      obtain ⟨rests, out', hrests, hloops⟩ := ih h hfit (hagree.piece hsize (by rw [hp]))
      have hdup := checkFrags_dupBuf h (d := f.behind p) (by rw [hp])
      refine ⟨_ :: rests, out', ?_, hloops.piece hagree hf' hlen (by rw [hp]) fun _ => hdup⟩
      rw [hrests, hp, List.append_assoc]
      rfl
    | copied hlen hf hnone hp =>
      rw [if_pos hf] at hsize
      obtain ⟨rfl, rfl, hall⟩ := hagree.small (.inr hnone)
      have hagree₁ : Agree p₁ (out ++ f.bytes) (out ++ f.bytes) [] := by
        have hlength : p₁.copySize = (out ++ f.bytes).length := by
          rw [List.length_append]
          omega
        refine ⟨hlength.le, by omega, ?_, fun _ => ⟨rfl, rfl, hlength⟩⟩
        rw [hlength, List.take_length, List.append_nil]
      obtain ⟨rests, out', hrests, hloops⟩ := ih h hfit hagree₁
      have hpos : f.bytes.length ≠ 0 := fun hnil => hlen (List.length_eq_zero_iff.mp hnil)
      have hflat : remaining p'.dupBuf (f :: fs) (f.behind p :: rests) =
          remaining p'.dupBuf fs rests := by
        rw [remaining, if_pos hf, ite_self]
      refine ⟨f.behind p :: rests, out', ?_, ?_, ?_, ?_⟩
      · rw [hrests, hp, List.append_assoc]
        rfl
      · rw [copyFrags, if_neg hpos, if_pos hf, if_neg (by omega), u16_of_lt (by omega), ← hsize]
        exact hloops.copied
      · rw [hflat, List.flatMap_cons, ← List.append_assoc]
        exact hloops.agree
      · rw [hflat, notCopied, if_pos hf, ← List.length_append, hloops.lengths]
        rfl

theorem Loops.lt_iff {out all left out' : List (BitVec 8)} {rests : List (List (BitVec 8))} {n : Nat}
    (h : Loops fs p p' out all left rests out') (hn : 0 < n) :
    (∀ piece ∈ remaining p'.dupBuf fs rests, piece.length < n) ↔ ∀ k ∈ notCopied all.length fs, k < n := by
  have hmap : (∀ piece ∈ remaining p'.dupBuf fs rests, piece.length < n) ↔
      ∀ k ∈ (remaining p'.dupBuf fs rests).map List.length, k < n := by simp
  rw [hmap, h.lengths]
  constructor
  · intro hall k hk
    obtain rfl | hpos := Nat.eq_zero_or_pos k
    · exact hn
    · exact hall k (List.mem_filter.mpr ⟨hk, by simpa using hpos⟩)
  · exact fun hall k hk => hall k (List.mem_filter.mp hk).1

/-- The second loop stays inside `out_cmd` only when what is to be copied does. -/
theorem toCopy_le {r : List (BitVec 8) × Nat} : ∀ (fs : List Frag) {out : List (BitVec 8)} {size c : Nat},
    copyFrags fs out size = some r → c ≤ out.length → out.length ≤ TFD_MAX_PAYLOAD_SIZE →
      toCopy c fs ≤ TFD_MAX_PAYLOAD_SIZE
  | [], _, _, _, _, hc, hroom => Nat.le_trans hc hroom
  | f :: fs, out, size, c, h, hc, hroom => by
    have hmax : IWL_FIRST_TB_SIZE < TFD_MAX_PAYLOAD_SIZE := by decide
    unfold copyFrags at h
    unfold toCopy
    split at h
    · rename_i h0
      refine toCopy_le fs h ?_ hroom
      rw [h0]
      simpa [firstTbCopy] using hc
    · by_cases hf : f.nocopy = false ∧ f.dup = false
      · rw [if_pos hf] at h ⊢
        split at h
        · cases h
        · rename_i hin
          rw [← List.length_append] at hin
          exact toCopy_le fs h (by rw [List.length_append]; omega) (Nat.not_lt.mp hin)
      · rw [if_neg hf] at h ⊢
        refine toCopy_le fs h ?_ ?_
        · rw [List.length_append, List.length_take]
          unfold firstTbCopy
          split <;> omega
        · rw [List.length_append, List.length_take]
          omega

/-! ## Descriptors -/

variable (cfg env) in
/-- **What is mapped** for some buffers: the descriptor and the mappings get those up to the first that cannot be. -/
theorem mapAll_spec (i : Nat) : ∀ (k : Nat) (datas : List (List (BitVec 8))) (q : Cmdq), ∃ tbs : List Tb,
    (mapAll cfg env i k datas q).2 = { q with
      mapped := q.mapped ++ tbs.map fun tb => (tb.addr, tb.data.length)
      nextAddr := q.nextAddr + tbs.length
      tfds := Function.update q.tfds i (q.tfds i ++ tbs) } ∧
    tbs.map Tb.addr = List.range' q.nextAddr tbs.length ∧ (∀ tb ∈ tbs, tb.len = tbLen cfg tb.data.length) ∧
    tbs.map Tb.data <+: datas ∧ (∀ j < tbs.length, env.mapOk (k + j) = true) ∧
    ((mapAll cfg env i k datas q).1 = true → tbs.map Tb.data = datas) ∧
    ((mapAll cfg env i k datas q).1 = false → tbs.length < datas.length ∧ env.mapOk (k + tbs.length) = false)
  | _, [], q => ⟨[], by simp [mapAll], rfl, by simp, List.prefix_refl _, by simp, fun _ => rfl, by simp [mapAll]⟩
  | k, data :: datas, q => by
    unfold mapAll
    split
    · rename_i hk
      obtain ⟨tbs, hq, haddr, hlen, hpre, hok, hall, hfail⟩ := mapAll_spec i (k + 1) datas
        { q with
          mapped := q.mapped ++ [(q.nextAddr, data.length)]
          nextAddr := q.nextAddr + 1
          tfds := Function.update q.tfds i (q.tfds i ++ [⟨q.nextAddr, tbLen cfg data.length, data⟩]) }
      refine ⟨⟨q.nextAddr, tbLen cfg data.length, data⟩ :: tbs, ?_, ?_, ?_, ?_, fun j hj => ?_, fun h => ?_, fun h => ?_⟩
      · rw [hq]
        simp
        omega
      · rw [List.map_cons, haddr, List.length_cons, List.range'_succ]
      · exact List.forall_mem_cons.mpr ⟨rfl, hlen⟩
      · exact List.cons_prefix_cons.mpr ⟨rfl, hpre⟩
      · cases j with
        | zero => exact hk
        | succ j =>
          have hj := hok j (Nat.lt_of_succ_lt_succ hj)
          rwa [Nat.add_assoc, Nat.add_comm 1] at hj
      · rw [List.map_cons, hall h]
      · obtain ⟨hlt, hstop⟩ := hfail h
        rw [Nat.add_assoc, Nat.add_comm 1] at hstop
        exact ⟨Nat.succ_lt_succ hlt, hstop⟩
    · rename_i hk
      exact ⟨[], by simp, rfl, by simp, List.nil_prefix, by simp, nofun, fun _ => by simpa using hk⟩

theorem tbLen_le (n : Nat) : tbLen cfg n ≤ n := by
  unfold tbLen u16
  split <;> omega

theorem tbLen_eq_iff {n : Nat} (h : n < 2 ^ 16) : tbLen cfg n = n ↔ (cfg.gen2 = false → n < 2 ^ 12) := by
  unfold tbLen
  cases cfg.gen2
  · simp only [Bool.false_eq_true, if_false, true_implies]
    unfold u16
    omega
  · simp [u16_of_lt h]

theorem described_length_le (tbs : List Tb) : (tbs.flatMap Tb.described).length ≤ (tbs.flatMap Tb.data).length := by
  induction tbs with
  | nil => exact Nat.le_refl _
  | cons tb tbs ih =>
    simp only [List.flatMap_cons, List.length_append, Tb.described, List.length_take]
    omega

/-- **All is described** exactly when the lengths are right. -/
theorem described_iff {tbs : List Tb} (hle : ∀ tb ∈ tbs, tb.len ≤ tb.data.length) :
    (tbs.flatMap Tb.described).length = (tbs.flatMap Tb.data).length ↔ ∀ tb ∈ tbs, tb.len = tb.data.length := by
  induction tbs with
  | nil => simp
  | cons tb tbs ih =>
    obtain ⟨hthis, hle⟩ := List.forall_mem_cons.mp hle
    have hrest := described_length_le tbs
    have ih := ih hle
    simp only [List.flatMap_cons, List.length_append, Tb.described, List.length_take, List.forall_mem_cons] at ih ⊢
    rw [← ih]
    omega

theorem described_eq {tbs : List Tb} (h : ∀ tb ∈ tbs, tb.len = tb.data.length) :
    tbs.flatMap Tb.described = tbs.flatMap Tb.data := by
  refine List.flatMap_congr fun tb htb => ?_
  rw [Tb.described, h tb htb, List.take_length]

/-! ## The header -/

variable (cfg cmd) in
theorem header_length (length : BitVec 16) (w : Nat) : (header cfg cmd length w).length = headerSize cfg cmd := by
  unfold header headerSize
  split <;> rfl

theorem header_inj {length length' : BitVec 16} {w : Nat} (hwide : wide cfg cmd = true)
    (h : header cfg cmd length w = header cfg cmd length' w) : length = length' := by
  unfold header le16 at h
  rw [if_pos hwide, if_pos hwide] at h
  simp only [List.cons_append, List.nil_append, List.cons.injEq, true_and, and_true] at h
  obtain ⟨hlo, hhi⟩ := h
  have hlo := congrArg BitVec.toNat hlo
  have hhi := congrArg BitVec.toNat hhi
  simp only [BitVec.toNat_setWidth, BitVec.toNat_ushiftRight, Nat.shiftRight_eq_div_pow] at hlo hhi
  apply BitVec.eq_of_toNat_eq
  omega

/-! ## Accepted commands -/

theorem clearTfd_ring (q : Cmdq) : (clearTfd cfg q).ring = q.ring := by
  unfold clearTfd
  split <;> rfl

/-- The checks in front of the lock that a command gets past. -/
structure Admitted (cfg : Config) (env : Answers) (cmd : HostCmd) (p : Pass) : Prop where
  rejected : rejected cfg cmd = false
  checked : checkFrags env cmd.frags ⟨headerSize cfg cmd, headerSize cfg cmd, false, none, []⟩ = (none, p)
  small : p.copySize ≤ TFD_MAX_PAYLOAD_SIZE

structure Passes (cfg : Config) (env : Answers) (cmd : HostCmd) (q : Cmdq) (p : Pass) : Prop
    extends Admitted cfg env cmd p where
  space : (if cmd.async then 2 else 1) ≤ iwlTxqSpace cfg.maxTfdQueueSize q.ring

theorem Passes.submit (h : Passes cfg env cmd q p) : enqueueHcmd cfg env cmd q =
    submit cfg env cmd p (p.dupBuf.map fun _ => q.nextBuf) (clearTfd cfg (q.alloc (p.dupBuf.map fun _ => q.nextBuf))) := by
  unfold enqueueHcmd
  rw [h.rejected, h.checked]
  dsimp only
  rw [if_neg Bool.false_ne_true, if_neg (Nat.not_lt.mpr h.small), clearTfd_ring]
  exact if_neg (Nat.not_lt.mpr h.space)

/-- How far a call gets: it is refused in front of the lock, there is no space, or the command gets past the
    checks. -/
inductive Course (cfg : Config) (env : Answers) (cmd : HostCmd) (q : Cmdq) : Prop where
  | refused (e : Errno) (dup : Option Nat) (hdup : ∀ b ∈ dup, b = q.nextBuf)
      (hr : enqueueHcmd cfg env cmd q = some (.error e, (q.alloc dup).kfree dup))
  | full (p : Pass) (dup : Option Nat) (hdup : ∀ b ∈ dup, b = q.nextBuf) (hp : Admitted cfg env cmd p)
      (hr : enqueueHcmd cfg env cmd q = some (.error .nospc, (clearTfd cfg (q.alloc dup)).kfree dup))
  | passes (p : Pass) (hp : Passes cfg env cmd q p)

theorem enqueueHcmd_course (cfg : Config) (env : Answers) (cmd : HostCmd) (q : Cmdq) : Course cfg env cmd q := by
  have hnew : ∀ o : Option (List (BitVec 8)), ∀ b ∈ o.map fun _ => q.nextBuf, b = q.nextBuf := by
    intro o b hb
    obtain ⟨_, _, rfl⟩ := Option.map_eq_some_iff.mp hb
    rfl
  cases hrej : rejected cfg cmd with
  | true => exact .refused .inval none (by simp) (by simp [enqueueHcmd, hrej, Cmdq.alloc, Cmdq.kfree])
  | false =>
    obtain ⟨⟨err, p⟩, hcheck⟩ : ∃ r, checkFrags env cmd.frags
      ⟨headerSize cfg cmd, headerSize cfg cmd, false, none, []⟩ = r := ⟨_, rfl⟩
    cases err with
    | some e => exact .refused e _ (hnew p.dupBuf) (by simp [enqueueHcmd, hrej, hcheck])
    | none =>
      by_cases hbig : TFD_MAX_PAYLOAD_SIZE < p.copySize
      · exact .refused .inval _ (hnew p.dupBuf) (by simp [enqueueHcmd, hrej, hcheck, hbig])
      · have hp : Admitted cfg env cmd p := ⟨hrej, hcheck, Nat.not_lt.mp hbig⟩
        by_cases hspace : iwlTxqSpace cfg.maxTfdQueueSize q.ring < (if cmd.async then 2 else 1)
        · refine .full p _ (hnew p.dupBuf) hp ?_
          simp only [enqueueHcmd, hrej, hcheck, Bool.false_eq_true, if_false, if_neg hbig, clearTfd_ring]
          exact if_pos hspace
        · exact .passes p ⟨hp, Nat.not_lt.mp hspace⟩

/-- **An accepted command** gets past the checks. -/
theorem accepted_passes (h : Accepted (enqueueHcmd cfg env cmd q)) : ∃ p, Passes cfg env cmd q p := by
  cases enqueueHcmd_course cfg env cmd q with
  | refused e dup hdup hr => exact absurd hr (h _ _)
  | full p dup hdup hp hr => exact absurd hr (h _ _)
  | passes p hp => exact ⟨p, hp⟩

variable (cfg cmd) in
theorem header_agree (length : BitVec 16) (w : Nat) : Agree ⟨headerSize cfg cmd, headerSize cfg cmd, false, none, []⟩
    (header cfg cmd length w) (header cfg cmd length w) [] := by
  have hhead := header_length cfg cmd length w
  have hsmall : headerSize cfg cmd ≤ TFD_MAX_PAYLOAD_SIZE := by
    unfold headerSize
    split <;> decide
  refine ⟨hhead.ge, hhead.symm ▸ hsmall, ?_, fun _ => ⟨rfl, rfl, hhead.symm⟩⟩
  rw [← hhead, List.take_length, List.append_nil]

/-- The loops, when the second one stays inside `out_cmd`. -/
theorem loops_of_copied {length : BitVec 16} {w copySize : Nat} {out : List (BitVec 8)}
    (hcheck : checkFrags env cmd.frags ⟨headerSize cfg cmd, headerSize cfg cmd, false, none, []⟩ = (none, p))
    (hcopy : copyFrags cmd.frags (header cfg cmd length w) (headerSize cfg cmd) = some (out, copySize)) :
    toCopy (headerSize cfg cmd) cmd.frags ≤ TFD_MAX_PAYLOAD_SIZE ∧ copySize = p.copySize ∧
      Loops cmd.frags ⟨headerSize cfg cmd, headerSize cfg cmd, false, none, []⟩ p (header cfg cmd length w)
        (header cfg cmd length w) [] p.rests out := by
  have hagree := header_agree cfg cmd length w
  have hcopied := toCopy_le cmd.frags hcopy hagree.le hagree.room
  obtain ⟨rests, out', hrests, hloops⟩ := loops_spec hcheck hcopied hagree
  cases hcopy.symm.trans hloops.copied
  rw [List.nil_append] at hrests
  subst hrests
  exact ⟨hcopied, rfl, hloops⟩

/-- What is described, behind the loops: the first buffers are `out_cmd` up to `copy_size`. -/
theorem pieces_flatten {out : List (BitVec 8)} {copySize : Nat} :
    out.take (min copySize IWL_FIRST_TB_SIZE) ++ (pieces cmd p out copySize).flatten =
      out.take copySize ++ (remaining p.dupBuf cmd.frags p.rests).flatten := by
  unfold pieces
  rw [List.flatten_append, ← List.append_assoc]
  congr 1
  split
  · have hsplit := List.take_append_drop (min copySize IWL_FIRST_TB_SIZE) (out.take copySize)
    rw [List.take_take, Nat.min_eq_left (Nat.min_le_left _ _)] at hsplit
    rw [List.flatten_singleton]
    exact hsplit
  · rw [List.flatten_nil, List.append_nil, Nat.min_eq_left (by omega)]

theorem pieces_lengths {out : List (BitVec 8)} {copySize n : Nat} (hsize : copySize ≤ TFD_MAX_PAYLOAD_SIZE)
    (hn : TFD_MAX_PAYLOAD_SIZE < n) : (∀ piece ∈ pieces cmd p out copySize, piece.length < n) ↔
      ∀ piece ∈ remaining p.dupBuf cmd.frags p.rests, piece.length < n := by
  unfold pieces
  constructor
  · exact fun h piece hpiece => h piece (List.mem_append_right _ hpiece)
  · intro h piece hpiece
    obtain hpiece | hpiece := List.mem_append.mp hpiece
    · split at hpiece
      · rw [List.mem_singleton.mp hpiece, List.length_drop, List.length_take]
        omega
      · cases hpiece
    · exact h piece hpiece

theorem length_toNat (hwide : wide cfg cmd = true)
    (h : checkFrags env cmd.frags ⟨headerSize cfg cmd, headerSize cfg cmd, false, none, []⟩ = (none, p)) :
    (BitVec.ofNat 16 (p.cmdSize + 2 ^ 16 - sizeofCmdHeaderWide)).toNat = u16 (cmd.frags.flatMap Frag.bytes).length := by
  have hsize := checkFrags_cmdSize h
  have hhead : headerSize cfg cmd = sizeofCmdHeaderWide := if_pos hwide
  dsimp only at hsize
  rw [hhead] at hsize
  rw [BitVec.toNat_ofNat]
  unfold u16 sizeofCmdHeaderWide at *
  omega

/-- A command that goes to the device: its descriptor is what was mapped. -/
theorem mapOut_ok {dup : Option Nat} {out : List (BitVec 8)} {copySize idx : Nat}
    (h : mapOut cfg env cmd p dup out copySize q = (.ok idx, q')) : ∃ tbs : List Tb,
      q'.tfds (tfdIndex cfg q) = tbs ∧ (∀ tb ∈ tbs, tb.len = tbLen cfg tb.data.length) ∧
      tbs.map Tb.data = out.take (min copySize IWL_FIRST_TB_SIZE) :: pieces cmd p out copySize := by
  unfold mapOut at h
  obtain ⟨tbs, hq, -, hlen, -, -, hall, -⟩ := mapAll_spec cfg env (tfdIndex cfg q) 0
    (pieces cmd p out copySize) (q.setTfd (tfdIndex cfg q)
      [⟨0, tbLen cfg (out.take (min copySize IWL_FIRST_TB_SIZE)).length, out.take (min copySize IWL_FIRST_TB_SIZE)⟩])
  dsimp only at h
  split at h
  · cases h
  · rename_i q₂ hmap
    rw [hmap] at hq hall
    dsimp only at hq hall
    unfold handOver at h
    dsimp only at h
    split at h
    · cases h
    · cases h
      refine ⟨⟨0, tbLen cfg (out.take (min copySize IWL_FIRST_TB_SIZE)).length,
        out.take (min copySize IWL_FIRST_TB_SIZE)⟩ :: tbs, ?_, List.forall_mem_cons.mpr ⟨rfl, hlen⟩, by simp [hall rfl]⟩
      simp [hq, Cmdq.kfree, Cmdq.setTfd]

theorem notCopied_lt {n : Nat} : ∀ (fs : List Frag) (pos : Nat), n ∈ notCopied pos fs → n < 2 ^ 16
  | f :: fs, pos, h => by
    unfold notCopied at h
    obtain rfl | h := List.mem_cons.mp h
    · have := f.fits
      split <;> omega
    · exact notCopied_lt fs _ h

/-- The lengths in the descriptor are right when it holds what is not copied of the fragments. -/
theorem exact_iff {tbs : List Tb} {out : List (BitVec 8)} {size : Nat}
    (hlen : ∀ tb ∈ tbs, tb.len = tbLen cfg tb.data.length)
    (hdata : tbs.map Tb.data = out.take (min p.copySize IWL_FIRST_TB_SIZE) :: pieces cmd p out p.copySize)
    (hsize : p.copySize ≤ TFD_MAX_PAYLOAD_SIZE)
    (hlens : ∀ n, 0 < n → ((∀ piece ∈ remaining p.dupBuf cmd.frags p.rests, piece.length < n) ↔
      ∀ k ∈ notCopied size cmd.frags, k < n)) :
    (∀ tb ∈ tbs, tb.len = tb.data.length) ↔ (cfg.gen2 = false → ∀ n ∈ notCopied size cmd.frags, n < 2 ^ 12) := by
  have hbelow : ∀ n, TFD_MAX_PAYLOAD_SIZE < n → ((∀ tb ∈ tbs, tb.data.length < n) ↔
      ∀ k ∈ notCopied size cmd.frags, k < n) := by
    intro n hn
    have hfirst : (out.take (min p.copySize IWL_FIRST_TB_SIZE)).length < n := by
      rw [List.length_take]
      have : IWL_FIRST_TB_SIZE < TFD_MAX_PAYLOAD_SIZE := by decide
      omega
    have hmap : (∀ tb ∈ tbs, tb.data.length < n) ↔ ∀ d ∈ tbs.map Tb.data, d.length < n := by simp
    rw [hmap, hdata, List.forall_mem_cons, pieces_lengths hsize hn, hlens n (by omega)]
    exact ⟨fun h => h.2, fun h => ⟨hfirst, h⟩⟩
  have hshort : ∀ tb ∈ tbs, tb.data.length < 2 ^ 16 :=
    (hbelow _ (by decide)).mpr fun k hk => notCopied_lt _ _ hk
  rw [← hbelow _ (by decide)]
  constructor
  · intro h hgen tb htb
    exact (tbLen_eq_iff (hshort tb htb)).mp ((hlen tb htb).symm.trans (h tb htb)) hgen
  · intro h tb htb
    rw [hlen tb htb]
    exact (tbLen_eq_iff (hshort tb htb)).mpr fun hgen => h hgen tb htb

theorem accepted_some {r : Except Errno Nat × Cmdq} (h : Accepted (some r)) : ∃ idx q', r = (.ok idx, q') := by
  obtain ⟨e | idx, q'⟩ := r
  · exact absurd rfl (h e q')
  · exact ⟨idx, q', rfl⟩

/-- **When the descriptor of an accepted command is right**, for every command, device, queue and course of the
    call. -/
theorem laidOut_iff (h : Accepted (enqueueHcmd cfg env cmd q)) :
    LaidOut cfg cmd q (enqueueHcmd cfg env cmd q) ↔ Fits cfg cmd := by
  obtain ⟨p, hpass⟩ := accepted_passes h
  rw [hpass.submit] at h ⊢
  generalize p.dupBuf.map (fun _ => q.nextBuf) = dup at h ⊢
  obtain ⟨⟨-, hcheck, hbig⟩, -⟩ := hpass
  have hring : (clearTfd cfg (q.alloc dup)).ring = q.ring := clearTfd_ring _
  generalize clearTfd cfg (q.alloc dup) = q₁ at h hring ⊢
  have hslot : tfdIndex cfg q₁ = tfdIndex cfg q := by
    unfold tfdIndex
    rw [hring]
  unfold submit at h ⊢
  rw [hring] at h ⊢
  dsimp only at h ⊢
  generalize hlength : BitVec.ofNat 16 (p.cmdSize + 2 ^ 16 - sizeofCmdHeaderWide) = length at h ⊢
  cases hcopy : copyFrags cmd.frags (header cfg cmd length q.ring.writePtr) (headerSize cfg cmd) with
  | none =>
    -- nothing wraps when the condition holds
    refine ⟨fun ⟨_, _, hr, _⟩ => (nomatch hr), fun hfit => ?_⟩
    have hcopied := checkFrags_copySize hcheck hfit.copied
    obtain ⟨rests, out', -, hloops⟩ := loops_spec hcheck (hcopied ▸ hbig) (header_agree cfg cmd length q.ring.writePtr)
    exact absurd (hcopy.symm.trans hloops.copied) (by simp)
  | some r =>
    obtain ⟨out, copySize⟩ := r
    obtain ⟨hcopied, rfl, hloops⟩ := loops_of_copied hcheck hcopy
    rw [hcopy] at h
    obtain ⟨idx, q', hr⟩ := accepted_some h
    obtain ⟨tbs, htfd, hlen, hdata⟩ := mapOut_ok hr
    rw [hslot] at htfd
    have hflat : tbs.flatMap Tb.data = header cfg cmd length q.ring.writePtr ++ cmd.frags.flatMap Frag.bytes := by
      refine (List.flatMap_def (l := tbs)).trans ?_
      rw [hdata, List.flatten_cons, pieces_flatten, ← hloops.agree.taken, List.nil_append]
    have hle : ∀ tb ∈ tbs, tb.len ≤ tb.data.length := fun tb htb => hlen tb htb ▸ tbLen_le _
    have hlens := fun n (hn : 0 < n) => header_length cfg cmd length q.ring.writePtr ▸ hloops.lt_iff hn
    have hexact := exact_iff hlen hdata hbig hlens
    have hmax : TFD_MAX_PAYLOAD_SIZE < 2 ^ 16 := by decide
    constructor
    · rintro ⟨idx', q'', hr', length', hdesc, hwide⟩
      cases hr.symm.trans (Option.some.inj hr')
      rw [htfd] at hdesc
      have hsame : (tbs.flatMap Tb.described).length = (tbs.flatMap Tb.data).length := by
        rw [hdesc, hflat, List.length_append, List.length_append, header_length, header_length]
      have hlens := (described_iff hle).mp hsame
      rw [described_eq hlens, hflat] at hdesc
      refine ⟨Nat.lt_of_le_of_lt hcopied hmax, fun hw => ?_, hexact.mp hlens⟩
      have heq := header_inj hw (List.append_cancel_right hdesc)
      have hnat := length_toNat hw hcheck
      rw [hlength, heq, hwide hw] at hnat
      rw [hnat]
      exact Nat.mod_lt _ (by decide)
    · intro hfit
      refine ⟨idx, q', congrArg some hr, length, ?_, fun hw => ?_⟩
      · rw [htfd, described_eq (hexact.mpr hfit.tbs), hflat]
      · rw [← hlength, length_toNat hw hcheck, u16_of_lt (hfit.length hw)]

end Proofs

/-! ## Two commands -/

/-- A device of the second generation, and one where nothing fails. -/
def gen2Device : Config :=
  { gen2 := true, wideCmdHeader := true, apmgWakeUpWa := false, maxTfdQueueSize := 256, cmdQId := 0 }

def noFailure : Answers := { kmemdup := true, mapOk := fun _ => true, transDead := false, grabNicAccess := true }

def emptyCmdq : Cmdq :=
  { ring := ⟨0, 0, 32⟩, tfds := fun _ => [], freeBuf := fun _ => none, mapped := [], nextAddr := 1, freed := []
    nextBuf := 0 }

/-- A command with a fragment that is copied and one that is duplicated. -/
def dupCmd : HostCmd :=
  { id := 0x10203, async := false, blockTxqs := false
    frags := [⟨[1, 2], false, false, by decide⟩, ⟨List.replicate 12 7, false, true, by decide⟩], two := rfl }

theorem laidOut_dupCmd : LaidOut gen2Device dupCmd emptyCmdq (enqueueHcmd gen2Device noFailure dupCmd emptyCmdq) := by
  have hok : (enqueueHcmd gen2Device noFailure dupCmd emptyCmdq).map (fun r => r.1.toBool) = some true := by
    decide +kernel
  have haccepted : Accepted (enqueueHcmd gen2Device noFailure dupCmd emptyCmdq) := by
    intro e q' hr
    rw [hr] at hok
    simp [Except.toBool] at hok
  exact (laidOut_iff haccepted).mpr ⟨by decide, by decide, by decide⟩

def zeros (n : Nat) : List (BitVec 8) := List.replicate n 0

@[simp] theorem length_zeros (n : Nat) : (zeros n).length = n := List.length_replicate

/-- A command of one fragment, with as many bytes as there can be. -/
def longCmd : HostCmd :=
  { id := 0x10203, async := false, blockTxqs := false
    frags := [⟨zeros 65535, false, false, by simp⟩, ⟨[], false, false, by simp⟩], two := rfl }

/-- `copy_size` wraps to 7, and the fragment is copied into the 324 bytes of `out_cmd`. -/
theorem longCmd_overruns : Accepted (enqueueHcmd gen2Device noFailure longCmd emptyCmdq) ∧
    ¬ LaidOut gen2Device longCmd emptyCmdq (enqueueHcmd gen2Device noFailure longCmd emptyCmdq) := by
  have hcheck : checkFrags noFailure longCmd.frags ⟨8, 8, false, none, []⟩ =
      (none, ⟨7, 7, false, none, [(zeros 65535).drop 12, []]⟩) := by
    simp [checkFrags, checkFrag, longCmd, firstTbCopy, IWL_FIRST_TB_SIZE, u16]
  have hpass : Passes gen2Device noFailure longCmd emptyCmdq ⟨7, 7, false, none, [(zeros 65535).drop 12, []]⟩ :=
    ⟨⟨rfl, hcheck, by decide⟩, by decide⟩
  have hoverrun : enqueueHcmd gen2Device noFailure longCmd emptyCmdq = none := by
    have hcopy : ∀ out size, copyFrags longCmd.frags out size = none := by
      intro out size
      have hlong : TFD_MAX_PAYLOAD_SIZE < out.length + 65535 := Nat.lt_of_lt_of_le (by decide) (Nat.le_add_left _ _)
      simp [copyFrags, longCmd, hlong]
    rw [hpass.submit, submit, hcopy]
  rw [hoverrun]
  refine ⟨fun e q' h => ?_, fun hlaid => ?_⟩
  · cases h
  · obtain ⟨idx, q', h, -⟩ := hlaid
    cases h

end Iwlwifi.Hcmd
