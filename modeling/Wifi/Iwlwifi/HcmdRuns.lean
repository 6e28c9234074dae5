import Wifi.Iwlwifi.Hcmd
import Wifi.Lib.Owners
import Wifi.Lib.Runs

/-!
# Runs of host commands (`linux/drivers/net/wireless/intel/iwlwifi/pcie/tx.c`, `pcie/tx-gen2.c`, `pcie/rx.c`)

* `iwlPcieHcmdComplete`, `rxHandleRb` — the response to a command.
* `Atomic` — what a call that fails leaves of the queue.
* `Clean` — the condition on a call: it does not meet one of three slips.
* `atomic_of_run` — in every run of such calls and of responses a call that fails leaves nothing, and every duplicate
  is freed once.

A response is its sequence number, and whether the handler took the page.
-/

namespace Iwlwifi.Hcmd

open TxRing Runs Owners

section Code

variable (cfg : Config)

/-! ## Responses -/

def seqToQueue (sequence : BitVec 16) : Nat := (sequence >>> 8 &&& 0x1f).toNat

def seqToIndex (sequence : BitVec 16) : Nat := (sequence &&& 0xff).toNat

def iwlTxqGetTfd (q : Cmdq) (idx : Nat) : Nat := if cfg.gen2 then iwlTxqGetCmdIndex q.ring idx else idx

def iwlPcieHcmdComplete (fuel : Nat) (sequence : BitVec 16) (q : Cmdq) : Option Cmdq :=
  if seqToQueue sequence ≠ cfg.cmdQId then some q
  else
    let index := seqToIndex sequence
    let q := q.tfdUnmap (iwlTxqGetTfd cfg q index)
    (iwlPcieCmdqReclaim cfg.maxTfdQueueSize fuel q.ring index).map fun r => { q with ring := r.1 }

/-- The entry of the command lets go of its duplicate. -/
def Cmdq.freeEntry (q : Cmdq) (i : Nat) : Cmdq :=
  { q.kfree (q.freeBuf i) with freeBuf := Function.update q.freeBuf i none }

/-- `iwl_pcie_rx_handle_rb`, for a response -/
def rxHandleRb (fuel : Nat) (sequence : BitVec 16) (stolen : Bool) (q : Cmdq) : Option Cmdq :=
  let q := q.freeEntry (iwlTxqGetCmdIndex q.ring (seqToIndex sequence))
  if stolen then some q else iwlPcieHcmdComplete cfg fuel sequence q

end Code

/-! ## Runs -/

inductive Op where
  | enqueue (env : Answers) (cmd : HostCmd)
  | response (sequence : BitVec 16) (stolen : Bool)

/-- A step of the queue; a copy beyond `out_cmd` ends the run. -/
def Step (cfg : Config) (q : Cmdq) : Op → Cmdq → Prop
  | .enqueue env cmd, q' => ∃ r, enqueueHcmd cfg env cmd q = some (r, q')
  | .response sequence stolen, q' => ∃ fuel, rxHandleRb cfg fuel sequence stolen q = some q'

structure Init (cfg : Config) (q : Cmdq) : Prop where
  size : 0 < cfg.maxTfdQueueSize
  read : q.ring.readPtr = 0
  write : q.ring.writePtr = 0
  mapped : q.mapped = []
  freeBuf : ∀ i, q.freeBuf i = none
  freed : q.freed = []
  nextBuf : q.nextBuf = 0

/-! ## What is asked of a call -/

def Pending (cfg : Config) (q : Cmdq) (i : Nat) : Prop :=
  ∃ j < Ring.dist cfg.maxTfdQueueSize q.ring.readPtr q.ring.writePtr,
    i = iwlTxqGetTfd cfg q ((q.ring.readPtr + j) % cfg.maxTfdQueueSize)

structure Undone (cfg : Config) (q q' : Cmdq) : Prop where
  writePtr : q'.ring.writePtr = q.ring.writePtr
  pending : ∀ i, Pending cfg q i → q'.tfds i = q.tfds i
  mapped : q'.mapped = q.mapped
  freeBuf : ∀ i b, q'.freeBuf i = some b → b ∉ q'.freed

/-- **All or nothing**, for the result of a call. -/
def Atomic (cfg : Config) (q : Cmdq) (r : Option (Except Errno Nat × Cmdq)) : Prop :=
  ∀ e q', r = some (.error e, q') → Undone cfg q q'

/-- The lengths of what is mapped for a command. -/
def mappings (cfg : Config) (cmd : HostCmd) : List Nat :=
  (if IWL_FIRST_TB_SIZE < toCopy (headerSize cfg cmd) cmd.frags then
    [toCopy (headerSize cfg cmd) cmd.frags - IWL_FIRST_TB_SIZE] else []) ++
  (notCopied (headerSize cfg cmd) cmd.frags).filter (0 < ·)

/-- **The condition** on a call.  On gen2 a command that is admitted finds a descriptor that is not pending.  On gen1,
    when a mapping fails, the lengths of the ones before it are in their descriptors; and when none fails, the command
    is put in flight, or has nothing to undo. -/
structure Clean (cfg : Config) (env : Answers) (cmd : HostCmd) (q : Cmdq) : Prop where
  slot : cfg.gen2 = true → (∃ p, Admitted cfg env cmd p) → ¬ Pending cfg q (tfdIndex cfg q)
  short : cfg.gen2 = false → (∃ p, Passes cfg env cmd q p) →
    (∃ k < (mappings cfg cmd).length, env.mapOk k = false) →
    ∀ k n, (mappings cfg cmd)[k]? = some n → (∀ j ≤ k, env.mapOk j = true) → n < 2 ^ 12
  inFlight : (∃ p, Passes cfg env cmd q p) → (∀ k < (mappings cfg cmd).length, env.mapOk k = true) →
    setCmdInFlight cfg env ≠ none → mappings cfg cmd = [] ∧ ∀ f ∈ cmd.frags, f.bytes ≠ [] → f.dup = false

def Op.Clean (cfg : Config) (q : Cmdq) : Op → Prop
  | .enqueue env cmd => Hcmd.Clean cfg env cmd q
  | .response _ _ => True

/-! ## The invariant -/

structure Inv (cfg : Config) (q : Cmdq) : Prop where
  read : q.ring.readPtr < cfg.maxTfdQueueSize
  write : q.ring.writePtr < cfg.maxTfdQueueSize
  fresh : ∀ m ∈ q.mapped, m.1 < q.nextAddr
  owned : Owned q.freeBuf q.freed q.nextBuf

/-- What becomes of a duplicate: it is freed, or an entry gets it and lets go of what it had. -/
def Settled (q q' : Cmdq) (dup : Option Nat) : Prop :=
  q'.nextBuf = q.nextBuf + dup.toList.length ∧
  (q'.freeBuf = q.freeBuf ∧ q'.freed = q.freed ++ dup.toList ∨
    ∃ i, q'.freeBuf = Function.update q.freeBuf i dup ∧ q'.freed = q.freed ++ (q.freeBuf i).toList)

structure Ends (cfg : Config) (q : Cmdq) (r : Except Errno Nat × Cmdq) : Prop where
  settled : ∃ dup : Option Nat, (∀ b ∈ dup, b = q.nextBuf) ∧ Settled q r.2 dup
  read : r.2.ring.readPtr = q.ring.readPtr
  write : r.2.ring.writePtr = q.ring.writePtr ∨
    r.2.ring.writePtr = iwlTxqIncWrap cfg.maxTfdQueueSize q.ring.writePtr
  fresh : ∀ m ∈ r.2.mapped, m.1 < r.2.nextAddr
  failed : ∀ e, r.1 = .error e → r.2.ring = q.ring ∧ r.2.mapped = q.mapped ∧
    ∀ i, Pending cfg q i → r.2.tfds i = q.tfds i

variable {cfg : Config} {env : Answers} {cmd : HostCmd} {q q' : Cmdq} {p p' : Pass} {f : Frag} {fs : List Frag}

theorem incWrap_lt {size x : Nat} (h : 0 < size) : iwlTxqIncWrap size x < size := by
  have hle : iwlTxqIncWrap size x ≤ size - 1 := Nat.and_le_right
  omega

theorem Inv.not_pending (h : Inv cfg q) (hgen : cfg.gen2 = false) : ¬ Pending cfg q (tfdIndex cfg q) := by
  rintro ⟨j, hj, heq⟩
  have hlt := Nat.lt_trans hj (Ring.dist_lt h.read)
  have hdist := Ring.dist_add h.read hlt
  simp only [tfdIndex, iwlTxqGetTfd, hgen, Bool.false_eq_true, if_false] at heq
  rw [← heq] at hdist
  omega

theorem Settled.owned {dup : Option Nat} (h : Owned q.freeBuf q.freed q.nextBuf) (hdup : ∀ b ∈ dup, b = q.nextBuf)
    (hs : Settled q q' dup) : Owned q'.freeBuf q'.freed q'.nextBuf := by
  obtain ⟨hnext, ⟨hbuf, hfreed⟩ | ⟨i, hbuf, hfreed⟩⟩ := hs
  · rw [hnext, hbuf, hfreed]
    cases dup with
    | none => simpa using h
    | some b =>
      cases hdup b rfl
      exact h.pass
  · rw [hnext, hbuf, hfreed]
    cases dup with
    | none => exact h.release i
    | some b =>
      cases hdup b rfl
      have hgive := (h.release i).give (Function.update_self i none q.freeBuf)
      rwa [Function.update_idem] at hgive

/-! ## A call -/

/-- No duplicate is made where no fragment asks for one. -/
theorem checkFrags_no_dup (h : checkFrags env fs p = (none, p')) (hfs : ∀ f ∈ fs, f.bytes ≠ [] → f.dup = false) :
    p'.dupBuf = p.dupBuf := by
  induction fs generalizing p with
  | nil =>
    cases h
    rfl
  | cons f fs ih =>
    obtain ⟨p₁, hstep, h⟩ := checkFrags_cons h
    obtain ⟨hf, hfs⟩ := List.forall_mem_cons.mp hfs
    refine (ih h hfs).trans ?_
    cases hstep with
    | empty hlen hp => rw [hp]
    | nocopy hlen hf hp => rw [hp]
    | dup hlen hdup hnone hp => exact absurd (hf hlen) (by simp [hdup.2])
    | copied hlen hf hnone hp => rw [hp]

/-- What is mapped has the lengths that the command says. -/
theorem Passes.pieces (hp : Passes cfg env cmd q p) {length : BitVec 16} {w copySize : Nat} {out : List (BitVec 8)}
    (hcopy : copyFrags cmd.frags (header cfg cmd length w) (headerSize cfg cmd) = some (out, copySize)) :
    (pieces cmd p out copySize).map List.length = mappings cfg cmd := by
  obtain ⟨hcopied, rfl, hloops⟩ := loops_of_copied hp.checked hcopy
  have hsize := checkFrags_copySize hp.checked (Nat.lt_of_le_of_lt hcopied (by decide))
  dsimp only at hsize
  have hlens := hloops.lengths
  rw [header_length] at hlens
  have hle := hloops.agree.le
  unfold Hcmd.pieces mappings
  rw [List.map_append, hlens, ← hsize]
  congr 1
  by_cases hmore : IWL_FIRST_TB_SIZE < p.copySize
  · rw [if_pos hmore, if_pos (by omega), List.map_singleton, List.length_drop, List.length_take]
    congr 1
    omega
  · rw [if_neg hmore, if_neg (by omega)]
    rfl

/-- The buffers that were mapped last are all unmapped when the lengths are right. -/
theorem foldl_erase : ∀ (tbs : List Tb) {mapped : List (Nat × Nat)}, (∀ tb ∈ tbs, tb.len = tb.data.length) →
    (∀ tb ∈ tbs, ∀ m ∈ mapped, m.1 < tb.addr) →
    tbs.foldl (fun mapped tb => mapped.erase (tb.addr, tb.len))
      (mapped ++ tbs.map fun tb => (tb.addr, tb.data.length)) = mapped
  | [], _, _, _ => List.append_nil _
  | tb :: tbs, mapped, hlen, hnew => by
    obtain ⟨hthis, hlen⟩ := List.forall_mem_cons.mp hlen
    obtain ⟨hnot, hnew⟩ := List.forall_mem_cons.mp hnew
    have hmem : (tb.addr, tb.len) ∉ mapped := fun hmem => Nat.lt_irrefl _ (hnot _ hmem)
    rw [List.foldl_cons, List.erase_append_right _ hmem, List.map_cons, hthis, List.erase_cons_head]
    exact foldl_erase tbs hlen hnew

theorem mappings_lt (h : toCopy (headerSize cfg cmd) cmd.frags ≤ TFD_MAX_PAYLOAD_SIZE) {n : Nat}
    (hn : n ∈ mappings cfg cmd) : n < 2 ^ 16 := by
  have hmax : TFD_MAX_PAYLOAD_SIZE < 2 ^ 16 := by decide
  obtain hn | hn := List.mem_append.mp hn
  · split at hn
    · rw [List.mem_singleton.mp hn]
      omega
    · cases hn
  · exact notCopied_lt _ _ (List.mem_filter.mp hn).1

/-- What has changed up to the descriptor: there is a duplicate, and the descriptor may be cleared. -/
structure Ready (cfg : Config) (q q' : Cmdq) (dup : Option Nat) : Prop where
  ring : q'.ring = q.ring
  mapped : q'.mapped = q.mapped
  nextAddr : q'.nextAddr = q.nextAddr
  freeBuf : q'.freeBuf = q.freeBuf
  freed : q'.freed = q.freed
  nextBuf : q'.nextBuf = q.nextBuf + dup.toList.length
  tfds : ∀ i, i ≠ tfdIndex cfg q → q'.tfds i = q.tfds i

theorem ready_alloc (dup : Option Nat) : Ready cfg q (q.alloc dup) dup := ⟨rfl, rfl, rfl, rfl, rfl, rfl, fun _ _ => rfl⟩

theorem ready_clearTfd (dup : Option Nat) : Ready cfg q (clearTfd cfg (q.alloc dup)) dup := by
  unfold clearTfd
  split
  · exact ⟨rfl, rfl, rfl, rfl, rfl, rfl, fun i hi => Function.update_of_ne hi _ _⟩
  · exact ready_alloc dup

/-- **The part behind the checks.** -/
theorem mapOut_ends {q₁ : Cmdq} {out : List (BitVec 8)} {copySize : Nat} (hinv : Inv cfg q)
    (hclean : Clean cfg env cmd q) (hp : Passes cfg env cmd q p)
    (hfit : toCopy (headerSize cfg cmd) cmd.frags ≤ TFD_MAX_PAYLOAD_SIZE)
    (hlens : (pieces cmd p out copySize).map List.length = mappings cfg cmd)
    (hq : Ready cfg q q₁ (p.dupBuf.map fun _ => q.nextBuf)) :
    Ends cfg q (mapOut cfg env cmd p (p.dupBuf.map fun _ => q.nextBuf) out copySize q₁) := by
  have hnot : ¬ Pending cfg q (tfdIndex cfg q) := by
    cases hgen : cfg.gen2 with
    | true => exact hclean.slot hgen ⟨p, hp.toAdmitted⟩
    | false => exact hinv.not_pending hgen
  have hdup : ∀ b ∈ p.dupBuf.map fun _ => q.nextBuf, b = q.nextBuf := by simp
  have hslot : tfdIndex cfg q₁ = tfdIndex cfg q := by
    unfold tfdIndex
    rw [hq.ring]
  generalize hd : p.dupBuf.map (fun _ => q.nextBuf) = dup at hdup hq ⊢
  unfold mapOut
  rw [hslot]
  dsimp only
  generalize (⟨0, _, _⟩ : Tb) = first
  obtain ⟨tbs, hq₂, haddr, hlen, ⟨rest, hpre⟩, hok, hall, hfail⟩ := mapAll_spec cfg env (tfdIndex cfg q) 0
    (pieces cmd p out copySize) (q₁.setTfd (tfdIndex cfg q) [first])
  have hmade : tbs.map (fun tb => tb.data.length) ++ rest.map List.length = mappings cfg cmd := by
    rw [← hlens, ← hpre, List.map_append, List.map_map]
    rfl
  have hnew : ∀ tb ∈ tbs, q.nextAddr ≤ tb.addr ∧ tb.addr < q.nextAddr + tbs.length := by
    intro tb htb
    have hmem := List.mem_map_of_mem (f := Tb.addr) htb
    rw [haddr] at hmem
    exact List.mem_range'_1.mp (hq.nextAddr ▸ hmem)
  have hother : ∀ (tbs : List Tb) i, Pending cfg q i →
      Function.update q₁.tfds (tfdIndex cfg q) tbs i = q.tfds i := by
    intro tbs i hi
    have hne : i ≠ tfdIndex cfg q := fun heq => hnot (heq ▸ hi)
    rw [Function.update_of_ne hne, hq.tfds i hne]
  generalize mapAll cfg env (tfdIndex cfg q) 0 (pieces cmd p out copySize) (q₁.setTfd (tfdIndex cfg q) [first]) = r
    at hq₂ hall hfail ⊢
  obtain ⟨done, q₂⟩ := r
  dsimp only [Cmdq.setTfd] at hq₂ hall hfail
  rw [Function.update_self, Function.update_idem] at hq₂
  subst hq₂
  cases done with
  | false =>
    obtain ⟨hstop, hno⟩ := hfail rfl
    rw [Nat.zero_add] at hno
    have hexact : ∀ tb ∈ tbs, tb.len = tb.data.length := by
      intro tb htb
      have hmem : tb.data.length ∈ mappings cfg cmd :=
        hmade ▸ List.mem_append_left _ (List.mem_map_of_mem (f := fun tb => tb.data.length) htb)
      rw [hlen tb htb, tbLen_eq_iff (mappings_lt hfit hmem)]
      intro hgen
      obtain ⟨k, hk, rfl⟩ := List.getElem_of_mem htb
      refine hclean.short hgen ⟨p, hp⟩ ⟨tbs.length, ?_, hno⟩ k _ ?_ fun j hj => ?_
      · rw [← hlens, List.length_map]
        exact hstop
      · rw [← hmade, List.getElem?_append_left (by simpa using hk)]
        simp [hk]
      · have hj := hok j (Nat.lt_of_le_of_lt hj hk)
        rwa [Nat.zero_add] at hj
    have hmapped : tbs.foldl (fun mapped tb => mapped.erase (tb.addr, tb.len))
        (q₁.mapped ++ tbs.map fun tb => (tb.addr, tb.data.length)) = q.mapped := by
      rw [hq.mapped]
      exact foldl_erase tbs hexact fun tb htb m hm => Nat.lt_of_lt_of_le (hinv.fresh m hm) (hnew tb htb).1
    refine ⟨⟨dup, hdup, hq.nextBuf, .inl ⟨hq.freeBuf, congrArg (· ++ dup.toList) hq.freed⟩⟩,
      congrArg Txq.readPtr hq.ring, .inl (congrArg Txq.writePtr hq.ring), ?_, fun e _ => ⟨hq.ring, ?_, fun i hi => ?_⟩⟩
    · simp only [Cmdq.kfree, Cmdq.tfdUnmap, Function.update_self, List.singleton_append, List.tail_cons, hmapped,
        hq.nextAddr]
      exact fun m hm => Nat.lt_of_lt_of_le (hinv.fresh m hm) (Nat.le_add_right _ _)
    · simp only [Cmdq.kfree, Cmdq.tfdUnmap, Function.update_self, List.singleton_append, List.tail_cons, hmapped]
    · simp only [Cmdq.kfree, Cmdq.tfdUnmap, Function.update_idem]
      exact hother _ i hi
  | true =>
    have hfresh : ∀ m ∈ q₁.mapped ++ tbs.map fun tb => (tb.addr, tb.data.length), m.1 < q₁.nextAddr + tbs.length := by
      rw [hq.mapped, hq.nextAddr]
      intro m hm
      obtain hm | hm := List.mem_append.mp hm
      · exact Nat.lt_of_lt_of_le (hinv.fresh m hm) (Nat.le_add_right _ _)
      · obtain ⟨tb, htb, rfl⟩ := List.mem_map.mp hm
        exact (hnew tb htb).2
    have hcount : tbs.length = (mappings cfg cmd).length := by
      rw [← hlens, List.length_map, ← hall rfl, List.length_map]
    unfold handOver
    dsimp only
    cases hset : setCmdInFlight cfg env with
    | none =>
      dsimp only
      refine ⟨⟨dup, hdup, hq.nextBuf, .inr ⟨iwlTxqGetCmdIndex q₁.ring q₁.ring.writePtr, ?_, ?_⟩⟩, ?_, .inr ?_, hfresh, fun e he => by cases he⟩
      · exact congrArg (fun held : Nat → Option Nat => Function.update held _ dup) hq.freeBuf
      · simp only [Cmdq.kfree, hq.freed, hq.freeBuf]
      · simp only [Cmdq.kfree, hq.ring]
      · simp only [Cmdq.kfree, hq.ring]
    | some e =>
      -- nothing was mapped, and there is no duplicate
      obtain ⟨hnil, hno⟩ := hclean.inFlight ⟨p, hp⟩ (fun k hk => by simpa using hok k (hcount ▸ hk)) (by simp [hset])
      have htbs : tbs = [] := List.length_eq_zero_iff.mp (hcount.trans (by rw [hnil]; rfl))
      have hnodup : dup = none := by
        rw [← hd, checkFrags_no_dup hp.checked hno]
        rfl
      subst htbs hnodup
      dsimp only
      refine ⟨⟨none, hdup, hq.nextBuf, .inr ⟨iwlTxqGetCmdIndex q₁.ring q₁.ring.writePtr, ?_, ?_⟩⟩,
        congrArg Txq.readPtr hq.ring, .inl (congrArg Txq.writePtr hq.ring), hfresh, fun e _ => ⟨hq.ring, ?_, hother _⟩⟩
      · exact congrArg (fun held : Nat → Option Nat => Function.update held _ none) hq.freeBuf
      · simp only [Cmdq.kfree, hq.freed, hq.freeBuf, Option.toList_none, List.append_nil]
      · simp [Cmdq.kfree, hq.mapped]

/-- **How a call ends**, when it meets the condition. -/
theorem enqueueHcmd_ends {r : Except Errno Nat × Cmdq} (hinv : Inv cfg q) (hclean : Clean cfg env cmd q)
    (hr : enqueueHcmd cfg env cmd q = some r) : Ends cfg q r := by
  -- a call that is refused changes the descriptor at most
  have hrefused : ∀ (e : Errno) (q₁ : Cmdq) (dup : Option Nat), (∀ b ∈ dup, b = q.nextBuf) → Ready cfg q q₁ dup →
      (∀ i, Pending cfg q i → q₁.tfds i = q.tfds i) → Ends cfg q (.error e, q₁.kfree dup) := by
    intro e q₁ dup hdup hq hpend
    refine ⟨⟨dup, hdup, hq.nextBuf, .inl ⟨hq.freeBuf, congrArg (· ++ dup.toList) hq.freed⟩⟩,
      congrArg Txq.readPtr hq.ring, .inl (congrArg Txq.writePtr hq.ring), fun m hm => ?_,
      fun e _ => ⟨hq.ring, hq.mapped, hpend⟩⟩
    exact Nat.lt_of_lt_of_eq (hinv.fresh m (hq.mapped ▸ hm)) hq.nextAddr.symm
  cases enqueueHcmd_course cfg env cmd q with
  | refused e dup hdup hr' =>
    cases hr.symm.trans hr'
    exact hrefused e _ dup hdup (ready_alloc dup) fun _ _ => rfl
  | full p dup hdup hp hr' =>
    cases hr.symm.trans hr'
    refine hrefused _ _ dup hdup (ready_clearTfd dup) fun i hi => ?_
    cases hgen : cfg.gen2 with
    | true =>
      have hne : i ≠ tfdIndex cfg q := fun heq => hclean.slot hgen ⟨p, hp⟩ (heq ▸ hi)
      exact (ready_clearTfd dup).tfds i hne
    | false => simp [clearTfd, hgen, Cmdq.alloc]
  | passes p hp =>
    rw [hp.submit] at hr
    unfold submit at hr
    dsimp only at hr
    split at hr
    · cases hr
    · rename_i out copySize hcopy
      cases hr
      have hfit := (loops_of_copied hp.checked hcopy).1
      exact mapOut_ends hinv hclean hp hfit (hp.pieces hcopy) (ready_clearTfd _)

/-! ## Runs -/

theorem Ends.inv {r : Except Errno Nat × Cmdq} (h : Ends cfg q r) (hinv : Inv cfg q) : Inv cfg r.2 := by
  obtain ⟨dup, hdup, hs⟩ := h.settled
  refine ⟨h.read ▸ hinv.read, ?_, h.fresh, hs.owned hinv.owned hdup⟩
  obtain hw | hw := h.write
  · exact hw ▸ hinv.write
  · exact hw ▸ incWrap_lt (Nat.zero_lt_of_lt hinv.write)

theorem reclaimLoop_inv {size idx : Nat} (hsize : 0 < size) : ∀ (fuel : Nat) {t t' : Txq} {r n : Nat}
    {events events' : List Event}, reclaimLoop size idx fuel t r n events = some (t', events') → t.readPtr < size →
    t'.readPtr < size ∧ t'.writePtr = t.writePtr
  | fuel + 1, t, t', r, n, events, events', h, hread => by
    unfold reclaimLoop at h
    split at h
    · cases h
      exact ⟨hread, rfl⟩
    · dsimp only at h
      obtain ⟨hlt, hwrite⟩ := reclaimLoop_inv hsize fuel h (incWrap_lt hsize)
      exact ⟨hlt, hwrite⟩

theorem reclaim_inv {fuel idx : Nat} {t : Txq} {r : Txq × List Event} {size : Nat} (hread : t.readPtr < size)
    (h : iwlPcieCmdqReclaim size fuel t idx = some r) : r.1.readPtr < size ∧ r.1.writePtr = t.writePtr := by
  unfold iwlPcieCmdqReclaim at h
  dsimp only at h
  split at h
  · cases h
    exact ⟨hread, rfl⟩
  · obtain ⟨⟨t', events⟩, hloop, h⟩ := Option.bind_eq_some_iff.mp h
    cases h
    exact reclaimLoop_inv (Nat.zero_lt_of_lt hread) fuel hloop hread

theorem tfdUnmap_mapped (q : Cmdq) (i : Nat) : (q.tfdUnmap i).mapped ⊆ q.mapped := by
  refine Sweep.keeps (P := fun mapped => mapped ⊆ q.mapped) (fun mapped tb _ h => ?_) (List.Subset.refl _)
  exact List.Subset.trans List.erase_subset h

/-- **A response** frees the duplicate of its entry. -/
theorem rxHandleRb_inv {fuel : Nat} {sequence : BitVec 16} {stolen : Bool} (hinv : Inv cfg q)
    (h : rxHandleRb cfg fuel sequence stolen q = some q') : Inv cfg q' ∧
      ∀ b, q.freeBuf (iwlTxqGetCmdIndex q.ring (seqToIndex sequence)) = some b → b ∈ q'.freed := by
  unfold rxHandleRb at h
  generalize iwlTxqGetCmdIndex q.ring (seqToIndex sequence) = i at h ⊢
  have hinv₁ : Inv cfg (q.freeEntry i) := ⟨hinv.read, hinv.write, hinv.fresh, hinv.owned.release i⟩
  have hfreed : ∀ b, q.freeBuf i = some b → b ∈ (q.freeEntry i).freed := fun b hb => by
    simp [Cmdq.freeEntry, Cmdq.kfree, hb]
  generalize q.freeEntry i = q₁ at h hinv₁ hfreed
  dsimp only at h
  split at h
  · cases h
    exact ⟨hinv₁, hfreed⟩
  · unfold iwlPcieHcmdComplete at h
    split at h
    · cases h
      exact ⟨hinv₁, hfreed⟩
    · obtain ⟨r, hr, rfl⟩ := Option.map_eq_some_iff.mp h
      obtain ⟨hread, hwrite⟩ := reclaim_inv hinv₁.read hr
      exact ⟨⟨hread, hwrite ▸ hinv₁.write, fun m hm => hinv₁.fresh m (tfdUnmap_mapped _ _ hm), hinv₁.owned⟩, hfreed⟩

theorem inv_start (h : Init cfg q) : Inv cfg q := by
  refine ⟨h.read ▸ h.size, h.write ▸ h.size, by simp [h.mapped], ?_⟩
  rw [h.freed, h.nextBuf]
  exact Owned.start _ h.freeBuf

theorem inv_step {op : Op} (hinv : Inv cfg q) (h : Guarded (Op.Clean cfg) (Step cfg) q op q') : Inv cfg q' := by
  obtain ⟨hclean, hstep⟩ := h
  cases op with
  | enqueue env cmd =>
    obtain ⟨r, hr⟩ := hstep
    exact (enqueueHcmd_ends hinv hclean hr).inv hinv
  | response sequence stolen =>
    obtain ⟨fuel, hr⟩ := hstep
    exact (rxHandleRb_inv hinv hr).1

/-- **All or nothing, and every duplicate is freed once**: in every run of calls that meet the condition and of
    responses, a call that fails leaves nothing of it; a duplicate is freed once or held by one entry, and the response
    to its command frees it. -/
theorem atomic_of_run (h : Reachable (Init cfg) (Guarded (Op.Clean cfg) (Step cfg)) q) :
    Owned q.freeBuf q.freed q.nextBuf ∧
      (∀ env cmd, Clean cfg env cmd q → Atomic cfg q (enqueueHcmd cfg env cmd q)) ∧
      ∀ fuel sequence stolen q', rxHandleRb cfg fuel sequence stolen q = some q' →
        ∀ b, q.freeBuf (iwlTxqGetCmdIndex q.ring (seqToIndex sequence)) = some b → b ∈ q'.freed := by
  have hinv : Inv cfg q := h.invariant (fun _ => inv_start) fun _ _ _ => inv_step
  refine ⟨hinv.owned, fun env cmd hclean e q' hr => ?_, fun fuel sequence stolen q' hr => (rxHandleRb_inv hinv hr).2⟩
  have hends := enqueueHcmd_ends hinv hclean hr
  obtain ⟨hring, hmapped, hpend⟩ := hends.failed e rfl
  exact ⟨congrArg Txq.writePtr hring, hpend, hmapped, fun i b hb => ((hends.inv hinv).owned.live i b hb).2⟩

/-! ## Two calls that fail -/

theorem init_emptyCmdq (h : 0 < cfg.maxTfdQueueSize) : Init cfg emptyCmdq := ⟨h, rfl, rfl, rfl, fun _ => rfl, rfl, rfl⟩

def noMapping : Answers := { noFailure with mapOk := fun _ => false }

theorem atomic_noMapping : Atomic gen2Device emptyCmdq (enqueueHcmd gen2Device noMapping dupCmd emptyCmdq) ∧
    (enqueueHcmd gen2Device noMapping dupCmd emptyCmdq).map (fun r => (r.1.toBool, r.2.freed)) = some (false, [0]) := by
  have hclean : Clean gen2Device noMapping dupCmd emptyCmdq := by
    refine ⟨fun _ _ hpend => ?_, nofun, fun _ _ hset => absurd rfl hset⟩
    obtain ⟨j, hj, -⟩ := hpend
    exact Nat.not_lt_zero j hj
  exact ⟨(atomic_of_run (.start (init_emptyCmdq (by decide)))).2.1 _ _ hclean, by decide +kernel⟩

/-- A device of the first generation that has to be woken up, and cannot be. -/
def wakeDevice : Config :=
  { gen2 := false, wideCmdHeader := true, apmgWakeUpWa := true, maxTfdQueueSize := 256, cmdQId := 0 }

def asleep : Answers := { noFailure with grabNicAccess := false }

/-- The duplicate is freed, and the entry has it. -/
theorem asleep_dangles : Init wakeDevice emptyCmdq ∧
    ¬ Atomic wakeDevice emptyCmdq (enqueueHcmd wakeDevice asleep dupCmd emptyCmdq) := by
  have hcall : (enqueueHcmd wakeDevice asleep dupCmd emptyCmdq).map
      (fun r => (r.1.toBool, r.2.freeBuf 0, r.2.freed)) = some (false, some 0, [0]) := by decide +kernel
  obtain ⟨⟨e | idx, q'⟩, hr, hq⟩ := Option.map_eq_some_iff.mp hcall
  · simp only [Prod.mk.injEq] at hq
    obtain ⟨-, hbuf, hfreed⟩ := hq
    refine ⟨init_emptyCmdq (by decide), fun hatomic => ?_⟩
    exact (hatomic e q' hr).freeBuf 0 0 hbuf (by simp [hfreed])
  · simp [Except.toBool] at hq

end Iwlwifi.Hcmd
