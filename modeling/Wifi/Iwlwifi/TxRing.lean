import Wifi.Lib.Slots

/-!
# Occupancy of a transmit ring (`linux/drivers/net/wireless/intel/iwlwifi/queue/tx.h`, `queue/tx.c`, `pcie/tx.c`)

* `iwlTxqGetCmdIndex`, `iwlTxqIncWrap`, `iwlTxqUsed`, `iwlTxqSpace`, `iwlPcieCmdqReclaim` — the functions of these
  names.
* `Holding` — a ring with `k` pending entries, as many as the space check admits.
* `OccupancyRight` — what the functions should say of it; `occupancy_right_iff` — when they do.

An `int` is the number of its bits here, as the masks use it; pointers are below `max_tfd_queue_size`.
-/

namespace Iwlwifi.TxRing

/-! ## Functions -/

/-- What is read of `struct iwl_txq`. -/
structure Txq where
  writePtr : Nat
  readPtr : Nat
  nWindow : Nat
  deriving DecidableEq, Repr

/-- What `iwl_pcie_cmdq_reclaim` does besides. -/
inductive Event where
  /-- the index is out of range, and the call is refused -/
  | outOfRange
  /-- a command was skipped: `iwl_force_nmi` -/
  | skipped
  /-- `iwl_pcie_clear_cmd_in_flight` -/
  | clearCmdInFlight
  /-- `iwl_txq_progress` -/
  | progress
  deriving DecidableEq, Repr

/-- `iwl_txq_get_cmd_index`, a `u16`. -/
def iwlTxqGetCmdIndex (q : Txq) (index : Nat) : Nat := (index &&& (q.nWindow - 1)) % 2 ^ 16

variable (maxTfdQueueSize : Nat)

def iwlTxqIncWrap (index : Nat) : Nat := (index + 1) % 2 ^ 32 &&& (maxTfdQueueSize - 1)

def iwlTxqUsed (q : Txq) (i : Nat) : Bool :=
  let index := iwlTxqGetCmdIndex q i
  let r := iwlTxqGetCmdIndex q q.readPtr
  let w := iwlTxqGetCmdIndex q q.writePtr
  if r ≤ w then decide (r ≤ index) && decide (index < w) else !(decide (index < r) && decide (w ≤ index))

def iwlTxqSpace (q : Txq) : Nat :=
  let max := if q.nWindow < maxTfdQueueSize then q.nWindow else maxTfdQueueSize - 1
  let used := (q.writePtr + 2 ^ 32 - q.readPtr) % 2 ^ 32 &&& (maxTfdQueueSize - 1)
  -- `WARN_ON`
  if max < used then 0 else max - used

/-- The loop of `iwl_pcie_cmdq_reclaim`; `nfreed` counts its rounds, and `r` is a `u16`. -/
def reclaimLoop (idx : Nat) : Nat → Txq → Nat → Nat → List Event → Option (Txq × List Event)
  | 0, _, _, _, _ => none
  | fuel + 1, q, r, nfreed, events =>
    if r = idx then some (q, events)
    else
      let q := { q with readPtr := iwlTxqIncWrap maxTfdQueueSize q.readPtr }
      let events := if 0 < nfreed then events ++ [.skipped] else events
      reclaimLoop idx fuel q (iwlTxqIncWrap maxTfdQueueSize r % 2 ^ 16) (nfreed + 1) events

def iwlPcieCmdqReclaim (fuel : Nat) (q : Txq) (idx : Nat) : Option (Txq × List Event) :=
  let idx := iwlTxqGetCmdIndex q idx
  let r := iwlTxqGetCmdIndex q q.readPtr
  if maxTfdQueueSize ≤ idx ∨ iwlTxqUsed q idx = false then some (q, [.outOfRange])
  else do
    let (q, events) ← reclaimLoop maxTfdQueueSize (iwlTxqIncWrap maxTfdQueueSize idx) fuel q r 0 []
    let events := if q.readPtr = q.writePtr then events ++ [.clearCmdInFlight] else events
    some (q, events ++ [.progress])

/-! ## Rings with pending entries -/

/-- As many entries as the space check admits (`iwl_txq_space` on an empty ring). -/
def capacity (q : Txq) : Nat := if q.nWindow < maxTfdQueueSize then q.nWindow else maxTfdQueueSize - 1

/-- A ring with `k` pending entries, from `read_ptr` on.  The sizes are powers of two, the window is not above
    `max_tfd_queue_size`, and that is 65536 (`TFD_QUEUE_SIZE_MAX_GEN3`) at most. -/
structure Holding (q : Txq) (k : Nat) : Prop where
  window : ∃ n, q.nWindow = 2 ^ n
  size : ∃ m, m ≤ 16 ∧ maxTfdQueueSize = 2 ^ m
  inside : q.nWindow ≤ maxTfdQueueSize
  read : q.readPtr < maxTfdQueueSize
  write : q.writePtr = (q.readPtr + k) % maxTfdQueueSize
  room : k ≤ capacity maxTfdQueueSize q

/-- What the functions should say: the remaining capacity, the indices of the pending entries, and that a
    completion of any of them takes `read_ptr` one past it. -/
structure OccupancyRight (q : Txq) (k : Nat) : Prop where
  space : iwlTxqSpace maxTfdQueueSize q = capacity maxTfdQueueSize q - k
  used : ∀ i, iwlTxqUsed q i = true ↔ ∃ j, j < k ∧ i % q.nWindow = (q.readPtr + j) % q.nWindow
  reclaim : ∀ j, j < k → ∀ idx, idx % q.nWindow = (q.readPtr + j) % q.nWindow → ∃ events,
    (∀ fuel, maxTfdQueueSize ≤ fuel → iwlPcieCmdqReclaim maxTfdQueueSize fuel q idx =
      some ({ q with readPtr := (q.readPtr + j + 1) % maxTfdQueueSize }, events)) ∧ .outOfRange ∉ events

variable {maxTfdQueueSize} {q : Txq} {k i idx : Nat}

/-! ## Masks -/

theorem Holding.pos (h : Holding maxTfdQueueSize q k) : 0 < q.nWindow := by
  obtain ⟨n, hn⟩ := h.window
  rw [hn]
  exact Nat.two_pow_pos n

theorem Holding.dvd (h : Holding maxTfdQueueSize q k) : q.nWindow ∣ maxTfdQueueSize := by
  obtain ⟨n, hn⟩ := h.window
  obtain ⟨m, -, hm⟩ := h.size
  have hle := h.inside
  rw [hn, hm] at hle ⊢
  exact Nat.pow_dvd_pow 2 ((Nat.pow_le_pow_iff_right (by decide)).mp hle)

theorem Holding.size_le (h : Holding maxTfdQueueSize q k) : maxTfdQueueSize ≤ 2 ^ 16 := by
  obtain ⟨m, hm, rfl⟩ := h.size
  exact Nat.pow_le_pow_right (by decide) hm

theorem Holding.mask (h : Holding maxTfdQueueSize q k) (x : Nat) : x &&& (maxTfdQueueSize - 1) = x % maxTfdQueueSize := by
  obtain ⟨m, -, rfl⟩ := h.size
  exact Nat.and_two_pow_sub_one_eq_mod x m

theorem Holding.cmdIndex (h : Holding maxTfdQueueSize q k) (x : Nat) : iwlTxqGetCmdIndex q x = x % q.nWindow := by
  obtain ⟨n, hn⟩ := h.window
  have hlt : x % q.nWindow < 2 ^ 16 :=
    Nat.lt_of_lt_of_le (Nat.mod_lt x h.pos) (Nat.le_trans h.inside h.size_le)
  unfold iwlTxqGetCmdIndex
  rw [hn, Nat.and_two_pow_sub_one_eq_mod, ← hn, Nat.mod_eq_of_lt hlt]

theorem Holding.incWrap (h : Holding maxTfdQueueSize q k) {x : Nat} (hx : x ≤ maxTfdQueueSize) :
    iwlTxqIncWrap maxTfdQueueSize x = (x + 1) % maxTfdQueueSize := by
  have hle := h.size_le
  unfold iwlTxqIncWrap
  rw [h.mask, Nat.mod_eq_of_lt (a := x + 1) (by omega)]

theorem Holding.room_lt (h : Holding maxTfdQueueSize q k) : k < maxTfdQueueSize ∧ k ≤ q.nWindow := by
  have hroom := h.room
  have hread := h.read
  have hinside := h.inside
  unfold capacity at hroom
  split at hroom <;> omega

theorem Holding.write_mod (h : Holding maxTfdQueueSize q k) : q.writePtr % q.nWindow = (q.readPtr + k) % q.nWindow := by
  rw [h.write, Nat.mod_mod_of_dvd _ h.dvd]

/-! ## Space and use -/

/-- **The remaining capacity.** -/
theorem space_eq (h : Holding maxTfdQueueSize q k) : iwlTxqSpace maxTfdQueueSize q = capacity maxTfdQueueSize q - k := by
  have hsize := h.size_le
  have hread := h.read
  have hwrite : q.writePtr < maxTfdQueueSize := by
    rw [h.write]
    exact Nat.mod_lt _ (by omega)
  have hpow : maxTfdQueueSize ∣ 2 ^ 32 := by
    obtain ⟨m, hm, rfl⟩ := h.size
    exact Nat.pow_dvd_pow 2 (by omega)
  have hused : (q.writePtr + 2 ^ 32 - q.readPtr) % 2 ^ 32 % maxTfdQueueSize = k := by
    obtain ⟨c, hc⟩ := hpow
    have hdist := Ring.dist_add hread h.room_lt.1
    rw [← h.write] at hdist
    unfold Ring.dist at hdist
    obtain ⟨c', rfl⟩ : ∃ c', c = c' + 1 := by
      cases c with
      | zero => simp at hc
      | succ c => exact ⟨c, rfl⟩
    have hsum : q.writePtr + 2 ^ 32 - q.readPtr = q.writePtr + maxTfdQueueSize - q.readPtr + maxTfdQueueSize * c' := by
      rw [hc, Nat.mul_add, Nat.mul_one]
      omega
    rw [Nat.mod_mod_of_dvd _ ⟨c' + 1, hc⟩, hsum, Nat.add_mul_mod_self_left, hdist]
  have hroom := h.room
  unfold iwlTxqSpace
  unfold capacity at *
  dsimp only
  rw [h.mask, hused, if_neg (by omega)]

/-- The indices of the pending entries, as distances from the read pointer. -/
theorem Holding.pending_iff (h : Holding maxTfdQueueSize q k) :
    (∃ j, j < k ∧ i % q.nWindow = (q.readPtr + j) % q.nWindow) ↔
      Ring.dist q.nWindow (q.readPtr % q.nWindow) (i % q.nWindow) < k := by
  have hpos := h.pos
  have hr := Nat.mod_lt q.readPtr hpos
  have hi := Nat.mod_lt i hpos
  constructor
  · rintro ⟨j, hj, hij⟩
    have hjw : j < q.nWindow := Nat.lt_of_lt_of_le hj h.room_lt.2
    rw [hij, ← Nat.mod_add_mod, Ring.dist_add hr hjw]
    exact hj
  · intro hd
    refine ⟨_, hd, ?_⟩
    rw [← Nat.mod_add_mod, Ring.add_dist hr hi]

/-- **What `iwl_txq_used` says**: nothing is used when the window is full. -/
theorem used_iff (h : Holding maxTfdQueueSize q k) : iwlTxqUsed q i = true ↔
    k < q.nWindow ∧ Ring.dist q.nWindow (q.readPtr % q.nWindow) (i % q.nWindow) < k := by
  have hpos := h.pos
  have hr := Nat.mod_lt q.readPtr hpos
  have hi := Nat.mod_lt i hpos
  have hk := h.room_lt.2
  unfold iwlTxqUsed
  dsimp only
  rw [h.cmdIndex, h.cmdIndex, h.cmdIndex, h.write_mod, ← Nat.mod_add_mod, Ring.dist_eq hr hi,
    Ring.mod_eq_ite (a := q.readPtr % q.nWindow + k) (by omega)]
  generalize q.readPtr % q.nWindow = r at *
  generalize i % q.nWindow = x at *
  by_cases hw : r + k < q.nWindow
  · rw [if_pos hw, if_pos (by omega)]
    simp only [Bool.and_eq_true, decide_eq_true_eq]
    split <;> omega
  · rw [if_neg hw]
    by_cases hfull : k = q.nWindow
    · rw [if_pos (by omega)]
      simp only [Bool.and_eq_true, decide_eq_true_eq]
      omega
    · rw [if_neg (by omega)]
      simp only [Bool.not_eq_true', Bool.and_eq_false_iff, decide_eq_false_iff_not]
      split <;> omega

/-! ## Completions -/

/-- The loop runs as often as its counter needs to arrive. -/
theorem reclaimLoop_eq (h : Holding maxTfdQueueSize q k) {t : Nat} (ht : t < maxTfdQueueSize) :
    ∀ {d r nfreed fuel : Nat} {q' : Txq} {events : List Event}, q'.readPtr < maxTfdQueueSize → r < maxTfdQueueSize →
      Ring.dist maxTfdQueueSize r t = d → d < fuel →
      reclaimLoop maxTfdQueueSize t fuel q' r nfreed events =
        some ({ q' with readPtr := (q'.readPtr + d) % maxTfdQueueSize },
          events ++ List.replicate (if 0 < nfreed then d else d - 1) .skipped) := by
  intro d
  induction d with
  | zero =>
    intro r nfreed fuel q' events hq hr hd hfuel
    obtain ⟨fuel, rfl⟩ : ∃ n, fuel = n + 1 := ⟨fuel - 1, by omega⟩
    rw [reclaimLoop, if_pos ((Ring.dist_eq_zero hr ht).mp hd), Nat.add_zero, Nat.mod_eq_of_lt hq]
    simp
  | succ d ih =>
    intro r nfreed fuel q' events hq hr hd hfuel
    obtain ⟨fuel, rfl⟩ : ∃ n, fuel = n + 1 := ⟨fuel - 1, by omega⟩
    have hne : r ≠ t := by
      intro he
      rw [(Ring.dist_eq_zero hr ht).mpr he] at hd
      omega
    have hsucc := Ring.dist_succ hr ht hne
    have hpos : 0 < maxTfdQueueSize := by omega
    have hlt : (r + 1) % maxTfdQueueSize < maxTfdQueueSize := Nat.mod_lt _ hpos
    have hsize := h.size_le
    rw [reclaimLoop, if_neg hne]
    dsimp only
    rw [h.incWrap (by omega), h.incWrap (by omega), Nat.mod_eq_of_lt (b := 2 ^ 16) (by omega),
      ih (Nat.mod_lt _ hpos) hlt (by omega) (by omega)]
    rw [Nat.mod_add_mod, Nat.add_assoc, Nat.add_comm 1 d, if_pos (Nat.succ_pos nfreed)]
    by_cases hn : 0 < nfreed
    · rw [if_pos hn, if_pos hn, List.append_assoc]
      rfl
    · rw [if_neg hn, if_neg hn]
      rfl

/-- The steps that the loop makes for a pending entry, when it is not refused. -/
theorem reclaim_dist (h : Holding maxTfdQueueSize q k) {j : Nat} (hj : j < k)
    (hidx : idx % q.nWindow = (q.readPtr + j) % q.nWindow) :
    Ring.dist maxTfdQueueSize (q.readPtr % q.nWindow) ((idx % q.nWindow + 1) % maxTfdQueueSize) = j + 1 ↔
      q.nWindow = maxTfdQueueSize ∨ q.readPtr % q.nWindow + j < q.nWindow := by
  have hpos := h.pos
  have hr := Nat.mod_lt q.readPtr hpos
  obtain ⟨hk, hkw⟩ := h.room_lt
  have hinside := h.inside
  have hx : idx % q.nWindow = if q.readPtr % q.nWindow + j < q.nWindow then q.readPtr % q.nWindow + j
      else q.readPtr % q.nWindow + j - q.nWindow := by
    rw [hidx, ← Nat.mod_add_mod, Ring.mod_eq_ite (a := q.readPtr % q.nWindow + j) (by omega)]
  have hxlt : idx % q.nWindow < q.nWindow := Nat.mod_lt idx hpos
  rw [Ring.dist_eq (by omega) (Nat.mod_lt _ (by omega)), Ring.mod_eq_ite (a := idx % q.nWindow + 1) (by omega)]
  generalize q.readPtr % q.nWindow = r at *
  generalize idx % q.nWindow = x at *
  split at hx <;> split <;> split <;> omega

theorem reclaim_refused (h : Holding maxTfdQueueSize q k) (hk : ¬k < q.nWindow) (fuel : Nat) :
    iwlPcieCmdqReclaim maxTfdQueueSize fuel q idx = some (q, [.outOfRange]) := by
  have hused : ∀ i, iwlTxqUsed q i = false := fun i => by
    rw [Bool.eq_false_iff, ne_eq, used_iff h]
    exact fun hu => hk hu.1
  unfold iwlPcieCmdqReclaim
  dsimp only
  rw [hused, if_pos (Or.inr rfl)]

/-- What happens besides when the read pointer has moved by `d`. -/
def reclaimEvents (q : Txq) (d : Nat) : List Event :=
  (if q.readPtr = q.writePtr then List.replicate (d - 1) .skipped ++ [.clearCmdInFlight]
    else List.replicate (d - 1) .skipped) ++ [.progress]

/-- **A completion** moves the read pointer by the steps from its slot to the one behind the entry's. -/
theorem reclaim_moves (h : Holding maxTfdQueueSize q k) (hk : k < q.nWindow) {j : Nat} (hj : j < k)
    (hidx : idx % q.nWindow = (q.readPtr + j) % q.nWindow) : ∃ events,
    (∀ fuel, maxTfdQueueSize ≤ fuel → iwlPcieCmdqReclaim maxTfdQueueSize fuel q idx =
      some ({ q with readPtr := (q.readPtr +
        Ring.dist maxTfdQueueSize (q.readPtr % q.nWindow) ((idx % q.nWindow + 1) % maxTfdQueueSize)) %
          maxTfdQueueSize }, events)) ∧ Event.outOfRange ∉ events := by
  have hpos := h.pos
  have hr := Nat.mod_lt q.readPtr hpos
  have hx := Nat.mod_lt idx hpos
  have hinside := h.inside
  have hread := h.read
  obtain ⟨d, hd⟩ : ∃ d, d =
      Ring.dist maxTfdQueueSize (q.readPtr % q.nWindow) ((idx % q.nWindow + 1) % maxTfdQueueSize) := ⟨_, rfl⟩
  have hdlt : d < maxTfdQueueSize := by
    rw [hd]
    exact Ring.dist_lt (by omega)
  have hused : iwlTxqUsed q (idx % q.nWindow) = true := by
    rw [used_iff h, Nat.mod_mod]
    exact ⟨hk, h.pending_iff.mp ⟨j, hj, hidx⟩⟩
  rw [← hd]
  refine ⟨reclaimEvents { q with readPtr := (q.readPtr + d) % maxTfdQueueSize } d, fun fuel hfuel => ?_, ?_⟩
  · unfold iwlPcieCmdqReclaim
    dsimp only
    rw [h.cmdIndex, h.cmdIndex, hused, if_neg (by simp; omega), h.incWrap (by omega),
      reclaimLoop_eq h (Nat.mod_lt _ (by omega)) hread (by omega) hd.symm (by omega)]
    rfl
  · unfold reclaimEvents
    split <;> simp

/-! ## The claim's condition -/

/-- **Occupancy of a ring.**  The space is always right; what is used, and where a completion leaves the read
    pointer, is right exactly when the window is not full and, for a window smaller than the ring, the pending
    entries do not cross its end. -/
theorem occupancy_right_iff (h : Holding maxTfdQueueSize q k) : OccupancyRight maxTfdQueueSize q k ↔
    k < q.nWindow ∧ (q.nWindow = maxTfdQueueSize ∨ q.readPtr % q.nWindow + k ≤ q.nWindow) := by
  have hpos := h.pos
  have hread := h.read
  obtain ⟨hkm, hkw⟩ := h.room_lt
  constructor
  · intro hright
    have hk : k < q.nWindow := by
      by_cases hzero : k = 0
      · omega
      · have hu := (hright.used q.readPtr).mpr ⟨0, by omega, rfl⟩
        exact ((used_iff h).mp hu).1
    refine ⟨hk, ?_⟩
    by_cases hzero : k = 0
    · right
      have hr := Nat.mod_lt q.readPtr hpos
      omega
    · -- the last pending entry decides
      obtain ⟨events, hreclaim, -⟩ := hright.reclaim (k - 1) (by omega) (q.readPtr + (k - 1)) rfl
      obtain ⟨events', hmoves, -⟩ := reclaim_moves h hk (j := k - 1) (by omega) rfl
      have heq := (hreclaim _ (Nat.le_refl _)).symm.trans (hmoves _ (Nat.le_refl _))
      have hptr := congrArg (fun r => r.map fun x => x.1.readPtr) heq
      simp only [Option.map_some, Option.some.injEq] at hptr
      have hdist : Ring.dist maxTfdQueueSize (q.readPtr % q.nWindow)
          (((q.readPtr + (k - 1)) % q.nWindow + 1) % maxTfdQueueSize) = k - 1 + 1 := by
        have hd := Ring.dist_add hread (Ring.dist_lt (w := ((q.readPtr + (k - 1)) % q.nWindow + 1) % maxTfdQueueSize)
          (show q.readPtr % q.nWindow < maxTfdQueueSize from Nat.lt_of_le_of_lt (Nat.mod_le _ _) hread))
        rw [← hptr, Nat.add_assoc, show k - 1 + 1 = k by omega, Ring.dist_add hread hkm] at hd
        omega
      obtain hfull | hinside := (reclaim_dist h (j := k - 1) (by omega) rfl).mp hdist
      · exact .inl hfull
      · right
        omega
  · rintro ⟨hk, hcross⟩
    refine ⟨space_eq h, fun i => ?_, fun j hj idx hidx => ?_⟩
    · rw [used_iff h, h.pending_iff]
      exact ⟨fun hu => hu.2, fun hd => ⟨hk, hd⟩⟩
    · have hmoves := reclaim_moves h hk hj hidx
      rw [(reclaim_dist h hj hidx).mpr (hcross.imp_right fun hle => by omega)] at hmoves
      exact hmoves

/-- The command queue of a ring of 256, with the entries 31 and 32 pending. -/
def crossing : Txq := { writePtr := 33, readPtr := 31, nWindow := 32 }

theorem crossing_holding : Holding 256 crossing 2 :=
  ⟨⟨5, rfl⟩, ⟨8, by decide, rfl⟩, by decide, by decide, rfl, by decide⟩

/-- The command queue with all 32 entries pending. -/
def full : Txq := { writePtr := 32, readPtr := 0, nWindow := 32 }

theorem full_holding : Holding 256 full 32 := ⟨⟨5, rfl⟩, ⟨8, by decide, rfl⟩, by decide, by decide, rfl, by decide⟩

/-- One pending entry at the end of the window. -/
theorem occupancy_right_last : OccupancyRight 256 { writePtr := 32, readPtr := 31, nWindow := 32 } 1 :=
  (occupancy_right_iff (q := { writePtr := 32, readPtr := 31, nWindow := 32 })
    ⟨⟨5, rfl⟩, ⟨8, by decide, rfl⟩, by decide, by decide, rfl, by decide⟩).mpr ⟨by decide, .inr (by decide)⟩

/-- A completion of entry 32 takes the read pointer from 31 to 1, and one in a full window is refused. -/
theorem reclaim_goes_astray : Holding 256 crossing 2 ∧ Holding 256 full 32 ∧
    (∃ events, iwlPcieCmdqReclaim 256 256 crossing 32 = some ({ crossing with readPtr := 1 }, events)) ∧
    iwlPcieCmdqReclaim 256 256 full 0 = some (full, [.outOfRange]) ∧
    ¬OccupancyRight 256 crossing 2 ∧ ¬OccupancyRight 256 full 32 := by
  have hcross : ∃ events, iwlPcieCmdqReclaim 256 256 crossing 32 = some ({ crossing with readPtr := 1 }, events) := by
    obtain ⟨events, hmoves, -⟩ :=
      reclaim_moves crossing_holding (by decide) (j := 1) (by decide) (show 32 % crossing.nWindow = _ by decide)
    exact ⟨events, hmoves 256 (Nat.le_refl _)⟩
  have hfull : iwlPcieCmdqReclaim 256 256 full 0 = some (full, [.outOfRange]) :=
    reclaim_refused full_holding (by decide) 256
  refine ⟨crossing_holding, full_holding, hcross, hfull, fun hright => ?_, fun hright => ?_⟩
  · obtain ⟨events, hreclaim, -⟩ := hright.reclaim 1 (by decide) 32 (by decide)
    obtain ⟨events', hmoved⟩ := hcross
    have heq := (hreclaim 256 (Nat.le_refl _)).symm.trans hmoved
    cases heq
  · obtain ⟨events, hreclaim, hin⟩ := hright.reclaim 0 (by decide) 0 (by decide)
    have heq := (hreclaim 256 (Nat.le_refl _)).symm.trans hfull
    cases heq

end Iwlwifi.TxRing
