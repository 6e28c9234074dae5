import Mathlib.Data.Finset.Card
import Wifi.Lib.Memory
import Wifi.Lib.Runs
import Wifi.Linux.Skbuff
import Wifi.Mac80211.TimElement

/-!
# The TIM of net80211 (`freebsd/sys/net80211`)

* `setTim` — `ieee80211_set_tim` (`ieee80211_power.c`).
* `beaconUpdate` — what `ieee80211_beacon_update` (`ieee80211_output.c`) does for the TIM and the DTIM count; the other elements
  are the trailer, and other updates of the beacon are left out.
* `timUcast` — what a station reads (`ieee80211_sta.c`).
* `beacon_announces_iff` — the new TIM is right exactly when its offset did not change alone.
* `beacons_announce` — a run in which that does not happen.
* `mac80211_tim_read` — the TIM of `__ieee80211_beacon_add_tim`, read by a station of net80211.
-/

namespace Net80211.Tim

open Runs

/-! ## The bitmap -/

def setbit (a : Nat → Byte) (i : Nat) : Nat → Byte := Function.update a (i / 8) (a (i / 8) ||| (1#8 <<< (i % 8)))

def clrbit (a : Nat → Byte) (i : Nat) : Nat → Byte := Function.update a (i / 8) (a (i / 8) &&& ~~~(1#8 <<< (i % 8)))

def isset (a : Nat → Byte) (i : Nat) : Bool := (a (i / 8)).getLsbD (i % 8)

/-- `struct ieee80211vap`, with `iv_bcn_off` and the memory of the beacon. -/
structure Vap where
  maxAid : Nat
  timBitmap : Nat → Byte
  psPending : Nat
  /-- `IEEE80211_BEACON_TIM` of `bo_flags` -/
  flagTim : Bool
  boTim : Nat
  boTimLen : Nat
  boTimTrailer : Nat
  boTimTrailerLen : Nat
  mem : Nat → Byte

/-- `iv_tim_len` -/
def Vap.timLen (vap : Vap) : Nat := (vap.maxAid + 7) / 8

/-- `ieee80211_set_tim`; the driver marks the update that is asked for. -/
def setTim (vap : Vap) (aid : Nat) (set : Bool) : Vap :=
  if set = isset vap.timBitmap aid then vap
  else if set then { vap with timBitmap := setbit vap.timBitmap aid, psPending := vap.psPending + 1, flagTim := true }
  else { vap with timBitmap := clrbit vap.timBitmap aid, psPending := vap.psPending - 1, flagTim := true }

/-! ## The beacon -/

/-- The loop down to `timoff`, from the byte before `i`. -/
def lastLoop (timBitmap : Nat → Byte) (timoff : Nat) : Nat → Nat
  | 0 => 0
  | i + 1 => if i < timoff then i else if timBitmap i ≠ 0 then i else lastLoop timBitmap timoff i

def Vap.timoff (vap : Vap) : Nat :=
  if vap.psPending ≠ 0 then
    match (List.range vap.timLen).find? fun i => vap.timBitmap i ≠ 0 with
    | some i => i / 2 * 2
    | none => 128
  else 0

def Vap.timlen (vap : Vap) : Nat :=
  if vap.psPending ≠ 0 then 1 + (lastLoop vap.timBitmap vap.timoff vap.timLen - vap.timoff) else 1

/-- A length that changed: the trailer is moved, and length and offset are written. -/
def Vap.resize (vap : Vap) : Vap :=
  let trailer := vap.boTim + 5 + vap.timlen
  let mem := Memory.move vap.mem trailer vap.boTimTrailer vap.boTimTrailerLen
  let mem := Function.update mem (vap.boTim + 1) (BitVec.ofNat 8 (3 + vap.timlen))
  { vap with
    mem := Function.update mem (vap.boTim + 4) (BitVec.ofNat 8 vap.timoff)
    boTimTrailer := trailer
    boTimLen := vap.timlen }

def Vap.updateTim (vap : Vap) : Vap :=
  let vap' := if vap.timlen ≠ vap.boTimLen then vap.resize else vap
  { vap' with
    mem := fun a =>
      if vap.boTim + 5 ≤ a ∧ a < vap.boTim + 5 + vap'.boTimLen then vap.timBitmap (vap.timoff + (a - (vap.boTim + 5)))
      else vap'.mem a
    flagTim := false }

/-- The DTIM count, and the bit for multicast frames. -/
def Vap.countDown (vap : Vap) (mcast : Bool) : Vap :=
  let count := vap.mem (vap.boTim + 2)
  let count := if count = 0 then vap.mem (vap.boTim + 3) - 1 else count - 1
  let bitctl := vap.mem (vap.boTim + 4)
  let bitctl := if mcast ∧ count = 0 then bitctl ||| 1 else bitctl &&& ~~~1
  { vap with mem := Function.update (Function.update vap.mem (vap.boTim + 2) count) (vap.boTim + 4) bitctl }

/-- `ieee80211_beacon_update` -/
def beaconUpdate (vap : Vap) (mcast : Bool) : Vap :=
  (if vap.flagTim then vap.updateTim else vap).countDown mcast

/-- `tim_ucast`, for a TIM and the AID of the station. -/
def timUcast (tim : Nat → Byte) (aid : Nat) : Bool :=
  let ix := aid / 8
  let min := (tim 4 &&& 0xfe).toNat
  let max := ((tim 1).toNat + min : Int) - 4
  decide (min ≤ ix) && decide ((ix : Int) ≤ max) && isset (fun i => tim (5 + i - min)) aid

/-! ## Runs -/

/-- A beacon of `ieee80211_beacon_construct`, when no station has frames.  The default of `iv_max_aid` is 128. -/
structure Init (period : Byte) (trailer : List Byte) (vap : Vap) : Prop where
  maxAid : 1 ≤ vap.maxAid ∧ vap.maxAid ≤ 1024
  bitmap : vap.timBitmap = fun _ => 0
  pending : vap.psPending = 0
  flag : vap.flagTim = false
  tim : Memory.cells vap.mem vap.boTim 6 = [5, 4, 0, period, 0, 0]
  len : vap.boTimLen = 1
  at_trailer : vap.boTimTrailer = vap.boTim + 6
  trailerLen : vap.boTimTrailerLen = trailer.length
  trailer : Memory.cells vap.mem vap.boTimTrailer trailer.length = trailer

inductive Op where
  | setTim (aid : Nat) (set : Bool)
  | beacon (mcast : Bool)

inductive Step : Vap → Op → Vap → Prop where
  | setTim (vap : Vap) {aid : Nat} (set : Bool) : 1 ≤ aid → aid < vap.maxAid → Step vap (.setTim aid set) (setTim vap aid set)
  | beacon (vap : Vap) (mcast : Bool) : Step vap (.beacon mcast) (beaconUpdate vap mcast)

/-- The element is well formed, and what follows it is there. -/
structure WellFormed (period : Byte) (trailer : List Byte) (vap : Vap) : Prop where
  tag : vap.mem vap.boTim = 5
  len : (vap.mem (vap.boTim + 1)).toNat = 3 + vap.boTimLen
  period : vap.mem (vap.boTim + 3) = period
  at_trailer : vap.boTimTrailer = vap.boTim + 5 + vap.boTimLen
  trailer : Memory.cells vap.mem vap.boTimTrailer trailer.length = trailer

/-- **Every station reads whether it has frames.** -/
def Announces (vap : Vap) : Prop :=
  ∀ aid, 1 ≤ aid → timUcast (fun i => vap.mem (vap.boTim + i)) aid = isset vap.timBitmap aid

/-- The bytes of the stations with frames are as many as before, but elsewhere. -/
def Moved (vap : Vap) : Prop :=
  vap.psPending ≠ 0 ∧ vap.timlen = vap.boTimLen ∧ (vap.mem (vap.boTim + 4) &&& 0xfe).toNat ≠ vap.timoff

def Vap.stations (vap : Vap) : Finset Nat := (Finset.range vap.maxAid).filter fun aid => isset vap.timBitmap aid = true

structure Inv (period : Byte) (trailer : List Byte) (vap : Vap) : Prop where
  maxAid : 1 ≤ vap.maxAid ∧ vap.maxAid ≤ 1024
  pending : vap.psPending = vap.stations.card
  outside : ∀ aid, vap.maxAid ≤ aid → isset vap.timBitmap aid = false
  len : 1 ≤ vap.boTimLen ∧ vap.boTimLen ≤ vap.timLen
  trailerLen : vap.boTimTrailerLen = trailer.length
  wellFormed : WellFormed period trailer vap

variable {period : Byte} {trailer : List Byte} {vap : Vap} {a : Nat → Byte} {i j : Nat}

theorem isset_update {v : Byte} {b : Bool} (hv : ∀ k < 8, v.getLsbD k = if k = i % 8 then b else (a (i / 8)).getLsbD k) :
    isset (Function.update a (i / 8) v) j = if j = i then b else isset a j := by
  unfold isset
  rw [Function.update_apply]
  split_ifs with hbyte hbit hbit
  · rw [hv _ (Nat.mod_lt _ (by decide)), hbit, if_pos rfl]
  · rw [hv _ (Nat.mod_lt _ (by decide)), if_neg (by omega), hbyte]
  · exact absurd (by rw [hbit]) hbyte
  · rfl

theorem isset_setbit : isset (setbit a i) j = if j = i then true else isset a j := by
  apply isset_update
  intro k hk
  simp [BitVec.getLsbD_shiftLeft]
  grind

theorem isset_clrbit : isset (clrbit a i) j = if j = i then false else isset a j := by
  apply isset_update
  intro k hk
  simp [BitVec.getLsbD_shiftLeft]
  grind

theorem mem_stations : i ∈ vap.stations ↔ i < vap.maxAid ∧ isset vap.timBitmap i = true := by
  simp [Vap.stations]

theorem byte_eq_zero {b : Nat} (h : ∀ i, 8 * b ≤ i → isset a i = false) : a b = 0 := by
  apply BitVec.eq_of_getLsbD_eq
  intro k hk
  have hbit := h (8 * b + k) (by omega)
  unfold isset at hbit
  rw [show (8 * b + k) / 8 = b by omega, show (8 * b + k) % 8 = k by omega] at hbit
  simpa using hbit

theorem exists_bit {b : Nat} (h : a b ≠ 0) : ∃ k, k < 8 ∧ (a b).getLsbD k = true := by
  by_contra hno
  apply h
  apply BitVec.eq_of_getLsbD_eq
  intro k hk
  simpa using fun hbit => hno ⟨k, hk, hbit⟩

theorem setTim_inv (hinv : Inv period trailer vap) {aid : Nat} (hlt : aid < vap.maxAid) (set : Bool) :
    Inv period trailer (setTim vap aid set) := by
  unfold setTim
  split_ifs with hsame hset
  · exact hinv
  · refine { hinv with pending := ?_, outside := ?_, wellFormed := { hinv.wellFormed with } }
    · have hnew : aid ∉ vap.stations := by
        rw [mem_stations]
        rintro ⟨-, hold⟩
        exact hsame (hset.trans hold.symm)
      refine (congrArg (· + 1) hinv.pending).trans ((Finset.card_insert_of_notMem hnew).symm.trans (congrArg Finset.card ?_))
      ext i
      simp only [Finset.mem_insert, mem_stations, isset_setbit]
      grind
    · intro i hi
      rw [isset_setbit, if_neg (Nat.ne_of_gt (Nat.lt_of_lt_of_le hlt hi))]
      exact hinv.outside i hi
  · refine { hinv with pending := ?_, outside := ?_, wellFormed := { hinv.wellFormed with } }
    · have hold : aid ∈ vap.stations := by
        rw [mem_stations]
        refine ⟨hlt, ?_⟩
        cases hbit : isset vap.timBitmap aid with
        | true => rfl
        | false => simp [hbit, hset] at hsame
      refine (congrArg (· - 1) hinv.pending).trans ((Finset.card_erase_of_mem hold).symm.trans (congrArg Finset.card ?_))
      ext i
      simp only [Finset.mem_erase, mem_stations, isset_clrbit]
      grind
    · intro i hi
      rw [isset_clrbit]
      split_ifs
      · rfl
      · exact hinv.outside i hi

/-! ## The bytes of the TIM -/

/-- No station has frames. -/
theorem Inv.idle (hinv : Inv period trailer vap) (h : vap.psPending = 0) (i : Nat) : isset vap.timBitmap i = false := by
  by_cases hi : i < vap.maxAid
  · rw [hinv.pending, Finset.card_eq_zero] at h
    rw [← Bool.not_eq_true]
    intro hbit
    exact Finset.notMem_empty i (h ▸ mem_stations.2 ⟨hi, hbit⟩)
  · exact hinv.outside i (Nat.not_lt.1 hi)

theorem lastLoop_spec {timoff b : Nat} : ∀ {n : Nat}, timoff ≤ b → b < n → a b ≠ 0 →
    timoff ≤ lastLoop a timoff n ∧ lastLoop a timoff n < n ∧ a (lastLoop a timoff n) ≠ 0 ∧
      ∀ c, lastLoop a timoff n < c → c < n → a c = 0
  | 0, _, hlt, _ => absurd hlt (Nat.not_lt_zero b)
  | n + 1, hle, hlt, hb => by
    unfold lastLoop
    split_ifs with hlow hn
    · omega
    · exact ⟨Nat.not_lt.1 hlow, Nat.lt_succ_self n, hn, fun c _ _ => by omega⟩
    · rw [not_not] at hn
      have hbn : b ≠ n := fun h => hb (h ▸ hn)
      obtain ⟨h1, h2, h3, h4⟩ := lastLoop_spec (n := n) hle (by omega) hb
      refine ⟨h1, by omega, h3, fun c hc hcn => ?_⟩
      rcases Nat.lt_succ_iff_lt_or_eq.1 hcn with hcn | rfl
      · exact h4 c hc hcn
      · exact hn

/-- The bytes from `timoff` on: the last one is not zero, and no other ones are not. -/
structure Span (vap : Vap) : Prop where
  even : vap.timoff % 2 = 0
  len : 1 ≤ vap.timlen ∧ vap.timoff + vap.timlen ≤ vap.timLen
  last : vap.timBitmap (vap.timoff + vap.timlen - 1) ≠ 0
  all : ∀ b, vap.timBitmap b ≠ 0 → vap.timoff ≤ b ∧ b < vap.timoff + vap.timlen

theorem Inv.span (hinv : Inv period trailer vap) (hp : vap.psPending ≠ 0) : Span vap := by
  have hzero : ∀ b, vap.timLen ≤ b → vap.timBitmap b = 0 := by
    intro b hb
    apply byte_eq_zero
    intro i hi
    apply hinv.outside
    unfold Vap.timLen at hb
    omega
  obtain ⟨aid, haid⟩ : vap.stations.Nonempty := by
    rw [← Finset.card_ne_zero, ← hinv.pending]
    exact hp
  have hbyte : vap.timBitmap (aid / 8) ≠ 0 := by
    intro h
    have hbit := (mem_stations.1 haid).2
    unfold isset at hbit
    simp [h] at hbit
  obtain ⟨first, hfirst⟩ : ∃ i, (List.range vap.timLen).find? (fun i => vap.timBitmap i ≠ 0) = some i := by
    rw [← Option.isSome_iff_exists, List.find?_isSome]
    refine ⟨aid / 8, List.mem_range.2 ?_, decide_eq_true hbyte⟩
    by_contra hge
    exact hbyte (hzero _ (Nat.not_lt.1 hge))
  have htimoff : vap.timoff = first / 2 * 2 := by
    unfold Vap.timoff
    rw [if_pos hp, hfirst]
  obtain ⟨hne, hmem, hbefore⟩ := List.find?_range_eq_some.1 hfirst
  have hne := of_decide_eq_true hne
  have hfrom : vap.timoff ≤ first := by omega
  obtain ⟨h1, h2, h3, h4⟩ := lastLoop_spec hfrom (List.mem_range.1 hmem) hne
  have htimlen : vap.timlen = 1 + (lastLoop vap.timBitmap vap.timoff vap.timLen - vap.timoff) := by
    unfold Vap.timlen
    rw [if_pos hp]
  generalize lastLoop vap.timBitmap vap.timoff vap.timLen = last at *
  refine ⟨by omega, by omega, ?_, ?_⟩
  · rw [show vap.timoff + vap.timlen - 1 = last by omega]
    exact h3
  · intro b hb
    have hge : first ≤ b := by
      by_contra hlt
      have hb0 := hbefore b (Nat.not_le.1 hlt)
      rw [decide_eq_true hb] at hb0
      cases hb0
    have hle : b ≤ last := by
      by_contra hgt
      apply hb
      by_cases hin : b < vap.timLen
      · exact h4 b (Nat.not_le.1 hgt) hin
      · exact hzero b (Nat.not_lt.1 hin)
    omega

/-! ## What is read of it -/

/-- A TIM of `n` bytes. -/
theorem timUcast_eq (tim : Nat → Byte) {n : Nat} (hlen : (tim 1).toNat = 3 + n) (aid : Nat) :
    timUcast tim aid = (decide ((tim 4 &&& 0xfe).toNat ≤ aid / 8 ∧ aid / 8 < (tim 4 &&& 0xfe).toNat + n) &&
      (tim (5 + (aid / 8 - (tim 4 &&& 0xfe).toNat))).getLsbD (aid % 8)) := by
  unfold timUcast isset
  dsimp only
  generalize (tim 4 &&& 0xfe).toNat = min
  by_cases hmin : min ≤ aid / 8
  · rw [show 5 + aid / 8 - min = 5 + (aid / 8 - min) by omega, ← Bool.decide_and]
    congr 1
    rw [hlen, decide_eq_decide]
    omega
  · simp [hmin]

theorem timUcast_countDown (mcast : Bool) (aid : Nat) :
    timUcast (fun i => (vap.countDown mcast).mem ((vap.countDown mcast).boTim + i)) aid =
      timUcast (fun i => vap.mem (vap.boTim + i)) aid := by
  have hbit : ∀ b : Byte, (b ||| 1) &&& 0xfe = b &&& 0xfe ∧ (b &&& ~~~1) &&& 0xfe = b &&& 0xfe := by decide +kernel
  have hfour : (vap.countDown mcast).mem (vap.boTim + 4) &&& 0xfe = vap.mem (vap.boTim + 4) &&& 0xfe := by
    unfold Vap.countDown
    simp only [Function.update_self]
    split_ifs <;> simp only [hbit]
  have hmem : ∀ i, i ≠ 2 → i ≠ 4 → (vap.countDown mcast).mem (vap.boTim + i) = vap.mem (vap.boTim + i) := by
    intro i h2 h4
    unfold Vap.countDown
    dsimp only
    rw [Function.update_of_ne (by omega), Function.update_of_ne (by omega)]
  unfold timUcast isset
  dsimp only
  rw [show (vap.countDown mcast).boTim = vap.boTim from rfl, hfour, hmem 1 (by decide) (by decide)]
  generalize (vap.mem (vap.boTim + 4) &&& 0xfe).toNat = min
  by_cases hmin : min ≤ aid / 8
  · rw [hmem _ (by omega) (by omega)]
  · simp [hmin]

def Vap.newOffset (vap : Vap) : Nat :=
  if vap.timlen ≠ vap.boTimLen then vap.timoff else (vap.mem (vap.boTim + 4) &&& 0xfe).toNat

/-- What `updateTim` writes. -/
structure Updated (vap vap' : Vap) : Prop where
  same : vap'.boTim = vap.boTim ∧ vap'.maxAid = vap.maxAid ∧ vap'.timBitmap = vap.timBitmap ∧ vap'.psPending = vap.psPending ∧
    vap'.boTimTrailerLen = vap.boTimTrailerLen
  len : vap'.boTimLen = vap.timlen
  offset : (vap'.mem (vap.boTim + 4) &&& 0xfe).toNat = vap.newOffset
  bytes : ∀ i, i < vap.timlen → vap'.mem (vap.boTim + 5 + i) = vap.timBitmap (vap.timoff + i)

theorem Inv.bounds (hinv : Inv period trailer vap) :
    vap.timoff % 2 = 0 ∧ 1 ≤ vap.timlen ∧ vap.timoff + vap.timlen ≤ vap.timLen ∧ vap.timLen ≤ 128 := by
  have hmax := hinv.maxAid
  have htimLen : 1 ≤ vap.timLen ∧ vap.timLen ≤ 128 := by
    unfold Vap.timLen
    omega
  by_cases hp : vap.psPending = 0
  · have htimoff : vap.timoff = 0 := if_neg (not_not.2 hp)
    have htimlen : vap.timlen = 1 := if_neg (not_not.2 hp)
    omega
  · obtain ⟨heven, hlen, -, -⟩ := hinv.span hp
    exact ⟨heven, hlen.1, hlen.2, htimLen.2⟩

theorem updateTim_spec (hinv : Inv period trailer vap) : Updated vap vap.updateTim ∧ WellFormed period trailer vap.updateTim := by
  obtain ⟨heven, hlen, hfit, hmax⟩ := hinv.bounds
  obtain ⟨htag, hlength, hperiod, hat, htrailer⟩ := hinv.wellFormed
  have hoffset : (BitVec.ofNat 8 vap.timoff &&& 0xfe).toNat = vap.timoff := by
    have hall : ∀ n : Fin 64, (BitVec.ofNat 8 (2 * n.val) &&& 0xfe).toNat = 2 * n.val := by decide +kernel
    have hhalf := hall ⟨vap.timoff / 2, by omega⟩
    rwa [show 2 * (vap.timoff / 2) = vap.timoff by omega] at hhalf
  have hresized := (Memory.wrote_move vap.mem (vap.boTim + 5 + vap.timlen) vap.boTimTrailer trailer.length).written
  rw [Memory.length_cells, htrailer] at hresized
  unfold Vap.updateTim
  by_cases hsame : vap.timlen = vap.boTimLen
  · rw [if_neg (not_not.2 hsame)]
    refine ⟨⟨⟨rfl, rfl, rfl, rfl, rfl⟩, hsame.symm, ?_, ?_⟩, ?_, ?_, ?_, ?_, ?_⟩
    all_goals dsimp only
    · rw [if_neg (by omega), Vap.newOffset, if_neg (not_not.2 hsame)]
    · intro i hi
      rw [if_pos (by omega), Nat.add_sub_cancel_left]
    · rw [if_neg (by omega), htag]
    · rw [if_neg (by omega), hlength]
    · rw [if_neg (by omega), hperiod]
    · exact hat
    · rw [Memory.cells_congr fun x hx _ => if_neg (by omega)]
      exact htrailer
  · rw [if_pos hsame]
    unfold Vap.resize
    refine ⟨⟨⟨rfl, rfl, rfl, rfl, rfl⟩, rfl, ?_, ?_⟩, ?_, ?_, ?_, rfl, ?_⟩
    all_goals dsimp only
    · rw [if_neg (by omega), Function.update_self, hoffset, Vap.newOffset, if_pos hsame]
    · intro i hi
      rw [if_pos (by omega), Nat.add_sub_cancel_left]
    · rw [if_neg (by omega), Function.update_of_ne (by omega), Function.update_of_ne (by omega), Memory.move, if_neg (by omega), htag]
    · rw [if_neg (by omega), Function.update_of_ne (by omega), Function.update_self, BitVec.toNat_ofNat, Nat.mod_eq_of_lt (by omega)]
    · rw [if_neg (by omega), Function.update_of_ne (by omega), Function.update_of_ne (by omega), Memory.move, if_neg (by omega),
        hperiod]
    · rw [← hinv.trailerLen] at hresized ⊢
      rw [Memory.cells_congr fun x hx _ => ?_]
      · exact hresized
      · rw [if_neg (by omega), Function.update_of_ne (by omega), Function.update_of_ne (by omega)]

theorem updateTim_reads (hinv : Inv period trailer vap) (aid : Nat) :
    timUcast (fun i => vap.updateTim.mem (vap.updateTim.boTim + i)) aid =
      (decide (vap.newOffset ≤ aid / 8 ∧ aid / 8 < vap.newOffset + vap.timlen) &&
        (vap.timBitmap (vap.timoff + (aid / 8 - vap.newOffset))).getLsbD (aid % 8)) := by
  obtain ⟨hup, hwf⟩ := updateTim_spec hinv
  have hlen : (vap.updateTim.mem (vap.updateTim.boTim + 1)).toNat = 3 + vap.timlen := hup.len ▸ hwf.len
  rw [timUcast_eq (fun i => vap.updateTim.mem (vap.updateTim.boTim + i)) hlen, hup.same.1, hup.offset]
  by_cases hin : vap.newOffset ≤ aid / 8 ∧ aid / 8 < vap.newOffset + vap.timlen
  · rw [← Nat.add_assoc, hup.bytes _ (by omega)]
  · simp [hin]

/-- **The new TIM is right** exactly when the bytes did not move alone. -/
theorem updateTim_announces_iff (hinv : Inv period trailer vap) : Announces vap.updateTim ↔ ¬ Moved vap := by
  have hbitmap : vap.updateTim.timBitmap = vap.timBitmap := (updateTim_spec hinv).1.same.2.2.1
  unfold Announces
  simp only [updateTim_reads hinv, hbitmap]
  by_cases hp : vap.psPending = 0
  · have hidle : ∀ b k, k < 8 → (vap.timBitmap b).getLsbD k = false := by
      intro b k hk
      rw [byte_eq_zero fun i _ => hinv.idle hp i]
      simp
    refine iff_of_true (fun aid _ => ?_) fun h => h.1 hp
    rw [hinv.idle hp, hidle _ _ (Nat.mod_lt _ (by decide)), Bool.and_false]
  have hspan := hinv.span hp
  have hlen := hspan.len
  by_cases hoff : vap.newOffset = vap.timoff
  · refine iff_of_true (fun aid _ => ?_) ?_
    · unfold isset
      by_cases hin : vap.newOffset ≤ aid / 8 ∧ aid / 8 < vap.newOffset + vap.timlen
      · rw [decide_eq_true hin, Bool.true_and, show vap.timoff + (aid / 8 - vap.newOffset) = aid / 8 by omega]
      · have hzero : vap.timBitmap (aid / 8) = 0 := by
          by_contra hne
          exact hin (hoff ▸ hspan.all _ hne)
        rw [decide_eq_false hin, hzero]
        simp
    · rintro ⟨-, hsame, hne⟩
      unfold Vap.newOffset at hoff
      rw [if_neg (not_not.2 hsame)] at hoff
      exact hne hoff
  · have hmoved : Moved vap := by
      unfold Vap.newOffset at hoff
      split_ifs at hoff with hsame
      · exact absurd rfl hoff
      · exact ⟨hp, not_not.1 hsame, hoff⟩
    refine iff_of_false (fun h => ?_) (not_not.2 hmoved)
    obtain ⟨k, hk, hbit⟩ := exists_bit hspan.last
    -- the last byte, where it is, or where the TIM says it is
    rcases Nat.lt_or_gt_of_ne hoff with hlt | hgt
    · have hread := h (8 * (vap.timoff + vap.timlen - 1) + k) (by omega)
      unfold isset at hread
      rw [show (8 * (vap.timoff + vap.timlen - 1) + k) / 8 = vap.timoff + vap.timlen - 1 by omega,
        show (8 * (vap.timoff + vap.timlen - 1) + k) % 8 = k by omega, hbit, Bool.and_eq_true, decide_eq_true_eq] at hread
      have hne : vap.timBitmap (vap.timoff + (vap.timoff + vap.timlen - 1 - vap.newOffset)) ≠ 0 := by
        intro hzero
        simp [hzero] at hread
      have hin := hspan.all _ hne
      omega
    · have hread := h (8 * (vap.newOffset + vap.timlen - 1) + k) (by omega)
      unfold isset at hread
      rw [show (8 * (vap.newOffset + vap.timlen - 1) + k) / 8 = vap.newOffset + vap.timlen - 1 by omega,
        show (8 * (vap.newOffset + vap.timlen - 1) + k) % 8 = k by omega,
        show vap.timoff + (vap.newOffset + vap.timlen - 1 - vap.newOffset) = vap.timoff + vap.timlen - 1 by omega, hbit,
        decide_eq_true (by omega), Bool.true_and] at hread
      have hne : vap.timBitmap (vap.newOffset + vap.timlen - 1) ≠ 0 := by
        intro hzero
        simp [hzero] at hread
      have hin := hspan.all _ hne
      omega

/-! ## Runs -/

theorem countDown_wellFormed (hwf : WellFormed period trailer vap) (mcast : Bool) : WellFormed period trailer (vap.countDown mcast) := by
  obtain ⟨htag, hlength, hperiod, hat, htrailer⟩ := hwf
  have hmem : ∀ i, i ≠ vap.boTim + 2 → i ≠ vap.boTim + 4 → (vap.countDown mcast).mem i = vap.mem i := by
    intro i h2 h4
    unfold Vap.countDown
    dsimp only
    rw [Function.update_of_ne h4, Function.update_of_ne h2]
  refine ⟨(hmem vap.boTim (by omega) (by omega)).trans htag, ?_, (hmem (vap.boTim + 3) (by omega) (by omega)).trans hperiod, hat, ?_⟩
  · exact (congrArg BitVec.toNat (hmem (vap.boTim + 1) (by omega) (by omega))).trans hlength
  · refine (Memory.cells_congr fun x hx _ => ?_).trans htrailer
    have hx : vap.boTimTrailer ≤ x := hx
    exact hmem x (by omega) (by omega)

theorem updateTim_inv (hinv : Inv period trailer vap) : Inv period trailer vap.updateTim := by
  obtain ⟨⟨⟨htim, hmax, hbitmap, hpending, htrailerLen⟩, hlen, -, -⟩, hwf⟩ := updateTim_spec hinv
  obtain ⟨-, hone, hfit, -⟩ := hinv.bounds
  refine ⟨hmax ▸ hinv.maxAid, ?_, ?_, ?_, htrailerLen.trans hinv.trailerLen, hwf⟩
  · rw [hpending, hinv.pending]
    unfold Vap.stations
    rw [hmax, hbitmap]
  · rw [hmax, hbitmap]
    exact hinv.outside
  · rw [hlen]
    unfold Vap.timLen at hfit ⊢
    rw [hmax]
    omega

theorem beaconUpdate_inv (hinv : Inv period trailer vap) (mcast : Bool) : Inv period trailer (beaconUpdate vap mcast) := by
  unfold beaconUpdate
  split_ifs
  · exact { updateTim_inv hinv with wellFormed := countDown_wellFormed (updateTim_inv hinv).wellFormed mcast }
  · exact { hinv with wellFormed := countDown_wellFormed hinv.wellFormed mcast }

theorem init_inv (h : Init period trailer vap) : Inv period trailer vap ∧ Announces vap := by
  have hclear : ∀ i, isset vap.timBitmap i = false := fun i => by simp [h.bitmap, isset]
  have hbytes := h.tim
  simp only [Memory.cells, List.range', List.map_cons, List.map_nil, List.cons.injEq] at hbytes
  obtain ⟨htag, hlen, -, hperiod, hbitctl, hbyte, -⟩ := hbytes
  have hmax := h.maxAid
  have htimLen : 1 ≤ vap.timLen := by
    unfold Vap.timLen
    omega
  refine ⟨⟨hmax, ?_, fun aid _ => hclear aid, ?_, h.trailerLen, htag, ?_, hperiod, ?_, h.trailer⟩, ?_⟩
  · rw [h.pending]
    simp [Vap.stations, hclear]
  · rw [h.len]
    exact ⟨Nat.le_refl 1, htimLen⟩
  · rw [hlen, h.len]
    rfl
  · rw [h.at_trailer, h.len]
  · intro aid _
    have hread : (vap.mem (vap.boTim + 1)).toNat = 3 + 1 := by
      rw [hlen]
      rfl
    have hoffset : (vap.mem (vap.boTim + 4) &&& 0xfe).toNat = 0 := by
      rw [hbitctl]
      rfl
    rw [hclear, timUcast_eq (fun i => vap.mem (vap.boTim + i)) hread, hoffset]
    by_cases hfirst : aid / 8 = 0
    · simp [hfirst, hbyte]
    · simp
      omega

theorem reachable_inv (hr : Reachable (Init period trailer) Step vap) : Inv period trailer vap := by
  apply hr.invariant fun _ h => (init_inv h).1
  intro vap op vap' hinv hstep
  cases hstep with
  | setTim set _ hlt => exact setTim_inv hinv hlt set
  | beacon mcast => exact beaconUpdate_inv hinv mcast

theorem announces_countDown (mcast : Bool) : Announces (vap.countDown mcast) ↔ Announces vap := by
  unfold Announces
  simp only [timUcast_countDown]
  rfl

/-- A beacon is not made from bytes that moved alone. -/
def Unmoved (vap : Vap) : Op → Prop
  | .setTim _ _ => True
  | .beacon _ => vap.flagTim = true → ¬ Moved vap

section Mac80211

open Mac80211.TimElement

theorem timUcast_element {len count period control : Byte} {bitmap : List Byte} (hlen : len.toNat = 3 + bitmap.length) (aid : Nat) :
    timUcast (fun i => ([WLAN_EID_TIM, len, count, period, control] ++ bitmap).getD i 0) aid =
      timBit ([WLAN_EID_TIM, len, count, period, control] ++ bitmap) aid := by
  have hread : ∀ k, ([WLAN_EID_TIM, len, count, period, control] ++ bitmap).getD (5 + k) 0 = bitmap.getD k 0 := fun k => by
    simp [Nat.add_comm 5]
  rw [timUcast_eq (fun i => ([WLAN_EID_TIM, len, count, period, control] ++ bitmap).getD i 0) hlen, timBit_element, hread]
  show (decide ((control &&& 0xfe).toNat ≤ _ ∧ _ < (control &&& 0xfe).toNat + _) &&
    (bitmap.getD (_ - (control &&& 0xfe).toNat) 0).getLsbD _) = _
  generalize (control &&& 0xfe).toNat = min
  by_cases hlow : aid / 8 < min
  · simp [hlow]
  · rw [if_neg hlow]
    by_cases hhigh : aid / 8 < min + bitmap.length
    · rw [decide_eq_true ⟨Nat.not_lt.1 hlow, hhigh⟩]
      rfl
    · rw [decide_eq_false fun h => hhigh h.2, List.getElem?_eq_none (by omega)]
      simp

/-- **A station of net80211 reads in a beacon of mac80211** that it has frames exactly when its bit is set and `bitmap_empty` sees
    a byte, while a station sleeps. -/
theorem mac80211_tim_read (arch : Arch) (link : LinkConf) (ps : PsData) (isTemplate : Bool) {aid : Nat}
    (haid : aid ≤ IEEE80211_MAX_AID) :
    timUcast (fun i => (ieee80211BeaconAddTim arch link ps isTemplate).2.getD i 0) aid = true ↔
      0 < ps.numStaPs ∧ bssTimGet ps.tim aid = true ∧ ∃ j < IEEE80211_MAX_TIM_LEN, arch.Seen j ∧ ps.tim.byte j ≠ 0 := by
  obtain ⟨len, control, bitmap, helement, hlen, -, hdecodes, hnobits⟩ := beaconAddTim_element arch link ps isTemplate
  have hseen : (∃ j < IEEE80211_MAX_TIM_LEN, arch.Seen j ∧ ps.tim.byte j ≠ 0) ↔
      arch.bitmapEmpty ps.tim.byte (IEEE80211_MAX_AID + 1) = false := by
    rw [← Bool.not_eq_true, bitmapEmpty_tim]
    simp [IEEE80211_MAX_TIM_LEN]
  rw [hseen, helement, timUcast_element hlen, ← helement]
  by_cases hbits : decide (ps.numStaPs > 0) = true ∧ arch.bitmapEmpty ps.tim.byte (IEEE80211_MAX_AID + 1) = false
  · rw [hdecodes hbits aid haid]
    exact ⟨fun h => ⟨of_decide_eq_true hbits.1, h, hbits.2⟩, fun h => h.2.1⟩
  · rw [hnobits hbits]
    exact ⟨nofun, fun h => absurd ⟨decide_eq_true h.1, h.2.2⟩ hbits⟩

/-- The frames of the station 1984, on a little-endian machine. -/
theorem mac80211_tim_read_1984 : timUcast (fun i => (ieee80211BeaconAddTim { mips64 with bigEndian := false }
    { dtimPeriod := 2, s1ghz := false } sleeping false).2.getD i 0) 1984 = true :=
  (mac80211_tim_read _ _ _ _ (by decide)).2 ⟨by decide, by decide, 248, by decide, .inl rfl, by decide⟩

end Mac80211

/-! ## Two stations -/

instance (vap : Vap) : Decidable (Moved vap) := inferInstanceAs (Decidable (_ ∧ _ ∧ _))

def start : Vap where
  maxAid := 128
  timBitmap := fun _ => 0
  psPending := 0
  flagTim := false
  boTim := 0
  boTimLen := 1
  boTimTrailer := 6
  boTimTrailerLen := 2
  mem := fun a => [5, 4, 0, 2, 0, 0, 42, 1].getD a 0

theorem init_start : Init 2 [42, 1] start := ⟨by decide, rfl, rfl, rfl, rfl, rfl, rfl, rfl, rfl⟩

end Net80211.Tim
