import Mathlib
import Wifi.Lib.Memory
import Wifi.Lib.ReadLog
import Wifi.Linux.Elements

/-!
# Defragmenting an element (`linux/net/wireless/scan.c`)

* `cfg80211DefragmentElement` — `cfg80211_defragment_element`, with the memory it leaves and the addresses it reads.
* `Pieces` — the fragments that follow an element; `defragmented` — the element with these.
* `defragment_spec` — what is returned and written; the output may lie over the input.
* `defragment_reads` — what is read lies in the buffer.

Pointers are addresses in one memory.
-/

namespace Wireless.DefragElement

open ReadLog Memory

abbrev Mem := Nat → Byte

/-- `-ENOSPC` -/
def negENOSPC : Int := -28
/-- `-EINVAL` -/
def negEINVAL : Int := -22

/-- `elem->datalen` -/
def datalen (m : Mem) (elem : Nat) : Nat := (m (elem + 1)).toNat

/-! ## The function -/

def memmove (m : Mem) (dst src n : Nat) : ReadLog Mem := ⟨move m dst src n, List.range' src n⟩

/-- `n` bytes at `src` go behind the `copied` bytes of `data`, unless there is no buffer; nothing when there is no
    room for them. -/
def copy (data : Option Nat) (dataLen copied src n : Nat) (m : Mem) : ReadLog (Option Mem) :=
  match data with
  | none => pure (some m)
  | some data =>
    if dataLen < copied + n then pure none
    else do
      let m ← memmove m (data + copied) src n
      pure (some m)

/-- The loop over the fragments, with a bound: what is returned, and the memory. -/
def fragmentLoop (iesEnd : Nat) (data : Option Nat) (dataLen : Nat) (fragId : Byte) :
    Nat → Mem → Nat → Nat → ReadLog (Option (Int × Mem))
  | 0, _, _, _ => pure none
  | fuel + 1, m, elem, copied =>
    if elem + 2 < iesEnd then do
      let elemDatalen ← byte m (elem + 1)
      if elem + 2 + elemDatalen.toNat ≤ iesEnd then do
        let id ← byte m elem
        if id ≠ fragId then pure (some (copied, m))
        else do
          match ← copy data dataLen copied (elem + 2) elemDatalen.toNat m with
          | none => pure (some (negENOSPC, m))
          | some m =>
            -- Only the last fragment may be short
            if elemDatalen.toNat ≠ 255 then pure (some (copied + elemDatalen.toNat, m))
            else fragmentLoop iesEnd data dataLen fragId fuel m (elem + 2 + 255) (copied + 255)
      else pure (some (copied, m))
    else pure (some (copied, m))

/-- `cfg80211_defragment_element`: what it returns, and the memory.  `copied` is a `ssize_t` that is compared with a
    `size_t`. -/
def cfg80211DefragmentElement (m : Mem) (elem : Option Nat) (ies ieslen : Nat) (data : Option Nat) (dataLen : Nat)
    (fragId : Byte) : ReadLog (Option (Int × Mem)) :=
  match elem with
  | none => pure (some (negEINVAL, m))
  | some elem => do
    let elemDatalen ← byte m (elem + 1)
    let id ← byte m elem
    let isExt := decide (id = WLAN_EID_EXTENSION)
    let copied : Int := if isExt then elemDatalen.toNat - 1 else elemDatalen.toNat
    let size := (copied % 2 ^ 64).toNat
    match ← copy data dataLen 0 (if isExt then elem + 3 else elem + 2) size m with
    | none => pure (some (negENOSPC, m))
    | some m =>
      -- Fragmented elements must have 255 bytes
      if elemDatalen.toNat < 255 then pure (some (copied, m))
      else fragmentLoop (ies + ieslen) data dataLen fragId (ieslen + 1) m (elem + 2 + elemDatalen.toNat) size

/-! ## Fragments -/

/-- A piece with the ID lies wholly in the buffer. -/
def IsFragment (m : Mem) (iesEnd : Nat) (fragId : Byte) (pos : Nat) : Prop :=
  pos + 2 + datalen m pos ≤ iesEnd ∧ m pos = fragId

/-- The fragments from `pos` on, each with its place and its length: only the last one may be short. -/
inductive Pieces (m : Mem) (iesEnd : Nat) (fragId : Byte) : Nat → List (Nat × Nat) → Prop where
  | stop {pos : Nat} (h : ¬ IsFragment m iesEnd fragId pos) : Pieces m iesEnd fragId pos []
  | last {pos : Nat} (h : IsFragment m iesEnd fragId pos) (hlen : datalen m pos ≠ 255) :
      Pieces m iesEnd fragId pos [(pos + 2, datalen m pos)]
  | more {pos : Nat} {ps : List (Nat × Nat)} (h : IsFragment m iesEnd fragId pos) (hlen : datalen m pos = 255)
      (hps : Pieces m iesEnd fragId (pos + 2 + 255) ps) : Pieces m iesEnd fragId pos ((pos + 2, 255) :: ps)

/-- The fragments of an element: one that is short has none. -/
def Fragments (m : Mem) (iesEnd : Nat) (fragId : Byte) (elem : Nat) (ps : List (Nat × Nat)) : Prop :=
  if datalen m elem = 255 then Pieces m iesEnd fragId (elem + 2 + 255) ps else ps = []

def pieceBytes (m : Mem) (ps : List (Nat × Nat)) : List Byte := ps.flatMap fun p => cells m p.1 p.2

/-- The body of an element, without the ID of an extension. -/
def body (m : Mem) (elem : Nat) : List Byte :=
  if m elem = WLAN_EID_EXTENSION then cells m (elem + 3) (datalen m elem - 1) else cells m (elem + 2) (datalen m elem)

/-- **The element with its fragments.** -/
def defragmented (m : Mem) (elem : Nat) (ps : List (Nat × Nat)) : List Byte := body m elem ++ pieceBytes m ps

variable {m m' : Mem} {iesEnd pos copied dataLen data fuel elem ies ieslen : Nat} {fragId : Byte} {ps : List (Nat × Nat)}

theorem pieces_exists (m : Mem) (iesEnd : Nat) (fragId : Byte) (pos : Nat) : ∃ ps, Pieces m iesEnd fragId pos ps := by
  induction h : iesEnd - pos using Nat.strongRecOn generalizing pos with
  | ind n ih =>
    by_cases hf : IsFragment m iesEnd fragId pos
    · by_cases hlen : datalen m pos = 255
      · have hle := hf.1
        obtain ⟨ps, hps⟩ := ih (iesEnd - (pos + 2 + 255)) (by omega) (pos + 2 + 255) rfl
        exact ⟨_, .more hf hlen hps⟩
      · exact ⟨_, .last hf hlen⟩
    · exact ⟨_, .stop hf⟩

theorem fragments_exists (m : Mem) (iesEnd : Nat) (fragId : Byte) (elem : Nat) :
    ∃ ps, Fragments m iesEnd fragId elem ps := by
  unfold Fragments
  by_cases h : datalen m elem = 255
  · simpa only [if_pos h] using pieces_exists m iesEnd fragId (elem + 2 + 255)
  · simp only [if_neg h]
    exact ⟨[], rfl⟩

theorem pieceBytes_nil : pieceBytes m [] = [] := rfl

theorem pieceBytes_cons (p : Nat × Nat) (ps : List (Nat × Nat)) :
    pieceBytes m (p :: ps) = cells m p.1 p.2 ++ pieceBytes m ps := List.flatMap_cons

/-! ## The loop -/

/-- From `pos` on to the end of the buffer nothing has changed. -/
def Unread (m m' : Mem) (pos iesEnd : Nat) : Prop := ∀ a, pos ≤ a → a < iesEnd → m' a = m a

/-- The output goes on below the data of the piece at `pos`, or behind the buffer. -/
def Apart (data : Option Nat) (dataLen copied pos iesEnd : Nat) : Prop :=
  ∀ d, data = some d → copied ≤ dataLen ∧ (d + copied ≤ pos + 2 ∨ iesEnd ≤ d)

/-- What comes of adding `out` to the `copied` bytes: its length, also when there is no buffer, or `-ENOSPC`. -/
def Outcome (data : Option Nat) (dataLen copied : Nat) (m : Mem) (out : List Byte) (r : Option (Int × Mem)) : Prop :=
  (data = none → r = some (((copied + out.length : Nat) : Int), m)) ∧
    ∀ d, data = some d →
      (copied + out.length ≤ dataLen →
        ∃ m', r = some (((copied + out.length : Nat) : Int), m') ∧ Wrote m m' (d + copied) out) ∧
      (dataLen < copied + out.length → ∃ m', r = some (negENOSPC, m'))

theorem Outcome.nil {data : Option Nat} (h : ∀ d, data = some d → copied ≤ dataLen) :
    Outcome data dataLen copied m [] (some ((copied : Int), m)) := by
  refine ⟨fun _ => rfl, fun d hd => ⟨fun _ => ⟨m, rfl, .nil m _⟩, fun hlt => ?_⟩⟩
  have hle := h d hd
  rw [List.length_nil] at hlt
  omega

/-- **`copy`**: with room for the bytes they are written. -/
theorem copy_cases (data : Option Nat) (dataLen copied src n : Nat) (m : Mem) :
    ((copy data dataLen copied src n m).value = none ∧ ∃ d, data = some d ∧ dataLen < copied + n) ∨
      ∃ m', (copy data dataLen copied src n m).value = some m' ∧ (data = none → m' = m) ∧
        ∀ d, data = some d → copied + n ≤ dataLen ∧ Wrote m m' (d + copied) (cells m src n) := by
  cases data with
  | none => exact .inr ⟨m, rfl, fun _ => rfl, fun d hd => nomatch hd⟩
  | some d =>
    unfold copy
    dsimp only
    by_cases hroom : dataLen < copied + n
    · rw [if_pos hroom]
      exact .inl ⟨rfl, d, rfl, hroom⟩
    · rw [if_neg hroom]
      refine .inr ⟨move m (d + copied) src n, rfl, nofun, ?_⟩
      intro d' hd'
      cases hd'
      exact ⟨by omega, wrote_move m (d + copied) src n⟩

theorem Outcome.cons {data : Option Nat} {src n : Nat} {m₁ : Mem} {out : List Byte} {r : Option (Int × Mem)}
    (hnone : data = none → m₁ = m)
    (hsome : ∀ d, data = some d → copied + n ≤ dataLen ∧ Wrote m m₁ (d + copied) (cells m src n))
    (h : Outcome data dataLen (copied + n) m₁ out r) : Outcome data dataLen copied m (cells m src n ++ out) r := by
  have hlen : copied + (cells m src n ++ out).length = copied + n + out.length := by
    rw [List.length_append, length_cells, Nat.add_assoc]
  refine ⟨fun hd => ?_, fun d hd => ⟨fun hle => ?_, fun hlt => ?_⟩⟩
  · rw [hlen, h.1 hd, hnone hd]
  · rw [hlen] at hle ⊢
    obtain ⟨m', hr, hw⟩ := (h.2 d hd).1 hle
    refine ⟨m', hr, (hsome d hd).2.append ?_⟩
    rwa [length_cells, Nat.add_assoc]
  · rw [hlen] at hlt
    exact (h.2 d hd).2 hlt

theorem Outcome.full {d src n : Nat} {out : List Byte} (hroom : dataLen < copied + n) :
    Outcome (some d) dataLen copied m (cells m src n ++ out) (some (negENOSPC, m)) := by
  refine ⟨nofun, fun d' _ => ⟨fun hle => ?_, fun _ => ⟨m, rfl⟩⟩⟩
  rw [List.length_append, length_cells] at hle
  omega

theorem loop_stop {data : Option Nat} (h : ¬ IsFragment m iesEnd fragId pos) (hm : Unread m m' pos iesEnd) :
    (fragmentLoop iesEnd data dataLen fragId (fuel + 1) m' pos copied).value = some ((copied : Int), m') := by
  rw [fragmentLoop]
  by_cases hhead : pos + 2 < iesEnd
  · have hlen : (m' (pos + 1)).toNat = datalen m pos := by rw [hm (pos + 1) (by omega) (by omega), datalen]
    rw [if_pos hhead, value_bind, value_byte, hlen]
    by_cases hbody : pos + 2 + datalen m pos ≤ iesEnd
    · have hid : m' pos ≠ fragId := by
        rw [hm pos (Nat.le_refl _) (by omega)]
        exact fun hid => h ⟨hbody, hid⟩
      rw [if_pos hbody, value_bind, value_byte, if_pos hid, value_pure]
    · rw [if_neg hbody, value_pure]
  · rw [if_neg hhead, value_pure]

/-- A piece follows: it is copied, and the loop goes on behind it when it is not short. -/
theorem loop_step {data : Option Nat} (h : IsFragment m iesEnd fragId pos) (hm : Unread m m' pos iesEnd)
    (hhead : pos + 2 < iesEnd) :
    (fragmentLoop iesEnd data dataLen fragId (fuel + 1) m' pos copied).value =
      match (copy data dataLen copied (pos + 2) (datalen m pos) m').value with
      | none => some (negENOSPC, m')
      | some m₁ =>
        if datalen m pos ≠ 255 then some (((copied + datalen m pos : Nat) : Int), m₁)
        else (fragmentLoop iesEnd data dataLen fragId fuel m₁ (pos + 2 + 255) (copied + 255)).value := by
  have hlen : (m' (pos + 1)).toNat = datalen m pos := by rw [hm (pos + 1) (by omega) (by omega), datalen]
  have hid : ¬ m' pos ≠ fragId := by
    rw [hm pos (Nat.le_refl _) (by omega), not_not]
    exact h.2
  rw [fragmentLoop, if_pos hhead, value_bind, value_byte, hlen, if_pos h.1, value_bind, value_byte, if_neg hid,
    value_bind]
  cases (copy data dataLen copied (pos + 2) (datalen m pos) m').value with
  | none => rfl
  | some m₁ =>
    dsimp only
    split
    · rfl
    · rfl

theorem IsFragment.cells_eq (h : IsFragment m iesEnd fragId pos) (hm : Unread m m' pos iesEnd) :
    cells m' (pos + 2) (datalen m pos) = cells m (pos + 2) (datalen m pos) := by
  have hle := h.1
  exact cells_congr fun x hx hx' => hm x (by omega) (by omega)

/-- What is written does not reach the pieces that follow. -/
theorem Unread.next {data : Option Nat} {n : Nat} {bs : List Byte} {m₁ : Mem} (hm : Unread m m' pos iesEnd)
    (ha : Apart data dataLen copied pos iesEnd) (hbs : bs.length = n) (hnone : data = none → m₁ = m')
    (hsome : ∀ d, data = some d → copied + n ≤ dataLen ∧ Wrote m' m₁ (d + copied) bs) :
    Unread m m₁ (pos + 2 + n) iesEnd ∧ Apart data dataLen (copied + n) (pos + 2 + n) iesEnd := by
  refine ⟨fun a hle hlt => ?_, fun d hd => ⟨(hsome d hd).1, ?_⟩⟩
  · cases hd : data with
    | none =>
      rw [hnone hd]
      exact hm a (by omega) hlt
    | some d =>
      have hap := (ha d hd).2
      rw [(hsome d hd).2.frame a (by rw [hbs]; omega)]
      exact hm a (by omega) hlt
  · have hap := (ha d hd).2
    omega

/-- **The loop adds the pieces.** -/
theorem loop_spec {data : Option Nat} (hps : Pieces m iesEnd fragId pos ps) :
    ∀ {fuel copied : Nat} {m' : Mem}, iesEnd < pos + fuel → 0 < fuel → Unread m m' pos iesEnd →
      Apart data dataLen copied pos iesEnd →
      Outcome data dataLen copied m' (pieceBytes m ps)
        (fragmentLoop iesEnd data dataLen fragId fuel m' pos copied).value := by
  induction hps with
  | @stop pos h =>
    intro fuel copied m' _ hpos hm ha
    obtain ⟨fuel, rfl⟩ := Nat.exists_eq_succ_of_ne_zero (Nat.ne_of_gt hpos)
    rw [loop_stop h hm]
    exact .nil fun d hd => (ha d hd).1
  | @last pos h hlen =>
    intro fuel copied m' _ hpos hm ha
    obtain ⟨fuel, rfl⟩ := Nat.exists_eq_succ_of_ne_zero (Nat.ne_of_gt hpos)
    rw [pieceBytes_cons]
    by_cases hhead : pos + 2 < iesEnd
    · rw [loop_step h hm hhead, ← h.cells_eq hm]
      obtain ⟨hcopy, d, rfl, hroom⟩ | ⟨m₁, hcopy, hnone, hsome⟩ :=
        copy_cases data dataLen copied (pos + 2) (datalen m pos) m'
      · rw [hcopy]
        exact .full hroom
      · rw [hcopy]
        dsimp only
        rw [if_pos hlen]
        exact .cons hnone hsome (.nil fun d hd => (hsome d hd).1)
    · -- an empty piece at the very end is not looked at
      have hle := h.1
      have hzero : datalen m pos = 0 := by omega
      rw [fragmentLoop, if_neg hhead, hzero]
      exact .nil fun d hd => (ha d hd).1
  | @more pos ps h hlen hps ih =>
    intro fuel copied m' hfuel hpos hm ha
    obtain ⟨fuel, rfl⟩ := Nat.exists_eq_succ_of_ne_zero (Nat.ne_of_gt hpos)
    have hle := h.1
    have hcells := h.cells_eq hm
    rw [hlen] at hle hcells
    rw [pieceBytes_cons, loop_step h hm (by omega), hlen]
    dsimp only
    rw [← hcells]
    obtain ⟨hcopy, d, rfl, hroom⟩ | ⟨m₁, hcopy, hnone, hsome⟩ := copy_cases data dataLen copied (pos + 2) 255 m'
    · rw [hcopy]
      exact .full hroom
    · obtain ⟨hm', ha'⟩ := hm.next ha (length_cells ..) hnone hsome
      rw [hcopy]
      dsimp only
      rw [if_neg (by decide)]
      exact .cons hnone hsome (ih (by omega) (by omega) hm' ha')

/-! ## The element -/

/-- An element of the buffer; an extension has its ID. -/
structure Inside (m : Mem) (elem ies ieslen : Nat) : Prop where
  start : ies ≤ elem
  stop : elem + 2 + datalen m elem ≤ ies + ieslen
  ext : m elem = WLAN_EID_EXTENSION → 1 ≤ datalen m elem

theorem body_eq (h : m elem = WLAN_EID_EXTENSION → 1 ≤ datalen m elem) :
    ∃ pos n, body m elem = cells m (pos + 2) n ∧ pos + 2 + n = elem + 2 + datalen m elem ∧ elem ≤ pos ∧
      (if decide (m elem = WLAN_EID_EXTENSION) then elem + 3 else elem + 2) = pos + 2 ∧
      (if decide (m elem = WLAN_EID_EXTENSION) then ((datalen m elem : Int) - 1) else datalen m elem) = n := by
  unfold body
  by_cases hid : m elem = WLAN_EID_EXTENSION
  · have hone := h hid
    refine ⟨elem + 1, datalen m elem - 1, ?_, by omega, by omega, ?_, ?_⟩
    · rw [if_pos hid]
    · rw [if_pos (decide_eq_true hid)]
    · rw [if_pos (decide_eq_true hid)]
      omega
  · refine ⟨elem, datalen m elem, ?_, rfl, Nat.le_refl _, ?_, ?_⟩
    · rw [if_neg hid]
    · rw [decide_eq_false hid, if_neg (by decide)]
    · rw [decide_eq_false hid, if_neg (by decide)]

/-- The pieces fit between their place and the end of the buffer. -/
theorem length_pieceBytes (hps : Pieces m iesEnd fragId pos ps) (hpos : pos ≤ iesEnd) :
    pos + (pieceBytes m ps).length ≤ iesEnd := by
  induction hps with
  | stop _ => exact hpos
  | last h _ =>
    have hle := h.1
    rw [pieceBytes_cons, pieceBytes_nil, List.append_nil, length_cells]
    omega
  | more h hlen _ ih =>
    have hle := h.1
    have hrest := ih (by omega)
    rw [pieceBytes_cons, List.length_append, length_cells]
    omega

/-- The element with its fragments is not longer than the buffer from its body on. -/
theorem length_defragmented (h : Inside m elem ies ieslen) (hps : Fragments m (ies + ieslen) fragId elem ps) :
    elem + 2 + (defragmented m elem ps).length ≤ ies + ieslen := by
  have hstop := h.stop
  obtain ⟨pos, n, hbody, hend, hpos, -, -⟩ := body_eq h.ext
  unfold defragmented
  rw [List.length_append, hbody, length_cells]
  unfold Fragments at hps
  by_cases hlong : datalen m elem = 255
  · rw [if_pos hlong] at hps
    have hrest := length_pieceBytes hps (by omega)
    omega
  · rw [if_neg hlong] at hps
    rw [hps, pieceBytes_nil, List.length_nil]
    omega

/-- **What becomes of an element**, with a buffer or without. -/
theorem defragment_outcome {data : Option Nat} (h : Inside m elem ies ieslen)
    (ha : ∀ d, data = some d → d ≤ elem + 2 ∨ ies + ieslen ≤ d) (hps : Fragments m (ies + ieslen) fragId elem ps) :
    Outcome data dataLen 0 m (defragmented m elem ps)
      (cfg80211DefragmentElement m (some elem) ies ieslen data dataLen fragId).value := by
  have hstart := h.start
  have hstop := h.stop
  have hlt : datalen m elem < 256 := (m (elem + 1)).isLt
  obtain ⟨pos, n, hbody, hend, hpos, hsrc, hcopied⟩ := body_eq h.ext
  have hsize : ((n : Int) % 2 ^ 64).toNat = n := by omega
  have hm : Unread m m pos (ies + ieslen) := fun _ _ _ => rfl
  have hap : Apart data dataLen 0 pos (ies + ieslen) := by
    intro d hd
    have hle := ha d hd
    exact ⟨Nat.zero_le _, by omega⟩
  have hlen : (m (elem + 1)).toNat = datalen m elem := rfl
  unfold cfg80211DefragmentElement defragmented
  dsimp only
  rw [value_bind, value_bind, value_byte, value_byte, value_bind, hlen, hcopied, hsrc, hsize, hbody]
  obtain ⟨hcopy, d, rfl, hroom⟩ | ⟨m₁, hcopy, hnone, hsome⟩ := copy_cases data dataLen 0 (pos + 2) n m
  · rw [hcopy]
    exact .full hroom
  · obtain ⟨hm', ha'⟩ := hm.next hap (length_cells ..) hnone hsome
    rw [hcopy]
    dsimp only
    unfold Fragments at hps
    refine .cons hnone hsome ?_
    rw [Nat.zero_add] at hsome ha' ⊢
    by_cases hshort : datalen m elem = 255
    · rw [if_pos hshort] at hps
      rw [if_neg (by omega), hshort]
      rw [hend, hshort] at hm' ha'
      exact loop_spec hps (by omega) (by omega) hm' ha'
    · rw [if_neg hshort] at hps
      rw [if_pos (by omega), hps]
      exact .nil fun d hd => (hsome d hd).1

/-- With a buffer behind the input, or over it from the body of the element on or from below. -/
theorem defragment_buffer (h : Inside m elem ies ieslen) (dataLen : Nat)
    (hps : Fragments m (ies + ieslen) fragId elem ps) (hdata : data ≤ elem + 2 ∨ ies + ieslen ≤ data) : ∃ ret m',
    (cfg80211DefragmentElement m (some elem) ies ieslen (some data) dataLen fragId).value = some (ret, m') ∧
      (ret = negENOSPC ↔ dataLen < (defragmented m elem ps).length) ∧
      ((defragmented m elem ps).length ≤ dataLen →
        ret = (defragmented m elem ps).length ∧ Wrote m m' data (defragmented m elem ps)) := by
  have hwrite : Outcome (some data) dataLen 0 m _ _ :=
    defragment_outcome h (fun d hd => by cases hd; exact hdata) hps
  have ho := hwrite.2 data rfl
  rw [Nat.zero_add, Nat.add_zero] at ho
  by_cases hroom : (defragmented m elem ps).length ≤ dataLen
  · obtain ⟨m', hr, hw⟩ := ho.1 hroom
    refine ⟨_, m', hr, ?_, fun _ => ⟨rfl, hw⟩⟩
    unfold negENOSPC
    omega
  · obtain ⟨m', hr⟩ := ho.2 (by omega)
    exact ⟨_, m', hr, iff_of_true rfl (by omega), fun hle => absurd hle hroom⟩

/-- An extension without an ID, in a buffer that it fills. -/
def bareExtension : Mem := fun a => if a = 0 then WLAN_EID_EXTENSION else 0

theorem only_memmove {p : Nat → Prop} {dst src n : Nat} (h : ∀ a, src ≤ a → a < src + n → p a) :
    Only p (memmove m dst src n) := by
  intro a ha
  rw [memmove, List.mem_range'_1] at ha
  exact h a ha.1 ha.2

theorem only_copy {p : Nat → Prop} {d : Option Nat} {src n : Nat} (h : ∀ a, src ≤ a → a < src + n → p a) :
    Only p (copy d dataLen copied src n m) := by
  cases d with
  | none => exact only_pure _
  | some d =>
    unfold copy
    dsimp only
    split
    · exact only_pure _
    · exact only_bind.mpr ⟨only_memmove h, only_pure _⟩

/-- The loop reads from `pos` on, up to the end of the buffer. -/
theorem loop_reads (data : Option Nat) : ∀ (fuel : Nat) (m : Mem) (pos copied : Nat), ies ≤ pos →
    Only (fun a => ies ≤ a ∧ a < iesEnd) (fragmentLoop iesEnd data dataLen fragId fuel m pos copied) := by
  intro fuel
  induction fuel with
  | zero => exact fun _ _ _ _ => only_pure _
  | succ fuel ih =>
    intro m pos copied hpos
    rw [fragmentLoop]
    split
    · rename_i hhead
      refine only_bind.mpr ⟨only_byte.mpr ⟨by omega, by omega⟩, ?_⟩
      split
      · rename_i hbody
        rw [value_byte] at hbody
        refine only_bind.mpr ⟨only_byte.mpr ⟨hpos, by omega⟩, ?_⟩
        split
        · exact only_pure _
        · refine only_bind.mpr ⟨only_copy fun a ha ha' => ⟨by omega, by rw [value_byte] at ha'; omega⟩, ?_⟩
          split
          · exact only_pure _
          · split
            · exact only_pure _
            · exact ih _ _ _ (by omega)
      · exact only_pure _
    · exact only_pure _

/-- **What is read lies in the buffer.** -/
theorem defragment_reads (h : Inside m elem ies ieslen) (data : Option Nat) (dataLen : Nat) (fragId : Byte) :
    Only (fun a => ies ≤ a ∧ a < ies + ieslen)
      (cfg80211DefragmentElement m (some elem) ies ieslen data dataLen fragId) := by
  have hstart := h.start
  have hstop := h.stop
  have hlen : (m (elem + 1)).toNat = datalen m elem := rfl
  obtain ⟨pos, n, -, hend, hpos, hsrc, hcopied⟩ := body_eq h.ext
  have hsize : ((n : Int) % 2 ^ 64).toNat = n := by
    have hlt : datalen m elem < 256 := (m (elem + 1)).isLt
    omega
  unfold cfg80211DefragmentElement
  refine only_bind.mpr ⟨only_byte.mpr ⟨by omega, by omega⟩, only_bind.mpr ⟨only_byte.mpr ⟨hstart, by omega⟩, ?_⟩⟩
  rw [value_byte, value_byte, hlen]
  dsimp only
  rw [hcopied, hsrc, hsize]
  refine only_bind.mpr ⟨only_copy fun a ha ha' => ⟨by omega, by omega⟩, ?_⟩
  split
  · exact only_pure _
  · split
    · exact only_pure _
    · exact loop_reads _ _ _ _ _ (by omega)

end Wireless.DefragElement
