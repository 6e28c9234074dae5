import Wifi.Lib.ByteOrder
import Wifi.Net80211.Ccmp

/-!
# Michael (`freebsd/sys/net80211/ieee80211_crypto_tkip.c`)

* `michaelBlock` — the block function; `michaelBlock_injective`.
* `michaelMicHdr` — `michael_mic_hdr`; `michaelMic` — `michael_mic` over the mbufs of a frame.
* `michael` — Michael over bytes that are in one piece.
* `micLoop_spec` — the loop absorbs the data, wherever the mbufs end.
* `mic_agrees_iff` — the MIC is the one of the pseudo header and the data exactly when the priority is read from the QoS
  control field, or is the same where it is read from.

`data` is the rest of an mbuf, from the pointer on.
-/

namespace Net80211.Michael

open Ccmp (Chain isDstods qosHasSeq iQos0)
open Absorb (absorb absorb_append absorb_word absorb_injective)

/-! ## Blocks -/

/-- `l` and `r` -/
structure Lr where
  l : BitVec 32
  r : BitVec 32
  deriving DecidableEq, Repr

def rotl (val : BitVec 32) (bits : Nat) : BitVec 32 := (val <<< bits) ||| (val >>> (32 - bits))

def rotr (val : BitVec 32) (bits : Nat) : BitVec 32 := (val >>> bits) ||| (val <<< (32 - bits))

def xswap (val : BitVec 32) : BitVec 32 := ((val &&& 0x00ff00ff) <<< 8) ||| ((val &&& 0xff00ff00) >>> 8)

/-- `r ^= f(l)` -/
def Lr.mix (f : BitVec 32 → BitVec 32) (s : Lr) : Lr := { s with r := s.r ^^^ f s.l }

/-- `l += r` -/
def Lr.add (s : Lr) : Lr := { s with l := s.l + s.r }

def michaelBlock (s : Lr) : Lr :=
  ((((((((s.mix (rotl · 17)).add).mix xswap).add).mix (rotl · 3)).add).mix (rotr · 2)).add)

def getLe32Split (b0 b1 b2 b3 : Byte) : BitVec 32 :=
  b0.setWidth 32 ||| (b1.setWidth 32 <<< 8) ||| (b2.setWidth 32 <<< 16) ||| (b3.setWidth 32 <<< 24)

def getLe32 (p : List Byte) : BitVec 32 := getLe32Split (p.getD 0 0) (p.getD 1 0) (p.getD 2 0) (p.getD 3 0)

def putLe32 (v : BitVec 32) : List Byte :=
  [v.setWidth 8, (v >>> 8).setWidth 8, (v >>> 16).setWidth 8, (v >>> 24).setWidth 8]

/-- `l ^= get_le32_split(b0, b1, b2, b3)`, and a block. -/
def Lr.word (s : Lr) (b0 b1 b2 b3 : Byte) : Lr := michaelBlock { s with l := s.l ^^^ getLe32Split b0 b1 b2 b3 }

def Lr.start (key : List Byte) : Lr := { l := getLe32 key, r := getLe32 (key.drop 4) }

/-! ## The functions -/

def addr (wh : List Byte) (off : Nat) : List Byte := (List.range 6).map fun i => wh.getD (off + i) 0

def michaelMicHdr (wh : List Byte) : List Byte :=
  let addresses :=
    match (wh.getD 1 0 &&& 0x03).toNat with
    | 0 => addr wh 4 ++ addr wh 10
    | 1 => addr wh 16 ++ addr wh 10
    | 2 => addr wh 4 ++ addr wh 16
    | _ => addr wh 16 ++ addr wh 24
  -- `struct ieee80211_qosframe` is the one of frames with three addresses
  let priority := if wh.getD 0 0 &&& 0x80 ≠ 0 then wh.getD 24 0 &&& 0x0f else 0
  addresses ++ [priority, 0, 0, 0]

structure Mic where
  s : Lr
  data : List Byte
  space : Nat
  dataLen : Nat

def wordsLoop : Lr → List Byte → Nat → Nat → Mic
  | s, data, space + 4, dataLen =>
    wordsLoop (s.word (data.getD 0 0) (data.getD 1 0) (data.getD 2 0) (data.getD 3 0)) (data.drop 4) space (dataLen - 4)
  | s, data, space, dataLen => { s := s, data := data, space := space, dataLen := dataLen }

def Lr.straddle (s : Lr) (data dataNext : List Byte) (space : Nat) : Lr :=
  match space with
  | 1 => s.word (data.getD 0 0) (dataNext.getD 0 0) (dataNext.getD 1 0) (dataNext.getD 2 0)
  | 2 => s.word (data.getD 0 0) (data.getD 1 0) (dataNext.getD 0 0) (dataNext.getD 1 0)
  | _ => s.word (data.getD 0 0) (data.getD 1 0) (data.getD 2 0) (dataNext.getD 0 0)

/-- The loop over the mbufs; nothing when one of its assertions fails. -/
def micLoop (s : Lr) (data : List Byte) (space : Nat) (rest : Chain) (dataLen : Nat) : Option Mic :=
  let t := wordsLoop s data (min space dataLen) dataLen
  if t.dataLen = 0 ∨ t.dataLen < 4 ∧ t.space ≠ 0 then some t
  else
    match rest with
    | [] => none
    | m :: ms =>
      if t.space ≠ 0 then
        if m.length < 4 - t.space then none
        else micLoop (t.s.straddle t.data m t.space) (m.drop (4 - t.space)) (m.length - (4 - t.space)) ms (t.dataLen - 4)
      else micLoop t.s m m.length ms t.dataLen

def Lr.last (s : Lr) (data : List Byte) (dataLen : Nat) : Lr :=
  let s :=
    match dataLen with
    | 0 => s.word 0x5a 0 0 0
    | 1 => s.word (data.getD 0 0) 0x5a 0 0
    | 2 => s.word (data.getD 0 0) (data.getD 1 0) 0x5a 0
    | _ => s.word (data.getD 0 0) (data.getD 1 0) (data.getD 2 0) 0x5a
  michaelBlock s

def Lr.header (s : Lr) (hdr : List Byte) : Lr :=
  let s := s.word (hdr.getD 0 0) (hdr.getD 1 0) (hdr.getD 2 0) (hdr.getD 3 0)
  let s := s.word (hdr.getD 4 0) (hdr.getD 5 0) (hdr.getD 6 0) (hdr.getD 7 0)
  let s := s.word (hdr.getD 8 0) (hdr.getD 9 0) (hdr.getD 10 0) (hdr.getD 11 0)
  s.word (hdr.getD 12 0) (hdr.getD 13 0) (hdr.getD 14 0) (hdr.getD 15 0)

/-- `michael_mic`, for a frame whose headers are in the first mbuf; nothing when an assertion fails. -/
def michaelMic (key first : List Byte) (rest : Chain) (off dataLen : Nat) : Option (List Byte) :=
  match micLoop ((Lr.start key).header (michaelMicHdr first)) (first.drop off) (first.length - off) rest dataLen with
  | none => none
  | some t =>
    if t.space < t.dataLen then none
    else
      let s := t.s.last t.data t.dataLen
      some (putLe32 s.l ++ putLe32 s.r)

/-! ## Michael -/

def padding (n : Nat) : List Byte := 0x5a :: List.replicate (7 - n % 4) 0

def michael (key msg : List Byte) : List Byte :=
  let s := absorb Lr.word (Lr.start key) (msg ++ padding msg.length)
  putLe32 s.l ++ putLe32 s.r

def destination (wh : List Byte) : List Byte := if wh.getD 1 0 &&& 0x01 = 0 then addr wh 4 else addr wh 16

def source (wh : List Byte) : List Byte :=
  if wh.getD 1 0 &&& 0x02 = 0 then addr wh 10
  else if wh.getD 1 0 &&& 0x01 = 0 then addr wh 16
  else addr wh 24

def pseudoHeader (wh : List Byte) (priority : Byte) : List Byte := destination wh ++ source wh ++ [priority, 0, 0, 0]

/-- **The MIC is the one of the pseudo header and the data**; the priority is the TID of a QoS frame. -/
def MicAgrees (key wh payload mic : List Byte) : Prop :=
  ∃ priority, mic = michael key (pseudoHeader wh priority ++ payload) ∧
    (qosHasSeq wh = true → priority = iQos0 wh &&& 0x0f)

/-! ## Injective functions -/

theorem mix_injective (f : BitVec 32 → BitVec 32) {s s' : Lr} (h : s.mix f = s'.mix f) : s = s' := by
  obtain ⟨l, r⟩ := s
  obtain ⟨l', r'⟩ := s'
  unfold Lr.mix at h
  obtain ⟨rfl, hr⟩ := Lr.mk.inj h
  exact congrArg (Lr.mk l) ((BitVec.xor_left_inj (f l)).mp hr)

theorem add_injective {s s' : Lr} (h : s.add = s'.add) : s = s' := by
  obtain ⟨l, r⟩ := s
  obtain ⟨l', r'⟩ := s'
  unfold Lr.add at h
  obtain ⟨hl, rfl⟩ := Lr.mk.inj h
  exact congrArg (Lr.mk · r) (BitVec.add_left_inj r |>.mp hl)

/-- **Blocks** that differ have different results. -/
theorem michaelBlock_injective {s s' : Lr} (h : michaelBlock s = michaelBlock s') : s = s' := by
  unfold michaelBlock at h
  apply mix_injective (rotl · 17)
  apply add_injective
  apply mix_injective xswap
  apply add_injective
  apply mix_injective (rotl · 3)
  apply add_injective
  apply mix_injective (rotr · 2)
  apply add_injective
  exact h

theorem word_injective {b0 b1 b2 b3 : Byte} {s s' : Lr} (h : s.word b0 b1 b2 b3 = s'.word b0 b1 b2 b3) : s = s' := by
  obtain ⟨l, r⟩ := s
  obtain ⟨l', r'⟩ := s'
  obtain ⟨hl, hr⟩ := Lr.mk.inj (michaelBlock_injective h)
  rw [show l = l' from (BitVec.xor_left_inj _).mp hl, show r = r' from hr]

theorem getLe32Split_first (b : Byte) : (getLe32Split b 0 0 0).setWidth 8 = b := by
  unfold getLe32Split
  simp

theorem word_first_injective {s : Lr} {b b' : Byte} (h : s.word b 0 0 0 = s.word b' 0 0 0) : b = b' := by
  obtain ⟨hl, -⟩ := Lr.mk.inj (michaelBlock_injective h)
  rw [← getLe32Split_first b, ← getLe32Split_first b', (BitVec.xor_right_inj s.l).mp hl]

theorem putLe32_injective {v v' : BitVec 32} (h : putLe32 v = putLe32 v') : v = v' := by
  unfold putLe32 at h
  simp only [List.cons.injEq, and_true] at h
  obtain ⟨h0, h1, h2, h3⟩ := h
  have hbyte : ∀ k j, (v >>> (8 * k)).setWidth 8 = (v' >>> (8 * k)).setWidth 8 → j < 8 →
      v.getLsbD (8 * k + j) = v'.getLsbD (8 * k + j) := by
    intro k j hk hj
    have hbit := congrArg (·.getLsbD j) hk
    simpa [hj] using hbit
  refine BitVec.eq_of_getLsbD_eq fun i hi => ?_
  have hsplit : i = 8 * (i / 8) + i % 8 := (Nat.div_add_mod i 8).symm
  have hk : (v >>> (8 * (i / 8))).setWidth 8 = (v' >>> (8 * (i / 8))).setWidth 8 := by
    have hlt : i / 8 < 4 := by omega
    generalize i / 8 = k at hlt
    match k, hlt with
    | 0, _ => simpa using h0
    | 1, _ => exact h1
    | 2, _ => exact h2
    | 3, _ => exact h3
  rw [hsplit]
  exact hbyte (i / 8) (i % 8) hk (Nat.mod_lt i (by decide))

theorem bytes_injective {s s' : Lr} (h : putLe32 s.l ++ putLe32 s.r = putLe32 s'.l ++ putLe32 s'.r) : s = s' := by
  obtain ⟨hl, hr⟩ := List.append_inj h rfl
  obtain ⟨l, r⟩ := s
  obtain ⟨l', r'⟩ := s'
  rw [show l = l' from putLe32_injective hl, show r = r' from putLe32_injective hr]

/-! ## The loops -/

theorem wordsLoop_spec : ∀ {space : Nat} {s : Lr} {data : List Byte} {dataLen : Nat}, space ≤ data.length →
    wordsLoop s data space dataLen =
      { s := absorb Lr.word s (data.take (4 * (space / 4))), data := data.drop (4 * (space / 4)), space := space % 4
        dataLen := dataLen - 4 * (space / 4) }
  | 0, _, _, _, _ => rfl
  | 1, _, _, _, _ => rfl
  | 2, _, _, _, _ => rfl
  | 3, _, _, _, _ => rfl
  | space + 4, s, a :: b :: c :: d :: data, dataLen, hle => by
    simp only [List.length_cons] at hle
    have hwords : 4 * ((space + 4) / 4) = 4 * (space / 4) + 4 := by omega
    rw [wordsLoop, hwords]
    refine (wordsLoop_spec (show space ≤ data.length by omega)).trans ?_
    rw [Nat.add_mod_right, Nat.sub_sub, Nat.add_comm 4]
    rfl

/-- What the loop over the mbufs leaves: all words are absorbed, and the rest is in one mbuf. -/
structure Absorbed (s : Lr) (all : List Byte) (dataLen : Nat) (t : Mic) : Prop where
  enough : dataLen ≤ all.length
  tailLength : t.dataLen = dataLen % 4
  words : t.s = absorb Lr.word s (all.take (4 * (dataLen / 4)))
  tail : t.data.take t.dataLen = (all.take dataLen).drop (4 * (dataLen / 4))

theorem Absorbed.prepend {s : Lr} {all : List Byte} {dataLen : Nat} {t : Mic} (pre : List Byte)
    (h : Absorbed (absorb Lr.word s pre) all dataLen t) (hpre : pre.length % 4 = 0) :
    Absorbed s (pre ++ all) (pre.length + dataLen) t := by
  have hwords : 4 * ((pre.length + dataLen) / 4) = pre.length + 4 * (dataLen / 4) := by omega
  refine ⟨?_, ?_, ?_, ?_⟩
  · rw [List.length_append]
    exact Nat.add_le_add_left h.enough _
  · rw [h.tailLength]
    omega
  · rw [hwords, List.take_length_add_append, absorb_append hpre, h.words]
  · rw [hwords, List.take_length_add_append, List.drop_length_add_append, h.tail]

theorem Absorbed.append {s : Lr} {all : List Byte} {dataLen : Nat} {t : Mic} (h : Absorbed s all dataLen t)
    (more : List Byte) : Absorbed s (all ++ more) dataLen t := by
  have henough := h.enough
  refine ⟨?_, h.tailLength, ?_, ?_⟩
  · rw [List.length_append]
    omega
  · rw [List.take_append_of_le_length (by omega)]
    exact h.words
  · rw [List.take_append_of_le_length henough]
    exact h.tail

theorem last_mbuf {s : Lr} {data : List Byte} {dataLen : Nat}
    (hspace : dataLen - 4 * (min data.length dataLen / 4) ≤ min data.length dataLen % 4) :
    Absorbed s data dataLen
      { s := absorb Lr.word s (data.take (4 * (min data.length dataLen / 4)))
        data := data.drop (4 * (min data.length dataLen / 4)), space := min data.length dataLen % 4
        dataLen := dataLen - 4 * (min data.length dataLen / 4) } := by
  have henough : dataLen ≤ data.length := by omega
  have hmin : min data.length dataLen = dataLen := Nat.min_eq_right henough
  rw [hmin]
  refine ⟨henough, ?_, rfl, ?_⟩
  · show dataLen - 4 * (dataLen / 4) = dataLen % 4
    omega
  · exact List.drop_take.symm

/-- A word that is in two mbufs is the word of the bytes in one piece. -/
theorem straddle_eq {s : Lr} {data m : List Byte} (hpos : 0 < data.length) (hlt : data.length < 4)
    (hm : 4 - data.length ≤ m.length) :
    s.straddle data m data.length = absorb Lr.word s (data ++ m.take (4 - data.length)) := by
  match data, hpos, hlt with
  | [a], _, _ =>
    match m, hm with
    | b :: c :: d :: m, _ => rfl
    | [_, _], h => simp at h
    | [_], h => simp at h
    | [], h => simp at h
  | [a, b], _, _ =>
    match m, hm with
    | c :: d :: m, _ => rfl
    | [_], h => simp at h
    | [], h => simp at h
  | [a, b, c], _, _ =>
    match m, hm with
    | d :: m, _ => rfl
    | [], h => simp at h

/-- **The loop over the mbufs** absorbs the words of the data. -/
theorem micLoop_spec : ∀ (rest : Chain) {s : Lr} {data : List Byte} {dataLen : Nat} {t : Mic},
    micLoop s data data.length rest dataLen = some t → t.dataLen ≤ t.space →
    Absorbed s (data ++ rest.flatten) dataLen t := by
  intro rest
  induction rest with
  | nil =>
    intro s data dataLen t h hspace
    unfold micLoop at h
    rw [wordsLoop_spec (Nat.min_le_left data.length dataLen)] at h
    dsimp only at h
    by_cases hdone : dataLen - 4 * (min data.length dataLen / 4) = 0 ∨
        dataLen - 4 * (min data.length dataLen / 4) < 4 ∧ min data.length dataLen % 4 ≠ 0
    · rw [if_pos hdone] at h
      cases Option.some.inj h
      rw [List.flatten_nil, List.append_nil]
      exact last_mbuf hspace
    · rw [if_neg hdone] at h
      cases h
  | cons m ms ih =>
    intro s data dataLen t h hspace
    unfold micLoop at h
    rw [wordsLoop_spec (Nat.min_le_left data.length dataLen)] at h
    dsimp only at h
    by_cases hdone : dataLen - 4 * (min data.length dataLen / 4) = 0 ∨
        dataLen - 4 * (min data.length dataLen / 4) < 4 ∧ min data.length dataLen % 4 ≠ 0
    · rw [if_pos hdone] at h
      cases Option.some.inj h
      exact (last_mbuf hspace).append _
    · rw [if_neg hdone] at h
      -- the data goes on behind this mbuf
      have hall : min data.length dataLen = data.length := by omega
      rw [hall] at h hdone
      have hsplit : data = data.take (4 * (data.length / 4)) ++ data.drop (4 * (data.length / 4)) :=
        (List.take_append_drop _ _).symm
      have hlen : (data.take (4 * (data.length / 4))).length = 4 * (data.length / 4) :=
        List.length_take_of_le (by omega)
      have hrest : (data.drop (4 * (data.length / 4))).length = data.length % 4 := by
        rw [List.length_drop]
        omega
      generalize hq : data.take (4 * (data.length / 4)) = pre at *
      generalize hr : data.drop (4 * (data.length / 4)) = post at *
      rw [hsplit, List.flatten_cons]
      by_cases hstraddle : data.length % 4 ≠ 0
      · rw [if_pos hstraddle] at h
        by_cases hshort : m.length < 4 - data.length % 4
        · rw [if_pos hshort] at h
          cases h
        rw [if_neg hshort, ← hrest, straddle_eq (by omega) (by omega) (by omega), ← List.length_drop] at h
        have hword : (post ++ m.take (4 - post.length)).length = 4 := by
          rw [List.length_append, List.length_take]
          omega
        have habsorbed := ((ih h hspace).prepend (post ++ m.take (4 - post.length)) (by omega)).prepend pre (by omega)
        rw [hword, hlen] at habsorbed
        have hbytes : pre ++ (post ++ m.take (4 - post.length) ++ (m.drop (4 - post.length) ++ ms.flatten)) =
            pre ++ post ++ (m ++ ms.flatten) := by
          rw [List.append_assoc post, ← List.append_assoc (m.take _), List.take_append_drop, List.append_assoc]
        rw [hbytes] at habsorbed
        have hcount : 4 * (data.length / 4) + (4 + (dataLen - 4 * (data.length / 4) - 4)) = dataLen := by omega
        rwa [hcount] at habsorbed
      · rw [if_neg hstraddle] at h
        have habsorbed := (ih h hspace).prepend pre (by omega)
        have hempty : post = [] := List.length_eq_zero_iff.mp (by omega)
        have hcount : 4 * (data.length / 4) + (dataLen - 4 * (data.length / 4)) = dataLen := by omega
        rw [hlen, hcount] at habsorbed
        rw [hempty, List.append_nil]
        exact habsorbed

/-! ## The MIC -/

/-- The last block takes the rest of the data, with its padding. -/
theorem last_eq {s : Lr} {data : List Byte} {dataLen : Nat} (hlt : dataLen < 4) (hlen : dataLen ≤ data.length) :
    s.last data dataLen = absorb Lr.word s (data.take dataLen ++ padding dataLen) := by
  have hzero : ∀ s : Lr, michaelBlock s = s.word 0 0 0 0 := by
    intro s
    unfold Lr.word
    rw [show getLe32Split 0 0 0 0 = 0#32 by decide, BitVec.xor_zero]
  match dataLen, data, hlt, hlen with
  | 0, _, _, _ =>
    unfold Lr.last
    rw [hzero]
    rfl
  | 1, a :: _, _, _ =>
    unfold Lr.last
    rw [hzero]
    rfl
  | 2, a :: b :: _, _, _ =>
    unfold Lr.last
    rw [hzero]
    rfl
  | 3, a :: b :: c :: _, _, _ =>
    unfold Lr.last
    rw [hzero]
    rfl

def readPriority (wh : List Byte) : Byte := if wh.getD 0 0 &&& 0x80 ≠ 0 then wh.getD 24 0 &&& 0x0f else 0

/-- The pseudo header is the one of the frame, with that priority. -/
theorem michaelMicHdr_eq (wh : List Byte) : michaelMicHdr wh = pseudoHeader wh (readPriority wh) := by
  unfold michaelMicHdr pseudoHeader readPriority destination source
  dsimp only
  congr 1
  generalize wh.getD 1 0 = fc1
  have hbits : ∀ b : Byte, (b &&& 0x01 = 0 ↔ (b &&& 0x03).toNat = 0 ∨ (b &&& 0x03).toNat = 2) ∧
      (b &&& 0x02 = 0 ↔ (b &&& 0x03).toNat = 0 ∨ (b &&& 0x03).toNat = 1) := by decide +kernel
  obtain ⟨hto, hfrom⟩ := hbits fc1
  simp only [hto, hfrom]
  generalize (fc1 &&& 0x03).toNat = direction
  match direction with
  | 0 => rfl
  | 1 => rfl
  | 2 => rfl
  | n + 3 => simp

theorem pseudoHeader_length (wh : List Byte) (priority : Byte) : (pseudoHeader wh priority).length = 16 := by
  have haddr : ∀ off, (addr wh off).length = 6 := fun off => by simp [addr]
  have hdestination : (destination wh).length = 6 := by
    unfold destination
    split
    · exact haddr 4
    · exact haddr 16
  have hsource : (source wh).length = 6 := by
    unfold source
    split
    · exact haddr 10
    split
    · exact haddr 16
    · exact haddr 24
  simp [pseudoHeader, hdestination, hsource]

theorem header_eq {s : Lr} {hdr : List Byte} (h : hdr.length = 16) : s.header hdr = absorb Lr.word s hdr := by
  match hdr, h with
  | [_, _, _, _, _, _, _, _, _, _, _, _, _, _, _, _], _ => rfl

/-- **The MIC is that of the data in one piece**, behind the pseudo header with the priority that is read. -/
theorem michaelMic_spec {key first mic : List Byte} {rest : Chain} {off dataLen : Nat}
    (h : michaelMic key first rest off dataLen = some mic) :
    dataLen ≤ (first.drop off ++ rest.flatten).length ∧
      mic = michael key (pseudoHeader first (readPriority first) ++ (first.drop off ++ rest.flatten).take dataLen) := by
  unfold michaelMic at h
  have hspace : first.length - off = (first.drop off).length := List.length_drop.symm
  rw [michaelMicHdr_eq, hspace, header_eq (pseudoHeader_length _ _)] at h
  have hheader := pseudoHeader_length first (readPriority first)
  generalize pseudoHeader first (readPriority first) = hdr at *
  generalize hloop : micLoop (absorb Lr.word (Lr.start key) hdr) (first.drop off) (first.drop off).length rest dataLen = r at h
  cases r with
  | none => cases h
  | some t =>
    dsimp only at h
    by_cases hassert : t.space < t.dataLen
    · rw [if_pos hassert] at h
      cases h
    rw [if_neg hassert] at h
    have habsorbed := micLoop_spec rest hloop (Nat.not_lt.mp hassert)
    have henough := habsorbed.enough
    refine ⟨henough, ?_⟩
    generalize first.drop off ++ rest.flatten = all at habsorbed henough ⊢
    have htaken : (all.take dataLen).length = dataLen := List.length_take_of_le henough
    have htail : t.dataLen ≤ t.data.length := by
      have hlength := congrArg List.length habsorbed.tail
      rw [List.length_take, List.length_drop, htaken, habsorbed.tailLength] at hlength
      rw [habsorbed.tailLength]
      omega
    have hlast := last_eq (s := t.s) (habsorbed.tailLength ▸ Nat.mod_lt dataLen (by decide)) htail
    rw [habsorbed.tail] at hlast
    have hpadding : padding t.dataLen = padding (hdr ++ all.take dataLen).length := by
      unfold padding
      rw [List.length_append, htaken, hheader, habsorbed.tailLength]
      congr 3
      omega
    have hwords : all.take (4 * (dataLen / 4)) = (all.take dataLen).take (4 * (dataLen / 4)) := by
      rw [List.take_take]
      congr 1
      omega
    have hwhole : (all.take (4 * (dataLen / 4))).length % 4 = 0 := by
      rw [List.length_take]
      omega
    have hmic : t.s.last t.data t.dataLen =
        absorb Lr.word (Lr.start key) (hdr ++ all.take dataLen ++ padding (hdr ++ all.take dataLen).length) := by
      rw [hlast, habsorbed.words, ← absorb_append hwhole, ← absorb_append (show hdr.length % 4 = 0 by omega), hpadding, hwords, ← List.append_assoc (List.take _ _),
        List.take_append_drop, ← List.append_assoc]
    rw [hmic] at h
    exact (Option.some.inj h).symm

theorem michael_priority_injective {key wh payload : List Byte} {p p' : Byte}
    (h : michael key (pseudoHeader wh p ++ payload) = michael key (pseudoHeader wh p' ++ payload)) : p = p' := by
  have haddresses : (destination wh ++ source wh).length % 4 = 0 := by
    have hlength := pseudoHeader_length wh p
    unfold pseudoHeader at hlength
    rw [List.length_append] at hlength
    exact congrArg (· % 4) (Nat.add_right_cancel (m := 4) (k := 12) hlength)
  have hword : ∀ b : Byte, [b, 0, 0, 0].length % 4 = 0 := by simp
  unfold michael at h
  rw [List.length_append, List.length_append, pseudoHeader_length, pseudoHeader_length, List.append_assoc, List.append_assoc] at h
  generalize payload ++ padding (16 + payload.length) = tail at h
  unfold pseudoHeader at h
  rw [List.append_assoc (destination wh ++ source wh), List.append_assoc (destination wh ++ source wh),
    absorb_append haddresses, absorb_append (hword p), absorb_append haddresses,
    absorb_append (hword p'), absorb_word, absorb_word] at h
  have hstep : ∀ a b c d s s', Lr.word s a b c d = Lr.word s' a b c d → s = s' := fun _ _ _ _ _ _ => word_injective
  exact word_first_injective (absorb_injective hstep tail (bytes_injective h))

/-- **The MIC is the one of the pseudo header and the data in one piece exactly when the frame has not both four addresses
    and a QoS control field, or its TID is what is read from the fourth address.** -/
theorem mic_agrees_iff (key first mic : List Byte) (rest : Chain) (off dataLen : Nat)
    (hmic : michaelMic key first rest off dataLen = some mic) :
    dataLen ≤ (first.drop off ++ rest.flatten).length ∧
      (MicAgrees key first ((first.drop off ++ rest.flatten).take dataLen) mic ↔
        ¬ (qosHasSeq first = true ∧ isDstods first = true) ∨
          first.getD 24 0 &&& 0x0f = first.getD 30 0 &&& 0x0f) := by
  obtain ⟨henough, hspec⟩ := michaelMic_spec hmic
  refine ⟨henough, ?_⟩
  have hread : qosHasSeq first = true → readPriority first = first.getD 24 0 &&& 0x0f := by
    intro hqos
    have hbit : ∀ b : Byte, b &&& 0x8c = 0x88 → b &&& 0x80 ≠ 0 := by decide +kernel
    exact if_pos (hbit _ (of_decide_eq_true hqos))
  have hpriority : MicAgrees key first ((first.drop off ++ rest.flatten).take dataLen) mic ↔
      (qosHasSeq first = true → readPriority first = iQos0 first &&& 0x0f) := by
    constructor
    · rintro ⟨p, hp, hqos⟩ hseq
      rw [michael_priority_injective (hspec.symm.trans hp)]
      exact hqos hseq
    · exact fun hqos => ⟨readPriority first, hspec, hqos⟩
  rw [hpriority]
  by_cases hseq : qosHasSeq first = true
  · rw [hread hseq]
    unfold iQos0
    cases hds : isDstods first with
    | true => simp [hseq]
    | false => simp
  · exact iff_of_true (fun h => absurd h hseq) (.inl fun h => hseq h.1)

/-- A frame with three addresses and TID 5; its data is in three mbufs. -/
theorem mic_agrees_three_addresses :
    ∃ mic, michaelMic (List.replicate 8 7) (0x88 :: 0x01 :: (List.replicate 22 1 ++ [5, 0] ++ [1, 2, 3, 4, 5])) [[6, 7, 8], [9]]
        26 9 = some mic ∧
      MicAgrees (List.replicate 8 7) (0x88 :: 0x01 :: (List.replicate 22 1 ++ [5, 0] ++ [1, 2, 3, 4, 5]))
        [1, 2, 3, 4, 5, 6, 7, 8, 9] mic := by
  obtain ⟨mic, hmic⟩ := Option.isSome_iff_exists.mp (show (michaelMic (List.replicate 8 7)
    (0x88 :: 0x01 :: (List.replicate 22 1 ++ [5, 0] ++ [1, 2, 3, 4, 5])) [[6, 7, 8], [9]] 26 9).isSome = true by decide)
  exact ⟨mic, hmic, (mic_agrees_iff _ _ mic _ 26 9 hmic).2.mpr (.inl (by decide))⟩

/-- **A frame with four addresses and TID 5, whose fourth address begins with 2**, has the MIC of priority 2. -/
theorem four_addresses_disagree :
    ∃ mic, michaelMic (List.replicate 8 7) (0x88 :: 0x03 :: (List.replicate 22 1 ++ [2, 1, 1, 1, 1, 1] ++ [5, 0] ++ [1, 2, 3, 4]))
        [] 32 4 = some mic ∧
      ¬ MicAgrees (List.replicate 8 7) (0x88 :: 0x03 :: (List.replicate 22 1 ++ [2, 1, 1, 1, 1, 1] ++ [5, 0] ++ [1, 2, 3, 4]))
        [1, 2, 3, 4] mic := by
  obtain ⟨mic, hmic⟩ := Option.isSome_iff_exists.mp (show (michaelMic (List.replicate 8 7)
    (0x88 :: 0x03 :: (List.replicate 22 1 ++ [2, 1, 1, 1, 1, 1] ++ [5, 0] ++ [1, 2, 3, 4])) [] 32 4).isSome = true by decide)
  refine ⟨mic, hmic, fun h => ?_⟩
  obtain hnot | hsame := (mic_agrees_iff _ _ mic _ 32 4 hmic).2.mp h
  · exact hnot (by decide)
  · exact absurd hsame (by decide)

end Net80211.Michael
