import Wifi.Linux.Ieee80211
import Wifi.Net80211.MichaelMic

/-!
# Michael (`linux/net/mac80211/michael.c`)

* `michaelMic` — `michael_mic`, with `michael_block` and `michael_mic_hdr`; `rol32` and `ror32` are `rotl` and `rotr`.
* `michaelMic_eq` — it is Michael over the pseudo header and the data.
* `stacks_agree_iff` — when net80211 computes the same MIC.
-/

namespace Mac80211.Michael

open Net80211.Michael (Lr getLe32 getLe32Split putLe32 rotl rotr xswap addr michael pseudoHeader padding destination source last_eq
  pseudoHeader_length michael_priority_injective readPriority michaelMic_spec)
open Absorb (absorb absorb_append)

/-! ## The functions -/

def michaelBlock (mctx : Lr) (val : BitVec 32) : Lr :=
  let mctx := { mctx with l := mctx.l ^^^ val }
  let mctx := { mctx with r := mctx.r ^^^ rotl mctx.l 17 }
  let mctx := { mctx with l := mctx.l + mctx.r }
  let mctx := { mctx with r := mctx.r ^^^ (((mctx.l &&& 0xff00ff00) >>> 8) ||| ((mctx.l &&& 0x00ff00ff) <<< 8)) }
  let mctx := { mctx with l := mctx.l + mctx.r }
  let mctx := { mctx with r := mctx.r ^^^ rotl mctx.l 3 }
  let mctx := { mctx with l := mctx.l + mctx.r }
  let mctx := { mctx with r := mctx.r ^^^ rotr mctx.l 2 }
  { mctx with l := mctx.l + mctx.r }

/-- `ieee80211_get_DA` -/
def getDA (hdr : List Byte) : List Byte := if (frameControl hdr).hasTods then addr hdr 16 else addr hdr 4

/-- `ieee80211_get_SA` -/
def getSA (hdr : List Byte) : List Byte :=
  if (frameControl hdr).hasA4 then addr hdr 24
  else if (frameControl hdr).hasFromds then addr hdr 16
  else addr hdr 10

/-- `get_unaligned_le16` -/
def getLe16 (p : List Byte) : BitVec 32 := (le16 p 0).setWidth 32

/-- The priority: `ieee80211_get_tid`, or 0. -/
def micTid (hdr : List Byte) : Byte := if (frameControl hdr).isDataQos then qosCtl hdr &&& 0x0f else 0

def michaelMicHdr (key hdr : List Byte) : Lr :=
  let da := getDA hdr
  let sa := getSA hdr
  let mctx : Lr := { l := getLe32 key, r := getLe32 (key.drop 4) }
  let mctx := michaelBlock mctx (getLe32 da)
  let mctx := michaelBlock mctx (getLe16 (da.drop 4) ||| (getLe16 sa <<< 16))
  let mctx := michaelBlock mctx (getLe32 (sa.drop 2))
  michaelBlock mctx ((micTid hdr).setWidth 32)

def partialBlock (data : List Byte) (blocks : Nat) : Nat → BitVec 32 → BitVec 32
  | 0, val => val
  | left + 1, val => partialBlock data blocks left ((val <<< 8) ||| (data.getD (blocks * 4 + left) 0).setWidth 32)

def michaelMic (key hdr data : List Byte) : List Byte :=
  let blocks := data.length / 4
  let mctx := (List.range blocks).foldl (fun mctx block => michaelBlock mctx (getLe32 (data.drop (block * 4))))
    (michaelMicHdr key hdr)
  let mctx := michaelBlock mctx (partialBlock data blocks (data.length % 4) 0x5a)
  let mctx := michaelBlock mctx 0
  putLe32 mctx.l ++ putLe32 mctx.r

/-! ## Words -/

theorem michaelBlock_word (s : Lr) (b0 b1 b2 b3 : Byte) :
    michaelBlock s (getLe32Split b0 b1 b2 b3) = s.word b0 b1 b2 b3 := by
  have hswap : ∀ l : BitVec 32, ((l &&& 0xff00ff00) >>> 8) ||| ((l &&& 0x00ff00ff) <<< 8) = xswap l :=
    fun _ => BitVec.or_comm _ _
  unfold michaelBlock
  simp only [hswap]
  rfl

theorem halves (b0 b1 b2 b3 : Byte) : (b1 ++ b0).setWidth 32 ||| ((b3 ++ b2).setWidth 32 <<< 16) = getLe32Split b0 b1 b2 b3 := by
  unfold getLe32Split
  grind

theorem blocks_eq {data : List Byte} (s : Lr) {n : Nat} (hn : n * 4 ≤ data.length) :
    (List.range n).foldl (fun mctx block => michaelBlock mctx (getLe32 (data.drop (block * 4)))) s =
      absorb Lr.word s (data.take (n * 4)) := by
  induction n with
  | zero => rfl
  | succ n ih =>
    have hword : (data.drop (n * 4)).take 4 = [(data.drop (n * 4)).getD 0 0, (data.drop (n * 4)).getD 1 0,
        (data.drop (n * 4)).getD 2 0, (data.drop (n * 4)).getD 3 0] := by
      have hlength : 4 ≤ (data.drop (n * 4)).length := by
        rw [List.length_drop]
        omega
      match data.drop (n * 4), hlength with
      | _ :: _ :: _ :: _ :: _, _ => rfl
    rw [List.range_succ, List.foldl_concat, ih (by omega), Nat.succ_mul, List.take_add, absorb_append, hword]
    · exact michaelBlock_word _ _ _ _ _
    · rw [List.length_take_of_le (by omega)]
      apply Nat.mul_mod_left

theorem push_byte (b0 b1 b2 b : Byte) : (getLe32Split b0 b1 b2 0 <<< 8) ||| b.setWidth 32 = getLe32Split b b0 b1 b2 := by
  simp only [getLe32Split]
  simp
  grind

theorem last_blocks (s : Lr) (data : List Byte) (blocks : Nat) {left : Nat} (hlt : left < 4) :
    michaelBlock (michaelBlock s (partialBlock data blocks left 0x5a)) 0 = s.last (data.drop (blocks * 4)) left := by
  have hword : ∀ {s : Lr} {val : BitVec 32} {b0 b1 b2 b3 : Byte}, val = getLe32Split b0 b1 b2 b3 →
      michaelBlock (michaelBlock s val) 0 = Net80211.Michael.michaelBlock (s.word b0 b1 b2 b3) := by
    rintro s _ b0 b1 b2 b3 rfl
    rw [michaelBlock_word, show (0 : BitVec 32) = getLe32Split 0 0 0 0 by decide, michaelBlock_word]
    unfold Lr.word
    rw [show getLe32Split 0 0 0 0 = 0#32 by decide, BitVec.xor_zero]
  have hgetD : ∀ i, data.getD (blocks * 4 + i) 0 = (data.drop (blocks * 4)).getD i 0 := fun i => by simp [List.getD]
  rw [show (0x5a : BitVec 32) = getLe32Split 0x5a 0 0 0 by decide]
  unfold Lr.last
  match left, hlt with
  | 0, _ => exact hword rfl
  | 1, _ =>
    apply hword
    rw [partialBlock, partialBlock, hgetD, push_byte]
  | 2, _ =>
    apply hword
    rw [partialBlock, partialBlock, partialBlock, hgetD, hgetD, push_byte, push_byte]
  | 3, _ =>
    apply hword
    rw [partialBlock, partialBlock, partialBlock, partialBlock, hgetD, hgetD, hgetD, push_byte, push_byte,
      push_byte]

/-! ## The header -/

theorem and_low (a b m n : Byte) : (b ++ a) &&& (0#8 ++ m) = 0#8 ++ n ↔ a &&& m = n := by
  rw [BitVec.and_append, BitVec.and_zero, BitVec.append_right_inj]

theorem and_high (a b m n : Byte) : (b ++ a) &&& (m ++ 0#8) = n ++ 0#8 ↔ b &&& m = n := by
  rw [BitVec.and_append, BitVec.and_zero, BitVec.append_left_inj]

variable {hdr : List Byte}

theorem isData_iff : (frameControl hdr).isData = true ↔ hdr.getD 0 0 &&& 0x0c = 0x08 :=
  decide_eq_true_iff.trans (and_low _ _ 0x0c 0x08)

theorem isDataQos_iff : (frameControl hdr).isDataQos = true ↔ hdr.getD 0 0 &&& 0x8c = 0x88 :=
  decide_eq_true_iff.trans (and_low _ _ 0x8c 0x88)

theorem hasTods_iff : (frameControl hdr).hasTods = true ↔ ¬ hdr.getD 1 0 &&& 0x01 = 0 :=
  decide_eq_true_iff.trans (not_congr (and_high _ _ 0x01 0))

theorem hasFromds_iff : (frameControl hdr).hasFromds = true ↔ ¬ hdr.getD 1 0 &&& 0x02 = 0 :=
  decide_eq_true_iff.trans (not_congr (and_high _ _ 0x02 0))

theorem hasA4_iff : (frameControl hdr).hasA4 = true ↔ hdr.getD 1 0 &&& 0x03 = 0x03 :=
  decide_eq_true_iff.trans (and_high _ _ 0x03 0x03)

theorem getDA_eq (hdr : List Byte) : getDA hdr = destination hdr := by
  unfold getDA destination
  simp only [hasTods_iff, ite_not]

theorem getSA_eq (hdr : List Byte) : getSA hdr = source hdr := by
  have hbits : ∀ b : Byte, b &&& 0x03 = 0x03 ↔ b &&& 0x01 ≠ 0 ∧ b &&& 0x02 ≠ 0 := by decide +kernel
  unfold getSA source
  simp only [hasA4_iff, hasFromds_iff, hbits]
  split_ifs <;> simp_all

theorem michaelMicHdr_eq (key hdr : List Byte) :
    michaelMicHdr key hdr = absorb Lr.word (Lr.start key) (pseudoHeader hdr (micTid hdr)) := by
  have haddr : ∀ off, ∃ a b c d e f, addr hdr off = [a, b, c, d, e, f] := fun _ => ⟨_, _, _, _, _, _, rfl⟩
  unfold michaelMicHdr pseudoHeader
  rw [getDA_eq, getSA_eq]
  obtain ⟨a, b, c, d, e, f, hda⟩ : ∃ a b c d e f, destination hdr = [a, b, c, d, e, f] := by
    unfold destination
    split_ifs <;> apply haddr
  obtain ⟨a', b', c', d', e', f', hsa⟩ : ∃ a b c d e f, source hdr = [a, b, c, d, e, f] := by
    unfold source
    split_ifs <;> apply haddr
  rw [hda, hsa]
  dsimp only
  have htid : (micTid hdr).setWidth 32 = getLe32Split (micTid hdr) 0 0 0 := by simp [getLe32Split]
  rw [htid]
  unfold getLe16 le16 getLe32
  rw [halves, michaelBlock_word, michaelBlock_word, michaelBlock_word, michaelBlock_word]
  rfl

/-- **`michael_mic` is Michael** over the pseudo header and the data. -/
theorem michaelMic_eq (key hdr data : List Byte) :
    michaelMic key hdr data = michael key (pseudoHeader hdr (micTid hdr) ++ data) := by
  have hmod : data.length % 4 < 4 := Nat.mod_lt _ (by decide)
  have hdrop : (data.drop (data.length / 4 * 4)).length = data.length % 4 := by
    rw [List.length_drop]
    omega
  have hpadding : padding (data.length % 4) = padding (16 + data.length) := by
    unfold padding
    congr 3
    omega
  have hwords : (data.take (data.length / 4 * 4)).length % 4 = 0 := by
    rw [List.length_take_of_le (Nat.div_mul_le_self _ _)]
    apply Nat.mul_mod_left
  unfold michaelMic michael
  dsimp only
  rw [blocks_eq _ (Nat.div_mul_le_self _ _), michaelMicHdr_eq, last_blocks _ _ _ hmod, last_eq hmod hdrop.ge, ← hdrop, List.take_length,
    hdrop, hpadding, List.length_append, pseudoHeader_length, ← absorb_append hwords, ← absorb_append (by rw [pseudoHeader_length]),
    ← List.append_assoc (data.take _), List.take_append_drop, List.append_assoc]

/-- The frame has four addresses and a QoS control field. -/
def isQosA4 (hdr : List Byte) : Bool := (frameControl hdr).isDataQos && (frameControl hdr).hasA4

/-- **The two stacks compute the same MIC** for a data frame exactly when it has not both four addresses and a QoS control field,
    or its TID is what net80211 reads from the fourth address. -/
theorem stacks_agree_iff {key first mic : List Byte} {rest : Net80211.Ccmp.Chain} {off dataLen : Nat}
    (hdata : (frameControl first).isData = true) (hmic : Net80211.Michael.michaelMic key first rest off dataLen = some mic) :
    mic = michaelMic key first ((first.drop off ++ rest.flatten).take dataLen) ↔
      isQosA4 first = false ∨ first.getD 24 0 &&& 0x0f = first.getD 30 0 &&& 0x0f := by
  have hread : readPriority first = if (frameControl first).isDataQos then first.getD 24 0 &&& 0x0f else 0 := by
    have hbit : ∀ b : Byte, b &&& 0x0c = 0x08 → (b &&& 0x80 ≠ 0 ↔ b &&& 0x8c = 0x88) := by decide +kernel
    unfold readPriority
    simp only [hbit _ (isData_iff.1 hdata), isDataQos_iff]
  have hsame : mic = michaelMic key first ((first.drop off ++ rest.flatten).take dataLen) ↔ readPriority first = micTid first := by
    rw [(michaelMic_spec hmic).2, michaelMic_eq]
    exact ⟨michael_priority_injective, fun h => by rw [h]⟩
  rw [hsame, hread]
  unfold micTid qosCtl isQosA4
  cases (frameControl first).isDataQos <;> cases (frameControl first).hasA4 <;> simp

/-- A frame with three addresses, and one with four whose fourth address begins with the TID. -/
theorem stacks_agree_four_addresses : ∃ mic, Net80211.Michael.michaelMic (List.replicate 8 7)
    (0x88 :: 0x03 :: (List.replicate 22 1 ++ [5, 1, 1, 1, 1, 1] ++ [5, 0] ++ [1, 2, 3])) [[4, 5]] 32 5 = some mic ∧
      mic = michaelMic (List.replicate 8 7) (0x88 :: 0x03 :: (List.replicate 22 1 ++ [5, 1, 1, 1, 1, 1] ++ [5, 0] ++ [1, 2, 3]))
        [1, 2, 3, 4, 5] := by
  obtain ⟨mic, hmic⟩ := Option.isSome_iff_exists.mp (show (Net80211.Michael.michaelMic (List.replicate 8 7)
    (0x88 :: 0x03 :: (List.replicate 22 1 ++ [5, 1, 1, 1, 1, 1] ++ [5, 0] ++ [1, 2, 3])) [[4, 5]] 32 5).isSome = true by decide)
  exact ⟨mic, hmic, (stacks_agree_iff (by decide) hmic).2 (.inr (by decide))⟩

end Mac80211.Michael
