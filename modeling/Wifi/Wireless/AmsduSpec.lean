import Wifi.Wireless.Amsdu

/-!
# Deaggregation inverts aggregation

* `Msdu`, `aggregate` — a list of MSDUs, laid out as the subframes of an A-MSDU.
* `to8023` — the 802.3 frame of an MSDU.
* `Overruns` — a subframe that ends behind the data.
* `amsduTo8023s_inverts` — deaggregation gives the MSDUs back, except that an skb which is reused for
  the last frame keeps the padding behind it.
-/

namespace Wireless.Amsdu

/-! ## A-MSDUs -/

def be16 (n : Nat) : List Byte := [BitVec.ofNat 8 (n / 256), BitVec.ofNat 8 n]

/-- An MSDU that can be told from an LLC/SNAP header. -/
structure Msdu where
  da : List Byte
  sa : List Byte
  payload : List Byte
  da_len : da.length = ETH_ALEN
  sa_len : sa.length = ETH_ALEN
  da_ne : da ≠ rfc1042Header
  payload_ge : ETH_ALEN + 2 ≤ payload.length
  payload_lt : payload.length < 65536

namespace Msdu

def hdr (m : Msdu) : EthHdr := { hDest := m.da, hSource := m.sa, hProto := be16 m.payload.length }

def subframe (m : Msdu) : List Byte := m.hdr.bytes ++ m.payload

def pad (m : Msdu) : List Byte := List.replicate (amsduPadding (ETH_HLEN + m.payload.length)) 0

/-- **The 802.3 frame**: an LLC/SNAP header is replaced by its ethertype. -/
def to8023 (m : Msdu) : List Byte :=
  match getTunnelProto (m.payload.take (ETH_ALEN + 2)) with
  | some proto => m.da ++ (m.sa ++ proto) ++ m.payload.drop (ETH_ALEN + 2)
  | none => m.da ++ (m.sa ++ be16 m.payload.length) ++ m.payload

end Msdu

def padded (ms : List Msdu) : List Byte := ms.flatMap fun m => m.subframe ++ m.pad

def trailingPad (m : Msdu) (trailing : Bool) : List Byte := if trailing then m.pad else []

/-- **The layout of an A-MSDU**: `ms`, and `m` as the last one, with its padding or without. -/
def aggregate (ms : List Msdu) (m : Msdu) (trailing : Bool) : List Byte :=
  padded ms ++ (m.subframe ++ trailingPad m trailing)

/-- The length of the subframe at the start of the data, as its header gives it. -/
def subframeLen (a : AmsduArgs) (data : List Byte) : Nat :=
  let flags := if a.isMesh then data.getD ETH_HLEN 0 else a.stackFlags
  ETH_HLEN + (amsduSubframeLength ((data.drop (2 * ETH_ALEN)).take 2) flags a.meshControl).toNat

def hdrLen (a : AmsduArgs) : Nat := if a.isMesh then ETH_HLEN + 1 else ETH_HLEN

/-- **The lengths in the headers overrun the data.** -/
inductive Overruns (a : AmsduArgs) : List Byte → Prop where
  | header {data : List Byte} (h : data.length < hdrLen a) : Overruns a data
  | body {data : List Byte} (h : data.length < subframeLen a data) : Overruns a data
  | next {data : List Byte} (hfit : subframeLen a data + amsduPadding (subframeLen a data) < data.length)
      (h : Overruns a (data.drop (subframeLen a data + amsduPadding (subframeLen a data)))) :
      Overruns a data

/-! ## Headers -/

theorem amsduSubframeLength_be16 {n : Nat} (h : n < 65536) (flags : Byte) :
    (amsduSubframeLength (be16 n) flags 0).toNat = n := by
  have h2 : ¬ (0 : Byte) ≥ 2 := by decide
  have hlo : (BitVec.ofNat 8 n).toNat < 2 ^ 8 := BitVec.isLt _
  have hlen : amsduSubframeLength (be16 n) flags 0 =
      (BitVec.ofNat 8 (n / 256) ++ BitVec.ofNat 8 n : BitVec 16) := by
    unfold amsduSubframeLength
    rw [if_neg h2, if_neg (not_not.2 rfl)]
    rfl
  rw [hlen, BitVec.toNat_append, ← Nat.shiftLeft_add_eq_or_of_lt hlo, Nat.shiftLeft_eq,
    BitVec.toNat_ofNat, BitVec.toNat_ofNat]
  omega

namespace Msdu

theorem length_hdr (m : Msdu) : m.hdr.bytes.length = ETH_HLEN := by
  unfold EthHdr.bytes hdr
  rw [List.length_append, List.length_append, m.da_len, m.sa_len]
  rfl

theorem length_subframe (m : Msdu) : m.subframe.length = ETH_HLEN + m.payload.length := by
  unfold subframe
  rw [List.length_append, m.length_hdr]

theorem length_pad (m : Msdu) : m.pad.length = amsduPadding (ETH_HLEN + m.payload.length) :=
  List.length_replicate

theorem read_hdr (m : Msdu) : EthHdr.read m.hdr.bytes = m.hdr := by
  have hd : m.hdr.bytes = m.da ++ (m.sa ++ be16 m.payload.length) := rfl
  have hda : m.hdr.bytes.take ETH_ALEN = m.da := by rw [hd, ← m.da_len, List.take_left]
  have hrest : m.hdr.bytes.drop ETH_ALEN = m.sa ++ be16 m.payload.length := by
    rw [hd, ← m.da_len, List.drop_left]
  have hsa : (m.sa ++ be16 m.payload.length).take ETH_ALEN = m.sa := by
    rw [← m.sa_len, List.take_left]
  have hproto : m.hdr.bytes.drop (2 * ETH_ALEN) = be16 m.payload.length := by
    rw [Nat.two_mul, ← List.drop_drop, hrest, ← m.sa_len, List.drop_left]
  unfold EthHdr.read
  rw [hda, hrest, hsa, hproto]
  rfl

end Msdu

theorem amsduPadding_lt (n : Nat) : amsduPadding n < 4 := Nat.mod_lt _ (by decide)

section NonMesh

variable {a : AmsduArgs} {skb : SkBuff} {pre rest : List Byte} {m : Msdu}

theorem len_eq (hb : skb.bytes = pre ++ (m.subframe ++ rest)) :
    skb.len = pre.length + (ETH_HLEN + m.payload.length + rest.length) := by
  unfold SkBuff.len
  rw [hb, List.length_append, List.length_append, m.length_subframe]

theorem drop_eq (hb : skb.bytes = pre ++ (m.subframe ++ rest)) :
    skb.bytes.drop pre.length = m.hdr.bytes ++ (m.payload ++ rest) := by
  rw [hb, List.drop_left, Msdu.subframe, List.append_assoc]

theorem drop_payload (hb : skb.bytes = pre ++ (m.subframe ++ rest)) :
    skb.bytes.drop (pre.length + ETH_HLEN) = m.payload ++ rest := by
  rw [← List.drop_drop, drop_eq hb, ← m.length_hdr, List.drop_left]

/-- **The header of a subframe is read back.** -/
theorem amsduReadHdr_subframe (hmesh : a.isMesh = false) (hctl : a.meshControl = 0)
    (hb : skb.bytes = pre ++ (m.subframe ++ rest)) :
    amsduReadHdr a skb pre.length = some
      { eth := m.hdr
        meshLen := 0
        len := m.payload.length
        padding := m.pad.length
        last := decide (rest.length ≤ m.pad.length) } := by
  have hrem : skb.len - pre.length = ETH_HLEN + m.payload.length + rest.length := by
    rw [len_eq hb]
    omega
  have hhdr : (skb.bytes.drop pre.length).take ETH_HLEN = m.hdr.bytes := by
    rw [drop_eq hb, ← m.length_hdr, List.take_left]
  have hlen : (amsduSubframeLength m.hdr.hProto a.stackFlags 0).toNat = m.payload.length :=
    amsduSubframeLength_be16 m.payload_lt _
  have hfit : ¬ ETH_HLEN > ETH_HLEN + m.payload.length + rest.length := by omega
  have hfit' : ¬ ETH_HLEN + m.payload.length > ETH_HLEN + m.payload.length + rest.length := by omega
  have hda : ¬ m.hdr.hDest = rfc1042Header := m.da_ne
  have hlast : (ETH_HLEN + m.payload.length + rest.length ≤ ETH_HLEN + m.payload.length + m.pad.length)
      ↔ rest.length ≤ m.pad.length := by omega
  unfold amsduReadHdr
  simp only [hmesh, hctl, hrem, Bool.false_eq_true, if_false, hhdr, m.read_hdr, hlen, if_neg hfit,
    if_neg hfit', if_neg hda, ← m.length_pad, hlast]

/-- A subframe is valid, and the check goes on behind its padding. -/
theorem isValidFrom_subframe (hb : skb.bytes = pre ++ (m.subframe ++ rest)) (fuel : Nat) :
    isValidFrom skb 0 (fuel + 1) pre.length =
      isValidFrom skb 0 fuel (pre.length + (ETH_HLEN + m.payload.length + m.pad.length)) := by
  have hl := len_eq hb
  have h8 := m.payload_ge
  have he : ETH_HLEN = 14 := rfl
  have ha : ETH_ALEN = 6 := rfl
  have hlt : pre.length < skb.len := by omega
  have hrem : skb.len - pre.length = ETH_HLEN + m.payload.length + rest.length := by omega
  have hc : skb.copyBits (pre.length + 2 * ETH_ALEN) 4 =
      some (be16 m.payload.length ++ (m.payload ++ rest).take 2) := by
    have hdrop : skb.bytes.drop (pre.length + 2 * ETH_ALEN) =
        be16 m.payload.length ++ (m.payload ++ rest) := by
      have hd : m.hdr.bytes = m.da ++ m.sa ++ be16 m.payload.length := by
        unfold EthHdr.bytes Msdu.hdr
        rw [List.append_assoc]
      have h2 : 2 * ETH_ALEN = (m.da ++ m.sa).length := by
        rw [List.length_append, m.da_len, m.sa_len]
        omega
      rw [← List.drop_drop, drop_eq hb, hd, List.append_assoc, h2, List.drop_left]
    rw [SkBuff.copyBits_of_le (by omega), hdrop]
    rfl
  have htake : (be16 m.payload.length ++ (m.payload ++ rest).take 2).take 2 = be16 m.payload.length :=
    List.take_left' rfl
  have h4 : ¬ 4 > ETH_HLEN + m.payload.length + rest.length := by omega
  have hfit : ¬ ETH_HLEN + m.payload.length > ETH_HLEN + m.payload.length + rest.length := by omega
  conv_lhs => unfold isValidFrom
  simp only [if_pos hlt, hrem, if_neg h4, hc, htake, amsduSubframeLength_be16 m.payload_lt,
    if_neg hfit, ← m.length_pad]

end NonMesh

/-! ## Frames -/

theorem amsduCopyRest_flatten (frags : List (List Byte)) (len : Nat) :
    (amsduCopyRest frags len).flatten = frags.flatten.take len := by
  induction frags generalizing len with
  | nil => rw [amsduCopyRest, List.flatten_nil, List.take_nil]
  | cons frag frags ih =>
    unfold amsduCopyRest
    split
    · rw [List.flatten_cons, ih, List.flatten_cons, List.take_append]
      congr 1
      · rw [← List.take_take, List.take_length]
      · congr 1
        omega
    · have hlen : len = 0 := by omega
      rw [hlen, List.take_zero, List.flatten_nil]

/-- **The fragments hold the data from `offset` on.** -/
theorem amsduCopyFrag_flatten (frags : List (List Byte)) (offset len : Nat) :
    (amsduCopyFrag frags offset len).flatten = (frags.flatten.drop offset).take len := by
  induction frags generalizing offset with
  | nil => rw [amsduCopyFrag, List.flatten_nil, List.drop_nil, List.take_nil]
  | cons frag frags ih =>
    unfold amsduCopyFrag
    rw [List.flatten_cons, List.drop_append]
    split
    · rename_i hge
      rw [ih, List.drop_eq_nil_of_le hge, List.nil_append]
    · rename_i hlt
      have hz : offset - frag.length = 0 := by omega
      have hdl : (frag.drop offset).length = frag.length - offset := List.length_drop
      rw [List.flatten_cons, amsduCopyRest_flatten, hz, List.drop_zero, List.take_append, hdl]
      congr 1
      · rw [← hdl, ← List.take_take, List.take_length]
      · congr 1
        omega

/-- **A copied frame has the payload**, with enough of it in the linear part. -/
theorem amsduCopy_payload (skb : SkBuff) (offset : Nat) {len : Nat} {rf : Bool} (tailroom : List Byte)
    (hfit : offset + len ≤ skb.len) (hlen : ETH_ALEN + 2 ≤ len) (hrf : rf = true → skb.fragList = []) :
    ∃ (frame : SkBuff), amsduCopy (some tailroom) skb offset len rf 32 = some frame ∧
      frame.bytes = (skb.bytes.drop offset).take len ∧ ETH_ALEN + 2 ≤ frame.head.length := by
  have ha : ETH_ALEN = 6 := rfl
  have hno : ¬ skb.len - offset < len := by omega
  have hcur : ETH_ALEN + 2 ≤ (if rf then min len 32 else len) ∧
      (if rf then min len 32 else len) ≤ len := by
    split <;> omega
  have hall : ¬ rf = true → len - (if rf then min len 32 else len) = 0 := by
    intro h
    rw [if_neg h]
    omega
  unfold amsduCopy
  rw [if_neg hno]
  generalize (if rf then min len 32 else len) = curLen at hcur hall ⊢
  have hhead : ((skb.bytes.drop offset).take curLen).length = curLen := by
    unfold SkBuff.len at hfit
    rw [List.length_take, List.length_drop]
    omega
  refine ⟨_, rfl, ?_⟩
  dsimp only
  split
  · rename_i hz
    have he : curLen = len := by omega
    refine ⟨?_, by rw [hhead]; omega⟩
    rw [← he]
    exact List.append_nil _
  · rename_i hz
    have hnil := hrf (Decidable.of_not_not fun h => hz (hall h))
    have hsegs : (skb.head :: skb.frags).flatten = skb.bytes := by
      unfold SkBuff.bytes
      rw [List.flatten_cons, hnil, List.flatten_nil, List.append_nil]
    refine ⟨?_, by rw [hhead]; omega⟩
    show _ ++ ((amsduCopyFrag _ _ _).flatten ++ []) = _
    have hsplit : len = curLen + (len - curLen) := by omega
    conv_rhs => rw [hsplit, List.take_add, List.drop_drop]
    rw [amsduCopyFrag_flatten, hsegs, List.append_nil]

theorem amsduCopy_none {skb : SkBuff} {offset len minLen : Nat} {rf : Bool} :
    amsduCopy none skb offset len rf minLen = none := by
  unfold amsduCopy
  split <;> rfl

/-- The 802.3 header of a frame that has more behind the MSDU. -/
theorem amsduFinish_bytes {a : AmsduArgs} (skb : SkBuff) {frame : SkBuff} {m : Msdu} {extra : List Byte}
    (hmesh : a.isMesh = false) (hb : frame.bytes = m.payload ++ extra)
    (hh : ETH_ALEN + 2 ≤ frame.head.length) :
    (amsduFinish a skb m.hdr frame).bytes = m.to8023 ++ extra := by
  have hpeek : SkBuff.peek { frame with dev := skb.dev, priority := skb.priority } (ETH_ALEN + 2) =
      m.payload.take (ETH_ALEN + 2) := by
    have hp : SkBuff.peek { frame with dev := skb.dev, priority := skb.priority } (ETH_ALEN + 2) =
        frame.bytes.take (ETH_ALEN + 2) := SkBuff.peek_eq hh
    rw [hp, hb, List.take_append_of_le_length m.payload_ge]
  unfold amsduFinish Msdu.to8023
  dsimp only
  rw [hmesh, if_neg Bool.false_ne_true, hpeek]
  cases getTunnelProto (m.payload.take (ETH_ALEN + 2)) with
  | some proto =>
    have hp : (SkBuff.pull { frame with dev := skb.dev, priority := skb.priority }
        (ETH_ALEN + 2)).bytes = frame.bytes.drop (ETH_ALEN + 2) :=
      SkBuff.bytes_pull hh
    dsimp only
    rw [SkBuff.bytes_push, hp, hb, List.drop_append_of_le_length m.payload_ge, List.append_assoc]
    rfl
  | none =>
    dsimp only
    rw [SkBuff.bytes_push, List.append_assoc, ← hb]
    rfl

/-! ## Runs of the loop -/

/-- The parameters for an interface that is no mesh point, when no address is checked. -/
structure NonMesh (a : AmsduArgs) : Prop where
  isMesh : a.isMesh = false
  meshControl : a.meshControl = 0
  checkDa : a.checkDa = none
  checkSa : a.checkSa = none

section Loop

variable {a : AmsduArgs} {alloc : Nat → Option (List Byte)} {skb : SkBuff} {pre rest : List Byte}
  {m : Msdu}

theorem amsduFiltered_none (ha : NonMesh a) (eth : EthHdr) : amsduFiltered a eth = false := by
  unfold amsduFiltered
  rw [ha.checkDa, ha.checkSa]
  rfl

theorem reuseFrag_fragList (h : reuseFrag skb = true) : skb.fragList = [] := by
  unfold reuseFrag SkBuff.hasFragList at h
  rw [Bool.and_eq_true, Bool.not_eq_true', decide_eq_false_iff_not, not_not] at h
  exact h.2

theorem amsduCopy_subframe (ha : NonMesh a) (hb : skb.bytes = pre ++ (m.subframe ++ rest))
    (tailroom : List Byte) :
    ∃ (frame : SkBuff), amsduCopy (some tailroom) skb (pre.length + ETH_HLEN) m.payload.length
        (reuseFrag skb) (32 + 0) = some frame ∧
      (amsduFinish a skb m.hdr frame).bytes = m.to8023 := by
  have hl := len_eq hb
  obtain ⟨frame, hf, hbytes, hh⟩ := amsduCopy_payload skb (pre.length + ETH_HLEN) tailroom
    (by omega) m.payload_ge reuseFrag_fragList
  rw [drop_payload hb, List.take_left] at hbytes
  refine ⟨frame, hf, ?_⟩
  have hfin := amsduFinish_bytes (a := a) skb ha.isMesh
    (by rw [hbytes, List.append_nil]) hh
  rwa [List.append_nil] at hfin

theorem amsduLoop_next (ha : NonMesh a) (hb : skb.bytes = pre ++ (m.subframe ++ (m.pad ++ rest)))
    (hrest : rest ≠ []) (list : List SkBuff) :
    (∀ (tailroom : List Byte), alloc list.length = some tailroom →
      ∃ (frame : SkBuff), frame.bytes = m.to8023 ∧ ∀ (fuel : Nat),
        amsduLoop a alloc skb (fuel + 1) pre.length list =
          amsduLoop a alloc skb fuel (pre ++ (m.subframe ++ m.pad)).length (list ++ [frame])) ∧
    (alloc list.length = none → ∀ (fuel : Nat),
      amsduLoop a alloc skb (fuel + 1) pre.length list = some ([], false)) := by
  have hhdr := amsduReadHdr_subframe ha.isMesh ha.meshControl hb
  have hpos := List.length_pos_iff.2 hrest
  have hlast : decide ((m.pad ++ rest).length ≤ m.pad.length) = false := by
    rw [decide_eq_false_iff_not, List.length_append]
    omega
  rw [hlast] at hhdr
  have hnext : pre.length + ETH_HLEN + (m.payload.length + m.pad.length) =
      (pre ++ (m.subframe ++ m.pad)).length := by
    rw [List.length_append, List.length_append, m.length_subframe]
    omega
  have hno : ¬ (reusesSkb skb = true ∧ false = true) := fun h => nomatch h.2
  constructor
  · intro tailroom ht
    obtain ⟨frame, hf, hfb⟩ := amsduCopy_subframe ha hb tailroom
    refine ⟨_, hfb, ?_⟩
    intro fuel
    conv_lhs => unfold amsduLoop
    rw [hhdr]
    dsimp only
    rw [amsduFiltered_none ha, if_neg Bool.false_ne_true, if_neg hno, ht, hf]
    dsimp only
    rw [if_neg Bool.false_ne_true, hnext]
  · intro ht fuel
    unfold amsduLoop
    rw [hhdr]
    dsimp only
    rw [amsduFiltered_none ha, if_neg Bool.false_ne_true, if_neg hno, ht, amsduCopy_none]

theorem amsduLoop_last (ha : NonMesh a) {trailing : Bool}
    (hb : skb.bytes = pre ++ (m.subframe ++ trailingPad m trailing)) (list : List SkBuff) (fuel : Nat) :
    (reusesSkb skb = true → ∃ (frame : SkBuff), frame.bytes = m.to8023 ++ trailingPad m trailing ∧
      amsduLoop a alloc skb (fuel + 1) pre.length list = some (list ++ [frame], true)) ∧
    (reusesSkb skb = false → ∀ (tailroom : List Byte), alloc list.length = some tailroom →
      ∃ (frame : SkBuff), frame.bytes = m.to8023 ∧
        amsduLoop a alloc skb (fuel + 1) pre.length list = some (list ++ [frame], false)) ∧
    (reusesSkb skb = false → alloc list.length = none →
      amsduLoop a alloc skb (fuel + 1) pre.length list = some ([], false)) := by
  have hhdr := amsduReadHdr_subframe ha.isMesh ha.meshControl hb
  have hlast : decide ((trailingPad m trailing).length ≤ m.pad.length) = true := by
    rw [decide_eq_true_iff]
    unfold trailingPad
    split
    · exact Nat.le_refl _
    · exact Nat.zero_le _
  rw [hlast] at hhdr
  refine ⟨?_, ?_, ?_⟩
  · intro hr
    have hlin : skb.isNonlinear = false := by
      unfold reusesSkb at hr
      rw [Bool.and_eq_true, Bool.not_eq_true'] at hr
      exact hr.1
    have hl := len_eq hb
    have h8 := m.payload_ge
    have hhead : skb.head.length = skb.len := by
      unfold SkBuff.len
      rw [SkBuff.bytes_of_linear hlin]
    have hp : (skb.pull (pre.length + ETH_HLEN)).bytes = m.payload ++ trailingPad m trailing := by
      rw [SkBuff.bytes_pull (by omega), drop_payload hb]
    have hh : ETH_ALEN + 2 ≤ (skb.pull (pre.length + ETH_HLEN)).head.length := by
      unfold SkBuff.pull
      rw [if_neg (by omega)]
      dsimp only
      rw [List.length_drop]
      omega
    refine ⟨_, amsduFinish_bytes skb ha.isMesh hp hh, ?_⟩
    unfold amsduLoop
    rw [hhdr]
    dsimp only
    rw [amsduFiltered_none ha, if_neg Bool.false_ne_true, if_pos ⟨hr, rfl⟩]
  · intro hr tailroom ht
    have hno : ¬ (reusesSkb skb = true ∧ true = true) := fun h => Bool.false_ne_true (hr ▸ h.1)
    obtain ⟨frame, hf, hfb⟩ := amsduCopy_subframe ha hb tailroom
    refine ⟨_, hfb, ?_⟩
    unfold amsduLoop
    rw [hhdr]
    dsimp only
    rw [amsduFiltered_none ha, if_neg Bool.false_ne_true, if_neg hno, ht, hf]
    rfl
  · intro hr ht
    have hno : ¬ (reusesSkb skb = true ∧ true = true) := fun h => Bool.false_ne_true (hr ▸ h.1)
    unfold amsduLoop
    rw [hhdr]
    dsimp only
    rw [amsduFiltered_none ha, if_neg Bool.false_ne_true, if_neg hno, ht, amsduCopy_none]

theorem padded_cons (m : Msdu) (ms : List Msdu) :
    padded (m :: ms) = m.subframe ++ m.pad ++ padded ms := List.flatMap_cons

/-- **The iterations before the last one**, by induction on the subframes. -/
theorem amsduLoop_padded (ha : NonMesh a) (hrest : rest ≠ []) (ms : List Msdu) :
    ∀ (pre : List Byte) (list : List SkBuff), skb.bytes = pre ++ (padded ms ++ rest) →
    ((∀ i < ms.length, (alloc (list.length + i)).isSome) →
      ∃ (frames : List SkBuff), frames.map SkBuff.bytes = ms.map Msdu.to8023 ∧ ∀ (fuel : Nat),
        amsduLoop a alloc skb (ms.length + fuel) pre.length list =
          amsduLoop a alloc skb fuel (pre ++ padded ms).length (list ++ frames)) ∧
    (∀ i < ms.length, alloc (list.length + i) = none → ∀ (fuel : Nat),
      amsduLoop a alloc skb (ms.length + fuel) pre.length list = some ([], false)) := by
  induction ms with
  | nil =>
    intro pre list _
    refine ⟨fun _ => ⟨[], rfl, fun fuel => ?_⟩, fun i hi => absurd hi (Nat.not_lt_zero i)⟩
    rw [List.length_nil, Nat.zero_add, List.append_nil]
    show _ = amsduLoop a alloc skb fuel (pre ++ []).length list
    rw [List.append_nil]
  | cons m ms ih =>
    intro pre list hb
    have hb' : skb.bytes = pre ++ (m.subframe ++ (m.pad ++ (padded ms ++ rest))) := by
      rw [hb, padded_cons]
      simp only [List.append_assoc]
    have hbn : skb.bytes = pre ++ (m.subframe ++ m.pad) ++ (padded ms ++ rest) := by
      rw [hb']
      simp only [List.append_assoc]
    have hne : padded ms ++ rest ≠ [] := fun h => hrest (List.append_eq_nil_iff.1 h).2
    have hfuel : ∀ (fuel : Nat), (m :: ms).length + fuel = ms.length + fuel + 1 := by
      intro fuel
      rw [List.length_cons]
      omega
    obtain ⟨hok, hnone⟩ := amsduLoop_next ha hb' hne list
    cases ht : alloc list.length with
    | none =>
      refine ⟨fun hall => ?_, fun i hi _ fuel => ?_⟩
      · have h0 := hall 0 (Nat.zero_lt_succ _)
        rw [Nat.add_zero, ht] at h0
        cases h0
      · rw [hfuel]
        exact hnone ht _
    | some tailroom =>
      obtain ⟨frame, hframe, hstep⟩ := hok tailroom ht
      obtain ⟨ihok, ihnone⟩ := ih _ (list ++ [frame]) hbn
      rw [List.length_append, List.length_singleton] at ihok ihnone
      constructor
      · intro hall
        have hall' : ∀ i < ms.length, (alloc (list.length + 1 + i)).isSome := by
          intro i hi
          have hs := hall (i + 1) (Nat.succ_lt_succ hi)
          rwa [Nat.add_assoc, Nat.add_comm 1]
        obtain ⟨frames, hmap, hrun⟩ := ihok hall'
        refine ⟨frame :: frames, ?_, ?_⟩
        · rw [List.map_cons, List.map_cons, hframe, hmap]
        · intro fuel
          rw [hfuel, hstep, hrun, padded_cons, List.append_assoc list, List.append_assoc pre]
          rfl
      · intro i hi hi0 fuel
        rw [hfuel, hstep]
        cases i with
        | zero =>
          rw [Nat.add_zero, ht] at hi0
          cases hi0
        | succ j =>
          refine ihnone j (Nat.lt_of_succ_lt_succ hi) ?_ fuel
          rwa [Nat.add_assoc, Nat.add_comm 1]

end Loop

/-! ## Data that overruns -/

theorem amsduReadHdr_some {a : AmsduArgs} {skb : SkBuff} {offset : Nat} {sf : Subframe}
    (h : amsduReadHdr a skb offset = some sf) :
    hdrLen a ≤ skb.len - offset ∧ ETH_HLEN + sf.len = subframeLen a (skb.bytes.drop offset) ∧
      ETH_HLEN + sf.len ≤ skb.len - offset ∧ sf.padding = amsduPadding (ETH_HLEN + sf.len) ∧
      sf.last = decide (skb.len - offset ≤ ETH_HLEN + sf.len + sf.padding) := by
  have hproto : (EthHdr.read ((skb.bytes.drop offset).take (hdrLen a))).hProto =
      ((skb.bytes.drop offset).drop (2 * ETH_ALEN)).take 2 := by
    unfold EthHdr.read hdrLen
    dsimp only
    rw [List.drop_take, List.take_take]
    congr 1
    split <;> rfl
  have hflags : (if a.isMesh then ((skb.bytes.drop offset).take (hdrLen a)).getD ETH_HLEN 0
      else a.stackFlags) = if a.isMesh then (skb.bytes.drop offset).getD ETH_HLEN 0
      else a.stackFlags := by
    unfold hdrLen
    split
    · rw [List.getD_eq_getElem?_getD, List.getD_eq_getElem?_getD, List.getElem?_take]
      rfl
    · rfl
  have hcopy : (if a.isMesh then ETH_HLEN + 1 else ETH_HLEN) = hdrLen a := rfl
  unfold amsduReadHdr at h
  dsimp only at h
  rw [hcopy, hflags, hproto] at h
  unfold subframeLen
  dsimp only
  generalize (if a.isMesh then (skb.bytes.drop offset).getD ETH_HLEN 0 else a.stackFlags) = flags
    at h ⊢
  split at h
  · cases h
  · rename_i hhdr
    split at h
    · cases h
    · rename_i hfit
      split at h
      · cases h
      · cases h
        exact ⟨Nat.not_lt.1 hhdr, rfl, Nat.not_lt.1 hfit, rfl, rfl⟩

/-- **No frame is left when a length overruns the data.** -/
theorem amsduLoop_overruns {a : AmsduArgs} (alloc : Nat → Option (List Byte)) {skb : SkBuff}
    {data : List Byte} (hov : Overruns a data) :
    ∀ (fuel offset : Nat) (list : List SkBuff), skb.bytes.drop offset = data → data.length < fuel →
      amsduLoop a alloc skb fuel offset list = some ([], false) := by
  induction hov with
  | @header data h =>
    intro fuel offset list hd hfuel
    obtain ⟨fuel, rfl⟩ := Nat.exists_eq_succ_of_ne_zero (Nat.ne_of_gt (Nat.zero_lt_of_lt hfuel))
    have hlen : skb.len - offset = data.length := by rw [← hd, List.length_drop]; rfl
    unfold amsduLoop
    cases hr : amsduReadHdr a skb offset with
    | none => rfl
    | some sf =>
      have hs := amsduReadHdr_some hr
      omega
  | @body data h =>
    intro fuel offset list hd hfuel
    obtain ⟨fuel, rfl⟩ := Nat.exists_eq_succ_of_ne_zero (Nat.ne_of_gt (Nat.zero_lt_of_lt hfuel))
    have hlen : skb.len - offset = data.length := by rw [← hd, List.length_drop]; rfl
    unfold amsduLoop
    cases hr : amsduReadHdr a skb offset with
    | none => rfl
    | some sf =>
      obtain ⟨_, hsub, hle, _⟩ := amsduReadHdr_some hr
      rw [hd] at hsub
      omega
  | @next data hfit _ ih =>
    intro fuel offset list hd hfuel
    obtain ⟨fuel, rfl⟩ := Nat.exists_eq_succ_of_ne_zero (Nat.ne_of_gt (Nat.zero_lt_of_lt hfuel))
    have hlen : skb.len - offset = data.length := by rw [← hd, List.length_drop]; rfl
    unfold amsduLoop
    cases hr : amsduReadHdr a skb offset with
    | none => rfl
    | some sf =>
      obtain ⟨_, hsub, _, hpad, hlast⟩ := amsduReadHdr_some hr
      rw [hd] at hsub
      rw [← hsub] at hfit ih
      rw [← hpad] at hfit ih
      have hno : sf.last = false := by
        rw [hlast, decide_eq_false_iff_not]
        omega
      have hrec : ∀ (list : List SkBuff), amsduLoop a alloc skb fuel
          (offset + ETH_HLEN + (sf.len + sf.padding)) list = some ([], false) := by
        intro list
        refine ih fuel _ list ?_ ?_
        · rw [← hd, List.drop_drop]
          congr 1
          omega
        · rw [List.length_drop]
          have he : ETH_HLEN = 14 := rfl
          omega
      have hno' : ¬ (reusesSkb skb = true ∧ sf.last = true) := fun h => nomatch hno ▸ h.2
      dsimp only
      rw [if_neg hno', hno]
      split
      · exact hrec _
      · split
        · rfl
        · exact hrec _

/-! ## Deaggregation -/

theorem length_le_padded (ms : List Msdu) : ms.length ≤ (padded ms).length := by
  induction ms with
  | nil => exact Nat.zero_le _
  | cons m ms ih =>
    have he : ETH_HLEN = 14 := rfl
    rw [padded_cons, List.length_append, List.length_append, m.length_subframe, List.length_cons]
    omega

theorem isValidFrom_padded {skb : SkBuff} {rest : List Byte} (ms : List Msdu) :
    ∀ (pre : List Byte), skb.bytes = pre ++ (padded ms ++ rest) → ∀ (fuel : Nat),
      isValidFrom skb 0 (ms.length + fuel) pre.length =
        isValidFrom skb 0 fuel (pre ++ padded ms).length := by
  induction ms with
  | nil =>
    intro pre _ fuel
    rw [List.length_nil, Nat.zero_add]
    show _ = isValidFrom skb 0 fuel (pre ++ []).length
    rw [List.append_nil]
  | cons m ms ih =>
    intro pre hb fuel
    have hb' : skb.bytes = pre ++ (m.subframe ++ (m.pad ++ (padded ms ++ rest))) := by
      rw [hb, padded_cons]
      simp only [List.append_assoc]
    have hbn : skb.bytes = pre ++ (m.subframe ++ m.pad) ++ (padded ms ++ rest) := by
      rw [hb']
      simp only [List.append_assoc]
    have hfuel : (m :: ms).length + fuel = ms.length + fuel + 1 := by
      rw [List.length_cons]
      omega
    have hnext : pre.length + (ETH_HLEN + m.payload.length + m.pad.length) =
        (pre ++ (m.subframe ++ m.pad)).length := by
      rw [List.length_append, List.length_append, m.length_subframe]
    rw [hfuel, isValidFrom_subframe hb', hnext, ih _ hbn, padded_cons, List.append_assoc pre]

/-- **The layout is valid** when nothing follows the last MSDU. -/
theorem isValidAmsdu_aggregate {skb : SkBuff} {ms : List Msdu} {m : Msdu}
    (hb : skb.bytes = aggregate ms m false) : isValidAmsdu skb 0 = some true := by
  have hb' : skb.bytes = padded ms ++ (m.subframe ++ []) := hb
  have hpad := length_le_padded ms
  have hl := len_eq hb'
  have he : ETH_HLEN = 14 := rfl
  obtain ⟨fuel, hfuel⟩ : ∃ (fuel : Nat), skb.len + 1 = ms.length + (fuel + 1 + 1) :=
    ⟨skb.len - ms.length - 1, by omega⟩
  have hend : ¬ (padded ms).length + (ETH_HLEN + m.payload.length + m.pad.length) < skb.len := by
    rw [hl, List.length_nil]
    omega
  have hrun := isValidFrom_padded ms [] hb' (fuel + 1 + 1)
  rw [List.nil_append] at hrun
  unfold isValidAmsdu
  rw [hfuel]
  refine hrun.trans ?_
  rw [isValidFrom_subframe hb']
  unfold isValidFrom
  exact if_neg hend

/-- Every allocation succeeds, and nothing follows the last MSDU of an skb that becomes the last
    frame. -/
def Undisturbed (alloc : Nat → Option (List Byte)) (skb : SkBuff) (ms : List Msdu) (m : Msdu)
    (trailing : Bool) : Prop :=
  (∀ i < ms.length, (alloc i).isSome) ∧
    if reusesSkb skb then trailingPad m trailing = [] else (alloc ms.length).isSome

/-- The frames are those of the MSDUs, in order. -/
def Restores (r : Option (List SkBuff × Bool)) (ms : List Msdu) : Prop :=
  ∃ (frames : List SkBuff) (reused : Bool), r = some (frames, reused) ∧
    frames.map SkBuff.bytes = ms.map Msdu.to8023

/-- **Exactly when the MSDUs are restored.** -/
theorem amsduTo8023s_restores {a : AmsduArgs} (ha : NonMesh a) (alloc : Nat → Option (List Byte))
    {skb : SkBuff} {ms : List Msdu} {m : Msdu} {trailing : Bool}
    (hb : skb.bytes = aggregate ms m trailing) :
    Restores (amsduTo8023s a alloc skb) (ms ++ [m]) ↔ Undisturbed alloc skb ms m trailing := by
  have hpad := length_le_padded ms
  have hl := len_eq hb
  obtain ⟨fuel, hfuel⟩ : ∃ (fuel : Nat), skb.len + 1 = ms.length + (fuel + 1) :=
    ⟨skb.len - ms.length, by omega⟩
  have hne : m.subframe ++ trailingPad m trailing ≠ [] := by
    intro h
    have hz := congrArg List.length (List.append_eq_nil_iff.1 h).1
    rw [m.length_subframe, List.length_nil] at hz
    have he : ETH_HLEN = 14 := rfl
    omega
  have hempty : ¬ Restores (some ([], false)) (ms ++ [m]) := by
    rintro ⟨frames, reused, hr, hmap⟩
    cases hr
    rw [List.map_append, List.map_nil] at hmap
    exact List.append_ne_nil_of_right_ne_nil _ (List.cons_ne_nil _ _) hmap.symm
  obtain ⟨hok, hnone⟩ := amsduLoop_padded ha hne ms [] [] hb
  simp only [List.length_nil, Nat.zero_add, List.nil_append] at hok hnone
  unfold amsduTo8023s
  rw [hfuel]
  by_cases hall : ∀ i < ms.length, (alloc i).isSome
  · obtain ⟨frames, hmap, hrun⟩ := hok hall
    have hlen : frames.length = ms.length := by
      have hc := congrArg List.length hmap
      rwa [List.length_map, List.length_map] at hc
    obtain ⟨hreuse, hcopy, hfail⟩ := amsduLoop_last ha hb frames fuel
    rw [hlen] at hcopy hfail
    rw [hrun]
    unfold Undisturbed
    cases hr : reusesSkb skb with
    | true =>
      obtain ⟨frame, hframe, hlast⟩ := hreuse hr
      rw [hlast, if_pos rfl]
      constructor
      · rintro ⟨frames', reused, he, hmap'⟩
        cases he
        rw [List.map_append, List.map_append, hmap, List.append_cancel_left_eq, List.map_singleton,
          List.map_singleton, hframe, List.cons.injEq] at hmap'
        exact ⟨hall, List.append_right_eq_self.1 hmap'.1⟩
      · intro hu
        refine ⟨_, _, rfl, ?_⟩
        rw [List.map_append, List.map_append, hmap, List.map_singleton, hframe, hu.2,
          List.append_nil]
        rfl
    | false =>
      rw [if_neg Bool.false_ne_true]
      cases ht : alloc ms.length with
      | none =>
        rw [hfail hr ht]
        exact iff_of_false hempty fun hu => nomatch hu.2
      | some tailroom =>
        obtain ⟨frame, hframe, hlast⟩ := hcopy hr tailroom ht
        rw [hlast]
        refine iff_of_true ⟨_, _, rfl, ?_⟩ ⟨hall, rfl⟩
        rw [List.map_append, List.map_append, hmap, List.map_singleton, hframe]
        rfl
  · simp only [not_forall] at hall
    obtain ⟨i, hi, hi0⟩ := hall
    rw [Option.isSome_iff_ne_none, not_not] at hi0
    rw [hnone i hi hi0]
    refine iff_of_false hempty fun hu => ?_
    have hs := hu.1 i hi
    rw [hi0] at hs
    cases hs

/-- **Deaggregation inverts aggregation**, exactly when no allocation fails and no padding stays behind
    the last frame; data that overruns gives no frame. -/
theorem amsduTo8023s_inverts {a : AmsduArgs} (ha : NonMesh a) (alloc : Nat → Option (List Byte))
    (skb : AmsduSkb) :
    (∀ (ms : List Msdu) (m : Msdu), skb.bytes = aggregate ms m false →
      isValidAmsdu skb.toSkBuff 0 = some true) ∧
    (∀ (ms : List Msdu) (m : Msdu) (trailing : Bool), skb.bytes = aggregate ms m trailing →
      (Restores (amsduTo8023s a alloc skb.toSkBuff) (ms ++ [m]) ↔
        Undisturbed alloc skb.toSkBuff ms m trailing)) ∧
    (Overruns a skb.bytes → amsduTo8023s a alloc skb.toSkBuff = some ([], false)) := by
  refine ⟨fun _ _ hb => isValidAmsdu_aggregate hb, fun _ _ _ hb => amsduTo8023s_restores ha alloc hb, ?_⟩
  intro hov
  exact amsduLoop_overruns alloc hov _ 0 [] List.drop_zero (Nat.lt_succ_self _)

/-- A station, and a driver that leaves deaggregation to the stack. -/
def stationArgs : AmsduArgs :=
  { isMesh := false
    checkDa := none
    checkSa := none
    meshControl := 0
    stackFlags := 0 }

theorem stationArgs_nonMesh : NonMesh stationArgs := ⟨rfl, rfl, rfl, rfl⟩

/-- An MSDU of eight bytes: its subframe is padded with two. -/
def shortMsdu : Msdu :=
  { da := [2, 0, 0, 0, 0, 1]
    sa := [2, 0, 0, 0, 0, 2]
    payload := [0xaa, 0xaa, 0x03, 0x00, 0x00, 0x00, 0x08, 0x06]
    da_len := rfl
    sa_len := rfl
    da_ne := by decide
    payload_ge := by decide
    payload_lt := by decide }

/-- A linear skb with a head that is not a page fragment. -/
def linearSkb (data : List Byte) : SkBuff :=
  { head := data
    tailroom := []
    frags := []
    fragList := []
    headFrag := false
    dev := 0
    priority := 0 }

/-- Two MSDUs without padding behind the second, and a subframe that is cut off. -/
theorem amsduTo8023s_two :
    (isValidAmsdu (linearSkb (aggregate [shortMsdu] shortMsdu false)) 0 = some true ∧
      Restores (amsduTo8023s stationArgs (fun _ => some [])
        (linearSkb (aggregate [shortMsdu] shortMsdu false))) [shortMsdu, shortMsdu]) ∧
    amsduTo8023s stationArgs (fun _ => some []) (linearSkb shortMsdu.hdr.bytes) =
      some ([], false) := by
  let skb : AmsduSkb :=
    { linearSkb (aggregate [shortMsdu] shortMsdu false) with len_lt := by decide }
  let cut : AmsduSkb := { linearSkb shortMsdu.hdr.bytes with len_lt := by decide }
  obtain ⟨hvalid, hback, _⟩ := amsduTo8023s_inverts stationArgs_nonMesh (fun _ => some []) skb
  obtain ⟨_, _, hcut⟩ := amsduTo8023s_inverts stationArgs_nonMesh (fun _ => some []) cut
  have hskb : skb.bytes = aggregate [shortMsdu] shortMsdu false := by decide
  refine ⟨⟨hvalid _ _ hskb, (hback _ _ false hskb).2 ⟨fun _ _ => rfl, ?_⟩⟩, ?_⟩
  · have hr : reusesSkb skb.toSkBuff = true := rfl
    rw [hr]
    rfl
  · exact hcut (.body (by decide))

/-- **The skb that is reused keeps the padding**: a frame of 14 bytes gets two more. -/
theorem amsduTo8023s_keeps_padding :
    (linearSkb (aggregate [] shortMsdu true)).bytes = aggregate [] shortMsdu true ∧
      NonMesh stationArgs ∧
      (amsduTo8023s stationArgs (fun _ => some []) (linearSkb (aggregate [] shortMsdu true))).map
        (fun r => r.1.map SkBuff.bytes) = some [shortMsdu.to8023 ++ [0, 0]] ∧
      ¬ Restores (amsduTo8023s stationArgs (fun _ => some [])
        (linearSkb (aggregate [] shortMsdu true))) [shortMsdu] := by
  have hb : (linearSkb (aggregate [] shortMsdu true)).bytes = aggregate [] shortMsdu true := by decide
  refine ⟨hb, stationArgs_nonMesh, by decide, ?_⟩
  intro hr
  have hu := (amsduTo8023s_restores stationArgs_nonMesh (fun _ => some []) hb).1 hr
  exact absurd hu.2 (by decide)

end Wireless.Amsdu
