import Mathlib.Tactic.SplitIfs
import Wifi.Linux.Elements

/-!
# The TIM element of a beacon (`linux/net/mac80211/tx.c`, `sta_info.c`)

* `TrafficMap` — the traffic bitmap, with `bssTimSet`, `bssTimClear`, `bssTimGet`; `Arch.bitmapEmpty` — `bitmap_empty`, in words.
* `ieee80211BeaconAddTim` — `__ieee80211_beacon_add_tim`: the element, and the new DTIM count.
* `timBit` — what a station reads; `TimRight` — what should hold of the element, and of the count over all beacons.
* `timRight_iff` — it does, but for bytes that `bitmap_empty` does not look at on big-endian machines.
-/

namespace Mac80211.TimElement

/-! ## The traffic bitmap -/

def IEEE80211_MAX_AID : Nat := 2007

/-- The bytes of the bits up to `IEEE80211_MAX_AID`. -/
def IEEE80211_MAX_TIM_LEN : Nat := 251

def WLAN_EID_TIM : Byte := 5

/-- **`ps->tim`**: the bytes that only fill the last word are never written. -/
structure TrafficMap where
  byte : Nat → Byte
  byte_zero : ∀ i, IEEE80211_MAX_TIM_LEN ≤ i → byte i = 0

def TrafficMap.setByte (tim : TrafficMap) (id : Nat) (hid : id ≤ IEEE80211_MAX_AID) (v : Byte) : TrafficMap where
  byte := Function.update tim.byte (id / 8) v
  byte_zero i hi := by
    have hne : i ≠ id / 8 := by
      unfold IEEE80211_MAX_TIM_LEN at hi
      unfold IEEE80211_MAX_AID at hid
      omega
    rw [Function.update_of_ne hne]
    exact tim.byte_zero i hi

def bssTimSet (tim : TrafficMap) (id : Nat) (hid : id ≤ IEEE80211_MAX_AID) : TrafficMap :=
  tim.setByte id hid (tim.byte (id / 8) ||| ((1 : Byte) <<< (id % 8)))

def bssTimClear (tim : TrafficMap) (id : Nat) (hid : id ≤ IEEE80211_MAX_AID) : TrafficMap :=
  tim.setByte id hid (tim.byte (id / 8) &&& ~~~((1 : Byte) <<< (id % 8)))

def bssTimGet (tim : TrafficMap) (id : Nat) : Bool := (tim.byte (id / 8)).getLsbD (id % 8)

/-- How an `unsigned long` is laid out. -/
structure Arch where
  bigEndian : Bool
  /-- `sizeof(unsigned long)` -/
  longBytes : Nat
  longBytes_eq : longBytes = 4 ∨ longBytes = 8

/-- `test_bit`, of a bitmap that is an array of `unsigned long`. -/
def Arch.testBit (arch : Arch) (bytes : Nat → Byte) (nr : Nat) : Bool :=
  let bit := nr % (8 * arch.longBytes)
  let byte := if arch.bigEndian then arch.longBytes - 1 - bit / 8 else bit / 8
  (bytes (nr / (8 * arch.longBytes) * arch.longBytes + byte)).getLsbD (bit % 8)

/-- **`bitmap_empty`** -/
def Arch.bitmapEmpty (arch : Arch) (bytes : Nat → Byte) (nbits : Nat) : Bool :=
  (List.range nbits).all fun nr => arch.testBit bytes nr = false

/-! ## The element -/

/-- **`struct ps_data`**, with whether `bc_buf` has frames. -/
structure PsData where
  tim : TrafficMap
  bcBuf : Bool
  numStaPs : Int
  dtimCount : BitVec 32
  dtimBcMc : Bool

/-- What the element needs of the link: `dtim_period`, and whether the band is `NL80211_BAND_S1GHZ`. -/
structure LinkConf where
  dtimPeriod : Byte
  s1ghz : Bool

/-- The first scan, from `i` on, with `k` bytes to go. -/
def n1Loop (tim : TrafficMap) : Nat → Nat → Nat
  | 0, _ => 0
  | k + 1, i => if tim.byte i ≠ 0 then i &&& 0xfe else n1Loop tim k (i + 1)

/-- The second scan, from the byte before `i` down. -/
def n2Loop (tim : TrafficMap) (n1 : Nat) : Nat → Nat
  | 0 => n1
  | i + 1 => if i < n1 then n1 else if tim.byte i ≠ 0 then i else n2Loop tim n1 i

/-- The new `ps->dtim_count`. -/
def nextDtimCount (link : LinkConf) (ps : PsData) (isTemplate : Bool) : BitVec 32 :=
  if isTemplate then ps.dtimCount
  else if ps.dtimCount = 0 then link.dtimPeriod.setWidth 32 - 1
  else ps.dtimCount - 1

variable (arch : Arch)

/-- **`__ieee80211_beacon_add_tim`**: what it appends to the beacon. -/
def ieee80211BeaconAddTim (link : LinkConf) (ps : PsData) (isTemplate : Bool) : PsData × List Byte :=
  let haveBits := decide (ps.numStaPs > 0) && !arch.bitmapEmpty ps.tim.byte (IEEE80211_MAX_AID + 1)
  let dtimCount := nextDtimCount link ps isTemplate
  let aid0 : Byte := if dtimCount = 0 ∧ ps.bcBuf then 1 else 0
  let element (len control : Byte) (bitmap : List Byte) : List Byte :=
    [WLAN_EID_TIM, len, dtimCount.setWidth 8, link.dtimPeriod, control] ++ bitmap
  ({ ps with
      dtimCount := dtimCount
      dtimBcMc := aid0 = 1 },
    if haveBits then
      let n1 := n1Loop ps.tim IEEE80211_MAX_TIM_LEN 0
      let n2 := n2Loop ps.tim n1 IEEE80211_MAX_TIM_LEN
      element (BitVec.ofNat 8 (n2 - n1 + 4)) (BitVec.ofNat 8 n1 ||| aid0) ((List.range (n2 - n1 + 1)).map fun i => ps.tim.byte (n1 + i))
    else if link.s1ghz then element 3 aid0 []
    else element 4 aid0 [0])

/-! ## What a station reads -/

/-- **The bit of an AID**: absent bytes are zero. -/
def timBit (element : List Byte) (aid : Nat) : Bool :=
  let control := element[4]?.getD 0
  let n1 := (control &&& 0xfe).toNat
  if aid / 8 < n1 then false else (((element.drop 5)[aid / 8 - n1]?).getD 0).getLsbD (aid % 8)

/-- A beacon, with what the stations and the frames for them are when it is built. -/
structure Beacon where
  tim : TrafficMap
  bcBuf : Bool
  numStaPs : Int
  isTemplate : Bool

def beacons (link : LinkConf) : PsData → List Beacon → PsData
  | ps, [] => ps
  | ps, b :: rest =>
    beacons link (ieee80211BeaconAddTim arch link { ps with tim := b.tim, bcBuf := b.bcBuf, numStaPs := b.numStaPs } b.isTemplate).1 rest

/-- A count that is `c`, `n` beacons later. -/
def countdown (period c n : Nat) : Nat := if n ≤ c then c - n else period - 1 - (n - c - 1) % period

/-- **The element is right**, and so is the DTIM count from here on. -/
structure TimRight (link : LinkConf) (ps : PsData) (isTemplate : Bool) : Prop where
  wellFormed : ∃ len body, (ieee80211BeaconAddTim arch link ps isTemplate).2 = WLAN_EID_TIM :: len :: body ∧ len.toNat = body.length
  dtim : (ieee80211BeaconAddTim arch link ps isTemplate).2[2]? =
      some ((ieee80211BeaconAddTim arch link ps isTemplate).1.dtimCount.setWidth 8) ∧
    (ieee80211BeaconAddTim arch link ps isTemplate).2[3]? = some link.dtimPeriod
  decodes : 0 < ps.numStaPs → ∀ aid, 1 ≤ aid → aid ≤ IEEE80211_MAX_AID →
    timBit (ieee80211BeaconAddTim arch link ps isTemplate).2 aid = bssTimGet ps.tim aid
  multicast : ((ieee80211BeaconAddTim arch link ps isTemplate).2[4]?.getD 0).getLsbD 0 = true ↔
    (ieee80211BeaconAddTim arch link ps isTemplate).1.dtimCount = 0 ∧ ps.bcBuf = true
  cyclic : ∀ bs : List Beacon, (beacons arch link ps bs).dtimCount.toNat =
    countdown link.dtimPeriod.toNat ps.dtimCount.toNat (bs.filter fun b => !b.isTemplate).length

/-- `bitmap_empty` looks at the byte: of the last word, a big-endian machine sees the wrong end. -/
def Arch.Seen (j : Nat) : Prop := arch.bigEndian = false ∨ j < 248 ∨ arch.longBytes = 4 ∧ j ≠ 248

/-! ## The bitmap in words -/

variable {arch : Arch} {link : LinkConf} {ps : PsData} {isTemplate : Bool} {tim : TrafficMap}

/-- Where the byte `b` of a bitmap is. -/
def Arch.byteOf (arch : Arch) (b : Nat) : Nat :=
  if arch.bigEndian then b / arch.longBytes * arch.longBytes + (arch.longBytes - 1 - b % arch.longBytes) else b

theorem testBit_eq (bytes : Nat → Byte) (nr : Nat) : arch.testBit bytes nr = (bytes (arch.byteOf (nr / 8))).getLsbD (nr % 8) := by
  unfold Arch.testBit Arch.byteOf
  dsimp only
  have hbyte : nr / (8 * arch.longBytes) * arch.longBytes +
      (if arch.bigEndian then arch.longBytes - 1 - nr % (8 * arch.longBytes) / 8 else nr % (8 * arch.longBytes) / 8) =
      if arch.bigEndian then nr / 8 / arch.longBytes * arch.longBytes + (arch.longBytes - 1 - nr / 8 % arch.longBytes) else nr / 8 := by
    rcases arch.longBytes_eq with hlong | hlong <;> rw [hlong] <;> split_ifs <;> omega
  rw [hbyte, Nat.mod_mul_right_mod]

theorem bitmapEmpty_iff (bytes : Nat → Byte) :
    arch.bitmapEmpty bytes (IEEE80211_MAX_AID + 1) = true ↔ ∀ b, b < 251 → bytes (arch.byteOf b) = 0 := by
  unfold Arch.bitmapEmpty IEEE80211_MAX_AID
  simp only [List.all_eq_true, List.mem_range, decide_eq_true_eq, testBit_eq]
  constructor
  · intro h b hb
    apply BitVec.eq_of_getLsbD_eq
    intro i hi
    have hbit := h (8 * b + i) (by omega)
    rw [show (8 * b + i) / 8 = b by omega, show (8 * b + i) % 8 = i by omega] at hbit
    rw [hbit]
    simp
  · intro h nr hnr
    rw [h (nr / 8) (by omega)]
    simp

/-- The bytes that are seen are where the first 251 bytes of the bitmap are. -/
theorem seen_iff {j : Nat} (hj : j < 251) : arch.Seen j ↔ ∃ b, b < 251 ∧ arch.byteOf b = j := by
  unfold Arch.Seen Arch.byteOf
  cases arch.bigEndian with
  | false => exact ⟨fun _ => ⟨j, hj, rfl⟩, fun _ => .inl rfl⟩
  | true =>
    simp only [if_true, Bool.true_eq_false, false_or]
    constructor
    · intro h
      refine ⟨j / arch.longBytes * arch.longBytes + (arch.longBytes - 1 - j % arch.longBytes), ?_, ?_⟩
      · rcases arch.longBytes_eq with hlong | hlong <;> rw [hlong] at h ⊢ <;> omega
      · rcases arch.longBytes_eq with hlong | hlong <;> rw [hlong] <;> omega
    · rintro ⟨b, hb, heq⟩
      rcases arch.longBytes_eq with hlong | hlong <;> rw [hlong] at heq ⊢ <;> omega

/-- **`bitmap_empty`** finds the bitmap empty, when the bytes that it sees are zero. -/
theorem bitmapEmpty_tim (arch : Arch) (tim : TrafficMap) :
    arch.bitmapEmpty tim.byte (IEEE80211_MAX_AID + 1) = true ↔ ∀ j, j < 251 → arch.Seen j → tim.byte j = 0 := by
  rw [bitmapEmpty_iff]
  constructor
  · intro h j hj hseen
    obtain ⟨b, hb, rfl⟩ := (seen_iff hj).mp hseen
    exact h b hb
  · intro h b hb
    by_cases hj : arch.byteOf b < 251
    · exact h _ hj ((seen_iff hj).mpr ⟨b, hb, rfl⟩)
    · exact tim.byte_zero _ (Nat.not_lt.mp hj)

/-! ## The scans -/

/-- The first scan ends at the first byte that is not zero. -/
theorem n1Loop_spec (tim : TrafficMap) (k : Nat) : ∀ i,
    (∃ j, i ≤ j ∧ j < i + k ∧ tim.byte j ≠ 0 ∧ (∀ b, i ≤ b → b < j → tim.byte b = 0) ∧ n1Loop tim k i = j &&& 0xfe) ∨
      ∀ b, i ≤ b → b < i + k → tim.byte b = 0 := by
  induction k with
  | zero =>
    intro i
    right
    intro b hle hlt
    omega
  | succ k ih =>
    intro i
    unfold n1Loop
    by_cases hzero : tim.byte i = 0
    · rw [if_neg (not_not.mpr hzero)]
      rcases ih (i + 1) with ⟨j, hle, hlt, hj, hbefore, heq⟩ | hall
      · refine .inl ⟨j, by omega, by omega, hj, fun b hib hbj => ?_, heq⟩
        rcases Nat.eq_or_lt_of_le hib with rfl | hib
        · exact hzero
        · exact hbefore b hib hbj
      · refine .inr fun b hib hbk => ?_
        rcases Nat.eq_or_lt_of_le hib with rfl | hib
        · exact hzero
        · exact hall b hib (by omega)
    · rw [if_pos hzero]
      exact .inl ⟨i, Nat.le_refl i, by omega, hzero, fun b hib hbi => absurd hbi (Nat.not_lt.mpr hib), rfl⟩

/-- The second scan ends at the last byte that is not zero. -/
theorem n2Loop_spec (tim : TrafficMap) (n1 i : Nat) :
    n1 ≤ n2Loop tim n1 i ∧ (n2Loop tim n1 i = n1 ∨ n2Loop tim n1 i < i) ∧
      ∀ b, n2Loop tim n1 i < b → b < i → tim.byte b = 0 := by
  induction i with
  | zero => exact ⟨Nat.le_refl n1, .inl rfl, fun b _ hb => absurd hb (Nat.not_lt_zero b)⟩
  | succ i ih =>
    unfold n2Loop
    split_ifs with hlow hbyte
    · refine ⟨Nat.le_refl n1, .inl rfl, fun b hlt hle => ?_⟩
      omega
    · exact ⟨Nat.not_lt.mp hlow, .inr (Nat.lt_succ_self i), fun b hlt hle => by omega⟩
    · obtain ⟨h1, h2, h3⟩ := ih
      refine ⟨h1, by omega, fun b hlt hle => ?_⟩
      rcases Nat.eq_or_lt_of_le (Nat.le_of_lt_succ hle) with rfl | hb
      · exact not_not.mp hbyte
      · exact h3 b hlt hb

/-- The start is even, and leaves the first bit of the bitmap control to the multicast frames. -/
theorem control_spec : ∀ (i : Fin 251) (multicast : Bool),
    ((BitVec.ofNat 8 (i.val &&& 0xfe) ||| if multicast then 1 else 0) &&& (0xfe : Byte)).toNat = i.val &&& 0xfe ∧
      (BitVec.ofNat 8 (i.val &&& 0xfe) ||| if multicast then (1 : Byte) else 0).getLsbD 0 = multicast ∧ i.val &&& 0xfe ≤ i.val := by
  decide +kernel

/-! ## The element -/

theorem timBit_element (len count period control : Byte) (bitmap : List Byte) (aid : Nat) :
    timBit ([WLAN_EID_TIM, len, count, period, control] ++ bitmap) aid =
      if aid / 8 < (control &&& 0xfe).toNat then false
      else ((bitmap[aid / 8 - (control &&& 0xfe).toNat]?).getD 0).getLsbD (aid % 8) := rfl

/-- The element with a bitmap decodes, once a byte that is not zero was found. -/
theorem decodes_bitmap (hsome : ∃ j, j < 251 ∧ tim.byte j ≠ 0) (multicast : Bool) (count period : Byte) :
    ∃ n1 n2, n1 = n1Loop tim IEEE80211_MAX_TIM_LEN 0 ∧ n2 = n2Loop tim n1 IEEE80211_MAX_TIM_LEN ∧ n1 ≤ n2 ∧ n2 < 251 ∧
      (BitVec.ofNat 8 n1 ||| if multicast then (1 : Byte) else 0).getLsbD 0 = multicast ∧
      ∀ aid, aid ≤ IEEE80211_MAX_AID →
        timBit ([WLAN_EID_TIM, BitVec.ofNat 8 (n2 - n1 + 4), count, period, BitVec.ofNat 8 n1 ||| if multicast then (1 : Byte) else 0] ++
          (List.range (n2 - n1 + 1)).map fun i => tim.byte (n1 + i)) aid = bssTimGet tim aid := by
  obtain ⟨i, hi, hnonzero⟩ := hsome
  rcases n1Loop_spec tim IEEE80211_MAX_TIM_LEN 0 with ⟨j, -, hj, -, hbefore, hn1⟩ | hall
  · obtain ⟨n1, hn1'⟩ : ∃ n1, n1 = n1Loop tim IEEE80211_MAX_TIM_LEN 0 := ⟨_, rfl⟩
    obtain ⟨n2, hn2'⟩ : ∃ n2, n2 = n2Loop tim n1 IEEE80211_MAX_TIM_LEN := ⟨_, rfl⟩
    unfold IEEE80211_MAX_TIM_LEN at hj
    obtain ⟨hcontrol, hbit, hle⟩ := control_spec ⟨j, by omega⟩ multicast
    dsimp only at hcontrol hbit hle
    rw [← hn1, ← hn1'] at hcontrol hbit hle
    obtain ⟨h12, hend, hafter⟩ := n2Loop_spec tim n1 IEEE80211_MAX_TIM_LEN
    rw [← hn2'] at h12 hend hafter
    unfold IEEE80211_MAX_TIM_LEN at hend hafter
    refine ⟨n1, n2, hn1', hn2', h12, by omega, hbit, fun aid haid => ?_⟩
    unfold IEEE80211_MAX_AID at haid
    rw [timBit_element, hcontrol]
    unfold bssTimGet
    by_cases hlow : aid / 8 < n1
    · rw [if_pos hlow, hbefore (aid / 8) (Nat.zero_le _) (by omega)]
      simp
    · rw [if_neg hlow]
      by_cases hhigh : aid / 8 ≤ n2
      · rw [List.getElem?_map, List.getElem?_range (by omega)]
        simp only [Option.map_some, Option.getD_some]
        rw [Nat.add_sub_cancel' (Nat.not_lt.mp hlow)]
      · -- beyond the last byte
        rw [List.getElem?_eq_none (by simp; omega), hafter (aid / 8) (by omega) (by omega)]
        rfl
  · exact absurd (hall i (Nat.zero_le i) (by unfold IEEE80211_MAX_TIM_LEN; omega)) hnonzero

/-- An element without a bitmap says that nobody has frames. -/
theorem timBit_none (len count period : Byte) (multicast : Bool) {bitmap : List Byte} (hzero : bitmap = [] ∨ bitmap = [0]) (aid : Nat) :
    timBit ([WLAN_EID_TIM, len, count, period, if multicast then (1 : Byte) else 0] ++ bitmap) aid = false := by
  have hcontrol : ((if multicast then (1 : Byte) else 0) &&& 0xfe).toNat = 0 := by cases multicast <;> rfl
  rw [timBit_element, hcontrol, if_neg (Nat.not_lt_zero _)]
  have hbyte : (bitmap[aid / 8 - 0]?).getD 0 = 0 := by
    rcases hzero with rfl | rfl
    · rfl
    · cases hidx : aid / 8 - 0 with
      | zero => rfl
      | succ n => rfl
  rw [hbyte]
  simp

/-! ## The count -/

theorem beaconAddTim_count (arch : Arch) (link : LinkConf) (ps : PsData) (isTemplate : Bool) :
    (ieee80211BeaconAddTim arch link ps isTemplate).1.dtimCount = nextDtimCount link ps isTemplate := rfl

theorem nextDtimCount_toNat (hperiod : link.dtimPeriod ≠ 0) (ps : PsData) :
    (nextDtimCount link ps false).toNat = if ps.dtimCount.toNat = 0 then link.dtimPeriod.toNat - 1 else ps.dtimCount.toNat - 1 := by
  unfold nextDtimCount
  rw [if_neg Bool.false_ne_true]
  have hpos : link.dtimPeriod.toNat ≠ 0 := fun h => hperiod (BitVec.eq_of_toNat_eq h)
  have hlt := link.dtimPeriod.isLt
  have hwide : (link.dtimPeriod.setWidth 32).toNat = link.dtimPeriod.toNat := by
    rw [BitVec.toNat_setWidth]
    omega
  by_cases hzero : ps.dtimCount = 0
  · rw [if_pos hzero, if_pos (by rw [hzero]; rfl), ← hwide]
    bv_omega
  · have hne : ps.dtimCount.toNat ≠ 0 := fun h => hzero (BitVec.eq_of_toNat_eq h)
    rw [if_neg hzero, if_neg hne]
    bv_omega

theorem countdown_zero (period c : Nat) : countdown period c 0 = c := by
  unfold countdown
  rw [if_pos (Nat.zero_le c)]
  rfl

theorem countdown_succ {period : Nat} (hpos : period ≠ 0) (c n : Nat) :
    countdown period (if c = 0 then period - 1 else c - 1) n = countdown period c (n + 1) := by
  unfold countdown
  by_cases hc : c = 0
  · rw [if_pos hc, hc, if_neg (Nat.not_succ_le_zero n)]
    by_cases hn : n ≤ period - 1
    · rw [if_pos hn, show n + 1 - 0 - 1 = n by omega, Nat.mod_eq_of_lt (by omega)]
    · rw [if_neg hn]
      have hmod : (n - (period - 1) - 1) % period = (n + 1 - 0 - 1) % period := by
        rw [show n + 1 - 0 - 1 = (n - (period - 1) - 1) + period by omega, Nat.add_mod_right]
      rw [hmod]
  · rw [if_neg hc]
    by_cases hn : n + 1 ≤ c
    · rw [if_pos hn, if_pos (by omega)]
      omega
    · rw [if_neg hn, if_neg (by omega), show n - (c - 1) - 1 = n + 1 - c - 1 by omega]

/-- **The count goes down cyclically.** -/
theorem beacons_count (hperiod : link.dtimPeriod ≠ 0) (bs : List Beacon) : ∀ ps : PsData, (beacons arch link ps bs).dtimCount.toNat =
    countdown link.dtimPeriod.toNat ps.dtimCount.toNat (bs.filter fun b => !b.isTemplate).length := by
  induction bs with
  | nil =>
    intro ps
    exact (countdown_zero _ _).symm
  | cons b rest ih =>
    intro ps
    unfold beacons
    rw [ih, beaconAddTim_count, List.filter_cons]
    cases hb : b.isTemplate with
    | true => rfl
    | false =>
      rw [nextDtimCount_toNat hperiod, countdown_succ fun h => hperiod (BitVec.eq_of_toNat_eq h)]
      rfl

/-- A period of zero does not come back: after a count of zero there is the largest one. -/
theorem count_of_no_period (arch : Arch) (hperiod : link.dtimPeriod = 0) (c : Nat) : ∀ ps : PsData, ps.dtimCount.toNat = c →
    ∃ bs, (beacons arch link ps bs).dtimCount.toNat = 4294967295 ∧ (bs.filter fun b => !b.isTemplate).length = c + 1 := by
  induction c with
  | zero =>
    intro ps hps
    refine ⟨[⟨ps.tim, ps.bcBuf, ps.numStaPs, false⟩], ?_, rfl⟩
    have hzero : ps.dtimCount = 0 := BitVec.eq_of_toNat_eq hps
    show (nextDtimCount link ps false).toNat = _
    unfold nextDtimCount
    rw [if_neg Bool.false_ne_true, if_pos hzero, hperiod]
    rfl
  | succ c ih =>
    intro ps hps
    have hne : ps.dtimCount ≠ 0 := by
      intro h
      rw [h] at hps
      cases hps
    have hnext : (nextDtimCount link ps false).toNat = c := by
      unfold nextDtimCount
      rw [if_neg Bool.false_ne_true, if_neg hne]
      bv_omega
    obtain ⟨bs, hcount, hlength⟩ := ih (ieee80211BeaconAddTim arch link ps false).1 hnext
    refine ⟨⟨ps.tim, ps.bcBuf, ps.numStaPs, false⟩ :: bs, hcount, ?_⟩
    rw [List.filter_cons]
    exact congrArg Nat.succ hlength

/-! ## The element is right -/

theorem beaconAddTim_element (arch : Arch) (link : LinkConf) (ps : PsData) (isTemplate : Bool) :
    ∃ len control bitmap, (ieee80211BeaconAddTim arch link ps isTemplate).2 =
        [WLAN_EID_TIM, len, (nextDtimCount link ps isTemplate).setWidth 8, link.dtimPeriod, control] ++ bitmap ∧
      len.toNat = 3 + bitmap.length ∧
      control.getLsbD 0 = (decide (nextDtimCount link ps isTemplate = 0) && ps.bcBuf) ∧
      ((decide (ps.numStaPs > 0) = true ∧ arch.bitmapEmpty ps.tim.byte (IEEE80211_MAX_AID + 1) = false →
          ∀ aid, aid ≤ IEEE80211_MAX_AID → timBit (ieee80211BeaconAddTim arch link ps isTemplate).2 aid = bssTimGet ps.tim aid) ∧
        (¬ (decide (ps.numStaPs > 0) = true ∧ arch.bitmapEmpty ps.tim.byte (IEEE80211_MAX_AID + 1) = false) →
          ∀ aid, timBit (ieee80211BeaconAddTim arch link ps isTemplate).2 aid = false)) := by
  obtain ⟨multicast, hmulticast⟩ : ∃ b, b = (decide (nextDtimCount link ps isTemplate = 0) && ps.bcBuf) := ⟨_, rfl⟩
  have haid0 : (if nextDtimCount link ps isTemplate = 0 ∧ ps.bcBuf = true then (1 : Byte) else 0) = if multicast then 1 else 0 := by
    rw [hmulticast]
    simp
  have hlow : (if multicast then (1 : Byte) else 0).getLsbD 0 = multicast := by cases multicast <;> rfl
  unfold ieee80211BeaconAddTim
  dsimp only
  rw [haid0, ← hmulticast]
  by_cases hbits : (decide (ps.numStaPs > 0) && !arch.bitmapEmpty ps.tim.byte (IEEE80211_MAX_AID + 1)) = true
  · rw [if_pos hbits]
    have hbits' : decide (ps.numStaPs > 0) = true ∧ arch.bitmapEmpty ps.tim.byte (IEEE80211_MAX_AID + 1) = false := by simpa using hbits
    have hsome : ∃ j, j < 251 ∧ ps.tim.byte j ≠ 0 := by
      by_contra hnone
      have hempty := (bitmapEmpty_tim arch ps.tim).mpr fun j hj _ => by
        by_contra hne
        exact hnone ⟨j, hj, hne⟩
      rw [hbits'.2] at hempty
      cases hempty
    obtain ⟨n1, n2, hn1, hn2, hle, hlt, hbit, hdecodes⟩ :=
      decodes_bitmap hsome multicast ((nextDtimCount link ps isTemplate).setWidth 8) link.dtimPeriod
    rw [← hn1, ← hn2]
    refine ⟨_, _, _, rfl, ?_, hbit, fun _ => hdecodes, fun hnot => absurd hbits' hnot⟩
    rw [List.length_map, List.length_range, BitVec.toNat_ofNat]
    omega
  · rw [if_neg hbits]
    have hnot : ¬ (decide (ps.numStaPs > 0) = true ∧ arch.bitmapEmpty ps.tim.byte (IEEE80211_MAX_AID + 1) = false) := by
      intro h
      apply hbits
      rw [h.1, h.2]
      rfl
    by_cases hs1ghz : link.s1ghz = true
    · rw [if_pos hs1ghz]
      exact ⟨3, if multicast then 1 else 0, [], rfl, rfl, hlow, fun h => absurd h hnot,
        fun _ aid => timBit_none 3 _ _ multicast (.inl rfl) aid⟩
    · rw [if_neg hs1ghz]
      exact ⟨4, if multicast then 1 else 0, [0], rfl, rfl, hlow, fun h => absurd h hnot,
        fun _ aid => timBit_none 4 _ _ multicast (.inr rfl) aid⟩

theorem exists_aid {j : Nat} (hlow : 248 ≤ j) (hj : j < 251) (hbyte : tim.byte j ≠ 0) :
    ∃ aid, 1 ≤ aid ∧ aid ≤ IEEE80211_MAX_AID ∧ bssTimGet tim aid = true := by
  by_contra hnone
  apply hbyte
  apply BitVec.eq_of_getLsbD_eq
  intro i hi
  have hbit : bssTimGet tim (8 * j + i) ≠ true := by
    intro hset
    refine hnone ⟨8 * j + i, by omega, ?_, hset⟩
    unfold IEEE80211_MAX_AID
    omega
  unfold bssTimGet at hbit
  rw [show (8 * j + i) / 8 = j by omega, show (8 * j + i) % 8 = i by omega] at hbit
  simpa using hbit

/-- **The TIM element and the DTIM count are right exactly** for a period that is not zero, unless the only bytes of the bitmap that are not
zero are some that `bitmap_empty` does not see. -/
theorem timRight_iff (arch : Arch) (link : LinkConf) (ps : PsData) (isTemplate : Bool) :
    TimRight arch link ps isTemplate ↔ link.dtimPeriod ≠ 0 ∧
      (0 < ps.numStaPs → (∃ j, j < 251 ∧ arch.Seen j ∧ ps.tim.byte j ≠ 0) ∨ ∀ j, j < 251 → ps.tim.byte j = 0) := by
  obtain ⟨len, control, bitmap, helement, hlen, hcontrol, hdecodes, hnobits⟩ := beaconAddTim_element arch link ps isTemplate
  constructor
  · intro h
    refine ⟨fun hperiod => ?_, fun hsta => ?_⟩
    · obtain ⟨bs, hcount, hlength⟩ := count_of_no_period arch hperiod _ ps rfl
      have hcyclic := h.cyclic bs
      rw [hcount, hlength, hperiod] at hcyclic
      unfold countdown at hcyclic
      rw [if_neg (Nat.not_succ_le_self _)] at hcyclic
      simp at hcyclic
    · by_contra hbad
      rw [not_or] at hbad
      obtain ⟨hunseen, hnonzero⟩ := hbad
      have hempty : arch.bitmapEmpty ps.tim.byte (IEEE80211_MAX_AID + 1) = true := by
        rw [bitmapEmpty_tim]
        intro j hj hseen
        by_contra hne
        exact hunseen ⟨j, hj, hseen, hne⟩
      -- the byte that is not zero is not seen, so that no bit is announced
      obtain ⟨j, hj, hbyte⟩ : ∃ j, j < 251 ∧ ps.tim.byte j ≠ 0 := by
        by_contra hnone
        refine hnonzero fun j hj => ?_
        by_contra hne
        exact hnone ⟨j, hj, hne⟩
      have hlow : 248 ≤ j := by
        by_contra hlt
        exact hunseen ⟨j, hj, .inr (.inl (Nat.not_le.mp hlt)), hbyte⟩
      obtain ⟨aid, h1, hmax, hset⟩ := exists_aid hlow hj hbyte
      have hread := h.decodes hsta aid h1 hmax
      rw [hnobits (fun hb => by rw [hempty] at hb; exact absurd hb.2.symm Bool.false_ne_true), hset] at hread
      cases hread
  · rintro ⟨hperiod, hseen⟩
    refine ⟨?_, ?_, fun hsta aid _ hmax => ?_, ?_, fun bs => beacons_count hperiod bs ps⟩
    · refine ⟨len, (nextDtimCount link ps isTemplate).setWidth 8 :: link.dtimPeriod :: control :: bitmap, helement, ?_⟩
      rw [hlen]
      simp only [List.length_cons]
      omega
    · rw [helement]
      exact ⟨rfl, rfl⟩
    · by_cases hempty : arch.bitmapEmpty ps.tim.byte (IEEE80211_MAX_AID + 1) = true
      · have hzero : ∀ j, j < 251 → ps.tim.byte j = 0 := by
          rcases hseen hsta with ⟨j, hj, hsees, hbyte⟩ | hzero
          · exact absurd ((bitmapEmpty_tim arch ps.tim).mp hempty j hj hsees) hbyte
          · exact hzero
        rw [hnobits fun hb => by rw [hempty] at hb; exact absurd hb.2.symm Bool.false_ne_true]
        unfold bssTimGet IEEE80211_MAX_AID at *
        rw [hzero (aid / 8) (by omega)]
        simp
      · exact hdecodes ⟨by simpa using hsta, by simpa using hempty⟩ aid hmax
    · rw [helement]
      show control.getLsbD 0 = true ↔ nextDtimCount link ps isTemplate = 0 ∧ ps.bcBuf = true
      rw [hcontrol]
      simp

def mips64 : Arch where
  bigEndian := true
  longBytes := 8
  longBytes_eq := .inr rfl

/-- The station with the AID 1984 sleeps, and has frames. -/
def sleeping : PsData where
  tim := bssTimSet { byte := fun _ => 0, byte_zero := fun _ _ => rfl } 1984 (by decide)
  bcBuf := false
  numStaPs := 1
  dtimCount := 1
  dtimBcMc := false

/-- On a big-endian machine the beacon does not announce the frames. -/
theorem station_1984_unannounced : ¬ TimRight mips64 { dtimPeriod := 2, s1ghz := false } sleeping false := by
  intro h
  have hread := h.decodes (by decide) 1984 (by decide) (by decide)
  have hmissed : timBit (ieee80211BeaconAddTim mips64 { dtimPeriod := 2, s1ghz := false } sleeping false).2 1984 = false := by
    decide +kernel
  rw [hmissed] at hread
  revert hread
  decide

end Mac80211.TimElement
