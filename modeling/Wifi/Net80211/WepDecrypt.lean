import Mathlib.Data.List.GetD
import Wifi.Net80211.Ccmp

/-!
# RC4 and ICV of TKIP (`freebsd/sys/net80211/ieee80211_crypto_tkip.c`)

* `Rc4` — the RC4 state of `wep_decrypt`; `Rc4.next` — its next byte.
* `decryptLoop` — the loop over the mbufs, `wepDecrypt` — `wep_decrypt`.
* `rightIcv` — the ICV that belongs to some encrypted data.
* `decryptLoop_spec` — the data is decrypted as if it was in one mbuf, but the ICV is looked for in the last mbuf.
* `divided_agrees_iff` — a division of the frame does not matter exactly when the last mbuf has the ICV, or when both
  ways refuse the frame.

`pos` is the rest of the mbuf that is worked on, from the pointer on.
-/

namespace Net80211.Wep

open Ccmp (Chain)

/-! ## RC4 -/

/-- The state of RC4: `S`, `i` and `j`, where `& 0xff` is always taken. -/
structure Rc4 where
  s : List Byte
  i : Byte
  j : Byte

/-- `S[i]` -/
def at8 (s : List Byte) (i : Byte) : Byte := s.getD i.toNat 0

/-- `S_SWAP` -/
def swap (s : List Byte) (a b : Byte) : List Byte :=
  (s.set a.toNat (at8 s b)).set b.toNat (at8 s a)

def setupRound (key : Nat → Byte) (r : List Byte × Byte) (i : Nat) : List Byte × Byte :=
  let j := r.2 + at8 r.1 (BitVec.ofNat 8 i) + key (i % 16)
  (swap r.1 (BitVec.ofNat 8 i) j, j)

def setup (key : Nat → Byte) : Rc4 :=
  { s := ((List.range 256).foldl (setupRound key) ((List.range 256).map (BitVec.ofNat 8), 0)).1, i := 0, j := 0 }

def Rc4.next (c : Rc4) : Byte × Rc4 :=
  let i := c.i + 1
  let j := c.j + at8 c.s i
  let s := swap c.s i j
  (at8 s (at8 s i + at8 s j), { s := s, i := i, j := j })

/-! ## CRC -/

def crc32Table : List (BitVec 32) := [
  0x00000000, 0x77073096, 0xee0e612c, 0x990951ba, 0x076dc419, 0x706af48f, 0xe963a535, 0x9e6495a3, 0x0edb8832,
  0x79dcb8a4, 0xe0d5e91e, 0x97d2d988, 0x09b64c2b, 0x7eb17cbd, 0xe7b82d07, 0x90bf1d91, 0x1db71064, 0x6ab020f2,
  0xf3b97148, 0x84be41de, 0x1adad47d, 0x6ddde4eb, 0xf4d4b551, 0x83d385c7, 0x136c9856, 0x646ba8c0, 0xfd62f97a,
  0x8a65c9ec, 0x14015c4f, 0x63066cd9, 0xfa0f3d63, 0x8d080df5, 0x3b6e20c8, 0x4c69105e, 0xd56041e4, 0xa2677172,
  0x3c03e4d1, 0x4b04d447, 0xd20d85fd, 0xa50ab56b, 0x35b5a8fa, 0x42b2986c, 0xdbbbc9d6, 0xacbcf940, 0x32d86ce3,
  0x45df5c75, 0xdcd60dcf, 0xabd13d59, 0x26d930ac, 0x51de003a, 0xc8d75180, 0xbfd06116, 0x21b4f4b5, 0x56b3c423,
  0xcfba9599, 0xb8bda50f, 0x2802b89e, 0x5f058808, 0xc60cd9b2, 0xb10be924, 0x2f6f7c87, 0x58684c11, 0xc1611dab,
  0xb6662d3d, 0x76dc4190, 0x01db7106, 0x98d220bc, 0xefd5102a, 0x71b18589, 0x06b6b51f, 0x9fbfe4a5, 0xe8b8d433,
  0x7807c9a2, 0x0f00f934, 0x9609a88e, 0xe10e9818, 0x7f6a0dbb, 0x086d3d2d, 0x91646c97, 0xe6635c01, 0x6b6b51f4,
  0x1c6c6162, 0x856530d8, 0xf262004e, 0x6c0695ed, 0x1b01a57b, 0x8208f4c1, 0xf50fc457, 0x65b0d9c6, 0x12b7e950,
  0x8bbeb8ea, 0xfcb9887c, 0x62dd1ddf, 0x15da2d49, 0x8cd37cf3, 0xfbd44c65, 0x4db26158, 0x3ab551ce, 0xa3bc0074,
  0xd4bb30e2, 0x4adfa541, 0x3dd895d7, 0xa4d1c46d, 0xd3d6f4fb, 0x4369e96a, 0x346ed9fc, 0xad678846, 0xda60b8d0,
  0x44042d73, 0x33031de5, 0xaa0a4c5f, 0xdd0d7cc9, 0x5005713c, 0x270241aa, 0xbe0b1010, 0xc90c2086, 0x5768b525,
  0x206f85b3, 0xb966d409, 0xce61e49f, 0x5edef90e, 0x29d9c998, 0xb0d09822, 0xc7d7a8b4, 0x59b33d17, 0x2eb40d81,
  0xb7bd5c3b, 0xc0ba6cad, 0xedb88320, 0x9abfb3b6, 0x03b6e20c, 0x74b1d29a, 0xead54739, 0x9dd277af, 0x04db2615,
  0x73dc1683, 0xe3630b12, 0x94643b84, 0x0d6d6a3e, 0x7a6a5aa8, 0xe40ecf0b, 0x9309ff9d, 0x0a00ae27, 0x7d079eb1,
  0xf00f9344, 0x8708a3d2, 0x1e01f268, 0x6906c2fe, 0xf762575d, 0x806567cb, 0x196c3671, 0x6e6b06e7, 0xfed41b76,
  0x89d32be0, 0x10da7a5a, 0x67dd4acc, 0xf9b9df6f, 0x8ebeeff9, 0x17b7be43, 0x60b08ed5, 0xd6d6a3e8, 0xa1d1937e,
  0x38d8c2c4, 0x4fdff252, 0xd1bb67f1, 0xa6bc5767, 0x3fb506dd, 0x48b2364b, 0xd80d2bda, 0xaf0a1b4c, 0x36034af6,
  0x41047a60, 0xdf60efc3, 0xa867df55, 0x316e8eef, 0x4669be79, 0xcb61b38c, 0xbc66831a, 0x256fd2a0, 0x5268e236,
  0xcc0c7795, 0xbb0b4703, 0x220216b9, 0x5505262f, 0xc5ba3bbe, 0xb2bd0b28, 0x2bb45a92, 0x5cb36a04, 0xc2d7ffa7,
  0xb5d0cf31, 0x2cd99e8b, 0x5bdeae1d, 0x9b64c2b0, 0xec63f226, 0x756aa39c, 0x026d930a, 0x9c0906a9, 0xeb0e363f,
  0x72076785, 0x05005713, 0x95bf4a82, 0xe2b87a14, 0x7bb12bae, 0x0cb61b38, 0x92d28e9b, 0xe5d5be0d, 0x7cdcefb7,
  0x0bdbdf21, 0x86d3d2d4, 0xf1d4e242, 0x68ddb3f8, 0x1fda836e, 0x81be16cd, 0xf6b9265b, 0x6fb077e1, 0x18b74777,
  0x88085ae6, 0xff0f6a70, 0x66063bca, 0x11010b5c, 0x8f659eff, 0xf862ae69, 0x616bffd3, 0x166ccf45, 0xa00ae278,
  0xd70dd2ee, 0x4e048354, 0x3903b3c2, 0xa7672661, 0xd06016f7, 0x4969474d, 0x3e6e77db, 0xaed16a4a, 0xd9d65adc,
  0x40df0b66, 0x37d83bf0, 0xa9bcae53, 0xdebb9ec5, 0x47b2cf7f, 0x30b5ffe9, 0xbdbdf21c, 0xcabac28a, 0x53b39330,
  0x24b4a3a6, 0xbad03605, 0xcdd70693, 0x54de5729, 0x23d967bf, 0xb3667a2e, 0xc4614ab8, 0x5d681b02, 0x2a6f2b94,
  0xb40bbe37, 0xc30c8ea1, 0x5a05df1b, 0x2d02ef8d]

def crcByte (crc : BitVec 32) (b : Byte) : BitVec 32 :=
  crc32Table.getD ((crc ^^^ b.setWidth 32) &&& 0xff).toNat 0 ^^^ (crc >>> 8)

/-- `icv`, for the CRC at the end of the data -/
def icvBytes (crc : BitVec 32) : List Byte :=
  let crc := ~~~crc
  [crc.setWidth 8, (crc >>> 8).setWidth 8, (crc >>> 16).setWidth 8, (crc >>> 24).setWidth 8]

/-! ## Decryption -/

structure Walk where
  rc4 : Rc4
  crc : BitVec 32

def Walk.decrypt : Walk → List Byte → List Byte × Walk
  | w, [] => ([], w)
  | w, b :: bs =>
    let plain := b ^^^ w.rc4.next.1
    let r := Walk.decrypt { rc4 := w.rc4.next.2, crc := crcByte w.crc plain } bs
    (plain :: r.1, r.2)

/-- What the loop over the mbufs leaves: their data, what is kept, the last mbuf from `pos` on, and `data_len`. -/
structure Decrypted where
  out : Chain
  walk : Walk
  pos : List Byte
  dataLen : Nat

def decryptLoop (w : Walk) (pos : List Byte) (rest : Chain) (dataLen : Nat) : Decrypted :=
  let buflen := min pos.length dataLen
  let r := w.decrypt (pos.take buflen)
  match rest with
  | [] => { out := [r.1 ++ pos.drop buflen], walk := r.2, pos := pos.drop buflen, dataLen := dataLen - buflen }
  | m :: ms =>
    let d := decryptLoop r.2 m ms (dataLen - buflen)
    { d with out := (r.1 ++ pos.drop buflen) :: d.out }

/-- `pos[k]`; behind the data of the mbuf is other memory. -/
def readAt (pos : List Byte) (beyond : Nat → Byte) (k : Nat) : Byte :=
  if k < pos.length then pos.getD k 0 else beyond (k - pos.length)

def icvLoop : Rc4 → List Byte → (Nat → Byte) → Nat → Bool
  | _, [], _, _ => true
  | c, b :: icv, read, k => if b ^^^ c.next.1 ≠ read k then false else icvLoop c.next.2 icv read (k + 1)

/-- `wep_decrypt`, for a frame with `off` bytes of headers in its first mbuf: whether it returns 0, and the frame; nothing
    when its assertion fails. -/
def wepDecrypt (key : Nat → Byte) (first : List Byte) (rest : Chain) (off dataLen : Nat) (beyond : Nat → Byte) :
    Option (Bool × Chain) :=
  let d := decryptLoop { rc4 := setup key, crc := ~~~0 } (first.drop off) rest dataLen
  if d.dataLen ≠ 0 then none
  else
    some (icvLoop d.walk.rc4 (icvBytes d.walk.crc) (readAt d.pos beyond) 0,
      match d.out with
      | [] => []
      | o :: os => (first.take off ++ o) :: os)

/-! ## One mbuf after the other -/

theorem decrypt_append : ∀ (a : List Byte) (w : Walk) (b : List Byte),
    w.decrypt (a ++ b) =
      ((w.decrypt a).1 ++ ((w.decrypt a).2.decrypt b).1, ((w.decrypt a).2.decrypt b).2)
  | [], _, _ => rfl
  | x :: a, w, b => by
    rw [List.cons_append, Walk.decrypt, Walk.decrypt]
    dsimp only
    rw [decrypt_append a]
    rfl

theorem decrypt_nil (w : Walk) : w.decrypt [] = ([], w) := rfl

theorem getLast_suffix (m : List Byte) (ms : Chain) : (m :: ms).getLast (List.cons_ne_nil m ms) <:+ m ++ ms.flatten := by
  refine ⟨((m :: ms).dropLast).flatten, ?_⟩
  have hsplit := List.dropLast_concat_getLast (List.cons_ne_nil m ms)
  have hflat := congrArg List.flatten hsplit
  rw [List.flatten_append, List.flatten_singleton, List.flatten_cons] at hflat
  exact hflat

/-- **The loop** decrypts the data as if it was in one mbuf; what it leaves of the last mbuf has no data any more. -/
theorem decryptLoop_spec : ∀ (rest : Chain) (w : Walk) (pos : List Byte) {dataLen : Nat},
    dataLen ≤ (pos ++ rest.flatten).length →
    (decryptLoop w pos rest dataLen).out.flatten =
        (w.decrypt ((pos ++ rest.flatten).take dataLen)).1 ++ (pos ++ rest.flatten).drop dataLen ∧
      (decryptLoop w pos rest dataLen).walk = (w.decrypt ((pos ++ rest.flatten).take dataLen)).2 ∧
      (decryptLoop w pos rest dataLen).pos =
        (pos ++ rest.flatten).drop (max dataLen ((pos ++ rest.flatten).length -
          ((pos :: rest).getLast (List.cons_ne_nil pos rest)).length)) ∧
      (decryptLoop w pos rest dataLen).dataLen = 0
  | [], w, pos, dataLen, hle => by
    rw [List.flatten_nil, List.append_nil] at hle ⊢
    unfold decryptLoop
    dsimp only
    rw [Nat.min_eq_right hle, List.getLast_singleton, Nat.sub_self, Nat.max_zero, Nat.sub_self, List.flatten_singleton]
    exact ⟨rfl, rfl, rfl, rfl⟩
  | m :: ms, w, pos, dataLen, hle => by
    have hlast : ((m :: ms).getLast (List.cons_ne_nil m ms)).length ≤ (m ++ ms.flatten).length :=
      (getLast_suffix _ _).sublist.length_le
    have hsplit : (m :: ms).flatten = m ++ ms.flatten := List.flatten_cons
    rw [hsplit] at hle ⊢
    have hall : (pos ++ (m ++ ms.flatten)).length = pos.length + (m ++ ms.flatten).length := List.length_append
    rw [hall] at hle ⊢
    obtain ⟨hout, hwalk, hpos, hlen⟩ := decryptLoop_spec ms (w.decrypt (pos.take (min pos.length dataLen))).2 m
      (show dataLen - min pos.length dataLen ≤ (m ++ ms.flatten).length by omega)
    rw [List.getLast_cons (List.cons_ne_nil m ms), List.take_append, List.drop_append]
    unfold decryptLoop
    dsimp only
    refine ⟨?_, ?_, ?_, hlen⟩
    · rw [List.flatten_cons, hout, decrypt_append]
      by_cases hin : dataLen ≤ pos.length
      · have hzero : dataLen - pos.length = 0 := by omega
        rw [Nat.min_eq_right hin, hzero, Nat.sub_self, List.take_zero, List.drop_zero, decrypt_nil]
        dsimp only
        rw [List.append_nil, List.nil_append, List.append_assoc]
      · have hall : min pos.length dataLen = pos.length := by omega
        rw [hall, List.take_of_length_le (by omega : pos.length ≤ dataLen), List.take_length, List.drop_length,
          List.drop_of_length_le (by omega : pos.length ≤ dataLen), List.append_nil, List.nil_append, List.append_assoc]
    · rw [hwalk, decrypt_append]
      by_cases hin : dataLen ≤ pos.length
      · have hzero : dataLen - pos.length = 0 := by omega
        rw [Nat.min_eq_right hin, hzero, Nat.sub_self]
      · have hall : min pos.length dataLen = pos.length := by omega
        rw [hall, List.take_of_length_le (by omega : pos.length ≤ dataLen), List.take_length]
    · rw [hpos]
      refine Eq.trans ?_ List.drop_append.symm
      have hpast : pos.drop (max dataLen (pos.length + (m ++ ms.flatten).length -
          ((m :: ms).getLast (List.cons_ne_nil m ms)).length)) = [] := List.drop_of_length_le (by omega)
      rw [hpast, List.nil_append]
      congr 1
      omega

theorem decryptLoop_out (w : Walk) (pos : List Byte) (rest : Chain) (dataLen : Nat) :
    ∃ o os, (decryptLoop w pos rest dataLen).out = o :: os := by
  unfold decryptLoop
  cases rest with
  | nil => exact ⟨_, _, rfl⟩
  | cons m ms => exact ⟨_, _, rfl⟩

/-! ## The ICV -/

def Rc4.encrypt : Rc4 → List Byte → List Byte
  | _, [] => []
  | c, b :: bs => (b ^^^ c.next.1) :: c.next.2.encrypt bs

theorem encrypt_length : ∀ (c : Rc4) (bs : List Byte), (c.encrypt bs).length = bs.length
  | _, [] => rfl
  | c, _ :: bs => congrArg (· + 1) (encrypt_length c.next.2 bs)

theorem icvLoop_iff : ∀ {icv : List Byte} {c : Rc4} {read : Nat → Byte} {k : Nat},
    icvLoop c icv read k = true ↔ ∀ n, n < icv.length → (c.encrypt icv).getD n 0 = read (k + n)
  | [], _, _, _ => iff_of_true rfl nofun
  | b :: icv, c, read, k => by
    unfold icvLoop Rc4.encrypt
    by_cases hfirst : b ^^^ c.next.1 = read k
    · rw [if_neg (not_not_intro hfirst), icvLoop_iff]
      constructor
      · intro h n hn
        cases n with
        | zero => exact hfirst
        | succ n =>
          rw [List.getD_cons_succ, h n (Nat.lt_of_succ_lt_succ hn), Nat.add_right_comm k 1 n]
          rfl
      · intro h n hn
        have hnext := h (n + 1) (Nat.succ_lt_succ hn)
        rw [List.getD_cons_succ] at hnext
        rw [hnext, Nat.add_right_comm k 1 n]
        rfl
    · rw [if_pos hfirst]
      exact iff_of_false Bool.false_ne_true fun h => hfirst (h 0 (Nat.succ_pos _))

def start (key : Nat → Byte) : Walk := { rc4 := setup key, crc := ~~~0 }

/-- The ICV that belongs to some encrypted data. -/
def rightIcv (key : Nat → Byte) (data : List Byte) : List Byte :=
  let w := ((start key).decrypt data).2
  w.rc4.encrypt (icvBytes w.crc)

theorem rightIcv_length (key : Nat → Byte) (data : List Byte) : (rightIcv key data).length = 4 := encrypt_length _ _

def ReadsAs (read : Nat → Byte) (icv : List Byte) : Prop := ∀ n, n < 4 → icv.getD n 0 = read n

instance (read : Nat → Byte) (icv : List Byte) : Decidable (ReadsAs read icv) :=
  inferInstanceAs (Decidable (∀ n, n < 4 → _))

variable {key : Nat → Byte} {hdr first : List Byte} {rest : Chain} {beyond beyond' : Nat → Byte}

/-- **What `wep_decrypt` does** with a frame that has an ICV: the data is decrypted, and the ICV is looked for in the last
    four bytes of the last mbuf, or from its start when it is shorter. -/
theorem wepDecrypt_spec (key : Nat → Byte) (hdr first : List Byte) (rest : Chain) (beyond : Nat → Byte)
    (hicv : 4 ≤ (first ++ rest.flatten).length) :
    ∃ out, wepDecrypt key (hdr ++ first) rest hdr.length ((first ++ rest.flatten).length - 4) beyond =
        some (decide (ReadsAs (readAt ((first ++ rest.flatten).drop ((first ++ rest.flatten).length -
            min 4 ((first :: rest).getLast (List.cons_ne_nil first rest)).length)) beyond)
          (rightIcv key ((first ++ rest.flatten).take ((first ++ rest.flatten).length - 4)))), out) ∧
      out.flatten = hdr ++ ((start key).decrypt ((first ++ rest.flatten).take ((first ++ rest.flatten).length - 4))).1 ++
        (first ++ rest.flatten).drop ((first ++ rest.flatten).length - 4) := by
  obtain ⟨hout, hwalk, hpos, hlen⟩ := decryptLoop_spec rest (start key) first
    (Nat.sub_le (first ++ rest.flatten).length 4)
  have hlast : ((first :: rest).getLast (List.cons_ne_nil first rest)).length ≤ (first ++ rest.flatten).length :=
    (getLast_suffix _ _).sublist.length_le
  have hmax : max ((first ++ rest.flatten).length - 4) ((first ++ rest.flatten).length -
      ((first :: rest).getLast (List.cons_ne_nil first rest)).length) =
      (first ++ rest.flatten).length - min 4 ((first :: rest).getLast (List.cons_ne_nil first rest)).length := by omega
  rw [hmax] at hpos
  unfold wepDecrypt
  rw [List.drop_left, List.take_left]
  dsimp only
  rw [show ({ rc4 := setup key, crc := ~~~0 } : Walk) = start key from rfl, if_neg (not_not_intro hlen), hwalk, hpos]
  refine ⟨_, congrArg some (Prod.ext (Bool.eq_iff_iff.mpr ?_) rfl), ?_⟩
  · rw [icvLoop_iff, decide_eq_true_iff]
    simp only [Nat.zero_add]
    rfl
  · obtain ⟨o, os, hcons⟩ := decryptLoop_out (start key) first rest ((first ++ rest.flatten).length - 4)
    rw [List.append_assoc, ← hout, hcons]
    exact List.append_assoc _ _ _

/-! ## Divided frames -/

/-- Both runs end, with the same result and the same bytes. -/
def Agree : Option (Bool × Chain) → Option (Bool × Chain) → Prop
  | some r, some r' => r.1 = r'.1 ∧ r.2.flatten = r'.2.flatten
  | _, _ => False

theorem agree_some {ok ok' : Bool} {out out' : Chain} (hbytes : out.flatten = out'.flatten) :
    Agree (some (ok, out)) (some (ok', out')) ↔ ok = ok' := ⟨fun h => h.1, fun h => ⟨h, hbytes⟩⟩

theorem readAt_of_lt {pos : List Byte} {k : Nat} (h : k < pos.length) : readAt pos beyond k = pos.getD k 0 := if_pos h

theorem readAt_of_ge {pos : List Byte} {k : Nat} (h : pos.length ≤ k) : readAt pos beyond k = beyond (k - pos.length) :=
  if_neg (Nat.not_lt.mpr h)

/-- Where the whole ICV is, what is behind it is not read. -/
theorem readsAs_of_length {pos icv : List Byte} (hpos : pos.length = 4) (hicv : icv.length = 4) :
    ReadsAs (readAt pos beyond) icv ↔ pos = icv := by
  constructor
  · intro h
    refine List.ext_getElem (hpos.trans hicv.symm) fun n hn hn' => ?_
    have hread := h n (by omega)
    rw [readAt_of_lt hn, List.getD_eq_getElem _ _ hn', List.getD_eq_getElem _ _ hn] at hread
    exact hread.symm
  · rintro rfl n hn
    exact (readAt_of_lt (by omega)).symm

theorem prefix_of_readsAs {pos icv : List Byte} (hpos : pos.length ≤ 4) (hicv : icv.length = 4)
    (h : ReadsAs (readAt pos beyond) icv) : pos <+: icv := by
  rw [List.prefix_iff_eq_take]
  refine List.ext_getElem (by rw [List.length_take]; omega) fun n hn hn' => ?_
  have hread := h n (by omega)
  rw [readAt_of_lt hn, List.getD_eq_getElem _ _ (by omega), List.getD_eq_getElem _ _ hn] at hread
  rw [List.getElem_take, hread]

theorem readsAs_beyond {pos icv : List Byte} (h : pos <+: icv) :
    ReadsAs (readAt pos fun k => icv.getD (pos.length + k) 0) icv := by
  obtain ⟨tail, rfl⟩ := h
  intro n hn
  by_cases hin : n < pos.length
  · rw [readAt_of_lt hin, List.getD_append _ _ _ _ hin]
  · rw [readAt_of_ge (Nat.not_lt.mp hin), Nat.add_sub_cancel' (Nat.not_lt.mp hin)]

/-- **A division of a frame does not matter, whatever is in the memory behind its mbufs, exactly when the last mbuf has the
    ICV, or when the ICV is wrong and the last mbuf is not a beginning of the right one.** -/
theorem divided_agrees_iff (key : Nat → Byte) (hdr first : List Byte) (rest : Chain)
    (hicv : 4 ≤ (first ++ rest.flatten).length) :
    (∀ beyond beyond', Agree
      (wepDecrypt key (hdr ++ first) rest hdr.length ((first ++ rest.flatten).length - 4) beyond)
      (wepDecrypt key (hdr ++ (first ++ rest.flatten)) [] hdr.length ((first ++ rest.flatten).length - 4) beyond')) ↔
    4 ≤ ((first :: rest).getLast (List.cons_ne_nil first rest)).length ∨
      (first ++ rest.flatten).drop ((first ++ rest.flatten).length - 4) ≠
          rightIcv key ((first ++ rest.flatten).take ((first ++ rest.flatten).length - 4)) ∧
        ¬ (first :: rest).getLast (List.cons_ne_nil first rest) <+:
          rightIcv key ((first ++ rest.flatten).take ((first ++ rest.flatten).length - 4)) := by
  have hdivided := fun beyond => wepDecrypt_spec key hdr first rest beyond hicv
  have hsingle := fun beyond => wepDecrypt_spec key hdr (first ++ rest.flatten) [] beyond
    (by rw [List.flatten_nil, List.append_nil]; exact hicv)
  simp only [List.flatten_nil, List.append_nil, List.getLast_singleton, Nat.min_eq_left hicv] at hsingle
  have hlast := getLast_suffix first rest
  generalize (first :: rest).getLast (List.cons_ne_nil first rest) = last at *
  generalize first ++ rest.flatten = body at *
  have hright := rightIcv_length key (body.take (body.length - 4))
  generalize rightIcv key (body.take (body.length - 4)) = right at *
  have hicvLength : (body.drop (body.length - 4)).length = 4 := by
    rw [List.length_drop]
    omega
  -- both runs decrypt the same bytes, so that only their results count
  have hagree : ∀ beyond beyond', Agree (wepDecrypt key (hdr ++ first) rest hdr.length (body.length - 4) beyond)
      (wepDecrypt key (hdr ++ body) [] hdr.length (body.length - 4) beyond') ↔
      (ReadsAs (readAt (body.drop (body.length - min 4 last.length)) beyond) right ↔
        body.drop (body.length - 4) = right) := by
    intro beyond beyond'
    obtain ⟨out, hrun, hbytes⟩ := hdivided beyond
    obtain ⟨out', hrun', hbytes'⟩ := hsingle beyond'
    rw [hrun, hrun', agree_some (hbytes.trans hbytes'.symm), decide_eq_decide, readsAs_of_length hicvLength hright]
  simp only [hagree]
  by_cases hwhole : 4 ≤ last.length
  · refine iff_of_true (fun beyond _ => ?_) (.inl hwhole)
    rw [Nat.min_eq_left hwhole]
    exact readsAs_of_length hicvLength hright
  · have hrest : body.drop (body.length - min 4 last.length) = last := by
      rw [Nat.min_eq_right (by omega)]
      exact (List.suffix_iff_eq_drop.mp hlast).symm
    rw [hrest]
    constructor
    · intro h
      have hnot : ¬ last <+: right := by
        intro hpre
        have hwas : body.drop (body.length - 4) = right :=
          (h (fun k => right.getD (last.length + k) 0) fun _ => 0).mp (readsAs_beyond hpre)
        -- with another byte behind the last mbuf the ICV is not found
        have hread := (h (fun k => right.getD (last.length + k) 0 + 1) fun _ => 0).mpr hwas last.length (by omega)
        rw [readAt_of_ge (Nat.le_refl _), Nat.sub_self, Nat.add_zero] at hread
        exact absurd hread (by bv_omega)
      refine .inr ⟨fun hwas => ?_, hnot⟩
      exact hnot (prefix_of_readsAs (by omega) hright ((h (fun _ => 0) fun _ => 0).mpr hwas))
    · rintro (hlen | ⟨hne, hnot⟩) beyond _
      · exact absurd hlen hwhole
      · exact iff_of_false (fun hread => hnot (prefix_of_readsAs (by omega) hright hread)) hne

/-- A frame in two mbufs, with its ICV in the second one. -/
theorem divided_agrees_behind_data : rightIcv (fun _ => 0) [1, 2, 3] = [0xbb, 0x98, 0xe3, 0x99] ∧ ∀ beyond beyond', Agree
    (wepDecrypt (fun _ => 0) ([0x08, 0x40] ++ [1, 2, 3]) [[0xbb, 0x98, 0xe3, 0x99]] 2 3 beyond)
    (wepDecrypt (fun _ => 0) ([0x08, 0x40] ++ [1, 2, 3, 0xbb, 0x98, 0xe3, 0x99]) [] 2 3 beyond') := by
  refine ⟨by decide +kernel, ?_⟩
  exact (divided_agrees_iff (fun _ => 0) [0x08, 0x40] [1, 2, 3] [[0xbb, 0x98, 0xe3, 0x99]] (by decide)).mpr (.inl (by decide))

/-- **An ICV that is divided between two mbufs is not found**: two bytes are looked for behind the frame. -/
theorem divided_icv_disagrees : ¬ ∀ beyond beyond', Agree
    (wepDecrypt (fun _ => 0) ([0x08, 0x40] ++ (List.replicate 8 0 ++ (rightIcv (fun _ => 0) (List.replicate 8 0)).take 2))
      [(rightIcv (fun _ => 0) (List.replicate 8 0)).drop 2] 2 8 beyond)
    (wepDecrypt (fun _ => 0) ([0x08, 0x40] ++ (List.replicate 8 0 ++ rightIcv (fun _ => 0) (List.replicate 8 0)))
      [] 2 8 beyond') := by
  have hlength := rightIcv_length (fun _ => 0) (List.replicate 8 0)
  have hdata : (List.replicate 8 (0 : Byte)).length = 8 := List.length_replicate
  have hwhole : List.replicate 8 0 ++ (rightIcv (fun _ => 0) (List.replicate 8 0)).take 2 ++
      [(rightIcv (fun _ => 0) (List.replicate 8 0)).drop 2].flatten =
      List.replicate 8 0 ++ rightIcv (fun _ => 0) (List.replicate 8 0) := by
    rw [List.flatten_singleton, List.append_assoc, List.take_append_drop]
  have hiff := divided_agrees_iff (fun _ => 0) [0x08, 0x40]
    (List.replicate 8 0 ++ (rightIcv (fun _ => 0) (List.replicate 8 0)).take 2)
    [(rightIcv (fun _ => 0) (List.replicate 8 0)).drop 2] (by rw [hwhole, List.length_append]; omega)
  rw [hwhole, List.length_append, hdata, hlength, show 8 + 4 - 4 = 8 from rfl, List.drop_left' hdata,
    List.take_left' hdata, List.getLast_cons (List.cons_ne_nil _ _), List.getLast_singleton, List.length_drop, hlength] at hiff
  intro h
  obtain hle | ⟨hne, -⟩ := hiff.mp h
  · exact absurd hle (by decide)
  · exact hne rfl

end Net80211.Wep
