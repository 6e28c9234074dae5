import Wifi.Lib.Ccm
import Wifi.Linux.Elements

/-!
# CCMP in software (`freebsd/sys/net80211/ieee80211_crypto_ccmp.c`)

* `Chain` — the data of the mbufs of a frame; `MbufApi` has the functions that need memory.
* `ccmpInitBlocks` — the first blocks of CCM, from the header of the frame.
* `encryptLoop` — the loop of `ccmp_encrypt`; `gather` and `scatter` are its two loops for a block that
  is in more than one mbuf.
* `decryptLoop` — the loop of `ccmp_decrypt`.
* `ccmpEncap`, `ccmpDecap` — the functions of the cipher.

AES is any function on blocks.  Statistics and messages are left out.
-/

namespace Net80211.Ccmp

open Ccm

/-- `rijndael_encrypt` with a key -/
abbrev Aes := BlockCipher 8 16

/-! ## Mbufs -/

abbrev Chain := List (List Byte)

/-- `m_adj` with a positive length -/
def adjHead : Chain → Nat → Chain
  | [], _ => []
  | b :: m, len => b.drop len :: adjHead m (len - b.length)

/-- The first bytes of a chain, in the same mbufs. -/
def keepHead : Chain → Nat → Chain
  | [], _ => []
  | b :: m, len => b.take len :: keepHead m (len - b.length)

/-- `m_adj` with a negative length -/
def adjTail (m : Chain) (len : Nat) : Chain := keepHead m (m.flatten.length - len)

theorem adjHead_flatten (m : Chain) (len : Nat) : (adjHead m len).flatten = m.flatten.drop len := by
  induction m generalizing len with
  | nil => exact List.drop_nil.symm
  | cons b m ih =>
    unfold adjHead
    rw [List.flatten_cons, List.flatten_cons, ih, List.drop_append]

theorem keepHead_flatten (m : Chain) (len : Nat) : (keepHead m len).flatten = m.flatten.take len := by
  induction m generalizing len with
  | nil => exact List.take_nil.symm
  | cons b m ih =>
    unfold keepHead
    rw [List.flatten_cons, List.flatten_cons, ih, List.take_append]

/-- The functions of `<sys/mbuf.h>` that can fail. -/
structure MbufApi where
  /-- `M_PREPEND`, for a frame that has room in its first mbuf -/
  prepend : Chain → Nat → Option Chain
  /-- `m_append` -/
  append : Chain → List Byte → Option Chain
  prepend_room : ∀ {first : List Byte} {rest m : Chain} {len : Nat},
    prepend (first :: rest) len = some m → ∃ room : List Byte, room.length = len ∧ m = (room ++ first) :: rest
  append_flatten : ∀ {m m' : Chain} {data : List Byte},
    append m data = some m' → m'.flatten = m.flatten ++ data

/-! ## The header of a frame -/

def IEEE80211_ADDR_LEN : Nat := 6
def IEEE80211_NONQOS_TID : Nat := 16
def IEEE80211_WEP_EXTIV : Byte := 0x20
abbrev AES_BLOCK_LEN : Nat := 16
/-- `ccmp.ic_header` -/
abbrev icHeader : Nat := 8
/-- `ccmp.ic_trailer` -/
abbrev icTrailer : Nat := 8

/-- `IEEE80211_IS_MGMT` -/
def isMgmt (wh : List Byte) : Bool := decide (wh.getD 0 0 &&& 0x0c = 0x00)

/-- `IEEE80211_IS_DSTODS` -/
def isDstods (wh : List Byte) : Bool := decide (wh.getD 1 0 &&& 0x03 = 0x03)

/-- `IEEE80211_QOS_HAS_SEQ` -/
def qosHasSeq (wh : List Byte) : Bool := decide (wh.getD 0 0 &&& 0x8c = 0x88)

/-- `i_qos[0]` of `struct ieee80211_qosframe` and `struct ieee80211_qosframe_addr4` -/
def iQos0 (wh : List Byte) : Byte := if isDstods wh then wh.getD 30 0 else wh.getD 24 0

def ieee80211Hdrsize (wh : List Byte) : Nat :=
  24 + (if isDstods wh then IEEE80211_ADDR_LEN else 0) + (if qosHasSeq wh then 2 else 0)

/-- `ieee80211_hdrspace`; `datapad` is `IEEE80211_F_DATAPAD`. -/
def ieee80211Hdrspace (datapad : Bool) (wh : List Byte) : Nat :=
  if datapad then (ieee80211Hdrsize wh + 3) / 4 * 4 else ieee80211Hdrsize wh

def ieee80211Gettid (wh : List Byte) : Nat :=
  if qosHasSeq wh then (iQos0 wh &&& 0x0f).toNat else IEEE80211_NONQOS_TID

/-! ## The first blocks -/

/-- What `ccmp_init_blocks` computes. -/
structure InitBlocks where
  b0 : List Byte
  auth : List Byte
  s0 : List Byte

/-- The six bytes of the packet number, as they are in the nonce. -/
def pnBytes (pn : BitVec 64) : List Byte :=
  [(pn >>> 40).setWidth 8, (pn >>> 32).setWidth 8, (pn >>> 24).setWidth 8, (pn >>> 16).setWidth 8,
    (pn >>> 8).setWidth 8, (pn >>> 0).setWidth 8]

/-- `b0[1]`: the priority -/
def b0Flags (wh : List Byte) : Byte := if qosHasSeq wh then iQos0 wh &&& 0x0f else 0

/-- The additional data, with its length, as two blocks. -/
def ccmpAad (wh : List Byte) : List Byte :=
  let len := 22 + (if isDstods wh then IEEE80211_ADDR_LEN else 0) + (if qosHasSeq wh then 2 else 0)
  let addr4 := if isDstods wh then (wh.drop 24).take IEEE80211_ADDR_LEN else []
  let qos := if qosHasSeq wh then [iQos0 wh &&& 0x0f, 0] else [0, 0]
  let pad := if isDstods wh then [] else [0, 0, 0, 0, 0, 0]
  [0, BitVec.ofNat 8 len, wh.getD 0 0 &&& 0x8f, wh.getD 1 0 &&& 0xc7] ++
    (wh.drop 4).take (3 * IEEE80211_ADDR_LEN) ++ [wh.getD 22 0 &&& 0x0f, 0] ++ addr4 ++ qos ++ pad

def ccmpInitBlocks (ctx : Aes) (wh : List Byte) (pn : BitVec 64) (dlen : Nat) : InitBlocks :=
  let nonce := b0Flags wh :: ((wh.drop 10).take IEEE80211_ADDR_LEN ++ pnBytes pn)
  let aad := ccmpAad wh
  let auth := ctx.encrypt (0x59 :: (nonce ++ [BitVec.ofNat 8 (dlen / 256), BitVec.ofNat 8 dlen]))
  let auth := ctx.encrypt (xorAt auth 0 (aad.take AES_BLOCK_LEN))
  let auth := ctx.encrypt (xorAt auth 0 ((aad.drop AES_BLOCK_LEN).take AES_BLOCK_LEN))
  let b0 := (0x59 &&& 0x07) :: (nonce ++ [0, 0])
  { b0 := b0, auth := auth, s0 := ctx.encrypt b0 }

/-- `_b0[14] = (_i >> 8) & 0xff; _b0[15] = _i & 0xff` -/
def setCounter (b0 : List Byte) (i : Nat) : List Byte :=
  b0.take 14 ++ [BitVec.ofNat 8 (i / 256), BitVec.ofNat 8 i]

/-! ## Encryption -/

section Encrypt

variable (ctx : Aes) (b0 : List Byte)

/-- `CCMP_ENCRYPT`: the block `_b` afterwards, and the data at `_pos`. -/
def ccmpEncryptBlock (i : Nat) (b pos : List Byte) (len : Nat) : List Byte × List Byte :=
  (ctx.encrypt (xorAt b 0 (pos.take len)), xorAt pos 0 ((ctx.encrypt (setCounter b0 i)).take len))

/-- The loop over whole blocks, which runs `n` times: the block `b`, and the data that was
    encrypted. -/
def encryptFull : Nat → Nat → List Byte → List Byte → List Byte × List Byte
  | 0, _, b, _ => (b, [])
  | n + 1, i, b, pos =>
    let r := ccmpEncryptBlock ctx b0 i b (pos.take AES_BLOCK_LEN) AES_BLOCK_LEN
    let rest := encryptFull n (i + 1) r.1 (pos.drop AES_BLOCK_LEN)
    (rest.1, r.2 ++ rest.2)

/-- The first loop for a block that straddles: `b` with the data of the mbufs that follow, from byte
    `sp` on. -/
def gather (b : List Byte) : Nat → Nat → Chain → List Byte
  | _, _, [] => b
  | sp, dl, n :: ns =>
    let len := min dl AES_BLOCK_LEN
    let spaceNext := if len > sp then len - sp else 0
    if n.length ≥ spaceNext then xorAt b sp (n.take spaceNext)
    else gather (xorAt b sp n) (sp + n.length) (dl - n.length) ns

/-- What the second loop leaves: the mbufs that it took whole, and, unless it went off the end, the
    mbuf in which it stopped (before and from `pos`) and those that follow. -/
structure Scattered where
  whole : Chain
  stop : Option (List Byte × List Byte × Chain)

/-- The second loop, which puts the rest of `e` on the same mbufs. -/
def scatter (e : List Byte) : Nat → Nat → Chain → Scattered
  | _, _, [] => { whole := [], stop := none }
  | sp, dl, m :: ms =>
    let len := min dl AES_BLOCK_LEN
    let spaceNext := if len > sp then len - sp else 0
    if m.length ≥ spaceNext then
      { whole := [], stop := some (xorAt (m.take spaceNext) 0 (e.drop sp), m.drop spaceNext, ms) }
    else
      let r := scatter e (sp + m.length) (dl - m.length) ms
      { whole := xorAt m 0 (e.drop sp) :: r.whole, stop := r.stop }

/-- The main loop.  The mbuf at hand is `done`, before `pos`, and the data from `pos` on, which `space`
    counts; `rest` follows.  Every round but the last takes mbufs from `rest`. -/
def encryptLoop : Nat → Nat → List Byte → Int → List Byte → List Byte → Chain → Chain × List Byte
  | 0, _, b, _, done, pos, rest => ((done ++ pos) :: rest, b)
  | fuel + 1, i, b, dataLen, done, pos, rest =>
    let space : Int := if (pos.length : Int) > dataLen then dataLen else pos.length
    let n := space.toNat / AES_BLOCK_LEN
    let full := encryptFull ctx b0 n i b pos
    let i := i + n
    let b := full.1
    let done := done ++ full.2
    let pos := pos.drop (AES_BLOCK_LEN * n)
    let space := space - (AES_BLOCK_LEN * n : Nat)
    let dataLen := dataLen - (AES_BLOCK_LEN * n : Nat)
    if dataLen ≤ 0 then ((done ++ pos) :: rest, b)
    else
      match rest with
      | [] =>
        if space ≠ 0 then
          let r := ccmpEncryptBlock ctx b0 i b pos space.toNat
          ([done ++ r.2], r.1)
        else ([done ++ pos], b)
      | m :: ms =>
        if space ≠ 0 then
          let b := gather b space.toNat dataLen.toNat (m :: ms)
          let r := ccmpEncryptBlock ctx b0 i b pos space.toNat
          let s := scatter (ctx.encrypt (setCounter b0 i)) space.toNat dataLen.toNat (m :: ms)
          match s.stop with
          | none => ((done ++ r.2) :: s.whole, r.1)
          | some (front, pos', rest') =>
            let t := encryptLoop fuel (i + 1) r.1 (dataLen - AES_BLOCK_LEN) front pos' rest'
            ((done ++ r.2) :: (s.whole ++ t.1), t.2)
        else
          let t := encryptLoop fuel i b dataLen [] m ms
          ((done ++ pos) :: t.1, t.2)

end Encrypt

/-- `ccmp_encrypt` until the MIC is appended: the chain, and the MIC. -/
def encryptChain (ctx : Aes) (pn : BitVec 64) (m : Chain) (hdrlen : Nat) : Chain × List Byte :=
  match m with
  | [] => ([], [])
  | m0 :: rest =>
    let dataLen : Int := m.flatten.length - (hdrlen + icHeader : Nat)
    let init := ccmpInitBlocks ctx m0 pn dataLen.toNat
    let r := encryptLoop ctx init.b0 (rest.length + 1) 1 init.auth dataLen (m0.take (hdrlen + icHeader))
      (m0.drop (hdrlen + icHeader)) rest
    (r.1, (xorAt r.2 0 (init.s0.take icTrailer)).take icTrailer)

def ccmpEncrypt (api : MbufApi) (ctx : Aes) (pn : BitVec 64) (m : Chain) (hdrlen : Nat) : Option Chain :=
  let r := encryptChain ctx pn m hdrlen
  api.append r.1 r.2

/-! ## Decryption -/

section Decrypt

variable (ctx : Aes) (b0 : List Byte)

/-- `CCMP_DECRYPT`: the block `_a` afterwards, and the data at `_pos`. -/
def ccmpDecryptBlock (i : Nat) (a pos : List Byte) (len : Nat) : List Byte × List Byte :=
  let pos := xorAt pos 0 ((ctx.encrypt (setCounter b0 i)).take len)
  (ctx.encrypt (xorAt a 0 (pos.take len)), pos)

/-- The loop over whole blocks, which runs `n` times. -/
def decryptFull : Nat → Nat → List Byte → List Byte → List Byte × List Byte
  | 0, _, a, _ => (a, [])
  | n + 1, i, a, pos =>
    let r := ccmpDecryptBlock ctx b0 i a (pos.take AES_BLOCK_LEN) AES_BLOCK_LEN
    let rest := decryptFull n (i + 1) r.1 (pos.drop AES_BLOCK_LEN)
    (rest.1, r.2 ++ rest.2)

/-- The main loop; `none` when the `KASSERT` fails. -/
def decryptLoop : Nat → Nat → List Byte → Nat → List Byte → List Byte → Chain → Option (Chain × List Byte)
  | 0, _, a, _, done, pos, rest => some ((done ++ pos) :: rest, a)
  | fuel + 1, i, a, dataLen, done, pos, rest =>
    let space := if pos.length > dataLen then dataLen else pos.length
    let n := space / AES_BLOCK_LEN
    let full := decryptFull ctx b0 n i a pos
    let i := i + n
    let a := full.1
    let done := done ++ full.2
    let pos := pos.drop (AES_BLOCK_LEN * n)
    let space := space - AES_BLOCK_LEN * n
    let dataLen := dataLen - AES_BLOCK_LEN * n
    if dataLen = 0 then some ((done ++ pos) :: rest, a)
    else
      match rest with
      | [] =>
        if space ≠ 0 then
          let r := ccmpDecryptBlock ctx b0 i a pos space
          some ([done ++ r.2], r.1)
        else some ([done ++ pos], a)
      | m :: ms =>
        if space ≠ 0 then
          let len := min dataLen AES_BLOCK_LEN
          let spaceNext := if len > space then len - space else 0
          if m.length < spaceNext then none
          else
            -- the data of the next mbuf goes to `b`, which CCMP_DECRYPT then overwrites
            let r := ccmpDecryptBlock ctx b0 i a pos space
            let front := xorAt (m.take spaceNext) 0 ((ctx.encrypt (setCounter b0 i)).drop space)
            (decryptLoop fuel (i + 1) r.1 (dataLen - len) front (m.drop spaceNext) ms).map fun t =>
              ((done ++ r.2) :: t.1, t.2)
        else (decryptLoop fuel i a dataLen [] m ms).map fun t => ((done ++ pos) :: t.1, t.2)

end Decrypt

/-- `ccmp_decrypt`: the chain, and whether the MIC is right. -/
def ccmpDecrypt (ctx : Aes) (pn : BitVec 64) (m : Chain) (hdrlen : Nat) : Option (Chain × Bool) :=
  match m with
  | [] => none
  | m0 :: rest =>
    let dataLen := m.flatten.length - (hdrlen + icHeader + icTrailer)
    let init := ccmpInitBlocks ctx m0 pn dataLen
    let mic := (m.flatten.drop (m.flatten.length - icTrailer)).take icTrailer
    let mic := xorAt mic 0 (init.s0.take icTrailer)
    (decryptLoop ctx init.b0 (rest.length + 1) 1 init.auth dataLen (m0.take (hdrlen + icHeader))
      (m0.drop (hdrlen + icHeader)) rest).map fun r => (r.1, decide (mic = r.2.take icTrailer))

/-! ## The functions of the cipher -/

/-- `struct ieee80211_key` -/
structure Key where
  /-- `IEEE80211_KEY_SWENCRYPT` -/
  swEncrypt : Bool
  /-- `IEEE80211_KEY_SWDECRYPT` -/
  swDecrypt : Bool
  /-- `IEEE80211_KEY_NOREPLAY` -/
  noReplay : Bool
  /-- `IEEE80211_KEY_NOIV` -/
  noIv : Bool
  /-- `IEEE80211_KEY_NOIVMGT` -/
  noIvMgt : Bool
  wkKeytsc : BitVec 64
  /-- `wk_keyrsc`, by TID -/
  wkKeyrsc : Nat → BitVec 64
  /-- `ieee80211_crypto_get_keyid` -/
  keyid : Byte
  /-- `cc_aes`, for `wk_key` -/
  aes : Aes

/-- `ccmp_setiv`: the key, and the eight bytes at `ivp`. -/
def ccmpSetiv (k : Key) : Key × List Byte :=
  let k := { k with wkKeytsc := k.wkKeytsc + 1 }
  (k, [(k.wkKeytsc >>> 0).setWidth 8, (k.wkKeytsc >>> 8).setWidth 8, 0,
    (k.keyid <<< 6) ||| IEEE80211_WEP_EXTIV, (k.wkKeytsc >>> 16).setWidth 8,
    (k.wkKeytsc >>> 24).setWidth 8, (k.wkKeytsc >>> 32).setWidth 8, (k.wkKeytsc >>> 40).setWidth 8])

/-- `ccmp_encap`: the key, and the frame unless 0 is returned. -/
def ccmpEncap (api : MbufApi) (datapad : Bool) (k : Key) (m : Chain) : Key × Option Chain :=
  let wh := m.headD []
  let hdrlen := ieee80211Hdrspace datapad wh
  if isMgmt wh && k.noIvMgt then (k, some m)
  else if !isMgmt wh && k.noIv then (k, some m)
  else
    match api.prepend m icHeader with
    | none => (k, none)
    | some m =>
      let first := m.headD []
      let r := ccmpSetiv k
      let first := (first.drop icHeader).take hdrlen ++ r.2 ++ first.drop (hdrlen + icHeader)
      let m := first :: m.tail
      if r.1.swEncrypt then (r.1, ccmpEncrypt api r.1.aes r.1.wkKeytsc m hdrlen) else (r.1, some m)

def READ_6 (b0 b1 b2 b3 b4 b5 : Byte) : BitVec 64 :=
  let iv32 : BitVec 32 := b0.setWidth 32 ||| (b1.setWidth 32 <<< 8) ||| (b2.setWidth 32 <<< 16) |||
    (b3.setWidth 32 <<< 24)
  let iv16 : BitVec 16 := b4.setWidth 16 ||| (b5.setWidth 16 <<< 8)
  (iv16.setWidth 64 <<< 32) ||| iv32.setWidth 64

/-- `c_pktflags` of the `ieee80211_rx_stats` of a frame, if it has any. -/
structure RxFlags where
  ivStrip : Bool := false
  mmicStrip : Bool := false

/-- `ccmp_decap`: the key, and the frame unless 0 is returned; `none` when a `KASSERT` fails. -/
def ccmpDecap (rxs : RxFlags) (k : Key) (m : Chain) (hdrlen : Nat) : Option (Key × Option Chain) :=
  let wh := m.headD []
  let finish (m : Chain) : Chain := if rxs.mmicStrip then m else adjTail m icTrailer
  if rxs.ivStrip then some (k, some (finish m))
  else
    let ivp := wh.drop hdrlen
    if ivp.getD 3 0 &&& IEEE80211_WEP_EXTIV = 0 then some (k, none)
    else
      let tid := ieee80211Gettid wh
      let pn := READ_6 (ivp.getD 0 0) (ivp.getD 1 0) (ivp.getD 4 0) (ivp.getD 5 0) (ivp.getD 6 0)
        (ivp.getD 7 0)
      if pn ≤ k.wkKeyrsc tid ∧ k.noReplay = false then some (k, none)
      else
        match (if k.swDecrypt then ccmpDecrypt k.aes pn m hdrlen else some (m, true)) with
        | none => none
        | some (_, false) => some (k, none)
        | some (m, true) =>
          let first := m.headD []
          let m := (first.take icHeader ++ first.take hdrlen ++ first.drop (hdrlen + icHeader)) :: m.tail
          let k := { k with wkKeyrsc := fun t => if t = tid then pn else k.wkKeyrsc t }
          some (k, some (finish (adjHead m icHeader)))

end Net80211.Ccmp
