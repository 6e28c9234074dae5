import Wifi.Lib.ByteOrder
import Wifi.Linux.Ieee80211

/-!
# Encryption and replay detection (`linux/net/mac80211/wpa.c`)

* `Key`, `RxData`, `TxData` — what the functions read and write of `struct ieee80211_key`,
  `struct ieee80211_rx_data` and `struct ieee80211_tx_data`.
* `ccmpPn2hdr`, `ccmpHdr2pn`, `bipIpnSet64`, `bipIpnSwap` — the byte orders of a packet number.
* `ccmpDecrypt`, `gcmpDecrypt`, `aesCmacDecrypt`, `aesCmac256Decrypt`, `aesGmacDecrypt` and the
  functions that encrypt.
* `rxHDecrypt`, `txHEncrypt` — the choice of one of them by the cipher of the key.

The block cipher is not in the tree: `CryptoApi` is what its modes compute with the key.  CCMP and
GCMP are one definition, as are the three BIP ciphers, with what they differ in as parameters.
-/

namespace Mac80211.Wpa

open ByteOrder

/-! ## Keys, frames and results -/

/-- A packet number, the most significant byte first. -/
abbrev Pn := Vector Byte 6

def Pn.value (pn : Pn) : Nat := beValue pn.toList

/-- The ciphers with one packet number of 48 bits (`key->conf.cipher`). -/
inductive Cipher where
  | ccmp | ccmp256 | gcmp | gcmp256 | aesCmac | bipCmac256 | bipGmac128 | bipGmac256
  deriving DecidableEq, Repr

/-- `struct ieee80211_key`: the counters of `u.ccmp`, `u.gcmp`, `u.aes_cmac` or `u.aes_gmac`. -/
structure Key where
  cipher : Cipher
  keyidx : Byte
  /-- `conf.flags & IEEE80211_KEY_FLAG_SPP_AMSDU` -/
  sppAmsdu : Bool
  /-- `conf.flags & IEEE80211_KEY_FLAG_GENERATE_MMIE` -/
  generateMmie : Bool
  txPn : BitVec 64
  /-- `rx_pn[]`; the BIP ciphers have one packet number, the first -/
  rxPn : Nat → Pn
  replays : BitVec 32
  icverrors : BitVec 32

/-- `ieee80211_rx_result` -/
inductive RxResult where
  | rxContinue | rxDropUOom | rxDropUReplay | rxDropUMicFail | rxDropUBadMmie
  | rxDropUShortCcmp | rxDropUShortCcmpMic | rxDropUShortGcmp | rxDropUShortGcmpMic
  | rxDropUShortCmac | rxDropUShortCmac256 | rxDropUShortGmac
  deriving DecidableEq, Repr

/-- `status->flag` -/
structure RxFlag where
  decrypted : Bool
  micStripped : Bool
  pnValidated : Bool
  allowSamePn : Bool

/-- `struct ieee80211_rx_data` -/
structure RxData where
  skb : SkBuff
  /-- `rx->sta` is not `NULL` -/
  sta : Bool
  securityIdx : Nat
  flag : RxFlag
  /-- `ccm_gcm.pn` -/
  ccmGcmPn : Pn

/-- Whether there is memory where it is asked for. -/
structure RxMemory where
  linearize : Bool
  mayPull : Bool
  trim : Bool
  kmalloc : Bool

/-- The result of a handler, with the key and the frame after it. -/
structure RxStep where
  result : RxResult
  key : Key
  rx : RxData

/-- What the crypto library computes with the key, and a test of the header file. -/
structure CryptoApi where
  /-- `ieee80211_is_robust_mgmt_frame` -/
  isRobustMgmtFrame : List Byte → Bool
  /-- ciphertext and MIC, from the nonce block, the AAD, the data and the length of the MIC -/
  ccmEncrypt : List Byte → List Byte → List Byte → Nat → Option (List Byte × List Byte)
  /-- the data, when the MIC is right -/
  ccmDecrypt : List Byte → List Byte → List Byte → List Byte → Option (List Byte)
  gcmEncrypt : List Byte → List Byte → List Byte → Nat → Option (List Byte × List Byte)
  gcmDecrypt : List Byte → List Byte → List Byte → List Byte → Option (List Byte)
  /-- `cmac(aes)` -/
  cmac : List Byte → List Byte
  /-- the tag of `gcm(aes)` for an IV and data that is only authenticated -/
  gmac : List Byte → List Byte → Option (List Byte)
  cmac_length : ∀ data, (cmac data).length = 16
  gmac_length : ∀ iv data tag, gmac iv data = some tag → tag.length = 16

/-! ## Packet numbers -/

/-- `pn[5] = pn64; pn[4] = pn64 >> 8; …` -/
def pnOf (pn64 : BitVec 64) : Pn :=
  #v[(pn64 >>> 40).setWidth 8, (pn64 >>> 32).setWidth 8, (pn64 >>> 24).setWidth 8,
    (pn64 >>> 16).setWidth 8, (pn64 >>> 8).setWidth 8, pn64.setWidth 8]

/-- `ccmp_pn2hdr` and `gcmp_pn2hdr` -/
def ccmpPn2hdr (pn : Pn) (keyId : Byte) : List Byte :=
  [pn[5], pn[4], 0, 0x20 ||| (keyId <<< 6), pn[3], pn[2], pn[1], pn[0]]

/-- `ccmp_hdr2pn` and `gcmp_hdr2pn` -/
def ccmpHdr2pn (hdr : List Byte) : Pn :=
  #v[hdr.getD 7 0, hdr.getD 6 0, hdr.getD 5 0, hdr.getD 4 0, hdr.getD 1 0, hdr.getD 0 0]

def bipIpnSet64 (pn : BitVec 64) : List Byte :=
  [pn.setWidth 8, (pn >>> 8).setWidth 8, (pn >>> 16).setWidth 8, (pn >>> 24).setWidth 8,
    (pn >>> 32).setWidth 8, (pn >>> 40).setWidth 8]

def bipIpnSwap (s : List Byte) : Pn :=
  #v[s.getD 5 0, s.getD 4 0, s.getD 3 0, s.getD 2 0, s.getD 1 0, s.getD 0 0]

def Key.setRxPn (key : Key) (queue : Nat) (pn : Pn) : Key :=
  { key with rxPn := Function.update key.rxPn queue pn }

/-! ## CCMP and GCMP -/

/-- `IEEE80211_CCMP_HDR_LEN`, `IEEE80211_GCMP_HDR_LEN` -/
def IEEE80211_CCMP_HDR_LEN : Nat := 8
def IEEE80211_CCMP_MIC_LEN : Nat := 8
def IEEE80211_CCMP_256_MIC_LEN : Nat := 16
def IEEE80211_GCMP_MIC_LEN : Nat := 16

/-- `mask_fc` without the bits that change on the way. -/
def maskFc (fc : FrameControl) : FrameControl :=
  fc &&& ~~~(IEEE80211_FCTL_RETRY ||| IEEE80211_FCTL_PM ||| IEEE80211_FCTL_MOREDATA)

/-- `ccmp_gcmp_aad`: the AAD, behind its length, and the TID. -/
def ccmpGcmpAad (data : List Byte) (sppAmsdu : Bool) : List Byte × Byte :=
  let fc := frameControl data
  let maskedFc := if fc.isMgmt then maskFc fc else maskFc fc &&& ~~~0x0070
  let maskedFc := maskedFc ||| IEEE80211_FCTL_PROTECTED
  let lenA := if fc.hasA4 then 28 else 22
  let qosTid := if sppAmsdu then qosCtl data &&& 0x8f else qosCtl data &&& 0x0f
  let (maskedFc, lenA, qosTid) :=
    if fc.isDataQos then (maskedFc &&& ~~~IEEE80211_FCTL_ORDER, lenA + 2, qosTid)
    else (maskedFc, lenA, 0)
  let aad := [0, BitVec.ofNat 8 lenA] ++ toLe16 maskedFc ++ (data.drop 4).take 18 ++
    [data.getD 22 0 &&& 0x0f, 0]
  let rest := if fc.hasA4 then (data.drop 24).take 6 ++ [qosTid, 0]
    else qosTid :: List.replicate 7 0
  (aad ++ rest, qosTid)

/-- `hdr->addr2` -/
def addr2 (data : List Byte) : List Byte := (data.drop 10).take 6

/-- `ccmp_special_blocks`: `b_0`, and the AAD. -/
def ccmpSpecialBlocks (data : List Byte) (pn : Pn) (sppAmsdu : Bool) : List Byte × List Byte :=
  let (aad, qosTid) := ccmpGcmpAad data sppAmsdu
  let mgmt : Byte := if (frameControl data).isMgmt then 1 else 0
  (0x1 :: (qosTid ||| mgmt <<< 4) :: (addr2 data ++ pn.toList), aad)

/-- `gcmp_special_blocks`: `j_0`, and the AAD. -/
def gcmpSpecialBlocks (data : List Byte) (pn : Pn) (sppAmsdu : Bool) : List Byte × List Byte :=
  (addr2 data ++ (pn.toList ++ [0, 0, 0, 0x01]), (ccmpGcmpAad data sppAmsdu).1)

structure Aead where
  specialBlocks : List Byte → Pn → Bool → List Byte × List Byte
  encrypt : List Byte → List Byte → List Byte → Nat → Option (List Byte × List Byte)
  decrypt : List Byte → List Byte → List Byte → List Byte → Option (List Byte)
  dropShort : RxResult
  dropShortMic : RxResult

/-- The end of the function: the trailer and the CCMP header are removed. -/
def aeadStrip (a : Aead) (mem : RxMemory) (key : Key) (rx : RxData) (skb : SkBuff)
    (hdrlen micLen : Nat) : RxStep :=
  match skb.trim (skb.len - micLen) mem.trim with
  | none => ⟨a.dropShortMic, key, { rx with skb := skb }⟩
  | some skb =>
    let head := skb.head.take hdrlen ++ skb.head.drop (hdrlen + IEEE80211_CCMP_HDR_LEN)
    ⟨.rxContinue, key, { rx with skb := { skb with head := head } }⟩

/-- The frame in memory that can be read, and the length of the MIC that is still there. -/
def aeadPrepare (a : Aead) (mem : RxMemory) (rx : RxData) (hdrlen micLen : Nat) :
    Except RxResult (SkBuff × Nat) :=
  if rx.flag.decrypted then
    match rx.skb.mayPull (hdrlen + IEEE80211_CCMP_HDR_LEN) mem.mayPull with
    | none => .error a.dropShort
    | some skb => .ok (skb, if rx.flag.micStripped then 0 else micLen)
  else
    match rx.skb.linearize mem.linearize with
    | none => .error .rxDropUOom
    | some skb => .ok (skb, micLen)

/-- The data with its plaintext; a frame that the hardware has decrypted is as it is. -/
def aeadOpen (a : Aead) (key : Key) (rx : RxData) (skb : SkBuff) (pn : Pn) (hdrlen micLen : Nat) :
    Option SkBuff :=
  if rx.flag.decrypted then
    some skb
  else
    let data := hdrlen + IEEE80211_CCMP_HDR_LEN
    let dataLen := skb.len - data - micLen
    let (block, aad) := a.specialBlocks skb.bytes pn key.sppAmsdu
    (a.decrypt block aad ((skb.bytes.drop data).take dataLen) (skb.bytes.drop (skb.len - micLen))).map
      fun plain =>
        { skb with head := skb.bytes.take data ++ (plain ++ skb.bytes.drop (skb.len - micLen)) }

/-- `ieee80211_crypto_ccmp_decrypt` and `ieee80211_crypto_gcmp_decrypt` -/
def aeadDecrypt (api : CryptoApi) (a : Aead) (micLen : Nat) (mem : RxMemory) (key : Key)
    (rx : RxData) : RxStep :=
  let fc := frameControl rx.skb.bytes
  let hdrlen := ieee80211Hdrlen fc
  if !fc.isData && !api.isRobustMgmtFrame rx.skb.bytes then
    ⟨.rxContinue, key, rx⟩
  else
    match aeadPrepare a mem rx hdrlen micLen with
    | .error drop => ⟨drop, key, rx⟩
    | .ok (skb, micLen) =>
      let rx := { rx with skb := skb }
      if !rx.sta || decide (skb.len < hdrlen + IEEE80211_CCMP_HDR_LEN + micLen) then
        ⟨a.dropShort, key, rx⟩
      else if rx.flag.pnValidated then
        aeadStrip a mem key rx skb hdrlen micLen
      else
        let pn := ccmpHdr2pn (skb.bytes.drop hdrlen)
        let queue := rx.securityIdx
        let res := memcmp pn.toList (key.rxPn queue).toList
        if res = .lt ∨ (res = .eq ∧ rx.flag.allowSamePn = false) then
          ⟨.rxDropUReplay, { key with replays := key.replays + 1 }, rx⟩
        else
          match aeadOpen a key rx skb pn hdrlen micLen with
          | none => ⟨.rxDropUMicFail, key, rx⟩
          | some skb =>
            let rx := { rx with ccmGcmPn := if isFrag skb.bytes then pn else rx.ccmGcmPn }
            aeadStrip a mem (key.setRxPn queue pn) rx skb hdrlen micLen

def ccmpAead (api : CryptoApi) : Aead :=
  { specialBlocks := ccmpSpecialBlocks
    encrypt := api.ccmEncrypt
    decrypt := api.ccmDecrypt
    dropShort := .rxDropUShortCcmp
    dropShortMic := .rxDropUShortCcmpMic }

def gcmpAead (api : CryptoApi) : Aead :=
  { specialBlocks := gcmpSpecialBlocks
    encrypt := api.gcmEncrypt
    decrypt := api.gcmDecrypt
    dropShort := .rxDropUShortGcmp
    dropShortMic := .rxDropUShortGcmpMic }

/-- `ieee80211_crypto_ccmp_decrypt` -/
def ccmpDecrypt (api : CryptoApi) (micLen : Nat) : RxMemory → Key → RxData → RxStep :=
  aeadDecrypt api (ccmpAead api) micLen

/-- `ieee80211_crypto_gcmp_decrypt` -/
def gcmpDecrypt (api : CryptoApi) : RxMemory → Key → RxData → RxStep :=
  aeadDecrypt api (gcmpAead api) IEEE80211_GCMP_MIC_LEN

/-! ## BIP -/

def bipAad (data : List Byte) : List Byte :=
  toLe16 (maskFc (frameControl data)) ++ (data.drop 4).take 18

/-- The data that a BIP cipher authenticates (`aes_cmac.c`, `aes_gmac.c`): the timestamp of a beacon
    and the MIC are taken as zero. -/
def bipBody (aad data : List Byte) (tlen : Nat) : List Byte :=
  let body :=
    if (frameControl aad).isBeacon then
      List.replicate 8 0 ++ (data.drop 8).take (data.length - 8 - tlen)
    else
      data.take (data.length - tlen)
  aad ++ (body ++ List.replicate tlen 0)

/-- `ieee80211_aes_cmac` -/
def aesCmac (api : CryptoApi) (aad data : List Byte) : List Byte := (api.cmac (bipBody aad data 8)).take 8

/-- `ieee80211_aes_cmac_256` -/
def aesCmac256 (api : CryptoApi) (aad data : List Byte) : List Byte := api.cmac (bipBody aad data 16)

/-- `ieee80211_aes_gmac` -/
def aesGmac (api : CryptoApi) (aad nonce data : List Byte) : Option (List Byte) :=
  if data.length < 16 then none
  else api.gmac (nonce ++ [0, 0, 0, 0x01]) (bipBody aad data 16)

def WLAN_EID_MMIE : Byte := 76

structure Bip where
  /-- `sizeof(mmie->mic)` -/
  micLen : Nat
  /-- from the memory, the frame and the packet number; an error is the result of the handler -/
  mic : Bool → List Byte → Pn → Except RxResult (Option (List Byte))
  dropShort : RxResult

/-- `sizeof(*mmie)` -/
def Bip.mmieLen (b : Bip) : Nat := 10 + b.micLen

def Bip.mmie (b : Bip) (data : List Byte) : List Byte := data.drop (data.length - b.mmieLen)

def mmieSequenceNumber (mmie : List Byte) : List Byte := (mmie.drop 4).take 6

/-- `ieee80211_crypto_aes_cmac_decrypt` and its siblings -/
def bipDecrypt (b : Bip) (mem : RxMemory) (key : Key) (rx : RxData) : RxStep :=
  let data := rx.skb.bytes
  if !(frameControl data).isMgmt then
    ⟨.rxContinue, key, rx⟩
  else if rx.skb.len < 24 + b.mmieLen then
    ⟨b.dropShort, key, rx⟩
  else
    let mmie := b.mmie data
    if mmie.getD 0 0 ≠ WLAN_EID_MMIE ∨ mmie.getD 1 0 ≠ BitVec.ofNat 8 (b.mmieLen - 2) then
      ⟨.rxDropUBadMmie, key, rx⟩
    else
      let ipn := bipIpnSwap (mmieSequenceNumber mmie)
      if memcmp ipn.toList (key.rxPn 0).toList ≠ .gt then
        ⟨.rxDropUReplay, { key with replays := key.replays + 1 }, rx⟩
      else
        let accept : RxStep :=
          ⟨.rxContinue, key.setRxPn 0 ipn,
            { rx with skb := { rx.skb with head := rx.skb.head.take (rx.skb.len - b.mmieLen) } }⟩
        if rx.flag.decrypted then accept
        else
          match b.mic mem.kmalloc data ipn with
          | .error drop => ⟨drop, key, rx⟩
          | .ok mic =>
            if mic ≠ some (mmie.drop 10) then
              ⟨.rxDropUMicFail, { key with icverrors := key.icverrors + 1 }, rx⟩
            else accept

def cmacBip (api : CryptoApi) : Bip :=
  { micLen := 8
    mic := fun _ data _ => .ok (some (aesCmac api (bipAad data) (data.drop 24)))
    dropShort := .rxDropUShortCmac }

def cmac256Bip (api : CryptoApi) : Bip :=
  { micLen := 16
    mic := fun _ data _ => .ok (some (aesCmac256 api (bipAad data) (data.drop 24)))
    dropShort := .rxDropUShortCmac256 }

/-- BIP-GMAC, which needs memory for the MIC. -/
def gmacBip (api : CryptoApi) : Bip :=
  { micLen := 16
    mic := fun kmalloc data ipn =>
      if kmalloc then .ok (aesGmac api (bipAad data) (addr2 data ++ ipn.toList) (data.drop 24))
      else .error .rxDropUOom
    dropShort := .rxDropUShortGmac }

/-- `ieee80211_crypto_aes_cmac_decrypt` -/
def aesCmacDecrypt (api : CryptoApi) : RxMemory → Key → RxData → RxStep := bipDecrypt (cmacBip api)

/-- `ieee80211_crypto_aes_cmac_256_decrypt` -/
def aesCmac256Decrypt (api : CryptoApi) : RxMemory → Key → RxData → RxStep :=
  bipDecrypt (cmac256Bip api)

/-- `ieee80211_crypto_aes_gmac_decrypt` -/
def aesGmacDecrypt (api : CryptoApi) : RxMemory → Key → RxData → RxStep := bipDecrypt (gmacBip api)

/-- The last part of `ieee80211_rx_h_decrypt` (`rx.c`). -/
def rxHDecrypt (api : CryptoApi) (mem : RxMemory) (key : Key) (rx : RxData) : RxStep :=
  match key.cipher with
  | .ccmp => ccmpDecrypt api IEEE80211_CCMP_MIC_LEN mem key rx
  | .ccmp256 => ccmpDecrypt api IEEE80211_CCMP_256_MIC_LEN mem key rx
  | .gcmp | .gcmp256 => gcmpDecrypt api mem key rx
  | .aesCmac => aesCmacDecrypt api mem key rx
  | .bipCmac256 => aesCmac256Decrypt api mem key rx
  | .bipGmac128 | .bipGmac256 => aesGmacDecrypt api mem key rx

/-! ## Encryption -/

/-- The flags of `info->control.hw_key`. -/
structure HwKey where
  generateIv : Bool
  putIvSpace : Bool
  generateIvMgmt : Bool

/-- A frame to be sent, with the room in front of it; its header is in the linear part. -/
structure TxSkb where
  skb : SkBuff
  headroom : Nat
  hdr_le : ieee80211Hdrlen (frameControl skb.bytes) ≤ skb.head.length

/-- `struct ieee80211_tx_data` -/
structure TxData where
  skb : TxSkb
  hwKey : Option HwKey

/-- The key after a frame is encrypted, and the frame; `none` for an error. -/
abbrev TxStep := Key × Option SkBuff

/-- The hardware makes the header and the packet number. -/
def hwMakesHdr (hw : Option HwKey) (fc : FrameControl) : Bool :=
  match hw with
  | none => false
  | some h => !h.generateIv && !h.putIvSpace && !(h.generateIvMgmt && fc.isMgmt)

def hwFillsHdr (hw : Option HwKey) : Bool :=
  match hw with
  | none => false
  | some h => h.putIvSpace

/-- The bytes of `hdr8` between the header and the body of a frame. -/
def insertHdr (skb : SkBuff) (hdrlen : Nat) (hdr8 : List Byte) : SkBuff :=
  { skb with head := skb.head.take hdrlen ++ (hdr8 ++ skb.head.drop hdrlen) }

/-- `ccmp_encrypt_skb` and `gcmp_encrypt_skb` -/
def aeadEncryptSkb (a : Aead) (micLen : Nat) (key : Key) (tx : TxData) : TxStep :=
  let skb := tx.skb.skb
  let fc := frameControl skb.bytes
  if hwMakesHdr tx.hwKey fc then
    (key, some skb)
  else
    let hdrlen := ieee80211Hdrlen fc
    let tail := if tx.hwKey.isSome then 0 else micLen
    if skb.tailroom.length < tail ∨ tx.skb.headroom < IEEE80211_CCMP_HDR_LEN then
      (key, none)
    else if hwFillsHdr tx.hwKey then
      -- the room holds what the end of the header was moved away from
      (key, some (insertHdr skb hdrlen ((skb.head.take hdrlen).drop (hdrlen - IEEE80211_CCMP_HDR_LEN))))
    else
      let pn64 := key.txPn + 1
      let key := { key with txPn := pn64 }
      let pn := pnOf pn64
      let skb := insertHdr skb hdrlen (ccmpPn2hdr pn key.keyidx)
      if tx.hwKey.isSome then
        (key, some skb)
      else
        let data := hdrlen + IEEE80211_CCMP_HDR_LEN
        let (block, aad) := a.specialBlocks skb.bytes pn key.sppAmsdu
        (key, (a.encrypt block aad (skb.bytes.drop data) micLen).map fun (cipher, mic) =>
          { skb with
            head := skb.bytes.take data ++ (cipher ++ mic)
            frags := []
            fragList := []
            tailroom := skb.tailroom.drop micLen })

def ccmpEncryptSkb (api : CryptoApi) (micLen : Nat) : Key → TxData → TxStep :=
  aeadEncryptSkb (ccmpAead api) micLen

def gcmpEncryptSkb (api : CryptoApi) : Key → TxData → TxStep :=
  aeadEncryptSkb (gcmpAead api) IEEE80211_GCMP_MIC_LEN

/-- `skb_put` of an MMIE, which is for linear buffers; its MIC is what was in memory. -/
def putMmie (b : Bip) (skb : SkBuff) (keyidx : Byte) (seq : List Byte) : SkBuff :=
  { skb with
    head := skb.bytes ++ (([WLAN_EID_MMIE, BitVec.ofNat 8 (b.mmieLen - 2), keyidx, 0] ++ seq) ++
      (skb.tailroom.drop 10).take b.micLen)
    frags := []
    fragList := []
    tailroom := skb.tailroom.drop b.mmieLen }

/-- `ieee80211_crypto_aes_cmac_encrypt` and its siblings; with hardware encryption, `hwMmie` says
    whether the MMIE is made here. -/
def bipEncrypt (b : Bip) (hwMmie : Key → Bool) (key : Key) (tx : TxData) : TxStep :=
  let skb := tx.skb.skb
  if tx.hwKey.isSome && !hwMmie key then
    (key, some skb)
  else if skb.tailroom.length < b.mmieLen then
    (key, none)
  else
    let pn64 := key.txPn + 1
    let key := { key with txPn := pn64 }
    let skb := putMmie b skb key.keyidx (bipIpnSet64 pn64)
    if tx.hwKey.isSome then
      (key, some skb)
    else
      match b.mic true skb.bytes (bipIpnSwap (bipIpnSet64 pn64)) with
      | .ok (some mic) =>
        (key, some { skb with head := skb.head.take (skb.head.length - b.micLen) ++ mic })
      | _ => (key, none)

/-- `ieee80211_crypto_aes_cmac_encrypt` -/
def aesCmacEncrypt (api : CryptoApi) : Key → TxData → TxStep :=
  bipEncrypt (cmacBip api) Key.generateMmie

/-- `ieee80211_crypto_aes_cmac_256_encrypt` -/
def aesCmac256Encrypt (api : CryptoApi) : Key → TxData → TxStep :=
  bipEncrypt (cmac256Bip api) fun _ => false

/-- `ieee80211_crypto_aes_gmac_encrypt` -/
def aesGmacEncrypt (api : CryptoApi) : Key → TxData → TxStep := bipEncrypt (gmacBip api) fun _ => false

/-- The last part of `ieee80211_tx_h_encrypt` (`tx.c`). -/
def txHEncrypt (api : CryptoApi) (key : Key) (tx : TxData) : TxStep :=
  match key.cipher with
  | .ccmp => ccmpEncryptSkb api IEEE80211_CCMP_MIC_LEN key tx
  | .ccmp256 => ccmpEncryptSkb api IEEE80211_CCMP_256_MIC_LEN key tx
  | .gcmp | .gcmp256 => gcmpEncryptSkb api key tx
  | .aesCmac => aesCmacEncrypt api key tx
  | .bipCmac256 => aesCmac256Encrypt api key tx
  | .bipGmac128 | .bipGmac256 => aesGmacEncrypt api key tx

end Mac80211.Wpa
