import Mathlib.Data.Fintype.Basic
import Mathlib.Data.Fintype.Pi
import Wifi.Linux.KernelApi

/-!
# Defragmentation (`linux/net/mac80211/rx.c`)

Reference model of the fragment cache of mac80211:

* `Cache`, `FragmentEntry` — `struct ieee80211_fragment_cache` with its four entries.
* `ieee80211ReassembleAdd`, `ieee80211ReassembleFind`, `ieee80211RxHDefragment` — the functions of
  `rx.c`.
* `cryptoPn` — what `ieee80211_crypto_ccmp_decrypt` and `ieee80211_crypto_gcmp_decrypt` (`wpa.c`) do
  with the PN before a fragment gets there.
* `Op` — the calls on the caches of a station and of its interface.

An `Skb` remembers which received frames its data came from (`src`); nothing reads it.
-/

namespace Mac80211.Defrag

/-! ## Frames and keys -/

/-- A packet number, six bytes, the most significant one first. -/
abbrev Pn := Fin 6 → BitVec 8

/-- The loop that adds one to a PN, over the bytes `i - 1, …, 0`. -/
def incPnFrom : Nat → Pn → Pn
  | 0, pn => pn
  | i + 1, pn =>
    let pn := Function.update pn (Fin.ofNat 6 i) (pn (Fin.ofNat 6 i) + 1)
    if pn (Fin.ofNat 6 i) ≠ 0 then pn else incPnFrom i pn

def IEEE80211_CCMP_PN_LEN : Nat := 6

def incPn (pn : Pn) : Pn := incPnFrom IEEE80211_CCMP_PN_LEN pn

/-- The cipher of a key (`key->conf.cipher`). -/
inductive Cipher where
  | wep40 | wep104 | tkip | ccmp | ccmp256 | gcmp | gcmp256 | other
  deriving DecidableEq, Repr

/-- `struct ieee80211_key`. -/
structure Key where
  cipher : Cipher
  color : BitVec 32
  /-- `u.ccmp.rx_pn`, which is also `u.gcmp.rx_pn` -/
  rxPn : Nat → Pn

structure Hdr where
  /-- `frame_control & IEEE80211_FCTL_FTYPE`: management, control, data, extension -/
  ftype : BitVec 2
  /-- `ieee80211_has_morefrags` -/
  moreFrags : Bool
  /-- `ieee80211_has_protected` -/
  hasProtected : Bool
  addr1 : BitVec 48
  addr2 : BitVec 48
  /-- `seq_ctrl & IEEE80211_SCTL_FRAG` -/
  frag : BitVec 4
  /-- `(seq_ctrl & IEEE80211_SCTL_SEQ) >> 4` -/
  seq : BitVec 12
  deriving DecidableEq, Repr

/-- A frame: its header, the data after the header and the room for more. -/
structure Skb where
  src : List Nat
  hdr : Hdr
  body : List (BitVec 8)
  tailroom : Nat
  deriving DecidableEq, Repr

/-- `struct ieee80211_rx_data`, and what allocations return during the call. -/
structure Rx where
  skb : Skb
  /-- `rx->sta` is set -/
  sta : Bool
  key : Option Key
  seqnoIdx : Nat
  securityIdx : Nat
  /-- `rx->ccm_gcm.pn` -/
  ccmGcmPn : Pn
  /-- `RX_FLAG_DECRYPTED` -/
  decrypted : Bool
  /-- `skb_linearize` succeeds -/
  linearizeOk : Bool
  /-- `pskb_expand_head` succeeds -/
  expandOk : Bool

def isCtl (h : Hdr) : Bool := h.ftype == 1
def isExt (h : Hdr) : Bool := h.ftype == 3

/-- `is_multicast_ether_addr`: the lowest bit of the first octet. -/
def isMulticastEtherAddr (addr : BitVec 48) : Bool := addr.getLsbD 40

/-- `ieee80211_is_frag` -/
def isFrag (h : Hdr) : Bool := h.moreFrags || decide (h.frag ≠ 0)

/-! ## PN handling of the decryption -/

/-- The number that the first bytes of a PN make. -/
def pnPrefix (pn : Pn) : Nat → Nat
  | 0 => 0
  | i + 1 => pnPrefix pn i * 256 + (pn (Fin.ofNat 6 i)).toNat

/-- A PN as a number, which is how `memcmp` compares two of them. -/
def pnValue (pn : Pn) : Nat := pnPrefix pn IEEE80211_CCMP_PN_LEN

/-- What the CCMP and GCMP decryption does with the PN of a frame; `none` when the frame is
    dropped. -/
def cryptoPn (rx : Rx) (pn : Pn) (pnValidated allowSamePn micOk : Bool) : Option Rx :=
  match rx.key with
  | none => none
  | some key =>
    if pnValidated then some rx
    else if pnValue pn < pnValue (key.rxPn rx.securityIdx) ∨
        (pn = key.rxPn rx.securityIdx ∧ allowSamePn = false) then none
    else if rx.decrypted = false ∧ micOk = false then none
    else some { rx with
      key := some { key with rxPn := Function.update key.rxPn rx.securityIdx pn }
      ccmGcmPn := if isFrag rx.skb.hdr then pn else rx.ccmGcmPn }

/-! ## The cache -/

/-- `struct ieee80211_fragment_entry`. -/
structure FragmentEntry where
  skbList : List Skb
  firstFragTime : BitVec 64
  seq : BitVec 12
  extraLen : Nat
  lastFrag : Nat
  rxQueue : Nat
  checkSequentialPn : Bool
  isProtected : Bool
  keyColor : BitVec 32
  lastPn : Pn

def IEEE80211_FRAGMENT_MAX : Nat := 4

/-- `struct ieee80211_fragment_cache`. -/
structure Cache where
  entries : Nat → FragmentEntry
  next : Nat

/-- `__skb_queue_purge(&entry->skb_list)` -/
def Cache.purge (c : Cache) (idx : Nat) : Cache :=
  { c with entries := Function.update c.entries idx { c.entries idx with skbList := [] } }

def Cache.set (c : Cache) (idx : Nat) (e : FragmentEntry) : Cache :=
  { c with entries := Function.update c.entries idx e }

variable (k : KernelApi)

/-- `ieee80211_reassemble_add`: the index of the entry, and the cache.  `is_protected`,
    `key_color` and `last_pn` keep what an earlier frame left there. -/
def ieee80211ReassembleAdd (c : Cache) (frag : Nat) (seq : BitVec 12) (rxQueue : Nat)
    (jiffies : BitVec 64) (skb : Skb) : Nat × Cache :=
  let idx := c.next
  (idx,
    { entries := Function.update c.entries idx { c.entries idx with
        skbList := [skb]
        firstFragTime := jiffies
        seq := seq
        rxQueue := rxQueue
        lastFrag := frag
        checkSequentialPn := false
        extraLen := 0 }
      next := if IEEE80211_FRAGMENT_MAX ≤ c.next + 1 then 0 else c.next + 1 })

/-- The loop of `ieee80211_reassemble_find` over the entries before `idx`; entries that have timed
    out are purged on the way. -/
def findLoop (frag : Nat) (seq : BitVec 12) (rxQueue : Nat) (jiffies : BitVec 64) (hdr : Hdr) :
    Nat → Nat → Cache → Option Nat × Cache
  | 0, _, c => (none, c)
  | n + 1, idx, c =>
    let idx := if idx = 0 then IEEE80211_FRAGMENT_MAX - 1 else idx - 1
    let entry := c.entries idx
    match entry.skbList with
    | [] => findLoop frag seq rxQueue jiffies hdr n idx c
    | fSkb :: _ =>
      if entry.seq ≠ seq ∨ entry.rxQueue ≠ rxQueue ∨ entry.lastFrag + 1 ≠ frag then
        findLoop frag seq rxQueue jiffies hdr n idx c
      -- Check ftype and addresses are equal, else check next fragment
      else if hdr.ftype ≠ fSkb.hdr.ftype ∨ hdr.addr1 ≠ fSkb.hdr.addr1 ∨
          hdr.addr2 ≠ fSkb.hdr.addr2 then
        findLoop frag seq rxQueue jiffies hdr n idx c
      else if k.timeAfter jiffies (entry.firstFragTime + BitVec.ofNat 64 (2 * k.hz)) then
        findLoop frag seq rxQueue jiffies hdr n idx (c.purge idx)
      else (some idx, c)

def ieee80211ReassembleFind (c : Cache) (frag : Nat) (seq : BitVec 12) (rxQueue : Nat)
    (jiffies : BitVec 64) (hdr : Hdr) : Option Nat × Cache :=
  findLoop k frag seq rxQueue jiffies hdr IEEE80211_FRAGMENT_MAX c.next c

/-! ## `ieee80211_rx_h_defragment` -/

def requiresSequentialPn (rx : Rx) : Bool :=
  match rx.key with
  | none => false
  | some key =>
    (key.cipher == .ccmp || key.cipher == .ccmp256 || key.cipher == .gcmp ||
      key.cipher == .gcmp256) && rx.skb.hdr.hasProtected

inductive DropReason where
  | monitor | oom | nonseqPn | badKeyColor | replay | expectDefragProt
  deriving DecidableEq, Repr

/-- `ieee80211_rx_result`, with the frame the handlers after it continue with. -/
inductive RxResult where
  | continue (skb : Skb)
  | queued
  | drop (reason : DropReason)
  deriving DecidableEq, Repr

/-- What the entry of a new frame remembers of its key. -/
def rememberKey (e : FragmentEntry) (rx : Rx) : FragmentEntry :=
  match rx.key with
  | none => e
  | some key =>
    if requiresSequentialPn rx then
      { e with checkSequentialPn := true, isProtected := true, keyColor := key.color,
               lastPn := key.rxPn rx.securityIdx }
    else if rx.skb.hdr.hasProtected || rx.decrypted then
      { e with isProtected := true, keyColor := key.color }
    else e

/-- The checks on a fragment of a frame that is pending: the entry with its last PN, or why the
    fragment is dropped. -/
def checkFragment (e : FragmentEntry) (rx : Rx) : Except DropReason FragmentEntry :=
  if e.checkSequentialPn then
    match rx.key with
    | none => .error .nonseqPn
    | some key =>
      if requiresSequentialPn rx = false then .error .nonseqPn
      -- Prevent mixed key and fragment cache attacks
      else if e.keyColor ≠ key.color then .error .badKeyColor
      else if incPn e.lastPn ≠ rx.ccmGcmPn then .error .replay
      else .ok { e with lastPn := incPn e.lastPn }
  else
    match rx.key with
    | none => if e.isProtected then .error .expectDefragProt else .ok e
    | some key =>
      if e.isProtected = true ∧ ((rx.skb.hdr.hasProtected = false ∧ rx.decrypted = false) ∨
          key.color ≠ e.keyColor) then .error .expectDefragProt
      else if e.isProtected = true ∧ e.keyColor ≠ key.color ∧ rx.decrypted = true then
        .error .badKeyColor
      else .ok e

def skbPutData (skb data : Skb) : Skb :=
  { skb with src := skb.src ++ data.src, body := skb.body ++ data.body }

/-- The end of `ieee80211_rx_h_defragment`: the fragment is added to the pending entry, and the
    last one completes the frame. -/
def completeFrame (c : Cache) (idx : Nat) (e : FragmentEntry) (rx : Rx) : RxResult × Cache :=
  let e := { e with
    skbList := e.skbList ++ [rx.skb]
    lastFrag := rx.skb.hdr.frag.toNat
    extraLen := e.extraLen + rx.skb.body.length }
  if rx.skb.hdr.moreFrags then (.queued, c.set idx e)
  else
    match e.skbList with
    | [] => (.queued, c.set idx e)
    | first :: rest =>
      if first.tailroom < e.extraLen ∧ rx.expandOk = false then
        (.drop .oom, c.set idx { e with skbList := [] })
      else (.continue (rest.foldl skbPutData first), c.set idx { e with skbList := [] })

/-- `ieee80211_rx_h_defragment` on the cache of the frame. -/
def ieee80211RxHDefragment (c : Cache) (jiffies : BitVec 64) (rx : Rx) : RxResult × Cache :=
  let hdr := rx.skb.hdr
  if isCtl hdr || isExt hdr then (.continue rx.skb, c)
  else if hdr.moreFrags = false ∧ hdr.frag = 0 then (.continue rx.skb, c)
  else if isMulticastEtherAddr hdr.addr1 then (.drop .monitor, c)
  else if rx.linearizeOk = false then (.drop .oom, c)
  else if hdr.frag = 0 then
    -- This is the first fragment of a new frame.
    let (idx, c) := ieee80211ReassembleAdd c 0 hdr.seq rx.seqnoIdx jiffies rx.skb
    (.queued, c.set idx (rememberKey (c.entries idx) rx))
  else
    match ieee80211ReassembleFind k c hdr.frag.toNat hdr.seq rx.seqnoIdx jiffies hdr with
    | (none, c) => (.drop .monitor, c)
    | (some idx, c) =>
      match checkFragment (c.entries idx) rx with
      | .error reason => (.drop reason, c)
      | .ok e => completeFrame c idx e rx

def ieee80211DestroyFragCache (c : Cache) : Cache :=
  { c with entries := fun i => { c.entries i with skbList := [] } }

/-! ## Calls -/

/-- The caches (`false` of the interface, `true` of the station), the frames received so far, and
    which of them the frames returned so far were made of. -/
structure State where
  caches : Bool → Cache
  received : List Rx
  used : List Nat

inductive Op where
  | frame (jiffies : BitVec 64) (rx : Rx)
  | destroy (sta : Bool)

/-- The received frames a result was made of. -/
def RxResult.src : RxResult → List Nat
  | .continue skb => skb.src
  | .queued | .drop _ => []

def State.arrive (s : State) (rx : Rx) : Rx :=
  { rx with skb := { rx.skb with src := [s.received.length] } }

/-- `ieee80211_rx_h_defragment` on the cache `rx->sta->frags` or `sdata->frags`. -/
def State.defragment (s : State) (jiffies : BitVec 64) (rx : Rx) : RxResult × Cache :=
  ieee80211RxHDefragment k (s.caches rx.sta) jiffies (s.arrive rx)

def State.next (s : State) : Op → State
  | .frame jiffies rx =>
    { caches := Function.update s.caches rx.sta (s.defragment k jiffies rx).2
      received := s.received ++ [s.arrive rx]
      used := (s.defragment k jiffies rx).1.src ++ s.used }
  | .destroy sta =>
    { s with caches := Function.update s.caches sta (ieee80211DestroyFragCache (s.caches sta)) }

def Step (s : State) (op : Op) (s' : State) : Prop := s' = s.next k op

/-- The caches are empty (`ieee80211_init_frag_cache`); the rest of their entries is arbitrary. -/
def Initial (s : State) : Prop :=
  (∀ b i, ((s.caches b).entries i).skbList = []) ∧ (∀ b, (s.caches b).next = 0) ∧
    s.received = [] ∧ s.used = []

end Mac80211.Defrag
