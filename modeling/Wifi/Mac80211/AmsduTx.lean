import Wifi.Lib.Memory
import Wifi.Lib.Runs
import Wifi.Linux.Ieee80211
import Wifi.Wireless.AmsduSpec

/-!
# A-MSDU aggregation in software (`linux/net/mac80211/tx.c`)

* `FastTx`, `Sdata`, `Call` — what a call of `ieee80211_amsdu_aggregate` reads.
* `Head` — a frame in the queue of a flow, with its `frag_list`.
* `amsduPrepareHead`, `amsduAggregate` — the functions of the same names.
* `Step` — calls on a flow, and the other ways its queue changes.
* `WellFormed`, `Aggregated` — the layout of a queued frame, and what a call does to it.
* `Matches` — a frame that has the layout the call expects.

The lengths of frames are `unsigned int` in the source, and no frame is so long that they overflow; the
counters of the flow are taken as the 32 bits they have.  `memory_usage` is left out.
-/

namespace Mac80211.AmsduTx

open Overwrite Runs Wireless.Amsdu

/-! ## What is read -/

/-- `struct ieee80211_sub_if_data`, and the `vif` in it. -/
structure Sdata where
  iftype : Nl80211Iftype
  /-- `vif.cfg.ap_addr` -/
  apAddr : Addr
  /-- `vif.addr` -/
  addr : Addr
  /-- `IEEE80211_OFFLOAD_ENCAP_ENABLED` -/
  offloadEncap : Bool

/-- `bssid`, as the A-MSDU's outer addresses need it. -/
def Sdata.bssid (sdata : Sdata) : Option Addr :=
  match sdata.iftype with
  | .station => some sdata.apAddr
  | .ap | .apVlan => some sdata.addr
  | _ => none

/-- `struct ieee80211_fast_tx`, for a header with QoS control. -/
structure FastTx where
  /-- `hdr_len`: the 802.11 header, room for the cipher's header, and the LLC/SNAP header -/
  hdrLen : Nat
  daOffs : Nat
  saOffs : Nat
  hdrLen_ge : 26 + rfc1042Header.length ≤ hdrLen
  daOffs_ge : 4 ≤ daOffs
  saOffs_ge : 4 ≤ saOffs
  daOffs_le : daOffs + ETH_ALEN ≤ hdrLen - rfc1042Header.length
  saOffs_le : saOffs + ETH_ALEN ≤ hdrLen - rfc1042Header.length

/-- `hdr_len - sizeof(rfc1042_header)` -/
def FastTx.outerLen (fast : FastTx) : Nat := fast.hdrLen - rfc1042Header.length

/-- `struct sk_buff`, where its data is in one piece. -/
structure Skb where
  headroom : Nat
  data : List Byte
  /-- `skb_shinfo(skb)->nr_frags` -/
  nrFrags : Nat
  gso : Bool
  deriving DecidableEq

/-- A subframe: the addresses, and the MSDU with its LLC/SNAP header. -/
structure Sub where
  da : Addr
  sa : Addr
  llc : List Byte
  deriving DecidableEq

structure Head extends Skb where
  fragList : List Skb
  /-- `IEEE80211_TX_CTL_RATE_CTRL_PROBE` -/
  rateCtrlProbe : Bool
  /-- `IEEE80211_TX_CTRL_AMSDU` -/
  amsdu : Bool
  /-- not in the source: the header in front, and the MSDUs that were handed over -/
  hdr : List Byte
  subs : List Sub
  deriving DecidableEq

/-- The head with its `frag_list`, as one buffer. -/
def Head.bytes (head : Head) : List Byte := head.data ++ head.fragList.flatMap Skb.data

/-- `head->len` -/
def Head.len (head : Head) : Nat := head.bytes.length

/-- What a call reads, and whether the reallocations in it work. -/
structure Call where
  sdata : Sdata
  fast : FastTx
  /-- `TX_AMSDU` of the hardware -/
  txAmsdu : Bool
  extraTxHeadroom : Nat
  maxTxFragments : Nat
  /-- `sta->sta.txq[tid]` exists -/
  txq : Bool
  /-- `IEEE80211_TXQ_NO_AMSDU` -/
  noAmsdu : Bool
  maxAmsduSubframes : BitVec 8
  maxAmsduLen : BitVec 16
  maxRcAmsduLen : BitVec 16
  /-- `max_tid_amsdu_len[tid]` -/
  maxTidAmsduLen : BitVec 16
  /-- what `drv_can_aggregate_in_amsdu` says -/
  canAggregate : Bool
  headRealloc : Bool
  padRealloc : Bool
  da : Addr
  sa : Addr

/-- `ieee80211_vif_is_mesh` -/
def Call.isMesh (c : Call) : Bool := decide (c.sdata.iftype = .meshPoint)

/-- `max_amsdu_len`, with the limits of rate control and of the TID. -/
def Call.maxLen (c : Call) : Nat :=
  let maxAmsduLen := c.maxAmsduLen.toNat
  let maxAmsduLen := if c.maxRcAmsduLen ≠ 0 then min maxAmsduLen c.maxRcAmsduLen.toNat else maxAmsduLen
  if c.maxTidAmsduLen ≠ 0 then min maxAmsduLen c.maxTidAmsduLen.toNat else maxAmsduLen

/-! ## The head -/

def cpuToBe16 (n : Int) : List Byte := be16 (n % 65536).toNat

/-- `ieee80211_amsdu_realloc_pad`; `ok` says whether `pskb_expand_head` works. -/
def amsduReallocPad (ok : Bool) (skb : Skb) (headroom : Nat) : Option Skb :=
  if skb.headroom < headroom then
    if ok then some { skb with headroom := skb.headroom + headroom } else none
  else
    some skb

/-- `skb_push`: room at the start of the data. -/
def Skb.push (skb : Skb) (len : Nat) : Skb :=
  { skb with headroom := skb.headroom - len, data := List.replicate len 0 ++ skb.data }

/-- Where `ieee80211_get_qos_ctl` points. -/
def qosOffs (hdr : List Byte) : Nat := if (frameControl hdr).hasA4 then 30 else 24

def IEEE80211_QOS_CTL_A_MSDU_PRESENT : Byte := 0x80

/-- The outer addresses become the BSSID, and the QoS control field says that this is an A-MSDU. -/
def rewriteHdr (fast : FastTx) (bssid : Option Addr) (hdr : List Byte) : List Byte :=
  let hdr := match bssid with
    | some bssid => if (frameControl hdr).hasFromds then overwrite hdr fast.saOffs bssid.1 else hdr
    | none => hdr
  let hdr := match bssid with
    | some bssid => if (frameControl hdr).hasTods then overwrite hdr fast.daOffs bssid.1 else hdr
    | none => hdr
  overwrite hdr (qosOffs hdr) [hdr.getD (qosOffs hdr) 0 ||| IEEE80211_QOS_CTL_A_MSDU_PRESENT]

/-- `ieee80211_amsdu_prepare_head` -/
def amsduPrepareHead (c : Call) (head : Head) : Option Head :=
  let hdrLen := c.fast.outerLen
  let subframeLen : Int := head.len - hdrLen
  if head.rateCtrlProbe then
    none
  else if head.amsdu then
    some head
  else
    match amsduReallocPad c.headRealloc head.toSkb (ETH_HLEN + c.extraTxHeadroom) with
    | none => none
    | some skb =>
      let skb := skb.push ETH_HLEN
      -- the header moves to the front
      let data := overwrite skb.data 0 ((skb.data.drop ETH_HLEN).take hdrLen)
      let amsduHdr : EthHdr :=
        { hDest := (data.drop c.fast.daOffs).take ETH_ALEN
          hSource := (data.drop c.fast.saOffs).take ETH_ALEN
          hProto := cpuToBe16 subframeLen }
      let data := overwrite data hdrLen amsduHdr.bytes
      some
        { head with
          toSkb := { skb with data := rewriteHdr c.fast c.sdata.bssid data }
          amsdu := true
          hdr := rewriteHdr c.fast c.sdata.bssid head.hdr }

/-! ## The queue -/

/-- A flow of `struct fq`, and the sum it is part of. -/
structure State where
  /-- `flow->queue` -/
  queue : List Head
  /-- `flow->backlog` -/
  backlog : BitVec 32
  /-- `tin->backlog_bytes` -/
  tinBacklogBytes : BitVec 32
  /-- not in the source: what the other flows of the tin have queued -/
  others : BitVec 32

def amsduAllowed (c : Call) (skb : Skb) : Bool :=
  c.txAmsdu && !c.sdata.offloadEncap && !c.isMesh && !skb.gso && c.txq && !c.noAmsdu

/-- The checks of the limits, with the head that was found. -/
def amsduFits (c : Call) (skb : Skb) (head : Head) : Bool :=
  let n := 2 + head.fragList.length
  let nfrags := 1 + skb.nrFrags + (1 + head.nrFrags) + (head.fragList.map fun frag => 1 + frag.nrFrags).sum
  !head.gso && decide (skb.data.length + head.len ≤ c.maxLen) &&
    decide (¬ (c.maxAmsduSubframes ≠ 0 ∧ n > c.maxAmsduSubframes.toNat)) &&
    decide (¬ (c.maxTxFragments ≠ 0 ∧ nfrags > c.maxTxFragments)) && c.canAggregate

def amsduPad (fast : FastTx) (head : Head) : Nat :=
  let rest := ((head.len : Int) - fast.outerLen) % 4
  if rest ≠ 0 then (4 - rest).toNat else 0

/-- The frame becomes a subframe, with the padding of the one before in front. -/
def amsduSubframe (c : Call) (skb : Skb) (pad : Nat) : Skb :=
  let subframeLen : Int := skb.data.length - ETH_ALEN
  let skb := skb.push (ETH_ALEN + 2)
  let data := overwrite skb.data 0 c.da.1
  let data := overwrite data ETH_ALEN c.sa.1
  let data := overwrite data (2 * ETH_ALEN) (cpuToBe16 subframeLen)
  let data := overwrite data (2 * ETH_ALEN + 2) rfc1042Header
  { skb with data := data }.push pad

/-- `out_recalc`: the last frame of the queue is `head` now. -/
def recalc (s : State) (origLen : Nat) (head : Head) : State :=
  let diff := BitVec.ofNat 32 head.len - BitVec.ofNat 32 origLen
  { s with
    queue := s.queue.dropLast ++ [head]
    backlog := s.backlog + diff
    tinBacklogBytes := s.tinBacklogBytes + diff }

/-- `ieee80211_amsdu_aggregate`: what it returns, and the frame as its caller has it then. -/
def amsduAggregate (c : Call) (s : State) (skb : Skb) : Bool × State × Skb :=
  if amsduAllowed c skb = false then
    (false, s, skb)
  else
    match s.queue.getLast? with
    | none => (false, s, skb)
    | some head =>
      if amsduFits c skb head = false then
        (false, s, skb)
      else
        match amsduPrepareHead c head with
        | none => (false, s, skb)
        | some head' =>
          let pad := amsduPad c.fast head'
          match amsduReallocPad c.padRealloc skb (rfc1042Header.length + 2 + pad) with
          | none => (false, recalc s head.len head', skb)
          | some skb' =>
            let skb' := amsduSubframe c skb' pad
            let sub : Sub := { da := c.da, sa := c.sa, llc := rfc1042Header ++ skb.data.drop (2 * ETH_ALEN) }
            (true, recalc s head.len
              { head' with fragList := head'.fragList ++ [skb'], subs := head'.subs ++ [sub] }, skb')

/-! ## Runs -/

/-- A frame that is queued: a QoS data frame, whose header is followed by the MSDU. -/
structure Plain extends Head where
  da : Addr
  sa : Addr
  llc : List Byte
  data_eq : toHead.data = toHead.hdr ++ llc
  fragList_eq : toHead.fragList = []
  amsdu_eq : toHead.amsdu = false
  subs_eq : toHead.subs = [{ da := da, sa := sa, llc := llc }]

structure EthSkb extends Skb where
  len_ge : ETH_HLEN ≤ toSkb.data.length

inductive Op where
  /-- a frame is queued, with whatever header its path gave it -/
  | queue (frame : Plain)
  /-- a frame is taken from the queue, or dropped from it -/
  | take (i : Nat)
  /-- something happens to the other flows -/
  | others (bytes : BitVec 32)
  | aggregate (c : Call) (skb : EthSkb)

def backlogOf (queue : List Head) : BitVec 32 := BitVec.ofNat 32 (queue.map Head.len).sum

/-- A step; the first three are those of `<net/fq_impl.h>`. -/
inductive Step : State → Op → State → Prop where
  | queue (s : State) (frame : Plain) : Step s (.queue frame)
      { s with
        queue := s.queue ++ [frame.toHead]
        backlog := s.backlog + BitVec.ofNat 32 frame.len
        tinBacklogBytes := s.tinBacklogBytes + BitVec.ofNat 32 frame.len }
  | take (s : State) (i : Nat) (h : i < s.queue.length) : Step s (.take i)
      { s with
        queue := s.queue.eraseIdx i
        backlog := s.backlog - BitVec.ofNat 32 s.queue[i].len
        tinBacklogBytes := s.tinBacklogBytes - BitVec.ofNat 32 s.queue[i].len }
  | others (s : State) (bytes : BitVec 32) : Step s (.others bytes)
      { s with others := s.others + bytes, tinBacklogBytes := s.tinBacklogBytes + bytes }
  | aggregate (s : State) (c : Call) (skb : EthSkb) :
      Step s (.aggregate c skb) (amsduAggregate c s skb.toSkb).2.1

structure Initial (s : State) : Prop where
  queue : s.queue = []
  backlog : s.backlog = 0
  tin : s.tinBacklogBytes = s.others

/-! ## The layout of a frame -/

/-- The header and the LLC part of a subframe. -/
def Sub.bytes (sub : Sub) : List Byte :=
  { hDest := sub.da.1, hSource := sub.sa.1, hProto := be16 sub.llc.length : EthHdr }.bytes ++ sub.llc

/-- **The body of an A-MSDU**: every subframe but the last is padded. -/
def amsduBody : List Sub → List Byte
  | [] => []
  | [sub] => sub.bytes
  | sub :: sub' :: subs =>
    sub.bytes ++ (List.replicate (amsduPadding sub.bytes.length) 0 ++ amsduBody (sub' :: subs))

/-- **An A-MSDU behind its header**, or the MSDU alone. -/
structure WellFormed (head : Head) : Prop where
  nonempty : head.subs ≠ []
  single : head.amsdu = false → head.fragList = [] ∧ ∃ sub, head.subs = [sub] ∧ head.bytes = head.hdr ++ sub.llc
  body : head.amsdu = true → head.bytes = head.hdr ++ amsduBody head.subs
  lengths : head.amsdu = true → ∀ sub ∈ head.subs, sub.llc.length < 65536
  present : head.amsdu = true → qosCtl head.hdr &&& IEEE80211_QOS_CTL_A_MSDU_PRESENT ≠ 0
  count : head.subs.length = head.fragList.length + 1
  outer : head.amsdu = true → 26 ≤ head.hdr.length

/-- **The frame has the layout that the call expects**: as it was queued, a header of the length that the
    fast path has, with the addresses in the same places; as an A-MSDU, a body that is aligned as expected. -/
structure Matches (fast : FastTx) (head : Head) : Prop where
  plain : head.amsdu = false → head.hdr.length = fast.outerLen ∧
    (frameControl head.hdr).isDataQos = true ∧ ieee80211Hdrlen (frameControl head.hdr) ≤ head.hdr.length ∧
    ∀ sub ∈ head.subs, (head.hdr.drop fast.daOffs).take ETH_ALEN = sub.da.1 ∧
      (head.hdr.drop fast.saOffs).take ETH_ALEN = sub.sa.1
  amsdu : head.amsdu = true → head.hdr.length % 4 = fast.outerLen % 4

/-- **What a call may do**: nothing; or the last frame of the queue becomes an A-MSDU, with the new frame as
    its last subframe if that was taken, and within the limits of the call. -/
structure Aggregated (c : Call) (s : State) (skb : Skb) (r : Bool × State × Skb) : Prop where
  unmodified : r.1 = false → r.2.2 = skb
  queue : r.1 = false ∧ r.2.1.queue = s.queue ∨
    ∃ head head', s.queue.getLast? = some head ∧ r.2.1.queue = s.queue.dropLast ++ [head'] ∧ head'.amsdu = true ∧
      head'.subs = head.subs ++ (if r.1 then
        [{ da := c.da, sa := c.sa, llc := rfc1042Header ++ skb.data.drop (2 * ETH_ALEN) }] else []) ∧
      (amsduBody head'.subs).length ≤ c.maxLen ∧
      (c.maxAmsduSubframes ≠ 0 → head'.subs.length ≤ c.maxAmsduSubframes.toNat)

/-- The calls whose head has the layout they expect. -/
def Ok (s : State) : Op → Prop
  | .aggregate c _ => ∀ head, s.queue.getLast? = some head → Matches c.fast head
  | _ => True

end Mac80211.AmsduTx
