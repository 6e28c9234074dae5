import Wifi.Lib.Slots

/-!
# A-MPDU receive reordering (`freebsd/sys/net80211/ieee80211_ht.c`)

Reference model of the receive side of a block-ack session:

* `RxAmpdu` — `struct ieee80211_rx_ampdu`, one per TID, with the queues `rxa_mq` as a function
  from slot numbers to frame lists.
* `ampduRxAddSlot`, `ampduRxPurge`, `ampduRxStart`, `ieee80211AmpduRxStartExt`, `ampduRxStop`,
  `ampduRxMoveup`, `ampduRxDispatch`, `ampduRxFlush`, `ampduRxFlushUpto`,
  `ieee80211AmpduReorder`, `ieee80211RecvBar`, `ieee80211HtNodeAge` — the functions of that file.
* `Op` / `Op.apply` — the calls that change the sessions of one node.

A `KASSERT` that does not hold ends the call with the corresponding `Fault`.  Frames handed to
`ampdu_dispatch` are returned in order.  Statistics counters are not modelled: nothing reads
them.  `ampdu_dispatch` feeds a frame to `ieee80211_input` marked with `M_AMPDU_MPDU`, which
bypasses this code, so dispatching does not change the session.
-/

namespace Net80211

open Slots

/-! ## Sequence numbers (`ieee80211.h`) -/

def IEEE80211_SEQ_RANGE : Nat := 4096
def IEEE80211_SEQ_BA_RANGE : Nat := 2048

/-- `IEEE80211_SEQ_ADD`. -/
@[simp] def seqAdd (seq incr : Nat) : Nat := (seq + incr) % 4096

/-- `IEEE80211_SEQ_INC`. -/
@[simp] def seqInc (seq : Nat) : Nat := seqAdd seq 1

/-- `IEEE80211_SEQ_SUB`. -/
@[simp] def seqSub (a b : Nat) : Nat := (a + 4096 - b) % 4096

/-- `IEEE80211_SEQ_BA_BEFORE`. -/
@[simp] def seqBaBefore (a b : Nat) : Prop := seqSub b (a + 1) < 2048 - 1

instance (a b : Nat) : Decidable (seqBaBefore a b) := inferInstanceAs (Decidable (_ < _))

/-- Largest block-ack window (`ieee80211_ht.h`). -/
def IEEE80211_AGGR_BAWMAX : Nat := 64

/-- Limit given to `mbufq_init` for every queue. -/
def mqMaxlen : Nat := 256

/-- `WME_NUM_TID`. -/
abbrev WME_NUM_TID : Nat := 16

/-! ## Frames -/

/-- `c_pktflags` of `struct ieee80211_rx_stats`. -/
structure RxStats where
  cPktflags : BitVec 32
  deriving DecidableEq, Repr

def IEEE80211_RX_F_AMSDU : BitVec 32 := 0x00000004
def IEEE80211_RX_F_AMSDU_MORE : BitVec 32 := 0x00000008

/-- What the reorder code reads of an mbuf holding a QoS data frame. -/
structure Mbuf where
  /-- `wh->i_fc[0]` -/
  iFc0 : BitVec 8
  /-- `wh->i_addr1[0]` -/
  iAddr1 : BitVec 8
  /-- `ieee80211_getqos(wh)[0]` -/
  qos0 : BitVec 8
  /-- `le16toh(wh->i_seq)` -/
  iSeq : BitVec 16
  /-- `m_pkthdr.len` -/
  pktLen : Int
  /-- `M_AMPDU` -/
  mAmpdu : Bool
  /-- `M_AMPDU_MPDU` -/
  mAmpduMpdu : Bool
  /-- `ieee80211_get_rx_params_ptr` -/
  rxs : Option RxStats
  deriving DecidableEq, Repr

def IEEE80211_FC0_QOSDATA : BitVec 8 := 0x88

/-- `IEEE80211_IS_MULTICAST(wh->i_addr1)`. -/
def Mbuf.isMulticast (m : Mbuf) : Bool := m.iAddr1 &&& 0x01 ≠ 0

/-- `rxseq & IEEE80211_SEQ_FRAG_MASK`. -/
def Mbuf.frag (m : Mbuf) : BitVec 16 := m.iSeq &&& 0x000f

/-- `rxseq >> IEEE80211_SEQ_SEQ_SHIFT`. -/
def Mbuf.seq (m : Mbuf) : Nat := (m.iSeq >>> 4).toNat

/-- `ieee80211_getqos(wh)[0] & IEEE80211_QOS_TID`. -/
def Mbuf.tid (m : Mbuf) : Fin WME_NUM_TID := Fin.ofNat WME_NUM_TID (m.qos0 &&& 0x0f).toNat

theorem Mbuf.seq_lt (m : Mbuf) : m.seq < 4096 := by
  have := m.iSeq.isLt
  simp only [seq, BitVec.toNat_ushiftRight, Nat.shiftRight_eq_div_pow]
  omega

def ieee80211CheckRxseqAmsdu (rxs : Option RxStats) : Bool :=
  match rxs with
  | none => false
  | some r => r.cPktflags &&& IEEE80211_RX_F_AMSDU ≠ 0

def ieee80211CheckRxseqAmsduMore (rxs : Option RxStats) : Bool :=
  match rxs with
  | none => true
  | some r =>
    if r.cPktflags &&& IEEE80211_RX_F_AMSDU = 0 then true
    else if r.cPktflags &&& IEEE80211_RX_F_AMSDU_MORE ≠ 0 then false
    else true

/-! ## Session state -/

/-- `int` arithmetic. -/
def wrap32 (x : Int) : Int := Int.bmod x (2 ^ 32)

/-- `short` arithmetic. -/
def wrap16 (x : Int) : Int := Int.bmod x (2 ^ 16)

/-- `struct ieee80211_rx_ampdu`; the flags of `rxa_flags` are separate fields. -/
structure RxAmpdu where
  /-- `IEEE80211_AGGR_RUNNING` -/
  running : Bool
  /-- `IEEE80211_AGGR_XCHGPEND` -/
  xchgpend : Bool
  /-- `IEEE80211_AGGR_WAITRX` -/
  waitrx : Bool
  /-- `IEEE80211_AGGR_AMSDU` -/
  amsdu : Bool
  rxaQbytes : Int
  rxaQframes : Int
  rxaStart : Nat
  rxaWnd : Nat
  rxaAge : Int
  rxaMq : Nat → List Mbuf

/-- The `KASSERT`s of the modelled functions; `fuel` stands for a `goto again` that never ends. -/
inductive Fault where
  | purgeLost
  | moveupNegative
  | moveupLost
  | unexpectedDup
  | notAmpdu
  | notHt
  | fuel
  deriving DecidableEq, Repr

/-- `PROCESS` / `CONSUMED`. -/
inductive Verdict where
  | process
  | consumed
  deriving DecidableEq, Repr

/-- `ieee80211_ampdu_rx_init_rap`. -/
def ieee80211AmpduRxInitRap : RxAmpdu :=
  { running := false, xchgpend := false, waitrx := false, amsdu := false, rxaQbytes := 0,
    rxaQframes := 0, rxaStart := 0, rxaWnd := 0, rxaAge := 0, rxaMq := fun _ => [] }

/-- `rxa_qbytes -= m->m_pkthdr.len; rxa_qframes--`. -/
def RxAmpdu.uncharge (rap : RxAmpdu) (m : Mbuf) : RxAmpdu :=
  { rap with rxaQbytes := wrap32 (rap.rxaQbytes - m.pktLen)
             rxaQframes := wrap16 (rap.rxaQframes - 1) }

/-- Dequeue everything in slot `i`; the frames themselves are `rap.rxaMq i`. -/
def RxAmpdu.drain (rap : RxAmpdu) (i : Nat) : RxAmpdu :=
  { (rap.rxaMq i).foldl RxAmpdu.uncharge rap with rxaMq := clear rap.rxaMq i }

def ampduRxPurgeSlot (rap : RxAmpdu) (i : Nat) : RxAmpdu := rap.drain i

/-- `toss_dup` of `ampdu_rx_add_slot`, negated: an A-MSDU frame after the last frame of its slot. -/
def appendable (rxs rxsFinal : Option RxStats) : Bool :=
  rxs.isSome && rxsFinal.isSome && ieee80211CheckRxseqAmsdu rxs &&
    ieee80211CheckRxseqAmsdu rxsFinal && !ieee80211CheckRxseqAmsduMore rxsFinal

/-- `ampdu_rx_add_slot`; it always consumes the frame. -/
def ampduRxAddSlot (rap : RxAmpdu) (off : Nat) (m : Mbuf) (rxs : Option RxStats) : RxAmpdu :=
  let rxsFinal := (rap.rxaMq off).getLast?.bind (·.rxs)
  if rap.rxaMq off = [] ∨ appendable rxs rxsFinal then
    -- `mbufq_enqueue` fails on a full queue
    if mqMaxlen ≤ (rap.rxaMq off).length then rap
    else
      { rap with rxaMq := put rap.rxaMq off [m]
                 rxaQframes := wrap16 (rap.rxaQframes + 1)
                 rxaQbytes := wrap32 (rap.rxaQbytes + m.pktLen) }
  else rap

/-- The loop of `ampdu_rx_purge`, with `k` slots from `i` to go. -/
def ampduRxPurgeLoop : Nat → Nat → RxAmpdu → RxAmpdu
  | 0, _, rap => rap
  | k + 1, i, rap =>
    let rap := ampduRxPurgeSlot rap i
    if rap.rxaQframes = 0 then rap else ampduRxPurgeLoop k (i + 1) rap

def ampduRxPurge (rap : RxAmpdu) : Except Fault RxAmpdu :=
  let rap := ampduRxPurgeLoop rap.rxaWnd 0 rap
  if rap.rxaQbytes = 0 ∧ rap.rxaQframes = 0 then .ok rap else .error .purgeLost

/-- `(x == 0) ? IEEE80211_AGGR_BAWMAX : min(x, IEEE80211_AGGR_BAWMAX)`; the kernel's `min` is on
    `u_int`. -/
def bawClamp (x : Nat) : Nat :=
  if x = 0 then IEEE80211_AGGR_BAWMAX else min x IEEE80211_AGGR_BAWMAX

/-- `if (rap->rxa_flags & IEEE80211_AGGR_RUNNING) ampdu_rx_purge(rap)`. -/
def purgeIfRunning (rap : RxAmpdu) : Except Fault RxAmpdu :=
  if rap.running then ampduRxPurge rap else .ok rap

/-- `ampdu_rx_start`; `htcRxAmsduAmpdu` is the `IEEE80211_HTC_RX_AMSDU_AMPDU` bit of
    `iv_htcaps`. -/
def ampduRxStart (rap : RxAmpdu) (htcRxAmsduAmpdu : Bool) (baparamset baseqctl : BitVec 16) :
    Except Fault RxAmpdu :=
  match purgeIfRunning rap with
  | .error f => .error f
  | .ok _ =>
    let bufsiz := ((baparamset &&& 0xffc0) >>> 6).toNat
    .ok { ieee80211AmpduRxInitRap with
      rxaWnd := bawClamp bufsiz
      rxaStart := ((baseqctl &&& 0xfff0) >>> 4).toNat
      running := true
      xchgpend := true
      amsdu := htcRxAmsduAmpdu && decide (baparamset &&& 0x0001 ≠ 0) }

/-- `ieee80211_ampdu_rx_start_ext`. -/
def ieee80211AmpduRxStartExt (rap : RxAmpdu) (seq : Int) (baw : BitVec 32) :
    Except Fault RxAmpdu :=
  match purgeIfRunning rap with
  | .error f => .error f
  | .ok _ =>
    .ok { ieee80211AmpduRxInitRap with
      rxaWnd := bawClamp baw.toNat
      rxaStart := if seq = -1 then 0 else (seq % 2 ^ 16).toNat
      waitrx := decide (seq = -1)
      running := true
      xchgpend := true }

def ampduRxStop (rap : RxAmpdu) : Except Fault RxAmpdu :=
  match ampduRxPurge rap with
  | .error f => .error f
  | .ok rap => .ok { rap with running := false, xchgpend := false, waitrx := false }

/-- `ampdu_dispatch` marks the frame. -/
def ampduDispatch (m : Mbuf) : Mbuf := { m with mAmpduMpdu := true }

/-- `ampdu_dispatch_slot`; the returned list has as many frames as the function returns. -/
def ampduDispatchSlot (rap : RxAmpdu) (i : Nat) : RxAmpdu × List Mbuf :=
  (rap.drain i, (rap.rxaMq i).map ampduDispatch)

/-- The loop of `ampdu_rx_moveup` from slot `j`, with `k` slots to go and `n` frames left. -/
def ampduRxMoveupLoop (i : Nat) : Nat → Nat → Int → (Nat → List Mbuf) →
    Except Fault (Int × (Nat → List Mbuf))
  | 0, _, n, mq => .ok (n, mq)
  | k + 1, j, n, mq =>
    if mq j ≠ [] then
      let n := n - (mq j).length
      -- `mbufq_concat(&rap->rxa_mq[j-i], &rap->rxa_mq[j])`
      let mq := clear (put mq (j - i) (mq j)) j
      if n < 0 then .error .moveupNegative
      else if n = 0 then .ok (n, mq)
      else ampduRxMoveupLoop i k (j + 1) n mq
    else ampduRxMoveupLoop i k (j + 1) n mq

def ampduRxMoveup (rap : RxAmpdu) (i : Nat) : Except Fault RxAmpdu :=
  if rap.rxaQframes ≠ 0 then
    match ampduRxMoveupLoop i (rap.rxaWnd - (i + 1)) (i + 1) rap.rxaQframes rap.rxaMq with
    | .error f => .error f
    | .ok (n, mq) => if n = 0 then .ok { rap with rxaMq := mq } else .error .moveupLost
  else .ok rap

/-- The run of `ampdu_rx_dispatch` from slot `i`, with `k` slots to go. -/
def ampduRxDispatchLoop : Nat → Nat → RxAmpdu → RxAmpdu × Nat × List Mbuf
  | 0, i, rap => (rap, i, [])
  | k + 1, i, rap =>
    let (rap, ms) := ampduDispatchSlot rap i
    if ms = [] then (rap, i, [])
    else
      let (rap, i, out) := ampduRxDispatchLoop k (i + 1) rap
      (rap, i, ms ++ out)

def ampduRxDispatch (rap : RxAmpdu) : Except Fault (RxAmpdu × List Mbuf) :=
  let (rap, i, out) := ampduRxDispatchLoop (rap.rxaWnd - 1) 1 rap
  match ampduRxMoveup rap i with
  | .error f => .error f
  | .ok rap => .ok ({ rap with rxaStart := seqAdd rap.rxaStart i }, out)

/-- The loop of `ampdu_rx_flush` from slot `i`, with `k` slots to go. -/
def ampduRxFlushLoop : Nat → Nat → RxAmpdu → RxAmpdu × List Mbuf
  | 0, _, rap => (rap, [])
  | k + 1, i, rap =>
    let (rap, ms) := ampduDispatchSlot rap i
    if ms = [] then ampduRxFlushLoop k (i + 1) rap
    else if rap.rxaQframes = 0 then (rap, ms)
    else
      let (rap, out) := ampduRxFlushLoop k (i + 1) rap
      (rap, ms ++ out)

def ampduRxFlush (rap : RxAmpdu) : RxAmpdu × List Mbuf := ampduRxFlushLoop rap.rxaWnd 0 rap

/-- The loop of `ampdu_rx_flush_upto` from slot `i`, with `k` slots to go. -/
def ampduRxFlushUptoLoop (winstart : Nat) : Nat → Nat → Nat → RxAmpdu →
    RxAmpdu × Nat × Nat × List Mbuf
  | 0, i, seqno, rap => (rap, i, seqno, [])
  | k + 1, i, seqno, rap =>
    if rap.rxaMq i ≠ [] then
      let (rap, ms) := ampduDispatchSlot rap i
      let (rap, i, seqno, out) := ampduRxFlushUptoLoop winstart k (i + 1) (seqInc seqno) rap
      (rap, i, seqno, ms ++ out)
    else if ¬ seqBaBefore seqno winstart then (rap, i, seqno, [])
    else ampduRxFlushUptoLoop winstart k (i + 1) (seqInc seqno) rap

def ampduRxFlushUpto (rap : RxAmpdu) (winstart : Nat) : Except Fault (RxAmpdu × List Mbuf) :=
  let (rap, i, seqno, out) := ampduRxFlushUptoLoop winstart rap.rxaWnd 0 rap.rxaStart rap
  match ampduRxMoveup rap i with
  | .error f => .error f
  | .ok rap => .ok ({ rap with rxaStart := seqno }, out)

/-- What the kernel's clock and the `ampdu_age` setting say. -/
structure Clock where
  ticks : Int
  ampduAge : Int
  deriving DecidableEq, Repr

/-- `ticks - rap->rxa_age > ieee80211_ampdu_age`. -/
def RxAmpdu.aged (rap : RxAmpdu) (clk : Clock) : Bool :=
  decide (clk.ampduAge < wrap32 (clk.ticks - rap.rxaAge))

/-- Where `rxa_start` goes for a frame that is passed up directly: a subframe of an A-MSDU that
    is not the last leaves it alone. -/
def directStart (rap : RxAmpdu) (rxseq : Nat) (amsdu amsduEnd : Bool) : RxAmpdu :=
  if amsdu && !amsduEnd then rap else { rap with rxaStart := seqInc rxseq }

/-- The part of `ieee80211_ampdu_reorder` from the label `again` on. -/
def reorderAgain (clk : Clock) (rxseq : Nat) (m : Mbuf) (rxs : Option RxStats) :
    Nat → RxAmpdu → Except Fault (RxAmpdu × Verdict × List Mbuf)
  | 0, _ => .error .fuel
  | fuel + 1, rap =>
    let amsdu := ieee80211CheckRxseqAmsdu rxs
    let amsduEnd := ieee80211CheckRxseqAmsduMore rxs
    if rxseq = rap.rxaStart then
      if rap.rxaQframes ≠ 0 then
        if rap.rxaMq 0 ≠ [] then .error .unexpectedDup
        else
          match ampduRxDispatch rap with
          | .error f => .error f
          | .ok (rap, out) => .ok (rap, .consumed, ampduDispatch m :: out)
      else .ok (directStart rap rxseq amsdu amsduEnd, .process, [])
    else
      let off := seqSub rxseq rap.rxaStart
      if off < rap.rxaWnd then
        if rap.rxaQframes ≠ 0 then
          if rap.aged clk then
            -- frames have been held for too long
            let (rap, out) := ampduRxFlush rap
            .ok (directStart rap rxseq amsdu amsduEnd, .process, out)
          else .ok (ampduRxAddSlot rap off m rxs, .consumed, [])
        else .ok (ampduRxAddSlot { rap with rxaAge := clk.ticks } off m rxs, .consumed, [])
      else if off < IEEE80211_SEQ_BA_RANGE then
        match ampduRxFlushUpto rap (seqSub rxseq (rap.rxaWnd - 1)) with
        | .error f => .error f
        | .ok (rap, out) =>
          match reorderAgain clk rxseq m rxs fuel rap with
          | .error f => .error f
          | .ok (rap, v, out') => .ok (rap, v, out ++ out')
      else .ok (rap, .consumed, [])

/-- `ieee80211_ampdu_reorder` on the session of the frame's TID: the frame's verdict and the
    frames dispatched before it.  `niHt` is `ni->ni_flags & IEEE80211_NODE_HT`. -/
def ieee80211AmpduReorder (niHt : Bool) (clk : Clock) (rap : RxAmpdu) (m : Mbuf)
    (rxs : Option RxStats) : Except Fault (RxAmpdu × Verdict × List Mbuf) :=
  if ¬ (m.mAmpdu = true ∧ m.mAmpduMpdu = false) then .error .notAmpdu
  else if niHt = false then .error .notHt
  else if m.iFc0 ≠ IEEE80211_FC0_QOSDATA then .ok (rap, .process, [])
  else if m.isMulticast then .ok (rap, .process, [])
  else if rap.xchgpend = false then .ok (rap, .process, [])
  -- fragments are not allowed
  else if m.frag ≠ 0 then .ok (rap, .consumed, [])
  else
    let rxseq := m.seq
    let rap := if rap.waitrx then { rap with waitrx := false, rxaStart := rxseq } else rap
    reorderAgain clk rxseq m rxs IEEE80211_SEQ_RANGE rap

/-- `ieee80211_recv_bar` on the session the frame names; `iSeq` is `le16toh(wh->i_seq)` and
    `recvBarEna` the sysctl. -/
def ieee80211RecvBar (recvBarEna : Bool) (rap : RxAmpdu) (iSeq : BitVec 16) :
    Except Fault (RxAmpdu × List Mbuf) :=
  if recvBarEna = false then .ok (rap, [])
  else if rap.xchgpend = false then .ok (rap, [])
  else
    let rxseq := (iSeq >>> 4).toNat
    if rxseq = rap.rxaStart then .ok (rap, [])
    else
      let off := seqSub rxseq rap.rxaStart
      if off < IEEE80211_SEQ_BA_RANGE then
        let wnd := rap.rxaWnd
        match ampduRxFlushUpto rap rxseq with
        | .error f => .error f
        | .ok (rap, out) =>
          -- `ampdu_rx_flush_upto` does not move past the window
          if wnd ≤ off then .ok ({ rap with rxaStart := rxseq }, out) else .ok (rap, out)
      else .ok (rap, [])

/-- The part of `ieee80211_ht_node_age` for one TID. -/
def ieee80211HtNodeAge (clk : Clock) (rap : RxAmpdu) : RxAmpdu × List Mbuf :=
  if rap.xchgpend = false then (rap, [])
  else if rap.rxaQframes = 0 then (rap, [])
  else if rap.aged clk then ampduRxFlush rap
  else (rap, [])

/-! ## A node and its sessions -/

/-- The receive sessions of a node (`ni_rx_ampdu`) and its `IEEE80211_NODE_HT` flag. -/
structure Node where
  niHt : Bool
  niRxAmpdu : Fin WME_NUM_TID → RxAmpdu

/-- After `ieee80211_ht_node_init`. -/
def ieee80211HtNodeInit : Node := ⟨true, fun _ => ieee80211AmpduRxInitRap⟩

inductive Op where
  | rxStart (tid : Fin WME_NUM_TID) (htcRxAmsduAmpdu : Bool) (baparamset baseqctl : BitVec 16)
  | rxStartExt (tid : Fin WME_NUM_TID) (seq : Int) (baw : BitVec 32)
  | reorder (clk : Clock) (m : Mbuf) (rxs : Option RxStats)
  | recvBar (recvBarEna : Bool) (iCtl iSeq : BitVec 16)
  | nodeAge (tid : Fin WME_NUM_TID) (clk : Clock)
  | rxStop (tid : Fin WME_NUM_TID)

/-- TID field of a BAR (`IEEE80211_BAR_TID`). -/
def barTid (iCtl : BitVec 16) : Fin WME_NUM_TID :=
  Fin.ofNat WME_NUM_TID ((iCtl &&& 0xf000) >>> 12).toNat

def Op.tid : Op → Fin WME_NUM_TID
  | .rxStart tid .. => tid
  | .rxStartExt tid .. => tid
  | .reorder _ m _ => m.tid
  | .recvBar _ iCtl _ => barTid iCtl
  | .nodeAge tid _ => tid
  | .rxStop tid => tid

/-- The call on its session: the verdict on the frame it brings, if any, and what it dispatches. -/
def Op.session (niHt : Bool) (rap : RxAmpdu) :
    Op → Except Fault (RxAmpdu × Option Verdict × List Mbuf)
  | .rxStart _ h p s => (ampduRxStart rap h p s).map fun r => (r, none, [])
  | .rxStartExt _ seq baw => (ieee80211AmpduRxStartExt rap seq baw).map fun r => (r, none, [])
  | .reorder clk m rxs =>
    (ieee80211AmpduReorder niHt clk rap m rxs).map fun r => (r.1, some r.2.1, r.2.2)
  | .recvBar ena _ s => (ieee80211RecvBar ena rap s).map fun r => (r.1, none, r.2)
  | .nodeAge _ clk =>
    let r := ieee80211HtNodeAge clk rap
    .ok (r.1, none, r.2)
  | .rxStop _ => (ampduRxStop rap).map fun r => (r, none, [])

def Op.apply (ni : Node) (op : Op) : Except Fault (Node × Option Verdict × List Mbuf) :=
  (op.session ni.niHt (ni.niRxAmpdu op.tid)).map fun r =>
    ({ ni with niRxAmpdu := Function.update ni.niRxAmpdu op.tid r.1 }, r.2)

/-- Start sequence numbers are `-1` (wait for the first frame) or 12 bits wide. -/
def Op.wellFormed : Op → Prop
  | .rxStartExt _ seq _ => seq = -1 ∨ (0 ≤ seq ∧ seq < 4096)
  | _ => True

/-- The callers of `ieee80211_ampdu_reorder` pass only subframes of an A-MPDU that have not been
    through it (`M_AMPDU` set, the `M_AMPDU_MPDU` fast path not taken). -/
def Op.fromInput : Op → Prop
  | .reorder _ m _ => m.mAmpdu = true ∧ m.mAmpduMpdu = false
  | _ => True

end Net80211
