import Wifi.Lib.ReadLog
import Wifi.Net80211.Mesh.Route

/-!
# Path selection elements (`freebsd/sys/net80211/ieee80211_hwmp.c`)

* `Preq`, `Ie` — an element as it is written, with its first two octets.
* `hwmpSendPreq`, `hwmpSendPrep`, `hwmpSendPerr` — the lengths that the functions of these names set.
* `hwmpAddMeshpreq`, `hwmpAddMeshprep`, `hwmpAddMeshperr`, `hwmpAddMeshrann`, `hwmpSendAction` — the
  body of the action frame.
* `verifyMeshPreqLen`, `verifyMeshPrepLen`, `verifyMeshPerrLen`, `hwmpRecvActionMeshpath` — the parser,
  on a memory where the frame body is `[frm, efrm)`, with every read logged.

The parser hands an element to `hwmp_recv_preq` and its siblings, which are in `Hwmp`; here it collects
them.  Memory for an element is always there.  The rate checks and the rest of the frame are left out.
-/

namespace Net80211.Mesh.Wire

open ReadLog Cursor

/-! ## Data -/

def IEEE80211_ACTION_CAT_MESH : BitVec 8 := 13
def IEEE80211_ACTION_MESH_HWMP : BitVec 8 := 1

def IEEE80211_ELEMID_MESHRANN : BitVec 8 := 126
def IEEE80211_ELEMID_MESHPREQ : BitVec 8 := 130
def IEEE80211_ELEMID_MESHPREP : BitVec 8 := 131
def IEEE80211_ELEMID_MESHPERR : BitVec 8 := 132

def IEEE80211_MESHRANN_BASE_SZ : Nat := 21

def IEEE80211_MESHPREQ_BASE_SZ : Nat := 26
def IEEE80211_MESHPREQ_BASE_SZ_AE : Nat := 32
def IEEE80211_MESHPREQ_TRGT_SZ : Nat := 11
def IEEE80211_MESHPREQ_TCNT_OFFSET : Nat := 27
def IEEE80211_MESHPREQ_TCNT_OFFSET_AE : Nat := 33

def IEEE80211_MESHPREP_BASE_SZ : Nat := 31
def IEEE80211_MESHPREP_BASE_SZ_AE : Nat := 37

def IEEE80211_MESHPERR_MAXDEST : Nat := 19
def IEEE80211_MESHPERR_NDEST_OFFSET : Nat := 3
def IEEE80211_MESHPERR_BASE_SZ : Nat := 2
def IEEE80211_MESHPERR_DEST_SZ : Nat := 13
def IEEE80211_MESHPERR_DEST_SZ_AE : Nat := 19

/-- `IEEE80211_MESHPREQ_FLAGS_AE`, `IEEE80211_MESHPREP_FLAGS_AE` and `IEEE80211_MESHPERR_FLAGS_AE` in a
    flags octet: an external address is there. -/
def hasAE (flags : BitVec 8) : Bool := flags &&& 0x40 ≠ 0

/-- `struct ieee80211_meshpreq_ie` behind its first two octets; `preq_tcount` is the number of targets. -/
structure Preq where
  preqFlags : BitVec 8
  preqHopcount : BitVec 8
  preqTtl : BitVec 8
  preqId : BitVec 32
  preqOrigaddr : MacAddr
  preqOrigseq : BitVec 32
  preqOrigExtAddr : MacAddr
  preqLifetime : BitVec 32
  preqMetric : BitVec 32
  preqTargets : List MeshpreqTarget
  deriving DecidableEq, Repr

def ofMeshpreqIe (preq : MeshpreqIe) : Preq :=
  { preqFlags := preq.preqFlags, preqHopcount := preq.preqHopcount, preqTtl := preq.preqTtl
    preqId := preq.preqId, preqOrigaddr := preq.preqOrigaddr, preqOrigseq := preq.preqOrigseq
    preqOrigExtAddr := preq.preqOrigExtAddr, preqLifetime := preq.preqLifetime
    preqMetric := preq.preqMetric, preqTargets := preq.target0 :: preq.moreTargets }

/-- An element, with the `_len` octet in front of its fields; the `_ie` octet says which one it is. -/
inductive Ie where
  | preq (preqLen : BitVec 8) (preq : Preq)
  | prep (prepLen : BitVec 8) (prep : MeshprepIe)
  | perr (perrLen : BitVec 8) (perr : MeshperrIe)
  | rann (rannLen : BitVec 8) (rann : MeshrannIe)
  deriving DecidableEq, Repr

/-! ## Writing -/

def targetBytes (target : MeshpreqTarget) : List (BitVec 8) :=
  target.targetFlags :: (be48 target.targetAddr ++ le32 target.targetSeq)

def hwmpAddMeshpreq (preqLen : BitVec 8) (preq : Preq) : List (BitVec 8) :=
  [IEEE80211_ELEMID_MESHPREQ, preqLen, preq.preqFlags, preq.preqHopcount, preq.preqTtl] ++
    le32 preq.preqId ++ be48 preq.preqOrigaddr ++ le32 preq.preqOrigseq ++
    (if hasAE preq.preqFlags then be48 preq.preqOrigExtAddr else []) ++
    le32 preq.preqLifetime ++ le32 preq.preqMetric ++ [BitVec.ofNat 8 preq.preqTargets.length] ++
    preq.preqTargets.flatMap targetBytes

def hwmpAddMeshprep (prepLen : BitVec 8) (prep : MeshprepIe) : List (BitVec 8) :=
  [IEEE80211_ELEMID_MESHPREP, prepLen, prep.prepFlags, prep.prepHopcount, prep.prepTtl] ++
    be48 prep.prepTargetaddr ++ le32 prep.prepTargetseq ++
    (if hasAE prep.prepFlags then be48 prep.prepTargetExtAddr else []) ++
    le32 prep.prepLifetime ++ le32 prep.prepMetric ++ be48 prep.prepOrigaddr ++ le32 prep.prepOrigseq

def destBytes (dest : MeshperrDest) : List (BitVec 8) :=
  dest.destFlags :: (be48 dest.destAddr ++ le32 dest.destSeq ++
    (if hasAE dest.destFlags then be48 dest.destExtAddr else []) ++ le16 dest.destRcode)

def hwmpAddMeshperr (perrLen : BitVec 8) (perr : MeshperrIe) : List (BitVec 8) :=
  [IEEE80211_ELEMID_MESHPERR, perrLen, perr.perrTtl, BitVec.ofNat 8 perr.perrDests.length] ++
    perr.perrDests.flatMap destBytes

def hwmpAddMeshrann (rannLen : BitVec 8) (rann : MeshrannIe) : List (BitVec 8) :=
  [IEEE80211_ELEMID_MESHRANN, rannLen, rann.rannFlags, rann.rannHopcount, rann.rannTtl] ++
    be48 rann.rannAddr ++ le32 rann.rannSeq ++ le32 rann.rannInterval ++ le32 rann.rannMetric

/-- The body that `hwmp_send_action` gives the frame. -/
def hwmpSendAction (ie : Ie) : List (BitVec 8) :=
  [IEEE80211_ACTION_CAT_MESH, IEEE80211_ACTION_MESH_HWMP] ++
    match ie with
    | .preq preqLen preq => hwmpAddMeshpreq preqLen preq
    | .prep prepLen prep => hwmpAddMeshprep prepLen prep
    | .perr perrLen perr => hwmpAddMeshperr perrLen perr
    | .rann rannLen rann => hwmpAddMeshrann rannLen rann

/-- What `hwmp_send_preq` hands on: `preq_len` is an octet. -/
def hwmpSendPreq (preq : Preq) : Ie :=
  .preq (BitVec.ofNat 8 ((if hasAE preq.preqFlags then IEEE80211_MESHPREQ_BASE_SZ_AE else IEEE80211_MESHPREQ_BASE_SZ) +
    preq.preqTargets.length * IEEE80211_MESHPREQ_TRGT_SZ)) preq

/-- What `hwmp_send_prep` hands on. -/
def hwmpSendPrep (prep : MeshprepIe) : Ie :=
  .prep (BitVec.ofNat 8 (if hasAE prep.prepFlags then IEEE80211_MESHPREP_BASE_SZ_AE else IEEE80211_MESHPREP_BASE_SZ))
    prep

def destSz (flags : BitVec 8) : Nat :=
  if hasAE flags then IEEE80211_MESHPERR_DEST_SZ_AE else IEEE80211_MESHPERR_DEST_SZ

/-- What `hwmp_send_perr` hands on: `length` is a `uint8_t`. -/
def hwmpSendPerr (perr : MeshperrIe) : Ie :=
  .perr (perr.perrDests.foldl (fun length dest => length + BitVec.ofNat 8 (destSz dest.destFlags))
    (BitVec.ofNat 8 IEEE80211_MESHPERR_BASE_SZ)) perr

/-! ## Reading -/

section Parser

variable (m : Nat → BitVec 8)

/-- `verify_mesh_preq_len` of the element at `iefrm`; `none` is -1. -/
def verifyMeshPreqLen (iefrm : Nat) : ReadLog (Option Nat) := do
  let flags ← byte m (iefrm + 2)
  let ndest ← byte m (iefrm +
    if hasAE flags then IEEE80211_MESHPREQ_TCNT_OFFSET_AE else IEEE80211_MESHPREQ_TCNT_OFFSET)
  let allocSz := (if hasAE flags then IEEE80211_MESHPREQ_BASE_SZ_AE else IEEE80211_MESHPREQ_BASE_SZ) +
    ndest.toNat * IEEE80211_MESHPREQ_TRGT_SZ
  let len ← byte m (iefrm + 1)
  pure (if len.toNat ≠ allocSz then none else some ndest.toNat)

def verifyMeshPrepLen (iefrm : Nat) : ReadLog (Option Nat) := do
  let flags ← byte m (iefrm + 2)
  let len ← byte m (iefrm + 1)
  let sz := if hasAE flags then IEEE80211_MESHPREP_BASE_SZ_AE else IEEE80211_MESHPREP_BASE_SZ
  pure (if len.toNat = sz then some 1 else none)

/-- The loop of `verify_mesh_perr_len` over the destinations. -/
def destLoop : Nat → Nat → ReadLog Nat
  | 0, iefrmT => pure iefrmT
  | n + 1, iefrmT => do
    let flags ← byte m iefrmT
    destLoop n (iefrmT + destSz flags)

def verifyMeshPerrLen (iefrm : Nat) : ReadLog (Option Nat) := do
  let ndest ← byte m (iefrm + IEEE80211_MESHPERR_NDEST_OFFSET)
  if IEEE80211_MESHPERR_MAXDEST < ndest.toNat then pure none
  else do
    let iefrmT ← destLoop m ndest.toNat (iefrm + IEEE80211_MESHPERR_NDEST_OFFSET + 1)
    let len ← byte m (iefrm + 1)
    pure (if iefrmT - iefrm - 2 ≠ len.toNat then none else some ndest.toNat)

def readTarget : Cursor MeshpreqTarget := do
  let targetFlags ← next8 m
  let targetAddr ← next48 m
  let targetSeq ← nextLe32 m
  pure { targetFlags, targetAddr, targetSeq }

def readDest : Cursor MeshperrDest := do
  let destFlags ← next8 m
  let destAddr ← next48 m
  let destSeq ← nextLe32 m
  let destExtAddr ← if hasAE destFlags then next48 m else pure 0
  let destRcode ← nextLe16 m
  pure { destFlags, destAddr, destSeq, destExtAddr, destRcode }

/-- The fields of a PREQ, from its `preq_ie` on. -/
def readPreq : Cursor Ie := do
  let _ ← next8 m
  let preqLen ← next8 m
  let preqFlags ← next8 m
  let preqHopcount ← next8 m
  let preqTtl ← next8 m
  let preqId ← nextLe32 m
  let preqOrigaddr ← next48 m
  let preqOrigseq ← nextLe32 m
  let preqOrigExtAddr ← if hasAE preqFlags then next48 m else pure 0
  let preqLifetime ← nextLe32 m
  let preqMetric ← nextLe32 m
  let preqTcount ← next8 m
  let preqTargets ← times (readTarget m) preqTcount.toNat
  pure (.preq preqLen
    { preqFlags, preqHopcount, preqTtl, preqId, preqOrigaddr, preqOrigseq, preqOrigExtAddr, preqLifetime
      preqMetric, preqTargets })

def readPrep : Cursor Ie := do
  let _ ← next8 m
  let prepLen ← next8 m
  let prepFlags ← next8 m
  let prepHopcount ← next8 m
  let prepTtl ← next8 m
  let prepTargetaddr ← next48 m
  let prepTargetseq ← nextLe32 m
  let prepTargetExtAddr ← if hasAE prepFlags then next48 m else pure 0
  let prepLifetime ← nextLe32 m
  let prepMetric ← nextLe32 m
  let prepOrigaddr ← next48 m
  let prepOrigseq ← nextLe32 m
  pure (.prep prepLen
    { prepFlags, prepHopcount, prepTtl, prepTargetaddr, prepTargetseq, prepTargetExtAddr, prepLifetime
      prepMetric, prepOrigaddr, prepOrigseq })

def readPerr : Cursor Ie := do
  let _ ← next8 m
  let perrLen ← next8 m
  let perrTtl ← next8 m
  let perrNdests ← next8 m
  let perrDests ← times (readDest m) perrNdests.toNat
  pure (.perr perrLen { perrTtl, perrDests })

/-- The fields of a RANN, which is copied as a whole. -/
def readRann : Cursor Ie := do
  let _ ← next8 m
  let rannLen ← next8 m
  let rannFlags ← next8 m
  let rannHopcount ← next8 m
  let rannTtl ← next8 m
  let rannAddr ← next48 m
  let rannSeq ← nextLe32 m
  let rannInterval ← nextLe32 m
  let rannMetric ← nextLe32 m
  pure (.rann rannLen { rannFlags, rannHopcount, rannTtl, rannAddr, rannSeq, rannInterval, rannMetric })

/-- What becomes of an element: it is handed on, counted in `is_rx_mgtdiscard`, passed over, or it ends
    the parser with 1. -/
inductive Fate where
  | found (ie : Ie)
  | discard
  | skip
  | wrongRann
  deriving DecidableEq, Repr

/-- An element of the table is read by `body` when `verify` lets it pass. -/
def recvChecked (verify : ReadLog (Option Nat)) (body : Cursor Ie) (iefrm : Nat) : ReadLog Fate := do
  match ← verify with
  | none => pure .discard
  | some _ => do
    let r ← body iefrm
    pure (.found r.1)

/-- The `switch` of `hwmp_recv_action_meshpath`, on the element at `iefrm`. -/
def recvElement (iefrm : Nat) : ReadLog Fate := do
  let ie ← byte m iefrm
  if ie = IEEE80211_ELEMID_MESHPREQ then recvChecked (verifyMeshPreqLen m iefrm) (readPreq m) iefrm
  else if ie = IEEE80211_ELEMID_MESHPREP then recvChecked (verifyMeshPrepLen m iefrm) (readPrep m) iefrm
  else if ie = IEEE80211_ELEMID_MESHPERR then recvChecked (verifyMeshPerrLen m iefrm) (readPerr m) iefrm
  else if ie = IEEE80211_ELEMID_MESHRANN then do
    let rannLen ← byte m (iefrm + 1)
    if rannLen.toNat ≠ IEEE80211_MESHRANN_BASE_SZ then pure .wrongRann
    else do
      let r ← readRann m iefrm
      pure (.found r.1)
  else pure .skip

/-- What `hwmp_recv_action_meshpath` has done: the elements it handed on, `is_rx_mgtdiscard` and
    `is_rx_elem_toosmall` it counted, and what it returns. -/
structure Outcome where
  found : List Ie
  isRxMgtdiscard : Nat
  isRxElemToosmall : Nat
  ret : Nat
  deriving DecidableEq, Repr

/-- The loop of `hwmp_recv_action_meshpath` from the element at `iefrm` on; the first number bounds the
    rounds, and `none` says that it was too small. -/
def recvLoop (efrm : Nat) : Nat → Nat → Outcome → ReadLog (Option Outcome)
  | 0, _, _ => pure none
  | fuel + 1, iefrm, o =>
    if 1 < efrm - iefrm then do
      let len ← byte m (iefrm + 1)
      if efrm - iefrm < len.toNat + 2 then
        pure (some { o with isRxElemToosmall := o.isRxElemToosmall + 1 })
      else do
        match ← recvElement m iefrm with
        | .wrongRann => pure (some { o with isRxMgtdiscard := o.isRxMgtdiscard + 1, ret := 1 })
        | .skip => recvLoop efrm fuel (iefrm + len.toNat + 2) o
        | .discard =>
          recvLoop efrm fuel (iefrm + len.toNat + 2) { o with isRxMgtdiscard := o.isRxMgtdiscard + 1 }
        | .found ie => recvLoop efrm fuel (iefrm + len.toNat + 2) { o with found := o.found ++ [ie] }
    else
      -- `if (!found)`
      pure (some (if o.found = [] then { o with isRxMgtdiscard := o.isRxMgtdiscard + 1 } else o))

/-- `hwmp_recv_action_meshpath` on the frame body `[0, efrm)`; a round takes at least two octets. -/
def hwmpRecvActionMeshpath (efrm : Nat) : ReadLog (Option Outcome) :=
  recvLoop m efrm (efrm + 1) 2 { found := [], isRxMgtdiscard := 0, isRxElemToosmall := 0, ret := 0 }

end Parser

end Net80211.Mesh.Wire
