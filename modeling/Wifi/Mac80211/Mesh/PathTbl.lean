import Wifi.Lib.KeyedTable
import Wifi.Linux.Ieee80211
import Wifi.Linux.KernelApi

/-!
# Mesh paths (`linux/net/mac80211/mesh_pathtbl.c`)

Reference model of the path tables of a mesh interface:

* `MeshPath`, `MeshTable` — `struct mesh_path`, `struct mesh_table`.  An entry that is deleted is freed
  at once; frame queues, timers and the PREQ queue are left out.
* `FastTx` — `struct ieee80211_mesh_fast_tx`, with the addresses of the cached header.
* `MeshState` — `sdata->u.mesh`, and the stations that are there.
* `meshPathAdd`, `mppPathAdd`, `meshPathDel`, `meshPathFlushByNexthop`, `mppFlushByProxy`,
  `meshPathExpire`, `meshPathFlushByIface`, `meshPathAddGate`, `meshPathFixNexthop`, `meshPlinkBroken`,
  `meshFastTxGet`, `meshFastTxCache`, `meshFastTxGc` and the flush functions — those of the source.

An allocation, and an insertion into a hash table, may fail (`AllocResult`).
-/

namespace Mac80211.Mesh

open KeyedTable

/-- `enum mesh_path_flags`, as far as they are tested here. -/
structure MeshPathFlags where
  active : Bool
  resolving : Bool
  snValid : Bool
  fixed : Bool
  resolved : Bool
  deriving DecidableEq

/-- `struct mesh_path`; a station is its address in memory. -/
structure MeshPath where
  dst : EthAddr
  mpp : EthAddr
  nextHop : Option Nat
  sn : BitVec 32
  metric : BitVec 32
  hopCount : BitVec 8
  expTime : BitVec 64
  flags : MeshPathFlags
  rannSndAddr : EthAddr
  rannMetric : BitVec 32
  lastPreqToRoot : BitVec 64
  fastTxCheck : BitVec 64
  isRoot : Bool
  isGate : Bool
  pathChangeCount : BitVec 32

abbrev MeshTable := Table MeshPath

/-- `enum ieee80211_mesh_fast_tx_type` -/
inductive FastTxType where
  | local | proxied | forwarded
  deriving DecidableEq

/-- `struct ieee80211_mesh_fast_tx_key` -/
structure FastTxKey where
  addr : EthAddr
  type : FastTxType
  deriving DecidableEq

structure MeshHdr where
  addr1 : EthAddr
  addr2 : EthAddr
  addr3 : EthAddr
  addr4 : EthAddr

/-- `struct ieee80211_mesh_fast_tx` -/
structure FastTx where
  key : FastTxKey
  hdr : MeshHdr
  mpath : Nat
  mppath : Option Nat
  timestamp : BitVec 64

/-- `sdata->u.mesh` with the stations of the interface. -/
structure MeshState where
  vifAddr : EthAddr
  dot11MeshForwarding : Bool
  noackMap : BitVec 16
  meshPaths : MeshTable
  mppPaths : MeshTable
  mpaths : Int
  knownGates : List Nat
  numGates : Int
  txCache : Table FastTx
  /-- the address of a station that is there -/
  stas : Nat → Option EthAddr

/-- Whether `kzalloc` and the insertion into the hash table succeed. -/
structure AllocResult where
  allocOk : Bool
  insertOk : Bool

inductive Errno where
  | EOPNOTSUPP | ENOSPC | ENOMEM | EEXIST | ENXIO | ENOENT
  deriving DecidableEq

def MESH_MAX_MPATHS : Int := 1024
def MESH_FAST_TX_CACHE_MAX_SIZE : Nat := 512
def MESH_FAST_TX_CACHE_THRESHOLD_SIZE : Nat := 384

variable (k : KernelApi)

def MESH_PATH_EXPIRE : BitVec 64 := BitVec.ofNat 64 (600 * k.hz)

/-- `MESH_FAST_TX_CACHE_TIMEOUT` in jiffies. -/
def MESH_FAST_TX_CACHE_TIMEOUT : BitVec 64 := BitVec.ofNat 64 (8 * k.hz)

def mpathExpired (now : BitVec 64) (mpath : MeshPath) : Bool :=
  mpath.flags.active && k.timeAfter now mpath.expTime && !mpath.flags.fixed

/-- `mpath->flags &= ~MESH_PATH_ACTIVE` -/
def MeshPath.deactivate (mpath : MeshPath) : MeshPath :=
  { mpath with flags := { mpath.flags with active := false } }

/-- `mesh_path_activate` -/
def MeshPath.activate (mpath : MeshPath) : MeshPath :=
  { mpath with flags := { mpath.flags with active := true, resolved := true } }

/-- `mesh_path_assign_nexthop` -/
def MeshPath.assignNexthop (mpath : MeshPath) (sta : Nat) : MeshPath :=
  { mpath with nextHop := some sta }

def mpathLookup (now : BitVec 64) (tbl : MeshTable) (dst : EthAddr) : MeshTable × Option Nat :=
  match tbl.lookup MeshPath.dst dst with
  | none => (tbl, none)
  | some a =>
    (tbl.modify a fun mpath => if mpathExpired k now mpath then mpath.deactivate else mpath, some a)

def meshPathNew (now : BitVec 64) (dst : EthAddr) : MeshPath :=
  { dst := dst
    mpp := 0
    nextHop := none
    sn := 0
    metric := 0
    hopCount := 0
    expTime := now
    flags :=
      { active := false, resolving := false, snValid := false, fixed := false, resolved := false }
    rannSndAddr := broadcastAddr
    rannMetric := 0
    lastPreqToRoot := 0
    fastTxCheck := 0
    isRoot := false
    isGate := false
    pathChangeCount := 0 }

namespace MeshState

variable (s : MeshState)

def meshPathLookup (now : BitVec 64) (dst : EthAddr) : MeshState × Option Nat :=
  let r := mpathLookup k now s.meshPaths dst
  ({ s with meshPaths := r.1 }, r.2)

def mppPathLookup (now : BitVec 64) (dst : EthAddr) : MeshState × Option Nat :=
  let r := mpathLookup k now s.mppPaths dst
  ({ s with mppPaths := r.1 }, r.2)

/-- Write to an entry of `mesh_paths`. -/
def modifyPath (a : Nat) (f : MeshPath → MeshPath) : MeshState :=
  { s with meshPaths := s.meshPaths.modify a f }

/-- Write to an entry of `mpp_paths`. -/
def modifyMpp (a : Nat) (f : MeshPath → MeshPath) : MeshState :=
  { s with mppPaths := s.mppPaths.modify a f }

/-! ## Fast transmit cache -/

def meshFastTxEntryFree (e : Nat) : MeshState := { s with txCache := s.txCache.remove e }

/-- A walk that frees the entries that meet a condition. -/
def freeCacheIf (p : FastTx → Bool) : MeshState :=
  { s with txCache := s.txCache.removeIf p }

def meshFastTxFlushMpath (mpath : Nat) : MeshState :=
  s.freeCacheIf fun entry => entry.mpath == mpath

def meshFastTxFlushSta (sta : Nat) : MeshState :=
  s.freeCacheIf fun entry => ((s.meshPaths.mem entry.mpath).bind MeshPath.nextHop) == some sta

/-- One turn of the loop of `mesh_fast_tx_flush_addr`. -/
def meshFastTxFlushKey (key : FastTxKey) : MeshState :=
  match s.txCache.lookup FastTx.key key with
  | none => s
  | some e => s.meshFastTxEntryFree e

def meshFastTxFlushAddr (addr : EthAddr) : MeshState :=
  ((s.meshFastTxFlushKey ⟨addr, .local⟩).meshFastTxFlushKey ⟨addr, .proxied⟩).meshFastTxFlushKey
    ⟨addr, .forwarded⟩

def meshFastTxGc (now : BitVec 64) : MeshState :=
  if s.txCache.hash.length < MESH_FAST_TX_CACHE_THRESHOLD_SIZE then s
  else
    s.freeCacheIf fun entry =>
      !k.timeAfter (entry.timestamp + MESH_FAST_TX_CACHE_TIMEOUT k) now

def meshFastTxGet (now : BitVec 64) (key : FastTxKey) : MeshState × Option Nat :=
  match s.txCache.lookup FastTx.key key with
  | none => (s, none)
  | some e =>
    match s.txCache.mem e with
    | none => (s, none)
    | some entry =>
      match s.meshPaths.mem entry.mpath with
      | none => (s, none)
      | some mpath =>
        if mpath.flags.active = false || mpathExpired k now mpath then
          (s.meshFastTxFlushKey key, none)
        else
          let s := match entry.mppath with
            | none => s
            | some mppath => s.modifyMpp mppath fun mpath => { mpath with expTime := now }
          ({ s with txCache := s.txCache.modify e fun entry => { entry with timestamp := now } },
            some e)

end MeshState

/-- The frame and what else `mesh_fast_tx_cache` reads. -/
structure FastTxSkb where
  hdr : MeshHdr
  isDataQos : Bool
  hasA4 : Bool
  /-- the mesh header has the flags `MESH_FLAGS_AE_A5_A6` -/
  aeA5A6 : Bool
  eaddr1 : EthAddr
  eaddr2 : EthAddr
  /-- the key of the station allows a cached header -/
  keyOk : Bool
  alloc : AllocResult

namespace MeshState

variable (s : MeshState)

/-- The end of `mesh_fast_tx_cache`: the entry replaces the one with its key. -/
def insertFastTx (entry : FastTx) (alloc : AllocResult) : MeshState :=
  if alloc.allocOk = false then s
  else
    match s.txCache.lookup FastTx.key entry.key with
    | none => if alloc.insertOk then { s with txCache := s.txCache.add entry } else s
    | some prev => { s with txCache := (s.txCache.remove prev).add entry }

/-- `build.key.type` -/
def fastTxType (skb : FastTxSkb) : FastTxType :=
  if skb.hdr.addr4 ≠ s.vifAddr then .forwarded
  else if skb.aeA5A6 ∧ skb.eaddr2 ≠ s.vifAddr then .proxied
  else .local

/-- The end of `mesh_fast_tx_cache`, for the entry of the table that the address belongs to. -/
def buildFastTx (now : BitVec 64) (skb : FastTxSkb) (mpath : Nat) (mppath : Option Nat)
    (addr : EthAddr) : MeshState :=
  if skb.keyOk = false then s
  else
    s.insertFastTx
      { key := { addr := addr, type := s.fastTxType skb }
        hdr := skb.hdr
        mpath := mpath
        mppath := mppath
        timestamp := now } skb.alloc

def meshFastTxCache (now : BitVec 64) (skb : FastTxSkb) (mpath : Nat) : MeshState :=
  if s.noackMap ≠ 0 ∨ skb.isDataQos = false then s
  else if MESH_FAST_TX_CACHE_MAX_SIZE ≤ s.txCache.hash.length then s
  else
    match s.meshPaths.mem mpath with
    | none => s
    | some path =>
      if path.nextHop = none then s
      else if skb.aeA5A6 then
        -- This is required to keep the mppath alive
        match s.mppPathLookup k now skb.eaddr1 with
        | (s, none) => s
        | (s, some mppath) =>
          match s.mppPaths.mem mppath with
          | none => s
          | some mpp =>
            -- rate limit, in case fast xmit can't be enabled
            if mpp.fastTxCheck = now then s
            else
              (s.modifyMpp mppath fun mpath => { mpath with fastTxCheck := now }).buildFastTx now skb
                mpath (some mppath) mpp.dst
      else if skb.hasA4 = false then s
      else if path.fastTxCheck = now then s
      else
        (s.modifyPath mpath fun mpath => { mpath with fastTxCheck := now }).buildFastTx now skb mpath
          none path.dst

/-! ## Gates -/

def meshPathAddGate (mpath : Nat) : MeshState × Except Errno Unit :=
  match s.meshPaths.mem mpath with
  | none => (s, .ok ())
  | some path =>
    if path.isGate then (s, .error .EEXIST)
    else
      ({ s.modifyPath mpath fun mpath => { mpath with isGate := true } with
          numGates := s.numGates + 1
          knownGates := mpath :: s.knownGates }, .ok ())

/-- `mesh_gate_del`, for an entry with this gate flag. -/
def meshGateDel (mpath : Nat) (isGate : Bool) : MeshState :=
  if isGate then
    { s with knownGates := s.knownGates.erase mpath, numGates := s.numGates - 1 }
  else s

/-! ## Paths -/

def meshPathAdd (now : BitVec 64) (dst : EthAddr) (alloc : AllocResult) :
    MeshState × Except Errno Nat :=
  -- never add ourselves as neighbours
  if dst = s.vifAddr then (s, .error .EOPNOTSUPP)
  else if isMulticastEtherAddr dst then (s, .error .EOPNOTSUPP)
  else if s.mpaths = MESH_MAX_MPATHS then (s, .error .ENOSPC)
  else
    let s := { s with mpaths := s.mpaths + 1 }
    if alloc.allocOk = false then (s, .error .ENOMEM)
    else
      match s.meshPaths.lookup MeshPath.dst dst with
      | some mpath => (s, .ok mpath)
      | none =>
        if alloc.insertOk then
          ({ s with meshPaths := s.meshPaths.add (meshPathNew now dst) }, .ok s.meshPaths.next)
        else (s, .error .ENOMEM)

def mppPathAdd (now : BitVec 64) (dst mpp : EthAddr) (alloc : AllocResult) :
    MeshState × Except Errno Unit :=
  -- never add ourselves as neighbours
  if dst = s.vifAddr then (s, .error .EOPNOTSUPP)
  else if isMulticastEtherAddr dst then (s, .error .EOPNOTSUPP)
  else if alloc.allocOk = false then (s, .error .ENOMEM)
  else
    match s.mppPaths.lookup MeshPath.dst dst with
    | some _ => (s, .error .EEXIST)
    | none =>
      if alloc.insertOk then
        ({ s with mppPaths := s.mppPaths.add { meshPathNew now dst with mpp := mpp } }
          |>.meshFastTxFlushAddr dst, .ok ())
      else (s, .error .ENOMEM)

/-- `__mesh_path_del` and `mesh_path_free_rcu` for an entry of `mesh_paths`. -/
def meshPathDelEntry (mpath : Nat) : MeshState :=
  match s.meshPaths.mem mpath with
  | none => s
  | some path =>
    let s := (s.meshFastTxFlushMpath mpath).meshGateDel mpath path.isGate
    { s with meshPaths := s.meshPaths.remove mpath, mpaths := s.mpaths - 1 }

/-- `__mesh_path_del` and `mesh_path_free_rcu` for an entry of `mpp_paths`. -/
def mppPathDelEntry (mppath : Nat) : MeshState :=
  match s.mppPaths.mem mppath with
  | none => s
  | some path =>
    let s := (s.meshFastTxFlushAddr path.dst).meshGateDel mppath path.isGate
    { s with mppPaths := s.mppPaths.remove mppath, mpaths := s.mpaths - 1 }

/-- One turn of a walk over `mesh_paths` that deletes the entries that meet a condition. -/
def meshPathDelStep (p : MeshPath → Bool) (s : MeshState) (a : Nat) : MeshState :=
  match s.meshPaths.mem a with
  | none => s
  | some mpath => if p mpath then s.meshPathDelEntry a else s

/-- A walk over `mesh_paths` that deletes the entries that meet a condition. -/
def meshPathDelIf (p : MeshPath → Bool) : MeshState :=
  s.meshPaths.walk.foldl (meshPathDelStep p) s

/-- One turn of a walk over `mpp_paths` that deletes the entries that meet a condition. -/
def mppPathDelStep (p : MeshPath → Bool) (s : MeshState) (a : Nat) : MeshState :=
  match s.mppPaths.mem a with
  | none => s
  | some mpath => if p mpath then s.mppPathDelEntry a else s

/-- A walk over `mpp_paths` that deletes the entries that meet a condition. -/
def mppPathDelIf (p : MeshPath → Bool) : MeshState :=
  s.mppPaths.walk.foldl (mppPathDelStep p) s

def meshPathFlushByNexthop (sta : Nat) : MeshState :=
  s.meshPathDelIf fun mpath => mpath.nextHop == some sta

def mppFlushByProxy (proxy : EthAddr) : MeshState := s.mppPathDelIf fun mpath => mpath.mpp == proxy

def meshPathFlushByIface : MeshState :=
  (s.meshPathDelIf fun _ => true).mppPathDelIf fun _ => true

def meshPathDel (addr : EthAddr) : MeshState × Except Errno Unit :=
  -- flush relevant mpp entries first
  let s := s.mppFlushByProxy addr
  match s.meshPaths.lookup MeshPath.dst addr with
  | none => (s, .error Errno.ENXIO)
  | some mpath => (s.meshPathDelEntry mpath, .ok ())

/-- The condition of `mesh_path_tbl_expire`. -/
def expires (now : BitVec 64) (mpath : MeshPath) : Bool :=
  !mpath.flags.resolving && !mpath.flags.fixed &&
    k.timeAfter now (mpath.expTime + MESH_PATH_EXPIRE k)

def meshPathExpire (now : BitVec 64) : MeshState :=
  (s.meshPathDelIf (expires k now)).mppPathDelIf (expires k now)

def meshPlinkBroken (sta : Nat) : MeshState :=
  s.meshPaths.walk.foldl
    (fun s a => s.modifyPath a fun mpath =>
      if mpath.nextHop = some sta ∧ mpath.flags.active ∧ mpath.flags.fixed = false then
        { mpath.deactivate with sn := mpath.sn + 1 }
      else mpath) s

def meshPathFixNexthop (mpath sta : Nat) : MeshState :=
  (s.modifyPath mpath fun mpath =>
    { mpath.assignNexthop sta with
      sn := 0xffff
      metric := 0
      hopCount := 0
      expTime := 0
      flags :=
        { active := true, resolving := false, snValid := true, fixed := true, resolved := true } }
    ).meshFastTxFlushMpath mpath

end MeshState

end Mac80211.Mesh
