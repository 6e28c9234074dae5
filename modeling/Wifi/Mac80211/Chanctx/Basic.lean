import Wifi.Wireless.Chan

/-!
# Channel contexts

* `Ctx` — `struct ieee80211_chanctx`; `Link` — the channel fields of `struct ieee80211_link_data`.
* `Local` — the contexts, by their addresses, `chanctx_list` and the links.
* `chanreqCompatible`, `canReserve`, … — how requests are compared with a context and its links.
* `recalcMinDef`, `changeChanctx`, `recalcChantype` — the channel definition of a context.
* `assignLinkChanctx`, `unreserve` — a link on a context.

An AP's VLANs copy its pointer and are on no list; they, the bandwidth of the stations, SMPS, `driver_present`
and the notifications are left out.
-/

namespace Mac80211.Chanctx

open Wireless.Chan

/-- `enum ieee80211_chanctx_replace_state` -/
inductive ReplaceState where
  | none | willBeReplaced | replacesOther
  deriving DecidableEq

/-- `enum ieee80211_chanctx_mode` -/
inductive Mode where
  | shared | exclusive
  deriving DecidableEq

/-- `enum nl80211_iftype`; the other types are not expected on a channel context. -/
inductive Iftype where
  | adhoc | station | ap | apVlan | meshPoint | p2pDevice | ocb | nan | monitor | other
  deriving DecidableEq

/-- `struct ieee80211_chan_req` -/
structure ChanReq where
  oper : ChanDef
  ap : ChanDef
  deriving DecidableEq

/-- `struct ieee80211_chanctx`, with its `conf` -/
structure Ctx where
  mode : Mode
  replaceState : ReplaceState
  replaceCtx : Option Nat
  chandef : ChanDef
  ap : ChanDef
  minDef : ChanDef
  radarEnabled : Bool
  assignedLinks : List Nat
  reservedLinks : List Nat

/-- `struct ieee80211_link_data`, with its `conf` -/
structure Link where
  chanctxConf : Option Nat
  reservedChanctx : Option Nat
  chanreq : ChanReq
  reserved : ChanReq
  reservedReady : Bool
  radarRequired : Bool
  reservedRadarRequired : Bool

structure Config where
  hd : Header
  iftype : Nat → Iftype
  hasSwitchVifChanctx : Bool

/-- What is around an operation: the links of running interfaces, the stations, and what the driver and the
    allocator return. -/
structure Env where
  links : List Nat
  monitor : Option Nat
  /-- `ieee80211_get_max_required_bw` -/
  maxRequiredBw : Nat → Width
  /-- the channel definitions of authorized TDLS peers with a wider bandwidth -/
  tdls : List ChanDef
  active : Nat → Bool
  maxNumChannels : Int
  noMemory : Bool
  noMemorySwitch : Bool
  dfsRequired : ChanDef → Int
  checkCombinations : Int
  usable : ChanDef → Bool
  addChanctx : Nat → Int
  assignVif : Nat → Nat → Int
  switchVif : List (Nat × Nat × Nat) → Int

/-- `struct ieee80211_local`; a context that is not on `list` is freed. -/
structure Local where
  mem : Nat → Ctx
  list : List Nat
  link : Nat → Link
  next : Nat

variable (cfg : Config) (env : Env)

namespace Local

variable (s : Local)

def modify (i : Nat) (f : Ctx → Ctx) : Local := { s with mem := Function.update s.mem i (f (s.mem i)) }

def modifyLink (l : Nat) (f : Link → Link) : Local :=
  { s with link := Function.update s.link l (f (s.link l)) }

/-- `list_del(&link->assigned_chanctx_list)` -/
def delAssigned (l : Nat) : Local :=
  { s with mem := fun i => { s.mem i with assignedLinks := (s.mem i).assignedLinks.erase l } }

/-- `list_del(&link->reserved_chanctx_list)` -/
def delReserved (l : Nat) : Local :=
  { s with mem := fun i => { s.mem i with reservedLinks := (s.mem i).reservedLinks.erase l } }

/-- `list_add(&link->assigned_chanctx_list, …)` -/
def addAssigned (l i : Nat) : Local := s.modify i fun c => { c with assignedLinks := l :: c.assignedLinks }

def setConf (l : Nat) (conf : Option Nat) : Local := s.modifyLink l fun k => { k with chanctxConf := conf }

/-- `ieee80211_chanctx_refcount` -/
def refcount (i : Nat) : Nat := (s.mem i).assignedLinks.length + (s.mem i).reservedLinks.length

/-- `ieee80211_free_chanctx` -/
def free (i : Nat) : Local := { s with list := s.list.erase i }

end Local

/-! ## Channel requests -/

def noChandef : ChanDef where
  chan := none
  width := .w20NoHt
  centerFreq1 := 0
  centerFreq2 := 0
  edmg := { channels := 0, bwConfig := 0 }
  freq1Offset := 0
  punctured := 0

/-- `ieee80211_chanreq_identical` -/
def chanreqIdentical (a b : ChanReq) : Bool :=
  cfg.hd.identical a.oper b.oper && ((a.ap.chan = none && b.ap.chan = none) || cfg.hd.identical a.ap b.ap)

/-- `ieee80211_chanreq_compatible` -/
def chanreqCompatible (a b : ChanReq) : Option ChanReq :=
  if a.ap.chan ≠ none && b.ap.chan ≠ none && !cfg.hd.identical a.ap b.ap then none
  else
    (compatible cfg.hd a.oper b.oper).map fun compat =>
      { oper := compat, ap := if a.ap.chan ≠ none then a.ap else b.ap }

/-- `ieee80211_chanctx_compatible` -/
def chanctxCompatible (ctx : Ctx) (req : ChanReq) : Option ChanReq :=
  chanreqCompatible cfg { oper := ctx.chandef, ap := ctx.ap } req

/-- `ieee80211_chanctx_reserved_chanreq` -/
def reservedChanreq (s : Local) (i : Nat) (req : ChanReq) : Option ChanReq :=
  (s.mem i).reservedLinks.foldlM (fun req l => chanreqCompatible cfg (s.link l).reserved req) req

/-- `ieee80211_chanctx_non_reserved_chandef` -/
def nonReservedChandef (s : Local) (i : Nat) (compat : ChanReq) : Option ChanReq :=
  (s.mem i).assignedLinks.foldlM (fun compDef l =>
    if (s.link l).reservedChanctx.isSome then some compDef
    else chanreqCompatible cfg (s.link l).chanreq compDef) compat

/-- `ieee80211_chanctx_can_reserve` -/
def canReserve (s : Local) (i : Nat) (req : ChanReq) : Bool :=
  (reservedChanreq cfg s i req).isSome && (nonReservedChandef cfg s i req).isSome &&
    (s.mem i).reservedLinks ≠ [] && (reservedChanreq cfg s i req).isSome

/-- `ieee80211_find_reservation_chanctx` -/
def findReservationChanctx (s : Local) (chanreq : ChanReq) (mode : Mode) : Option Nat :=
  if mode = .exclusive then none
  else s.list.find? fun i =>
    (s.mem i).replaceState ≠ .willBeReplaced && (s.mem i).mode ≠ .exclusive && canReserve cfg s i chanreq

/-! ## The channel definition of a context -/

def maxWidth (a b : Width) : Width := if a.toNat < b.toNat then b else a

/-- The width that a link requires, as `ieee80211_get_chanctx_max_required_bw` takes it. -/
def requiredBw (s : Local) (l : Nat) : Width :=
  match cfg.iftype l with
  | .ap | .apVlan => env.maxRequiredBw l
  | .station => maxWidth (s.link l).chanreq.oper.width (env.maxRequiredBw l)
  | .adhoc | .meshPoint | .ocb => (s.link l).chanreq.oper.width
  | _ => .w20NoHt

/-- `ieee80211_get_chanctx_max_required_bw` -/
def chanctxMaxRequiredBw (s : Local) (i : Nat) (rsvdFor : Option Nat) : Width :=
  let maxBw := env.links.foldl (fun maxBw l =>
    if rsvdFor = some l || (s.link l).chanctxConf = some i then maxWidth maxBw (requiredBw cfg env s l)
    else maxBw) .w20NoHt
  if env.monitor.any fun m => (s.link m).chanctxConf = some i then maxWidth maxBw (s.mem i).chandef.width
  else maxBw

/-- One turn of `ieee80211_chandef_downgrade`. -/
def downgradeOnce (c : ChanDef) : ChanDef :=
  let primary := fun w : Width =>
    { c with centerFreq1 := (c.primary w).1, punctured := (c.primary w).2, width := w }
  match c.width with
  | .w40 => { c with width := .w20, centerFreq1 := c.control, punctured := 0 }
  | .w80 => primary .w40
  | .w80p80 => { c with centerFreq2 := 0, width := .w80 }
  | .w160 => primary .w80
  | .w320 => primary .w160
  | .w1 | .w2 | .w4 | .w8 | .w16 | .w5 | .w10 => c
  | _ => { c with width := .w20NoHt, punctured := 0 }

/-- `ieee80211_chandef_downgrade`: again while the puncturing is not valid at the new width. -/
def chandefDowngrade : (fuel : Nat) → ChanDef → ChanDef
  | 0, c => c
  | fuel + 1, c =>
    let c := downgradeOnce c
    if !c.valid cfg.hd && c.punctured ≠ 0 then chandefDowngrade fuel c else c

/-- The loop of `_ieee80211_recalc_chanctx_min_def`. -/
def downgradeTo (maxBw : Width) : (fuel : Nat) → ChanDef → ChanDef
  | 0, c => c
  | fuel + 1, c =>
    if c.width.toNat > maxBw.toNat then downgradeTo maxBw fuel (chandefDowngrade cfg 14 c) else c

/-- `ieee80211_recalc_chanctx_min_def` -/
def recalcMinDef (i : Nat) (rsvdFor : Option Nat) (s : Local) : Local :=
  let ctx := s.mem i
  if ctx.chandef.width.narrowOrS1g || ctx.radarEnabled then
    s.modify i fun c => { c with minDef := c.chandef }
  else
    let minDef := downgradeTo cfg (chanctxMaxRequiredBw cfg env s i rsvdFor) 14 ctx.chandef
    if cfg.hd.identical ctx.minDef minDef then s else s.modify i fun c => { c with minDef := minDef }

/-- `_ieee80211_change_chanctx` -/
def changeChanctx (i : Nat) (chanreq : ChanReq) (rsvdFor : Option Nat) (s : Local) : Local :=
  if chanreqIdentical cfg { oper := (s.mem i).chandef, ap := (s.mem i).ap } chanreq then
    recalcMinDef cfg env i rsvdFor s
  else
    recalcMinDef cfg env i rsvdFor (s.modify i fun c => { c with chandef := chanreq.oper, ap := chanreq.ap })

/-- `ieee80211_find_chanctx` -/
def findChanctx (s : Local) (chanreq : ChanReq) (mode : Mode) : Option (Nat × Local) :=
  if mode = .exclusive then none
  else s.list.findSome? fun i =>
    if (s.mem i).replaceState ≠ .none || (s.mem i).mode = .exclusive then none
    else
      ((chanctxCompatible cfg (s.mem i) chanreq).bind (reservedChanreq cfg s i)).map fun compat =>
        (i, changeChanctx cfg env i compat none s)

/-- What `ieee80211_recalc_chanctx_chantype` changes the context to. -/
def chantypeReq (s : Local) (i : Nat) : Option ChanReq :=
  let reqs := (env.links.filter fun l => cfg.iftype l ≠ .apVlan && (s.link l).chanctxConf = some i).map
    fun l => (s.link l).chanreq
  match reqs with
  | [] => none
  | req :: _ =>
    (reqs.foldlM (fun compat r => chanreqCompatible cfg r compat) req).bind
      (env.tdls.foldlM fun compat d => chanreqCompatible cfg { oper := d, ap := noChandef } compat)

/-- `ieee80211_recalc_chanctx_chantype` -/
def recalcChantype (i : Nat) (s : Local) : Local :=
  match chantypeReq cfg env s i with
  | none => s
  | some compat => changeChanctx cfg env i compat none s

/-- `ieee80211_recalc_radar_chanctx` -/
def recalcRadar (i : Nat) (s : Local) : Local :=
  s.modify i fun c => { c with
    radarEnabled := env.links.any fun l => (s.link l).chanctxConf = some i && (s.link l).radarRequired }

/-- `ieee80211_alloc_chanctx` -/
def allocChanctx (chanreq : ChanReq) (mode : Mode) (s : Local) : Nat × Local :=
  let i := s.next
  (i, recalcMinDef cfg env i none
    { s with
      mem := Function.update s.mem i
        { mode := mode, replaceState := .none, replaceCtx := none, chandef := chanreq.oper, ap := chanreq.ap,
          minDef := noChandef, radarEnabled := false, assignedLinks := [], reservedLinks := [] }
      next := i + 1 })

/-- `ieee80211_new_chanctx` -/
def newChanctx (chanreq : ChanReq) (mode : Mode) (s : Local) : Except Int Nat × Local :=
  if env.noMemory then (.error (-12), s)
  else
    let r := allocChanctx cfg env chanreq mode s
    let err := env.addChanctx r.1
    if err ≠ 0 then (.error err, r.2) else (.ok r.1, { r.2 with list := r.1 :: r.2.list })

/-! ## Links -/

/-- `ieee80211_assign_link_chanctx` -/
def assignLinkChanctx (l : Nat) (newCtx : Option Nat) (s : Local) : Int × Local :=
  if cfg.iftype l = .nan then (-95, s)
  else
    let curr := (s.link l).chanctxConf
    let s := if curr.isSome then s.delAssigned l else s
    let r : Int × Local :=
      match newCtx with
      | none => (0, s.setConf l none)
      | some i =>
        let s := recalcMinDef cfg env i (some l) s
        let ret := env.assignVif l i
        if ret ≠ 0 then (ret, s.setConf l none) else (0, (s.addAssigned l i).setConf l (some i))
    let s := curr.elim r.2 fun i =>
      if (r.2.mem i).assignedLinks ≠ [] then
        recalcMinDef cfg env i none (recalcRadar env i (recalcChantype cfg env i r.2))
      else r.2
    let s := newCtx.elim s fun i =>
      if (s.mem i).assignedLinks ≠ [] then recalcMinDef cfg env i none s else s
    (r.1, s)

/-- `ieee80211_link_unreserve_chanctx` -/
def unreserve (l : Nat) (s : Local) : Int × Local :=
  match (s.link l).reservedChanctx with
  | none => (-22, s)
  | some i =>
    let s := (s.delReserved l).modifyLink l fun k => { k with reservedChanctx := none }
    if s.refcount i ≠ 0 then (0, s)
    else if (s.mem i).replaceState = .replacesOther then
      match (s.mem i).replaceCtx with
      | none => (-22, s)
      | some j =>
        (0, (s.modify j fun c => { c with replaceCtx := none, replaceState := .none }).free i)
    else (0, s.free i)

/-- `ieee80211_link_update_chanreq` -/
def updateChanreq (l : Nat) (chanreq : ChanReq) (s : Local) : Local :=
  s.modifyLink l fun k => { k with chanreq := chanreq }

end Mac80211.Chanctx
