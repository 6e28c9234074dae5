import Wifi.Mac80211.Chanctx.Basic

/-!
# Operations on channel contexts

* `reserve`, `useReservedReassign`, `useReservedAssign` — reservations, and their use on a registered context.
* `useReservedSwitch` — the in-place switch: `verify`, the drivers' calls, `updateLoop`, `freeOld`, or `unwind`.
* `releaseChannel`, `useChannel`, `useReservedContext`, `changeChanreq` — the operations of a link.
-/

namespace Mac80211.Chanctx

open Wireless.Chan

variable (cfg : Config) (env : Env)

/-! ## Reservations -/

/-- The end of `ieee80211_link_reserve_chanctx`. -/
def hold (l i : Nat) (chanreq : ChanReq) (radarRequired : Bool) (s : Local) : Local :=
  (s.modify i fun c => { c with reservedLinks := l :: c.reservedLinks }).modifyLink l fun k =>
    { k with reservedChanctx := some i, reserved := chanreq, reservedRadarRequired := radarRequired,
             reservedReady := false }

def busy (s : Local) (curr : Option Nat) : Bool :=
  match curr with
  | none => true
  | some j => (s.mem j).replaceState = .willBeReplaced || (s.mem j).reservedLinks ≠ []

/-- The context that is going to be replaced: the current one, or the first one without reservations. -/
def replaceable (s : Local) (curr : Option Nat) : Option Nat :=
  if busy s curr then
    (s.list.find? fun i => (s.mem i).replaceState = .none && (s.mem i).reservedLinks = []).or curr
  else curr

/-- `ieee80211_link_reserve_chanctx` -/
def reserve (l : Nat) (chanreq : ChanReq) (mode : Mode) (radarRequired : Bool) (s : Local) : Int × Local :=
  let curr := (s.link l).chanctxConf
  if curr.isSome && !cfg.hasSwitchVifChanctx then (-95, s)
  else
    match findReservationChanctx cfg s chanreq mode with
    | some i => (0, hold l i chanreq radarRequired s)
    | none =>
      if s.list.length < env.maxNumChannels then
        match newChanctx cfg env chanreq mode s with
        | (.error err, t) => (err, t)
        | (.ok i, t) => (0, hold l i chanreq radarRequired t)
      else
        match replaceable s curr with
        | none => (-16, s)
        | some j =>
          if busy s (some j) then (-16, s)
          else if env.noMemory then (-12, s)
          else
            let r := allocChanctx cfg env chanreq mode s
            let t := r.2.modify r.1 fun c => { c with replaceCtx := some j, replaceState := .replacesOther }
            let t := t.modify j fun c => { c with replaceCtx := some r.1, replaceState := .willBeReplaced }
            (0, hold l r.1 chanreq radarRequired { t with list := r.1 :: t.list })

/-- `list_del(&link->reserved_chanctx_list)`, and no reserved context -/
def dropReservation (l : Nat) (s : Local) : Local :=
  (s.delReserved l).modifyLink l fun k => { k with reservedChanctx := none }

def freeUnused (i : Nat) (s : Local) : Local := if s.refcount i = 0 then s.free i else s

/-- `ieee80211_link_use_reserved_reassign` -/
def useReservedReassign (l : Nat) (s : Local) : Int × Local :=
  if !(s.link l).reservedReady then (-16, s)
  else
    match (s.link l).reservedChanctx, (s.link l).chanctxConf with
    | some new, some old =>
      if (s.mem new).replaceState = .replacesOther then (-22, s)
      else
        match nonReservedChandef cfg s new (s.link l).reserved with
        | none => (-22, s)
        | some chanreq =>
          let s := updateChanreq l (s.link l).reserved s
          let s := dropReservation l (changeChanctx cfg env new chanreq (some l) s)
          let err := env.switchVif [(l, old, new)]
          if err ≠ 0 then (err, freeUnused new s)
          else
            let s := ((s.delAssigned l).addAssigned l new).setConf l (some new)
            (0, recalcRadar env new (recalcMinDef cfg env new none (freeUnused old s)))
    | _, _ => (-22, s)

/-- `ieee80211_link_use_reserved_assign` -/
def useReservedAssign (l : Nat) (s : Local) : Int × Local :=
  if !(s.link l).reservedReady then (-22, s)
  else
    match (s.link l).reservedChanctx, (s.link l).chanctxConf with
    | some new, none =>
      if (s.mem new).replaceState = .replacesOther then (-22, s)
      else
        match nonReservedChandef cfg s new (s.link l).reserved with
        | none => (-22, s)
        | some chanreq =>
          let r := assignLinkChanctx cfg env l (some new)
            (dropReservation l (changeChanctx cfg env new chanreq none s))
          if r.1 ≠ 0 then (r.1, freeUnused new r.2) else r
    | _, _ => (-22, s)

/-! ## The in-place switch -/

/-- `ieee80211_link_has_in_place_reservation` -/
def hasInPlaceReservation (s : Local) (l : Nat) : Bool :=
  match (s.link l).chanctxConf, (s.link l).reservedChanctx with
  | some old, some new =>
    (s.mem old).replaceState = .willBeReplaced && (s.mem new).replaceState = .replacesOther
  | _, _ => false

/-- `n_ctx`, `n_vifs_switch`, `n_vifs_assign` and `n_vifs_ctxless` -/
structure Counts where
  ctx : Nat
  switch : Nat
  assign : Nat
  ctxless : Nat

/-- The end of the check: an error, to wait for others, or to go on. -/
inductive Verdict where
  | err (err : Int)
  | again
  | go

/-- The loop over the reserved links; `none` to wait. The context takes over whether radar is required. -/
def verifyLinks (i : Nat) : List Nat → Counts → Local → Option Counts × Local
  | [], n, s => (some n, s)
  | l :: ls, n, s =>
    if hasInPlaceReservation s l && !(s.link l).reservedReady then (none, s)
    else
      let n := match (s.link l).chanctxConf with
        | none => { n with ctxless := n.ctxless + 1 }
        | some old =>
          if (s.mem old).replaceState = .willBeReplaced then { n with switch := n.switch + 1 }
          else { n with assign := n.assign + 1 }
      verifyLinks i ls n
        (if (s.link l).reservedRadarRequired then s.modify i fun c => { c with radarEnabled := true } else s)

def verifyCtx (i : Nat) (n : Counts) (s : Local) : Verdict × Counts × Local :=
  match (s.mem i).replaceCtx with
  | none => (.err (-22), n, s)
  | some j =>
    let assigned := (s.mem j).assignedLinks
    let reserved := assigned.filter fun l => (s.link l).reservedChanctx.isSome
    let ready := reserved.filter fun l => (s.link l).reservedReady
    if assigned.length ≠ reserved.length then
      (if ready.length = reserved.length then .err (-16) else .again, { n with ctx := n.ctx + 1 }, s)
    else
      match verifyLinks i (s.mem i).reservedLinks { n with ctx := n.ctx + 1 }
          (s.modify i fun c => { c with radarEnabled := false }) with
      | (none, t) => (.again, n, t)
      | (some n, t) => (.go, n, t)

/-- The loop of `ieee80211_vif_use_reserved_switch` that verifies that the reservations are feasible. -/
def verify : List Nat → Counts → Local → Verdict × Counts × Local
  | [], n, s => (.go, n, s)
  | i :: is, n, s =>
    if (s.mem i).replaceState = .replacesOther then
      match verifyCtx i n s with
      | (.go, n, t) => verify is n t
      | r => r
    else verify is n s

/-- `ieee80211_chsw_switch_vifs` -/
def chswSwitchVifs (s : Local) : Int :=
  if env.noMemorySwitch then -12
  else
    env.switchVif (s.list.flatMap fun i =>
      if (s.mem i).replaceState = .replacesOther then
        ((s.mem i).reservedLinks.filter fun l => hasInPlaceReservation s l).map fun l =>
          (l, ((s.link l).chanctxConf).getD 0, i)
      else [])

/-- `ieee80211_chsw_switch_ctxs` -/
def chswSwitchCtxs (s : Local) : List Nat → Int
  | [] => 0
  | i :: is =>
    if (s.mem i).replaceState = .replacesOther &&
        (s.mem i).replaceCtx.all fun j => (s.mem j).assignedLinks = [] then
      let err := env.addChanctx i
      if err ≠ 0 then err else chswSwitchCtxs s is
    else chswSwitchCtxs s is

/-- An in-place reserved link now has the new context. -/
def takeCtx (i l : Nat) (s : Local) : Local :=
  if hasInPlaceReservation s l then
    s.modifyLink l fun k =>
      { k with chanctxConf := some i, radarRequired := k.reservedRadarRequired, chanreq := k.reserved }
  else s

/-- A link that has the new context is moved to its list. -/
def moveLink (i l : Nat) (s : Local) : Local :=
  if (s.link l).chanctxConf = some i then
    (((s.delReserved l).delAssigned l).addAssigned l i).modifyLink l fun k => { k with reservedChanctx := none }
  else s

/-- A deferred reservation is used now, or dropped. -/
def useDeferred (i l : Nat) (s : Local) : Local :=
  if hasInPlaceReservation s l then s
  else if (s.link l).reservedChanctx ≠ some i then s
  else if !(s.link l).reservedReady then s
  else
    let r := if (s.link l).chanctxConf.isSome then useReservedReassign cfg env l s
      else useReservedAssign cfg env l s
    if r.1 ≠ 0 then (unreserve l r.2).2 else r.2

def updateCtx (i : Nat) (s : Local) : Local :=
  let s := (s.mem i).reservedLinks.foldl (fun t l => takeCtx i l t) s
  let s := recalcMinDef cfg env i none (recalcRadar env i (recalcChantype cfg env i s))
  let s := (s.mem i).reservedLinks.foldl (fun t l => moveLink i l t) s
  (s.mem i).reservedLinks.foldl (fun t l => useDeferred cfg env i l t) s

/-- The loop that updates all structures; an error ends it. -/
def updateLoop : List Nat → Local → Int × Local
  | [], s => (0, s)
  | i :: is, s =>
    if (s.mem i).replaceState = .replacesOther then
      if (s.mem i).replaceCtx.isSome then updateLoop is (updateCtx cfg env i s) else (-22, s)
    else updateLoop is s

def freeReplaced (i : Nat) (s : Local) : Local :=
  if (s.mem i).replaceState = .willBeReplaced then
    ((s.mem i).replaceCtx.elim s fun j =>
      s.modify j fun c => { c with replaceCtx := none, replaceState := .none }).free i
  else s

def freeOld (s : Local) : Local := s.list.foldl (fun t i => freeReplaced i t) s

/-- The error path: the reservations on unregistered contexts are dropped. -/
def unwind (s : Local) : Local :=
  s.list.foldl (fun t i =>
    if (t.mem i).replaceState = .replacesOther then
      (t.mem i).reservedLinks.foldl (fun t l => (unreserve l t).2) t
    else t) s

def driverSwitch (n : Counts) (s : Local) : Int :=
  let err := if n.switch > 0 then chswSwitchVifs env s else 0
  if err ≠ 0 then err
  else if n.assign > 0 || n.ctxless > 0 then chswSwitchCtxs env s s.list
  else 0

/-- `ieee80211_vif_use_reserved_switch` -/
def useReservedSwitch (s : Local) : Int × Local :=
  match verify s.list ⟨0, 0, 0, 0⟩ s with
  | (.again, _, s) => (-11, s)
  | (.err err, _, s) => (err, unwind s)
  | (.go, n, s) =>
    if n.ctx = 0 || (n.switch = 0 && n.assign = 0 && n.ctxless = 0) then (-22, unwind s)
    else
      let err := driverSwitch env n s
      if err ≠ 0 then (err, unwind s)
      else
        let r := updateLoop cfg env s.list s
        if r.1 ≠ 0 then (r.1, unwind r.2) else (0, freeOld r.2)

/-! ## The operations of a link -/

/-- The link is taken off its context, and loses its reservation. -/
def leave (l i : Nat) (s : Local) : Local :=
  let s := if (s.link l).reservedChanctx.isSome then (unreserve l s).2 else s
  (freeUnused i (assignLinkChanctx cfg env l none s).2).modifyLink l fun k => { k with radarRequired := false }

/-- Unreserving may ready an in-place reservation. -/
def needsSwitch (s : Local) (l : Nat) : Bool :=
  (s.link l).reservedChanctx.any fun i =>
    (s.mem i).replaceState = .replacesOther && 1 < (s.mem i).reservedLinks.length

/-- `__ieee80211_link_release_channel`, and `ieee80211_link_release_channel` -/
def releaseChannel (l : Nat) (s : Local) : Local :=
  match (s.link l).chanctxConf with
  | none => s
  | some i =>
    let t := leave cfg env l i s
    if needsSwitch s l then (useReservedSwitch cfg env t).2 else t

/-- `ieee80211_link_use_channel` -/
def useChannel (l : Nat) (chanreq : ChanReq) (mode : Mode) (s : Local) : Int × Local :=
  let failed := fun (r : Int × Local) => (r.1, r.2.modifyLink l fun k => { k with radarRequired := false })
  if !env.active l then (0, updateChanreq l chanreq s)
  else
    let ret := env.dfsRequired chanreq.oper
    if ret < 0 then failed (ret, s)
    else
      let s := s.modifyLink l fun k => { k with radarRequired := ret ≠ 0 }
      if env.checkCombinations < 0 then failed (env.checkCombinations, s)
      else
        let s := releaseChannel cfg env l s
        let r : Except Int Nat × Local := match findChanctx cfg env s chanreq mode with
          | some (i, s) => (.ok i, s)
          | none => newChanctx cfg env chanreq mode s
        match r with
        | (.error err, s) => failed (err, s)
        | (.ok i, s) =>
          let r := assignLinkChanctx cfg env l (some i) (updateChanreq l chanreq s)
          if r.1 ≠ 0 then failed (r.1, freeUnused i r.2)
          else (0, recalcRadar env i r.2)

/-- `ieee80211_link_use_reserved_context` -/
def useReservedContext (l : Nat) (s : Local) : Int × Local :=
  match (s.link l).reservedChanctx with
  | none => (-22, s)
  | some i =>
    if (s.mem i).replaceState = .willBeReplaced then (-22, s)
    else if (s.link l).reservedReady then (-22, s)
    else
      let s := s.modifyLink l fun k => { k with reservedReady := true }
      if (s.mem i).replaceState = .none then
        if (s.link l).chanctxConf.isSome then useReservedReassign cfg env l s
        else useReservedAssign cfg env l s
      else
        let r := useReservedSwitch cfg env s
        if r.1 ≠ 0 && r.1 ≠ -11 && (r.2.mem i).replaceState = .replacesOther then r else (0, r.2)

/-- `ieee80211_chanctx_recheck` -/
def chanctxRecheck (s : Local) (skipLink i : Nat) (req : ChanReq) : Option ChanReq :=
  (env.links.filter fun l => l ≠ skipLink).foldlM (fun ret l =>
    (if (s.link l).chanctxConf = some i then chanreqCompatible cfg ret (s.link l).chanreq else some ret).bind
      fun ret =>
        if (s.link l).reservedChanctx = some i then chanreqCompatible cfg ret (s.link l).reserved
        else some ret) req

/-- `ieee80211_link_change_chanreq` -/
def changeChanreq (l : Nat) (chanreq : ChanReq) (s : Local) : Int × Local :=
  if !env.usable chanreq.oper then (-22, s)
  else if chanreq.oper.width = .w20NoHt && cfg.hd.identical chanreq.oper (s.link l).chanreq.oper then (0, s)
  else if chanreq.oper.width = .w20NoHt || (s.link l).chanreq.oper.width = .w20NoHt then (-22, s)
  else
    match (s.link l).chanctxConf with
    | none => (-22, s)
    | some i =>
      match chanctxRecheck cfg env s l i chanreq with
      | none => (-22, s)
      | some compat =>
        let done := (0, recalcChantype cfg env i (updateChanreq l chanreq s))
        match (s.mem i).replaceState with
        | .none => if (reservedChanreq cfg s i compat).isNone then (-16, s) else done
        | .willBeReplaced => (-16, s)
        | .replacesOther => done

end Mac80211.Chanctx
