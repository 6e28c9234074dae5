import Wifi.Net80211.Mesh.Gates
import Wifi.Net80211.AgeqOps

/-!
# The frames that are forwarded to mesh gates (`freebsd/sys/net80211/ieee80211_mesh.c`)

* `Packets`, `MDup` — the packets in memory, and `m_dup`, a function of the kernel.
* `Forwarding` — a mesh vap, its packets, and what became of them.
* `meshFindTxnode`, `meshTransmitToGate`, `meshForwardToGates` — the functions of these names.
* `Forwarded` — a copy of each frame for each valid gate, each frame freed once, no discovery.
* `Forwardable` — when it is so; `forwarded_iff`.

The lock that is dropped while a copy is sent is left out.
-/

namespace Net80211.Mesh

open Records LinkedList

variable {P : Type}

/-! ## Packets -/

/-- The staging queue with its packets, their data, and those that are allocated. -/
structure Packets (P : Type) where
  mem : Ageq.Mem
  data : Nat → P
  live : List Nat

/-- `m_dup` of a packet: a new packet with its data, which is not linked to another one. -/
structure MDup (P : Type) where
  /-- The `n`-th call finds memory. -/
  memory : Nat → Bool
  call : Packets P → Nat → Nat × Packets P
  fresh : ∀ pk m, (call pk m).1 ∉ pk.live
  alone : ∀ pk m, ((call pk m).2.mem.mbuf (call pk m).1).nextpkt = none
  copied : ∀ pk m, (call pk m).2.data (call pk m).1 = pk.data m
  others : ∀ pk m, ∀ x ∈ pk.live, x ∈ (call pk m).2.live ∧ (call pk m).2.data x = pk.data x

/-- What the calls of `ieee80211_vap_pkt_send_dest` were given, with the gate, and what was freed (`m_freem`). -/
structure Forwarding (P : Type) where
  ms : MeshState
  pkts : Packets P
  /-- The calls of `m_dup`. -/
  dups : Nat
  sent : List (MacAddr × P)
  freed : List Nat

namespace Forwarding

variable (env : Env) (txnode : MacAddr → Option Nat) (dup : MDup P) (f : Forwarding P)

/-- `m_dup`; of no packet it makes none. -/
def mDup : Option Nat → Option Nat × Forwarding P
  | none => (none, f)
  | some m =>
    if dup.memory f.dups then
      let (mcopy, pkts) := dup.call f.pkts m
      (some mcopy, { f with pkts := pkts, dups := f.dups + 1 })
    else (none, { f with dups := f.dups + 1 })

/-- `ieee80211_mesh_find_txnode`; `txnode` is `ieee80211_find_txnode`. -/
def meshFindTxnode (s : MeshState) (dest : MacAddr) : Option Nat :=
  match look MeshRoute.rtDest dest s.msRoutes with
  | none => none
  | some rt =>
    if rt.rtFlags.valid = false then none
    else if rt.rtFlags.proxy then
      match look MeshRoute.rtDest rt.rtMeshGate s.msRoutes with
      | none => none
      | some rt => if rt.rtFlags.valid = false then none else txnode rt.rtNexthop
    else txnode rt.rtNexthop

def meshTransmitToGate (m : Nat) (rtGate : MeshRoute) : Forwarding P :=
  match meshFindTxnode txnode f.ms rtGate.rtDest with
  | none => { f with freed := f.freed ++ [m] }
  | some _ => { f with sent := f.sent ++ [(rtGate.rtDest, f.pkts.data m)] }

def transmitCopies (rtGate : MeshRoute) : Nat → Option Nat → Forwarding P → Option (Forwarding P)
  | _, none, f => some f
  | 0, some _, _ => none
  | fuel + 1, some mcopy, f =>
    let next := (f.pkts.mem.mbuf mcopy).nextpkt
    let f := { f with pkts := { f.pkts with mem := f.pkts.mem.setNextpkt mcopy none } }
    transmitCopies rtGate fuel next (meshTransmitToGate txnode f mcopy rtGate)

/-- The destination becomes a proxy route gated by the gate. -/
def convert (rtDest : Nat) (rtGate : MeshRoute) (s : MeshState) : MeshState :=
  (s.modifyRt rtDest fun rt =>
    { rt with
      rtFlags := .proxyValid
      rtExtSeq := 1
      rtMeshGate := rtGate.rtDest
      rtNexthop := rtGate.rtNexthop
      rtMetric := rtGate.rtMetric
      rtNhops := rtGate.rtNhops }).rtUpdate env rtDest env.mppInact

/-- The loop over the known gates, with its assertions. -/
def gatesLoop (fuel rtDest : Nat) (m : Option Nat) : List GateRoute → Forwarding P → Option (Forwarding P)
  | [], f => some f
  | gr :: grs, f =>
    match gr.grRoute with
    | none => gatesLoop fuel rtDest m grs f
    | some p =>
      match look MeshRoute.ptr p f.ms.msRoutes with
      | none => none
      | some rtGate =>
        if rtGate.rtFlags.valid = false then gatesLoop fuel rtDest m grs f
        else if rtGate.rtFlags.gate = false then none
        else if rtGate.rtFlags.proxy then none
        else
          let (mcopy, f) := mDup dup { f with ms := convert env rtDest rtGate f.ms } m
          match transmitCopies txnode rtGate fuel mcopy f with
          | none => none
          | some f => gatesLoop fuel rtDest m grs f

/-- `ieee80211_mesh_forward_to_gates`; `match` is what `ieee80211_mac_hash` makes of the destination. -/
def meshForwardToGates (fuel : Nat) (uninit ni : Option Nat) (rtDest : Nat) : Option (Forwarding P) :=
  if (f.ms.deref rtDest).rtFlags ≠ .onlyDiscover then none
  else
    match Ageq.ieee80211AgeqRemove true fuel f.pkts.mem ni uninit with
    | none => none
    | some mem =>
      let m := mem.head
      match gatesLoop env txnode dup fuel rtDest m f.ms.msKnownGates { f with pkts := { f.pkts with mem := mem } } with
      | none => none
      | some f =>
        -- Mark invalid
        some { f with
          ms := f.ms.modifyRt rtDest fun rt => { rt with rtFlags := .none }
          freed := f.freed ++ m.toList }

end Forwarding

open Forwarding

def Forwarding.start (s : MeshState) (pk : Packets P) : Forwarding P := { ms := s, pkts := pk, dups := 0, sent := [], freed := [] }

/-! ## What is claimed -/

/-- The route of a known gate, when it is valid. -/
def MeshState.validRoute (s : MeshState) (gr : GateRoute) : Option MeshRoute :=
  (gr.grRoute.bind fun p => look MeshRoute.ptr p s.msRoutes).filter fun rt => rt.rtFlags.valid

/-- **The frames are forwarded**: a copy of each, in order, for each gate whose route is valid; each is freed once;
    and the route is neither valid nor in discovery. -/
def Forwarded (s : MeshState) (pk : Packets P) (frames : List Nat) (p : Nat) (r : Option (Forwarding P)) : Prop :=
  ∃ f, r = some f ∧
    f.sent = (s.msKnownGates.filterMap s.validRoute).flatMap (fun rt => frames.map fun x => (rt.rtDest, pk.data x)) ∧
    (∀ x ∈ frames, f.freed.count x = 1) ∧ (f.ms.deref p).rtFlags.valid = false ∧
    (f.ms.deref p).rtFlags.discover = false

/-- Each copy of the frame is made, and there is a node for it. -/
def Copied (txnode : MacAddr → Option Nat) (dup : MDup P) (n : Nat) (gates : List MeshRoute) : Prop :=
  ∀ k rt, gates[k]? = some rt → dup.memory (n + k) = true ∧ (txnode rt.rtNexthop).isSome = true

/-- The gates are as the assertions say, and behind a valid one none has the route of the destination. -/
structure GatesFit (s : MeshState) (p : Nat) (converted : Bool) (grs : List GateRoute) : Prop where
  valid : ∀ gr ∈ grs, ∀ q, gr.grRoute = some q → ∃ rt ∈ s.msRoutes, rt.ptr = q ∧ GateOk rt
  other : ∀ gr ∈ (if converted then grs else grs.dropWhile fun gr => (s.validRoute gr).isNone), gr.grRoute ≠ some p

/-- **The condition**: at most one frame is queued, and it can be copied. -/
structure Forwardable (txnode : MacAddr → Option Nat) (dup : MDup P) (s : MeshState) (frames : List Nat) (p : Nat) : Prop where
  gates : GatesFit s p false s.msKnownGates
  single : frames.length ≤ 1
  copied : frames ≠ [] → Copied txnode dup 0 (s.msKnownGates.filterMap s.validRoute)

/-! ## One gate -/

section Loop

variable {env : Env} {txnode : MacAddr → Option Nat} {dup : MDup P} {f f' : Forwarding P} {s : MeshState} {p q : Nat}
  {rt : MeshRoute} {g : MeshRoute → MeshRoute} {m : Option Nat} {fuel : Nat} {v : Bool} {gr : GateRoute}
  {grs : List GateRoute} {live : List Nat} {data : Nat → P}

theorem look_mem (hs : Routes 0 (fun q => q = p) (fun _ => True) s) (hrt : rt ∈ s.msRoutes) (hq : rt.ptr = q) :
    look MeshRoute.ptr q s.msRoutes = some rt := hq ▸ look_of_nodup hs.nodup hrt

theorem meshFindTxnode_gate (hs : Routes 0 (fun q => q = p) (fun _ => True) s) (hg : Keeps g) (hrt : rt ∈ s.msRoutes)
    (hp : rt.ptr ≠ p) (hv : rt.rtFlags.valid = true) (hx : rt.rtFlags.proxy = false) :
    meshFindTxnode txnode (s.modifyRt p g) rt.rtDest = txnode rt.rtNexthop := by
  unfold meshFindTxnode
  rw [lookDest_modifyRt hg, look_of_nodup hs.dests hrt]
  simp [written, hp, hv, hx]

/-- What a gate keeps, or adds: nothing of the frames that were there is changed or freed. -/
structure Keeping (live : List Nat) (data : Nat → P) (f f' : Forwarding P) : Prop where
  kept : ∀ x ∈ live, x ∈ f'.pkts.live ∧ f'.pkts.data x = data x
  freed : ∃ cs, f'.freed = f.freed ++ cs ∧ ∀ c ∈ cs, c ∉ live

/-- **A gate** is sent a copy of the packet, if there are memory and a node for it. -/
theorem copy_spec (txnode : MacAddr → Option Nat) (dup : MDup P) (fuel : Nat)
    (hs : Routes 0 (fun q => q = p) (fun _ => True) s) (hms : f.ms = s.modifyRt p g) (hg : Keeps g)
    (hrt : rt ∈ s.msRoutes) (hp : rt.ptr ≠ p) (hv : rt.rtFlags.valid = true) (hx : rt.rtFlags.proxy = false)
    (hlive : ∀ x ∈ live, x ∈ f.pkts.live ∧ f.pkts.data x = data x) {x : Nat} (hm : x ∈ live) :
    ∃ f', transmitCopies txnode rt (fuel + 1) (mDup dup f (some x)).1 (mDup dup f (some x)).2 = some f' ∧
      f'.ms = f.ms ∧ f'.dups = f.dups + 1 ∧ Keeping live data f f' ∧
      f'.sent = f.sent ++
        if dup.memory f.dups = true ∧ (txnode rt.rtNexthop).isSome = true then [(rt.rtDest, data x)] else [] := by
  unfold mDup
  dsimp only
  by_cases hmem : dup.memory f.dups = true
  · rw [if_pos hmem]
    dsimp only
    unfold transmitCopies
    rw [dup.alone]
    unfold transmitCopies meshTransmitToGate
    dsimp only
    have hnode : meshFindTxnode txnode f.ms rt.rtDest = txnode rt.rtNexthop := by
      rw [hms]
      exact meshFindTxnode_gate hs hg hrt hp hv hx
    have hkeep : ∀ y ∈ live, y ∈ (dup.call f.pkts x).2.live ∧ (dup.call f.pkts x).2.data y = data y := by
      intro y hy
      have hother := dup.others f.pkts x y (hlive y hy).1
      exact ⟨hother.1, hother.2.trans (hlive y hy).2⟩
    rw [hnode]
    cases hn : txnode rt.rtNexthop with
    | none =>
      refine ⟨_, rfl, rfl, rfl, ⟨hkeep, _, rfl, ?_⟩, by simp⟩
      intro c hc hcl
      exact dup.fresh f.pkts x (List.mem_singleton.mp hc ▸ (hlive c hcl).1)
    | some ni =>
      refine ⟨_, rfl, rfl, rfl, ⟨hkeep, [], by simp, by simp⟩, ?_⟩
      have hdata : (dup.call f.pkts x).2.data (dup.call f.pkts x).1 = data x :=
        (dup.copied f.pkts x).trans (hlive x hm).2
      simp [hmem, hdata]
  · rw [if_neg hmem]
    exact ⟨_, rfl, rfl, rfl, ⟨hlive, [], by simp, by simp⟩, by simp [hmem]⟩

/-- What the gates were sent: `picked` are those that a copy was made and sent for. -/
structure Sent (txnode : MacAddr → Option Nat) (dup : MDup P) (data : Nat → P) (m : Option Nat) (gates : List MeshRoute)
    (f f' : Forwarding P) (picked : List MeshRoute) : Prop where
  sublist : picked.Sublist gates
  sent : f'.sent = f.sent ++ picked.flatMap fun rt => m.toList.map fun x => (rt.rtDest, data x)
  all : m ≠ none → (picked = gates ↔ Copied txnode dup f.dups gates)

theorem copied_cons {n : Nat} {gates : List MeshRoute} : Copied txnode dup n (rt :: gates) ↔
    (dup.memory n = true ∧ (txnode rt.rtNexthop).isSome = true) ∧ Copied txnode dup (n + 1) gates := by
  constructor
  · intro h
    refine ⟨h 0 rt rfl, ?_⟩
    intro k rt' hk
    have hnext := h (k + 1) rt' hk
    rwa [Nat.add_comm k 1, ← Nat.add_assoc] at hnext
  · rintro ⟨h₀, h⟩ k rt' hk
    cases k with
    | zero => exact Option.some.inj hk ▸ h₀
    | succ k =>
      have hnext := h k rt' hk
      rwa [Nat.add_assoc, Nat.add_comm 1 k] at hnext

theorem Sent.cons {f₁ : Forwarding P} {gates picked : List MeshRoute} (hd : m ≠ none → f₁.dups = f.dups + 1)
    (hsent : f₁.sent = f.sent ++ if dup.memory f.dups = true ∧ (txnode rt.rtNexthop).isSome = true then
      m.toList.map fun x => (rt.rtDest, data x) else [])
    (h : Sent txnode dup data m gates f₁ f' picked) : ∃ picked, Sent txnode dup data m (rt :: gates) f f' picked := by
  by_cases hc : dup.memory f.dups = true ∧ (txnode rt.rtNexthop).isSome = true
  · rw [if_pos hc] at hsent
    refine ⟨rt :: picked, h.sublist.cons_cons rt, ?_, ?_⟩
    · rw [h.sent, hsent, List.flatMap_cons, List.append_assoc]
    · intro hm
      rw [copied_cons, ← hd hm, ← h.all hm]
      simp [hc]
  · rw [if_neg hc, List.append_nil] at hsent
    refine ⟨picked, h.sublist.cons rt, hsent ▸ h.sent, ?_⟩
    intro hm
    rw [copied_cons]
    constructor
    · intro heq
      have hlen := heq ▸ h.sublist.length_le
      rw [List.length_cons] at hlen
      exact absurd hlen (Nat.not_succ_le_self _)
    · intro hall
      exact absurd hall.1 hc

theorem Keeping.trans {f₁ : Forwarding P} (h : Keeping live data f f₁) (h' : Keeping live data f₁ f') : Keeping live data f f' := by
  obtain ⟨cs, hcs, hc⟩ := h.freed
  obtain ⟨cs', hcs', hc'⟩ := h'.freed
  refine ⟨h'.kept, cs ++ cs', by rw [hcs', hcs, List.append_assoc], ?_⟩
  intro c hmem
  obtain hmem | hmem := List.mem_append.mp hmem
  · exact hc c hmem
  · exact hc' c hmem

theorem gate_spec (txnode : MacAddr → Option Nat) (dup : MDup P) (fuel : Nat)
    (hs : Routes 0 (fun q => q = p) (fun _ => True) s) (hms : f.ms = s.modifyRt p g) (hg : Keeps g)
    (hrt : rt ∈ s.msRoutes) (hp : rt.ptr ≠ p) (hv : rt.rtFlags.valid = true) (hx : rt.rtFlags.proxy = false)
    (hlive : ∀ x ∈ live, x ∈ f.pkts.live ∧ f.pkts.data x = data x) (hm : ∀ x ∈ m, x ∈ live) :
    ∃ f', transmitCopies txnode rt (fuel + 1) (mDup dup f m).1 (mDup dup f m).2 = some f' ∧ f'.ms = f.ms ∧
      (m ≠ none → f'.dups = f.dups + 1) ∧ Keeping live data f f' ∧
      f'.sent = f.sent ++ if dup.memory f.dups = true ∧ (txnode rt.rtNexthop).isSome = true then
        m.toList.map fun x => (rt.rtDest, data x) else [] := by
  cases m with
  | none => exact ⟨f, rfl, rfl, fun h => absurd rfl h, ⟨hlive, [], by simp, by simp⟩, by simp⟩
  | some x =>
    obtain ⟨f', hf', hms', hdups, hkeep, hsent⟩ := copy_spec txnode dup fuel hs hms hg hrt hp hv hx
      hlive (hm x rfl)
    exact ⟨f', hf', hms', fun _ => hdups, hkeep, by simpa using hsent⟩

/-! ## The loop -/

/-- The destination's route before and after it is converted. -/
def Flagged (s : MeshState) (p : Nat) (g : MeshRoute → MeshRoute) (v : Bool) : Prop :=
  ∀ rt ∈ s.msRoutes, rt.ptr = p → (g rt).rtFlags = if v then .proxyValid else .onlyDiscover

theorem convert_spec (hmpp : env.mppInact ≠ 0) (hg : Keeps g) (rtGate : MeshRoute) :
    ∃ g', convert env p rtGate (s.modifyRt p g) = s.modifyRt p g' ∧ Keeps g' ∧ Flagged s p g' true := by
  unfold convert MeshState.rtUpdate
  rw [modifyRt_modifyRt _ _ _ _ fun rt => (hg rt).1, modifyRt_modifyRt]
  · refine ⟨_, rfl, ?_, ?_⟩
    · intro rt
      simp [hg rt]
    · intro rt _ _
      simp [MeshRoute.update_rtFlags env _ hmpp]
  · exact fun rt => (hg rt).1

theorem dropWhile_skip (v : Bool) (grs : List GateRoute) (hgr : s.validRoute gr = none) :
    (if v then gr :: grs else (gr :: grs).dropWhile fun gr => (s.validRoute gr).isNone) =
      (if v then [gr] else []) ++ if v then grs else grs.dropWhile fun gr => (s.validRoute gr).isNone := by
  cases v <;> simp [hgr]

theorem GatesFit.skip (hgr : s.validRoute gr = none) (hp : v = true → gr.grRoute ≠ some p)
    (hok : ∀ q, gr.grRoute = some q → ∃ rt ∈ s.msRoutes, rt.ptr = q ∧ GateOk rt) :
    GatesFit s p v (gr :: grs) ↔ GatesFit s p v grs := by
  have hother := dropWhile_skip v grs hgr
  constructor
  · rintro ⟨h₁, h₂⟩
    rw [hother] at h₂
    exact ⟨fun gr' hgr' => h₁ gr' (List.mem_cons_of_mem _ hgr'), fun gr' hgr' => h₂ gr' (List.mem_append_right _ hgr')⟩
  · rintro ⟨h₁, h₂⟩
    refine ⟨List.forall_mem_cons.mpr ⟨hok, h₁⟩, ?_⟩
    rw [hother]
    intro gr' hgr'
    obtain hgr' | hgr' := List.mem_append.mp hgr'
    · cases v with
      | false => simp at hgr'
      | true =>
        rw [if_pos rfl, List.mem_singleton] at hgr'
        exact hgr' ▸ hp rfl
    · exact h₂ gr' hgr'

theorem GatesFit.taken (p : Nat) (v : Bool) (grs : List GateRoute) (hgr : s.validRoute gr = some rt) :
    GatesFit s p v (gr :: grs) ↔ (∀ q, gr.grRoute = some q → ∃ rt ∈ s.msRoutes, rt.ptr = q ∧ GateOk rt) ∧
      gr.grRoute ≠ some p ∧ GatesFit s p true grs := by
  have hother : (if v then gr :: grs else (gr :: grs).dropWhile fun gr => (s.validRoute gr).isNone) = gr :: grs := by
    cases v <;> simp [hgr]
  constructor
  · rintro ⟨h₁, h₂⟩
    rw [hother] at h₂
    obtain ⟨hok, h₁⟩ := List.forall_mem_cons.mp h₁
    obtain ⟨hp, h₂⟩ := List.forall_mem_cons.mp h₂
    exact ⟨hok, hp, h₁, h₂⟩
  · rintro ⟨hok, hp, h₁, h₂⟩
    refine ⟨List.forall_mem_cons.mpr ⟨hok, h₁⟩, ?_⟩
    rw [hother]
    exact List.forall_mem_cons.mpr ⟨hp, h₂⟩

/-- What the loop does, from `f`: the gates fit, or an assertion fails. -/
def LoopSpec (txnode : MacAddr → Option Nat) (dup : MDup P) (live : List Nat) (data : Nat → P) (m : Option Nat) (s : MeshState)
    (p : Nat) (v : Bool) (grs : List GateRoute) (f : Forwarding P) (r : Option (Forwarding P)) : Prop :=
  (GatesFit s p v grs → ∃ f', r = some f') ∧
    ∀ f', r = some f' → GatesFit s p v grs ∧ (∃ g, Keeps g ∧ f'.ms = s.modifyRt p g) ∧ Keeping live data f f' ∧
      ∃ picked, Sent txnode dup data m (grs.filterMap s.validRoute) f f' picked

/-- **The loop over the known gates**, by induction on them; the destination's route is in discovery, or converted. -/
theorem gatesLoop_spec (txnode : MacAddr → Option Nat) (dup : MDup P) (fuel : Nat) (data : Nat → P)
    (hs : Routes 0 (fun q => q = p) (fun _ => True) s) (hmpp : env.mppInact ≠ 0)
    (hflags : Flagged s p id false) (hm : ∀ x ∈ m, x ∈ live) : ∀ (grs : List GateRoute) {f : Forwarding P} {g : MeshRoute → MeshRoute}
    {v : Bool}, f.ms = s.modifyRt p g → Keeps g → Flagged s p g v → (∀ x ∈ live, x ∈ f.pkts.live ∧ f.pkts.data x = data x) →
    LoopSpec txnode dup live data m s p v grs f (gatesLoop env txnode dup (fuel + 1) p m grs f)
  | [], f, g, v, hms, hg, _, hlive => by
    have hfit : GatesFit s p v [] := ⟨fun _ h => (List.not_mem_nil h).elim, fun _ h => by cases v <;> simp at h⟩
    refine ⟨fun _ => ⟨f, rfl⟩, ?_⟩
    rintro f' hf'
    cases hf'
    refine ⟨hfit, ⟨g, hg, hms⟩, ⟨hlive, [], by simp, by simp⟩, [], List.Sublist.slnil, by simp, fun _ => ?_⟩
    simp [Copied]
  | gr :: grs, f, g, v, hms, hg, hv, hlive => by
    have ih := fun {f g v} => gatesLoop_spec txnode dup fuel data (f := f) (g := g) (v := v) hs hmpp hflags hm grs
    -- what is the same when a gate is passed over
    have hskip : s.validRoute gr = none → (v = true → gr.grRoute ≠ some p) →
        (∀ q, gr.grRoute = some q → ∃ rt ∈ s.msRoutes, rt.ptr = q ∧ GateOk rt) →
        LoopSpec txnode dup live data m s p v (gr :: grs) f (gatesLoop env txnode dup (fuel + 1) p m grs f) := by
      intro hgr hp hok
      have h := ih hms hg hv hlive
      unfold LoopSpec at h ⊢
      rw [GatesFit.skip hgr hp hok, List.filterMap_cons_none hgr]
      exact h
    -- what is the same when an assertion fails
    have hfail : ¬GatesFit s p v (gr :: grs) → LoopSpec txnode dup live data m s p v (gr :: grs) f none :=
      fun h => ⟨fun hfit => absurd hfit h, nofun⟩
    unfold gatesLoop
    cases hgr : gr.grRoute with
    | none => exact hskip (by simp [MeshState.validRoute, hgr]) (by simp [hgr]) (by simp [hgr])
    | some q =>
      dsimp only
      rw [hms, look_modifyRt hg]
      cases hlook : look MeshRoute.ptr q s.msRoutes with
      | none =>
        refine hfail fun hfit => ?_
        obtain ⟨rt, hrt, hq, -⟩ := hfit.valid gr List.mem_cons_self q hgr
        rw [look_mem hs hrt hq] at hlook
        cases hlook
      | some rt =>
        obtain ⟨hrt, hq⟩ := look_some hlook
        have hroute : s.validRoute gr = (some rt).filter fun rt => rt.rtFlags.valid := by
          simp [MeshState.validRoute, hgr, hlook]
        simp only [Option.map_some]
        by_cases hqp : q = p
        · -- the destination itself
          rw [show written p g rt = g rt from if_pos (hq.trans hqp)]
          have hnone : s.validRoute gr = none := by
            have hd := hflags rt hrt (hq.trans hqp)
            simp only [id_eq, Bool.false_eq_true, if_false] at hd
            rw [hroute]
            simp [hd, RtFlags.onlyDiscover, RtFlags.none]
          have hflag := hv rt hrt (hq.trans hqp)
          cases v with
          | false =>
            rw [if_neg Bool.false_ne_true] at hflag
            rw [if_pos (by rw [hflag]; rfl)]
            refine hskip hnone (by simp) ?_
            intro q' hq'
            cases hgr.symm.trans hq'
            refine ⟨rt, hrt, hq, ?_⟩
            have hd := hflags rt hrt (hq.trans hqp)
            simp only [id_eq, Bool.false_eq_true, if_false] at hd
            intro hval
            rw [hd] at hval
            cases hval
          | true =>
            rw [if_pos rfl] at hflag
            rw [if_neg (by rw [hflag]; simp [RtFlags.proxyValid]), if_pos (by rw [hflag]; rfl)]
            refine hfail fun hfit => hfit.other gr ?_ (hqp ▸ hgr)
            exact List.mem_cons_self
        · rw [show written p g rt = rt from if_neg (hq ▸ hqp)]
          have hfitRt : ∀ q', gr.grRoute = some q' → (∃ rt ∈ s.msRoutes, rt.ptr = q' ∧ GateOk rt) → GateOk rt := by
            rintro q' hq' ⟨rt', hrt', hptr, hok⟩
            cases hgr.symm.trans hq'
            cases (look_mem hs hrt' hptr).symm.trans hlook
            exact hok
          cases hval : rt.rtFlags.valid with
          | false =>
            rw [if_pos rfl]
            refine hskip (by rw [hroute]; simp [hval]) (fun _ h => hqp (Option.some.inj (hgr.symm.trans h))) ?_
            intro q' hq'
            cases hgr.symm.trans hq'
            exact ⟨rt, hrt, hq, fun h => by rw [hval] at h; cases h⟩
          | true =>
            rw [if_neg (by simp)]
            have hsome : s.validRoute gr = some rt := by
              rw [hroute]
              simp [hval]
            have htaken := GatesFit.taken p v grs hsome
            by_cases hgate : rt.rtFlags.gate = false
            · rw [if_pos hgate]
              refine hfail fun hfit => ?_
              have hok := hfitRt q hgr (hfit.valid gr List.mem_cons_self q hgr)
              rw [(hok hval).1] at hgate
              cases hgate
            · rw [if_neg hgate]
              by_cases hproxy : rt.rtFlags.proxy = true
              · rw [if_pos hproxy]
                refine hfail fun hfit => ?_
                have hok := hfitRt q hgr (hfit.valid gr List.mem_cons_self q hgr)
                rw [(hok hval).2] at hproxy
                cases hproxy
              · rw [if_neg hproxy]
                obtain ⟨g', hconv, hg', hv'⟩ := convert_spec (s := s) (p := p) hmpp hg rt
                rw [hconv]
                obtain ⟨f₁, hcopies, hms₁, hdups, hkeep, hsent⟩ := gate_spec txnode dup fuel
                  (f := { f with ms := s.modifyRt p g' }) hs rfl hg' hrt (hq ▸ hqp) hval (by simpa using hproxy) hlive hm
                rw [hcopies]
                have hnext := ih hms₁ hg' hv' hkeep.kept
                have hthis : ∀ q', gr.grRoute = some q' → ∃ rt ∈ s.msRoutes, rt.ptr = q' ∧ GateOk rt := by
                  intro q' hq'
                  cases hgr.symm.trans hq'
                  exact ⟨rt, hrt, hq, fun _ => ⟨by simpa using hgate, by simpa using hproxy⟩⟩
                have hother : gr.grRoute ≠ some p := fun h => hqp (Option.some.inj (hgr.symm.trans h))
                unfold LoopSpec at hnext ⊢
                rw [htaken, List.filterMap_cons_some hsome]
                refine ⟨fun hfit => hnext.1 hfit.2.2, ?_⟩
                intro f' hf'
                obtain ⟨hfit, hms', hkeep', picked, hpicked⟩ := hnext.2 f' hf'
                have hkept : Keeping live data f f' := ⟨(hkeep.trans hkeep').kept, (hkeep.trans hkeep').freed⟩
                obtain ⟨picked', hall⟩ := Sent.cons hdups hsent hpicked
                exact ⟨⟨hthis, hother, hfit⟩, hms', hkept, picked', hall.sublist, hall.sent, hall.all⟩

end Loop

/-! ## The function -/

section Function

variable {env : Env} {txnode : MacAddr → Option Nat} {dup : MDup P} {s : MeshState} {pk : Packets P} {p fuel : Nat}
  {uninit ni : Option Nat} {l : List Nat}

theorem deref_cleared (hs : Routes 0 (fun q => q = p) (fun _ => True) s) {g : MeshRoute → MeshRoute} (hg : Keeps g) :
    (((s.modifyRt p g).modifyRt p fun rt => { rt with rtFlags := .none }).deref p).rtFlags = .none := by
  obtain ⟨rt, hrt, hptr⟩ := hs.kept p rfl
  unfold MeshState.deref
  rw [look_modifyRt (g := fun rt => { rt with rtFlags := .none }) fun _ => ⟨rfl, rfl⟩, look_modifyRt hg, look_mem hs hrt hptr]
  have hg' : (g rt).ptr = p := (hg rt).1.trans hptr
  simp [written, hptr, hg']

/-- **Frames are forwarded to gates** as they should be exactly when at most one is queued and can be copied, for
    every list of frames and every set of known gates. -/
theorem forwarded_iff (hs : Routes 0 (fun q => q = p) (fun _ => True) s) (hmpp : env.mppInact ≠ 0)
    (hdiscover : (s.deref p).rtFlags = .onlyDiscover) (hq : Ageq.Holds pk.mem l) (hlive : ∀ x ∈ l, x ∈ pk.live)
    (hfuel : l.length < fuel) :
    Forwarded s pk (l.filter (Ageq.matchesNode pk.mem ni)) p
        (meshForwardToGates env txnode dup (Forwarding.start s pk) fuel uninit ni p) ↔
      Forwardable txnode dup s (l.filter (Ageq.matchesNode pk.mem ni)) p := by
  obtain ⟨mem, hremove, -, hchain, -⟩ := @Ageq.remove_spec true _ _ ni uninit hq
  generalize hframes : l.filter (Ageq.matchesNode pk.mem ni) = frames at hchain ⊢
  have hhead : mem.head = frames.head? := hchain.head
  have hnodup : frames.Nodup := hframes ▸ hq.nodup.filter _
  have hsub : ∀ x ∈ frames, x ∈ pk.live := fun x hx => hlive x (List.mem_of_mem_filter (hframes ▸ hx))
  obtain ⟨fuel, rfl⟩ : ∃ n, fuel = n + 1 := ⟨fuel - 1, by omega⟩
  have hid : s.modifyRt p id = s := by
    unfold MeshState.modifyRt change
    simp
  have hflagged : Flagged s p id false := by
    intro rt hrt hptr
    unfold MeshState.deref at hdiscover
    rwa [look_mem hs hrt hptr] at hdiscover
  obtain ⟨hloop, hspec⟩ := gatesLoop_spec txnode dup fuel pk.data
    (m := mem.head) hs hmpp hflagged (fun x hx => hsub x (List.mem_of_mem_head? (hhead ▸ hx))) s.msKnownGates
    (f := { Forwarding.start s pk with pkts := { pk with mem := mem } }) hid.symm (fun _ => ⟨rfl, rfl⟩) hflagged
    fun x hx => ⟨hx, rfl⟩
  -- what the function is, in terms of its loop
  have hcall : ∀ r, meshForwardToGates env txnode dup (Forwarding.start s pk) (fuel + 1) uninit ni p = some r ↔
      ∃ f, gatesLoop env txnode dup (fuel + 1) p mem.head s.msKnownGates
          { Forwarding.start s pk with pkts := { pk with mem := mem } } = some f ∧
        r = { f with
          ms := f.ms.modifyRt p fun rt => { rt with rtFlags := .none }
          freed := f.freed ++ mem.head.toList } := by
    intro r
    unfold meshForwardToGates Forwarding.start
    dsimp only
    rw [if_neg (not_not.mpr hdiscover), hremove (fuel + 1) hfuel]
    dsimp only
    split
    · rename_i hnone
      rw [hnone]
      simp
    · rename_i f hf
      rw [hf]
      simp [eq_comm]
  have hfreed : ∀ {cs : List Nat}, (∀ c ∈ cs, c ∉ pk.live) → ((∀ x ∈ frames, (cs ++ frames.head?.toList).count x = 1) ↔
      frames.length ≤ 1) := by
    intro cs hcs
    have hcount : ∀ x ∈ frames, cs.count x = 0 := fun x hx => List.count_eq_zero.mpr fun h => hcs x h (hsub x hx)
    match frames, hnodup, hcount with
    | [], _, _ => simp
    | [x], _, hcount => simp [hcount x]
    | x :: y :: r, hnodup, hcount =>
      have hne : x ≠ y := fun h => by simp [h] at hnodup
      simp [hcount y, hne]
  have hsent : ∀ {picked : List MeshRoute}, picked.Sublist (s.msKnownGates.filterMap s.validRoute) → ∀ x,
      (picked.flatMap (fun rt => [(rt.rtDest, pk.data x)]) =
          (s.msKnownGates.filterMap s.validRoute).flatMap fun rt => [(rt.rtDest, pk.data x)]) ↔
        picked = s.msKnownGates.filterMap s.validRoute := by
    intro picked hsub x
    constructor
    · intro h
      have hlen := congrArg List.length h
      rw [← List.map_eq_flatMap, ← List.map_eq_flatMap, List.length_map, List.length_map] at hlen
      exact hsub.eq_of_length hlen
    · intro h
      rw [h]
  constructor
  · rintro ⟨r, hr, hsentr, hcountr, -⟩
    obtain ⟨f, hf, rfl⟩ := (hcall r).mp hr
    obtain ⟨hfit, -, ⟨-, cs, hcs, hc⟩, picked, hpicked⟩ := hspec f hf
    have hsingle : frames.length ≤ 1 := by
      refine (hfreed hc).mp ?_
      intro x hx
      have := hcountr x hx
      rwa [hcs, hhead] at this
    refine ⟨hfit, hsingle, ?_⟩
    intro hne
    obtain ⟨x, rfl⟩ : ∃ x, frames = [x] := List.length_eq_one_iff.mp (by
      have := List.length_pos_iff.mpr hne
      omega)
    have hsent' := hpicked.sent
    dsimp only at hsentr
    rw [hsentr, hhead] at hsent'
    refine (hpicked.all (by simp [hhead])).mp ((hsent hpicked.sublist x).mp ?_)
    simpa [Forwarding.start] using hsent'.symm
  · rintro ⟨hfit, hsingle, hcopied⟩
    obtain ⟨f, hf⟩ := hloop hfit
    obtain ⟨-, ⟨g, hg, hms⟩, ⟨-, cs, hcs, hc⟩, picked, hpicked⟩ := hspec f hf
    refine ⟨_, (hcall _).mpr ⟨f, hf, rfl⟩, ?_, ?_, ?_⟩
    · dsimp only
      rw [hpicked.sent, hhead]
      match frames, hsingle, hcopied with
      | [], _, _ =>
        have hnil : ∀ gates : List MeshRoute, (gates.flatMap fun _ => ([] : List (MacAddr × P))) = [] :=
          fun gates => List.flatMap_eq_nil_iff.mpr fun _ _ => rfl
        simp [Forwarding.start, hnil]
      | [x], _, hcopied =>
        have hall := (hpicked.all (by simp [hhead])).mpr (hcopied (by simp))
        simp [Forwarding.start, hall]
    · dsimp only
      rw [hcs, hhead]
      exact (hfreed hc).mpr hsingle
    · dsimp only
      rw [hms, deref_cleared hs hg]
      exact ⟨rfl, rfl⟩

end Function

/-! ## One frame, and two -/

def MDup.always : MDup Nat where
  memory _ := true
  call pk m :=
    let mcopy := pk.live.max?.getD 0 + 1
    (mcopy, { mem := pk.mem.setNextpkt mcopy none, data := Function.update pk.data mcopy (pk.data m), live := mcopy :: pk.live })
  fresh pk m h := Nat.not_succ_le_self _ (List.le_max?_getD_of_mem h)
  alone pk m := by simp [Ageq.Mem.setNextpkt, Ageq.Mem.setMbuf]
  copied pk m := Function.update_self ..
  others pk m x hx := by
    refine ⟨List.mem_cons_of_mem _ hx, Function.update_of_ne (fun h => ?_) _ _⟩
    exact Nat.not_succ_le_self _ (List.le_max?_getD_of_mem (h ▸ hx))

/-- A node that looks for node 9, and knows the gate 5. -/
def gateKnown : MeshState :=
  { MeshState.oneRoute 0 .zero with
    msRoutes :=
      [{ MeshRoute.zero with ptr := 1, rtDest := 9, rtFlags := .onlyDiscover },
        { MeshRoute.zero with ptr := 2, rtDest := 5, rtNexthop := 6, rtFlags := { RtFlags.onlyValid with gate := true } }]
    msKnownGates := [{ grAddr := 5, grLastseq := 0, grRoute := some 2 }]
    nextPtr := 3 }

/-- The frames from 1 to `n` are queued for node 9. -/
def staged (n : Nat) : Packets Nat where
  mem :=
    { mbuf := fun m => { nextpkt := if m < n then some (m + 1) else none, rcvif := some 7, encap := false, age := 0 }
      aq := { len := n, maxlen := 50, drops := 0, head := some 1, tail := some n }
      head := none }
  data := id
  live := List.range (n + 1)

/-- Two frames: the gate is sent the first, and the second is not freed. -/
theorem second_frame_lost : ¬Forwarded gateKnown (staged 2) ([1, 2].filter (Ageq.matchesNode (staged 2).mem (some 7))) 1
    (meshForwardToGates .still (fun _ => some 0) .always (.start gateKnown (staged 2)) 3 none (some 7) 1) := by
  rintro ⟨f, hf, -, hcount, -⟩
  have hrun := congrArg (Option.map Forwarding.freed) hf
  rw [show Option.map Forwarding.freed _ = some [1] by decide +kernel] at hrun
  have h2 := hcount 2 (by decide)
  rw [← Option.some.inj hrun] at h2
  exact absurd h2 (by decide)

/-- One frame is forwarded. -/
theorem forwarded_one : Forwarded gateKnown (staged 1) ([1].filter (Ageq.matchesNode (staged 1).mem (some 7))) 1
    (meshForwardToGates .still (fun _ => some 0) .always (.start gateKnown (staged 1)) 2 none (some 7) 1) := by
  have hs : Routes 0 (fun q => q = 1) (fun _ => True) gateKnown :=
    { nodup := by decide, dests := by decide, fresh := by decide, base := Nat.zero_le _, all := fun _ _ => trivial
      kept := fun q hq => ⟨_, List.mem_cons_self, hq.symm⟩ }
  have hq : Ageq.Holds (staged 1).mem [1] := ⟨.cons .nil, rfl, rfl⟩
  refine (forwarded_iff hs (by decide) rfl hq (by decide) (by decide)).mpr ⟨⟨?_, ?_⟩, ?_, ?_⟩
  · intro gr hgr q hq
    cases List.mem_singleton.mp hgr
    cases hq
    exact ⟨_, List.mem_cons_of_mem _ List.mem_cons_self, rfl, fun _ => ⟨rfl, rfl⟩⟩
  · decide
  · decide
  · intro _ k rt _
    exact ⟨rfl, rfl⟩

end Net80211.Mesh
