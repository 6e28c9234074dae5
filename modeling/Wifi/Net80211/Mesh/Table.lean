import Wifi.Net80211.Mesh.Hwmp

/-!
# The routing table through the handlers

* `Routes` — pointers are unique and never used again, some pointers are kept, and something holds of every route.
* `Routes.modifyRt`, `Routes.rtAdd`, `Routes.rtDelIf` — what is done to a table.
* `Routes.hwmpUpdateTransmitter`, `Routes.preqExt`, … — one rule for each part of a handler: what has to be shown of
  the routes that it writes to.
-/

namespace Net80211.Mesh

open Records

/-- The state that a destination of a PERR leaves behind. -/
def MeshState.PerrResult.state (s : MeshState) : MeshState.PerrResult → MeshState
  | .ignored s => s
  | .accepted s _ => s
  | .unknown => s

/-- **A table** whose pointers and destinations are unique, the pointers below the next one, which is at least
    `n`; routes at the pointers of `K`; and `I` of every route. -/
structure Routes (n : Nat) (K : Nat → Prop) (I : MeshRoute → Prop) (s : MeshState) : Prop where
  nodup : (s.msRoutes.map MeshRoute.ptr).Nodup
  dests : (s.msRoutes.map MeshRoute.rtDest).Nodup
  fresh : ∀ rt ∈ s.msRoutes, rt.ptr < s.nextPtr
  base : n ≤ s.nextPtr
  kept : ∀ p, K p → ∃ rt ∈ s.msRoutes, rt.ptr = p
  all : ∀ rt ∈ s.msRoutes, I rt

/-- A PREQ with which its originator says that it is a root and a gate. -/
def MeshpreqIe.marksGate (preq : MeshpreqIe) : Prop :=
  preq.target0.targetAddr = broadcastaddr ∧ hasFlag preq.target0.targetFlags IEEE80211_MESHPREQ_TFLAGS_TO = true ∧
    hasFlag preq.preqFlags IEEE80211_MESHPREQ_FLAGS_GATE = true

def MeshrannIe.marksGate (rann : MeshrannIe) : Prop := hasFlag rann.rannFlags IEEE80211_MESHRANN_FLAGS_GATE = true

/-- A pointer and a destination are left alone. -/
def Keeps (f : MeshRoute → MeshRoute) : Prop := ∀ rt, (f rt).ptr = rt.ptr ∧ (f rt).rtDest = rt.rtDest

/-! ## What is written to a route -/

namespace MeshRoute

variable (env : Env) (rt : MeshRoute) (lifetime : BitVec 32)

@[simp] theorem update_ptr : (rt.update env lifetime).ptr = rt.ptr := by
  unfold update
  dsimp only
  repeat' split
  all_goals rfl

@[simp] theorem update_rtDest : (rt.update env lifetime).rtDest = rt.rtDest := by
  unfold update
  dsimp only
  repeat' split
  all_goals rfl

@[simp] theorem update_discover : (rt.update env lifetime).rtFlags.discover = rt.rtFlags.discover := by
  unfold update
  dsimp only
  repeat' split
  all_goals rfl

@[simp] theorem update_proxy : (rt.update env lifetime).rtFlags.proxy = rt.rtFlags.proxy := by
  unfold update
  dsimp only
  repeat' split
  all_goals rfl

@[simp] theorem update_gate : (rt.update env lifetime).rtFlags.gate = rt.rtFlags.gate := by
  unfold update
  dsimp only
  repeat' split
  all_goals rfl

theorem valid_of_update (h : (rt.update env lifetime).rtFlags.valid = true) : rt.rtFlags.valid = true := by
  unfold update at h
  dsimp only at h
  repeat' split at h
  all_goals
    first
    | exact h
    | cases h

@[simp] theorem update_rtDiscovery : (rt.update env lifetime).rtDiscovery = rt.rtDiscovery := by
  unfold update
  dsimp only
  repeat' split
  all_goals rfl

theorem update_path : (rt.update env lifetime).hrSeq = rt.hrSeq ∧ (rt.update env lifetime).rtNexthop = rt.rtNexthop ∧
    (rt.update env lifetime).rtMetric = rt.rtMetric := by
  unfold update
  dsimp only
  repeat' split
  all_goals exact ⟨rfl, rfl, rfl⟩

theorem update_rtFlags {lifetime : BitVec 32} (h : lifetime ≠ 0) : (rt.update env lifetime).rtFlags = rt.rtFlags := by
  unfold update
  dsimp only
  repeat' split
  all_goals rfl

/-- The lifetime is over, for a route that is not a proxy entry gated by us. -/
def expires : Bool :=
  !(rt.rtFlags.proxy && decide (rt.rtNhops = 0)) && decide (env.ticksToMsecs (env.ticks - rt.rtUpdtime) ≥ rt.rtLifetime)

theorem update_rtFlags_zero : (rt.update env 0).rtFlags =
    if rt.expires env then { rt.rtFlags with valid := false } else rt.rtFlags := by
  unfold update expires
  dsimp only
  split
  · rename_i h
    rw [h]
    rfl
  · rename_i h
    rw [Bool.not_eq_true] at h
    rw [h]
    split
    · rename_i ht
      rw [decide_eq_true ht]
      rfl
    · rename_i ht
      rw [decide_eq_false ht]
      rfl

/-- The path to a transmitter that is replaced. -/
def transmitted (ni : MacAddr) : MeshRoute :=
  { { rt with rtNexthop := ni, rtMetric := env.mpmMetric, rtNhops := 1 }.update env env.mppInact with
    rtFlags := .onlyValid }

def transmits : Bool := !rt.rtFlags.valid || decide (rt.rtMetric > env.mpmMetric)

/-- The path to an originator that is replaced. -/
def originated (addr2 : MacAddr) (preq : MeshpreqIe) : MeshRoute :=
  { { rt with
      hrSeq := preq.preqOrigseq
      rtNexthop := addr2
      rtMetric := preq.preqMetric + env.mpmMetric
      rtNhops := preq.preqHopcount.setWidth 16 + 1 }.update env preq.preqLifetime with
    rtFlags := .onlyValid }

def targeted (ni : MacAddr) (prep : MeshprepIe) : MeshRoute :=
  let rt :=
    { rt with
      hrSeq := prep.prepTargetseq
      hrPreqretries := 0
      rtNexthop := ni
      rtMetric := prep.prepMetric + env.mpmMetric
      rtNhops := prep.prepHopcount.setWidth 16 + 1 }.update env prep.prepLifetime
  { rt with rtFlags := { rt.rtFlags with discover := false, valid := true } }

def proxied (addr2 : MacAddr) (prep : MeshprepIe) : MeshRoute :=
  { rt with
    rtFlags := .proxyValid
    rtMeshGate := prep.prepTargetaddr
    rtNexthop := addr2
    rtMetric := prep.prepMetric + env.mpmMetric
    rtLifetime := prep.prepLifetime
    rtNhops := prep.prepHopcount.setWidth 16 + 1
    rtExtSeq := prep.prepOrigseq }

end MeshRoute

theorem modifyRt_modifyRt (s : MeshState) (p : Nat) (f g : MeshRoute → MeshRoute) (hf : ∀ rt, (f rt).ptr = rt.ptr) :
    (s.modifyRt p f).modifyRt p g = s.modifyRt p (g ∘ f) := by
  unfold MeshState.modifyRt change
  rw [List.map_map]
  congr 1
  refine List.map_congr_left fun rt _ => ?_
  by_cases h : rt.ptr = p <;> simp [hf, h]

/-- A route after the destination's was written to. -/
def written (p : Nat) (g : MeshRoute → MeshRoute) (rt : MeshRoute) : MeshRoute := if rt.ptr = p then g rt else rt

theorem look_modifyRt {s : MeshState} {p : Nat} {g : MeshRoute → MeshRoute} (hg : Keeps g) (q : Nat) :
    look MeshRoute.ptr q (s.modifyRt p g).msRoutes = (look MeshRoute.ptr q s.msRoutes).map (written p g) := by
  refine look_map (h := written p g) (fun rt => ?_) q s.msRoutes
  unfold written
  split
  · exact (hg rt).1
  · rfl

theorem lookDest_modifyRt {s : MeshState} {p : Nat} {g : MeshRoute → MeshRoute} (hg : Keeps g) (d : MacAddr) :
    look MeshRoute.rtDest d (s.modifyRt p g).msRoutes = (look MeshRoute.rtDest d s.msRoutes).map (written p g) := by
  refine look_map (h := written p g) (fun rt => ?_) d s.msRoutes
  unfold written
  split
  · exact (hg rt).2
  · rfl

namespace Routes

variable {n : Nat} {K : Nat → Prop} {I I' : MeshRoute → Prop} {env : Env} {s s' : MeshState} {rt : MeshRoute} {p q : Nat}
  {f g : MeshRoute → MeshRoute} {dest ni addr2 : MacAddr} {preq : MeshpreqIe} {prep : MeshprepIe} {rann : MeshrannIe}

theorem mono (h : Routes n K I s) (hi : ∀ rt ∈ s.msRoutes, I rt → I' rt) : Routes n K I' s :=
  { h with all := fun rt hrt => hi rt hrt (h.all rt hrt) }

theorem same (h : Routes n K I s) (hr : s'.msRoutes = s.msRoutes) (hn : s'.nextPtr = s.nextPtr) : Routes n K I s' where
  nodup := hr ▸ h.nodup
  dests := hr ▸ h.dests
  fresh := by
    rw [hr, hn]
    exact h.fresh
  base := hn ▸ h.base
  kept := hr ▸ h.kept
  all := hr ▸ h.all

theorem tx (h : Routes n K I s) (frame : Tx) : Routes n K I (s.tx frame) := h.same rfl rfl

/-! ## Pointers -/

theorem deref (h : Routes n K I s) (hrt : rt ∈ s.msRoutes) : s.deref rt.ptr = rt := by
  unfold MeshState.deref
  rw [look_of_nodup h.nodup hrt]
  rfl

theorem of_rtFind (h : Routes n K I s) (hp : s.rtFind dest = some p) :
    s.deref p ∈ s.msRoutes ∧ (s.deref p).ptr = p ∧ (s.deref p).rtDest = dest := by
  obtain ⟨rt, hlook, rfl⟩ := Option.map_eq_some_iff.1 hp
  obtain ⟨hmem, hdest⟩ := look_some hlook
  rw [h.deref hmem]
  exact ⟨hmem, rfl, hdest⟩

theorem rtDest_of_rtFind (h : Routes n K I s) (hp : s.rtFind dest = some p) (hrt : rt ∈ s.msRoutes) (hptr : rt.ptr = p) :
    rt.rtDest = dest := by
  have hd := h.deref hrt
  rw [hptr] at hd
  rw [← hd]
  exact (h.of_rtFind hp).2.2

theorem ptr_of_rtFind (h : Routes n K I s) (hp : s.rtFind dest = some p) (hrt : rt ∈ s.msRoutes) (hd : rt.rtDest = dest) :
    rt.ptr = p := by
  unfold MeshState.rtFind at hp
  rw [← hd, look_of_nodup h.dests hrt] at hp
  exact Option.some.inj hp

theorem rebase (h : Routes n K I s) : Routes s.nextPtr K I s := { h with base := Nat.le_refl _ }

theorem fewer {K' : Nat → Prop} (h : Routes n K I s) (hk : ∀ p, K' p → K p) : Routes n K' I s :=
  { h with kept := fun p hp => h.kept p (hk p hp) }

theorem more (h : Routes n K I s) (hp : ∃ rt ∈ s.msRoutes, rt.ptr = p) : Routes n (fun q => K q ∨ q = p) I s :=
  { h with kept := fun q hq => hq.elim (h.kept q) fun heq => heq ▸ hp }

theorem unbased (h : Routes n K I s) : Routes 0 K I s := { h with base := Nat.zero_le _ }

theorem eq_of_ptr {rt' : MeshRoute} (h : Routes n K I s) (hrt : rt ∈ s.msRoutes) (hrt' : rt' ∈ s.msRoutes)
    (hptr : rt.ptr = rt'.ptr) : rt = rt' := by
  rw [← h.deref hrt, hptr, h.deref hrt']

/-! ## Writing to the table -/

/-- **A route is written to.** -/
theorem modifyRt (h : Routes n K I s) (hf : Keeps f)
    (hself : ∀ rt ∈ s.msRoutes, rt.ptr = p → I rt → I' (f rt))
    (hother : ∀ rt ∈ s.msRoutes, rt.ptr ≠ p → I rt → I' rt) : Routes n K I' (s.modifyRt p f) where
  nodup := by
    show ((change MeshRoute.ptr p f s.msRoutes).map MeshRoute.ptr).Nodup
    rw [map_change fun rt hrt => (hf rt).1.trans hrt]
    exact h.nodup
  dests := by
    show ((change MeshRoute.ptr p f s.msRoutes).map MeshRoute.rtDest).Nodup
    have hmap : (change MeshRoute.ptr p f s.msRoutes).map MeshRoute.rtDest = s.msRoutes.map MeshRoute.rtDest := by
      unfold change
      rw [List.map_map]
      refine List.map_congr_left fun rt _ => ?_
      show (if rt.ptr = p then f rt else rt).rtDest = rt.rtDest
      split
      · exact (hf rt).2
      · rfl
    rw [hmap]
    exact h.dests
  fresh := by
    intro rt hrt
    obtain ⟨rt', hrt', rfl⟩ := mem_change hrt
    have := h.fresh rt' hrt'
    split
    · rw [(hf rt').1]
      exact this
    · exact this
  base := h.base
  kept := by
    intro q hq
    obtain ⟨rt, hrt, rfl⟩ := h.kept q hq
    refine ⟨_, List.mem_map_of_mem hrt, ?_⟩
    split
    · exact (hf rt).1
    · rfl
  all := by
    intro rt hrt
    obtain ⟨rt', hrt', rfl⟩ := mem_change hrt
    split
    · rename_i hp
      exact hself rt' hrt' hp (h.all rt' hrt')
    · rename_i hp
      exact hother rt' hrt' hp (h.all rt' hrt')

theorem modify (h : Routes n K I s) (hf : Keeps f) (hself : ∀ rt ∈ s.msRoutes, rt.ptr = p → I rt → I (f rt)) :
    Routes n K I (s.modifyRt p f) :=
  h.modifyRt hf hself fun _ _ _ hi => hi

/-- **A route is added.** -/
theorem rtAdd (h : Routes n K I s) (hnone : s.rtFind dest = none) (hi : ∀ rt, rt.ptr = s.nextPtr → rt.rtDest = dest → rt.rtFlags = .none →
    rt.rtDiscovery = false → I rt) : Routes n K I (s.rtAdd env dest) where
  nodup := by
    show ((s.msRoutes ++ [_]).map MeshRoute.ptr).Nodup
    rw [List.map_append, List.nodup_append]
    refine ⟨h.nodup, by simp, ?_⟩
    intro a ha b hb hab
    obtain ⟨rt, hrt, rfl⟩ := List.mem_map.1 ha
    have := h.fresh rt hrt
    cases List.mem_singleton.1 hb
    exact absurd hab (Nat.ne_of_lt this)
  dests := by
    show ((s.msRoutes ++ [_]).map MeshRoute.rtDest).Nodup
    rw [List.map_append, List.nodup_append]
    refine ⟨h.dests, by simp, ?_⟩
    intro a ha b hb hab
    obtain ⟨rt, hrt, rfl⟩ := List.mem_map.1 ha
    cases List.mem_singleton.1 hb
    exact look_eq_none (Option.map_eq_none_iff.1 hnone) hrt hab
  fresh := by
    intro rt hrt
    rcases List.mem_append.1 hrt with hrt | hrt
    · exact Nat.lt_succ_of_lt (h.fresh rt hrt)
    · cases List.mem_singleton.1 hrt
      exact Nat.lt_succ_self _
  base := Nat.le_succ_of_le h.base
  kept := by
    intro q hq
    obtain ⟨rt, hrt, hptr⟩ := h.kept q hq
    exact ⟨rt, List.mem_append_left _ hrt, hptr⟩
  all := by
    intro rt hrt
    rcases List.mem_append.1 hrt with hrt | hrt
    · exact h.all rt hrt
    · cases List.mem_singleton.1 hrt
      exact hi _ rfl rfl rfl rfl

/-- **Routes are deleted**, none of those that are kept. -/
theorem rtDelIf {picked : MeshRoute → Bool} (h : Routes n K I s) (hk : ∀ rt ∈ s.msRoutes, picked rt = true → ¬ K rt.ptr) :
    Routes n K I (s.rtDelIf picked) where
  nodup := by
    refine List.Nodup.sublist ?_ h.nodup
    exact List.filter_sublist.map _
  dests := by
    refine List.Nodup.sublist ?_ h.dests
    exact List.filter_sublist.map _
  fresh := fun rt hrt => h.fresh rt (List.mem_of_mem_filter hrt)
  base := h.base
  kept := by
    intro q hq
    obtain ⟨rt, hrt, rfl⟩ := h.kept q hq
    refine ⟨rt, List.mem_filter.2 ⟨hrt, ?_⟩, rfl⟩
    cases hp : picked rt with
    | true => exact absurd hq (hk rt hrt hp)
    | false => rfl
  all := fun rt hrt => h.all rt (List.mem_of_mem_filter hrt)

/-- What `ieee80211_mesh_rt_find` finds, or what is added. -/
theorem rtFindOrAdd (h : Routes n K I s) (hs : s.rtFindOrAdd env dest = some (s', p))
    (hi : s.rtFind dest = none → ∀ rt, n ≤ rt.ptr → rt.rtDest = dest → rt.rtFlags = .none → rt.rtDiscovery = false → I rt) :
    Routes n K I s' ∧ s'.rtFind dest = some p ∧ (s.rtFind dest = some p ∧ s' = s ∨ s.rtFind dest = none ∧ n ≤ p) := by
  unfold MeshState.rtFindOrAdd at hs
  split at hs
  · rename_i hfind
    cases hs
    exact ⟨h, hfind, .inl ⟨hfind, rfl⟩⟩
  · rename_i hfind
    split at hs
    · cases hs
      have hnone : look MeshRoute.rtDest dest s.msRoutes = none := Option.map_eq_none_iff.1 hfind
      refine ⟨h.rtAdd hfind fun rt hptr => hi hfind rt (hptr ▸ h.base), ?_, .inr ⟨hfind, h.base⟩⟩
      show (look MeshRoute.rtDest dest (s.msRoutes ++ [_])).map MeshRoute.ptr = _
      rw [look_append_new hnone rfl]
      rfl
    · cases hs

/-! ## The parts of the handlers -/

/-- **`hwmp_update_transmitter`** -/
theorem hwmpUpdateTransmitter (h : Routes n K I s)
    (hi : s.rtFind ni = none → ∀ rt, n ≤ rt.ptr → rt.rtDest = ni → rt.rtFlags = .none → rt.rtDiscovery = false → I rt)
    (hself : ∀ rt, rt.rtDest = ni → I rt → I' (if rt.transmits env then rt.transmitted env ni else rt))
    (hother : ∀ rt, rt.rtDest ≠ ni → I rt → I' rt) : Routes n K I' (s.hwmpUpdateTransmitter env ni) := by
  unfold MeshState.hwmpUpdateTransmitter
  split
  · rename_i hadd
    refine h.mono fun rt hrt => hother rt ?_
    unfold MeshState.rtFindOrAdd at hadd
    split at hadd
    · cases hadd
    · rename_i hnone
      exact look_eq_none (Option.map_eq_none_iff.1 hnone) hrt
  · rename_i s' p hadd
    obtain ⟨hs', hfind, -⟩ := h.rtFindOrAdd hadd hi
    have hne : ∀ rt ∈ s'.msRoutes, rt.ptr ≠ p → rt.rtDest ≠ ni := fun rt hrt hp hd => hp (hs'.ptr_of_rtFind hfind hrt hd)
    dsimp only
    split
    · rename_i htrans
      rw [modifyRt_modifyRt _ _ _ _ fun rt => by simp]
      refine hs'.modifyRt (fun rt => ⟨by simp, by simp⟩) ?_ fun rt hmem hp hrt => hother rt (hne rt hmem hp) hrt
      intro rt hmem hp hrt
      have hd := hs'.deref hmem
      rw [hp] at hd
      rw [hd] at htrans
      have := hself rt (hs'.rtDest_of_rtFind hfind hmem hp) hrt
      rwa [if_pos (show rt.transmits env = true from htrans)] at this
    · rename_i htrans
      refine hs'.mono fun rt hmem hrt => ?_
      by_cases hp : rt.ptr = p
      · have hd := hs'.deref hmem
        rw [hp] at hd
        rw [hd] at htrans
        have := hself rt (hs'.rtDest_of_rtFind hfind hmem hp) hrt
        rwa [if_neg (show ¬ rt.transmits env = true from htrans)] at this
      · exact hother rt (hne rt hmem hp) hrt

theorem preqUpdateOrig (h : Routes n K I s)
    (hself : ∀ rt ∈ s.msRoutes, rt.ptr = p → I rt → I' (rt.originated env addr2 preq))
    (hother : ∀ rt ∈ s.msRoutes, rt.ptr ≠ p → I rt → I' rt) : Routes n K I' (s.preqUpdateOrig env addr2 preq p) := by
  unfold MeshState.preqUpdateOrig
  rw [modifyRt_modifyRt _ _ _ _ fun rt => by simp]
  exact h.modifyRt (fun rt => ⟨by simp, by simp⟩) hself hother

theorem preqReply {rttarg : Option Nat} (h : Routes n K I s) (hx : ∀ rt e, I rt → I { rt with rtExtSeq := e }) :
    Routes n K I (s.preqReply addr2 preq rttarg) := by
  have hs : Routes n K I { s with hsSeq := seqMax s.hsSeq preq.target0.targetSeq + 1 } := h.same rfl rfl
  unfold MeshState.preqReply
  dsimp only
  split
  · exact hs.tx _
  · split
    · apply Routes.tx
      refine hs.modify (fun _ => ⟨rfl, rfl⟩) ?_
      exact fun rt _ _ hrt => hx rt _ hrt
    · exact hs.tx _

theorem preqExt (h : Routes n K I s) (hs : s.preqExt env preq = some s')
    (hi : ∀ rt, n ≤ rt.ptr → rt.rtFlags = .none → rt.rtDiscovery = false → I rt)
    (hself : hasFlag preq.preqFlags IEEE80211_MESHPREQ_FLAGS_AE = true → ∀ rt g e, rt.rtDest = preq.preqOrigExtAddr → I rt →
      I' ({ rt with rtMeshGate := g, rtExtSeq := e }.update env preq.preqLifetime)) (hother : ∀ rt, I rt → I' rt) :
    Routes n K I' s' := by
  unfold MeshState.preqExt at hs
  split at hs
  · rename_i hae
    split at hs
    · rename_i p hfind
      cases hs
      refine h.modifyRt (fun rt => ⟨by simp, by simp⟩) ?_ fun rt _ _ hrt => hother rt hrt
      exact fun rt hmem hp hrt => hself hae rt rt.rtMeshGate _ (h.rtDest_of_rtFind hfind hmem hp) hrt
    · rename_i hfind
      split at hs
      · rename_i halloc
        cases hs
        have hadd : s.rtFindOrAdd env preq.preqOrigExtAddr = some (s.rtAdd env preq.preqOrigExtAddr, s.nextPtr) := by
          unfold MeshState.rtFindOrAdd
          rw [hfind]
          exact if_pos halloc
        obtain ⟨hs', hfind', -⟩ := h.rtFindOrAdd hadd fun _ rt hn _ => hi rt hn
        refine hs'.modifyRt (fun rt => ⟨by simp, by simp⟩) ?_ fun rt _ _ hrt => hother rt hrt
        exact fun rt hmem hp hrt => hself hae rt _ _ (hs'.rtDest_of_rtFind hfind' hmem hp) hrt
      · cases hs
  · cases hs
    exact h.mono fun rt _ hrt => hother rt hrt

theorem markRoot {isGate : Bool} {addr : MacAddr} (h : Routes n K I s)
    (hself : ∀ rt ∈ s.msRoutes, rt.ptr = p → I rt →
      I' (if isGate then { rt with rtFlags := { rt.rtFlags with gate := true } } else rt))
    (hother : ∀ rt ∈ s.msRoutes, rt.ptr ≠ p → I rt → I' rt) : Routes n K I' (s.markRoot isGate addr p) := by
  unfold MeshState.markRoot
  split
  · rename_i hg
    have hm : Routes n K I' (s.modifyRt p fun rt => { rt with rtFlags := { rt.rtFlags with gate := true } }) := by
      refine h.modifyRt (fun _ => ⟨rfl, rfl⟩) ?_ hother
      intro rt hrt hp hi
      have := hself rt hrt hp hi
      rwa [if_pos hg] at this
    exact hm.same rfl rfl
  · rename_i hg
    refine h.mono fun rt hrt hi => ?_
    by_cases hp : rt.ptr = p
    · have := hself rt hrt hp hi
      rwa [if_neg hg] at this
    · exact hother rt hrt hp hi

theorem hwmpSendPreq {limited : Bool} {da : MacAddr} (h : Routes n K I s) :
    Routes n K I (s.hwmpSendPreq env da preq limited) := by
  unfold MeshState.hwmpSendPreq
  split
  · exact h
  · exact h.tx _

theorem preqRootReply (h : Routes n K I s) : Routes n K I (s.preqRootReply preq p) := by
  unfold MeshState.preqRootReply
  dsimp only
  split
  · refine Routes.tx ?_ _
    exact h.same rfl rfl
  · exact h

theorem preqForward {rttarg : Option Nat} (h : Routes n K I s) : Routes n K I (s.preqForward env preq p rttarg) := by
  unfold MeshState.preqForward
  dsimp only
  split
  · split
    · exact (h.tx _).hwmpSendPreq
    · exact h.hwmpSendPreq
  · exact h

theorem prepUpdateTarg (h : Routes n K I s) (hself : ∀ rt ∈ s.msRoutes, rt.ptr = p → I rt → I' (rt.targeted env ni prep))
    (hother : ∀ rt ∈ s.msRoutes, rt.ptr ≠ p → I rt → I' rt) : Routes n K I' (s.prepUpdateTarg env ni prep p) := by
  unfold MeshState.prepUpdateTarg
  rw [modifyRt_modifyRt _ _ _ _ fun rt => by simp]
  exact h.modifyRt (fun rt => ⟨by simp, by simp⟩) hself hother

theorem prepPropagate {rtorig : Option Nat} (h : Routes n K I s) (hs : s.prepPropagate env prep rtorig = some s') :
    Routes n K I s' := by
  unfold MeshState.prepPropagate at hs
  split at hs
  · split at hs
    · cases hs
    · cases hs
      exact h.tx _
  · cases hs
    exact h

theorem prepExt (h : Routes n K I s) (hi : ∀ rt, n ≤ rt.ptr → rt.rtFlags = .none → rt.rtDiscovery = false → I rt)
    (hself : hasFlag prep.prepFlags IEEE80211_MESHPREP_FLAGS_AE = true → ∀ rt, rt.rtDest = prep.prepTargetExtAddr → I rt →
      I (rt.proxied env addr2 prep)) : Routes n K I (s.prepExt env addr2 prep) := by
  unfold MeshState.prepExt
  split
  · rename_i hae
    split
    · exact h
    · rename_i s' p hadd
      obtain ⟨hs', hfind, -⟩ := h.rtFindOrAdd hadd fun _ rt hn _ => hi rt hn
      exact hs'.modify (fun _ => ⟨rfl, rfl⟩) fun rt hmem hp hrt => hself hae rt (hs'.rtDest_of_rtFind hfind hmem hp) hrt
  · exact h

theorem rannRequest (h : Routes n K I s)
    (hself : ∀ rt ∈ s.msRoutes, rt.ptr = p → I rt →
      I' ((if hasFlag rann.rannFlags IEEE80211_MESHRANN_FLAGS_GATE then { rt with rtFlags := { rt.rtFlags with gate := true } }
        else rt).update env (env.ticksToMsecs env.roottimeout)))
    (hother : ∀ rt ∈ s.msRoutes, rt.ptr ≠ p → I rt → I' rt) : Routes n K I' (s.rannRequest env addr2 rann p) := by
  unfold MeshState.rannRequest
  have hm : Routes n K (fun rt => I' (if rt.ptr = p then rt.update env (env.ticksToMsecs env.roottimeout) else rt))
      (s.markRoot (hasFlag rann.rannFlags IEEE80211_MESHRANN_FLAGS_GATE) rann.rannAddr p) := by
    refine h.markRoot ?_ ?_
    · intro rt hrt hp hi
      have hptr : (if hasFlag rann.rannFlags IEEE80211_MESHRANN_FLAGS_GATE then
          { rt with rtFlags := { rt.rtFlags with gate := true } } else rt).ptr = p := by
        split
        · exact hp
        · exact hp
      rw [if_pos hptr]
      exact hself rt hrt hp hi
    · intro rt hrt hp hi
      rw [if_neg hp]
      exact hother rt hrt hp hi
  have hu : Routes n K I' ((s.markRoot (hasFlag rann.rannFlags IEEE80211_MESHRANN_FLAGS_GATE) rann.rannAddr p).rtUpdate env p
      (env.ticksToMsecs env.roottimeout)) := by
    refine hm.modifyRt (fun rt => ⟨by simp, by simp⟩) ?_ ?_
    · intro rt _ hp hi
      rwa [if_pos hp] at hi
    · intro rt _ hp hi
      rwa [if_neg hp] at hi
  exact Routes.hwmpSendPreq (hu.same rfl rfl)

theorem rannPropagate (h : Routes n K I s) (hself : ∀ rt e, rt.ptr = p → I rt → I { rt with hrSeq := e }) :
    Routes n K I (s.rannPropagate env rann p) := by
  unfold MeshState.rannPropagate
  split
  · apply Routes.tx
    refine h.modify (fun _ => ⟨rfl, rfl⟩) ?_
    exact fun rt _ hp hrt => hself rt _ hp hrt
  · exact h

theorem rtFlushPeer (h : Routes n K I s) (hk : ∀ rt ∈ s.msRoutes, rt.rtNexthop = ni → ¬ K rt.ptr) :
    Routes n K I (s.rtFlushPeer ni) :=
  h.rtDelIf fun rt hrt hp => hk rt hrt (of_decide_eq_true hp)

theorem recvPerrDest {dest : MeshperrDest} (h : Routes n K I s)
    (hself : ∀ rt e, I rt → I { rt with hrSeq := e, rtFlags := { rt.rtFlags with valid := false } })
    (hk : ∀ rt ∈ s.msRoutes, rt.rtNexthop = dest.destAddr → ¬ K rt.ptr) :
    Routes n K I ((s.recvPerrDest addr2 dest).state s) := by
  have hmod : ∀ (p : Nat) (f : MeshRoute → MeshRoute),
      (∀ rt, ∃ e, f rt = { rt with hrSeq := e, rtFlags := { rt.rtFlags with valid := false } }) →
      Routes n K I ((s.modifyRt p f).rtFlushPeer dest.destAddr) := by
    intro p f hf
    have hm : Routes n K I (s.modifyRt p f) := by
      refine h.modify (fun rt => ?_) fun rt _ _ hrt => ?_
      · obtain ⟨e, he⟩ := hf rt
        rw [he]
        exact ⟨rfl, rfl⟩
      · obtain ⟨e, he⟩ := hf rt
        rw [he]
        exact hself rt e hrt
    refine hm.rtFlushPeer fun rt hrt hnext => ?_
    obtain ⟨rt', hrt', rfl⟩ := mem_change hrt
    by_cases hp : rt'.ptr = p
    · obtain ⟨e, he⟩ := hf rt'
      rw [if_pos hp, he] at hnext ⊢
      exact hk rt' hrt' hnext
    · rw [if_neg hp] at hnext ⊢
      exact hk rt' hrt' hnext
  unfold MeshState.recvPerrDest
  split
  · exact h
  · dsimp only
    split
    · exact h
    · split
      · exact hmod _ _ fun rt => ⟨_, rfl⟩
      · split
        · split
          · exact hmod _ _ fun rt => ⟨_, rfl⟩
          · exact h.rtFlushPeer hk
        · split
          · split
            · exact hmod _ _ fun rt => ⟨rt.hrSeq, rfl⟩
            · exact h.rtFlushPeer hk
          · exact h

/-! ## Expiry -/

/-- What `mesh_rt_flush_invalid` makes of a route. -/
def flushed (env : Env) (rt : MeshRoute) : Option MeshRoute :=
  if rt.rtFlags.discover then
    some rt
  else
    if (rt.update env 0).rtFlags.valid = false then none else some (rt.update env 0)

theorem flushed_cases {rt' : MeshRoute} (h : flushed env rt = some rt') :
    rt.rtFlags.discover = true ∧ rt' = rt ∨
      rt.rtFlags.discover = false ∧ (rt.update env 0).rtFlags.valid = true ∧ rt' = rt.update env 0 := by
  unfold flushed at h
  split at h
  · rename_i hd
    exact .inl ⟨hd, (Option.some.inj h).symm⟩
  · rename_i hd
    split at h
    · cases h
    · rename_i hv
      exact .inr ⟨Bool.not_eq_true _ ▸ hd, Bool.not_eq_false _ ▸ hv, (Option.some.inj h).symm⟩

/-- **`mesh_rt_flush_invalid`** -/
theorem rtFlushInvalid (h : Routes n K I s)
    (hk : ∀ rt ∈ s.msRoutes, K rt.ptr → rt.rtFlags.discover = true ∨ (rt.update env 0).rtFlags.valid = true)
    (hself : ∀ rt ∈ s.msRoutes, rt.rtFlags.discover = false → (rt.update env 0).rtFlags.valid = true → I rt →
      I (rt.update env 0)) : Routes n K I (s.rtFlushInvalid env) := by
  have hkeep : ∀ rt rt', flushed env rt = some rt' → rt'.ptr = rt.ptr ∧ rt'.rtDest = rt.rtDest := by
    intro rt rt' hrt
    rcases flushed_cases hrt with ⟨-, rfl⟩ | ⟨-, -, rfl⟩ <;> simp
  refine { nodup := ?_, dests := ?_, fresh := ?_, base := h.base, kept := ?_, all := ?_ }
  · exact (map_filterMap_sublist (fun rt rt' hrt => (hkeep rt rt' hrt).1) _).nodup h.nodup
  · exact (map_filterMap_sublist (fun rt rt' hrt => (hkeep rt rt' hrt).2) _).nodup h.dests
  · intro rt' hrt'
    obtain ⟨rt, hrt, hf⟩ := List.mem_filterMap.1 hrt'
    have := h.fresh rt hrt
    rw [(hkeep rt rt' hf).1]
    exact this
  · intro q hq
    obtain ⟨rt, hrt, rfl⟩ := h.kept q hq
    cases hf : flushed env rt with
    | some rt' => exact ⟨rt', List.mem_filterMap.2 ⟨rt, hrt, hf⟩, (hkeep rt rt' hf).1⟩
    | none =>
      unfold flushed at hf
      rcases hk rt hrt hq with hd | hv
      · rw [if_pos hd] at hf
        cases hf
      · split at hf
        · cases hf
        · rw [if_neg (by rw [hv]; simp)] at hf
          cases hf
  · intro rt' hrt'
    obtain ⟨rt, hrt, hf⟩ := List.mem_filterMap.1 hrt'
    rcases flushed_cases hf with ⟨-, rfl⟩ | ⟨hd, hv, rfl⟩
    · exact h.all _ hrt
    · exact hself rt hrt hd hv (h.all rt hrt)

/-! ## Discovery -/

/-- A PREQ for the route is sent, and the callout is pending. -/
def Started (rt rt' : MeshRoute) : Prop :=
  rt'.ptr = rt.ptr ∧ rt'.rtDest = rt.rtDest ∧ rt'.rtFlags = .onlyDiscover ∧ rt'.rtDiscovery = true

theorem startDiscovery (h : Routes n K I s) (hlast : ∀ rt e, rt.ptr = p → I rt → I { rt with hrLastdiscovery := e })
    (hself : ∀ rt rt', rt.ptr = p → Started rt rt' → I rt → I' rt') (hother : ∀ rt, I rt → I' rt) :
    Routes n K I' (s.startDiscovery env p) := by
  have hl : Routes n K I (s.modifyRt p fun rt => { rt with hrLastdiscovery := env.ticks }) := by
    refine h.modify (fun _ => ⟨rfl, rfl⟩) ?_
    exact fun rt _ hp hrt => hlast rt _ hp hrt
  unfold MeshState.startDiscovery
  dsimp only
  split
  · exact hl.mono fun rt _ => hother rt
  · -- the flags are written before the callout is pending
    refine Routes.modifyRt (I := fun rt => I' (if rt.ptr = p then { rt with rtDiscovery := true } else rt)) ?_
      (fun _ => ⟨rfl, rfl⟩) ?_ ?_
    · refine Routes.hwmpSendPreq ?_
      refine Routes.modifyRt (hl.same rfl rfl) (fun _ => ⟨rfl, rfl⟩) ?_ ?_
      · intro rt _ hp hrt
        show I' (if rt.ptr = p then _ else _)
        rw [if_pos hp]
        exact hself rt _ hp ⟨rfl, rfl, rfl, rfl⟩ hrt
      · intro rt _ hp hrt
        show I' (if rt.ptr = p then _ else rt)
        rw [if_neg hp]
        exact hother rt hrt
    · intro rt _ hp hrt
      rwa [if_pos hp] at hrt
    · intro rt _ hp hrt
      rwa [if_neg hp] at hrt

/-- **`hwmp_discover`** -/
theorem hwmpDiscover (h : Routes n K I s) (hi : ∀ rt, n ≤ rt.ptr → rt.rtFlags = .none → rt.rtDiscovery = false → I rt)
    (hlast : ∀ rt e, I rt → I { rt with hrLastdiscovery := e })
    (hself : ∀ rt rt', rt.rtFlags.discover = false → rt.rtFlags.valid = false → Started rt rt' → I rt → I rt') :
    Routes n K I (s.hwmpDiscover env dest) := by
  unfold MeshState.hwmpDiscover
  dsimp only
  split
  · exact h
  · split
    · exact h
    · rename_i s' p hadd
      obtain ⟨hs', hfind, -⟩ := h.rtFindOrAdd hadd fun _ rt hn _ => hi rt hn
      split
      · exact hs'
      · rename_i hflags
        split
        · exact hs'
        · -- the route is neither valid nor being discovered, and stays so until the flags are written
          have hidle : Routes n K (fun rt => I rt ∧ (rt.ptr = p → rt.rtFlags.discover = false ∧ rt.rtFlags.valid = false)) s' := by
            refine { hs' with all := fun rt hrt => ⟨hs'.all rt hrt, fun hp => ?_⟩ }
            have hd := hs'.deref hrt
            rw [hp] at hd
            rw [hd] at hflags
            simpa using hflags
          refine hidle.startDiscovery ?_ ?_ fun rt hrt => hrt.1
          · exact fun rt e _ hrt => ⟨hlast rt e hrt.1, hrt.2⟩
          · exact fun rt rt' hp hst hrt => hself rt rt' (hrt.2 hp).1 (hrt.2 hp).2 hst hrt.1

/-! ## The callout -/

/-- What forwarding to gates leaves of a route. -/
def Abandoned (rt rt' : MeshRoute) : Prop :=
  rt'.ptr = rt.ptr ∧ rt'.rtDest = rt.rtDest ∧ rt'.rtFlags = .none ∧ rt'.rtDiscovery = rt.rtDiscovery

theorem forwardToGatesLoop {grs : List GateRoute} (h : Routes n K I s)
    (hs : MeshState.forwardToGatesLoop env p grs s = some s')
    (hself : ∀ rt rt', rt'.ptr = rt.ptr → rt'.rtDest = rt.rtDest → rt'.rtDiscovery = rt.rtDiscovery → rt.ptr = p → I rt →
      I rt') : Routes n K I s' := by
  induction grs generalizing s with
  | nil =>
    cases hs
    exact h
  | cons gr grs ih =>
    unfold MeshState.forwardToGatesLoop at hs
    split at hs
    · exact ih h hs
    · split at hs
      · cases hs
      · split at hs
        · exact ih h hs
        · split at hs
          · cases hs
          · split at hs
            · cases hs
            · refine ih ?_ hs
              refine Routes.modify (h.modify (fun _ => ⟨rfl, rfl⟩) ?_) (fun rt => ⟨by simp, by simp⟩) ?_
              · exact fun rt _ hp hrt => hself rt _ rfl rfl rfl hp hrt
              · exact fun rt _ hp hrt => hself rt _ (by simp) (by simp) (by simp) hp hrt

/-- **`ieee80211_mesh_forward_to_gates`** -/
theorem forwardToGates (h : Routes n K I s) (hs : s.forwardToGates env p = some s')
    (hself : ∀ rt rt', rt.ptr = p → Abandoned rt rt' → I rt → I' rt') (hother : ∀ rt, rt.ptr ≠ p → I rt → I' rt) :
    Routes n K I' s' := by
  unfold MeshState.forwardToGates at hs
  split at hs
  · cases hs
  · obtain ⟨s'', hloop, rfl⟩ := Option.map_eq_some_iff.1 hs
    -- the route is anything with its pointer, destination and callout until the flags are cleared
    have hany : Routes n K (fun rt => if rt.ptr = p then
        ∃ rt₀, rt₀.ptr = rt.ptr ∧ rt₀.rtDest = rt.rtDest ∧ rt₀.rtDiscovery = rt.rtDiscovery ∧ I rt₀ else I rt) s'' := by
      refine Routes.forwardToGatesLoop (h.mono fun rt _ hrt => ?_) hloop ?_
      · split
        · exact ⟨rt, rfl, rfl, rfl, hrt⟩
        · exact hrt
      · intro rt rt' hptr hdest hdisc hp hrt
        rw [if_pos hp] at hrt
        rw [if_pos (hptr.trans hp)]
        obtain ⟨rt₀, hptr₀, hdest₀, hdisc₀, hi⟩ := hrt
        exact ⟨rt₀, hptr₀.trans hptr.symm, hdest₀.trans hdest.symm, hdisc₀.trans hdisc.symm, hi⟩
    refine hany.modifyRt (fun _ => ⟨rfl, rfl⟩) ?_ ?_
    · intro rt _ hp hrt
      rw [if_pos hp] at hrt
      obtain ⟨rt₀, hptr₀, hdest₀, hdisc₀, hi⟩ := hrt
      exact hself rt₀ _ (hptr₀.trans hp) ⟨hptr₀.symm, hdest₀.symm, rfl, hdisc₀.symm⟩ hi
    · intro rt _ hp hrt
      rw [if_neg hp] at hrt
      exact hother rt hp hrt

/-- **`hwmp_rediscover_cb`** -/
theorem hwmpRediscoverCb (h : Routes n K I s) (hs : s.hwmpRediscoverCb env p = some s')
    (hvalid : ∀ rt, rt.ptr = p → rt.rtFlags.valid = true → I rt → I' { rt with rtDiscovery := false })
    (hagain : ∀ rt e, rt.ptr = p → rt.rtFlags.valid = false → rt.hrPreqretries < env.maxpreqRetries → I rt →
      I' { rt with hrPreqretries := e, rtDiscovery := true })
    (hgates : ∀ rt rt', rt.ptr = p → rt.rtFlags.valid = false → Abandoned { rt with rtDiscovery := false } rt' → I rt → I' rt')
    (hother : ∀ rt, rt.ptr ≠ p → I rt → I' rt) : Routes n K I' s' := by
  -- the callout is not pending, and the route is otherwise as it was
  have hran : Routes n K (fun rt => if rt.ptr = p then ∃ rt₀, rt = { rt₀ with rtDiscovery := false } ∧ I rt₀ else I rt)
      (s.modifyRt p fun rt => { rt with rtDiscovery := false }) := by
    refine h.modifyRt (fun _ => ⟨rfl, rfl⟩) ?_ ?_
    · intro rt _ hp hrt
      show if rt.ptr = p then _ else _
      rw [if_pos hp]
      exact ⟨rt, rfl, hrt⟩
    · intro rt _ hp hrt
      rw [if_neg hp]
      exact hrt
  unfold MeshState.hwmpRediscoverCb at hs
  dsimp only at hs
  have hderef : ∀ rt ∈ (s.modifyRt p fun rt => { rt with rtDiscovery := false }).msRoutes, rt.ptr = p →
      (s.modifyRt p fun rt => { rt with rtDiscovery := false }).deref p = rt := by
    intro rt hrt hp
    have hd := hran.deref hrt
    rwa [hp] at hd
  split at hs
  · rename_i hv
    cases hs
    refine hran.mono fun rt hrt hi => ?_
    split at hi
    · rename_i hp
      rw [hderef rt hrt hp] at hv
      obtain ⟨rt₀, rfl, hi⟩ := hi
      exact hvalid rt₀ hp hv hi
    · rename_i hp
      exact hother rt hp hi
  · rename_i hv
    rw [Bool.not_eq_true] at hv
    have hinv : Routes n K (fun rt => if rt.ptr = p then
        ∃ rt₀, rt = { rt₀ with rtDiscovery := false } ∧ rt₀.rtFlags.valid = false ∧ I rt₀ else I rt)
        (s.modifyRt p fun rt => { rt with rtDiscovery := false }) := by
      refine hran.mono fun rt hrt hi => ?_
      split at hi
      · rename_i hp
        rw [hderef rt hrt hp] at hv
        obtain ⟨rt₀, rfl, hi⟩ := hi
        rw [if_pos hp]
        exact ⟨rt₀, rfl, hv, hi⟩
      · rename_i hp
        rw [if_neg hp]
        exact hi
    split at hs
    · refine hinv.forwardToGates hs ?_ ?_
      · intro rt rt' hp hab hi
        rw [if_pos hp] at hi
        obtain ⟨rt₀, rfl, hv₀, hi⟩ := hi
        exact hgates rt₀ rt' hp hv₀ hab hi
      · intro rt hp hi
        rw [if_neg hp] at hi
        exact hother rt hp hi
    · rename_i hretry
      rw [ge_iff_le, Nat.not_le] at hretry
      cases hs
      have hlt : Routes n K (fun rt => if rt.ptr = p then ∃ rt₀, rt = { rt₀ with rtDiscovery := false } ∧
          rt₀.rtFlags.valid = false ∧ rt₀.hrPreqretries < env.maxpreqRetries ∧ I rt₀ else I rt)
          (s.modifyRt p fun rt => { rt with rtDiscovery := false }) := by
        refine hinv.mono fun rt hrt hi => ?_
        split at hi
        · rename_i hp
          rw [hderef rt hrt hp] at hretry
          obtain ⟨rt₀, rfl, hv₀, hi⟩ := hi
          rw [if_pos hp]
          exact ⟨rt₀, rfl, hv₀, hretry, hi⟩
        · rename_i hp
          rw [if_neg hp]
          exact hi
      refine Routes.modifyRt (Routes.hwmpSendPreq (hlt.same rfl rfl)) (fun _ => ⟨rfl, rfl⟩) ?_ ?_
      · intro rt _ hp hi
        rw [if_pos hp] at hi
        obtain ⟨rt₀, rfl, hv₀, hlt₀, hi⟩ := hi
        exact hagain rt₀ _ hp hv₀ hlt₀ hi
      · intro rt _ hp hi
        rw [if_neg hp] at hi
        exact hother rt hp hi

end Routes

end Net80211.Mesh
