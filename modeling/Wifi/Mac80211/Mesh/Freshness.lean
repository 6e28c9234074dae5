import Mathlib
import Wifi.Mac80211.Mesh.HwmpInv

/-!
# Freshness of routing information

* `accumulated` — the metric of a frame with the last hop, as a number.
* `Fresher` — a frame is newer than what an active path knows, or as new and better.
* `HysteresisWraps`, `SnBounces`, `Lenient` — where the code is not as strict.
* `route_fresh` — exactly there the path to the originator is overwritten by a frame that is not
  fresher.
-/

namespace Mac80211.Mesh

open KeyedTable

variable {k : KernelApi} {h : MultFrac} {s : MeshState}

/-- The metric of the frame with that of the last hop, saturated at `MAX_METRIC`. -/
def accumulated (f : HwmpFrame) (env : RouteEnv) : Nat :=
  min (f.origMetric.toNat + env.lastHopMetric.toNat) (2 ^ 32 - 1)

/-- A metric with the hysteresis of a change of the next hop. -/
def withHysteresis (path : MeshPath) (sta metric : Nat) : Nat :=
  if path.nextHop = some sta then metric else 10 * metric / 9

/-- **A frame is fresher than the path**: its SN is newer, or the same with a smaller metric. -/
def Fresher (path : MeshPath) (sta : Nat) (f : HwmpFrame) (env : RouteEnv) : Prop :=
  snGt f.origSn path.sn = true ∨
    (f.origSn = path.sn ∧ withHysteresis path sta (accumulated f env) < path.metric.toNat)

structure Kept (path path' : MeshPath) : Prop where
  nextHop : path'.nextHop = path.nextHop
  sn : path'.sn = path.sn
  metric : path'.metric = path.metric
  hopCount : path'.hopCount = path.hopCount

/-- The same SN from another neighbour, with a metric for which 10/9 of it is past 32 bits and what is
    left of it is smaller than the metric of the path. -/
def HysteresisWraps (path : MeshPath) (sta : Nat) (f : HwmpFrame) (env : RouteEnv) : Prop :=
  f.origSn = path.sn ∧ path.nextHop ≠ some sta ∧ 2 ^ 32 ≤ 10 * accumulated f env / 9 ∧
    10 * accumulated f env / 9 - 2 ^ 32 < path.metric.toNat

/-- An older SN, but very different from that of the path. -/
def SnBounces (path : MeshPath) (f : HwmpFrame) : Prop :=
  snGt f.origSn path.sn = false ∧ MAX_SANE_SN_DELTA < snDelta f.origSn path.sn

/-! ## Arithmetic -/

theorem newMetric_toNat (f : HwmpFrame) (env : RouteEnv) :
    (newMetric f.origMetric env.lastHopMetric).toNat = accumulated f env := by
  have h1 := f.origMetric.isLt
  have h2 := env.lastHopMetric.isLt
  unfold newMetric accumulated MAX_METRIC
  simp only [BitVec.lt_def, BitVec.toNat_add]
  split
  · have hmax : (0xffffffff : BitVec 32).toNat = 2 ^ 32 - 1 := rfl
    rw [hmax]
    omega
  · rw [BitVec.toNat_add]
    omega

theorem multFrac_toNat (h : MultFrac) (metric : BitVec 32) :
    (h.multFrac metric 10 9).toNat = 10 * metric.toNat / 9 % 2 ^ 32 := by
  have hlt := metric.isLt
  rw [h.multFrac_eq]
  have h10 : (10 : BitVec 32).toNat = 10 := rfl
  have h9 : (9 : BitVec 32).toNat = 9 := rfl
  simp only [BitVec.toNat_add, BitVec.toNat_mul, BitVec.toNat_udiv, BitVec.toNat_umod, h10, h9]
  have hr : metric.toNat % 9 * 10 % 2 ^ 32 = metric.toNat % 9 * 10 := by omega
  have hq : metric.toNat / 9 * 10 + metric.toNat % 9 * 10 / 9 = 10 * metric.toNat / 9 := by omega
  rw [hr, Nat.mod_add_mod, hq]

/-- What the code compares with the metric of the path. -/
theorem hysteresis_toNat (h : MultFrac) (path : MeshPath) (sta : Nat) (f : HwmpFrame)
    (env : RouteEnv) :
    (hysteresis h path sta (newMetric f.origMetric env.lastHopMetric)).toNat =
      withHysteresis path sta (accumulated f env) % 2 ^ 32 := by
  have hm := newMetric_toNat f env
  have hle : accumulated f env ≤ 2 ^ 32 - 1 := Nat.min_le_right _ _
  unfold hysteresis withHysteresis
  by_cases hn : path.nextHop = some sta
  · rw [if_neg (not_not.2 hn), if_pos hn, hm]
    omega
  · rw [if_pos hn, if_neg hn, multFrac_toNat, hm]

/-- The circular order: of two SNs that differ, one is newer. -/
theorem snGt_of_not {x y : BitVec 32} (hne : x ≠ y) (hgt : snGt y x = false) : snGt x y = true := by
  unfold snGt at hgt ⊢
  rw [BitVec.msb_eq_false_iff_two_mul_lt] at hgt
  rw [BitVec.msb_eq_true_iff_two_mul_ge]
  have hxy : x.toNat ≠ y.toNat := fun he => hne (BitVec.eq_of_toNat_eq he)
  have hx := x.isLt
  have hy := y.isLt
  rw [BitVec.toNat_sub] at hgt ⊢
  omega

theorem snGt_self (x : BitVec 32) : snGt x x = false := by
  unfold snGt
  rw [BitVec.sub_self]
  rfl

/-! ## The path to the originator -/

/-- The path after `mesh_path_lookup`. -/
def afterLookup (k : KernelApi) (now : BitVec 64) (path : MeshPath) : MeshPath :=
  if mpathExpired k now path then path.deactivate else path

theorem afterLookup_kept (now : BitVec 64) (path : MeshPath) : Kept path (afterLookup k now path) := by
  unfold afterLookup
  split <;> exact ⟨rfl, rfl, rfl, rfl⟩

theorem updatePath_mem (s : MeshState) {a sta : Nat} {path : MeshPath} (flushMpath : Bool)
    (f : MeshPath → MeshPath) (hp : s.meshPaths.mem a = some path) :
    (s.updatePath a sta flushMpath f).1.meshPaths.mem a = some (f path) := by
  have hm : (s.modifyPath a f).meshPaths.mem a = some (f path) := Table.modify_self _ hp
  unfold MeshState.updatePath
  dsimp only
  split <;> exact hm

theorem updatePath_other (s : MeshState) {a b sta : Nat} (flushMpath : Bool) (f : MeshPath → MeshPath)
    (hb : b ≠ a) : (s.updatePath a sta flushMpath f).1.meshPaths.mem b = s.meshPaths.mem b := by
  have hm : (s.modifyPath a f).meshPaths.mem b = s.meshPaths.mem b := Table.modify_other _ f hb
  unfold MeshState.updatePath
  dsimp only
  split <;> exact hm

/-- **What the first half does to the path to the originator.** -/
theorem routeOrig_mem (hi : MeshInv s) {f : HwmpFrame} {env : RouteEnv} {a sta : Nat} {path : MeshPath}
    (hp : s.meshPaths.mem a = some path) (hd : path.dst = f.origAddr) (hv : f.origAddr ≠ s.vifAddr) :
    (s.routeOrig k h f env sta).1.meshPaths.mem a = some
      (if (origFresh h (afterLookup k env.now path) sta f.origSn
          (newMetric f.origMetric env.lastHopMetric)).1 then
        (afterLookup k env.now path).updateOrig k sta f.origSn
          (newMetric f.origMetric env.lastHopMetric) env.expTime (f.hopcount + 1)
      else afterLookup k env.now path) := by
  have hl : s.meshPaths.lookup MeshPath.dst f.origAddr = some a :=
    hi.paths.lookup_eq_some.2 ⟨path, hp, hd⟩
  have hp1 : (s.modifyPath a fun mpath =>
      if mpathExpired k env.now mpath then mpath.deactivate else mpath).meshPaths.mem a =
        some (afterLookup k env.now path) := Table.modify_self _ hp
  unfold MeshState.routeOrig
  rw [if_neg hv, meshPathLookup_some hl]
  dsimp only
  rw [hp1]
  dsimp only
  split
  · rename_i process hf
    rw [hf, if_pos rfl]
    exact updatePath_mem _ _ _ hp1
  · rename_i process hf
    rw [hf, if_neg Bool.false_ne_true]
    exact hp1

/-- **The second half does not touch the path to the originator.** -/
theorem routeTa_mem (hi : MeshInv s) {f : HwmpFrame} (env : RouteEnv) (sta : Nat) {a : Nat} {path : MeshPath}
    (flushMpath : Bool) (hp : s.meshPaths.mem a = some path) (hd : path.dst = f.origAddr) :
    (s.routeTa k h f env sta flushMpath).1.meshPaths.mem a = some path := by
  unfold MeshState.routeTa
  by_cases hsa : f.origAddr = f.sa
  · rw [if_pos hsa]
    exact hp
  · rw [if_neg hsa]
    cases hl : s.meshPaths.lookup MeshPath.dst f.sa with
    | some b =>
      obtain ⟨pb, hpb, hdb⟩ := hi.paths.lookup_eq_some.1 hl
      have hab : a ≠ b := by
        intro hab
        rw [hab, hpb, Option.some.injEq] at hp
        exact hsa (hd.symm.trans ((congrArg MeshPath.dst hp.symm).trans hdb))
      have hkeep : (s.modifyPath b fun mpath =>
          if mpathExpired k env.now mpath then mpath.deactivate else mpath).meshPaths.mem a =
            some path := (Table.modify_other _ _ hab).trans hp
      rw [meshPathLookup_some hl]
      dsimp only
      split
      · exact hkeep
      · split
        · exact (updatePath_other _ _ _ hab).trans hkeep
        · exact hkeep
    | none =>
      have hne : a ≠ s.meshPaths.next := by
        intro he
        rw [he, hi.paths.fresh (Nat.le_refl _)] at hp
        cases hp
      rw [meshPathLookup_none hl]
      dsimp only
      rcases meshPathAdd_cases s env.now f.sa env.taAlloc with ⟨n, err, ha⟩ | ⟨b, n, hb, _⟩ | ⟨_, ha⟩
      · rw [ha]
        exact hp
      · rw [hl] at hb
        cases hb
      · rw [ha]
        dsimp only
        rw [updatePath_other _ _ _ hne]
        exact (Table.add_mem ..).trans ((if_neg hne).trans hp)

/-- The path to the originator after `hwmp_route_info_get`. -/
theorem routeInfo_mem (hi : MeshInv s) {f : HwmpFrame} (env : RouteEnv) {a sta : Nat} {path : MeshPath}
    (hact : f.action = .preq ∨ f.action = .prep) (henv : env.sta = some sta)
    (hsta : s.stas sta = some f.sa) (hp : s.meshPaths.mem a = some path) (hd : path.dst = f.origAddr) :
    (s.hwmpRouteInfoGet k h f env).1.meshPaths.mem a = some
      (if f.origAddr = s.vifAddr then path
      else if (origFresh h (afterLookup k env.now path) sta f.origSn
          (newMetric f.origMetric env.lastHopMetric)).1 then
        (afterLookup k env.now path).updateOrig k sta f.origSn
          (newMetric f.origMetric env.lastHopMetric) env.expTime (f.hopcount + 1)
      else afterLookup k env.now path) := by
  obtain ⟨hi1, _⟩ := routeOrig_inv (k := k) (h := h) hi (f := f) hsta
  have hfirst : ∃ p, (s.routeOrig k h f env sta).1.meshPaths.mem a = some p ∧ p.dst = f.origAddr ∧
      p = if f.origAddr = s.vifAddr then path
        else if (origFresh h (afterLookup k env.now path) sta f.origSn
            (newMetric f.origMetric env.lastHopMetric)).1 then
          (afterLookup k env.now path).updateOrig k sta f.origSn
            (newMetric f.origMetric env.lastHopMetric) env.expTime (f.hopcount + 1)
        else afterLookup k env.now path := by
    by_cases hv : f.origAddr = s.vifAddr
    · refine ⟨path, ?_, hd, (if_pos hv).symm⟩
      unfold MeshState.routeOrig
      rw [if_pos hv]
      exact hp
    · refine ⟨_, routeOrig_mem hi hp hd hv, ?_, (if_neg hv).symm⟩
      have hdst : (afterLookup k env.now path).dst = f.origAddr := by
        unfold afterLookup
        split <;> exact hd
      split
      · exact (updateOrig_fields _ _ _ _ _ _).1.trans hdst
      · exact hdst
  obtain ⟨p, hp1, hd1, hpe⟩ := hfirst
  rw [← hpe]
  unfold MeshState.hwmpRouteInfoGet
  rw [henv]
  dsimp only
  rw [if_pos hact]
  cases hr : s.routeOrig k h f env sta with
  | mk s1 r =>
    rw [hr] at hi1 hp1
    cases r with
    | none => exact hp1
    | some fp =>
      have ht := routeTa_mem (k := k) (h := h) hi1 env sta fp.1 hp1 hd1
      dsimp only
      cases hr' : s1.routeTa k h f env sta fp.1 with
      | mk s2 b =>
        rw [hr'] at ht
        cases b <;> exact ht

/-- **When the code takes a frame for a path that is active**, although it is not fresher. -/
theorem origFresh_active {path : MeshPath} {sta : Nat} {f : HwmpFrame} {env : RouteEnv}
    (hact : path.flags.active = true) (hsn : path.flags.snValid = true)
    (hfix : path.flags.fixed = false) (hnf : ¬ Fresher path sta f env) :
    (origFresh h path sta f.origSn (newMetric f.origMetric env.lastHopMetric)).1 = true ↔
      HysteresisWraps path sta f env := by
  have hmod := hysteresis_toNat h path sta f env
  have hacc : accumulated f env ≤ 2 ^ 32 - 1 := Nat.min_le_right _ _
  have hmetric := path.metric.isLt
  have hle : path.metric ≤ hysteresis h path sta (newMetric f.origMetric env.lastHopMetric) ↔
      path.metric.toNat ≤ withHysteresis path sta (accumulated f env) % 2 ^ 32 := by
    rw [BitVec.le_def, hmod]
  unfold Fresher at hnf
  rw [not_or, not_and] at hnf
  obtain ⟨hnew, hsame⟩ := hnf
  unfold origFresh
  rw [hfix, if_neg Bool.false_ne_true, if_pos ⟨hact, hsn⟩]
  by_cases heq : f.origSn = path.sn
  · have hold : snGt path.sn f.origSn = false := by rw [heq, snGt_self]
    have hnlt := hsame heq
    unfold HysteresisWraps
    by_cases hn : path.nextHop = some sta
    · unfold withHysteresis at hle hnlt
      rw [if_pos hn] at hle hnlt
      rw [if_pos (.inr ⟨heq.symm, hle.2 (by omega)⟩)]
      exact ⟨nofun, fun h => absurd hn h.2.1⟩
    · unfold withHysteresis at hle hnlt
      rw [if_neg hn] at hle hnlt
      by_cases hm : path.metric ≤ hysteresis h path sta (newMetric f.origMetric env.lastHopMetric)
      · have hm' := hle.1 hm
        rw [if_pos (.inr ⟨heq.symm, hm⟩)]
        refine ⟨nofun, ?_⟩
        intro ⟨_, _, hge, hlt⟩
        omega
      · have hm' := mt hle.2 hm
        have hno : ¬(snGt path.sn f.origSn = true ∨ (path.sn = f.origSn ∧
            path.metric ≤ hysteresis h path sta (newMetric f.origMetric env.lastHopMetric))) := by
          rw [hold]
          rintro (h | h)
          · cases h
          · exact hm h.2
        rw [if_neg hno]
        refine ⟨fun _ => ⟨heq, hn, ?_, ?_⟩, fun _ => rfl⟩ <;> omega
  · have hold : snGt path.sn f.origSn = true :=
      snGt_of_not (fun he => heq he.symm) (Bool.not_eq_true _ ▸ hnew)
    rw [if_pos (.inl hold)]
    exact ⟨nofun, fun h => absurd h.1 heq⟩

theorem origFresh_expired {path : MeshPath} {sta : Nat} {f : HwmpFrame} {env : RouteEnv}
    (hsn : path.flags.snValid = true) (hfix : path.flags.fixed = false)
    (hnew : snGt f.origSn path.sn = false) :
    (origFresh h path.deactivate sta f.origSn (newMetric f.origMetric env.lastHopMetric)).1 = true ↔
      SnBounces path f := by
  have hhave : path.deactivate.flags.snValid = true := hsn
  have hsame : path.deactivate.sn = path.sn := rfl
  have hfix' : path.deactivate.flags.fixed = false := hfix
  have hact' : path.deactivate.flags.active = false := rfl
  unfold origFresh SnBounces
  rw [hfix', hact', hhave, hsame, hnew]
  simp only [Bool.false_eq_true, if_false, false_and, Bool.true_and, true_and]
  simp only [Bool.true_eq_false, or_false, if_false, if_true, decide_eq_true_eq]
  split
  · rename_i hb
    exact ⟨fun _ => hb, fun _ => rfl⟩
  · rename_i hb
    exact ⟨nofun, fun h => absurd h hb⟩

def Lenient (k : KernelApi) (path : MeshPath) (sta : Nat) (f : HwmpFrame) (env : RouteEnv) : Prop :=
  if mpathExpired k env.now path then SnBounces path f else HysteresisWraps path sta f env

/-- There the frame is not fresher, and differs from what the path knows. -/
theorem lenient_not_fresher {path : MeshPath} {sta : Nat} {f : HwmpFrame} {env : RouteEnv}
    (hb : Lenient k path sta f env) :
    ¬ Fresher path sta f env ∧ (f.origSn ≠ path.sn ∨ path.nextHop ≠ some sta) := by
  unfold Lenient at hb
  split at hb
  · obtain ⟨hnew, hdelta⟩ := hb
    have hne : f.origSn ≠ path.sn := by
      intro he
      rw [he] at hdelta
      unfold snDelta at hdelta
      rw [if_pos (BitVec.le_refl _), BitVec.sub_self] at hdelta
      exact absurd hdelta (by decide)
    refine ⟨?_, .inl hne⟩
    rintro (hgt | ⟨he, _⟩)
    · rw [hnew] at hgt
      cases hgt
    · exact hne he
  · obtain ⟨he, hn, hge, _⟩ := hb
    refine ⟨?_, .inr hn⟩
    rintro (hgt | ⟨_, hlt⟩)
    · rw [he, snGt_self] at hgt
      cases hgt
    · unfold withHysteresis at hlt
      rw [if_neg hn] at hlt
      have hmetric := path.metric.isLt
      omega

/-- A frame that is not fresher is taken exactly there. -/
theorem taken_iff_lenient {path : MeshPath} {sta : Nat} {f : HwmpFrame} {env : RouteEnv}
    (hactive : path.flags.active = true) (hsn : path.flags.snValid = true)
    (hfix : path.flags.fixed = false) (hnf : ¬ Fresher path sta f env) :
    (origFresh h (afterLookup k env.now path) sta f.origSn
      (newMetric f.origMetric env.lastHopMetric)).1 = true ↔ Lenient k path sta f env := by
  unfold afterLookup Lenient
  split
  · have hnew : snGt f.origSn path.sn = false := Bool.eq_false_iff.2 fun hgt => hnf (.inl hgt)
    exact origFresh_expired hsn hfix hnew
  · exact origFresh_active hactive hsn hfix hnf

/-- **The path to the originator is kept when the frame is not fresher**, exactly when the frame is not
    one of those for which the hysteresis wraps, nor the SN of a path whose lifetime is over bounces. -/
theorem route_fresh (k : KernelApi) (h : MultFrac) {s : MeshState} {f : HwmpFrame} {env : RouteEnv}
    {a sta : Nat} {path : MeshPath} (hr : Runs.Reachable Initial (MeshStep k h) s)
    (hl : (MeshOp.routeInfo f env).Legal s) (hact : f.action = .preq ∨ f.action = .prep)
    (henv : env.sta = some sta) (hp : s.meshPaths.mem a = some path) (hd : path.dst = f.origAddr)
    (hactive : path.flags.active = true) (hsn : path.flags.snValid = true)
    (hfix : path.flags.fixed = false) :
    (∃ path', (s.hwmpRouteInfoGet k h f env).1.meshPaths.mem a = some path' ∧
      (¬ Fresher path sta f env → Kept path path')) ↔
      f.origAddr = s.vifAddr ∨ ¬ Lenient k path sta f env := by
  have hmem := routeInfo_mem (k := k) (h := h) (reachable_inv hr) _ hact henv (hl sta henv) hp hd
  by_cases hv : f.origAddr = s.vifAddr
  · rw [if_pos hv] at hmem
    exact ⟨fun _ => .inl hv, fun _ => ⟨path, hmem, fun _ => ⟨rfl, rfl, rfl, rfl⟩⟩⟩
  · rw [if_neg hv] at hmem
    constructor
    · intro ⟨path', hp', hkept⟩
      refine .inr ?_
      intro hb
      obtain ⟨hnf, hdiff⟩ := lenient_not_fresher hb
      have hk := hkept hnf
      rw [if_pos ((taken_iff_lenient hactive hsn hfix hnf).2 hb)] at hmem
      rw [hmem, Option.some.injEq] at hp'
      rw [← hp'] at hk
      rcases hdiff with hdiff | hdiff
      · exact hdiff hk.sn
      · exact hdiff hk.nextHop.symm
    · intro hor
      have hb := hor.resolve_left hv
      refine ⟨_, hmem, ?_⟩
      intro hnf
      rw [if_neg fun ht => hb ((taken_iff_lenient hactive hsn hfix hnf).1 ht)]
      exact afterLookup_kept env.now path

/-- The metric and the next hop of the path in slot 0, and what does not change. -/
def activePath (s : MeshState) : Option (BitVec 32 × Option Nat × Bool) :=
  (s.meshPaths.mem 0).map fun path => (path.metric, path.nextHop,
    decide (s.stas 7 = some 3 ∧ s.stas 8 = some 4 ∧ s.vifAddr = 1 ∧ path.dst = 2 ∧
      path.flags.active = true ∧ path.flags.snValid = true ∧ path.flags.fixed = false ∧
      path.sn = 5 ∧ path.expTime = 100))

/-- A path over the neighbour `3` with a metric of 1000000020. -/
theorem preqFrom3_path :
    ∃ (s : MeshState) (path : MeshPath), Runs.Reachable Initial (MeshStep .linux .linux) s ∧
      s.meshPaths.mem 0 = some path ∧ s.stas 7 = some 3 ∧ s.stas 8 = some 4 ∧ s.vifAddr = 1 ∧
      path.dst = 2 ∧ path.flags.active = true ∧ path.flags.snValid = true ∧
      path.flags.fixed = false ∧ path.nextHop = some 7 ∧ path.sn = 5 ∧ path.metric = 1000000020 ∧
      path.expTime = 100 := by
  obtain ⟨s, hr, ho⟩ := observe
    [.staInsert 7 3, .staInsert 8 4, .routeInfo (preqFrom 3 1000000000) (routeVia 7)] activePath
    (x := some (1000000020, some 7, true)) (by decide)
  obtain ⟨path, hp, hf⟩ := Option.map_eq_some_iff.1 ho
  simp only [Prod.mk.injEq, decide_eq_true_eq] at hf
  obtain ⟨hm, hn, h7, h8, hv, hd, hact, hsn, hfix, hs, he⟩ := hf
  exact ⟨s, path, hr, hp, h7, h8, hv, hd, hact, hsn, hfix, hn, hs, hm, he⟩

/-- A PREQ with the same SN over the same neighbour, and a greater metric. -/
theorem route_fresh_kept :
    ∃ (s : MeshState) (path path' : MeshPath), s.meshPaths.mem 0 = some path ∧
      (s.hwmpRouteInfoGet .linux .linux (preqFrom 3 2000000000) (routeVia 7)).1.meshPaths.mem 0 =
        some path' ∧ Kept path path' := by
  obtain ⟨s, path, hr, hp, h7, _, _, hd, hact, hsn, hfix, hn, hs, hm, he⟩ := preqFrom3_path
  have hl : (MeshOp.routeInfo (preqFrom 3 2000000000) (routeVia 7)).Legal s := by
    intro sta hsta
    cases hsta
    exact h7
  have hnl : ¬ Lenient .linux path 7 (preqFrom 3 2000000000) (routeVia 7) := by
    have hexp : mpathExpired .linux (routeVia 7).now path = false := by
      unfold mpathExpired
      rw [hact, hfix, he]
      rfl
    unfold Lenient
    rw [hexp, if_neg Bool.false_ne_true]
    exact fun hw => hw.2.1 hn
  obtain ⟨path', hp', hk⟩ := (route_fresh .linux .linux hr hl (.inl rfl) rfl hp hd hact hsn hfix).2
    (.inr hnl)
  refine ⟨s, path, path', hp, hp', hk ?_⟩
  unfold Fresher withHysteresis
  rw [hs, hm, if_pos hn]
  decide

/-- A PREQ with the same SN over another neighbour, and a metric of 4000000020: 10/9 of it wraps to
    149477170. -/
theorem route_fresh_wraps :
    ∃ (s : MeshState) (path path' : MeshPath), Runs.Reachable Initial (MeshStep .linux .linux) s ∧
      (MeshOp.routeInfo (preqFrom 4 4000000000) (routeVia 8)).Legal s ∧
      s.meshPaths.mem 0 = some path ∧ path.dst = (preqFrom 4 4000000000).origAddr ∧
      path.flags.active = true ∧ path.flags.snValid = true ∧ path.flags.fixed = false ∧
      mpathExpired .linux (routeVia 8).now path = false ∧
      (s.hwmpRouteInfoGet .linux .linux (preqFrom 4 4000000000) (routeVia 8)).1.meshPaths.mem 0 =
        some path' ∧ ¬ Fresher path 8 (preqFrom 4 4000000000) (routeVia 8) ∧ ¬ Kept path path' := by
  obtain ⟨s, path, hr, hp, _, h8, hv, hd, hact, hsn, hfix, hn, hs, hm, he⟩ := preqFrom3_path
  have hl : (MeshOp.routeInfo (preqFrom 4 4000000000) (routeVia 8)).Legal s := by
    intro sta hsta
    cases hsta
    exact h8
  have hexp : mpathExpired .linux (routeVia 8).now path = false := by
    unfold mpathExpired
    rw [hact, hfix, he]
    rfl
  have hw : Lenient .linux path 8 (preqFrom 4 4000000000) (routeVia 8) := by
    unfold Lenient HysteresisWraps
    rw [hexp, if_neg Bool.false_ne_true, hs, hm, hn]
    decide
  obtain ⟨hnf, _⟩ := lenient_not_fresher hw
  have hmem := routeInfo_mem (k := .linux) (h := .linux) (f := preqFrom 4 4000000000)
    (reachable_inv hr) (routeVia 8) (.inl rfl) rfl (hl 8 rfl) hp hd
  have hvif : (preqFrom 4 4000000000).origAddr ≠ s.vifAddr := by
    rw [hv]
    decide
  rw [if_neg hvif, if_pos ((taken_iff_lenient hact hsn hfix hnf).2 hw)] at hmem
  refine ⟨s, path, _, hr, hl, hp, hd, hact, hsn, hfix, hexp, hmem, hnf, ?_⟩
  intro hk
  have hnext := hk.nextHop
  rw [hn] at hnext
  cases hnext

end Mac80211.Mesh

/-!
## Restarts of an originator (`linux/net/mac80211/mesh_hwmp.c`)

* `circularDistance` — the distance of two SNs on the circle.
* `RestartRight` — an SN that is not newer is only accepted when it is far from the one of the path.
* `Wraps` — an SN that is a little older, on the other side of 2^32.
* `restart_right_iff` — exactly there an older SN is taken for a restart.
-/

namespace Mac80211.Mesh

variable {k : KernelApi} {h : MultFrac} {s : MeshState} {path : MeshPath} {f : HwmpFrame}

def circularDistance (x y : BitVec 32) : BitVec 32 := if x - y ≤ y - x then x - y else y - x

/-- **An SN that is not newer is accepted only when it is far from that of the path**; a path that was not active is active
    when its frame was accepted. -/
def RestartRight (path path' : MeshPath) (f : HwmpFrame) : Prop :=
  path'.flags.active = true → snGt f.origSn path.sn = true ∨ MAX_SANE_SN_DELTA < circularDistance f.origSn path.sn

/-- The SN is older by at most 32, and is on the other side of 2^32. -/
def Wraps (path : MeshPath) (f : HwmpFrame) : Prop :=
  path.sn < f.origSn ∧ path.sn - f.origSn ≤ MAX_SANE_SN_DELTA

/-! ## Arithmetic -/

theorem snGt_iff (x y : BitVec 32) : snGt x y = true ↔ 2 ^ 31 ≤ (y - x).toNat := by
  unfold snGt
  rw [BitVec.msb_eq_true_iff_two_mul_ge]
  omega

/-- The plain and the circular distance of an SN that is not newer: they are the same, unless it is on the other side. -/
theorem snDelta_of_not_newer {x y : BitVec 32} (hnew : snGt x y = false) :
    circularDistance x y = y - x ∧ (x ≤ y → snDelta x y = y - x) ∧ (y < x → MAX_SANE_SN_DELTA < snDelta x y) := by
  have hlt : (y - x).toNat < 2 ^ 31 := by
    rw [← Nat.not_le, ← snGt_iff, hnew]
    exact Bool.false_ne_true
  refine ⟨?_, fun hle => ?_, fun hgt => ?_⟩
  · unfold circularDistance
    by_cases hle : x - y ≤ y - x
    · rw [if_pos hle]
      bv_omega
    · rw [if_neg hle]
  · unfold snDelta
    by_cases hle' : y ≤ x
    · rw [if_pos hle']
      bv_omega
    · rw [if_neg hle']
  · unfold snDelta MAX_SANE_SN_DELTA
    rw [if_pos (BitVec.le_of_lt hgt)]
    bv_omega

theorem accepted_right_iff (x y : BitVec 32) :
    (snGt x y = true ∨ MAX_SANE_SN_DELTA < snDelta x y → snGt x y = true ∨ MAX_SANE_SN_DELTA < circularDistance x y) ↔
      ¬ (y < x ∧ y - x ≤ MAX_SANE_SN_DELTA) := by
  by_cases hnew : snGt x y = true
  · refine iff_of_true (fun _ => .inl hnew) fun hwraps => ?_
    have hge := (snGt_iff x y).mp hnew
    have hle : (y - x).toNat ≤ MAX_SANE_SN_DELTA.toNat := hwraps.2
    have hsmall : MAX_SANE_SN_DELTA.toNat = 32 := rfl
    omega
  · obtain ⟨hcircular, hsame, hfar⟩ := snDelta_of_not_newer (Bool.eq_false_iff.2 hnew)
    rw [hcircular]
    simp only [hnew, Bool.false_eq_true, false_or]
    by_cases hgt : y < x
    · have hdelta := hfar hgt
      refine ⟨fun hall hwraps => ?_, fun hnot _ => BitVec.not_le.mp fun hle => hnot ⟨hgt, hle⟩⟩
      exact BitVec.not_le.mpr (hall hdelta) hwraps.2
    · rw [hsame (BitVec.not_lt.mp hgt)]
      exact iff_of_true id fun hwraps => hgt hwraps.1

/-! ## The path to the originator -/

/-- **When a frame is accepted for a path that is not active.** -/
theorem origFresh_inactive (h : MultFrac) (sta : Nat) (metric : BitVec 32) (hactive : path.flags.active = false)
    (hsn : path.flags.snValid = true) (hfix : path.flags.fixed = false) (origSn : BitVec 32) :
    (origFresh h path sta origSn metric).1 = true ↔
      snGt origSn path.sn = true ∨ MAX_SANE_SN_DELTA < snDelta origSn path.sn := by
  unfold origFresh
  rw [hfix, hactive, hsn]
  by_cases hnew : snGt origSn path.sn = true
  · simp [hnew]
  · by_cases hdelta : MAX_SANE_SN_DELTA < snDelta origSn path.sn
    · simp [hnew, hdelta]
    · simp [hnew, hdelta]

/-- The path after the lookup is not active, when it was not or its lifetime is over. -/
theorem afterLookup_inactive {now : BitVec 64} (hinactive : path.flags.active = false ∨ mpathExpired k now path = true) :
    (afterLookup k now path).flags.active = false := by
  unfold afterLookup
  by_cases hexpired : mpathExpired k now path = true
  · rw [if_pos hexpired]
    rfl
  · rw [if_neg hexpired]
    exact hinactive.resolve_right hexpired

theorem afterLookup_flags (now : BitVec 64) (path : MeshPath) :
    (afterLookup k now path).flags.snValid = path.flags.snValid ∧ (afterLookup k now path).flags.fixed = path.flags.fixed := by
  unfold afterLookup
  by_cases hexpired : mpathExpired k now path = true
  · rw [if_pos hexpired]
    exact ⟨rfl, rfl⟩
  · rw [if_neg hexpired]
    exact ⟨rfl, rfl⟩

/-- **An SN that is not newer is accepted only when it is far from that of the path, exactly when it is not a little older and
    on the other side of 2^32.** -/
theorem restart_right_iff (k : KernelApi) (h : MultFrac) {s : MeshState} {f : HwmpFrame} {env : RouteEnv} {a sta : Nat}
    {path : MeshPath} (hr : Runs.Reachable Initial (MeshStep k h) s) (hl : (MeshOp.routeInfo f env).Legal s)
    (hact : f.action = .preq ∨ f.action = .prep) (henv : env.sta = some sta) (hp : s.meshPaths.mem a = some path)
    (hd : path.dst = f.origAddr) (hv : f.origAddr ≠ s.vifAddr)
    (hinactive : path.flags.active = false ∨ mpathExpired k env.now path = true) (hsn : path.flags.snValid = true)
    (hfix : path.flags.fixed = false) :
    (∃ path', (s.hwmpRouteInfoGet k h f env).1.meshPaths.mem a = some path' ∧ RestartRight path path' f) ↔
      ¬ Wraps path f := by
  have hmem := routeInfo_mem (k := k) (h := h) (reachable_inv hr) env hact henv (hl sta henv) hp hd
  rw [if_neg hv] at hmem
  have hoff := afterLookup_inactive hinactive
  obtain ⟨hvalid, hfixed⟩ := afterLookup_flags (k := k) env.now path
  have hfresh := origFresh_inactive h sta (newMetric f.origMetric env.lastHopMetric) hoff
    (hvalid.trans hsn) (hfixed.trans hfix) f.origSn
  rw [(afterLookup_kept (k := k) env.now path).sn] at hfresh
  have hright := accepted_right_iff f.origSn path.sn
  rw [← hfresh] at hright
  have hactive : ∀ path', (s.hwmpRouteInfoGet k h f env).1.meshPaths.mem a = some path' →
      (path'.flags.active = true ↔ (origFresh h (afterLookup k env.now path) sta f.origSn
        (newMetric f.origMetric env.lastHopMetric)).1 = true) := by
    intro path' hpath'
    rw [hmem] at hpath'
    by_cases htaken : (origFresh h (afterLookup k env.now path) sta f.origSn
        (newMetric f.origMetric env.lastHopMetric)).1 = true
    · rw [if_pos htaken] at hpath'
      cases hpath'
      exact iff_of_true rfl htaken
    · rw [if_neg htaken] at hpath'
      cases hpath'
      exact iff_of_false (by rw [hoff]; exact Bool.false_ne_true) htaken
  unfold Wraps
  rw [← hright]
  constructor
  · rintro ⟨path', hpath', hall⟩ htaken
    exact hall ((hactive path' hpath').mpr htaken)
  · intro hall
    exact ⟨_, hmem, fun hon => hall ((hactive _ hmem).mp hon)⟩

/-- The PREQ of an originator whose SN is `sn`, at a time when the path of `preqFrom3_path` has expired. -/
def preqRestarted (sn : BitVec 32) : HwmpFrame := { preqFrom 3 1000000000 with origSn := sn }

def routeLate : RouteEnv := { routeVia 7 with now := 200 }

theorem expired_path :
    ∃ (s : MeshState) (path : MeshPath), Runs.Reachable Initial (MeshStep .linux .linux) s ∧ s.meshPaths.mem 0 = some path ∧
      (∀ sn, (MeshOp.routeInfo (preqRestarted sn) routeLate).Legal s ∧ path.dst = (preqRestarted sn).origAddr ∧
        (preqRestarted sn).origAddr ≠ s.vifAddr) ∧
      mpathExpired .linux routeLate.now path = true ∧ path.flags.snValid = true ∧ path.flags.fixed = false ∧ path.sn = 5 := by
  obtain ⟨s, path, hr, hp, h7, _, hv, hd, hact, hsn, hfix, _, hs, _, he⟩ := preqFrom3_path
  refine ⟨s, path, hr, hp, fun sn => ⟨?_, hd, ?_⟩, ?_, hsn, hfix, hs⟩
  · intro sta hsta
    cases hsta
    exact h7
  · rw [hv]
    simp [preqRestarted, preqFrom]
  · unfold mpathExpired
    rw [hact, hfix, he]
    rfl

/-- An SN of 3 is a little older, on the same side. -/
theorem restart_right_older :
    ∃ (s : MeshState) (path : MeshPath), (∃ path', (s.hwmpRouteInfoGet .linux .linux (preqRestarted 3)
      routeLate).1.meshPaths.mem 0 = some path' ∧ RestartRight path path' (preqRestarted 3)) ↔
      ¬ Wraps path (preqRestarted 3) := by
  obtain ⟨s, path, hr, hp, hframe, hexpired, hsn, hfix, _⟩ := expired_path
  obtain ⟨hl, hd, hv⟩ := hframe 3
  exact ⟨s, path, restart_right_iff .linux .linux hr hl (.inl rfl) rfl hp hd hv (.inr hexpired) hsn hfix⟩

/-- An SN of 4294967295 is older than 5 by 6, and is taken for a restart. -/
theorem restart_wraps :
    ∃ (s : MeshState) (path path' : MeshPath), Runs.Reachable Initial (MeshStep .linux .linux) s ∧
      s.meshPaths.mem 0 = some path ∧ mpathExpired .linux routeLate.now path = true ∧ path.flags.snValid = true ∧
      path.flags.fixed = false ∧ path.sn = 5 ∧
      (s.hwmpRouteInfoGet .linux .linux (preqRestarted 4294967295) routeLate).1.meshPaths.mem 0 = some path' ∧
      path'.flags.active = true ∧ ¬ RestartRight path path' (preqRestarted 4294967295) := by
  obtain ⟨s, path, hr, hp, hframe, hexpired, hsn, hfix, hs⟩ := expired_path
  obtain ⟨hl, hd, hv⟩ := hframe 4294967295
  have hmem := routeInfo_mem (k := .linux) (h := .linux) (reachable_inv hr) routeLate (.inl rfl) rfl (hl 7 rfl) hp hd
  have hoff : (afterLookup .linux routeLate.now path).flags.active = false := afterLookup_inactive (.inr hexpired)
  obtain ⟨hvalid, hfixed⟩ := afterLookup_flags (k := .linux) routeLate.now path
  have htaken := (origFresh_inactive .linux 7 (newMetric (preqRestarted 4294967295).origMetric routeLate.lastHopMetric) hoff
    (hvalid.trans hsn) (hfixed.trans hfix) (preqRestarted 4294967295).origSn).mpr (by
      rw [(afterLookup_kept (k := .linux) routeLate.now path).sn, hs]
      decide)
  rw [if_neg hv, if_pos htaken] at hmem
  refine ⟨s, path, _, hr, hp, hexpired, hsn, hfix, hs, hmem, rfl, fun hright => ?_⟩
  have hfar := hright rfl
  rw [hs] at hfar
  revert hfar
  decide

end Mac80211.Mesh
