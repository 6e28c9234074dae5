import Wifi.Mac80211.Chanctx.Ops
import Wifi.Wireless.ChanJoin

/-!
# Reservations on a context that exists (`linux/net/mac80211/chan.c`)

* `reservedReqs`, `nonReservedReqs` — the requests of the links that `ieee80211_chanctx_can_reserve` looks at.
* `GoesTogether` — a request and those of a list: each is compatible with the widest of the ones before it, and the APs agree.
* `reserved_iff`, `nonReserved_iff` — the two folds are defined exactly then.
* `Reuses` — a context that can take a request is used for it; `reservation_reuse_iff` — exactly when somebody has
  already reserved it.
-/

namespace Mac80211.Chanctx.Reserve

open Wireless.Chan ChainJoin

variable (cfg : Config) (s : Local)

/-- The requests of the links that are reserved on a context. -/
def reservedReqs (i : Nat) : List ChanReq := (s.mem i).reservedLinks.map fun l => (s.link l).reserved

/-- The requests of the links that are assigned to a context, and have no reservation. -/
def nonReservedReqs (i : Nat) : List ChanReq :=
  ((s.mem i).assignedLinks.filter fun l => (s.link l).reservedChanctx.isNone).map fun l => (s.link l).chanreq

/-- The AP is not given, or both are the same. -/
def ApWithin (a b : ChanDef) : Prop := a.chan = none ∨ cfg.hd.identical a b = true

/-- **A request goes together with those of a list**: each is within the widest one before it, or wider, and all name the same AP. -/
def GoesTogether (req : ChanReq) (reqs : List ChanReq) : Prop :=
  Nested (Within cfg.hd) req.oper (reqs.map ChanReq.oper) ∧ Chain (ApWithin cfg) (req.ap :: reqs.map ChanReq.ap)

/-- A context of the list, in shared mode, that will not be replaced. -/
def Shared (i : Nat) : Prop := i ∈ s.list ∧ (s.mem i).mode = .shared ∧ (s.mem i).replaceState ≠ .willBeReplaced

/-- **The context can take the request**, with all links reserved on it and all assigned links that stay. -/
def CanTake (req : ChanReq) (i : Nat) : Prop :=
  GoesTogether cfg req (reservedReqs s i) ∧ GoesTogether cfg req (nonReservedReqs s i)

/-- The request is compatible with each of these links. -/
def CompatibleWithEach (req : ChanReq) (i : Nat) : Prop :=
  ∀ r ∈ reservedReqs s i ++ nonReservedReqs s i, (chanreqCompatible cfg r req).isSome = true

/-- The requests of the links reserved on a context are compatible with each other, and so are those of the assigned links that
    stay. -/
def Consistent (i : Nat) : Prop :=
  (∀ a ∈ reservedReqs s i, ∀ b ∈ reservedReqs s i, (chanreqCompatible cfg a b).isSome = true) ∧
    ∀ a ∈ nonReservedReqs s i, ∀ b ∈ nonReservedReqs s i, (chanreqCompatible cfg a b).isSome = true

/-- **Contexts that can take a request are reused for it**: `ieee80211_chanctx_can_reserve` says so, and
    `ieee80211_link_reserve_chanctx` uses one of the shared contexts that exist, unless the driver cannot switch. -/
def Reuses (req : ChanReq) (takes : Nat → Prop) : Prop :=
  (∀ i, Shared s i → takes i → canReserve cfg s i req = true) ∧
    ∀ env l radarRequired, (∃ i, Shared s i ∧ takes i) →
      ((s.link l).chanctxConf.isSome && !cfg.hasSwitchVifChanctx) = true ∨
        ∃ i, Shared s i ∧ reserve cfg env l req .shared radarRequired s = (0, hold l i req radarRequired s)

/-! ## The order of the APs -/

def apJoin (a b : ChanDef) : Option ChanDef :=
  if a.chan ≠ none && b.chan ≠ none && !cfg.hd.identical a b then none else some (if a.chan ≠ none then a else b)

variable {cfg}

theorem apJoin_joins (hid : cfg.hd.Identical) : Joins (ApWithin cfg) (apJoin cfg) where
  refl a := .inr (hid.refl a)
  trans := by
    rintro a b c (ha | hab) (hb | hbc)
    · exact .inl ha
    · exact .inl ha
    · exact .inl ((hid.fields a b hab).1.trans hb)
    · exact .inr (hid.trans a b c hab hbc)
  upper := by
    intro a b r h
    unfold apJoin at h
    by_cases ha : a.chan = none
    · simp only [ha, ne_eq, not_true_eq_false, decide_false, Bool.false_and, Bool.false_eq_true, if_false] at h
      cases h
      exact ⟨.inr rfl, .inl ha, .inr (hid.refl _)⟩
    · by_cases hb : b.chan = none
      · simp only [ha, hb, ne_eq, not_false_eq_true, decide_true, not_true_eq_false, decide_false, Bool.and_false,
          Bool.false_and, Bool.false_eq_true, if_false, if_true] at h
        cases h
        exact ⟨.inl rfl, .inr (hid.refl _), .inl hb⟩
      · cases hsame : cfg.hd.identical a b with
        | true =>
          simp only [ha, hb, hsame, ne_eq, not_false_eq_true, decide_true, Bool.not_true, Bool.and_false, Bool.false_eq_true,
            if_false, if_true] at h
          cases h
          exact ⟨.inl rfl, .inr (hid.refl _), .inr (hid.symm _ _ hsame)⟩
        | false => simp [ha, hb, hsame] at h
  undefined := by
    intro a b h
    unfold apJoin at h
    split_ifs at h with hdiffer
    simp only [Bool.and_eq_true, decide_eq_true_eq, ne_eq, Bool.not_eq_true'] at hdiffer
    obtain ⟨⟨ha, hb⟩, hsame⟩ := hdiffer
    rintro ((hnone | heq) | (hnone | heq))
    · exact ha hnone
    · rw [hsame] at heq
      cases heq
    · exact hb hnone
    · rw [hid.symm _ _ heq] at hsame
      cases hsame

theorem apJoin_chain_iff (hid : cfg.hd.Identical) (x : ChanDef) (xs : List ChanDef) :
    (joinAll (apJoin cfg) x xs).isSome = true ↔ Chain (ApWithin cfg) (x :: xs) := by
  refine ((independent_iff (apJoin_joins hid) x xs).mpr fun r _ hup a ha b hb => ?_).2
  rcases hup a ha with hnone | har
  · exact .inl (.inl hnone)
  · rcases hup b hb with hnone | hbr
    · exact .inr (.inl hnone)
    · exact .inl (.inr (hid.trans _ _ _ har (hid.symm _ _ hbr)))

/-! ## The folds -/

theorem chanreqCompatible_eq (a b : ChanReq) : chanreqCompatible cfg a b =
    (apJoin cfg a.ap b.ap).bind fun ap => (compatible cfg.hd a.oper b.oper).map fun oper => { oper := oper, ap := ap } := by
  unfold chanreqCompatible apJoin
  split_ifs <;> rfl

theorem chanreqCompatible_isSome (hid : cfg.hd.Identical) (a b : ChanReq) : (chanreqCompatible cfg a b).isSome = true ↔
    Comparable (Within cfg.hd) a.oper b.oper ∧ Comparable (ApWithin cfg) a.ap b.ap := by
  rw [chanreqCompatible_eq, ← compatible_isSome hid]
  have hap : (apJoin cfg a.ap b.ap).isSome = true ↔ Comparable (ApWithin cfg) a.ap b.ap := by
    cases hj : apJoin cfg a.ap b.ap with
    | none => exact ⟨nofun, fun h => absurd h ((apJoin_joins hid).undefined hj)⟩
    | some r =>
      obtain ⟨hr, ha, hb⟩ := (apJoin_joins hid).upper hj
      refine ⟨fun _ => ?_, fun _ => rfl⟩
      rcases hr with rfl | rfl
      · exact .inr hb
      · exact .inl ha
  rw [← hap]
  cases apJoin cfg a.ap b.ap <;> cases compatible cfg.hd a.oper b.oper <;> simp

/-- **A fold over requests** is one over their operating chandefs, and one over their APs. -/
theorem fold_isSome (req : ChanReq) (reqs : List ChanReq) :
    (reqs.foldlM (fun acc r => chanreqCompatible cfg r acc) req).isSome = true ↔
      (joinAll (compatible cfg.hd) req.oper (reqs.map ChanReq.oper)).isSome = true ∧
        (joinAll (apJoin cfg) req.ap (reqs.map ChanReq.ap)).isSome = true := by
  induction reqs generalizing req with
  | nil => exact iff_of_true rfl ⟨rfl, rfl⟩
  | cons r reqs ih =>
    rw [List.foldlM_cons, chanreqCompatible_eq, List.map_cons, List.map_cons, joinAll, joinAll]
    cases apJoin cfg r.ap req.ap with
    | none => exact iff_of_false Bool.false_ne_true fun h => Bool.false_ne_true h.2
    | some ap =>
      cases compatible cfg.hd r.oper req.oper with
      | none => exact iff_of_false Bool.false_ne_true fun h => Bool.false_ne_true h.1
      | some oper => exact ih { oper := oper, ap := ap }

theorem goesTogether_iff (hid : cfg.hd.Identical) (req : ChanReq) (reqs : List ChanReq) :
    (reqs.foldlM (fun acc r => chanreqCompatible cfg r acc) req).isSome = true ↔ GoesTogether cfg req reqs := by
  rw [fold_isSome, joinAll_nested_iff (compatible_joins hid), apJoin_chain_iff hid]
  rfl

variable {s}

theorem reserved_iff (hid : cfg.hd.Identical) (i : Nat) (req : ChanReq) :
    (reservedChanreq cfg s i req).isSome = true ↔ GoesTogether cfg req (reservedReqs s i) := by
  rw [← goesTogether_iff hid, reservedReqs, List.foldlM_map]
  rfl

theorem nonReserved_iff (hid : cfg.hd.Identical) (i : Nat) (req : ChanReq) :
    (nonReservedChandef cfg s i req).isSome = true ↔ GoesTogether cfg req (nonReservedReqs s i) := by
  rw [← goesTogether_iff hid, nonReservedReqs, List.foldlM_map]
  unfold nonReservedChandef
  have hskip : ∀ (ls : List Nat) (acc : ChanReq),
      ls.foldlM (fun compDef l => if (s.link l).reservedChanctx.isSome then some compDef
        else chanreqCompatible cfg (s.link l).chanreq compDef) acc =
      (ls.filter fun l => (s.link l).reservedChanctx.isNone).foldlM
        (fun acc l => chanreqCompatible cfg (s.link l).chanreq acc) acc := by
    intro ls
    induction ls with
    | nil => exact fun _ => rfl
    | cons l ls ih =>
      intro acc
      rw [List.foldlM_cons]
      cases hres : (s.link l).reservedChanctx with
      | none =>
        rw [List.filter_cons_of_pos (by rw [hres]; rfl), List.foldlM_cons]
        exact bind_congr ih
      | some j =>
        rw [List.filter_cons_of_neg (by rw [hres]; exact Bool.false_ne_true)]
        exact ih acc
  rw [hskip]

/-- **When `ieee80211_chanctx_can_reserve` says yes**: the context can take the request, and somebody has reserved it. -/
theorem canReserve_iff (hid : cfg.hd.Identical) (i : Nat) (req : ChanReq) :
    canReserve cfg s i req = true ↔ CanTake cfg s req i ∧ (s.mem i).reservedLinks ≠ [] := by
  unfold canReserve CanTake
  rw [← reserved_iff hid, ← nonReserved_iff hid]
  simp only [Bool.and_eq_true, decide_eq_true_eq]
  tauto

/-! ## Reuse -/

theorem findReservationChanctx_isSome {i : Nat} {req : ChanReq} (hi : Shared s i) (hcan : canReserve cfg s i req = true) :
    ∃ j, Shared s j ∧ findReservationChanctx cfg s req .shared = some j := by
  have hfound : (findReservationChanctx cfg s req .shared).isSome = true := by
    unfold findReservationChanctx
    rw [if_neg (by simp), List.find?_isSome]
    exact ⟨i, hi.1, by simp [hi.2.1, hi.2.2, hcan]⟩
  obtain ⟨j, hj⟩ := Option.isSome_iff_exists.mp hfound
  refine ⟨j, ?_, hj⟩
  unfold findReservationChanctx at hj
  rw [if_neg (by simp)] at hj
  have htest := List.find?_some hj
  simp only [Bool.and_eq_true, decide_eq_true_eq] at htest
  refine ⟨List.mem_of_find?_eq_some hj, ?_, htest.1.1⟩
  cases hmode : (s.mem j).mode with
  | shared => rfl
  | exclusive => exact absurd hmode htest.1.2

/-- **`ieee80211_link_reserve_chanctx`**, when some context can be reserved. -/
theorem reserve_existing {i : Nat} {req : ChanReq} (hi : Shared s i) (hcan : canReserve cfg s i req = true) (env : Env) (l : Nat)
    (radarRequired : Bool) (hswitch : ¬ ((s.link l).chanctxConf.isSome && !cfg.hasSwitchVifChanctx) = true) :
    ∃ j, Shared s j ∧ reserve cfg env l req .shared radarRequired s = (0, hold l j req radarRequired s) := by
  obtain ⟨j, hj, hfound⟩ := findReservationChanctx_isSome hi hcan
  refine ⟨j, hj, ?_⟩
  unfold reserve
  rw [if_neg hswitch, hfound]

theorem reuses_iff (hid : cfg.hd.Identical) {req : ChanReq} {takes : Nat → Prop}
    (htakes : ∀ i, Shared s i → takes i → CanTake cfg s req i) :
    Reuses cfg s req takes ↔ ∀ i, Shared s i → takes i → (s.mem i).reservedLinks ≠ [] := by
  constructor
  · rintro ⟨hcan, _⟩ i hi ht
    exact ((canReserve_iff hid i req).mp (hcan i hi ht)).2
  · intro hreserved
    have hcan : ∀ i, Shared s i → takes i → canReserve cfg s i req = true := fun i hi ht =>
      (canReserve_iff hid i req).mpr ⟨htakes i hi ht, hreserved i hi ht⟩
    refine ⟨hcan, ?_⟩
    rintro env l radarRequired ⟨i, hi, ht⟩
    by_cases hswitch : ((s.link l).chanctxConf.isSome && !cfg.hasSwitchVifChanctx) = true
    · exact .inl hswitch
    · exact .inr (reserve_existing hi (hcan i hi ht) env l radarRequired hswitch)

/-- Requests that are compatible with each other go together in each order. -/
theorem goesTogether_of_pairs (hid : cfg.hd.Identical) {req : ChanReq} {reqs : List ChanReq}
    (hpairs : ∀ a ∈ reqs, ∀ b ∈ reqs, (chanreqCompatible cfg a b).isSome = true)
    (heach : ∀ r ∈ reqs, (chanreqCompatible cfg r req).isSome = true) : GoesTogether cfg req reqs := by
  have hall : ∀ a ∈ req :: reqs, ∀ b ∈ req :: reqs,
      Comparable (Within cfg.hd) a.oper b.oper ∧ Comparable (ApWithin cfg) a.ap b.ap := by
    intro a ha b hb
    rcases List.mem_cons.mp ha with rfl | hain
    · rcases List.mem_cons.mp hb with rfl | hbin
      · exact ⟨.inl ((compatible_joins hid).refl _), .inl ((apJoin_joins hid).refl _)⟩
      · exact ((chanreqCompatible_isSome hid _ _).mp (heach b hbin)).imp Or.symm Or.symm
    · rcases List.mem_cons.mp hb with rfl | hbin
      · exact (chanreqCompatible_isSome hid _ _).mp (heach a hain)
      · exact (chanreqCompatible_isSome hid _ _).mp (hpairs a hain b hbin)
  constructor
  · refine (joinAll_nested_iff (compatible_joins hid) _ _).mp (joinAll_chain (compatible_joins hid) ?_)
    rw [← List.map_cons]
    rintro x hx y hy
    obtain ⟨a, ha, rfl⟩ := List.mem_map.mp hx
    obtain ⟨b, hb, rfl⟩ := List.mem_map.mp hy
    exact (hall a ha b hb).1
  · rw [← List.map_cons]
    rintro x hx y hy
    obtain ⟨a, ha, rfl⟩ := List.mem_map.mp hx
    obtain ⟨b, hb, rfl⟩ := List.mem_map.mp hy
    exact (hall a ha b hb).2

theorem canTake_of_consistent (hid : cfg.hd.Identical) {req : ChanReq} {i : Nat} (hcons : Consistent cfg s i)
    (heach : CompatibleWithEach cfg s req i) : CanTake cfg s req i :=
  ⟨goesTogether_of_pairs hid hcons.1 fun r hr => heach r (List.mem_append_left _ hr),
    goesTogether_of_pairs hid hcons.2 fun r hr => heach r (List.mem_append_right _ hr)⟩

/-- **Contexts that can take a request are reused for it, exactly when each of them is already reserved**; and where the links of
    a context are compatible with each other, contexts whose links are all compatible with the request. -/
theorem reservation_reuse_iff (hid : cfg.hd.Identical) (s : Local) (req : ChanReq) :
    (Reuses cfg s req (CanTake cfg s req) ↔ ∀ i, Shared s i → CanTake cfg s req i → (s.mem i).reservedLinks ≠ []) ∧
      ((∀ i, Shared s i → Consistent cfg s i) → (Reuses cfg s req (CompatibleWithEach cfg s req) ↔
        ∀ i, Shared s i → CompatibleWithEach cfg s req i → (s.mem i).reservedLinks ≠ [])) :=
  ⟨reuses_iff hid fun _ _ ht => ht, fun hcons => reuses_iff hid fun i hi ht => canTake_of_consistent hid (hcons i hi) ht⟩

/-! ## An access point on channel 36 -/

def apConfig : Config where
  hd := Header.plain
  iftype _ := .ap
  hasSwitchVifChanctx := true

def quietEnv : Env where
  links := [0, 1]
  monitor := none
  maxRequiredBw _ := .w20
  tdls := []
  active _ := true
  maxNumChannels := 2
  noMemory := false
  noMemorySwitch := false
  dfsRequired _ := 0
  checkCombinations := 0
  usable _ := true
  addChanctx _ := 0
  assignVif _ _ := 0
  switchVif _ := 0

def idleLink : Link where
  chanctxConf := none
  reservedChanctx := none
  chanreq := ⟨noChandef, noChandef⟩
  reserved := ⟨noChandef, noChandef⟩
  reservedReady := false
  radarRequired := false
  reservedRadarRequired := false

def emptyLocal : Local where
  mem _ :=
    { mode := .shared, replaceState := .none, replaceCtx := none, chandef := noChandef, ap := noChandef, minDef := noChandef
      radarEnabled := false, assignedLinks := [], reservedLinks := [] }
  list := []
  link _ := idleLink
  next := 0

def request80 : ChanReq := ⟨chandef36 .w80 5210 0, noChandef⟩

def oneLink : Local := (useChannel apConfig quietEnv 0 request80 .shared emptyLocal).2

theorem oneLink_list : oneLink.list = [0] ∧ (oneLink.mem 0).mode = .shared ∧ (oneLink.mem 0).replaceState = .none := by decide

/-- Another link has reserved the context. -/
theorem reused_when_reserved : Reuses apConfig (hold 1 0 request80 false oneLink) request80
    (CanTake apConfig (hold 1 0 request80 false oneLink) request80) := by
  refine (reservation_reuse_iff Header.plain_identical _ _).1.mpr fun i hi _ => ?_
  have hin : i ∈ oneLink.list := hi.1
  rw [oneLink_list.1, List.mem_singleton] at hin
  rw [hin]
  decide

/-- **The context of the access point, for its own chandef**: nobody has reserved it, and the request gets a new context. -/
theorem unreserved_not_reused : Shared oneLink 0 ∧ (oneLink.mem 0).chandef = request80.oper ∧
    CanTake apConfig oneLink request80 0 ∧ CompatibleWithEach apConfig oneLink request80 0 ∧
    canReserve apConfig oneLink 0 request80 = false ∧
    (reserve apConfig quietEnv 1 request80 .shared false oneLink).2.list = [1, 0] ∧
    ¬ Reuses apConfig oneLink request80 (CanTake apConfig oneLink request80) ∧
    ¬ Reuses apConfig oneLink request80 (CompatibleWithEach apConfig oneLink request80) := by
  have hshared : Shared oneLink 0 := by
    obtain ⟨hlist, hmode, hstate⟩ := oneLink_list
    refine ⟨?_, hmode, ?_⟩
    · rw [hlist]
      exact List.mem_singleton_self 0
    · rw [hstate]
      simp
  have htake : CanTake apConfig oneLink request80 0 :=
    ⟨(reserved_iff Header.plain_identical 0 request80).mp (by decide),
      (nonReserved_iff Header.plain_identical 0 request80).mp (by decide)⟩
  have heach : CompatibleWithEach apConfig oneLink request80 0 := by
    unfold CompatibleWithEach
    decide
  have hno : canReserve apConfig oneLink 0 request80 = false := by decide
  refine ⟨hshared, by decide, htake, heach, hno, by decide, fun h => ?_, fun h => ?_⟩
  · have hyes := h.1 0 hshared htake
    rw [hno] at hyes
    cases hyes
  · have hyes := h.1 0 hshared heach
    rw [hno] at hyes
    cases hyes

end Mac80211.Chanctx.Reserve
