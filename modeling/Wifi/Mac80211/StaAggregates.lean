import Wifi.Lib.LeastOf

/-!
# Aggregation limits of a station with several links (`linux/net/mac80211/sta_info.c`)

* `staInfoAlloc`, `allocateLink`, `activateLink` — the links of a station; the first one is its `deflink`.
* `recalcAggregates` — `__ieee80211_sta_recalc_aggregates`, which goes through the active links.
* `Minimum` — a limit in use is the minimum over the active links.
* `recalc_minimum_iff` — exactly when it is: the first active link is passed over, and the `deflink` stands for it.
-/

namespace Mac80211.StaAggregates

def IEEE80211_NUM_TIDS : Nat := 16
def IEEE80211_MLD_MAX_NUM_LINKS : Nat := 15
def IEEE80211_MAX_MPDU_LEN_HT_BA : Nat := 4095

/-- **`struct ieee80211_sta_aggregates`.** -/
structure Aggregates where
  maxAmsduLen : Nat
  maxRcAmsduLen : Nat
  maxTidAmsduLen : Fin IEEE80211_NUM_TIDS → Nat

inductive Limit where
  | amsdu
  | rcAmsdu
  | tidAmsdu (i : Fin IEEE80211_NUM_TIDS)
  deriving DecidableEq

def Aggregates.get (agg : Aggregates) : Limit → Nat
  | .amsdu => agg.maxAmsduLen
  | .rcAmsdu => agg.maxRcAmsduLen
  | .tidAmsdu i => agg.maxTidAmsduLen i

/-- An `ieee80211_link_sta`: the one inside the station, or an allocated one. -/
inductive LinkSta where
  | deflink
  | alloc (i : Nat)
  deriving DecidableEq

/-- Where `sta->sta.cur` points to. -/
inductive CurPtr where
  | deflinkAgg
  | staCur
  deriving DecidableEq

/-- **What the recalculation reads and writes of a `struct sta_info`**: `agg` is the `agg` of each `ieee80211_link_sta`. -/
structure StaInfo where
  validLinks : BitVec 16
  mlo : Bool
  agg : LinkSta → Aggregates
  link : List (Option LinkSta)
  cur : Aggregates
  staCur : CurPtr

/-! ## The links of a station -/

def Aggregates.zero : Aggregates := { maxAmsduLen := 0, maxRcAmsduLen := 0, maxTidAmsduLen := fun _ => 0 }

/-- `kzalloc(sizeof(*sta) + …)` -/
def zeroSta : StaInfo :=
  { validLinks := 0
    mlo := false
    agg := fun _ => .zero
    link := List.replicate IEEE80211_MLD_MAX_NUM_LINKS none
    cur := .zero
    staCur := .deflinkAgg }

/-- Write the `agg` of one link. -/
def StaInfo.setAgg (sta : StaInfo) (linkSta : LinkSta) (agg : Aggregates) : StaInfo :=
  { sta with agg := Function.update sta.agg linkSta agg }

/-- **`sta_info_add_link`.** -/
def StaInfo.addLink (sta : StaInfo) (linkId : Nat) (linkSta : LinkSta) : StaInfo :=
  { sta with link := sta.link.set linkId (some linkSta) }.setAgg linkSta
    { sta.agg linkSta with maxRcAmsduLen := IEEE80211_MAX_MPDU_LEN_HT_BA }

/-- **`__sta_info_alloc`**: the `deflink` is the link with this id, or link 0 of a station that has no links. -/
def staInfoAlloc (linkId : Option Nat) : StaInfo :=
  match linkId with
  | some id => { zeroSta.addLink id .deflink with validLinks := BitVec.ofNat 16 (1 <<< id) }
  | none => zeroSta.addLink 0 .deflink

/-- **`ieee80211_sta_allocate_link`** with `kzalloc` returning the link `i`. -/
def StaInfo.allocateLink (sta : StaInfo) (linkId i : Nat) : StaInfo :=
  if sta.validLinks = 0 then sta
  else if sta.validLinks.getLsbD linkId || (sta.link[linkId]?.join).isSome then sta
  else (sta.setAgg (.alloc i) .zero).addLink linkId (.alloc i)

/-! ## The recalculation -/

/-- The `min` of each limit. -/
def Aggregates.min (cur agg : Aggregates) : Aggregates :=
  { maxAmsduLen := Min.min cur.maxAmsduLen agg.maxAmsduLen
    maxRcAmsduLen := Min.min cur.maxRcAmsduLen agg.maxRcAmsduLen
    maxTidAmsduLen := fun i => Min.min (cur.maxTidAmsduLen i) (agg.maxTidAmsduLen i) }

/-- **The loop over the links** from `link_id` on. -/
def StaInfo.recalcLoop (sta : StaInfo) (activeLinks : BitVec 16) :
    List (Option LinkSta) → Nat → Bool → Aggregates → Aggregates
  | [], _, _, cur => cur
  | link :: rest, linkId, first, cur =>
    if activeLinks.getLsbD linkId then
      match link with
      | none => sta.recalcLoop activeLinks rest (linkId + 1) first cur
      | some linkSta =>
        if first then sta.recalcLoop activeLinks rest (linkId + 1) false (sta.agg .deflink)
        else sta.recalcLoop activeLinks rest (linkId + 1) false (cur.min (sta.agg linkSta))
    else sta.recalcLoop activeLinks rest (linkId + 1) first cur

/-- **`__ieee80211_sta_recalc_aggregates`.** -/
def StaInfo.recalcAggregates (sta : StaInfo) (activeLinks : BitVec 16) : StaInfo :=
  if sta.validLinks = 0 ∨ sta.mlo = false then { sta with staCur := .deflinkAgg }
  else { sta with
    cur := sta.recalcLoop activeLinks sta.link 0 true sta.cur
    staCur := .staCur }

/-- **`ieee80211_sta_activate_link`**; the driver takes the link. -/
def StaInfo.activateLink (sta : StaInfo) (linkId : Nat) (activeLinks : BitVec 16) : StaInfo :=
  let newLinks := sta.validLinks ||| BitVec.ofNat 16 (1 <<< linkId)
  if sta.validLinks = newLinks ∨ (sta.link[linkId]?.join).isNone then sta
  else { sta with validLinks := newLinks }.recalcAggregates activeLinks

/-- `*sta->sta.cur` -/
def StaInfo.inUse (sta : StaInfo) : Aggregates :=
  match sta.staCur with
  | .deflinkAgg => sta.agg .deflink
  | .staCur => sta.cur

/-! ## What it should compute -/

/-- The link is active, and is a link of the station. -/
def StaInfo.Active (sta : StaInfo) (activeLinks : BitVec 16) (linkId : Nat) (linkSta : LinkSta) : Prop :=
  activeLinks.getLsbD linkId = true ∧ sta.link[linkId]? = some (some linkSta)

/-- **The limit in use is the minimum over exactly the active links.** -/
def Minimum (sta sta' : StaInfo) (activeLinks : BitVec 16) (limit : Limit) : Prop :=
  sta'.staCur = .staCur ∧ IsLeast {v | ∃ linkId linkSta, sta.Active activeLinks linkId linkSta ∧ v = (sta.agg linkSta).get limit}
    (sta'.cur.get limit)

def StaInfo.First (sta : StaInfo) (activeLinks : BitVec 16) (linkId : Nat) (linkSta : LinkSta) : Prop :=
  sta.Active activeLinks linkId linkSta ∧ ∀ id other, sta.Active activeLinks id other → linkId ≤ id

/-! ## The active links in order -/

def activeFrom (activeLinks : BitVec 16) : List (Option LinkSta) → Nat → List (Nat × LinkSta)
  | [], _ => []
  | link :: rest, linkId =>
    match link with
    | none => activeFrom activeLinks rest (linkId + 1)
    | some linkSta =>
      if activeLinks.getLsbD linkId then (linkId, linkSta) :: activeFrom activeLinks rest (linkId + 1)
      else activeFrom activeLinks rest (linkId + 1)

theorem mem_activeFrom {activeLinks : BitVec 16} {links : List (Option LinkSta)} {start id : Nat} {linkSta : LinkSta} :
    (id, linkSta) ∈ activeFrom activeLinks links start ↔
      start ≤ id ∧ activeLinks.getLsbD id = true ∧ links[id - start]? = some (some linkSta) := by
  induction links generalizing start with
  | nil => simp [activeFrom]
  | cons link rest ih =>
    have hrest : (id, linkSta) ∈ activeFrom activeLinks rest (start + 1) ↔ start < id ∧ activeLinks.getLsbD id = true ∧
        (link :: rest)[id - start]? = some (some linkSta) := by
      rw [ih]
      refine and_congr_right fun hlt => and_congr_right fun _ => ?_
      obtain ⟨d, rfl⟩ := Nat.exists_eq_add_of_lt hlt
      have hnext : start + d + 1 - start = d + 1 := by omega
      have hsame : start + d + 1 - (start + 1) = d := by omega
      rw [hnext, hsame, List.getElem?_cons_succ]
    have hhere : ∀ hle : start ≤ id, ¬ start < id → (link :: rest)[id - start]? = some link := fun hle hlt => by
      have hzero : id - start = 0 := by omega
      rw [hzero, List.getElem?_cons_zero]
    unfold activeFrom
    cases link with
    | none =>
      rw [hrest]
      refine ⟨fun ⟨hlt, hon, hat⟩ => ⟨hlt.le, hon, hat⟩, fun ⟨hle, hon, hat⟩ => ⟨?_, hon, hat⟩⟩
      by_contra hlt
      rw [hhere hle hlt] at hat
      cases hat
    | some first =>
      have hmem : (id, linkSta) = (start, first) ∨ (id, linkSta) ∈ activeFrom activeLinks rest (start + 1) ↔
          (id = start ∧ linkSta = first) ∨ (start < id ∧ activeLinks.getLsbD id = true ∧
            (some first :: rest)[id - start]? = some (some linkSta)) := by
        rw [hrest, Prod.mk.injEq]
      by_cases hon : activeLinks.getLsbD start = true
      · simp only [hon, if_true, List.mem_cons, hmem]
        constructor
        · rintro (⟨rfl, rfl⟩ | ⟨hlt, hid, hat⟩)
          · exact ⟨le_refl _, hon, by simp⟩
          · exact ⟨hlt.le, hid, hat⟩
        · rintro ⟨hle, hid, hat⟩
          by_cases hlt : start < id
          · exact .inr ⟨hlt, hid, hat⟩
          · rw [hhere hle hlt] at hat
            cases hat
            exact .inl ⟨by omega, rfl⟩
      · simp only [hon, Bool.false_eq_true, if_false]
        rw [hrest]
        refine ⟨fun ⟨hlt, hid, hat⟩ => ⟨hlt.le, hid, hat⟩, fun ⟨hle, hid, hat⟩ => ⟨?_, hid, hat⟩⟩
        by_contra hlt
        have hstart : id = start := by omega
        exact hon (hstart ▸ hid)

theorem activeFrom_head {activeLinks : BitVec 16} {links : List (Option LinkSta)} {start id : Nat} {linkSta : LinkSta}
    {rest : List (Nat × LinkSta)} (hactive : activeFrom activeLinks links start = (id, linkSta) :: rest) :
    ∀ p ∈ rest, id < p.1 := by
  induction links generalizing start with
  | nil => cases hactive
  | cons link links ih =>
    unfold activeFrom at hactive
    cases link with
    | none => exact ih hactive
    | some first =>
      by_cases hon : activeLinks.getLsbD start = true
      · simp only [hon, if_true, List.cons.injEq, Prod.mk.injEq] at hactive
        obtain ⟨⟨rfl, _⟩, rfl⟩ := hactive
        exact fun p hp => (mem_activeFrom.mp hp).1
      · simp only [hon, Bool.false_eq_true, if_false] at hactive
        exact ih hactive

/-! ## What the loop computes -/

theorem Aggregates.get_min (cur agg : Aggregates) (limit : Limit) :
    (cur.min agg).get limit = Min.min (cur.get limit) (agg.get limit) := by
  cases limit <;> rfl

/-- **After the first active link** each link takes part. -/
theorem recalcLoop_rest (sta : StaInfo) (activeLinks : BitVec 16) (links : List (Option LinkSta)) (linkId : Nat)
    (cur : Aggregates) (limit : Limit) :
    (sta.recalcLoop activeLinks links linkId false cur).get limit =
      ((activeFrom activeLinks links linkId).map fun p => (sta.agg p.2).get limit).foldl Min.min (cur.get limit) := by
  induction links generalizing linkId cur with
  | nil => rfl
  | cons link rest ih =>
    unfold StaInfo.recalcLoop activeFrom
    cases link with
    | none => simp [ih]
    | some linkSta =>
      by_cases hon : activeLinks.getLsbD linkId = true
      · simp [hon, ih, Aggregates.get_min]
      · simp [hon, ih]

/-- **The first active link** does not take part: the `deflink` is in its place. -/
theorem recalcLoop_first (sta : StaInfo) (activeLinks : BitVec 16) {links : List (Option LinkSta)} {linkId : Nat}
    {first : Nat × LinkSta} {rest : List (Nat × LinkSta)} (hactive : activeFrom activeLinks links linkId = first :: rest)
    (cur : Aggregates) (limit : Limit) :
    (sta.recalcLoop activeLinks links linkId true cur).get limit =
      (rest.map fun p => (sta.agg p.2).get limit).foldl Min.min ((sta.agg .deflink).get limit) := by
  induction links generalizing linkId cur with
  | nil => cases hactive
  | cons link links ih =>
    unfold activeFrom at hactive
    unfold StaInfo.recalcLoop
    cases link with
    | none => simpa using ih hactive cur
    | some linkSta =>
      by_cases hon : activeLinks.getLsbD linkId = true
      · simp only [hon, if_true, List.cons.injEq] at hactive ⊢
        rw [recalcLoop_rest, hactive.2]
      · simp only [hon, Bool.false_eq_true, if_false] at hactive ⊢
        exact ih hactive cur

/-! ## When the minimum is computed -/

theorem active_iff_mem {sta : StaInfo} {activeLinks : BitVec 16} {id : Nat} {linkSta : LinkSta} :
    sta.Active activeLinks id linkSta ↔ (id, linkSta) ∈ activeFrom activeLinks sta.link 0 := by
  rw [mem_activeFrom]
  exact ⟨fun h => ⟨Nat.zero_le _, h⟩, fun h => h.2⟩

/-- The condition: **passing over the first active link is made good**, because the limit of the `deflink` is the same, or
    another active link has a limit that is not above either. -/
def StaInfo.Covered (sta : StaInfo) (activeLinks : BitVec 16) (limit : Limit) : Prop :=
  ∀ id first, sta.First activeLinks id first → (sta.agg .deflink).get limit = (sta.agg first).get limit ∨
    ∃ other linkSta, sta.Active activeLinks other linkSta ∧ other ≠ id ∧
      (sta.agg linkSta).get limit ≤ (sta.agg .deflink).get limit ∧ (sta.agg linkSta).get limit ≤ (sta.agg first).get limit

/-- The active links as a list, with the first one at its head. -/
theorem active_split {sta : StaInfo} {activeLinks : BitVec 16} (hsome : ∃ id linkSta, sta.Active activeLinks id linkSta) :
    ∃ id first rest, activeFrom activeLinks sta.link 0 = (id, first) :: rest ∧ sta.First activeLinks id first ∧
      (∀ id' first', sta.First activeLinks id' first' → id' = id ∧ first' = first) ∧
      ∀ other linkSta, (other, linkSta) ∈ rest ↔ sta.Active activeLinks other linkSta ∧ other ≠ id := by
  obtain ⟨id', linkSta', hactive'⟩ := hsome
  rw [active_iff_mem] at hactive'
  cases hlist : activeFrom activeLinks sta.link 0 with
  | nil =>
    rw [hlist] at hactive'
    cases hactive'
  | cons p rest =>
    obtain ⟨id, first⟩ := p
    have hlater := activeFrom_head hlist
    have hmem : ∀ other linkSta, sta.Active activeLinks other linkSta ↔
        (other, linkSta) = (id, first) ∨ (other, linkSta) ∈ rest := fun other linkSta => by
      rw [active_iff_mem, hlist, List.mem_cons]
    have hfirst : sta.First activeLinks id first := by
      refine ⟨(hmem id first).mpr (.inl rfl), fun other linkSta hother => ?_⟩
      rcases (hmem other linkSta).mp hother with heq | hin
      · cases heq
        exact le_refl _
      · exact (hlater _ hin).le
    refine ⟨id, first, rest, rfl, hfirst, ?_, fun other linkSta => ?_⟩
    · rintro id'' first'' ⟨hactive, hleast⟩
      rcases (hmem id'' first'').mp hactive with heq | hin
      · cases heq
        exact ⟨rfl, rfl⟩
      · exact absurd (hleast _ _ hfirst.1) (hlater _ hin).not_ge
    · constructor
      · exact fun hin => ⟨(hmem other linkSta).mpr (.inr hin), (hlater _ hin).ne'⟩
      · rintro ⟨hactive, hne⟩
        rcases (hmem other linkSta).mp hactive with heq | hin
        · cases heq
          exact absurd rfl hne
        · exact hin

theorem minimum_iff_covered {sta : StaInfo} {activeLinks : BitVec 16} (hvalid : sta.validLinks ≠ 0) (hmlo : sta.mlo = true)
    (hsome : ∃ id linkSta, sta.Active activeLinks id linkSta) (limit : Limit) :
    Minimum sta (sta.recalcAggregates activeLinks) activeLinks limit ↔ sta.Covered activeLinks limit := by
  obtain ⟨id, first, rest, hlist, hfirst, huniq, hrest⟩ := active_split hsome
  have hskip : ¬ (sta.validLinks = 0 ∨ sta.mlo = false) := by
    rintro (hzero | hnot)
    · exact hvalid hzero
    · simp [hmlo] at hnot
  have hvalues : {v | ∃ id linkSta, sta.Active activeLinks id linkSta ∧ v = (sta.agg linkSta).get limit} =
      {v | v = (sta.agg first).get limit ∨ v ∈ rest.map fun p => (sta.agg p.2).get limit} := by
    ext v
    simp only [Set.mem_ofPred_eq, active_iff_mem, hlist, List.mem_map, List.mem_cons]
    constructor
    · rintro ⟨_, _, heq | hin, rfl⟩
      · cases heq
        exact .inl rfl
      · exact .inr ⟨_, hin, rfl⟩
    · rintro (rfl | ⟨p, hin, rfl⟩)
      · exact ⟨id, first, .inl rfl, rfl⟩
      · exact ⟨p.1, p.2, .inr hin, rfl⟩
  unfold Minimum StaInfo.recalcAggregates
  rw [if_neg hskip, hvalues]
  simp only [true_and]
  rw [recalcLoop_first sta activeLinks hlist, LeastOf.foldl_min_isLeast_iff]
  constructor
  · rintro (hsame | ⟨v, hv, hdef, hle⟩) id' first' hfirst'
    · obtain ⟨rfl, rfl⟩ := huniq _ _ hfirst'
      exact .inl hsame
    · obtain ⟨rfl, rfl⟩ := huniq _ _ hfirst'
      obtain ⟨p, hin, rfl⟩ := List.mem_map.mp hv
      obtain ⟨hactive, hne⟩ := (hrest p.1 p.2).mp hin
      exact .inr ⟨p.1, p.2, hactive, hne, hdef, hle⟩
  · intro hcovered
    refine (hcovered id first hfirst).imp_right ?_
    rintro ⟨other, linkSta, hactive, hne, hdef, hle⟩
    exact ⟨_, List.mem_map.mpr ⟨(other, linkSta), (hrest _ _).mpr ⟨hactive, hne⟩, rfl⟩, hdef, hle⟩

/-- **Each limit is the minimum over the active links, exactly when passing over the first of them is made good for each.** -/
theorem recalc_minimum_iff {sta : StaInfo} {activeLinks : BitVec 16} (hvalid : sta.validLinks ≠ 0) (hmlo : sta.mlo = true)
    (hsome : ∃ id linkSta, sta.Active activeLinks id linkSta) :
    (∀ limit, Minimum sta (sta.recalcAggregates activeLinks) activeLinks limit) ↔
      ∀ limit, sta.Covered activeLinks limit :=
  forall_congr' fun limit => minimum_iff_covered hvalid hmlo hsome limit

/-- A station with the `deflink` as link 0 and an allocated link 1, both valid. -/
def twoLinks (defRc rc : Nat) : StaInfo :=
  let sta := ((staInfoAlloc (some 0)).allocateLink 1 0).activateLink 1 1
  ({ sta with mlo := true }.setAgg .deflink { Aggregates.zero with maxRcAmsduLen := defRc }).setAgg (.alloc 0)
    { Aggregates.zero with maxRcAmsduLen := rc }

theorem twoLinks_active (defRc rc : Nat) : (twoLinks defRc rc).validLinks ≠ 0 ∧ (twoLinks defRc rc).mlo = true ∧
    ∀ activeLinks id linkSta, (twoLinks defRc rc).Active activeLinks id linkSta ↔ activeLinks.getLsbD id = true ∧
      ((id = 0 ∧ linkSta = .deflink) ∨ (id = 1 ∧ linkSta = .alloc 0)) := by
  have hlink : (twoLinks defRc rc).link =
      some .deflink :: some (.alloc 0) :: List.replicate 13 none := by
    rfl
  have hvalid : (twoLinks defRc rc).validLinks = 3 := by rfl
  refine ⟨by rw [hvalid]; decide, rfl, fun activeLinks id linkSta => and_congr_right fun _ => ?_⟩
  rw [hlink]
  match id with
  | 0 => simp [eq_comm]
  | 1 => simp [eq_comm]
  | n + 2 =>
    rw [List.getElem?_cons_succ, List.getElem?_cons_succ, List.getElem?_replicate]
    by_cases hlt : n < 13
    · simp [hlt]
    · simp [hlt]

/-- Both links are active. -/
theorem both_links_minimum : (∃ id linkSta, (twoLinks 3839 7935).Active 3 id linkSta) ∧
    ∀ limit, Minimum (twoLinks 3839 7935) ((twoLinks 3839 7935).recalcAggregates 3) 3 limit := by
  obtain ⟨hvalid, hmlo, hactive⟩ := twoLinks_active 3839 7935
  refine ⟨⟨0, .deflink, (hactive 3 0 .deflink).mpr ⟨rfl, .inl ⟨rfl, rfl⟩⟩⟩, ?_⟩
  refine (recalc_minimum_iff hvalid hmlo ⟨0, .deflink, (hactive 3 0 .deflink).mpr ⟨rfl, .inl ⟨rfl, rfl⟩⟩⟩).mpr ?_
  intro limit id first hfirst
  have hzero : id = 0 := Nat.le_zero.mp (hfirst.2 0 .deflink ((hactive 3 0 .deflink).mpr ⟨rfl, .inl ⟨rfl, rfl⟩⟩))
  rcases ((hactive 3 id first).mp hfirst.1).2 with ⟨_, rfl⟩ | ⟨hone, _⟩
  · exact .inl rfl
  · omega

/-- **Only link 1 is active**, and its limit is 3839: the limit in use is the one of the `deflink`. -/
theorem deflink_not_active : (∃ id linkSta, (twoLinks 7935 3839).Active 2 id linkSta) ∧
    (twoLinks 7935 3839).validLinks ≠ 0 ∧ (twoLinks 7935 3839).mlo = true ∧
    ((twoLinks 7935 3839).recalcAggregates 2).inUse.maxRcAmsduLen = 7935 ∧
    ¬ Minimum (twoLinks 7935 3839) ((twoLinks 7935 3839).recalcAggregates 2) 2 .rcAmsdu := by
  obtain ⟨hvalid, hmlo, hactive⟩ := twoLinks_active 7935 3839
  have hone : (twoLinks 7935 3839).Active 2 1 (.alloc 0) := (hactive 2 1 (.alloc 0)).mpr ⟨rfl, .inr ⟨rfl, rfl⟩⟩
  refine ⟨⟨1, .alloc 0, hone⟩, hvalid, hmlo, rfl, fun hmin => ?_⟩
  have hle : 7935 ≤ 3839 := hmin.2.2 ⟨1, .alloc 0, hone, rfl⟩
  omega

end Mac80211.StaAggregates
