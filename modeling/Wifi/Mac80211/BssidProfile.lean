import Mathlib.Data.List.Induction
import Wifi.Linux.Ieee80211
import Wifi.Wireless.MergeProfile

/-!
# The profile of a nontransmitted BSS (`linux/net/mac80211/parse.c`)

* `ieee80211FindBssidProfile` — `ieee802_11_find_bssid_profile`; `cfg80211_gen_new_bssid` is an inline function of
  `<net/cfg80211.h>`, which is not in the tree, and a parameter here.
* `Profile`, `allProfiles` — the profiles of a buffer; `lookedAt` — those that the search looks at.
* `find_spec` — the search in terms of these; `profile_kept_iff` — which profile it leaves.
-/

namespace Mac80211.Parse

open Wireless

/-! ## The function -/

def WLAN_EID_MULTI_BSSID_IDX : Byte := 85

/-- `struct cfg80211_bss`: `bssid`, and that of `transmitted_bss`. -/
structure Bss where
  bssid : EthAddr
  transmittedBss : Option EthAddr
  deriving DecidableEq

/-- What is written of `struct ieee802_11_elems`; a pointer is an offset in `nontransmitted_profile`. -/
structure Elems where
  bssidIndex : Option Nat
  bssidIndexLen : Byte
  deriving DecidableEq

/-- The local variables, and what the function writes. -/
structure Search where
  nontransmittedProfile : List Byte
  profileLen : Nat
  found : Bool
  elems : Elems
  deriving DecidableEq

variable (api : ElementApi) (cfg80211GenNewBssid : EthAddr → Byte → Byte → EthAddr)

/-- The valid Multiple BSSID Index element of a profile. -/
def findIndex (profile : List Byte) (profileLen : Nat) : Option (Nat × Element) :=
  match cfg80211FindElemMatch api WLAN_EID_MULTI_BSSID_IDX (profile.take profileLen) [] 0 with
  | none => none
  | some (off, index) => if index.datalen < 1 ∨ index.data.getD 0 0 = 0 then none else some (off, index)

/-- What the inner loop does with a profile; it ends with the one that is searched. -/
def visitProfile (start : List Byte) (bssid transmitted : EthAddr) (elem sub : Nat × Element) (s : Search) :
    Search × Bool :=
  let merged := mergedProfile api start elem sub start.length
  let s := { s with
    nontransmittedProfile := merged ++ List.replicate (start.length - merged.length) 0, profileLen := merged.length }
  match findIndex api s.nontransmittedProfile s.profileLen with
  | none => (s, false)
  | some (off, index) =>
    if cfg80211GenNewBssid transmitted (elem.2.data.getD 0 0) (index.data.getD 0 0) = bssid then
      ({ s with
        found := true
        elems := { bssidIndex := some (off + 2), bssidIndexLen := BitVec.ofNat 8 index.datalen } }, true)
    else (s, false)

def isProfile (sub : Element) : Bool :=
  decide (sub.id = 0) && decide (4 ≤ sub.datalen) &&
    (decide (sub.data.getD 0 0 = WLAN_EID_NON_TX_BSSID_CAP) && decide (sub.data.getD 1 0 = 2))

def subLoop (start : List Byte) (bssid transmitted : EthAddr) (elem : Nat × Element) :
    List (Nat × Element) → Search → Search
  | [], s => s
  | sub :: subs, s =>
    if isProfile sub.2 then
      match visitProfile api cfg80211GenNewBssid start bssid transmitted elem sub s with
      | (s, true) => s -- break
      | (s, false) => subLoop start bssid transmitted elem subs s
    else subLoop start bssid transmitted elem subs s

/-- The subelements of a Multiple BSSID element. -/
def subelements (elem : Nat × Element) : List (Nat × Element) :=
  (api.forEachElementAt (elem.2.data.drop 1)).map fun p => (elem.1 + 3 + p.1, p.2)

/-- A Multiple BSSID element that is looked at. -/
def isMbssid (elem : Element) : Bool :=
  decide (elem.id = WLAN_EID_MULTIPLE_BSSID) && decide (2 ≤ elem.datalen) &&
    (decide (1 ≤ (elem.data.getD 0 0).toNat) && decide ((elem.data.getD 0 0).toNat ≤ 8))

def elemLoop (start : List Byte) (bssid transmitted : EthAddr) : List (Nat × Element) → Search → Search
  | [], s => s
  | elem :: elems, s =>
    if isMbssid elem.2 then
      elemLoop start bssid transmitted elems
        (subLoop api cfg80211GenNewBssid start bssid transmitted elem (subelements api elem) s)
    else elemLoop start bssid transmitted elems s

/-- `ieee802_11_find_bssid_profile`: what it returns, and what it has written. -/
def ieee80211FindBssidProfile (start : List Byte) (elems : Elems) (bss : Option Bss)
    (nontransmittedProfile : List Byte) : Nat × Elems × List Byte :=
  match bss.bind fun bss => bss.transmittedBss.map fun transmitted => (bss.bssid, transmitted) with
  | none => (0, elems, nontransmittedProfile)
  | some (bssid, transmitted) =>
    let s := elemLoop api cfg80211GenNewBssid start bssid transmitted (api.forEachElementAt start)
      { nontransmittedProfile := nontransmittedProfile, profileLen := 0, found := false, elems := elems }
    (if s.found then s.profileLen else 0, s.elems, s.nontransmittedProfile)

/-! ## Profiles -/

/-- A profile of the buffer: its MaxBSSID indicator, and its bytes when they are merged. -/
structure Profile where
  indicator : Byte
  bytes : List Byte
  deriving DecidableEq

/-- The profiles of a Multiple BSSID element. -/
def profilesOf (start : List Byte) (elem : Nat × Element) : List Profile :=
  if isMbssid elem.2 then
    ((subelements api elem).filter fun sub => isProfile sub.2).map fun sub =>
      { indicator := elem.2.data.getD 0 0, bytes := mergedProfile api start elem sub start.length }
  else []

def allProfiles (start : List Byte) : List Profile := (api.forEachElementAt start).flatMap (profilesOf api start)

/-- Where the Multiple BSSID Index element of the profile is, if it derives `bssid`. -/
def Profile.matchAt (bssid transmitted : EthAddr) (p : Profile) : Option (Nat × Element) :=
  (findIndex api p.bytes p.bytes.length).filter fun index =>
    decide (cfg80211GenNewBssid transmitted p.indicator (index.2.data.getD 0 0) = bssid)

/-- A list up to its first element with a result. -/
def upTo {α β : Type} (f : α → Option β) : List α → List α
  | [] => []
  | a :: as => if (f a).isSome then [a] else a :: upTo f as

/-- The profiles that are looked at: in each element up to the first that matches. -/
def lookedAt (bssid transmitted : EthAddr) (start : List Byte) : List Profile :=
  (api.forEachElementAt start).flatMap fun elem =>
    upTo (Profile.matchAt api cfg80211GenNewBssid bssid transmitted) (profilesOf api start elem)

/-! ## The search -/

/-- What the search is after a profile, in a buffer of `len` bytes. -/
def Search.look (bssid transmitted : EthAddr) (len : Nat) (s : Search) (p : Profile) : Search where
  nontransmittedProfile := p.bytes ++ List.replicate (len - p.bytes.length) 0
  profileLen := p.bytes.length
  found := s.found || (p.matchAt api cfg80211GenNewBssid bssid transmitted).isSome
  elems :=
    match p.matchAt api cfg80211GenNewBssid bssid transmitted with
    | none => s.elems
    | some (off, index) => { bssidIndex := some (off + 2), bssidIndexLen := BitVec.ofNat 8 index.datalen }

variable {api cfg80211GenNewBssid} {start : List Byte} {bssid transmitted : EthAddr}

theorem visitProfile_eq (elem sub : Nat × Element) (s : Search) (p : Profile)
    (hp : p = { indicator := elem.2.data.getD 0 0, bytes := mergedProfile api start elem sub start.length }) :
    visitProfile api cfg80211GenNewBssid start bssid transmitted elem sub s =
      (s.look api cfg80211GenNewBssid bssid transmitted start.length p,
        (p.matchAt api cfg80211GenNewBssid bssid transmitted).isSome) := by
  have hfind : ∀ n, findIndex api (p.bytes ++ List.replicate n 0) p.bytes.length =
      findIndex api p.bytes p.bytes.length := by
    intro n
    unfold findIndex
    rw [List.take_left, List.take_length]
  unfold visitProfile Search.look Profile.matchAt
  subst hp
  dsimp only at hfind ⊢
  rw [hfind]
  cases findIndex api (mergedProfile api start elem sub start.length)
      (mergedProfile api start elem sub start.length).length with
  | none => simp
  | some index =>
    dsimp only
    by_cases hm : cfg80211GenNewBssid transmitted (elem.2.data.getD 0 0) (index.2.data.getD 0 0) = bssid
    · rw [Option.filter_some, if_pos hm, if_pos (decide_eq_true hm)]
      simp
    · rw [Option.filter_some, if_neg hm, if_neg (Bool.eq_false_iff.mp (decide_eq_false hm))]
      simp

theorem subLoop_eq (elem : Nat × Element) : ∀ (subs : List (Nat × Element)) (s : Search),
    subLoop api cfg80211GenNewBssid start bssid transmitted elem subs s =
      (upTo (Profile.matchAt api cfg80211GenNewBssid bssid transmitted)
        ((subs.filter fun sub => isProfile sub.2).map fun sub =>
          { indicator := elem.2.data.getD 0 0, bytes := mergedProfile api start elem sub start.length })).foldl
        (Search.look api cfg80211GenNewBssid bssid transmitted start.length) s := by
  intro subs
  induction subs with
  | nil => exact fun _ => rfl
  | cons sub subs ih =>
    intro s
    rw [subLoop]
    by_cases hp : isProfile sub.2 = true
    · rw [if_pos hp, List.filter_cons, if_pos hp, List.map_cons, upTo, visitProfile_eq elem sub s _ rfl]
      cases (Profile.matchAt api cfg80211GenNewBssid bssid transmitted
          { indicator := elem.2.data.getD 0 0, bytes := mergedProfile api start elem sub start.length }).isSome with
      | true => rfl
      | false => exact ih _
    · rw [if_neg hp, List.filter_cons, if_neg hp]
      exact ih s

/-- **The search goes through the profiles that are looked at.** -/
theorem elemLoop_eq : ∀ (elems : List (Nat × Element)) (s : Search),
    elemLoop api cfg80211GenNewBssid start bssid transmitted elems s =
      (elems.flatMap fun elem => upTo (Profile.matchAt api cfg80211GenNewBssid bssid transmitted)
        (profilesOf api start elem)).foldl (Search.look api cfg80211GenNewBssid bssid transmitted start.length) s := by
  intro elems
  induction elems with
  | nil => exact fun _ => rfl
  | cons elem elems ih =>
    intro s
    rw [elemLoop, List.flatMap_cons, List.foldl_append]
    unfold profilesOf
    by_cases he : isMbssid elem.2 = true
    · rw [if_pos he, if_pos he, ih, subLoop_eq]
      rfl
    · rw [if_neg he, if_neg he, ih]
      rfl

/-- What is left after looking at profiles: the bytes of the last one, and the index of the last that matches. -/
theorem foldl_look (len : Nat) (s : Search) (ps : List Profile) :
    (ps.foldl (Search.look api cfg80211GenNewBssid bssid transmitted len) s).found =
        (s.found || !(ps.filterMap (Profile.matchAt api cfg80211GenNewBssid bssid transmitted)).isEmpty) ∧
      (∀ p, ps.getLast? = some p →
        (ps.foldl (Search.look api cfg80211GenNewBssid bssid transmitted len) s).nontransmittedProfile =
            p.bytes ++ List.replicate (len - p.bytes.length) 0 ∧
          (ps.foldl (Search.look api cfg80211GenNewBssid bssid transmitted len) s).profileLen = p.bytes.length) ∧
      ∀ index, (ps.filterMap (Profile.matchAt api cfg80211GenNewBssid bssid transmitted)).getLast? = some index →
        (ps.foldl (Search.look api cfg80211GenNewBssid bssid transmitted len) s).elems.bssidIndex =
          some (index.1 + 2) := by
  induction ps using List.reverseRecOn with
  | nil =>
    refine ⟨?_, ?_, ?_⟩
    · simp
    · intro p hp
      cases hp
    · intro index hi
      cases hi
  | append_singleton ps p ih =>
    obtain ⟨hfound, -, hindex⟩ := ih
    rw [List.foldl_append, List.filterMap_append]
    generalize ps.foldl (Search.look api cfg80211GenNewBssid bssid transmitted len) s = t at *
    refine ⟨?_, ?_, ?_⟩
    · change (t.found || (p.matchAt api cfg80211GenNewBssid bssid transmitted).isSome) = _
      rw [hfound]
      cases hm : p.matchAt api cfg80211GenNewBssid bssid transmitted with
      | none => simp [hm]
      | some index => simp [hm]
    · intro p' hp
      rw [List.getLast?_concat] at hp
      cases hp
      exact ⟨rfl, rfl⟩
    · intro index hi
      change (match p.matchAt api cfg80211GenNewBssid bssid transmitted with
        | none => t.elems
        | some (off, index) =>
          { bssidIndex := some (off + 2), bssidIndexLen := BitVec.ofNat 8 index.datalen }).bssidIndex = _
      cases hm : p.matchAt api cfg80211GenNewBssid bssid transmitted with
      | none =>
        rw [List.filterMap_cons_none hm, List.filterMap_nil, List.append_nil] at hi
        exact hindex index hi
      | some i =>
        rw [List.filterMap_cons_some hm, List.filterMap_nil, List.getLast?_concat] at hi
        cases hi
        rfl

/-! ## Lengths -/

theorem upTo_subset {α β : Type} {f : α → Option β} {a : α} : ∀ {as : List α}, a ∈ upTo f as → a ∈ as := by
  intro as
  induction as with
  | nil => exact fun h => h
  | cons b as ih =>
    intro h
    rw [upTo] at h
    split at h
    · rw [List.mem_singleton] at h
      exact h ▸ List.mem_cons_self
    · cases h with
      | head => exact List.mem_cons_self
      | tail _ h => exact List.mem_cons_of_mem _ (ih h)

theorem mem_offsets {off : Nat} {p : Nat × Element} {es : List Element} (h : p ∈ offsets off es) : p.2 ∈ es := by
  induction es generalizing off with
  | nil => cases h
  | cons e es ih =>
    cases h with
    | head => exact List.mem_cons_self
    | tail _ h => exact List.mem_cons_of_mem _ (ih h)

theorem length_le_of_mem {e : Element} {es : List Element} (h : e ∈ es) :
    e.datalen + 2 ≤ (elementBytes es).length := by
  induction es with
  | nil => cases h
  | cons x es ih =>
    rw [length_elementBytes_cons]
    cases h with
    | head => omega
    | tail _ h =>
      have hle := ih h
      omega

theorem datalen_le {buf : List Byte} {p : Nat × Element} (h : p ∈ api.forEachElementAt buf) :
    p.2.datalen + 2 ≤ buf.length := by
  obtain ⟨rest, -, hbuf⟩ := api.split buf
  have hle := length_le_of_mem (mem_offsets h)
  have hlen := congrArg List.length hbuf
  rw [List.length_append] at hlen
  omega

theorem bytes_ne_nil {p : Profile} (h : p ∈ allProfiles api start) : p.bytes.length ≠ 0 := by
  unfold allProfiles at h
  obtain ⟨elem, helem, hp⟩ := List.mem_flatMap.mp h
  unfold profilesOf at hp
  split at hp
  · obtain ⟨sub, hsub, rfl⟩ := List.mem_map.mp hp
    obtain ⟨hmem, hprofile⟩ := List.mem_filter.mp hsub
    obtain ⟨q, hq, rfl⟩ := List.mem_map.mp hmem
    have h1 := datalen_le helem
    have h2 := datalen_le hq
    rw [List.length_drop] at h2
    have hdata : elem.2.data.length = elem.2.datalen := rfl
    have hle : q.2.datalen ≤ start.length := by omega
    have hmerged := length_mergedProfile api start elem (elem.1 + 3 + q.1, q.2) hle
    change q.2.datalen ≤ _ at hmerged
    have hfour : 4 ≤ q.2.datalen := by
      unfold isProfile at hprofile
      simp only [Bool.and_eq_true, decide_eq_true_eq] at hprofile
      exact hprofile.1.2
    have hpos : 0 < (mergedProfile api start elem (elem.1 + 3 + q.1, q.2) start.length).length := by omega
    exact Nat.ne_of_gt hpos
  · cases hp

theorem lookedAt_subset {p : Profile} (h : p ∈ lookedAt api cfg80211GenNewBssid bssid transmitted start) :
    p ∈ allProfiles api start := by
  obtain ⟨elem, helem, hp⟩ := List.mem_flatMap.mp h
  exact List.mem_flatMap.mpr ⟨elem, helem, upTo_subset hp⟩

/-! ## The profile that is left -/

variable (api cfg80211GenNewBssid bssid transmitted start)

/-- What is left in the buffer is a profile whose index derives the BSSID, and `bssid_index` points at this index. -/
def Left (r : Nat × Elems × List Byte) : Prop :=
  ∃ p ∈ allProfiles api start, ∃ index, p.matchAt api cfg80211GenNewBssid bssid transmitted = some index ∧
    r.2.2.take r.1 = p.bytes ∧ r.2.1.bssidIndex = some (index.1 + 2)

/-- When a profile matches, the one that is looked at last is one that matches, with its index where the last one that
    was found to match has it. -/
def LastMatches : Prop :=
  ∀ last found, (lookedAt api cfg80211GenNewBssid bssid transmitted start).getLast? = some last →
    ((lookedAt api cfg80211GenNewBssid bssid transmitted start).filterMap
      (Profile.matchAt api cfg80211GenNewBssid bssid transmitted)).getLast? = some found →
    ∃ p ∈ allProfiles api start, ∃ index, p.matchAt api cfg80211GenNewBssid bssid transmitted = some index ∧
      p.bytes = last.bytes ∧ index.1 = found.1

variable {api cfg80211GenNewBssid bssid transmitted start}

/-- **The search**: nothing matches, or the bytes of the last profile are left, and the index of the last match. -/
theorem find_spec {elems : Elems} {buf : List Byte} {r : Nat × Elems × List Byte}
    (hr : ieee80211FindBssidProfile api cfg80211GenNewBssid start elems
      (some { bssid := bssid, transmittedBss := some transmitted }) buf = r) :
    ((lookedAt api cfg80211GenNewBssid bssid transmitted start).filterMap
        (Profile.matchAt api cfg80211GenNewBssid bssid transmitted) = [] → r.1 = 0) ∧
      ∀ last found, (lookedAt api cfg80211GenNewBssid bssid transmitted start).getLast? = some last →
        ((lookedAt api cfg80211GenNewBssid bssid transmitted start).filterMap
          (Profile.matchAt api cfg80211GenNewBssid bssid transmitted)).getLast? = some found →
        r.1 = last.bytes.length ∧ r.2.2.take r.1 = last.bytes ∧ r.2.1.bssidIndex = some (found.1 + 2) := by
  obtain ⟨hfound, hlast, hindex⟩ := foldl_look
    start.length
    { nontransmittedProfile := buf, profileLen := 0, found := false, elems := elems }
    (lookedAt api cfg80211GenNewBssid bssid transmitted start)
  have hloop : elemLoop api cfg80211GenNewBssid start bssid transmitted (api.forEachElementAt start)
      { nontransmittedProfile := buf, profileLen := 0, found := false, elems := elems } = _ := elemLoop_eq _ _
  change _ = (lookedAt api cfg80211GenNewBssid bssid transmitted start).foldl _ _ at hloop
  rw [← hloop] at hfound hlast hindex
  unfold ieee80211FindBssidProfile at hr
  dsimp only [Option.map, Option.bind] at hr
  generalize elemLoop api cfg80211GenNewBssid start bssid transmitted (api.forEachElementAt start)
    { nontransmittedProfile := buf, profileLen := 0, found := false, elems := elems } = s at *
  subst hr
  refine ⟨?_, ?_⟩
  · intro hnil
    rw [hnil] at hfound
    show (if s.found = true then s.profileLen else 0) = 0
    rw [hfound]
    rfl
  · intro last found hl hm
    obtain ⟨hprofile, hlen⟩ := hlast last hl
    have hne : s.found = true := by
      rw [hfound]
      cases hf : (lookedAt api cfg80211GenNewBssid bssid transmitted start).filterMap
          (Profile.matchAt api cfg80211GenNewBssid bssid transmitted) with
      | nil =>
        rw [hf] at hm
        cases hm
      | cons _ _ => rfl
    have hret : (if s.found = true then s.profileLen else 0) = last.bytes.length := by
      rw [if_pos hne, hlen]
    refine ⟨hret, ?_, hindex found hm⟩
    show s.nontransmittedProfile.take (if s.found = true then s.profileLen else 0) = last.bytes
    rw [hret, hprofile, List.take_left]

variable (api cfg80211GenNewBssid bssid transmitted start)

/-- **The profile that was searched is left exactly when** the one that is looked at last matches too. -/
theorem profile_kept_iff (elems : Elems) (buf : List Byte) :
    ((ieee80211FindBssidProfile api cfg80211GenNewBssid start elems
          (some { bssid := bssid, transmittedBss := some transmitted }) buf).1 ≠ 0 →
        Left api cfg80211GenNewBssid start bssid transmitted
          (ieee80211FindBssidProfile api cfg80211GenNewBssid start elems
            (some { bssid := bssid, transmittedBss := some transmitted }) buf)) ↔
      LastMatches api cfg80211GenNewBssid start bssid transmitted := by
  obtain ⟨r, hr⟩ : ∃ r, ieee80211FindBssidProfile api cfg80211GenNewBssid start elems
    (some { bssid := bssid, transmittedBss := some transmitted }) buf = r := ⟨_, rfl⟩
  rw [hr]
  obtain ⟨hnone, hsome⟩ := find_spec hr
  constructor
  · intro h last found hlast hfound
    obtain ⟨hret, htake, hindex⟩ := hsome last found hlast hfound
    have hmem := lookedAt_subset (List.mem_of_getLast? hlast)
    obtain ⟨p, hp, index, hmatch, hbytes, hoff⟩ := h (by rw [hret]; exact bytes_ne_nil hmem)
    refine ⟨p, hp, index, hmatch, hbytes.symm.trans htake, ?_⟩
    rw [hindex, Option.some.injEq] at hoff
    omega
  · intro h hret
    cases hfound : ((lookedAt api cfg80211GenNewBssid bssid transmitted start).filterMap
        (Profile.matchAt api cfg80211GenNewBssid bssid transmitted)).getLast? with
    | none => exact absurd (hnone (List.getLast?_eq_none_iff.mp hfound)) hret
    | some found =>
      cases hlast : (lookedAt api cfg80211GenNewBssid bssid transmitted start).getLast? with
      | none =>
        rw [List.getLast?_eq_none_iff] at hlast
        rw [hlast] at hfound
        cases hfound
      | some last =>
        obtain ⟨-, htake, hindex⟩ := hsome last found hlast hfound
        obtain ⟨p, hp, index, hmatch, hbytes, hoff⟩ := h last found hlast hfound
        refine ⟨p, hp, index, hmatch, ?_, ?_⟩
        · rw [htake, hbytes]
        · rw [hindex, hoff]

/-! ## Two profiles -/

/-- `cfg80211_gen_new_bssid` of the kernel header. -/
def genNewBssid (bssid : EthAddr) (maxBssid mbssidIndex : Byte) : EthAddr :=
  let mask : EthAddr := (1 <<< maxBssid.toNat) - 1
  (bssid &&& ~~~mask) ||| (((bssid &&& mask) + mbssidIndex.setWidth 48) &&& mask)

/-- A Multiple BSSID element with one profile, of the index `i`. -/
def profileWith (i : Byte) : Element := ⟨WLAN_EID_MULTIPLE_BSSID, [3, 0, 7, 83, 2, 0, 0, 85, 1, i], by simp⟩

/-- **The profile of another BSSID is left**: that of the index 1 is searched, and the element with the index 2 follows. -/
theorem other_profile_left :
    (ieee80211FindBssidProfile ElementApi.linux genNewBssid (elementBytes [profileWith 1, profileWith 2])
        { bssidIndex := none, bssidIndexLen := 0 }
        (some { bssid := 0x020000000001, transmittedBss := some 0x020000000000 }) (List.replicate 24 0)) =
      (7, { bssidIndex := some 6, bssidIndexLen := 1 }, [83, 2, 0, 0, 85, 1, 2] ++ List.replicate 17 0) ∧
    ¬ Left ElementApi.linux genNewBssid (elementBytes [profileWith 1, profileWith 2]) 0x020000000001 0x020000000000
      (ieee80211FindBssidProfile ElementApi.linux genNewBssid (elementBytes [profileWith 1, profileWith 2])
        { bssidIndex := none, bssidIndexLen := 0 }
        (some { bssid := 0x020000000001, transmittedBss := some 0x020000000000 }) (List.replicate 24 0)) := by
  have hrun : (ieee80211FindBssidProfile ElementApi.linux genNewBssid (elementBytes [profileWith 1, profileWith 2])
        { bssidIndex := none, bssidIndexLen := 0 }
        (some { bssid := 0x020000000001, transmittedBss := some 0x020000000000 }) (List.replicate 24 0)) =
      (7, { bssidIndex := some 6, bssidIndexLen := 1 }, [83, 2, 0, 0, 85, 1, 2] ++ List.replicate 17 0) := by
    decide +kernel
  refine ⟨hrun, ?_⟩
  rw [hrun]
  rintro ⟨p, hp, index, hmatch, hbytes, -⟩
  have hall : ∀ p ∈ allProfiles ElementApi.linux (elementBytes [profileWith 1, profileWith 2]),
      p.bytes = [83, 2, 0, 0, 85, 1, 2] →
        (p.matchAt ElementApi.linux genNewBssid 0x020000000001 0x020000000000).isSome = false := by
    decide +kernel
  have hno := hall p hp hbytes.symm
  rw [hmatch] at hno
  cases hno

end Mac80211.Parse
