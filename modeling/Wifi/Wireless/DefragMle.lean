import Wifi.Wireless.DefragElement

/-!
# Defragmenting a Multi-Link element (`linux/net/wireless/scan.c`)

* `ElementWalk` — `for_each_element` of the kernel header, which is not in the tree: what it visits, and what it reads.
* `cfg80211DefragMle` — `cfg80211_defrag_mle`, with the addresses it reads in each part.  `ieee80211_mle_size_ok` and
  `ieee80211_mle_common_size`, of the same header, are parameters.
* `WalkStays` — the walk that sizes the buffer stays in the elements.
* `defrag_mle_reads_iff` — all that is read lies inside exactly then.
-/

namespace Wireless.DefragMle

open ReadLog Memory DefragElement

/-! ## The function -/

/-- `for_each_element`: whether the loop goes on with the element at an address, when the data ends at another. -/
structure ElementWalk where
  visits : Mem → Nat → Nat → ReadLog Bool
  /-- An element is visited when it lies wholly inside. -/
  visits_iff : ∀ m pos stop, (visits m pos stop).value = true ↔ pos + 2 + datalen m pos ≤ stop
  /-- The length of an element is read where there is room for its header. -/
  touched_iff : ∀ m pos stop a, a ∈ (visits m pos stop).touched ↔ a = pos + 1 ∧ pos + 2 ≤ stop

def ElementWalk.linux : ElementWalk where
  visits m pos stop :=
    if pos + 2 ≤ stop then do
      let len ← byte m (pos + 1)
      pure (decide (pos + 2 + len.toNat ≤ stop))
    else pure false
  visits_iff m pos stop := by
    split
    · rw [value_bind, value_pure, decide_eq_true_eq]
      rfl
    · rw [value_pure]
      constructor
      · intro h
        cases h
      · intro h
        omega
  touched_iff m pos stop a := by
    split
    · rename_i h
      show a ∈ [pos + 1] ++ [] ↔ _
      rw [List.append_nil, List.mem_singleton, and_iff_left h]
    · rename_i h
      exact iff_of_false nofun fun ha => h ha.2

def IEEE80211_MLD_MAX_NUM_LINKS : Nat := 15
def IEEE80211_MLE_SUBELEM_PER_STA_PROFILE : Byte := 0
def IEEE80211_MLE_SUBELEM_FRAGMENT : Byte := 254

variable (walk : ElementWalk)

/-- The loop that sums up `buf_len`. -/
def sizeLoop (m : Mem) (stop : Nat) : Nat → Nat → Nat → ReadLog (Option Nat)
  | 0, _, _ => pure none
  | fuel + 1, elem, bufLen => do
    if ← walk.visits m elem stop then
      let id ← byte m elem
      if id ≠ WLAN_EID_FRAGMENT then pure (some bufLen)
      else do
        let elemDatalen ← byte m (elem + 1)
        sizeLoop m stop fuel (elem + 2 + elemDatalen.toNat) (bufLen + elemDatalen.toNat)
    else pure (some bufLen)

/-- The loop that finds the per-STA profiles: each with its length, and the element at which it ends. -/
def profileLoop (m : Mem) (stop : Nat) : Nat → Nat → List (Nat × Nat) → ReadLog (Option (List (Nat × Nat) × Nat))
  | 0, _, _ => pure none
  | fuel + 1, elem, staProf => do
    if ← walk.visits m elem stop then
      let id ← byte m elem
      let elemDatalen ← byte m (elem + 1)
      let staProf := if id = IEEE80211_MLE_SUBELEM_PER_STA_PROFILE then staProf ++ [(elem + 2, elemDatalen.toNat)]
        else staProf
      if id = IEEE80211_MLE_SUBELEM_PER_STA_PROFILE ∧ IEEE80211_MLD_MAX_NUM_LINKS ≤ staProf.length then
        pure (some (staProf, elem))
      else profileLoop m stop fuel (elem + 2 + elemDatalen.toNat) staProf
    else pure (some (staProf, elem))

/-- `buf_len` of a profile: up to the next one, or to the end. -/
def profileBufLen (stop staProf : Nat) : List (Nat × Nat) → Nat
  | (next, _) :: _ => next - staProf
  | [] => stop - (staProf - 2)

/-- The loop that defragments the profiles in place: `sta_prof` and `sta_prof_len`, or no result. -/
def staLoop (stop : Nat) : List (Nat × Nat) → Mem → ReadLog (Option (List (Nat × Nat)))
  | [], _ => pure (some [])
  | (staProf, staProfLen) :: rest, m =>
    if staProfLen < 255 then do
      match ← staLoop stop rest m with
      | none => pure none
      | some res => pure (some ((staProf, staProfLen) :: res))
    else do
      let elem := staProf - 2
      let bufLen := profileBufLen stop staProf rest
      match ← cfg80211DefragmentElement m (some elem) elem bufLen (some staProf) bufLen
          IEEE80211_MLE_SUBELEM_FRAGMENT with
      | none => pure none
      | some (len, m) =>
        if len < 0 then pure none
        else do
          match ← staLoop stop rest m with
          | none => pure none
          | some res => pure (some ((staProf, len.toNat) :: res))

/-- What is read in each part: the sizing, the defragmentation of the element, and the profiles; the length of what is
    written to `res->data`; and the profiles, unless `NULL` is returned. -/
structure Trace where
  sizing : List Nat
  defragment : List Nat
  profiles : List Nat
  mleLen : Nat
  res : Option (List (Nat × Nat))

/-- The profiles of the defragmented element: nothing is returned when it does not consist of subelements. -/
def profiles (m : Mem) (data commonSize mleLen : Nat) : ReadLog (Option (List (Nat × Nat))) := do
  match ← profileLoop walk m (data + mleLen) (mleLen + 2) (data + commonSize) [] with
  | none => pure none
  | some (staProf, elem) =>
    if elem ≠ data + mleLen then pure none
    else staLoop (data + mleLen) staProf m

/-- The end of the data of the loop that sums up `buf_len`: `ielen - sizeof(*mle) + mle->datalen` bytes from the end of
    the element on. -/
def sizingStop (m : Mem) (mle ielen : Nat) : Nat := mle + 2 + datalen m mle + (ielen - 2 + datalen m mle)

/-- `cfg80211_defrag_mle`; `alloc` is `res->data`, unless there is no memory. -/
def cfg80211DefragMle (ieee80211MleSizeOk : Mem → Nat → Nat → Bool) (ieee80211MleCommonSize : Mem → Nat → Byte)
    (m : Mem) (mle : Option Nat) (ie ielen : Nat) (alloc : Option Nat) : Option Trace :=
  match mle with
  | none => some { sizing := [], defragment := [], profiles := [], mleLen := 0, res := none }
  | some mle =>
    if ieee80211MleSizeOk m (mle + 3) (datalen m mle - 1) = false then
      some { sizing := [], defragment := [], profiles := [], mleLen := 0, res := none }
    else do
      let stop := sizingStop m mle ielen
      let size := sizeLoop walk m stop (stop + 1) (mle + 2 + datalen m mle) (datalen m mle - 1)
      let bufLen ← size.value
      match alloc with
      | none => some { sizing := size.touched, defragment := [], profiles := [], mleLen := 0, res := none }
      | some data =>
        let defrag := cfg80211DefragmentElement m (some mle) ie ielen (some data) bufLen WLAN_EID_FRAGMENT
        let (mleLen, m) ← defrag.value
        if mleLen < 0 then
          some { sizing := size.touched, defragment := defrag.touched, profiles := [], mleLen := 0, res := none }
        else
          let prof := profiles walk m data (ieee80211MleCommonSize m data).toNat mleLen.toNat
          some
            { sizing := size.touched, defragment := defrag.touched, profiles := prof.touched, mleLen := mleLen.toNat
              res := prof.value }

variable {walk} {m m' : Mem} {stop iesEnd ie pos : Nat}

theorem ElementWalk.only_visits {p : Nat → Prop} :
    Only p (walk.visits m pos stop) ↔ (pos + 2 ≤ stop → p (pos + 1)) := by
  constructor
  · exact fun h hle => h _ ((walk.touched_iff m pos stop _).mpr ⟨rfl, hle⟩)
  · intro h a ha
    obtain ⟨rfl, hle⟩ := (walk.touched_iff m pos stop a).mp ha
    exact h hle

/-! ## The sizing -/

/-- The walk over the fragments ends at an element that has its header inside the data, whatever it believes the data's
    end to be; or behind what it believes to be the end. -/
inductive WalkStays (m : Mem) (stop iesEnd : Nat) : Nat → Prop where
  | other {pos : Nat} (hin : pos + 2 ≤ iesEnd) (h : ¬ (m pos = WLAN_EID_FRAGMENT ∧ pos + 2 + datalen m pos ≤ stop)) :
      WalkStays m stop iesEnd pos
  | fragment {pos : Nat} (hin : pos + 2 ≤ iesEnd) (hid : m pos = WLAN_EID_FRAGMENT)
      (hfits : pos + 2 + datalen m pos ≤ stop) (h : WalkStays m stop iesEnd (pos + 2 + datalen m pos)) :
      WalkStays m stop iesEnd pos
  | past {pos : Nat} (h : stop < pos + 2) : WalkStays m stop iesEnd pos

theorem walkStays_fragment (hin : pos + 2 ≤ iesEnd) (hid : m pos = WLAN_EID_FRAGMENT)
    (hfits : pos + 2 + datalen m pos ≤ stop) :
    WalkStays m stop iesEnd pos ↔ WalkStays m stop iesEnd (pos + 2 + datalen m pos) := by
  constructor
  · intro h
    cases h with
    | other _ h => exact absurd ⟨hid, hfits⟩ h
    | fragment _ _ _ h => exact h
    | past h => omega
  · exact fun h => .fragment hin hid hfits h

theorem walkStays_behind (hout : ¬ pos + 2 ≤ iesEnd) (hstop : pos + 2 ≤ stop) : ¬ WalkStays m stop iesEnd pos := by
  intro h
  cases h with
  | other hin _ => exact hout hin
  | fragment hin _ _ _ => exact hout hin
  | past h => omega

theorem sizeLoop_returns (walk : ElementWalk) (m : Mem) (stop : Nat) : ∀ (fuel pos bufLen : Nat), stop < pos + fuel → 0 < fuel →
    ∃ n, (sizeLoop walk m stop fuel pos bufLen).value = some n := by
  intro fuel
  induction fuel with
  | zero => exact fun _ _ _ h => absurd h (by decide)
  | succ fuel ih =>
    intro pos bufLen hfuel _
    rw [sizeLoop, value_bind]
    cases hv : (walk.visits m pos stop).value with
    | false => exact ⟨bufLen, rfl⟩
    | true =>
      have hle := (walk.visits_iff m pos stop).mp hv
      rw [if_pos rfl, value_bind, value_byte]
      by_cases hid : m pos ≠ WLAN_EID_FRAGMENT
      · rw [if_pos hid]
        exact ⟨bufLen, rfl⟩
      · rw [if_neg hid, value_bind, value_byte]
        exact ih _ _ (by omega) (by omega)

/-- **The sizing reads inside the data exactly when the walk stays there.** -/
theorem sizeLoop_only_iff (walk : ElementWalk) (m : Mem) (stop iesEnd ie : Nat) : ∀ (fuel pos bufLen : Nat), stop < pos + fuel → 0 < fuel → ie ≤ pos →
    (Only (fun a => ie ≤ a ∧ a < iesEnd) (sizeLoop walk m stop fuel pos bufLen) ↔ WalkStays m stop iesEnd pos) := by
  intro fuel
  induction fuel with
  | zero => exact fun _ _ _ h => absurd h (by decide)
  | succ fuel ih =>
    intro pos bufLen hfuel _ hie
    rw [sizeLoop, only_bind, ElementWalk.only_visits]
    by_cases hstop : pos + 2 ≤ stop
    · by_cases hin : pos + 2 ≤ iesEnd
      · have hfirst : pos + 2 ≤ stop → ie ≤ pos + 1 ∧ pos + 1 < iesEnd := fun _ => ⟨by omega, by omega⟩
        rw [and_iff_right hfirst]
        cases hv : (walk.visits m pos stop).value with
        | false =>
          have hout : ¬ pos + 2 + datalen m pos ≤ stop := by
            rw [← walk.visits_iff m pos stop, hv]
            decide
          exact iff_of_true (only_pure _) (.other hin fun h => hout h.2)
        | true =>
          have hle := (walk.visits_iff m pos stop).mp hv
          have hid' : ie ≤ pos ∧ pos < iesEnd := ⟨hie, by omega⟩
          rw [if_pos rfl, only_bind, only_byte, and_iff_right hid', value_byte]
          by_cases hid : m pos ≠ WLAN_EID_FRAGMENT
          · rw [if_pos hid]
            exact iff_of_true (only_pure _) (.other hin fun h => hid h.1)
          · rw [if_neg hid, only_bind, only_byte, and_iff_right (hfirst hstop), value_byte]
            rw [not_not] at hid
            rw [walkStays_fragment hin hid hle]
            exact ih _ _ (by omega) (by omega) (by omega)
      · refine iff_of_false (fun h => ?_) (walkStays_behind hin hstop)
        have hread := h.1 hstop
        omega
    · have hv : (walk.visits m pos stop).value = false := by
        rw [← Bool.not_eq_true, walk.visits_iff m pos stop]
        omega
      rw [hv]
      exact iff_of_true ⟨fun h => absurd h hstop, only_pure _⟩ (.past (by omega))

/-! ## The profiles -/

/-- Profiles of a memory, one behind the other from `lo` on. -/
inductive Tiled (m : Mem) (stop : Nat) : Nat → List (Nat × Nat) → Prop where
  | nil {lo : Nat} : Tiled m stop lo []
  | cons {lo staProf len : Nat} {rest : List (Nat × Nat)} (hlo : lo + 2 ≤ staProf)
      (hid : m (staProf - 2) = IEEE80211_MLE_SUBELEM_PER_STA_PROFILE) (hlen : datalen m (staProf - 2) = len)
      (hend : staProf + len ≤ stop) (h : Tiled m stop (staProf + len) rest) : Tiled m stop lo ((staProf, len) :: rest)

theorem Tiled.mono {lo lo' : Nat} {l : List (Nat × Nat)} (h : Tiled m stop lo l) (hle : lo' ≤ lo) :
    Tiled m stop lo' l := by
  cases h with
  | nil => exact .nil
  | cons hlo hid hlen hend h => exact .cons (by omega) hid hlen hend h

theorem Tiled.congr {lo : Nat} {l : List (Nat × Nat)} (h : Tiled m stop lo l)
    (hm : ∀ a, lo ≤ a → a < stop → m' a = m a) : Tiled m' stop lo l := by
  induction h with
  | nil => exact .nil
  | cons hlo hid hlen hend _ ih =>
    refine .cons hlo ?_ ?_ hend (ih fun a ha ha' => hm a (by omega) ha')
    · rw [hm _ (by omega) (by omega), hid]
    · rw [← hlen]
      unfold datalen
      rw [hm _ (by omega) (by omega)]

/-- **The profiles that are found**: what is read lies in the data, and so do they. -/
theorem profileLoop_spec (walk : ElementWalk) (m : Mem) (stop data : Nat) : ∀ (fuel pos : Nat) (acc : List (Nat × Nat)), stop < pos + fuel → 0 < fuel →
    data ≤ pos →
    Only (fun a => data ≤ a ∧ a < stop) (profileLoop walk m stop fuel pos acc) ∧
      ∃ l elem, (profileLoop walk m stop fuel pos acc).value = some (acc ++ l, elem) ∧ Tiled m stop pos l := by
  intro fuel
  induction fuel with
  | zero => exact fun _ _ _ h => absurd h (by decide)
  | succ fuel ih =>
    intro pos acc hfuel _ hdata
    rw [profileLoop, only_bind, value_bind, ElementWalk.only_visits]
    have hread : pos + 2 ≤ stop → data ≤ pos + 1 ∧ pos + 1 < stop := fun _ => ⟨by omega, by omega⟩
    rw [and_iff_right hread]
    cases hv : (walk.visits m pos stop).value with
    | false => exact ⟨only_pure _, [], pos, by rw [List.append_nil]; rfl, .nil⟩
    | true =>
      have hle := (walk.visits_iff m pos stop).mp hv
      have hid' : data ≤ pos ∧ pos < stop := ⟨hdata, by omega⟩
      have hlen : (m (pos + 1)).toNat = datalen m pos := rfl
      rw [if_pos rfl, only_bind, only_bind, only_byte, only_byte, and_iff_right hid', and_iff_right (hread (by omega)),
        value_bind, value_bind, value_byte, value_byte, hlen]
      dsimp only
      by_cases hid : m pos = IEEE80211_MLE_SUBELEM_PER_STA_PROFILE
      · have htile : ∀ l, Tiled m stop (pos + 2 + datalen m pos) l →
            Tiled m stop pos ((pos + 2, datalen m pos) :: l) := fun l h =>
          .cons (Nat.le_refl _) (by rwa [Nat.add_sub_cancel]) (by rw [Nat.add_sub_cancel]) hle h
        rw [if_pos hid]
        by_cases hmax : m pos = IEEE80211_MLE_SUBELEM_PER_STA_PROFILE ∧
            IEEE80211_MLD_MAX_NUM_LINKS ≤ (acc ++ [(pos + 2, datalen m pos)]).length
        · rw [if_pos hmax]
          exact ⟨only_pure _, [(pos + 2, datalen m pos)], pos, rfl, htile [] .nil⟩
        · rw [if_neg hmax]
          obtain ⟨honly, l, elem, hval, htiled⟩ := ih (pos + 2 + datalen m pos) (acc ++ [(pos + 2, datalen m pos)])
            (by omega) (by omega) (by omega)
          refine ⟨honly, (pos + 2, datalen m pos) :: l, elem, ?_, htile l htiled⟩
          rw [hval, List.append_assoc, List.singleton_append]
      · rw [if_neg hid, if_neg fun h => hid h.1]
        obtain ⟨honly, l, elem, hval, htiled⟩ := ih (pos + 2 + datalen m pos) acc (by omega) (by omega) (by omega)
        exact ⟨honly, l, elem, hval, htiled.mono (by omega)⟩

/-- The piece of memory in which a profile is defragmented: up to the next one, or to the end. -/
theorem profileBufLen_spec {lo staProf len : Nat} {rest : List (Nat × Nat)}
    (h : Tiled m stop lo ((staProf, len) :: rest)) :
    staProf + len ≤ staProf - 2 + profileBufLen stop staProf rest ∧
      staProf - 2 + profileBufLen stop staProf rest ≤ stop ∧
      Tiled m stop (staProf - 2 + profileBufLen stop staProf rest) rest := by
  cases h with
  | cons hlo hid hlen hend h =>
    cases h with
    | nil =>
      rw [profileBufLen]
      exact ⟨by omega, by omega, .nil⟩
    | cons hlo' hid' hlen' hend' h' =>
      rw [profileBufLen]
      exact ⟨by omega, by omega, .cons (by omega) hid' hlen' hend' h'⟩

/-- **The profiles that are defragmented in place**: what is read lies in the data, and so do the results. -/
theorem staLoop_spec (data : Nat) : ∀ (l : List (Nat × Nat)) (lo : Nat) (m : Mem), Tiled m stop lo l → data ≤ lo →
    Only (fun a => data ≤ a ∧ a < stop) (staLoop stop l m) ∧
      ∀ res, (staLoop stop l m).value = some res → ∀ p ∈ res, data ≤ p.1 ∧ p.1 + p.2 ≤ stop := by
  intro l
  induction l with
  | nil =>
    intro lo m _ _
    refine ⟨only_pure _, fun res hres p hp => ?_⟩
    cases hres
    cases hp
  | cons head rest ih =>
    obtain ⟨staProf, len⟩ := head
    intro lo m htiled hdata
    obtain ⟨hfits, hstop, hrest⟩ := profileBufLen_spec htiled
    cases htiled with
    | cons hlo hid hlen hend h =>
      rw [staLoop]
      by_cases hshort : len < 255
      · obtain ⟨honly, hres⟩ := ih (staProf + len) m h (by omega)
        rw [if_pos hshort, only_bind, value_bind]
        cases hv : (staLoop stop rest m).value with
        | none => exact ⟨⟨honly, only_pure _⟩, fun res hnone => nomatch hnone⟩
        | some tail =>
          refine ⟨⟨honly, only_pure _⟩, fun res hsome p hp => ?_⟩
          cases hsome
          cases hp with
          | head => exact ⟨by dsimp only; omega, hend⟩
          | tail _ hp => exact hres tail hv p hp
      · rw [if_neg hshort]
        dsimp only
        generalize profileBufLen stop staProf rest = bufLen at hfits hstop hrest ⊢
        have hinside : Inside m (staProf - 2) (staProf - 2) bufLen := by
          refine ⟨Nat.le_refl _, by omega, fun hext => ?_⟩
          rw [hid] at hext
          exact absurd hext (by decide)
        have hreads := (defragment_reads hinside (some staProf) bufLen IEEE80211_MLE_SUBELEM_FRAGMENT).mono
          (q := fun a => data ≤ a ∧ a < stop) fun a ha => ⟨by omega, by omega⟩
        obtain ⟨ps, hps⟩ := fragments_exists m (staProf - 2 + bufLen) IEEE80211_MLE_SUBELEM_FRAGMENT (staProf - 2)
        obtain ⟨ret, m', hval, -, hwrote⟩ := defragment_buffer hinside bufLen hps (show staProf ≤ staProf - 2 + 2 ∨ _ from .inl (by omega))
        have hlength := length_defragmented hinside hps
        obtain ⟨hret, hw⟩ := hwrote (by omega)
        rw [only_bind, value_bind, hval]
        dsimp only
        rw [if_neg (by omega)]
        obtain ⟨honly, hres⟩ := ih (staProf - 2 + bufLen) m'
          (hrest.congr fun a ha _ => hw.frame a (.inr (by omega))) (by omega)
        rw [only_bind, value_bind]
        cases hv : (staLoop stop rest m').value with
        | none => exact ⟨⟨hreads, honly, only_pure _⟩, fun res hnone => nomatch hnone⟩
        | some tail =>
          refine ⟨⟨hreads, honly, only_pure _⟩, fun res hsome p hp => ?_⟩
          cases hsome
          cases hp with
          | head =>
            dsimp only
            exact ⟨by omega, by omega⟩
          | tail _ hp => exact hres tail hv p hp

/-- **The profiles part.** -/
theorem profiles_spec (walk : ElementWalk) (m : Mem) (data commonSize mleLen : Nat) :
    Only (fun a => data ≤ a ∧ a < data + mleLen) (profiles walk m data commonSize mleLen) ∧
      ∀ res, (profiles walk m data commonSize mleLen).value = some res →
        ∀ p ∈ res, data ≤ p.1 ∧ p.1 + p.2 ≤ data + mleLen := by
  obtain ⟨honly, l, elem, hval, htiled⟩ := profileLoop_spec walk m (data + mleLen) data (mleLen + 2)
    (data + commonSize) [] (by omega) (by omega) (by omega)
  unfold profiles
  rw [only_bind, value_bind, hval]
  dsimp only
  rw [List.nil_append]
  split
  · exact ⟨⟨honly, only_pure _⟩, fun res hnone => nomatch hnone⟩
  · obtain ⟨honly', hres⟩ := staLoop_spec data l (data + commonSize) m htiled (by omega)
    exact ⟨⟨honly, honly'⟩, hres⟩

/-! ## The whole function -/

/-- All that is read while sizing and defragmenting lies in the frame's elements, all that is read of the profiles in
    what was written to `res->data`; and the profiles that are returned lie there. -/
structure Safe (ie ielen data : Nat) (t : Trace) : Prop where
  sizing : ∀ a ∈ t.sizing, ie ≤ a ∧ a < ie + ielen
  defragment : ∀ a ∈ t.defragment, ie ≤ a ∧ a < ie + ielen
  profiles : ∀ a ∈ t.profiles, data ≤ a ∧ a < data + t.mleLen
  res : ∀ res, t.res = some res → ∀ p ∈ res, data ≤ p.1 ∧ p.1 + p.2 ≤ data + t.mleLen

variable {sizeOk : Mem → Nat → Nat → Bool} {commonSize : Mem → Nat → Byte} {mle ielen data : Nat}

/-- **What is read lies inside exactly when the walk that sizes the buffer stays inside.** -/
theorem defrag_mle_reads_iff (h : Inside m mle ie ielen) (hok : sizeOk m (mle + 3) (datalen m mle - 1) = true)
    (hdata : data ≤ ie ∨ ie + ielen ≤ data) : ∃ t,
    cfg80211DefragMle walk sizeOk commonSize m (some mle) ie ielen (some data) = some t ∧
      (Safe ie ielen data t ↔ WalkStays m (sizingStop m mle ielen) (ie + ielen) (mle + 2 + datalen m mle)) := by
  have hstart := h.start
  obtain ⟨bufLen, hsize⟩ := sizeLoop_returns walk m (sizingStop m mle ielen)
    (sizingStop m mle ielen + 1) (mle + 2 + datalen m mle) (datalen m mle - 1) (by omega) (by omega)
  have honly := sizeLoop_only_iff walk m (sizingStop m mle ielen) (ie + ielen) ie
    (sizingStop m mle ielen + 1) (mle + 2 + datalen m mle) (datalen m mle - 1) (by omega)
    (by omega) (by omega)
  have hreads := defragment_reads h (some data) bufLen WLAN_EID_FRAGMENT
  obtain ⟨ps, hps⟩ := fragments_exists m (ie + ielen) WLAN_EID_FRAGMENT mle
  obtain ⟨mleLen, m', hval, -, -⟩ := defragment_buffer h bufLen hps (show data ≤ mle + 2 ∨ ie + ielen ≤ data by omega)
  have hrun : cfg80211DefragMle walk sizeOk commonSize m (some mle) ie ielen (some data) = some
      (if mleLen < 0 then
        { sizing := (sizeLoop walk m (sizingStop m mle ielen) (sizingStop m mle ielen + 1) (mle + 2 + datalen m mle)
            (datalen m mle - 1)).touched
          defragment := (cfg80211DefragmentElement m (some mle) ie ielen (some data) bufLen WLAN_EID_FRAGMENT).touched
          profiles := [], mleLen := 0, res := none }
      else
        { sizing := (sizeLoop walk m (sizingStop m mle ielen) (sizingStop m mle ielen + 1) (mle + 2 + datalen m mle)
            (datalen m mle - 1)).touched
          defragment := (cfg80211DefragmentElement m (some mle) ie ielen (some data) bufLen WLAN_EID_FRAGMENT).touched
          profiles := (profiles walk m' data (commonSize m' data).toNat mleLen.toNat).touched
          mleLen := mleLen.toNat
          res := (profiles walk m' data (commonSize m' data).toNat mleLen.toNat).value }) := by
    unfold cfg80211DefragMle
    dsimp only
    rw [hok, if_neg (by decide), hsize]
    dsimp only [Option.bind, bind]
    rw [hval]
    dsimp only
    split
    · rfl
    · rfl
  refine ⟨_, hrun, ?_⟩
  obtain ⟨hprof, hres⟩ := profiles_spec walk m' data (commonSize m' data).toNat mleLen.toNat
  rw [← honly]
  by_cases hneg : mleLen < 0
  · rw [if_pos hneg]
    exact ⟨fun hs => hs.sizing, fun hs => ⟨hs, hreads, nofun, nofun⟩⟩
  · rw [if_neg hneg]
    exact ⟨fun hs => hs.sizing, fun hs => ⟨hs, hreads, hprof, hres⟩⟩

/-! ## A basic Multi-Link element -/

/-- A Multi-Link element with an MLD MAC address, and an element with the given ID behind it. -/
def basicMle (id : Byte) : Mem := fun a => [255, 10, 107, 0, 0, 7, 1, 2, 3, 4, 5, 6, id, 0].getD a 0

/-- `ieee80211_mle_size_ok` of a basic Multi-Link element with nothing but the address. -/
def basicSizeOk (_ : Mem) (_ len : Nat) : Bool := decide (9 ≤ len)

/-- `ieee80211_mle_common_size` of a basic Multi-Link element: `common_info_len` follows the control field. -/
def basicCommonSize (m : Mem) (data : Nat) : Byte := 2 + m (data + 2)

/-- Another element follows: the sizing ends there. -/
theorem defrag_mle_reads_followed : ∃ t,
    cfg80211DefragMle ElementWalk.linux basicSizeOk basicCommonSize (basicMle 0) (some 0) 0 14 (some 100) = some t ∧
      (Safe 0 14 100 t ↔ WalkStays (basicMle 0) (sizingStop (basicMle 0) 0 14) (0 + 14) (0 + 2 + datalen (basicMle 0) 0)) :=
  defrag_mle_reads_iff ⟨Nat.le_refl _, by decide, fun _ => by decide⟩ (by decide) (.inr (by decide))

/-- **The sizing reads behind the frame** when the Multi-Link element is the last one. -/
theorem last_mle_overread : Inside (basicMle 0) 0 0 12 ∧ basicSizeOk (basicMle 0) 3 (datalen (basicMle 0) 0 - 1) = true ∧
    ∃ t, cfg80211DefragMle ElementWalk.linux basicSizeOk basicCommonSize (basicMle 0) (some 0) 0 12 (some 100) = some t ∧
      13 ∈ t.sizing ∧ ¬ Safe 0 12 100 t := by
  refine ⟨⟨Nat.le_refl _, by decide, fun _ => by decide⟩, by decide, _, rfl, ?_, ?_⟩
  · decide
  · intro hs
    have hread := hs.sizing 13 (by decide)
    omega

end Wireless.DefragMle
