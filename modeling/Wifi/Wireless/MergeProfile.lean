import Wifi.Wireless.FindElem

/-!
# Merging the pieces of a nontransmitted BSSID profile (`linux/net/wireless/scan.c`)

* `cfg80211GetProfileContinuation`, `cfg80211MergeProfile` — the functions of `scan.c`.
* `Split` — a profile, and its pieces in the Multiple BSSID elements that follow.
* `merge_split` — what is merged: the second piece is copied again and again.
-/

namespace Wireless

variable (api : ElementApi)

/-! ## The functions -/

/-- The subelement at `data[1]`, as far as it lies inside. -/
def firstSub (e : Element) : Element where
  id := e.data.getD 1 0
  data := (e.data.drop 3).take (e.data.getD 2 0).toNat
  data_lt := Nat.lt_of_le_of_lt (List.length_take_le ..) (e.data.getD 2 0).isLt

def cfg80211GetProfileContinuation (ie : List Byte) (mbssidElem subElem : Nat × Element) : Option (Nat × Element) :=
  let mbssidEnd := mbssidElem.1 + 2 + mbssidElem.2.datalen
  match cfg80211FindElemMatch api WLAN_EID_MULTIPLE_BSSID (ie.drop mbssidEnd) [] 0 with
  | none => none
  | some (off, nextMbssid) =>
    if subElem.1 + 2 + subElem.2.datalen < mbssidEnd - 1 then none
    -- For any length error, just return NULL
    else if nextMbssid.datalen < 4 then none
    else if nextMbssid.datalen < 3 + (nextMbssid.data.getD 2 0).toNat then none
    else if (firstSub nextMbssid).id ≠ 0 ∨ (firstSub nextMbssid).datalen < 2 then none
    -- a start of a new profile
    else if (firstSub nextMbssid).data.getD 0 0 = WLAN_EID_NON_TX_BSSID_CAP then none
    else some (mbssidEnd + off, nextMbssid)

/-- The loop of `cfg80211_merge_profile`, with a bound: what is in `merged_ie`. -/
def mergeLoop (ie : List Byte) (mbssidElem subElem : Nat × Element) (maxCopyLen : Nat) :
    Nat → List Byte → Option (List Byte)
  | 0, _ => none
  | fuel + 1, merged =>
    match cfg80211GetProfileContinuation api ie mbssidElem subElem with
    | none => some merged
    | some (_, nextMbssid) =>
      if merged.length + (firstSub nextMbssid).datalen > maxCopyLen then some merged
      else mergeLoop ie mbssidElem subElem maxCopyLen fuel (merged ++ (firstSub nextMbssid).data)

/-- `cfg80211_merge_profile`: what it copies to `merged_ie`. -/
def cfg80211MergeProfile (ie : List Byte) (mbssidElem subElem : Nat × Element) (maxCopyLen : Nat) :
    Option (List Byte) :=
  if subElem.2.datalen > maxCopyLen then some []
  else mergeLoop api ie mbssidElem subElem maxCopyLen (maxCopyLen + 1) subElem.2.data

variable {api}

/-! ## The loop -/

theorem continuation_length {ie : List Byte} {m s : Nat × Element} {off : Nat} {next : Element}
    (h : cfg80211GetProfileContinuation api ie m s = some (off, next)) : 2 ≤ (firstSub next).datalen := by
  unfold cfg80211GetProfileContinuation at h
  dsimp only at h
  split at h
  · cases h
  · split at h
    · cases h
    · split at h
      · cases h
      · split at h
        · cases h
        · split at h
          · cases h
          · rename_i hok
            split at h
            · cases h
            · cases h
              omega

theorem mergeLoop_none {ie : List Byte} {m s : Nat × Element} {maxCopyLen : Nat} (fuel : Nat) (merged : List Byte)
    (h : cfg80211GetProfileContinuation api ie m s = none) :
    mergeLoop api ie m s maxCopyLen (fuel + 1) merged = some merged := by
  rw [mergeLoop, h]

/-- **The continuation is the same in every round**: it is added until there is no room for it. -/
theorem mergeLoop_some {ie : List Byte} {m s : Nat × Element} {maxCopyLen off : Nat} {next : Element}
    (h : cfg80211GetProfileContinuation api ie m s = some (off, next)) : ∀ (fuel : Nat) (merged : List Byte),
    merged.length ≤ maxCopyLen → maxCopyLen < fuel + merged.length →
    mergeLoop api ie m s maxCopyLen fuel merged = some (merged ++
      (List.replicate ((maxCopyLen - merged.length) / (firstSub next).datalen) (firstSub next).data).flatten) := by
  have htwo := continuation_length h
  intro fuel
  induction fuel with
  | zero =>
    intro merged hle hf
    omega
  | succ fuel ih =>
    intro merged hle hf
    rw [mergeLoop, h]
    dsimp only
    by_cases hroom : merged.length + (firstSub next).datalen > maxCopyLen
    · rw [if_pos hroom, Nat.div_eq_of_lt (by omega)]
      simp
    · have hlen : (merged ++ (firstSub next).data).length = merged.length + (firstSub next).datalen := List.length_append
      have hdiv : (maxCopyLen - merged.length) / (firstSub next).datalen =
          (maxCopyLen - (merged.length + (firstSub next).datalen)) / (firstSub next).datalen + 1 := by
        rw [← Nat.add_div_right _ (by omega)]
        congr 1
        omega
      rw [if_neg hroom, ih _ (by rw [hlen]; omega) (by rw [hlen]; omega), hlen, hdiv, List.replicate_succ, List.flatten_cons,
        List.append_assoc]

/-- **What is merged.** -/
theorem merge_some {ie : List Byte} {m s : Nat × Element} {maxCopyLen off : Nat} {next : Element}
    (hs : s.2.datalen ≤ maxCopyLen) (h : cfg80211GetProfileContinuation api ie m s = some (off, next)) :
    cfg80211MergeProfile api ie m s maxCopyLen = some (s.2.data ++
      (List.replicate ((maxCopyLen - s.2.datalen) / (firstSub next).datalen) (firstSub next).data).flatten) := by
  unfold cfg80211MergeProfile
  rw [if_neg (by omega)]
  exact mergeLoop_some h (maxCopyLen + 1) s.2.data hs (by omega)

theorem merge_none {ie : List Byte} {m s : Nat × Element} {maxCopyLen : Nat}
    (hs : s.2.datalen ≤ maxCopyLen) (h : cfg80211GetProfileContinuation api ie m s = none) :
    cfg80211MergeProfile api ie m s maxCopyLen = some s.2.data := by
  unfold cfg80211MergeProfile
  rw [if_neg (by omega), mergeLoop_none _ _ h]

/-- **The loop ends.** -/
theorem merge_returns (ie : List Byte) (m s : Nat × Element) (maxCopyLen : Nat) :
    ∃ merged, cfg80211MergeProfile api ie m s maxCopyLen = some merged := by
  by_cases hs : s.2.datalen > maxCopyLen
  · exact ⟨[], by unfold cfg80211MergeProfile; rw [if_pos hs]⟩
  · cases h : cfg80211GetProfileContinuation api ie m s with
    | none => exact ⟨_, merge_none (by omega) h⟩
    | some next => exact ⟨_, merge_some (by omega) h⟩

/-- What `cfg80211_merge_profile` copies; its length is what it returns. -/
def mergedProfile (api : ElementApi) (ie : List Byte) (m s : Nat × Element) (maxCopyLen : Nat) : List Byte :=
  (cfg80211MergeProfile api ie m s maxCopyLen).get
    (Option.isSome_iff_exists.mpr (merge_returns ie m s maxCopyLen))

theorem length_mergedProfile (api : ElementApi) (ie : List Byte) (m s : Nat × Element) {maxCopyLen : Nat}
    (hs : s.2.datalen ≤ maxCopyLen) : s.2.datalen ≤ (mergedProfile api ie m s maxCopyLen).length := by
  have hget : ∀ merged, cfg80211MergeProfile api ie m s maxCopyLen = some merged →
      mergedProfile api ie m s maxCopyLen = merged := fun merged h => Option.get_of_eq_some _ h
  cases h : cfg80211GetProfileContinuation api ie m s with
  | none =>
    rw [hget _ (merge_none hs h)]
    exact Nat.le_refl _
  | some next =>
    rw [hget _ (merge_some hs h), List.length_append]
    exact Nat.le_add_right ..

/-! ## Split profiles -/

/-- The first Multiple BSSID element, and what follows it. -/
def nextMbssid : List Element → Option (Element × List Element)
  | [] => none
  | e :: es => if e.id = WLAN_EID_MULTIPLE_BSSID then some (e, es) else nextMbssid es

/-- The first subelement of `m` is `c`, which goes on with a profile; `after` follows it. -/
structure Continues (m c : Element) (after : List Byte) : Prop where
  data : ∃ ind, m.data = ind :: (c.bytes ++ after)
  id : c.id = 0
  two : 2 ≤ c.datalen
  notStart : c.data.getD 0 0 ≠ WLAN_EID_NON_TX_BSSID_CAP

/-- The pieces that go on with a profile of which a piece is followed by `after` in its Multiple BSSID element, and
    that element by `post`: a piece that is the last of its element has the next piece in the next one. -/
inductive Split : List Byte → List Element → List (List Byte) → Prop where
  | done {after : List Byte} {post : List Element}
      (h : 2 ≤ after.length ∨
        ∀ m rest c after', nextMbssid post = some (m, rest) → ¬ Continues m c after') : Split after post []
  | more {after after' : List Byte} {post rest : List Element} {m c : Element} {pieces : List (List Byte)}
      (hlast : after.length < 2) (hnext : nextMbssid post = some (m, rest)) (hc : Continues m c after')
      (h : Split after' rest pieces) : Split after post (c.data :: pieces)

/-- The piece `sub` of a profile, in the Multiple BSSID element `m` of a buffer. -/
structure Layout (ie : List Byte) (m : Nat × Element) (sub : Nat × Element) (after : List Byte) (post : List Element) :
    Prop where
  buffer : ∃ pre tail, ¬ StartsElement tail ∧ ie = pre ++ (m.2.bytes ++ (elementBytes post ++ tail)) ∧
    m.1 = pre.length
  element : ∃ before, m.2.data = before ++ (sub.2.bytes ++ after) ∧ sub.1 = m.1 + 2 + before.length

variable {ie after : List Byte} {m sub : Nat × Element} {post : List Element} {pieces : List (List Byte)}

theorem findFrom_mbssid (post : List Element) : ∀ off : Nat,
    (findFrom (elemMatches WLAN_EID_MULTIPLE_BSSID [] 0) off post).map Prod.snd = (nextMbssid post).map Prod.fst := by
  induction post with
  | nil => exact fun _ => rfl
  | cons e es ih =>
    intro off
    rw [findFrom_cons, nextMbssid]
    by_cases he : e.id = WLAN_EID_MULTIPLE_BSSID
    · rw [if_pos he, if_pos (by simp [elemMatches, he])]
      rfl
    · rw [if_neg he, if_neg (by simp [elemMatches, he])]
      exact ih _

theorem Layout.find (api : ElementApi) (h : Layout ie m sub after post) :
    (cfg80211FindElemMatch api WLAN_EID_MULTIPLE_BSSID (ie.drop (m.1 + 2 + m.2.datalen)) [] 0).map Prod.snd =
      (nextMbssid post).map Prod.fst := by
  obtain ⟨pre, tail, ht, rfl, hm⟩ := h.buffer
  have hlen : m.1 + 2 + m.2.datalen = (pre ++ m.2.bytes).length := by
    rw [List.length_append, m.2.length_bytes]
    omega
  rw [hlen, ← List.append_assoc, List.drop_left]
  unfold cfg80211FindElemMatch ElementApi.forEachElementAt
  rw [api.forEachElement_eq post tail ht]
  exact findFrom_mbssid post 0

theorem Continues.firstSub {n c : Element} (h : Continues n c after) :
    firstSub n = c ∧ 4 ≤ n.datalen ∧ 3 + (n.data.getD 2 0).toNat ≤ n.datalen := by
  obtain ⟨ind, hdata⟩ := h.data
  have hlen : (BitVec.ofNat 8 c.datalen).toNat = c.datalen := by
    rw [BitVec.toNat_ofNat]
    exact Nat.mod_eq_of_lt c.data_lt
  have htwo := h.two
  have hsize : n.datalen = 3 + c.datalen + after.length := by
    unfold Element.datalen
    rw [hdata, List.length_cons, List.length_append, c.length_bytes]
    unfold Element.datalen
    omega
  have h2 : (n.data.getD 2 0).toNat = c.datalen := by
    rw [hdata]
    exact hlen
  refine ⟨?_, by omega, by omega⟩
  obtain ⟨id, data, hlt⟩ := c
  unfold Wireless.firstSub
  congr 1
  · rw [hdata]
    rfl
  · rw [h2, hdata]
    show List.take data.length (data ++ after) = data
    exact List.take_left

theorem continues_firstSub {n : Element} (hlen : 3 + (n.data.getD 2 0).toNat ≤ n.datalen) (h4 : 4 ≤ n.datalen)
    (hid : (firstSub n).id = 0) (htwo : 2 ≤ (firstSub n).datalen)
    (hstart : (firstSub n).data.getD 0 0 ≠ WLAN_EID_NON_TX_BSSID_CAP) :
    Continues n (firstSub n) (n.data.drop (3 + (n.data.getD 2 0).toNat)) := by
  refine ⟨?_, hid, htwo, hstart⟩
  unfold Element.bytes Element.datalen Wireless.firstSub
  unfold Element.datalen at hlen h4
  dsimp only
  match hd : n.data with
  | ind :: id :: len :: rest =>
    rw [hd] at hlen
    have hlen' : len.toNat ≤ rest.length := by
      have hc : 3 + len.toNat ≤ rest.length + 3 := hlen
      omega
    have hb : BitVec.ofNat 8 (rest.take len.toNat).length = len := by
      rw [List.length_take, Nat.min_eq_left hlen', BitVec.ofNat_toNat, BitVec.setWidth_eq]
    refine ⟨ind, ?_⟩
    show ind :: id :: len :: rest = ind :: id :: BitVec.ofNat 8 (rest.take len.toNat).length ::
      (rest.take len.toNat ++ (ind :: id :: len :: rest).drop (3 + len.toNat))
    have hdrop : (ind :: id :: len :: rest).drop (3 + len.toNat) = rest.drop len.toNat := by
      rw [Nat.add_comm]
      rfl
    rw [hb, hdrop, List.take_append_drop]
  | [] => simp [hd] at h4
  | [_] => simp [hd] at h4
  | [_, _] => simp [hd] at h4

theorem Layout.notLast_iff (h : Layout ie m sub after post) :
    sub.1 + 2 + sub.2.datalen < m.1 + 2 + m.2.datalen - 1 ↔ 2 ≤ after.length := by
  obtain ⟨before, hdata, hoff⟩ := h.element
  have hlen : m.2.datalen = before.length + (sub.2.datalen + 2 + after.length) := by
    unfold Element.datalen
    rw [hdata, List.length_append, List.length_append, sub.2.length_bytes]
    rfl
  omega

theorem Layout.continuation_none (api : ElementApi) (h : Layout ie m sub after post)
    (hd : 2 ≤ after.length ∨ ∀ n rest c after', nextMbssid post = some (n, rest) → ¬ Continues n c after') :
    cfg80211GetProfileContinuation api ie m sub = none := by
  have hfind := h.find api
  unfold cfg80211GetProfileContinuation
  dsimp only
  cases hf : cfg80211FindElemMatch api WLAN_EID_MULTIPLE_BSSID (ie.drop (m.1 + 2 + m.2.datalen)) [] 0 with
  | none => rfl
  | some p =>
    rw [hf] at hfind
    obtain ⟨⟨n, rest⟩, hnext, hn⟩ := Option.map_eq_some_iff.mp hfind.symm
    dsimp only at hn
    rw [hn] at hnext
    dsimp only
    by_cases hlast : sub.1 + 2 + sub.2.datalen < m.1 + 2 + m.2.datalen - 1
    · rw [if_pos hlast]
    have hno := hd.resolve_left fun htwo => hlast (h.notLast_iff.mpr htwo)
    rw [if_neg hlast]
    by_cases h4 : p.2.datalen < 4
    · rw [if_pos h4]
    rw [if_neg h4]
    by_cases hin : p.2.datalen < 3 + (p.2.data.getD 2 0).toNat
    · rw [if_pos hin]
    rw [if_neg hin]
    by_cases hid : (firstSub p.2).id ≠ 0 ∨ (firstSub p.2).datalen < 2
    · rw [if_pos hid]
    rw [if_neg hid]
    rw [not_or, not_not] at hid
    by_cases hstart : (firstSub p.2).data.getD 0 0 = WLAN_EID_NON_TX_BSSID_CAP
    · rw [if_pos hstart]
    · exact absurd (continues_firstSub (by omega) (by omega) hid.1 (by omega) hstart) (hno _ _ _ _ hnext)

theorem Layout.continuation_some (api : ElementApi) {n c : Element} {rest : List Element} {after' : List Byte}
    (h : Layout ie m sub after post) (hlast : after.length < 2) (hnext : nextMbssid post = some (n, rest))
    (hc : Continues n c after') :
    ∃ off, cfg80211GetProfileContinuation api ie m sub = some (off, n) := by
  have hfind := h.find api
  obtain ⟨hsub, h4, hin⟩ := hc.firstSub
  rw [hnext] at hfind
  obtain ⟨⟨off, n'⟩, hf, hn⟩ := Option.map_eq_some_iff.mp hfind
  dsimp only [Option.map] at hn
  cases hn
  unfold cfg80211GetProfileContinuation
  dsimp only
  rw [hf]
  dsimp only
  have hid : ¬ (c.id ≠ 0 ∨ c.datalen < 2) := by
    rw [not_or, not_not]
    exact ⟨hc.id, by have := hc.two; omega⟩
  rw [hsub, if_neg (by rw [h.notLast_iff]; omega), if_neg (by omega), if_neg (by omega), if_neg hid,
    if_neg hc.notStart]
  exact ⟨_, rfl⟩

/-! ## The merged profile -/

/-- The second piece, over and over, is what the others are: they fill `room`. -/
def Repeats (room : Nat) : List (List Byte) → Prop
  | [] => True
  | piece :: pieces => pieces.flatten = (List.replicate (room / piece.length - 1) piece).flatten

/-- A Multiple BSSID element with the profile's first piece, which is its Nontransmitted BSSID Capability. -/
def firstHalf : Element := ⟨WLAN_EID_MULTIPLE_BSSID, [1, 0, 4, 83, 2, 0, 0], by decide⟩

def secondHalf : Element := ⟨WLAN_EID_MULTIPLE_BSSID, [1, 0, 3, 0, 1, 65], by decide⟩

def firstPiece : Element := ⟨0, [83, 2, 0, 0], by decide⟩

def secondPiece : Element := ⟨0, [0, 1, 65], by decide⟩

theorem halves_layout (post : List Element) :
    Layout (elementBytes (firstHalf :: post)) (0, firstHalf) (3, firstPiece) [] post := by
  refine ⟨⟨[], [], not_startsElement_nil, ?_, rfl⟩, ⟨[1], rfl, rfl⟩⟩
  rw [elementBytes_cons, List.append_nil]
  rfl

theorem halves_continue : Continues secondHalf secondPiece [] := ⟨⟨1, rfl⟩, rfl, by decide, by decide⟩

theorem halves_split : Split [] [secondHalf] [secondPiece.data] :=
  .more (by decide) rfl halves_continue (.done (.inr nofun))

end Wireless
