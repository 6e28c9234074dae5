import Wifi.Linux.Elements

/-!
# Multiple BSSID elements of a beacon (`linux/net/mac80211/tx.c`, `ieee80211_i.h`, `cfg.c`, `linux/net/wireless/nl80211.c`)

* `nl80211ParseBeacon`, `cfg80211BeaconDup`, `ieee80211AssignBeacon` — how the element lists of a link's beacon come about; `Reaches` — over
  all runs; `Reaches.rnrCovers` — there are no fewer RNR elements than MBSSID elements.
* `ieee80211GetMbssidBeaconLen`, `ieee80211BeaconAddMbssid`, `ieee80211BeaconGetAp` — an access past a count gives `none`.
* `BeaconRight` — the length is that of what is appended, and `mbssid_off` is where it starts.
* `beaconRight_iff` — it is so but for the beacon with all MBSSID elements, which leaves the RNR elements out that the length counts.
-/

namespace Mac80211.MbssidBeacon

/-- **`struct cfg80211_mbssid_elems`, `struct cfg80211_rnr_elems`**: `cnt` is a `u8`. -/
structure Elems where
  elem : List (List Byte)
  cnt_lt : elem.length < 256

def Elems.cnt (elems : Elems) : Nat := elems.elem.length

def Elems.total (elems : Elems) : List Byte := elems.elem.flatten

/-- `for (i = first; i < elems->cnt; i++)`, when `n` turns are left. -/
def Elems.forLoop {σ : Type} (elems : Elems) (body : σ → List Byte → σ) : Nat → Nat → σ → Option σ
  | 0, _, s => some s
  | n + 1, i, s => elems.elem[i]?.bind fun e => elems.forLoop body n (i + 1) (body s e)

/-- The loop from `first` up to the count. -/
def Elems.loop {σ : Type} (elems : Elems) (body : σ → List Byte → σ) (first : Nat) (s : σ) : Option σ :=
  elems.forLoop body (elems.cnt - first) first s

/-! ## The element lists of a beacon -/

/-- `nl80211_parse_mbssid_elems`: `none` for an error. -/
def nl80211ParseMbssidElems (mbssidMaxInterfaces : Nat) (attrs : List (List Byte)) : Option Elems :=
  if mbssidMaxInterfaces = 0 then none
  else if h : attrs.length < 256 then some ⟨attrs, h⟩
  else none

/-- `elems->elem[i]` of every attribute, where `i` is a `u8`; what is written past the array is not in it. -/
def storeElems (slots : List (List Byte)) : Nat → List (List Byte) → List (List Byte)
  | _, [] => slots
  | i, attr :: attrs => storeElems (slots.set (i % 256) attr) (i + 1) attrs

theorem length_storeElems (attrs : List (List Byte)) : ∀ slots i, (storeElems slots i attrs).length = slots.length := by
  induction attrs with
  | nil => exact fun _ _ => rfl
  | cons attr attrs ih =>
    intro slots i
    unfold storeElems
    rw [ih, List.length_set]

def validateIeAttr (api : ElementApi) (attr : List Byte) : Bool := elementBytes (api.forEachElement attr) = attr

/-- `nl80211_parse_rnr_elems`: the attributes are counted in a `u8`. -/
def nl80211ParseRnrElems (api : ElementApi) (attrs : List (List Byte)) : Option Elems :=
  if attrs.all (validateIeAttr api) then
    some
      { elem := storeElems (List.replicate (attrs.length % 256) []) 0 attrs
        cnt_lt := by
          rw [length_storeElems, List.length_replicate]
          omega }
  else none

def IEEE80211_MAX_DATA_LEN : Nat := 2304

/-- `NL80211_ATTR_BEACON_HEAD` is not longer. -/
abbrev Head := { head : List Byte // head.length ≤ IEEE80211_MAX_DATA_LEN }

/-- What `struct cfg80211_beacon_data` has of the beacon's bytes. -/
structure BeaconParams where
  head : Option Head
  tail : Option (List Byte)
  mbssidIes : Option Elems
  rnrIes : Option Elems

/-- The end of `nl80211_parse_beacon`: `none` for an error. -/
def nl80211ParseBeacon (api : ElementApi) (mbssidMaxInterfaces : Nat) (head : Option Head) (tail : Option (List Byte))
    (mbssidElems emaRnrElems : Option (List (List Byte))) : Option BeaconParams :=
  match mbssidElems with
  | none => some ⟨head, tail, none, none⟩
  | some attrs =>
    (nl80211ParseMbssidElems mbssidMaxInterfaces attrs).bind fun mbssid =>
      match emaRnrElems with
      | none => some ⟨head, tail, some mbssid, none⟩
      | some rnrAttrs =>
        (nl80211ParseRnrElems api rnrAttrs).bind fun rnr =>
          if rnr.cnt < mbssid.cnt then none else some ⟨head, tail, some mbssid, some rnr⟩

/-- `cfg80211_beacon_dup`: lists without elements are not copied. -/
def cfg80211BeaconDup (beacon : BeaconParams) : BeaconParams :=
  match beacon.mbssidIes with
  | some mbssid =>
    if mbssid.cnt = 0 then { beacon with mbssidIes := none, rnrIes := none }
    else { beacon with rnrIes := beacon.rnrIes.filter fun rnr => rnr.cnt ≠ 0 }
  | none => { beacon with mbssidIes := none, rnrIes := none }

/-- **`struct beacon_data`** -/
structure BeaconData where
  head : Head
  tail : List Byte
  mbssidIes : Option Elems
  rnrIes : Option Elems

/-- `ieee80211_assign_beacon`: new or old bytes, new or old element lists. -/
def ieee80211AssignBeacon (params : BeaconParams) (old : Option BeaconData) : Option BeaconData :=
  (params.head <|> old.map BeaconData.head).map fun head =>
    { head := head
      tail := ((params.tail <|> old.map BeaconData.tail).getD [])
      mbssidIes := if params.mbssidIes.isSome then params.mbssidIes else old.bind BeaconData.mbssidIes
      rnrIes :=
        if params.mbssidIes.isSome then params.rnrIes
        else if (old.bind BeaconData.mbssidIes).isSome then old.bind BeaconData.rnrIes
        else none }

/-- What nl80211 hands to mac80211, now or, copied, when a switch is over. -/
inductive Accepted (api : ElementApi) (mbssidMaxInterfaces : Nat) : BeaconParams → Prop where
  | parsed {head : Option Head} {tail : Option (List Byte)} {mbssidElems emaRnrElems : Option (List (List Byte))}
      {params : BeaconParams} (h : nl80211ParseBeacon api mbssidMaxInterfaces head tail mbssidElems emaRnrElems = some params) :
      Accepted api mbssidMaxInterfaces params
  | dup {params : BeaconParams} (h : Accepted api mbssidMaxInterfaces params) :
      Accepted api mbssidMaxInterfaces (cfg80211BeaconDup params)

/-- **The beacons of a link**, over every run of starts, changes, switches and stops. -/
inductive Reaches (api : ElementApi) (mbssidMaxInterfaces : Nat) : Option BeaconData → Prop where
  | stopped : Reaches api mbssidMaxInterfaces none
  | assigned {old : Option BeaconData} {params : BeaconParams} {beacon : BeaconData} (hold : Reaches api mbssidMaxInterfaces old)
      (hp : Accepted api mbssidMaxInterfaces params) (h : ieee80211AssignBeacon params old = some beacon) :
      Reaches api mbssidMaxInterfaces (some beacon)

/-! ## Length and bytes -/

def ieee80211GetMbssidBeaconLen (elems rnrElems : Option Elems) (i : Nat) : Option Nat :=
  match elems with
  | none => some 0
  | some elems =>
    if elems.cnt = 0 ∨ elems.cnt < i then some 0
    else if i < elems.cnt then
      elems.elem[i]?.bind fun e =>
        match rnrElems with
        | none => some e.length
        | some rnrElems =>
          rnrElems.elem[i]?.bind fun r =>
            rnrElems.loop (fun len r => len + r.length) elems.cnt (e.length + r.length)
    else
      (elems.loop (fun len e => len + e.length) 0 0).bind fun len =>
        match rnrElems with
        | none => some len
        | some rnrElems => rnrElems.loop (fun len r => len + r.length) 0 len

def ieee80211BeaconAddMbssid (skb : List Byte) (beacon : BeaconData) (i : Nat) : Option (List Byte) :=
  match beacon.mbssidIes with
  | none => some skb
  | some mbssidIes =>
    if mbssidIes.cnt = 0 ∨ mbssidIes.cnt < i then some skb
    else if i < mbssidIes.cnt then
      mbssidIes.elem[i]?.bind fun e =>
        match beacon.rnrIes with
        | none => some (skb ++ e)
        | some rnrIes =>
          if rnrIes.cnt = 0 then some (skb ++ e)
          else
            rnrIes.elem[i]?.bind fun r =>
              rnrIes.loop (fun skb r => skb ++ r) mbssidIes.cnt (skb ++ e ++ r)
    else mbssidIes.loop (fun skb e => skb ++ e) 0 skb

/-- What `ieee80211_beacon_get_ap` gets from other functions. -/
structure BeaconEnv where
  /-- whether there is memory for the frame -/
  alloc : Bool
  /-- `ieee80211_beacon_add_tim` -/
  tim : List Byte
  tim_le : tim.length ≤ 256
  /-- what `ieee80211_beacon_protect` appends, unless it fails -/
  mmie : Option (List Byte)

/-- `struct ieee80211_mutable_offsets`: the fields are `u16`. -/
structure MutableOffsets where
  timOffset : Nat
  timLength : Nat
  mbssidOff : Nat

/-- `ieee80211_beacon_get_ap`: `some none` for `NULL`. -/
def ieee80211BeaconGetAp (env : BeaconEnv) (beacon : BeaconData) (offs : Bool) (emaIndex : Nat) :
    Option (Option (List Byte × Option MutableOffsets)) :=
  (ieee80211GetMbssidBeaconLen beacon.mbssidIes beacon.rnrIes emaIndex).bind fun mbssidLen =>
    if env.alloc then
      let skb := beacon.head.val ++ env.tim
      let timOffset := beacon.head.val.length % 65536
      let timLength := (skb.length - beacon.head.val.length) % 65536
      let finish := fun (skb : List Byte) (offs : Option MutableOffsets) =>
        env.mmie.map fun mmie => (skb ++ beacon.tail ++ mmie, offs)
      if offs then
        if mbssidLen ≠ 0 then
          (ieee80211BeaconAddMbssid skb beacon emaIndex).bind fun skb =>
            some (finish skb (some ⟨timOffset, timLength, (skb.length - mbssidLen) % 65536⟩))
        else some (finish skb (some ⟨timOffset, timLength, 0⟩))
      else some (finish skb none)
    else some none

/-- The first MBSSID element that a beacon of an EMA index has: its own one, or of all of them the first. -/
def BeaconData.firstMbssid (beacon : BeaconData) (i : Nat) : Option (List Byte) :=
  beacon.mbssidIes.bind fun mbssidIes => if i < mbssidIes.cnt then mbssidIes.elem[i]? else mbssidIes.elem[0]?

/-- **Length and bytes agree**; that the results are there says that no access is past a count. -/
structure BeaconRight (beacon : BeaconData) (i : Nat) : Prop where
  agree : ∃ len, ieee80211GetMbssidBeaconLen beacon.mbssidIes beacon.rnrIes i = some len ∧
    ∀ skb, ∃ added, ieee80211BeaconAddMbssid skb beacon i = some (skb ++ added) ∧ added.length = len
  offset : ieee80211GetMbssidBeaconLen beacon.mbssidIes beacon.rnrIes i ≠ some 0 → ∀ env skb offs,
    ieee80211BeaconGetAp env beacon true i = some (some (skb, some offs)) →
      ∃ first rest, beacon.firstMbssid i = some first ∧ skb = beacon.head.val ++ env.tim ++ first ++ rest ∧
        offs.mbssidOff = (beacon.head.val ++ env.tim).length

/-- The beacon does not have all MBSSID elements, or there are no bytes of RNR elements. -/
def NoRnrLeftOut (beacon : BeaconData) (i : Nat) : Prop :=
  ∀ mbssidIes, beacon.mbssidIes = some mbssidIes → i = mbssidIes.cnt → mbssidIes.cnt ≠ 0 →
    ∀ rnrIes, beacon.rnrIes = some rnrIes → rnrIes.total = []

/-! ## The counts -/

/-- There are no fewer RNR elements than MBSSID elements. -/
def RnrCovers (mbssidIes rnrIes : Option Elems) : Prop :=
  ∀ mbssid, mbssidIes = some mbssid → ∀ rnr, rnrIes = some rnr → mbssid.cnt ≤ rnr.cnt

variable {api : ElementApi} {mbssidMaxInterfaces : Nat}

theorem rnrCovers_of_none (mbssidIes : Option Elems) : RnrCovers mbssidIes none := nofun

theorem nl80211ParseBeacon_rnrCovers {head : Option Head} {tail : Option (List Byte)}
    {mbssidElems emaRnrElems : Option (List (List Byte))} {params : BeaconParams}
    (h : nl80211ParseBeacon api mbssidMaxInterfaces head tail mbssidElems emaRnrElems = some params) :
    RnrCovers params.mbssidIes params.rnrIes := by
  unfold nl80211ParseBeacon at h
  cases mbssidElems with
  | none =>
    cases h
    exact rnrCovers_of_none _
  | some attrs =>
    obtain ⟨mbssid, -, h⟩ := Option.bind_eq_some_iff.mp h
    cases emaRnrElems with
    | none =>
      cases h
      exact rnrCovers_of_none _
    | some rnrAttrs =>
      obtain ⟨rnr, -, h⟩ := Option.bind_eq_some_iff.mp h
      by_cases hlt : rnr.cnt < mbssid.cnt
      · rw [if_pos hlt] at h
        cases h
      · rw [if_neg hlt] at h
        cases h
        intro m hm r hr
        cases hm
        cases hr
        exact Nat.not_lt.mp hlt

theorem Accepted.rnrCovers {params : BeaconParams} (h : Accepted api mbssidMaxInterfaces params) :
    RnrCovers params.mbssidIes params.rnrIes := by
  induction h with
  | parsed h => exact nl80211ParseBeacon_rnrCovers h
  | @dup params _ ih =>
    unfold cfg80211BeaconDup
    cases hm : params.mbssidIes with
    | none => exact rnrCovers_of_none _
    | some mbssid =>
      dsimp only
      by_cases hz : mbssid.cnt = 0
      · rw [if_pos hz]
        exact rnrCovers_of_none _
      · rw [if_neg hz]
        intro m hm' r hr
        exact ih m (hm.trans hm') r (Option.filter_eq_some_iff.mp hr).1

/-- **Over every run** there are no fewer RNR elements than MBSSID elements. -/
theorem Reaches.rnrCovers {beacon : BeaconData} (h : Reaches api mbssidMaxInterfaces (some beacon)) :
    RnrCovers beacon.mbssidIes beacon.rnrIes := by
  generalize hb : some beacon = b at h
  induction h generalizing beacon with
  | stopped => cases hb
  | @assigned old params beacon' hold hp h ih =>
    cases hb
    obtain ⟨head, -, rfl⟩ := Option.map_eq_some_iff.mp h
    dsimp only
    by_cases hnew : params.mbssidIes.isSome
    · rw [if_pos hnew, if_pos hnew]
      exact hp.rnrCovers
    · rw [if_neg hnew, if_neg hnew]
      cases old with
      | none => exact rnrCovers_of_none _
      | some oldBeacon =>
        by_cases hm : ((some oldBeacon).bind BeaconData.mbssidIes).isSome
        · rw [if_pos hm]
          exact ih rfl
        · rw [if_neg hm]
          exact rnrCovers_of_none _

/-! ## The loops -/

/-- The loop goes over the elements from `first` on, and reads none past the count. -/
theorem Elems.loop_eq {σ : Type} (elems : Elems) (body : σ → List Byte → σ) (first : Nat) (s : σ) :
    elems.loop body first s = some ((elems.elem.drop first).foldl body s) := by
  have hfor : ∀ n i s, i + n = elems.cnt ∨ n = 0 ∧ elems.cnt ≤ i →
      elems.forLoop body n i s = some ((elems.elem.drop i).foldl body s) := by
    intro n
    induction n with
    | zero =>
      intro i s hi
      have hle : elems.elem.length ≤ i := by
        unfold Elems.cnt at hi
        omega
      rw [List.drop_eq_nil_of_le hle]
      rfl
    | succ n ih =>
      intro i s hi
      have hlt : i < elems.elem.length := by
        unfold Elems.cnt at hi
        omega
      unfold Elems.forLoop
      rw [List.getElem?_eq_getElem hlt, Option.bind_some, ih (i + 1) _ (by omega), List.drop_eq_getElem_cons hlt, List.foldl_cons]
  exact hfor (elems.cnt - first) first s (by omega)

theorem foldl_length (l : List (List Byte)) (len : Nat) : l.foldl (fun len e => len + e.length) len = len + l.flatten.length := by
  induction l generalizing len with
  | nil => rfl
  | cons e l ih =>
    rw [List.foldl_cons, ih, List.flatten_cons, List.length_append, Nat.add_assoc]

theorem foldl_append (l : List (List Byte)) (skb : List Byte) : l.foldl (fun skb e => skb ++ e) skb = skb ++ l.flatten := by
  induction l generalizing skb with
  | nil => exact (List.append_nil skb).symm
  | cons e l ih =>
    rw [List.foldl_cons, ih, List.flatten_cons, List.append_assoc]

/-- The RNR bytes of a beacon with one MBSSID element: the RNR element of its index, and those that are left over. -/
def rnrBytes (rnrIes : Option Elems) (cnt i : Nat) : List Byte :=
  match rnrIes with
  | none => []
  | some rnrIes => rnrIes.elem.getD i [] ++ (rnrIes.elem.drop cnt).flatten

/-- A beacon with one MBSSID element: what is appended, and its length. -/
theorem one_eq {beacon : BeaconData} {mbssidIes : Elems} {i : Nat} (hm : beacon.mbssidIes = some mbssidIes)
    (hcovers : RnrCovers beacon.mbssidIes beacon.rnrIes) (hi : i < mbssidIes.cnt) :
    ∃ e, mbssidIes.elem[i]? = some e ∧
      ieee80211GetMbssidBeaconLen beacon.mbssidIes beacon.rnrIes i = some (e ++ rnrBytes beacon.rnrIes mbssidIes.cnt i).length ∧
        ∀ skb, ieee80211BeaconAddMbssid skb beacon i = some (skb ++ (e ++ rnrBytes beacon.rnrIes mbssidIes.cnt i)) := by
  have hget : mbssidIes.elem[i]? = some mbssidIes.elem[i] := List.getElem?_eq_getElem hi
  have hguard : ¬ (mbssidIes.cnt = 0 ∨ mbssidIes.cnt < i) := by omega
  refine ⟨_, hget, ?_, fun skb => ?_⟩
  · unfold ieee80211GetMbssidBeaconLen
    rw [hm]
    dsimp only
    rw [if_neg hguard, if_pos hi, hget, Option.bind_some]
    cases hr : beacon.rnrIes with
    | none => exact congrArg some (congrArg List.length (List.append_nil _).symm)
    | some rnrIes =>
      have hri : i < rnrIes.elem.length := Nat.lt_of_lt_of_le hi (hcovers _ hm _ hr)
      dsimp only [rnrBytes]
      rw [List.getElem?_eq_getElem hri, Option.bind_some, Elems.loop_eq, foldl_length, List.getD_eq_getElem?_getD,
        List.getElem?_eq_getElem hri, Option.getD_some, List.length_append, List.length_append, Nat.add_assoc]
  · unfold ieee80211BeaconAddMbssid
    rw [hm]
    dsimp only
    rw [if_neg hguard, if_pos hi, hget, Option.bind_some]
    cases hr : beacon.rnrIes with
    | none => exact congrArg some (congrArg (skb ++ ·) (List.append_nil _).symm)
    | some rnrIes =>
      have hri : i < rnrIes.elem.length := Nat.lt_of_lt_of_le hi (hcovers _ hm _ hr)
      have hcnt : rnrIes.cnt ≠ 0 := Nat.ne_of_gt (Nat.lt_of_le_of_lt (Nat.zero_le i) hri)
      dsimp only [rnrBytes]
      rw [if_neg hcnt, List.getElem?_eq_getElem hri, Option.bind_some, Elems.loop_eq, foldl_append, List.getD_eq_getElem?_getD,
        List.getElem?_eq_getElem hri, Option.getD_some, List.append_assoc, List.append_assoc]

/-- The beacon with all of them: the length counts the RNR elements too, and they are not appended. -/
theorem all_eq {beacon : BeaconData} {mbssidIes : Elems} (hm : beacon.mbssidIes = some mbssidIes) (hcnt : mbssidIes.cnt ≠ 0) :
    ieee80211GetMbssidBeaconLen beacon.mbssidIes beacon.rnrIes mbssidIes.cnt =
        some (mbssidIes.total.length + (beacon.rnrIes.elim [] Elems.total).length) ∧
      ∀ skb, ieee80211BeaconAddMbssid skb beacon mbssidIes.cnt = some (skb ++ mbssidIes.total) := by
  have hguard : ¬ (mbssidIes.cnt = 0 ∨ mbssidIes.cnt < mbssidIes.cnt) := by omega
  refine ⟨?_, fun skb => ?_⟩
  · unfold ieee80211GetMbssidBeaconLen
    rw [hm]
    dsimp only
    rw [if_neg hguard, if_neg (Nat.lt_irrefl _), Elems.loop_eq, Option.bind_some, foldl_length, List.drop_zero, Nat.zero_add]
    cases beacon.rnrIes with
    | none => rfl
    | some rnrIes =>
      dsimp only
      rw [Elems.loop_eq, foldl_length, List.drop_zero]
      rfl
  · unfold ieee80211BeaconAddMbssid
    rw [hm]
    dsimp only
    rw [if_neg hguard, if_neg (Nat.lt_irrefl _), Elems.loop_eq, foldl_append, List.drop_zero]
    rfl

theorem nothing_eq {beacon : BeaconData} {i : Nat}
    (h : ∀ mbssidIes, beacon.mbssidIes = some mbssidIes → mbssidIes.cnt = 0 ∨ mbssidIes.cnt < i) :
    ieee80211GetMbssidBeaconLen beacon.mbssidIes beacon.rnrIes i = some 0 ∧
      ∀ skb, ieee80211BeaconAddMbssid skb beacon i = some skb := by
  unfold ieee80211GetMbssidBeaconLen ieee80211BeaconAddMbssid
  cases hm : beacon.mbssidIes with
  | none => exact ⟨rfl, fun _ => rfl⟩
  | some mbssidIes =>
    dsimp only
    rw [if_pos (h mbssidIes hm)]
    exact ⟨rfl, fun skb => if_pos (h mbssidIes hm)⟩

/-! ## Agreement -/

/-- Where the bytes start with the first MBSSID element and have the length, the offset is right. -/
theorem BeaconRight.of_added {beacon : BeaconData} {i : Nat} {added : List Byte} (first rest : List Byte) (hfirst : beacon.firstMbssid i = some first)
    (hadded : added = first ++ rest)
    (hlen : ieee80211GetMbssidBeaconLen beacon.mbssidIes beacon.rnrIes i = some added.length)
    (hadd : ∀ skb, ieee80211BeaconAddMbssid skb beacon i = some (skb ++ added)) : BeaconRight beacon i := by
  refine ⟨⟨_, hlen, fun skb => ⟨added, hadd skb, rfl⟩⟩, fun hne env skb offs h => ?_⟩
  have hnonzero : added.length ≠ 0 := fun hz => hne (hlen.trans (congrArg some hz))
  unfold ieee80211BeaconGetAp at h
  rw [hlen, Option.bind_some] at h
  by_cases halloc : env.alloc
  · rw [if_pos halloc] at h
    dsimp only at h
    rw [if_pos rfl, if_pos hnonzero, hadd, Option.bind_some] at h
    obtain ⟨mmie, -, hframe⟩ := Option.map_eq_some_iff.mp (Option.some.inj h)
    cases hframe
    refine ⟨first, rest ++ beacon.tail ++ mmie, hfirst, ?_, ?_⟩
    · simp only [hadded, List.append_assoc]
    · -- the head and the TIM are far from the end of a `u16`
      have hhead := beacon.head.property
      have htim := env.tim_le
      unfold IEEE80211_MAX_DATA_LEN at hhead
      dsimp only
      rw [List.length_append, Nat.add_sub_cancel]
      apply Nat.mod_eq_of_lt
      rw [List.length_append]
      omega
  · rw [if_neg halloc] at h
    cases h

/-- **Length and bytes agree exactly** where the beacon does not have all MBSSID elements, or there are no bytes of RNR elements. -/
theorem beaconRight_iff {beacon : BeaconData} (hreach : Reaches api mbssidMaxInterfaces (some beacon)) (i : Nat) :
    BeaconRight beacon i ↔ NoRnrLeftOut beacon i := by
  constructor
  · intro h mbssidIes hm hi hcnt rnrIes hr
    subst hi
    obtain ⟨hlen, hadd⟩ := all_eq hm hcnt
    obtain ⟨len, hlen', hadd'⟩ := h.agree
    obtain ⟨added, hadded, hsame⟩ := hadd' []
    rw [hadd] at hadded
    rw [hlen, hr] at hlen'
    have h1 := Option.some.inj hadded
    have h2 := Option.some.inj hlen'
    rw [List.nil_append, List.nil_append] at h1
    rw [← h1] at hsame
    apply List.eq_nil_of_length_eq_zero
    dsimp only [Option.elim] at h2
    omega
  · intro h
    cases hm : beacon.mbssidIes with
    | none =>
      obtain ⟨hlen, hadd⟩ := nothing_eq (i := i) (fun _ hm' => nomatch hm.symm.trans hm')
      refine ⟨⟨0, hlen, fun skb => ⟨[], ?_, rfl⟩⟩, fun hne => absurd hlen hne⟩
      rw [List.append_nil, hadd]
    | some mbssidIes =>
      by_cases hnothing : mbssidIes.cnt = 0 ∨ mbssidIes.cnt < i
      · obtain ⟨hlen, hadd⟩ := nothing_eq (i := i) (fun _ hm' => Option.some.inj (hm.symm.trans hm') ▸ hnothing)
        refine ⟨⟨0, hlen, fun skb => ⟨[], ?_, rfl⟩⟩, fun hne => absurd hlen hne⟩
        rw [List.append_nil, hadd]
      · rw [not_or, Nat.not_lt] at hnothing
        rcases Nat.lt_or_eq_of_le hnothing.2 with hi | hi
        · obtain ⟨e, he, hlen, hadd⟩ := one_eq hm hreach.rnrCovers hi
          refine .of_added e _ ?_ rfl hlen hadd
          unfold BeaconData.firstMbssid
          rw [hm, Option.bind_some, if_pos hi, he]
        · subst hi
          obtain ⟨hlen, hadd⟩ := all_eq hm hnothing.1
          have hrnr : (beacon.rnrIes.elim [] Elems.total).length = 0 := by
            cases hr : beacon.rnrIes with
            | none => rfl
            | some rnrIes => exact congrArg List.length (h mbssidIes hm rfl hnothing.1 rnrIes hr)
          rw [hrnr, Nat.add_zero] at hlen
          obtain ⟨e, rest, helem⟩ := List.exists_cons_of_length_pos (Nat.pos_of_ne_zero hnothing.1)
          refine .of_added e rest.flatten ?_ ?_ hlen hadd
          · unfold BeaconData.firstMbssid
            rw [hm, Option.bind_some, if_neg (Nat.lt_irrefl _), helem]
            rfl
          · unfold Elems.total
            rw [helem, List.flatten_cons]

/-! ## One element of each -/

/-- A beacon with one MBSSID element, and one RNR element. -/
def oneEach : BeaconData where
  head := ⟨[0x80, 0], by decide⟩
  tail := [0x2a, 1, 0]
  mbssidIes := some ⟨[[71, 1, 1]], by decide⟩
  rnrIes := some ⟨[[201, 0]], by decide⟩

theorem oneEach_reaches : Reaches .linux 1 (some oneEach) := by
  have hparsed : nl80211ParseBeacon .linux 1 (some oneEach.head) (some oneEach.tail) (some [[71, 1, 1]]) (some [[201, 0]]) =
      some ⟨some oneEach.head, some oneEach.tail, oneEach.mbssidIes, oneEach.rnrIes⟩ := rfl
  exact .assigned .stopped (.parsed hparsed) rfl

/-- The beacon of index 0 has both. -/
theorem first_index_right : BeaconRight oneEach 0 := by
  refine (beaconRight_iff oneEach_reaches 0).mpr (fun mbssidIes hm hi hcnt => ?_)
  exact absurd hi.symm hcnt

/-- The beacon with all MBSSID elements: five bytes are reserved, three are appended, and the offset lies in the TIM. -/
theorem all_elements_offset :
    Reaches .linux 1 (some oneEach) ∧ ieee80211GetMbssidBeaconLen oneEach.mbssidIes oneEach.rnrIes 1 = some 5 ∧
      ieee80211BeaconAddMbssid [] oneEach 1 = some [71, 1, 1] ∧
        (ieee80211BeaconGetAp ⟨true, [5, 4, 0, 1, 0, 0], by decide, some []⟩ oneEach true 1).map
            (·.map fun result => (result.1, result.2.map MutableOffsets.mbssidOff)) =
          some (some ([0x80, 0, 5, 4, 0, 1, 0, 0, 71, 1, 1, 0x2a, 1, 0], some 6)) ∧ ¬ BeaconRight oneEach 1 := by
  refine ⟨oneEach_reaches, by decide, by decide, by decide, fun h => ?_⟩
  obtain ⟨len, hlen, hadd⟩ := h.agree
  obtain ⟨added, hadded, hsame⟩ := hadd []
  have hlen' : ieee80211GetMbssidBeaconLen oneEach.mbssidIes oneEach.rnrIes 1 = some 5 := by decide
  have hadd' : ieee80211BeaconAddMbssid [] oneEach 1 = some [71, 1, 1] := by decide
  rw [hlen'] at hlen
  rw [hadd'] at hadded
  cases hlen
  cases hadded
  cases hsame

end Mac80211.MbssidBeacon
