import Mathlib.Data.List.GetD
import Mathlib.Tactic.SplitIfs
import Wifi.Lib.Delimited
import Wifi.Linux.Elements

/-!
# Reduced neighbor reports (`linux/net/wireless/scan.c`)

* `cfg80211IterRnr` — `cfg80211_iter_rnr`, with the calls of its callback recorded.
* `Neighbor` — a neighbor AP info with as many TBTT infos as it says; `neighbor_delimited` — it says where it ends.
* `callAll` — a callback is called for one TBTT info after the other; `rnrLoop_spec` — the iteration does that.
* `IterRight` — what should hold of an iteration; `iterRight` — it does.
-/

namespace Wireless.Rnr

open Delimited

def WLAN_EID_REDUCED_NEIGHBOR_REPORT : Byte := 201

/-- **`struct ieee80211_neighbor_ap_info`** -/
structure NeighborApInfo where
  tbttInfoHdr : Byte
  tbttInfoLen : Byte
  opClass : Byte
  channel : Byte
  deriving DecidableEq

/-- `u8_get_bits(info->tbtt_info_hdr, IEEE80211_AP_INFO_TBTT_HDR_COUNT) + 1` -/
def NeighborApInfo.count (info : NeighborApInfo) : Nat := info.tbttInfoHdr.toNat / 16 + 1

/-- `u8_get_bits(info->tbtt_info_hdr, IEEE80211_AP_INFO_TBTT_HDR_TYPE)` -/
def NeighborApInfo.type (info : NeighborApInfo) : Nat := info.tbttInfoHdr.toNat % 4

def NeighborApInfo.length (info : NeighborApInfo) : Nat := info.tbttInfoLen.toNat

def NeighborApInfo.bytes (info : NeighborApInfo) : List Byte := [info.tbttInfoHdr, info.tbttInfoLen, info.opClass, info.channel]

/-- `(void *)pos` -/
def infoAt (data : List Byte) (pos : Nat) : NeighborApInfo where
  tbttInfoHdr := data.getD pos 0
  tbttInfoLen := data.getD (pos + 1) 0
  opClass := data.getD (pos + 2) 0
  channel := data.getD (pos + 3) 0

/-- `enum cfg80211_rnr_iter_ret` -/
inductive RnrIterRet where
  | continue
  | break
  | error
  deriving DecidableEq

/-- What a callback is called with: where the two pointers are, and what they point to. -/
structure Tbtt where
  rnr : Element
  infoPos : Nat
  pos : Nat
  type : Nat
  info : NeighborApInfo
  tbttInfo : List Byte
  length : Nat
  deriving DecidableEq

variable {σ : Type}

/-- A callback, with its `data`. -/
abbrev Iter (σ : Type) : Type := σ → Tbtt → RnrIterRet × σ

/-- The callback's data, and the calls so far with what they gave. -/
structure Run (σ : Type) where
  data : σ
  calls : List (Tbtt × RnrIterRet)

def Run.call (iter : Iter σ) (s : Run σ) (t : Tbtt) : RnrIterRet × Run σ :=
  ((iter s.data t).1, ⟨(iter s.data t).2, s.calls ++ [(t, (iter s.data t).1)]⟩)

/-- `for (i = 0; i < count; i++)`, with `n` turns left: where the cursor is then, unless the function returns. -/
def tbttLoop (iter : Iter σ) (rnr : Element) (infoPos : Nat) (info : NeighborApInfo) : Nat → Nat → Run σ → Run σ × Except Bool Nat
  | 0, pos, s => (s, .ok pos)
  | n + 1, pos, s =>
    let r := s.call iter ⟨rnr, infoPos, pos, info.type, info, (rnr.data.drop pos).take info.length, info.length⟩
    match r.1 with
    | .continue => tbttLoop iter rnr infoPos info n (pos + info.length) r.2
    | .break => (r.2, .error true)
    | .error => (r.2, .error false)

/-- `while (sizeof(*info) <= end - pos)` in one element; `none` if the turns do not suffice. -/
def infoLoop (iter : Iter σ) (rnr : Element) : Nat → Nat → Run σ → Option (Run σ × Except Bool Unit)
  | 0, _, _ => none
  | n + 1, pos, s =>
    if 4 ≤ rnr.datalen - pos then
      let info := infoAt rnr.data pos
      if rnr.datalen - (pos + 4) < info.count * info.length then some (s, .error false)
      else
        match tbttLoop iter rnr pos info info.count (pos + 4) s with
        | (s, .ok pos) => infoLoop iter rnr n pos s
        | (s, .error ret) => some (s, .error ret)
    else if pos ≠ rnr.datalen then some (s, .error false)
    else some (s, .ok ())

def rnrLoop (iter : Iter σ) (fuel : Nat) : List Element → Run σ → Option (Run σ × Bool)
  | [], s => some (s, true)
  | rnr :: rnrs, s =>
    match infoLoop iter rnr fuel 0 s with
    | none => none
    | some (s, .ok ()) => rnrLoop iter fuel rnrs s
    | some (s, .error ret) => some (s, ret)

/-- The elements that `for_each_element_id` visits. -/
def rnrElements (api : ElementApi) (elems : List Byte) : List Element :=
  (api.forEachElement elems).filter fun e => e.id = WLAN_EID_REDUCED_NEIGHBOR_REPORT

/-- **`cfg80211_iter_rnr`**, with so many turns for the loop of an element. -/
def cfg80211IterRnr (api : ElementApi) (fuel : Nat) (elems : List Byte) (iter : Iter σ) (iterData : σ) : Option (Run σ × Bool) :=
  rnrLoop iter fuel (rnrElements api elems) ⟨iterData, []⟩

/-! ## Well-formed reports -/

/-- **A neighbor AP info**, with the TBTT infos that it announces. -/
structure Neighbor where
  info : NeighborApInfo
  tbtts : List (List Byte)
  count_eq : tbtts.length = info.count
  length_eq : ∀ t ∈ tbtts, t.length = info.length

def Neighbor.bytes (nb : Neighbor) : List Byte := nb.info.bytes ++ nb.tbtts.flatten

theorem length_flatten_of {l : List (List Byte)} {len : Nat} (h : ∀ t ∈ l, t.length = len) : l.flatten.length = l.length * len := by
  induction l with
  | nil => simp
  | cons t l ih =>
    rw [List.flatten_cons, List.length_append, h t List.mem_cons_self, ih fun t ht => h t (List.mem_cons_of_mem _ ht), List.length_cons,
      Nat.add_mul, Nat.one_mul, Nat.add_comm]

theorem Neighbor.length_bytes (nb : Neighbor) : nb.bytes.length = 4 + nb.info.count * nb.info.length := by
  unfold Neighbor.bytes
  rw [List.length_append, length_flatten_of nb.length_eq, nb.count_eq]
  rfl

/-- Lists of one length, flattened, are known from what a buffer starts with. -/
theorem flatten_inj {len : Nat} {x y : List Byte} (l : List (List Byte)) : ∀ l' : List (List Byte), l.length = l'.length →
    (∀ t ∈ l, t.length = len) → (∀ t ∈ l', t.length = len) → l.flatten ++ x = l'.flatten ++ y → l = l' ∧ x = y := by
  induction l with
  | nil =>
    intro l' hcount _ _ heq
    obtain rfl := List.eq_nil_of_length_eq_zero hcount.symm
    exact ⟨rfl, heq⟩
  | cons t l ih =>
    intro l' hcount hl hl' heq
    cases l' with
    | nil => cases hcount
    | cons t' l' =>
      rw [List.flatten_cons, List.flatten_cons, List.append_assoc, List.append_assoc] at heq
      have hlen : t.length = t'.length := (hl t List.mem_cons_self).trans (hl' t' List.mem_cons_self).symm
      obtain ⟨rfl, htail⟩ := List.append_inj heq hlen
      obtain ⟨rfl, hxy⟩ := ih l' (Nat.succ.inj hcount) (fun t ht => hl t (List.mem_cons_of_mem _ ht))
        (fun t ht => hl' t (List.mem_cons_of_mem _ ht)) htail
      exact ⟨rfl, hxy⟩

theorem neighbor_delimited : SelfDelimiting Neighbor.bytes where
  length_pos nb := by
    rw [nb.length_bytes]
    omega
  inj := by
    rintro ⟨info, tbtts, hcount, hlen⟩ ⟨info', tbtts', hcount', hlen'⟩ x y heq
    unfold Neighbor.bytes at heq
    rw [List.append_assoc, List.append_assoc] at heq
    obtain ⟨hinfo, htail⟩ := List.append_inj heq rfl
    obtain rfl : info = info' := by
      cases info
      cases info'
      cases hinfo
      rfl
    obtain ⟨rfl, hxy⟩ := flatten_inj tbtts tbtts' (hcount.trans hcount'.symm) hlen hlen' htail
    exact ⟨rfl, hxy⟩

def pieces (len : Nat) : Nat → List Byte → List (List Byte)
  | 0, _ => []
  | n + 1, buf => buf.take len :: pieces len n (buf.drop len)

theorem pieces_spec (len n : Nat) : ∀ buf : List Byte, n * len ≤ buf.length →
    (pieces len n buf).length = n ∧ (∀ t ∈ pieces len n buf, t.length = len) ∧ (pieces len n buf).flatten = buf.take (n * len) := by
  induction n with
  | zero =>
    intro buf _
    refine ⟨rfl, fun t ht => (nomatch ht), ?_⟩
    rw [Nat.zero_mul]
    rfl
  | succ n ih =>
    intro buf hle
    rw [Nat.add_mul, Nat.one_mul] at hle
    obtain ⟨hcount, hlen, hflat⟩ := ih (buf.drop len) (by rw [List.length_drop]; omega)
    unfold pieces
    refine ⟨congrArg Nat.succ hcount, fun t ht => ?_, ?_⟩
    · rcases List.mem_cons.mp ht with rfl | ht
      · rw [List.length_take]
        omega
      · exact hlen t ht
    · rw [List.flatten_cons, hflat, Nat.add_mul, Nat.one_mul, Nat.add_comm, List.take_add]

/-- A buffer that holds a header, and what the header announces, starts with a neighbor AP info. -/
theorem starts_of_le {info : NeighborApInfo} {buf : List Byte} (h : info.count * info.length ≤ buf.length) :
    Starts Neighbor.bytes (info.bytes ++ buf) := by
  obtain ⟨hcount, hlen, hflat⟩ := pieces_spec info.length info.count buf h
  refine ⟨⟨info, pieces info.length info.count buf, hcount, hlen⟩, buf.drop (info.count * info.length), ?_⟩
  unfold Neighbor.bytes
  rw [hflat, List.append_assoc, List.take_append_drop]

/-! ## The calls -/

/-- A callback is called for one TBTT info after the other, until it ends the iteration. -/
def callAll (iter : Iter σ) : Run σ → List Tbtt → Run σ × Except Bool Unit
  | s, [] => (s, .ok ())
  | s, t :: ts =>
    match (s.call iter t).1 with
    | .continue => callAll iter (s.call iter t).2 ts
    | .break => ((s.call iter t).2, .error true)
    | .error => ((s.call iter t).2, .error false)

/-- The TBTT infos behind a neighbor AP info. -/
def tbttsAt (rnr : Element) (infoPos : Nat) (info : NeighborApInfo) : Nat → List (List Byte) → List Tbtt
  | _, [] => []
  | pos, t :: ts => ⟨rnr, infoPos, pos, info.type, info, t, info.length⟩ :: tbttsAt rnr infoPos info (pos + info.length) ts

/-- **The TBTT infos of an element**, in order, from a position on. -/
def tbttsFrom (rnr : Element) : Nat → List Neighbor → List Tbtt
  | _, [] => []
  | pos, nb :: nbs => tbttsAt rnr pos nb.info (pos + 4) nb.tbtts ++ tbttsFrom rnr (pos + nb.bytes.length) nbs

theorem callAll_cons (iter : Iter σ) (s : Run σ) (t : Tbtt) (ts : List Tbtt) : callAll iter s (t :: ts) =
    match (s.call iter t).1 with
    | .continue => callAll iter (s.call iter t).2 ts
    | .break => ((s.call iter t).2, .error true)
    | .error => ((s.call iter t).2, .error false) := rfl

theorem callAll_append (iter : Iter σ) (ts us : List Tbtt) : ∀ s : Run σ, callAll iter s (ts ++ us) =
    match callAll iter s ts with
    | (s', .ok ()) => callAll iter s' us
    | (s', .error ret) => (s', .error ret) := by
  induction ts with
  | nil => exact fun _ => rfl
  | cons t ts ih =>
    intro s
    rw [List.cons_append, callAll_cons, callAll_cons]
    cases (s.call iter t).1 with
    | «continue» => exact ih _
    | «break» => rfl
    | error => rfl

theorem callAll_calls (iter : Iter σ) (ts : List Tbtt) : ∀ s : Run σ, ∃ new : List (Tbtt × RnrIterRet),
    (callAll iter s ts).1.calls = s.calls ++ new ∧
      match (callAll iter s ts).2 with
      | .ok () => new.map Prod.fst = ts ∧ ∀ c ∈ new, c.2 = .continue
      | .error ret => new.map Prod.fst <+: ts ∧ (∃ c ∈ new, c.2 ≠ .continue) ∧
          ∀ c ∈ new, c.2 ≠ .continue → c.2 = if ret then .break else .error := by
  induction ts with
  | nil => exact fun s => ⟨[], (List.append_nil _).symm, rfl, fun c hc => nomatch hc⟩
  | cons t ts ih =>
    intro s
    have hcalls : (s.call iter t).2.calls = s.calls ++ [(t, (s.call iter t).1)] := rfl
    rw [callAll_cons]
    cases hret : (s.call iter t).1 with
    | «continue» =>
      obtain ⟨new, hnew, hcase⟩ := ih (s.call iter t).2
      refine ⟨(t, .continue) :: new, ?_, ?_⟩
      · dsimp only
        rw [hnew, hcalls, hret, List.append_assoc]
        rfl
      · dsimp only
        cases hres : (callAll iter (s.call iter t).2 ts).2 with
        | ok u =>
          rw [hres] at hcase
          refine ⟨congrArg (t :: ·) hcase.1, fun c hc => ?_⟩
          rcases List.mem_cons.mp hc with rfl | hc
          · rfl
          · exact hcase.2 c hc
        | error ret =>
          rw [hres] at hcase
          obtain ⟨hpre, ⟨c, hc, hc2⟩, hall⟩ := hcase
          refine ⟨(List.prefix_cons_inj t).mpr hpre, ⟨c, List.mem_cons_of_mem _ hc, hc2⟩, fun c' hc' hne => ?_⟩
          rcases List.mem_cons.mp hc' with rfl | hc'
          · exact absurd rfl hne
          · exact hall c' hc' hne
    | «break» =>
      refine ⟨[(t, .break)], hcalls.trans (by rw [hret]), (List.prefix_cons_inj t).mpr List.nil_prefix,
        ⟨(t, .break), List.mem_singleton_self _, nofun⟩, fun c hc _ => ?_⟩
      rw [List.mem_singleton.mp hc]
      rfl
    | error =>
      refine ⟨[(t, .error)], hcalls.trans (by rw [hret]), (List.prefix_cons_inj t).mpr List.nil_prefix,
        ⟨(t, .error), List.mem_singleton_self _, nofun⟩, fun c hc _ => ?_⟩
      rw [List.mem_singleton.mp hc]
      rfl

/-! ## The loops -/

/-- The loop of a neighbor AP info calls for its TBTT infos. -/
theorem tbttLoop_eq (iter : Iter σ) {rnr : Element} (infoPos : Nat) {info : NeighborApInfo} (tbtts : List (List Byte))
    (hlen : ∀ t ∈ tbtts, t.length = info.length) : ∀ (before after : List Byte) (s : Run σ),
    rnr.data = before ++ tbtts.flatten ++ after →
      tbttLoop iter rnr infoPos info tbtts.length before.length s =
        ((callAll iter s (tbttsAt rnr infoPos info before.length tbtts)).1,
          (callAll iter s (tbttsAt rnr infoPos info before.length tbtts)).2.map fun _ => before.length + tbtts.flatten.length) := by
  induction tbtts with
  | nil => exact fun before after s _ => rfl
  | cons t ts ih =>
    intro before after s hdata
    have ht : t.length = info.length := hlen t List.mem_cons_self
    have htake : (rnr.data.drop before.length).take info.length = t := by
      rw [hdata, List.flatten_cons, List.append_assoc, List.append_assoc, List.drop_left, ← ht, List.take_left]
    have hnext := ih (fun u hu => hlen u (List.mem_cons_of_mem _ hu)) (before ++ t) after
    rw [List.length_append, ht] at hnext
    rw [List.length_cons]
    unfold tbttLoop tbttsAt
    rw [htake, callAll_cons]
    dsimp only
    cases (s.call iter ⟨rnr, infoPos, before.length, info.type, info, t, info.length⟩).1 with
    | «continue» =>
      dsimp only
      rw [hnext _ (by rw [hdata, List.flatten_cons, List.append_assoc before t])]
      rw [List.flatten_cons, List.length_append, ht, Nat.add_assoc]
    | «break» => rfl
    | error => rfl

theorem infoAt_append (before : List Byte) (info : NeighborApInfo) (after : List Byte) :
    infoAt (before ++ (info.bytes ++ after)) before.length = info := by
  have hget : ∀ i, (before ++ (info.bytes ++ after)).getD (before.length + i) 0 = (info.bytes ++ after).getD i 0 := by
    intro i
    rw [List.getD_append_right _ _ _ _ (Nat.le_add_right _ _), Nat.add_sub_cancel_left]
  have hfirst := hget 0
  rw [Nat.add_zero] at hfirst
  unfold infoAt
  rw [hget 1, hget 2, hget 3, hfirst]
  rfl

theorem exists_info {buf : List Byte} (h : 4 ≤ buf.length) : ∃ (info : NeighborApInfo) (after : List Byte), buf = info.bytes ++ after := by
  match buf, h with
  | hdr :: len :: op :: chan :: after, _ => exact ⟨⟨hdr, len, op, chan⟩, after, rfl⟩

/-- How an element ends: nothing may be left. -/
def finishElement (rest : List Byte) : Except Bool Unit → Except Bool Unit
  | .ok () => if rest = [] then .ok () else .error false
  | .error ret => .error ret

/-- **The loop of an element** calls for the TBTT infos of its neighbor AP infos. -/
theorem infoLoop_eq (iter : Iter σ) {rnr : Element} {rest : List Byte} (hrest : ¬ Starts Neighbor.bytes rest) (nbs : List Neighbor) :
    ∀ (before : List Byte) (s : Run σ) (fuel : Nat), rnr.data = before ++ (nbs.flatMap Neighbor.bytes ++ rest) → nbs.length < fuel →
      infoLoop iter rnr fuel before.length s = some ((callAll iter s (tbttsFrom rnr before.length nbs)).1,
        finishElement rest (callAll iter s (tbttsFrom rnr before.length nbs)).2) := by
  induction nbs with
  | nil =>
    intro before s fuel hdata hfuel
    obtain ⟨n, rfl⟩ := Nat.exists_eq_succ_of_ne_zero (Nat.ne_of_gt hfuel)
    rw [List.flatMap_nil, List.nil_append] at hdata
    have hlen : rnr.datalen = before.length + rest.length := by
      unfold Element.datalen
      rw [hdata, List.length_append]
    unfold infoLoop finishElement
    dsimp only [tbttsFrom, callAll]
    by_cases h4 : 4 ≤ rnr.datalen - before.length
    · obtain ⟨info, after, rfl⟩ := exists_info (show 4 ≤ rest.length by omega)
      -- what is left does not hold what its header announces
      have hshort : after.length < info.count * info.length := Nat.not_le.mp fun hle => hrest (starts_of_le hle)
      have hafter : rnr.datalen - (before.length + 4) = after.length := by
        rw [hlen, List.length_append]
        show before.length + (4 + after.length) - (before.length + 4) = after.length
        omega
      rw [if_pos h4, hdata, infoAt_append, hafter, if_pos hshort, if_neg nofun]
    · rw [if_neg h4]
      by_cases hnil : rest = []
      · subst hnil
        rw [if_pos rfl, if_neg (by rw [hlen]; exact fun h => h rfl)]
      · have hpos := List.length_pos_iff.mpr hnil
        rw [if_neg hnil, if_pos (by omega)]
  | cons nb nbs ih =>
    intro before s fuel hdata hfuel
    obtain ⟨n, rfl⟩ := Nat.exists_eq_succ_of_ne_zero (Nat.ne_of_gt (Nat.lt_of_le_of_lt (Nat.zero_le _) hfuel))
    rw [List.flatMap_cons, List.append_assoc] at hdata
    have hlen : rnr.datalen = before.length + (nb.bytes.length + (nbs.flatMap Neighbor.bytes ++ rest).length) := by
      unfold Element.datalen
      rw [hdata, List.length_append, List.length_append]
    have hbytes := nb.length_bytes
    have hinfo : infoAt rnr.data before.length = nb.info := by
      rw [hdata]
      unfold Neighbor.bytes
      rw [List.append_assoc]
      exact infoAt_append before nb.info _
    have htbtts : rnr.data = (before ++ nb.info.bytes) ++ nb.tbtts.flatten ++ (nbs.flatMap Neighbor.bytes ++ rest) := by
      rw [hdata]
      unfold Neighbor.bytes
      simp only [List.append_assoc]
    have hloop := tbttLoop_eq iter before.length nb.tbtts nb.length_eq _ _ s htbtts
    have hpos : (before ++ nb.info.bytes).length = before.length + 4 := List.length_append
    have hend : before.length + 4 + nb.tbtts.flatten.length = (before ++ nb.bytes).length := by
      rw [List.length_append, hbytes, length_flatten_of nb.length_eq, nb.count_eq, Nat.add_assoc]
    rw [hpos, nb.count_eq, hend] at hloop
    have hnext := ih (before ++ nb.bytes)
    unfold infoLoop tbttsFrom
    rw [if_pos (by omega), hinfo]
    dsimp only
    rw [if_neg (by omega), hloop, callAll_append]
    rw [List.length_append] at hnext ⊢
    cases hres : callAll iter s (tbttsAt rnr before.length nb.info (before.length + 4) nb.tbtts) with
    | mk s' res =>
      cases res with
      | ok u => exact hnext s' n (by rw [hdata, List.append_assoc]) (Nat.lt_of_succ_lt_succ hfuel)
      | error ret => rfl

/-! ## Iterations -/

/-- **A call that lies inside an element**, with what stands there. -/
structure Inside (rnr : Element) (t : Tbtt) : Prop where
  rnr_eq : t.rnr = rnr
  info_le : t.infoPos + 4 ≤ t.pos
  pos_le : t.pos + t.length ≤ rnr.datalen
  info_eq : t.info = infoAt rnr.data t.infoPos
  type_eq : t.type = t.info.type
  length_eq : t.length = t.info.length
  tbttInfo_eq : t.tbttInfo = (rnr.data.drop t.pos).take t.length

theorem inside_of_mem_tbttsAt {rnr : Element} {infoPos : Nat} {info : NeighborApInfo} {t : Tbtt} (hinfo : info = infoAt rnr.data infoPos)
    (tbtts : List (List Byte)) (hlen : ∀ t ∈ tbtts, t.length = info.length) : ∀ before after : List Byte,
    rnr.data = before ++ tbtts.flatten ++ after → infoPos + 4 ≤ before.length → t ∈ tbttsAt rnr infoPos info before.length tbtts →
      Inside rnr t := by
  induction tbtts with
  | nil => exact nofun
  | cons u us ih =>
    intro before after hdata hle ht
    have hu : u.length = info.length := hlen u List.mem_cons_self
    rw [List.flatten_cons] at hdata
    rcases List.mem_cons.mp ht with rfl | ht
    · refine ⟨rfl, hle, ?_, hinfo, rfl, rfl, ?_⟩
      · unfold Element.datalen
        simp only [hdata, List.length_append]
        omega
      · rw [hdata, List.append_assoc, List.append_assoc, List.drop_left, ← hu, List.take_left]
    · refine ih (fun v hv => hlen v (List.mem_cons_of_mem _ hv)) (before ++ u) after ?_ ?_ ?_
      · rw [hdata, List.append_assoc before u]
      · rw [List.length_append]
        omega
      · rw [List.length_append, hu]
        exact ht

theorem inside_of_mem_tbttsFrom {rnr : Element} {rest : List Byte} {t : Tbtt} (nbs : List Neighbor) : ∀ before : List Byte,
    rnr.data = before ++ (nbs.flatMap Neighbor.bytes ++ rest) → t ∈ tbttsFrom rnr before.length nbs → Inside rnr t := by
  induction nbs with
  | nil => exact nofun
  | cons nb nbs ih =>
    intro before hdata ht
    rw [List.flatMap_cons, List.append_assoc] at hdata
    unfold tbttsFrom at ht
    rcases List.mem_append.mp ht with ht | ht
    · have hinfo : nb.info = infoAt rnr.data before.length := by
        rw [hdata]
        unfold Neighbor.bytes
        rw [List.append_assoc]
        exact (infoAt_append before nb.info _).symm
      have hpos : (before ++ nb.info.bytes).length = before.length + 4 := List.length_append
      rw [← hpos] at ht
      refine inside_of_mem_tbttsAt hinfo nb.tbtts nb.length_eq _ (nbs.flatMap Neighbor.bytes ++ rest) ?_ (Nat.le_of_eq hpos.symm) ht
      rw [hdata]
      unfold Neighbor.bytes
      simp only [List.append_assoc]
    · refine ih (before ++ nb.bytes) (by rw [hdata, List.append_assoc]) ?_
      rw [List.length_append]
      exact ht

theorem length_le_flatMap (nbs : List Neighbor) : nbs.length ≤ (nbs.flatMap Neighbor.bytes).length := by
  induction nbs with
  | nil => exact Nat.zero_le _
  | cons nb nbs ih =>
    have hpos := neighbor_delimited.length_pos nb
    rw [List.flatMap_cons, List.length_append, List.length_cons]
    omega

def finish (complete : Bool) (r : Run σ × Except Bool Unit) : Run σ × Bool :=
  match r.2 with
  | .ok () => (r.1, complete)
  | .error ret => (r.1, ret)

def AreNeighbors (rnrs : List Element) (parts : List (Element × List Neighbor)) : Prop :=
  parts.map Prod.fst = rnrs ∧ ∀ p ∈ parts, p.1.data = p.2.flatMap Neighbor.bytes

/-- **The iteration calls** for TBTT infos that lie inside the elements, for all of them where these are well-formed. -/
theorem rnrLoop_spec (iter : Iter σ) (rnrs : List Element) :
    ∃ (ts : List Tbtt) (complete : Bool),
      (∀ fuel, 256 ≤ fuel → ∀ s : Run σ, rnrLoop iter fuel rnrs s = some (finish complete (callAll iter s ts))) ∧
      (∀ t ∈ ts, ∃ rnr ∈ rnrs, Inside rnr t) ∧ (complete = true ↔ ∀ rnr ∈ rnrs, WellFormed Neighbor.bytes rnr.data) ∧
        ∀ parts, AreNeighbors rnrs parts → ts = parts.flatMap fun p => tbttsFrom p.1 0 p.2 := by
  induction rnrs with
  | nil =>
    refine ⟨[], true, fun _ _ s => rfl, fun t ht => (nomatch ht), ⟨fun _ rnr h => (nomatch h), fun _ => rfl⟩, fun parts hparts => ?_⟩
    rw [List.map_eq_nil_iff.mp hparts.1]
    rfl
  | cons rnr rnrs ih =>
    obtain ⟨ts, complete, hloop, hinside, hcomplete, hparts⟩ := ih
    obtain ⟨nbs, rest, hdata, hrest⟩ := exists_split neighbor_delimited.length_pos rnr.data
    have hshort : nbs.length < 256 := by
      have hle := length_le_flatMap nbs
      have hlt := rnr.data_lt
      rw [hdata, List.length_append] at hlt
      omega
    have helem := fun fuel hfuel s => infoLoop_eq iter hrest nbs [] s fuel hdata (Nat.lt_of_lt_of_le hshort hfuel)
    have hmem : ∀ t ∈ tbttsFrom rnr 0 nbs, ∃ rnr' ∈ rnr :: rnrs, Inside rnr' t :=
      fun t ht => ⟨rnr, List.mem_cons_self, inside_of_mem_tbttsFrom nbs [] hdata ht⟩
    have hwf : WellFormed Neighbor.bytes rnr.data ↔ rest = [] := by
      rw [hdata]
      exact neighbor_delimited.wellFormed_iff hrest
    have hhead : ∀ p parts, AreNeighbors (rnr :: rnrs) (p :: parts) → p = (rnr, nbs) ∧ rest = [] ∧ AreNeighbors rnrs parts := by
      rintro ⟨rnr', nbs'⟩ parts ⟨hmap, hall⟩
      obtain ⟨rfl, htail⟩ := List.cons.inj hmap
      have hown := hall _ List.mem_cons_self
      rw [hdata] at hown
      obtain ⟨rfl, hnil⟩ := neighbor_delimited.eq_of_wellFormed hrest hown
      exact ⟨rfl, hnil, htail, fun p hp => hall p (List.mem_cons_of_mem _ hp)⟩
    have hexists : ∀ parts, AreNeighbors (rnr :: rnrs) parts → ∃ p parts', parts = p :: parts' := by
      intro parts hp
      cases parts with
      | nil => exact nomatch hp.1
      | cons p parts => exact ⟨p, parts, rfl⟩
    by_cases hnil : rest = []
    · -- the element is well-formed: its calls come before those of the others
      refine ⟨tbttsFrom rnr 0 nbs ++ ts, complete, fun fuel hfuel s => ?_, fun t ht => ?_, ?_, fun parts hp => ?_⟩
      · unfold rnrLoop
        rw [show (0 : Nat) = ([] : List Byte).length from rfl, helem fuel hfuel, callAll_append]
        cases hres : callAll iter s (tbttsFrom rnr ([] : List Byte).length nbs) with
        | mk s' res =>
          cases res with
          | ok u =>
            unfold finishElement
            rw [if_pos hnil]
            exact hloop fuel hfuel s'
          | error ret => rfl
      · rcases List.mem_append.mp ht with ht | ht
        · exact hmem t ht
        · obtain ⟨rnr', hrnr', hin⟩ := hinside t ht
          exact ⟨rnr', List.mem_cons_of_mem _ hrnr', hin⟩
      · rw [hcomplete, List.forall_mem_cons, hwf]
        exact ⟨fun h => ⟨hnil, h⟩, And.right⟩
      · obtain ⟨p, parts', rfl⟩ := hexists parts hp
        obtain ⟨rfl, -, htail⟩ := hhead p parts' hp
        rw [List.flatMap_cons, ← hparts parts' htail]
    · -- it is not: the iteration ends there
      refine ⟨tbttsFrom rnr 0 nbs, false, fun fuel hfuel s => ?_, hmem, ?_, fun parts hp => ?_⟩
      · unfold rnrLoop
        rw [show (0 : Nat) = ([] : List Byte).length from rfl, helem fuel hfuel]
        cases hres : callAll iter s (tbttsFrom rnr ([] : List Byte).length nbs) with
        | mk s' res =>
          cases res with
          | ok u =>
            unfold finishElement
            rw [if_neg hnil]
            rfl
          | error ret => rfl
      · rw [List.forall_mem_cons, hwf]
        exact ⟨nofun, fun h => absurd h.1 hnil⟩
      · obtain ⟨p, parts', rfl⟩ := hexists parts hp
        exact absurd (hhead p parts' hp).2.1 hnil

/-- **An iteration**, given its elements, and how it ends. -/
structure IterRight (rnrs : List Element) (run : Run σ) (ret : Bool) : Prop where
  /-- Every call lies inside an element. -/
  inside : ∀ c ∈ run.calls, ∃ rnr ∈ rnrs, Inside rnr c.1
  /-- The calls are for the TBTT infos of well-formed elements, in order, and for all of them unless the callback ends the iteration. -/
  ordered : ∀ parts, AreNeighbors rnrs parts →
    run.calls.map Prod.fst <+: (parts.flatMap fun p => tbttsFrom p.1 0 p.2) ∧
      ((∀ c ∈ run.calls, c.2 = .continue) → ret = true ∧ run.calls.map Prod.fst = parts.flatMap fun p => tbttsFrom p.1 0 p.2)
  /-- A report that is not well-formed is refused, unless the callback has broken off the iteration. -/
  malformed : (∃ rnr ∈ rnrs, ¬ WellFormed Neighbor.bytes rnr.data) → (∀ c ∈ run.calls, c.2 ≠ .break) → ret = false
  /-- What the callback says otherwise. -/
  broken : ∀ c ∈ run.calls, c.2 ≠ .continue → ret = decide (c.2 = .break)

/-- **`cfg80211_iter_rnr` ends, and is right**, for every buffer and callback. -/
theorem cfg80211IterRnr_right (api : ElementApi) (elems : List Byte) (iter : Iter σ) (iterData : σ) :
    ∃ run ret, (∀ fuel, 256 ≤ fuel → cfg80211IterRnr api fuel elems iter iterData = some (run, ret)) ∧
      IterRight (rnrElements api elems) run ret := by
  obtain ⟨ts, complete, hloop, hinside, hcomplete, hparts⟩ := rnrLoop_spec iter (rnrElements api elems)
  obtain ⟨new, hnew, hcase⟩ := callAll_calls iter ts ⟨iterData, []⟩
  refine ⟨_, _, fun fuel hfuel => hloop fuel hfuel ⟨iterData, []⟩, ?_⟩
  rw [List.nil_append] at hnew
  cases hres : (callAll iter ⟨iterData, []⟩ ts).2 with
  | ok u =>
    rw [hres] at hcase
    obtain ⟨hts, hcont⟩ := hcase
    dsimp only
    refine ⟨fun c hc => ?_, fun parts hp => ?_, fun hbad _ => ?_, fun c hc hne => ?_⟩
    · rw [hnew] at hc
      exact hinside _ (hts ▸ List.mem_map_of_mem hc)
    · rw [hnew, hts, ← hparts parts hp]
      refine ⟨List.prefix_refl _, fun _ => ⟨hcomplete.mpr fun rnr hrnr => ?_, rfl⟩⟩
      rw [← hp.1] at hrnr
      obtain ⟨p, hpmem, rfl⟩ := List.mem_map.mp hrnr
      exact ⟨p.2, hp.2 p hpmem⟩
    · obtain ⟨rnr, hrnr, hmal⟩ := hbad
      exact Bool.eq_false_iff.mpr fun htrue => hmal (hcomplete.mp htrue rnr hrnr)
    · rw [hnew] at hc
      exact absurd (hcont c hc) hne
  | error ret =>
    rw [hres] at hcase
    obtain ⟨hpre, ⟨c, hc, hne⟩, hall⟩ := hcase
    dsimp only
    refine ⟨fun c hc => ?_, fun parts hp => ?_, fun _ hnobreak => ?_, fun c hc hne => ?_⟩
    · rw [hnew] at hc
      exact hinside _ (hpre.subset (List.mem_map_of_mem hc))
    · rw [hnew, ← hparts parts hp]
      exact ⟨hpre, fun hcont => absurd (hcont c hc) hne⟩
    · rw [hnew] at hnobreak
      cases ret with
      | false => rfl
      | true => exact absurd (hall c hc hne) (hnobreak c hc)
    · rw [hnew] at hc
      rw [hall c hc hne]
      cases ret <;> rfl

/-- What a callback keeps holds in the end, and every call gave what the callback gives. -/
theorem callAll_inv (iter : Iter σ) {p : σ → Prop} (hiter : ∀ d t, p d → p (iter d t).2) (ts : List Tbtt) : ∀ s : Run σ,
    p s.data → (∀ c ∈ s.calls, ∃ d, c.2 = (iter d c.1).1) →
      p (callAll iter s ts).1.data ∧ ∀ c ∈ (callAll iter s ts).1.calls, ∃ d, c.2 = (iter d c.1).1 := by
  induction ts with
  | nil => exact fun s hp hcalls => ⟨hp, hcalls⟩
  | cons t ts ih =>
    intro s hp hcalls
    have hcall : ∀ c ∈ (s.call iter t).2.calls, ∃ d, c.2 = (iter d c.1).1 := by
      intro c hc
      rcases List.mem_append.mp hc with hc | hc
      · exact hcalls c hc
      · rw [List.mem_singleton.mp hc]
        exact ⟨s.data, rfl⟩
    rw [callAll_cons]
    cases (s.call iter t).1 with
    | «continue» => exact ih _ (hiter _ t hp) hcall
    | «break» => exact ⟨hiter _ t hp, hcall⟩
    | error => exact ⟨hiter _ t hp, hcall⟩

theorem cfg80211IterRnr_inv {api : ElementApi} {elems : List Byte} {iter : Iter σ} {iterData : σ} {fuel : Nat} {run : Run σ} {ret : Bool}
    {p : σ → Prop} (hiter : ∀ d t, p d → p (iter d t).2) (hp : p iterData) (hfuel : 256 ≤ fuel)
    (h : cfg80211IterRnr api fuel elems iter iterData = some (run, ret)) :
    p run.data ∧ ∀ c ∈ run.calls, ∃ d, c.2 = (iter d c.1).1 := by
  obtain ⟨ts, complete, hloop, -⟩ := rnrLoop_spec iter (rnrElements api elems)
  have hend := (hloop fuel hfuel ⟨iterData, []⟩).symm.trans h
  have hrun : run = (callAll iter ⟨iterData, []⟩ ts).1 := by
    have hfst : _ = run := congrArg Prod.fst (Option.some.inj hend)
    rw [← hfst]
    unfold finish
    cases (callAll iter ⟨iterData, []⟩ ts).2 <;> rfl
  rw [hrun]
  exact callAll_inv iter hiter ts _ hp fun c hc => nomatch hc

end Wireless.Rnr
