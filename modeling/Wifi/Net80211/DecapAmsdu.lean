import Mathlib.Data.List.GetD
import Wifi.Net80211.Ccmp

/-!
# Decapsulation of an A-MSDU (`freebsd/sys/net80211/ieee80211_ht.c`, `ieee80211_input.c`)

* `MbufApi` — the functions of `<sys/mbuf.h>` that need memory.
* `ieee80211Decap1` — the header of one subframe.
* `ieee80211DecapAmsdu` — the loop over the subframes; it logs what becomes of every packet.
* `Reached` — where the subframes of a body begin; `FrameOf` is the frame of a subframe.

Statistics and messages are left out.
-/

namespace Net80211.DecapAmsdu

open Ccmp (Chain adjHead adjHead_flatten)

/-! ## Mbufs -/

/-- `m_pullup` and `m_split`. -/
structure MbufApi where
  /-- the chain with the first bytes in one mbuf; without memory, or with too little data, the chain is freed -/
  pullup : Chain → Nat → Option Chain
  /-- the first bytes, and the rest as another packet; without memory, or with too little data, nothing changes -/
  split : Chain → Nat → Option (Chain × Chain)
  pullup_data : ∀ {m m' : Chain} {len : Nat}, pullup m len = some m' →
    m'.flatten = m.flatten ∧ len ≤ (m'.headD []).length
  split_data : ∀ {m m' n : Chain} {len : Nat}, split m len = some (m', n) →
    m'.flatten = m.flatten.take len ∧ n.flatten = m.flatten.drop len ∧ len ≤ m.flatten.length

/-- `sizeof(struct ether_header)` -/
abbrev ETHER_HDR_LEN : Nat := 14
/-- `sizeof(struct llc)` -/
abbrev LLC_LEN : Nat := 8
abbrev FF_LLC_SIZE : Nat := ETHER_HDR_LEN + LLC_LEN

def llcHdrMac : List Byte := [0xaa, 0xaa, 0x03, 0, 0, 0]

/-- `roundup2(x, 4)` -/
def roundup4 (x : Nat) : Nat := (x + 3) / 4 * 4

/-! ## One subframe -/

/-- `ntohs(eh->ether_type)` -/
def etherType (data : List Byte) : Nat := (data.getD 12 0 ++ data.getD 13 0 : BitVec 16).toNat

/-- How `ieee80211_decap1` ends. -/
inductive Decap1 where
  /-- `m_pullup` has freed the packet -/
  | freed
  /-- the packet is left as it is -/
  | refused
  | ok (m : Chain) (framelen : Nat)

/-- The first mbuf, with the ether type of the LLC header in the Ethernet header, and this copied up to the payload. -/
def moveHeader (eh : List Byte) : List Byte :=
  let eh := eh.take 12 ++ ((eh.drop 20).take 2 ++ eh.drop 14)
  eh.take LLC_LEN ++ (eh.take ETHER_HDR_LEN ++ eh.drop FF_LLC_SIZE)

def ieee80211Decap1 (api : MbufApi) (m : Chain) : Decap1 :=
  match (if (m.headD []).length < FF_LLC_SIZE then api.pullup m FF_LLC_SIZE else some m) with
  | none => .freed
  | some m =>
    let eh := m.headD []
    if eh.take 6 = llcHdrMac then .refused
    else
      let framelen := etherType eh + ETHER_HDR_LEN - LLC_LEN
      .ok (adjHead (moveHeader eh :: m.tail) LLC_LEN) framelen

/-! ## The loop -/

/-- A packet, by a number that it has of its own. -/
structure Packet where
  id : Nat
  m : Chain

/-- What becomes of the packets: those for `iv_deliver_data`, those for `m_freem`, and the one that is returned, of as
    many as there have been. -/
structure Exits where
  delivered : List Packet
  freed : List Nat
  returned : Option Packet
  packets : Nat

/-- The loop of `ieee80211_decap_amsdu`, with a bound. The packet of round `i` has the number `i`, and `m_split` makes
    the next one. -/
def decapLoop (api : Nat → MbufApi) : Nat → Nat → Chain → List Packet → Option Exits
  | 0, _, _, _ => none
  | fuel + 1, i, m, delivered =>
    match ieee80211Decap1 (api i) m with
    | .freed => some { delivered := delivered, freed := [i], returned := none, packets := i + 1 }
    | .refused => some { delivered := delivered, freed := [], returned := none, packets := i + 1 }
    | .ok m framelen =>
      if m.flatten.length = framelen then
        some { delivered := delivered, freed := [], returned := some ⟨i, m⟩, packets := i + 1 }
      else
        match (api i).split m framelen with
        | none => some { delivered := delivered, freed := [i], returned := none, packets := i + 1 }
        | some (m, n) =>
          decapLoop api fuel (i + 1) (adjHead n (roundup4 framelen - framelen)) (delivered ++ [⟨i, m⟩])

def ieee80211DecapAmsdu (api : Nat → MbufApi) (m : Chain) : Option Exits :=
  decapLoop api (m.flatten.length + 1) 0 (adjHead m ETHER_HDR_LEN) []

/-! ## Subframes -/

/-- The length behind the header of the subframe at `o`, as it declares it. -/
def declared (body : List Byte) (o : Nat) : Nat := etherType (body.drop o)

/-- The destination address of the subframe at `o`. -/
def destination (body : List Byte) (o : Nat) : List Byte := (body.drop o).take 6

/-- Where the subframe behind the one at `o` begins. -/
def next (body : List Byte) (o : Nat) : Nat := o + roundup4 (ETHER_HDR_LEN + declared body o)

/-- There is room for an LLC header in the subframe at `o`, and it is no LLC header itself. -/
def Regular (body : List Byte) (o : Nat) : Prop := destination body o ≠ llcHdrMac ∧ LLC_LEN ≤ declared body o

/-- **Where the subframes of the body begin**, up to the first one that is not regular, or not inside. -/
inductive Reached (body : List Byte) : Nat → Prop where
  | start : Reached body 0
  | next {o : Nat} (h : Reached body o) (hhdr : o + FF_LLC_SIZE ≤ body.length) (hreg : Regular body o)
      (hin : o + (ETHER_HDR_LEN + declared body o) < body.length) : Reached body (next body o)

/-- **The frame of the subframe at `o`**: a whole Ethernet header, and all that follows the LLC header. -/
def FrameOf (body : List Byte) (o : Nat) (frame : List Byte) : Prop :=
  o + (ETHER_HDR_LEN + declared body o) ≤ body.length ∧ LLC_LEN ≤ declared body o ∧
    frame = (body.drop o).take 12 ++ ((body.drop (o + 20)).take 2 ++
      (body.drop (o + FF_LLC_SIZE)).take (declared body o - LLC_LEN))

/-- **Everything is in order**: the frames are those of subframes, and every packet is delivered, freed or returned, one
    time. -/
structure Sound (body : List Byte) (e : Exits) : Prop where
  frames : ∀ p ∈ e.delivered ++ e.returned.toList, ∃ o, Reached body o ∧ FrameOf body o p.m.flatten
  accounted : (e.delivered.map (fun p => p.id) ++ (e.freed ++ e.returned.toList.map (fun p => p.id))).Perm
    (List.range e.packets)

/-- **A clean body**: every subframe that is reached and has a header is regular. -/
def Clean (body : List Byte) : Prop := ∀ o, Reached body o → o + FF_LLC_SIZE ≤ body.length → Regular body o

/-! ## One round -/

theorem etherType_append {b : List Byte} (rest : List Byte) (h : 14 ≤ b.length) :
    etherType (b ++ rest) = etherType b := by
  unfold etherType
  rw [List.getD_append _ _ _ _ (by omega), List.getD_append _ _ _ _ (by omega)]

/-- `ovbcopy` and `m_adj` leave a header without a gap. -/
theorem drop_moveHeader {b : List Byte} (rest : List Byte) (h : 22 ≤ b.length) :
    (moveHeader b ++ rest).drop LLC_LEN =
      b.take 12 ++ ((b.drop 20).take 2 ++ (b.drop FF_LLC_SIZE ++ rest)) := by
  have hfirst : (b.take 12 ++ ((b.drop 20).take 2 ++ b.drop 14)).length = b.length := by
    simp only [List.length_append, List.length_take, List.length_drop]
    omega
  have hhead : (b.take 12 ++ ((b.drop 20).take 2 ++ b.drop 14)).take ETHER_HDR_LEN =
      b.take 12 ++ (b.drop 20).take 2 := by
    rw [← List.append_assoc]
    exact List.take_left' (by simp only [List.length_append, List.length_take, List.length_drop, ETHER_HDR_LEN]; omega)
  have htail : (b.take 12 ++ ((b.drop 20).take 2 ++ b.drop 14)).drop FF_LLC_SIZE = b.drop FF_LLC_SIZE := by
    have hlen : (b.take 12 ++ (b.drop 20).take 2).length = 14 := by
      simp only [List.length_append, List.length_take, List.length_drop]
      omega
    rw [← List.append_assoc, show FF_LLC_SIZE = 14 + 8 from rfl, ← List.drop_drop, List.drop_left' hlen, List.drop_drop]
  unfold moveHeader
  dsimp only
  rw [hhead, htail, List.append_assoc, List.drop_left' (by rw [List.length_take, hfirst]; exact Nat.min_eq_left (by
    simp only [LLC_LEN]; omega))]
  simp only [List.append_assoc]

/-- What `ieee80211_decap1` makes of the data. -/
def Decap1.Spec (data : List Byte) : Decap1 → Prop
  | .freed => True
  | .refused => FF_LLC_SIZE ≤ data.length ∧ data.take 6 = llcHdrMac
  | .ok m framelen => FF_LLC_SIZE ≤ data.length ∧ data.take 6 ≠ llcHdrMac ∧ framelen = etherType data + 6 ∧
      m.flatten = data.take 12 ++ ((data.drop 20).take 2 ++ data.drop FF_LLC_SIZE)

theorem decap1_spec (api : MbufApi) (m : Chain) : (ieee80211Decap1 api m).Spec m.flatten := by
  unfold ieee80211Decap1
  have hpull : ∀ {m' : Chain}, (if (m.headD []).length < FF_LLC_SIZE then api.pullup m FF_LLC_SIZE else some m) = some m' →
      m'.flatten = m.flatten ∧ FF_LLC_SIZE ≤ (m'.headD []).length := by
    intro m' h
    by_cases hshort : (m.headD []).length < FF_LLC_SIZE
    · rw [if_pos hshort] at h
      exact api.pullup_data h
    · rw [if_neg hshort] at h
      cases h
      exact ⟨rfl, Nat.le_of_not_lt hshort⟩
  cases hm : (if (m.headD []).length < FF_LLC_SIZE then api.pullup m FF_LLC_SIZE else some m) with
  | none => trivial
  | some m' =>
    obtain ⟨hdata, hlen⟩ := hpull hm
    cases m' with
    | nil => exact absurd hlen (by decide)
    | cons b rest =>
      rw [← hdata, List.flatten_cons]
      have hlen : 22 ≤ b.length := hlen
      have hall : FF_LLC_SIZE ≤ (b ++ rest.flatten).length := by
        rw [List.length_append]
        exact Nat.le_trans hlen (Nat.le_add_right _ _)
      have htake : ∀ {n}, n ≤ 22 → (b ++ rest.flatten).take n = b.take n := fun h =>
        List.take_append_of_le_length (by omega)
      change Decap1.Spec _ (if b.take 6 = llcHdrMac then .refused
        else .ok (adjHead (moveHeader b :: rest) LLC_LEN) (etherType b + ETHER_HDR_LEN - LLC_LEN))
      by_cases hdest : b.take 6 = llcHdrMac
      · rw [if_pos hdest]
        exact ⟨hall, (htake (by decide)).trans hdest⟩
      · rw [if_neg hdest]
        refine ⟨hall, fun h => hdest ((htake (by decide)).symm.trans h), ?_, ?_⟩
        · rw [etherType_append _ (by omega)]
          simp only [ETHER_HDR_LEN, LLC_LEN]
          omega
        · rw [adjHead_flatten, List.flatten_cons, drop_moveHeader _ hlen, htake (by decide),
            List.drop_append_of_le_length (show FF_LLC_SIZE ≤ b.length from hlen),
            List.drop_append_of_le_length (by omega), List.take_append_of_le_length (by rw [List.length_drop]; omega)]

end Net80211.DecapAmsdu

/-!
## Runs of the decapsulation of an A-MSDU

* `decapLoop_returns` — the loop ends.
* `decapLoop_sound` — a clean body.
* `decapLoop_reaches` — with enough memory, the loop comes to every subframe that is reached.
* `decap_amsdu_sound_iff` — everything is in order, whatever memory there is, exactly for the clean bodies.
-/

namespace Net80211.DecapAmsdu

open Ccmp (Chain adjHead adjHead_flatten)

variable {api : Nat → MbufApi} {body : List Byte} {o : Nat}

theorem roundup4_ge (x : Nat) : x ≤ roundup4 x := by
  unfold roundup4
  omega

/-- **The loop ends.** -/
theorem decapLoop_returns (fuel : Nat) : ∀ (i : Nat) (m : Chain) (delivered : List Packet), m.flatten.length < fuel →
    ∃ e, decapLoop api fuel i m delivered = some e ∧ delivered <+: e.delivered := by
  induction fuel with
  | zero => exact fun _ _ _ h => absurd h (Nat.not_lt_zero _)
  | succ fuel ih =>
    intro i m delivered h
    have hspec := decap1_spec (api i) m
    unfold decapLoop
    cases hm : ieee80211Decap1 (api i) m with
    | freed => exact ⟨_, rfl, List.prefix_refl _⟩
    | refused => exact ⟨_, rfl, List.prefix_refl _⟩
    | ok m' framelen =>
      rw [hm] at hspec
      obtain ⟨h22, -, -, hdata⟩ := hspec
      dsimp only
      by_cases hlast : m'.flatten.length = framelen
      · rw [if_pos hlast]
        exact ⟨_, rfl, List.prefix_refl _⟩
      rw [if_neg hlast]
      cases hsplit : (api i).split m' framelen with
      | none => exact ⟨_, rfl, List.prefix_refl _⟩
      | some mn =>
        obtain ⟨m'', n⟩ := mn
        have hless : (adjHead n (roundup4 framelen - framelen)).flatten.length < fuel := by
          rw [adjHead_flatten, ((api i).split_data hsplit).2.1, hdata]
          simp only [List.length_drop, List.length_append, List.length_take, FF_LLC_SIZE, ETHER_HDR_LEN,
            LLC_LEN] at h22 ⊢
          omega
        obtain ⟨e, he, hinit⟩ := ih (i + 1) _ (delivered ++ [⟨i, m''⟩]) hless
        exact ⟨e, he, (List.prefix_append _ _).trans hinit⟩

/-- The data behind a regular subframe's header. -/
structure Opened (body : List Byte) (o : Nat) (m : Chain) (framelen : Nat) : Prop where
  size : framelen = declared body o + 6
  data : m.flatten = (body.drop o).take 12 ++ ((body.drop (o + 20)).take 2 ++ body.drop (o + FF_LLC_SIZE))

theorem opened_of_ok {api : MbufApi} {m m' : Chain} {framelen : Nat} (hm : m.flatten = body.drop o)
    (h : ieee80211Decap1 api m = .ok m' framelen) :
    o + FF_LLC_SIZE ≤ body.length ∧ destination body o ≠ llcHdrMac ∧ Opened body o m' framelen := by
  have hspec := decap1_spec api m
  rw [h, hm] at hspec
  obtain ⟨h22, hdest, hsize, hdata⟩ := hspec
  rw [List.length_drop] at h22
  simp only [FF_LLC_SIZE, ETHER_HDR_LEN, LLC_LEN] at h22 ⊢
  exact ⟨by omega, hdest, hsize, by rw [hdata, List.drop_drop, List.drop_drop]⟩

namespace Opened

variable {m : Chain} {framelen : Nat}

theorem length_header (hhdr : o + FF_LLC_SIZE ≤ body.length) :
    ((body.drop o).take 12 ++ (body.drop (o + 20)).take 2).length = 14 := by
  simp only [FF_LLC_SIZE, ETHER_HDR_LEN, LLC_LEN] at hhdr
  simp only [List.length_append, List.length_take, List.length_drop]
  omega

theorem length (h : Opened body o m framelen) (hhdr : o + FF_LLC_SIZE ≤ body.length) :
    m.flatten.length + LLC_LEN + o = body.length := by
  rw [h.data, ← List.append_assoc, List.length_append, length_header hhdr, List.length_drop]
  simp only [FF_LLC_SIZE, ETHER_HDR_LEN, LLC_LEN] at hhdr ⊢
  omega

theorem frame (h : Opened body o m framelen) (hhdr : o + FF_LLC_SIZE ≤ body.length) (hreg : LLC_LEN ≤ declared body o)
    (hin : framelen ≤ m.flatten.length) : FrameOf body o (m.flatten.take framelen) := by
  have hlen := h.length hhdr
  have hsize := h.size
  simp only [LLC_LEN] at hlen hreg
  refine ⟨by simp only [ETHER_HDR_LEN]; omega, hreg, ?_⟩
  rw [h.data, ← List.append_assoc, List.take_append, length_header hhdr,
    List.take_of_length_le (by rw [length_header hhdr]; omega), List.append_assoc]
  congr 3
  simp only [LLC_LEN]
  omega

theorem rest {n : Chain} (h : Opened body o m framelen) (hhdr : o + FF_LLC_SIZE ≤ body.length)
    (hreg : LLC_LEN ≤ declared body o) (hn : n.flatten = m.flatten.drop framelen) :
    (adjHead n (roundup4 framelen - framelen)).flatten = body.drop (next body o) := by
  have hsize := h.size
  simp only [LLC_LEN] at hreg
  have hnil : ((body.drop o).take 12 ++ (body.drop (o + 20)).take 2).drop framelen = [] :=
    List.drop_eq_nil_of_le (by rw [length_header hhdr]; omega)
  rw [adjHead_flatten, hn, h.data, ← List.append_assoc, List.drop_append, length_header hhdr, hnil, List.nil_append,
    List.drop_drop, List.drop_drop]
  congr 1
  unfold next roundup4
  simp only [FF_LLC_SIZE, ETHER_HDR_LEN, LLC_LEN]
  omega

end Opened

theorem FrameOf.length_ge {frame : List Byte} (h : FrameOf body o frame) : ETHER_HDR_LEN ≤ frame.length := by
  obtain ⟨hin, hllc, rfl⟩ := h
  simp only [List.length_append, List.length_take, List.length_drop, ETHER_HDR_LEN, LLC_LEN] at hin hllc ⊢
  omega

/-- **A clean body**: the loop, at a subframe that is reached. -/
theorem decapLoop_sound (hclean : Clean body) (fuel : Nat) : ∀ (i o : Nat) (m : Chain) (delivered : List Packet),
    Reached body o → m.flatten = body.drop o →
    (∀ p ∈ delivered, ∃ o, Reached body o ∧ FrameOf body o p.m.flatten) →
    delivered.map (fun p => p.id) = List.range i →
    m.flatten.length < fuel → ∃ e, decapLoop api fuel i m delivered = some e ∧ Sound body e := by
  induction fuel with
  | zero => exact fun _ _ _ _ _ _ _ _ h => absurd h (Nat.not_lt_zero _)
  | succ fuel ih =>
    intro i o m delivered hreach hm hframes hids hfuel
    have hone : ∀ {ids : List Nat}, ids = [i] → (delivered.map (fun p => p.id) ++ ids).Perm (List.range (i + 1)) := by
      rintro _ rfl
      rw [hids, List.range_succ]
    have hspec := decap1_spec (api i) m
    unfold decapLoop
    cases hd : ieee80211Decap1 (api i) m with
    | freed => exact ⟨_, rfl, fun p hp => hframes p (by simpa using hp), hone rfl⟩
    | refused =>
      rw [hd, hm] at hspec
      obtain ⟨h22, hdest⟩ := hspec
      rw [List.length_drop] at h22
      simp only [FF_LLC_SIZE, ETHER_HDR_LEN, LLC_LEN] at h22
      exact absurd hdest (hclean o hreach (by simp only [FF_LLC_SIZE, ETHER_HDR_LEN, LLC_LEN]; omega)).1
    | ok m' framelen =>
      obtain ⟨hhdr, -, hopen⟩ := opened_of_ok hm hd
      have hreg := hclean o hreach hhdr
      have hlen := hopen.length hhdr
      have hsize := hopen.size
      simp only [LLC_LEN] at hlen
      dsimp only
      by_cases hlast : m'.flatten.length = framelen
      · rw [if_pos hlast]
        have hframe := hopen.frame hhdr hreg.2 (Nat.le_of_eq hlast.symm)
        rw [← hlast, List.take_length] at hframe
        refine ⟨_, rfl, fun p hp => ?_, hone rfl⟩
        obtain hp | hp := List.mem_append.mp hp
        · exact hframes p hp
        · obtain rfl := List.mem_singleton.mp hp
          exact ⟨o, hreach, hframe⟩
      rw [if_neg hlast]
      cases hsplit : (api i).split m' framelen with
      | none => exact ⟨_, rfl, fun p hp => hframes p (by simpa using hp), hone rfl⟩
      | some mn =>
        obtain ⟨m'', n⟩ := mn
        obtain ⟨hfirst, hrest, hin⟩ := (api i).split_data hsplit
        have hn := hopen.rest hhdr hreg.2 hrest
        refine ih (i + 1) (next body o) _ _ (.next hreach hhdr hreg ?_) hn ?_ ?_ ?_
        · simp only [ETHER_HDR_LEN]
          omega
        · intro p hp
          obtain hp | hp := List.mem_append.mp hp
          · exact hframes p hp
          · obtain rfl := List.mem_singleton.mp hp
            exact ⟨o, hreach, hfirst ▸ hopen.frame hhdr hreg.2 hin⟩
        · rw [List.map_append, hids, List.range_succ]
          rfl
        · rw [hm, List.length_drop] at hfuel
          rw [hn, List.length_drop]
          have hge := roundup4_ge (ETHER_HDR_LEN + declared body o)
          simp only [FF_LLC_SIZE, ETHER_HDR_LEN, LLC_LEN] at hge hhdr
          unfold next
          simp only [ETHER_HDR_LEN]
          omega

/-! ## Enough memory -/

/-- Functions that only fail for too little data. -/
def plenty : MbufApi where
  pullup m len := if len ≤ m.flatten.length then some [m.flatten] else none
  split m len := if len ≤ m.flatten.length then some ([m.flatten.take len], [m.flatten.drop len]) else none
  pullup_data := by
    intro m m' len h
    split at h
    case isFalse => cases h
    case isTrue hle =>
      cases h
      exact ⟨List.flatten_singleton, hle⟩
  split_data := by
    intro m m' n len h
    split at h
    case isFalse => cases h
    case isTrue hle =>
      cases h
      exact ⟨List.flatten_singleton, List.flatten_singleton, hle⟩

theorem decap1_plenty {m : Chain} (h : FF_LLC_SIZE ≤ m.flatten.length) : ieee80211Decap1 plenty m ≠ .freed := by
  unfold ieee80211Decap1
  have hpull : (if (m.headD []).length < FF_LLC_SIZE then plenty.pullup m FF_LLC_SIZE else some m) ≠ none := by
    split
    · show (if FF_LLC_SIZE ≤ m.flatten.length then some [m.flatten] else none) ≠ none
      rw [if_pos h]
      exact Option.some_ne_none _
    · exact Option.some_ne_none _
  cases hm : (if (m.headD []).length < FF_LLC_SIZE then plenty.pullup m FF_LLC_SIZE else some m) with
  | none => exact absurd hm hpull
  | some m' =>
    dsimp only
    split
    · exact nofun
    · exact nofun

/-- A subframe that is not an LLC header, with enough memory. -/
theorem decap1_ok {m : Chain} (hm : m.flatten = body.drop o) (hhdr : o + FF_LLC_SIZE ≤ body.length)
    (hdest : destination body o ≠ llcHdrMac) :
    ∃ m' framelen, ieee80211Decap1 plenty m = .ok m' framelen ∧ Opened body o m' framelen := by
  have hlen : FF_LLC_SIZE ≤ m.flatten.length := by
    rw [hm, List.length_drop]
    omega
  have hspec := decap1_spec plenty m
  cases hd : ieee80211Decap1 plenty m with
  | freed => exact absurd hd (decap1_plenty hlen)
  | refused =>
    rw [hd, hm] at hspec
    exact absurd hspec.2 hdest
  | ok m' framelen => exact ⟨m', framelen, rfl, (opened_of_ok hm hd).2.2⟩

theorem decap1_refused {m : Chain} (hm : m.flatten = body.drop o) (hhdr : o + FF_LLC_SIZE ≤ body.length)
    (hdest : destination body o = llcHdrMac) : ieee80211Decap1 plenty m = .refused := by
  have hlen : FF_LLC_SIZE ≤ m.flatten.length := by
    rw [hm, List.length_drop]
    omega
  cases hd : ieee80211Decap1 plenty m with
  | freed => exact absurd hd (decap1_plenty hlen)
  | refused => rfl
  | ok m' framelen => exact absurd hdest (opened_of_ok hm hd).2.1

theorem decapLoop_split {m m' : Chain} {framelen : Nat} (fuel i : Nat) (delivered : List Packet)
    (hd : ieee80211Decap1 plenty m = .ok m' framelen) (hlt : framelen < m'.flatten.length) :
    decapLoop (fun _ => plenty) (fuel + 1) i m delivered =
      decapLoop (fun _ => plenty) fuel (i + 1) (adjHead [m'.flatten.drop framelen] (roundup4 framelen - framelen))
        (delivered ++ [⟨i, [m'.flatten.take framelen]⟩]) := by
  have hsplit : plenty.split m' framelen = some ([m'.flatten.take framelen], [m'.flatten.drop framelen]) :=
    if_pos (Nat.le_of_lt hlt)
  rw [decapLoop, hd]
  dsimp only
  rw [if_neg (by omega), hsplit]

/-- **With enough memory, the loop comes to every subframe that is reached.** -/
theorem decapLoop_reaches (h : Reached body o) {fuel : Nat} {m : Chain} (hm : m.flatten = body)
    (hfuel : body.length < fuel) : ∃ fuel' i m' delivered, body.length - o < fuel' ∧ m'.flatten = body.drop o ∧
      delivered.map (fun p => p.id) = List.range i ∧
      decapLoop (fun _ => plenty) fuel 0 m [] = decapLoop (fun _ => plenty) fuel' i m' delivered := by
  induction h with
  | start => exact ⟨fuel, 0, m, [], hfuel, by rw [hm, List.drop_zero], rfl, rfl⟩
  | @next o _ hhdr hreg hin ih =>
    obtain ⟨fuel', i, m', delivered, hfuel', hm', hids, hrun⟩ := ih
    obtain ⟨fuel', rfl⟩ : ∃ f, fuel' = f + 1 := ⟨fuel' - 1, by omega⟩
    obtain ⟨m₂, framelen, hd, hopen⟩ := decap1_ok hm' hhdr hreg.1
    have hlen := hopen.length hhdr
    have hsize := hopen.size
    have hge := roundup4_ge (ETHER_HDR_LEN + declared body o)
    simp only [FF_LLC_SIZE, ETHER_HDR_LEN, LLC_LEN] at hlen hin hge hhdr
    refine ⟨fuel', i + 1, _, _, ?_, hopen.rest hhdr hreg.2 List.flatten_singleton, ?_,
      hrun.trans (decapLoop_split fuel' i delivered hd (by omega))⟩
    · unfold next
      simp only [ETHER_HDR_LEN]
      omega
    · rw [List.map_append, hids, List.range_succ]
      rfl

/-- **Everything is in order, whatever memory there is, exactly for the clean bodies.** -/
theorem decap_amsdu_sound_iff (m : Chain) :
    (∀ api : Nat → MbufApi, ∃ e, ieee80211DecapAmsdu api m = some e ∧ Sound (m.flatten.drop ETHER_HDR_LEN) e) ↔
      Clean (m.flatten.drop ETHER_HDR_LEN) := by
  have hbody : (adjHead m ETHER_HDR_LEN).flatten = m.flatten.drop ETHER_HDR_LEN := adjHead_flatten m _
  have hfuel : (m.flatten.drop ETHER_HDR_LEN).length < m.flatten.length + 1 := by
    rw [List.length_drop]
    omega
  unfold ieee80211DecapAmsdu
  generalize m.flatten.drop ETHER_HDR_LEN = body at hbody hfuel
  constructor
  · intro h o hreach hhdr
    obtain ⟨e, he, hsound⟩ := h fun _ => plenty
    obtain ⟨fuel, i, m', delivered, hfuel', hm', hids, hrun⟩ := decapLoop_reaches hreach hbody hfuel
    rw [hrun] at he
    obtain ⟨fuel, rfl⟩ : ∃ f, fuel = f + 1 := ⟨fuel - 1, by omega⟩
    have hdest : destination body o ≠ llcHdrMac := by
      intro hdest
      rw [decapLoop, decap1_refused hm' hhdr hdest] at he
      cases he
      have hlen := hsound.accounted.length_eq
      rw [hids] at hlen
      simp at hlen
    refine ⟨hdest, ?_⟩
    by_contra hshort
    obtain ⟨m₂, framelen, hd, hopen⟩ := decap1_ok hm' hhdr hdest
    have hlen := hopen.length hhdr
    have hsize := hopen.size
    simp only [FF_LLC_SIZE, ETHER_HDR_LEN, LLC_LEN] at hlen hshort hhdr
    rw [decapLoop_split fuel i delivered hd (by omega)] at he
    have hless : (adjHead [m₂.flatten.drop framelen] (roundup4 framelen - framelen)).flatten.length < fuel := by
      rw [adjHead_flatten, List.flatten_singleton, List.length_drop, List.length_drop]
      omega
    obtain ⟨e', he', hinit⟩ := decapLoop_returns fuel (i + 1) _
      (delivered ++ [⟨i, [m₂.flatten.take framelen]⟩]) hless
    obtain rfl := Option.some.inj (he'.symm.trans he)
    obtain ⟨o', -, hframe⟩ := hsound.frames _
      (List.mem_append_left _ (hinit.subset (List.mem_append_right _ (List.mem_singleton_self _))))
    have h14 := hframe.length_ge
    rw [List.flatten_singleton, List.length_take] at h14
    simp only [ETHER_HDR_LEN] at h14
    omega
  · intro hclean api
    exact decapLoop_sound hclean _ 0 0 _ [] .start (by rw [hbody, List.drop_zero]) (by intro _ hp; cases hp) rfl
      (by rwa [hbody])

/-- An 802.3 header, and a subframe whose destination is an LLC header. -/
def llcChain : Chain :=
  [List.replicate 14 0 ++ [0xaa, 0xaa, 3, 0, 0, 0, 2, 0, 0, 0, 0, 2, 0, 8, 0xaa, 0xaa, 3, 0, 0, 0, 8, 0]]

/-- An 802.3 header, a subframe of length 0, and data behind it. -/
def shortChain : Chain :=
  [List.replicate 14 0 ++ [2, 0, 0, 0, 0, 1, 2, 0, 0, 0, 0, 2, 0, 0, 0xaa, 0xaa, 3, 0, 0, 0, 8, 0]]

/-- **A packet that is lost**, and a frame of six bytes. -/
theorem packet_lost_and_short_frame :
    (ieee80211DecapAmsdu (fun _ => plenty) llcChain).map
        (fun e => (e.delivered.length, e.freed, e.returned.isSome, e.packets)) = some (0, [], false, 1) ∧
      (ieee80211DecapAmsdu (fun _ => plenty) shortChain).map
        (fun e => e.delivered.map fun p => p.m.flatten) = some [[2, 0, 0, 0, 0, 1]] := by
  decide

end Net80211.DecapAmsdu
