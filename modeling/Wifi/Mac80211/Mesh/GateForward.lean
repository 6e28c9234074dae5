import Mathlib.Logic.Function.Basic
import Wifi.Lib.Memory
import Wifi.Linux.Ieee80211

/-!
# Frames for mesh gates (`linux/net/mac80211/mesh_pathtbl.c`)

* `prepareForGate` — `prepare_for_gate`.
* `moveToQueue` — `mesh_path_move_to_queue`; `moveLoop` is its walk.
* `txPending`, `sendToGates` — `mesh_path_tx_pending` and `mesh_path_send_to_gates`.
* `Accounted` — a frame is on the queue of a path, was given to the transmit queue, or was freed.
* `send_to_gates_accounted_iff` — no frame of the failed path is lost exactly when all of them fit on the queue of the
  first active gate.

A frame has the number of the frame that it is a copy of, or its own one; `alloc` says which copies there is memory for.
-/

namespace Mac80211.Mesh.GateForward

open Overwrite (overwrite)

def MESH_FRAME_QUEUE_LEN : Nat := 10
def MESH_FLAGS_AE : Byte := 0x03
def MESH_FLAGS_AE_A5_A6 : Byte := 0x02

structure Skb where
  origin : Nat
  data : List Byte
  /-- `info->control.vif` is set -/
  vif : Bool
  deriving DecidableEq, Repr

structure Path where
  dst : List Byte
  active : Bool
  /-- the address of `mpath->next_hop` -/
  nextHop : Option (List Byte)
  /-- `mpath->sdata->vif.addr` -/
  vifAddr : List Byte
  deriving DecidableEq, Repr

/-- The queues of the paths, what was given to the transmit queue, what was freed, and how many copies were tried. -/
structure Store where
  queue : Nat → List Skb
  pending : List Skb
  freed : List Skb
  tries : Nat

/-! ## Functions -/

def prepareForGate (data dstAddr nextHop vifAddr : List Byte) : List Byte :=
  let hdrlen := ieee80211Hdrlen (frameControl data)
  let data :=
    if data.getD hdrlen 0 &&& MESH_FLAGS_AE = 0 then
      -- the fixed part of the mesh header stays, and the two extended addresses come behind it
      data.take hdrlen ++ [MESH_FLAGS_AE_A5_A6] ++ (data.drop (hdrlen + 1)).take 5 ++
        ((data.drop 16).take 6 ++ (data.drop 24).take 6) ++ data.drop (hdrlen + 6)
    else data
  overwrite (overwrite (overwrite data 4 nextHop) 10 vifAddr) 16 dstAddr

variable (paths : Nat → Path) (alloc : Nat → Bool)

/-- `skb_queue_tail` -/
def Store.tail (s : Store) (gate : Nat) (skb : Skb) : Store :=
  { s with queue := Function.update s.queue gate (s.queue gate ++ [skb]) }

def copyFor (gate : Nat) (nextHop : List Byte) (skb : Skb) : Skb :=
  { skb with data := prepareForGate skb.data (paths gate).dst nextHop (paths gate).vifAddr }

/-- The walk of `mesh_path_move_to_queue`, and what is left on `failq` behind it. -/
def moveLoop (gate : Nat) (nextHop : List Byte) (copy : Bool) : Store → List Skb → Store × List Skb
  | s, [] => (s, [])
  | s, fskb :: failq =>
    if MESH_FRAME_QUEUE_LEN ≤ (s.queue gate).length then (s, fskb :: failq)
    else if alloc s.tries = false then ({ s with tries := s.tries + 1 }, fskb :: failq)
    else
      let s := { s with tries := s.tries + 1 }.tail gate (copyFor paths gate nextHop fskb)
      if copy then
        let r := moveLoop gate nextHop copy s failq
        (r.1, fskb :: r.2)
      else moveLoop gate nextHop copy { s with freed := s.freed ++ [fskb] } failq

/-- `mesh_path_move_to_queue` -/
def moveToQueue (s : Store) (gate src : Nat) (copy : Bool) : Store :=
  if gate = src then s
  else
    match (paths gate).nextHop with
    | none => s
    | some nextHop =>
      let r := moveLoop paths alloc gate nextHop copy { s with queue := Function.update s.queue src [] } (s.queue src)
      if copy then { r.1 with queue := Function.update r.1.queue src (r.2 ++ r.1.queue src) } else r.1

/-- `ieee80211_add_pending_skbs`; a frame without interface is freed. -/
def addPending : Store → List Skb → Store
  | s, [] => s
  | s, skb :: skbs =>
    if skb.vif then addPending { s with pending := s.pending ++ [skb] } skbs
    else addPending { s with freed := s.freed ++ [skb] } skbs

/-- `mesh_path_tx_pending` -/
def txPending (s : Store) (gate : Nat) : Store :=
  if (paths gate).active then addPending { s with queue := Function.update s.queue gate [] } (s.queue gate) else s

/-- The first loop of `mesh_path_send_to_gates`: the queues, and `from_mpath`. -/
def forwardLoop : Store → Nat → Bool → List Nat → Store × Nat
  | s, src, _, [] => (s, src)
  | s, src, copy, gate :: gates =>
    if (paths gate).active then forwardLoop (moveToQueue paths alloc s gate src copy) gate true gates
    else forwardLoop s src copy gates

/-- `mesh_path_send_to_gates` -/
def sendToGates (s : Store) (mpath : Nat) (gates : List Nat) : Store × Int :=
  let r := forwardLoop paths alloc s mpath false gates
  (gates.foldl (txPending paths) r.1, if r.2 = mpath then -113 else 0)

/-! ## Frames -/

/-- **The frame is accounted for**: it is on the queue of a path, it or a copy was given to the transmit queue, or it was
    freed. -/
def Accounted (s : Store) (f : Skb) : Prop :=
  (∃ p, f ∈ s.queue p) ∨ (∃ g ∈ s.pending, g.origin = f.origin) ∨ f ∈ s.freed

/-- Neither the frame nor a copy is anywhere. -/
def Lost (s : Store) (f : Skb) : Prop :=
  (∀ p, ∀ g ∈ s.queue p, g.origin ≠ f.origin) ∧ (∀ g ∈ s.pending, g.origin ≠ f.origin) ∧
    ∀ g ∈ s.freed, g.origin ≠ f.origin

/-- The start of a call: the frames of the path have numbers of their own. -/
structure Start (s : Store) (mpath : Nat) : Prop where
  pending : s.pending = []
  freed : s.freed = []
  nodup : ((s.queue mpath).map Skb.origin).Nodup
  own : ∀ p, p ≠ mpath → ∀ g ∈ s.queue p, g.origin ∉ (s.queue mpath).map Skb.origin

/-- **The frames of `src` fit** on the queue of the gate, and there is memory for their copies. -/
def Fits (s : Store) (gate src : Nat) : Prop :=
  gate = src ∨ (paths gate).nextHop = none ∨
    ∀ i, i < (s.queue src).length → (s.queue gate).length + i < MESH_FRAME_QUEUE_LEN ∧ alloc (s.tries + i) = true

variable {paths alloc} {s s' : Store} {f : Skb} {gate src mpath : Nat} {gates : List Nat}

theorem Lost.not_accounted (h : Lost s f) : ¬ Accounted s f := by
  rintro (⟨p, hp⟩ | ⟨g, hg, horigin⟩ | hfreed)
  · exact h.1 p f hp rfl
  · exact h.2.1 g hg horigin
  · exact h.2.2 f hfreed rfl

/-! ## The walk -/

/-- What the walk does: `k` frames are copied. -/
structure Moved (alloc : Nat → Bool) (gate : Nat) (copy : Bool) (s : Store) (failq : List Skb) (r : Store × List Skb)
    (k : Nat) : Prop where
  inside : k ≤ failq.length
  left : r.2 = if copy then failq else failq.drop k
  freed : r.1.freed = s.freed ++ if copy then [] else failq.take k
  pending : r.1.pending = s.pending
  queue : ∃ added, r.1.queue = Function.update s.queue gate (s.queue gate ++ added) ∧
    added.map Skb.origin = (failq.take k).map Skb.origin
  all : k = failq.length ↔
    ∀ i, i < failq.length → (s.queue gate).length + i < MESH_FRAME_QUEUE_LEN ∧ alloc (s.tries + i) = true

theorem moved_none {copy : Bool} {failq : List Skb} {n : Nat} (hfirst : ¬ ((s.queue gate).length < MESH_FRAME_QUEUE_LEN ∧
    alloc s.tries = true)) : Moved alloc gate copy s (f :: failq) ({ s with tries := n }, f :: failq) 0 := by
  refine ⟨Nat.zero_le _, ?_, ?_, rfl, ⟨[], ?_, rfl⟩, ?_⟩
  · cases copy with
    | true => rfl
    | false => rfl
  · cases copy with
    | true => exact (List.append_nil _).symm
    | false => exact (List.append_nil _).symm
  · rw [List.append_nil, Function.update_eq_self]
  · exact iff_of_false (by simp) fun h => hfirst (h 0 (Nat.succ_pos _))

variable (paths alloc gate) in
/-- **The walk.** -/
theorem moveLoop_spec (nextHop : List Byte) (copy : Bool) : ∀ (failq : List Skb) (s : Store),
    ∃ k, Moved alloc gate copy s failq (moveLoop paths alloc gate nextHop copy s failq) k := by
  intro failq
  induction failq with
  | nil =>
    intro s
    refine ⟨0, Nat.le_refl 0, ?_, ?_, rfl, ⟨[], ?_, rfl⟩, ?_⟩
    · cases copy with
      | true => rfl
      | false => rfl
    · cases copy with
      | true => exact (List.append_nil _).symm
      | false => exact (List.append_nil _).symm
    · rw [List.append_nil, Function.update_eq_self]
      rfl
    · exact iff_of_true rfl fun i hi => nomatch hi
  | cons f failq ih =>
    intro s
    unfold moveLoop
    by_cases hfull : MESH_FRAME_QUEUE_LEN ≤ (s.queue gate).length
    · rw [if_pos hfull]
      exact ⟨0, moved_none fun h => Nat.not_lt.mpr hfull h.1⟩
    rw [if_neg hfull]
    cases halloc : alloc s.tries with
    | false =>
      rw [if_pos rfl]
      exact ⟨0, moved_none fun h => nomatch halloc.symm.trans h.2⟩
    | true =>
      rw [if_neg (by simp)]
      dsimp only
      have hcopied : ∀ s₁ : Store, s₁.queue = Function.update s.queue gate (s.queue gate ++ [copyFor paths gate nextHop f]) →
          s₁.tries = s.tries + 1 → ∀ (r : Store × List Skb) k, Moved alloc gate copy s₁ failq r k →
          (∃ added, r.1.queue = Function.update s.queue gate (s.queue gate ++ added) ∧
            added.map Skb.origin = ((f :: failq).take (k + 1)).map Skb.origin) ∧
          (k + 1 = (f :: failq).length ↔ ∀ i, i < (f :: failq).length →
            (s.queue gate).length + i < MESH_FRAME_QUEUE_LEN ∧ alloc (s.tries + i) = true) := by
        intro s₁ hqueue htries r k hmoved
        obtain ⟨added, hr, horigins⟩ := hmoved.queue
        have hall := hmoved.all
        rw [hqueue, Function.update_self, List.length_append, htries] at hall
        rw [hqueue, Function.update_self, Function.update_idem, List.append_assoc] at hr
        refine ⟨⟨copyFor paths gate nextHop f :: added, hr, ?_⟩, ?_⟩
        · rw [List.map_cons, horigins]
          rfl
        · rw [List.length_cons, Nat.add_right_cancel_iff, hall]
          constructor
          · intro h i hi
            cases i with
            | zero => exact ⟨Nat.not_le.mp hfull, halloc⟩
            | succ i =>
              obtain ⟨hroom, hmemory⟩ := h i (Nat.lt_of_succ_lt_succ hi)
              refine ⟨?_, ?_⟩
              · rw [List.length_singleton] at hroom
                omega
              · rwa [Nat.add_assoc, Nat.add_comm 1 i] at hmemory
          · intro h i hi
            obtain ⟨hroom, hmemory⟩ := h (i + 1) (Nat.succ_lt_succ hi)
            refine ⟨?_, ?_⟩
            · rw [List.length_singleton]
              omega
            · rwa [Nat.add_assoc, Nat.add_comm 1 i]
      cases copy with
      | true =>
        rw [if_pos rfl]
        obtain ⟨k, hmoved⟩ := ih (Store.tail { s with tries := s.tries + 1 } gate (copyFor paths gate nextHop f))
        obtain ⟨hqueue, hall⟩ := hcopied _ rfl rfl _ _ hmoved
        refine ⟨k + 1, Nat.succ_le_succ hmoved.inside, ?_, hmoved.freed, hmoved.pending, hqueue, hall⟩
        dsimp only
        rw [hmoved.left]
        rfl
      | false =>
        rw [if_neg Bool.false_ne_true]
        obtain ⟨k, hmoved⟩ := ih { Store.tail { s with tries := s.tries + 1 } gate (copyFor paths gate nextHop f) with
          freed := s.freed ++ [f] }
        obtain ⟨hqueue, hall⟩ := hcopied _ rfl rfl _ _ hmoved
        refine ⟨k + 1, Nat.succ_le_succ hmoved.inside, hmoved.left, ?_, hmoved.pending, hqueue, hall⟩
        refine hmoved.freed.trans ?_
        dsimp only
        rw [List.append_assoc]
        rfl

/-! ## One gate -/

variable (paths alloc) in
/-- **A copy leaves the queue of the source**, its frames and their order. -/
theorem copy_keeps_source (s : Store) (gate src : Nat) : (moveToQueue paths alloc s gate src true).queue src = s.queue src := by
  unfold moveToQueue
  by_cases hsame : gate = src
  · rw [if_pos hsame]
  rw [if_neg hsame]
  cases hhop : (paths gate).nextHop with
  | none => rfl
  | some nextHop =>
    obtain ⟨k, hmoved⟩ := moveLoop_spec paths alloc gate nextHop true (s.queue src)
      { s with queue := Function.update s.queue src [] }
    obtain ⟨added, hqueue, -⟩ := hmoved.queue
    dsimp only at hqueue ⊢
    rw [if_pos rfl]
    dsimp only
    rw [Function.update_self, hmoved.left, if_pos rfl, hqueue, Function.update_of_ne (fun h => hsame h.symm),
      Function.update_self, List.append_nil]

variable (paths alloc) in
/-- What a copy does to the queues: frames of the source come behind those of the gate. -/
theorem copy_spec (s : Store) (gate src : Nat) :
    (moveToQueue paths alloc s gate src true).freed = s.freed ∧
      (moveToQueue paths alloc s gate src true).pending = s.pending ∧
      ∀ p, ∃ added, (moveToQueue paths alloc s gate src true).queue p = s.queue p ++ added ∧
        ∀ g ∈ added, ∃ f ∈ s.queue src, g.origin = f.origin := by
  have hsource := copy_keeps_source paths alloc s gate src
  unfold moveToQueue at hsource ⊢
  have hnone : ∀ p, ∃ added, s.queue p = s.queue p ++ added ∧ ∀ g ∈ added, ∃ f ∈ s.queue src, g.origin = f.origin :=
    fun p => ⟨[], (List.append_nil _).symm, fun g hg => nomatch hg⟩
  by_cases hsame : gate = src
  · rw [if_pos hsame]
    exact ⟨rfl, rfl, hnone⟩
  rw [if_neg hsame] at hsource ⊢
  cases hhop : (paths gate).nextHop with
  | none => exact ⟨rfl, rfl, hnone⟩
  | some nextHop =>
    obtain ⟨k, hmoved⟩ := moveLoop_spec paths alloc gate nextHop true (s.queue src)
      { s with queue := Function.update s.queue src [] }
    obtain ⟨added, hqueue, horigins⟩ := hmoved.queue
    rw [hhop] at hsource
    dsimp only at hqueue hsource ⊢
    rw [if_pos rfl] at hsource ⊢
    refine ⟨hmoved.freed.trans (List.append_nil _), hmoved.pending, fun p => ?_⟩
    by_cases hp : p = src
    · rw [hp, hsource]
      exact hp ▸ hnone p
    · dsimp only
      rw [Function.update_of_ne hp, hqueue]
      by_cases hgate : p = gate
      · rw [hgate, Function.update_self, Function.update_of_ne hsame]
        refine ⟨added, rfl, fun g hg => ?_⟩
        have hmem : g.origin ∈ ((s.queue src).take k).map Skb.origin := horigins ▸ List.mem_map_of_mem hg
        obtain ⟨f, hf, horigin⟩ := List.mem_map.mp hmem
        exact ⟨f, List.mem_of_mem_take hf, horigin.symm⟩
      · rw [Function.update_of_ne hgate, Function.update_of_ne hp]
        exact hnone p

theorem Accounted.copy (h : Accounted s f) (gate src : Nat) : Accounted (moveToQueue paths alloc s gate src true) f := by
  obtain ⟨hfreed, hpending, hqueue⟩ := copy_spec paths alloc s gate src
  obtain ⟨p, hp⟩ | hgiven | hfree := h
  · obtain ⟨added, hq, -⟩ := hqueue p
    exact .inl ⟨p, hq ▸ List.mem_append_left _ hp⟩
  · exact .inr (.inl (hpending ▸ hgiven))
  · exact .inr (.inr (hfreed ▸ hfree))

theorem Lost.copy (h : Lost s f) (gate src : Nat) : Lost (moveToQueue paths alloc s gate src true) f := by
  obtain ⟨hfreed, hpending, hqueue⟩ := copy_spec paths alloc s gate src
  refine ⟨fun p g hg => ?_, hpending ▸ h.2.1, hfreed ▸ h.2.2⟩
  obtain ⟨added, hq, horigins⟩ := hqueue p
  rw [hq] at hg
  obtain hg | hg := List.mem_append.mp hg
  · exact h.1 p g hg
  · obtain ⟨f', hf', horigin⟩ := horigins g hg
    rw [horigin]
    exact h.1 src f' hf'

variable (paths alloc) in
/-- **A move** either leaves the queue of the source, or takes `k` frames from its beginning and drops the others. -/
theorem move_spec (s : Store) (gate src : Nat) :
    ((gate = src ∨ (paths gate).nextHop = none) ∧ moveToQueue paths alloc s gate src false = s) ∨
      ∃ k, k ≤ (s.queue src).length ∧ (k = (s.queue src).length ↔ Fits paths alloc s gate src) ∧
        (moveToQueue paths alloc s gate src false).freed = s.freed ++ (s.queue src).take k ∧
        (moveToQueue paths alloc s gate src false).pending = s.pending ∧
        (moveToQueue paths alloc s gate src false).queue src = [] ∧
        ∀ p, p ≠ src → ∃ added, (moveToQueue paths alloc s gate src false).queue p = s.queue p ++ added ∧
          ∀ g ∈ added, g.origin ∈ ((s.queue src).take k).map Skb.origin := by
  unfold moveToQueue Fits
  by_cases hsame : gate = src
  · exact .inl ⟨.inl hsame, if_pos hsame⟩
  rw [if_neg hsame]
  cases hhop : (paths gate).nextHop with
  | none => exact .inl ⟨.inr rfl, rfl⟩
  | some nextHop =>
    obtain ⟨k, hmoved⟩ := moveLoop_spec paths alloc gate nextHop false (s.queue src)
      { s with queue := Function.update s.queue src [] }
    obtain ⟨added, hqueue, horigins⟩ := hmoved.queue
    have hall := hmoved.all
    dsimp only at hqueue hall ⊢
    rw [if_neg Bool.false_ne_true]
    rw [Function.update_of_ne hsame] at hqueue hall
    refine .inr ⟨k, hmoved.inside, ?_, hmoved.freed, hmoved.pending, ?_, fun p hp => ?_⟩
    · rw [hall]
      simp [hsame]
    · rw [hqueue, Function.update_of_ne (fun h => hsame h.symm), Function.update_self]
    · rw [hqueue]
      by_cases hgate : p = gate
      · rw [hgate, Function.update_self]
        exact ⟨added, rfl, fun g hg => horigins ▸ List.mem_map_of_mem hg⟩
      · rw [Function.update_of_ne hgate, Function.update_of_ne hp]
        exact ⟨[], (List.append_nil _).symm, fun g hg => nomatch hg⟩

variable (paths alloc gate) in
/-- All frames are accounted for behind a move when they fit; otherwise some frame is lost. -/
theorem move_accounted (hstart : Start s src) :
    (Fits paths alloc s gate src → ∀ f ∈ s.queue src, Accounted (moveToQueue paths alloc s gate src false) f) ∧
      (¬ Fits paths alloc s gate src → ∃ f ∈ s.queue src, Lost (moveToQueue paths alloc s gate src false) f) := by
  obtain ⟨hnot, hstays⟩ | ⟨k, hk, hall, hfreed, hpending, hempty, hqueue⟩ :=
    move_spec paths alloc s gate src
  · rw [hstays]
    refine ⟨fun _ f hf => .inl ⟨src, hf⟩, fun hfits => absurd ?_ hfits⟩
    exact hnot.elim .inl fun h => .inr (.inl h)
  · refine ⟨fun hfits f hf => .inr (.inr ?_), fun hfits => ?_⟩
    · rw [hfreed, hall.mpr hfits, List.take_length]
      exact List.mem_append_right _ hf
    · have hlt : k < (s.queue src).length := Nat.lt_of_le_of_ne hk fun h => hfits (hall.mp h)
      refine ⟨(s.queue src)[k], List.getElem_mem hlt, ?_⟩
      -- its number is neither that of a frame that was copied nor that of a frame of another path
      have hnot : (s.queue src)[k].origin ∉ ((s.queue src).take k).map Skb.origin := by
        have hnodup := hstart.nodup
        rw [← List.take_append_drop k (s.queue src), List.map_append, List.nodup_append] at hnodup
        intro hmem
        refine hnodup.2.2 _ hmem _ (List.mem_map_of_mem ?_) rfl
        rw [List.drop_eq_getElem_cons hlt]
        exact List.mem_cons_self
      refine ⟨fun p g hg horigin => ?_, fun g hg => ?_, fun g hg horigin => ?_⟩
      · by_cases hp : p = src
        · rw [hp, hempty] at hg
          cases hg
        · obtain ⟨added, hq, horigins⟩ := hqueue p hp
          rw [hq] at hg
          obtain hg | hg := List.mem_append.mp hg
          · exact hstart.own p hp g hg (horigin ▸ List.mem_map_of_mem (List.getElem_mem hlt))
          · exact hnot (horigin ▸ horigins g hg)
      · rw [hpending, hstart.pending] at hg
        cases hg
      · rw [hfreed, hstart.freed, List.nil_append] at hg
        exact hnot (horigin ▸ List.mem_map_of_mem hg)

/-! ## All gates -/

theorem addPending_spec : ∀ (skbs : List Skb) (s : Store), (addPending s skbs).queue = s.queue ∧
    (∀ g, g ∈ (addPending s skbs).pending ↔ g ∈ s.pending ∨ g ∈ skbs ∧ g.vif = true) ∧
    ∀ g, g ∈ (addPending s skbs).freed ↔ g ∈ s.freed ∨ g ∈ skbs ∧ g.vif = false := by
  intro skbs
  induction skbs with
  | nil => exact fun s => ⟨rfl, fun g => by simp [addPending], fun g => by simp [addPending]⟩
  | cons skb skbs ih =>
    intro s
    unfold addPending
    by_cases hvif : skb.vif = true
    · rw [if_pos hvif]
      obtain ⟨hqueue, hpending, hfreed⟩ := ih { s with pending := s.pending ++ [skb] }
      refine ⟨hqueue, fun g => ?_, fun g => ?_⟩
      · rw [hpending]
        simp only [List.mem_append, List.mem_cons]
        grind
      · rw [hfreed]
        simp only [List.mem_cons]
        grind
    · rw [if_neg hvif]
      obtain ⟨hqueue, hpending, hfreed⟩ := ih { s with freed := s.freed ++ [skb] }
      refine ⟨hqueue, fun g => ?_, fun g => ?_⟩
      · rw [hpending]
        simp only [List.mem_cons]
        grind
      · rw [hfreed]
        simp only [List.mem_append, List.mem_cons]
        grind

theorem Accounted.txPending (h : Accounted s f) (gate : Nat) : Accounted (txPending paths s gate) f := by
  unfold GateForward.txPending
  by_cases hactive : (paths gate).active = true
  · rw [if_pos hactive]
    obtain ⟨hqueue, hpending, hfreed⟩ := addPending_spec (s.queue gate) { s with queue := Function.update s.queue gate [] }
    obtain ⟨p, hp⟩ | ⟨g, hg, horigin⟩ | hfree := h
    · by_cases hgate : p = gate
      · rw [hgate] at hp
        cases hvif : f.vif with
        | true => exact .inr (.inl ⟨f, (hpending f).mpr (.inr ⟨hp, hvif⟩), rfl⟩)
        | false => exact .inr (.inr ((hfreed f).mpr (.inr ⟨hp, hvif⟩)))
      · refine .inl ⟨p, ?_⟩
        rw [hqueue]
        dsimp only
        rwa [Function.update_of_ne hgate]
    · exact .inr (.inl ⟨g, (hpending g).mpr (.inl hg), horigin⟩)
    · exact .inr (.inr ((hfreed f).mpr (.inl hfree)))
  · rw [if_neg hactive]
    exact h

theorem Lost.txPending (h : Lost s f) (gate : Nat) : Lost (txPending paths s gate) f := by
  unfold GateForward.txPending
  by_cases hactive : (paths gate).active = true
  · rw [if_pos hactive]
    obtain ⟨hqueue, hpending, hfreed⟩ := addPending_spec (s.queue gate) { s with queue := Function.update s.queue gate [] }
    refine ⟨fun p g hg => ?_, fun g hg => ?_, fun g hg => ?_⟩
    · rw [hqueue] at hg
      dsimp only at hg
      by_cases hgate : p = gate
      · rw [hgate, Function.update_self] at hg
        cases hg
      · rw [Function.update_of_ne hgate] at hg
        exact h.1 p g hg
    · exact ((hpending g).mp hg).elim (h.2.1 g) fun hq => h.1 gate g hq.1
    · exact ((hfreed g).mp hg).elim (h.2.2 g) fun hq => h.1 gate g hq.1
  · rw [if_neg hactive]
    exact h

variable (paths alloc) in
/-- What every copy and every emptying of a queue keeps holds behind the two loops, once the first gate had its frames. -/
theorem loops_keep {P : Store → Prop} (hcopy : ∀ s gate src, P s → P (moveToQueue paths alloc s gate src true))
    (htx : ∀ s gate, P s → P (txPending paths s gate)) :
    (∀ (gates : List Nat) (s : Store) (src : Nat), P s → P (forwardLoop paths alloc s src true gates).1) ∧
      ∀ (gates : List Nat) (s : Store), P s → P (gates.foldl (txPending paths) s) := by
  refine ⟨fun gates => ?_, fun gates => ?_⟩
  · induction gates with
    | nil => exact fun s src h => h
    | cons gate gates ih =>
      intro s src h
      unfold forwardLoop
      by_cases hactive : (paths gate).active = true
      · rw [if_pos hactive]
        exact ih _ _ (hcopy s gate src h)
      · rw [if_neg hactive]
        exact ih _ _ h
  · induction gates with
    | nil => exact fun s h => h
    | cons gate gates ih => exact fun s h => ih _ (htx s gate h)

variable (paths alloc) in
theorem forwardLoop_first (s : Store) (mpath : Nat) : ∀ gates : List Nat,
    (gates.find? (fun g => (paths g).active) = none ∧ forwardLoop paths alloc s mpath false gates = (s, mpath)) ∨
      ∃ gate rest, gates.find? (fun g => (paths g).active) = some gate ∧
        forwardLoop paths alloc s mpath false gates =
          forwardLoop paths alloc (moveToQueue paths alloc s gate mpath false) gate true rest
  | [] => .inl ⟨rfl, rfl⟩
  | gate :: gates => by
    have hfind : (gate :: gates).find? (fun g => (paths g).active) =
        if (paths gate).active = true then some gate else gates.find? (fun g => (paths g).active) := by
      cases hactive : (paths gate).active with
      | true => simp [hactive]
      | false => simp [hactive]
    have hloop : forwardLoop paths alloc s mpath false (gate :: gates) =
        if (paths gate).active = true then forwardLoop paths alloc (moveToQueue paths alloc s gate mpath false) gate true gates
        else forwardLoop paths alloc s mpath false gates := rfl
    rw [hfind, hloop]
    by_cases hactive : (paths gate).active = true
    · rw [if_pos hactive, if_pos hactive]
      exact .inr ⟨gate, gates, rfl, rfl⟩
    · rw [if_neg hactive, if_neg hactive]
      exact forwardLoop_first s mpath gates

/-- **No frame of a failed path is lost exactly when its frames fit on the queue of the first active gate**; and a copy
    leaves the queue that it is made from. -/
theorem send_to_gates_accounted_iff (paths : Nat → Path) (alloc : Nat → Bool) (s : Store) (mpath : Nat) (gates : List Nat)
    (hstart : Start s mpath) :
    ((∀ f ∈ s.queue mpath, Accounted (sendToGates paths alloc s mpath gates).1 f) ↔
      ∀ gate, gates.find? (fun g => (paths g).active) = some gate → Fits paths alloc s gate mpath) ∧
      (∀ gate, (∀ f ∈ s.queue mpath, Accounted (moveToQueue paths alloc s gate mpath false) f) ↔
        Fits paths alloc s gate mpath) ∧
      ∀ s' gate src, (moveToQueue paths alloc s' gate src true).queue src = s'.queue src := by
  have hmove : ∀ gate, (∀ f ∈ s.queue mpath, Accounted (moveToQueue paths alloc s gate mpath false) f) ↔
      Fits paths alloc s gate mpath := by
    intro gate
    obtain ⟨hfits, hlost⟩ := move_accounted paths alloc gate hstart
    refine ⟨fun h => ?_, hfits⟩
    by_contra hnot
    obtain ⟨f, hf, hl⟩ := hlost hnot
    exact hl.not_accounted (h f hf)
  refine ⟨?_, hmove, copy_keeps_source paths alloc⟩
  unfold sendToGates
  dsimp only
  obtain ⟨hnone, hloop⟩ | ⟨gate, rest, hfirst, hloop⟩ := forwardLoop_first paths alloc s mpath gates
  · rw [hloop, hnone]
    refine iff_of_true (fun f hf => ?_) (fun gate h => nomatch h)
    exact (loops_keep paths alloc (P := fun s => Accounted s f) (fun _ gate src h => h.copy gate src) fun _ gate h => h.txPending gate).2
      gates s (.inl ⟨mpath, hf⟩)
  · rw [hloop, hfirst]
    simp only [Option.some.injEq, forall_eq']
    obtain ⟨hfits, hlost⟩ := move_accounted paths alloc gate hstart
    constructor
    · intro h
      by_contra hnot
      obtain ⟨f, hf, hl⟩ := hlost hnot
      obtain ⟨hforward, htx⟩ := loops_keep paths alloc (P := fun s => Lost s f) (fun _ gate src h => h.copy gate src)
        fun _ gate h => h.txPending gate
      exact (htx gates _ (hforward rest _ gate hl)).not_accounted (h f hf)
    · intro h f hf
      obtain ⟨hforward, htx⟩ := loops_keep paths alloc (P := fun s => Accounted s f) (fun _ gate src h => h.copy gate src)
        fun _ gate h => h.txPending gate
      exact htx gates _ (hforward rest _ gate (hfits h f hf))

/-- A failed path with two frames, and two gates. -/
def twoGates : Nat → Path := fun p =>
  { dst := [p.toUInt8.toBitVec, 0, 0, 0, 0, 0], active := decide (p ≠ 0), nextHop := some [2, 0, 0, 0, 0, 1]
    vifAddr := [2, 0, 0, 0, 0, 2] }

def meshFrame (n : Nat) : Skb := { origin := n, data := 0x88 :: 0x03 :: List.replicate 50 0, vif := true }

/-- A path 0 with these frames, and a gate 1 with as many others. -/
def queued (frames others : List Nat) : Store :=
  { queue := fun p => if p = 0 then frames.map meshFrame else if p = 1 then others.map meshFrame else []
    pending := [], freed := [], tries := 0 }

/-- Two frames fit. -/
theorem two_frames_accounted : ((queued [0, 1] [10]).queue 0).length = 2 ∧
    ∀ f ∈ (queued [0, 1] [10]).queue 0, Accounted (sendToGates twoGates (fun _ => true) (queued [0, 1] [10]) 0 [1, 2]).1 f := by
  refine ⟨rfl, ?_⟩
  refine (send_to_gates_accounted_iff _ _ _ _ _ ⟨rfl, rfl, by decide, fun p hp g hg => ?_⟩).1.mpr fun gate hgate => ?_
  · by_cases h1 : p = 1
    · have hg' : g = meshFrame 10 := by simpa [queued, h1] using hg
      rw [hg']
      decide
    · simp [queued, hp, h1] at hg
  · cases hgate
    exact .inr (.inr (by decide))

/-- **Two of four frames are lost** when the gate has place for two. -/
theorem full_gate_loses : ¬ ∀ f ∈ (queued [0, 1, 2, 3] (List.range' 10 8)).queue 0,
    Accounted (sendToGates twoGates (fun _ => true) (queued [0, 1, 2, 3] (List.range' 10 8)) 0 [1, 2]).1 f := by
  intro h
  have hfits := (send_to_gates_accounted_iff twoGates (fun _ => true) (queued [0, 1, 2, 3] (List.range' 10 8)) 0 [1, 2]
    ⟨rfl, rfl, by decide, fun p hp g hg => ?_⟩).1.mp h 1 rfl
  · obtain hsame | hhop | hroom := hfits
    · exact absurd hsame (by decide)
    · exact absurd hhop (by decide)
    · exact absurd (hroom 3 (by decide)).1 (by decide)
  · by_cases h1 : p = 1
    · have hg' : g ∈ (List.range' 10 8).map meshFrame := by simpa [queued, h1] using hg
      obtain ⟨n, hn, rfl⟩ := List.mem_map.mp hg'
      have hbound := (List.mem_range'_1.mp hn).1
      intro hmem
      have hsmall : n ∈ [0, 1, 2, 3] := by simpa [queued, meshFrame] using hmem
      simp only [List.mem_cons, List.not_mem_nil, or_false] at hsmall
      omega
    · simp [queued, hp, h1] at hg

end Mac80211.Mesh.GateForward
