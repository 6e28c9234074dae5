import Mathlib.Tactic.Common
import Wifi.Lib.Runs

/-!
# Defragmentation (`freebsd/sys/net80211/ieee80211_input.c`)

* `ieee80211Defrag` — the function of this name, on the pending frame `ni_rxfrag[0]` of a node.
* `Op` — its calls for one node, and the timer that drops the pending frame.
* `Assembled`, `Numbered` — a frame made of fragments, and the fragments of one frame.
* `fragments_in_order` — what every frame that is handed on was made of.

An mbuf has its header and its bytes, the header's among them; only the header is changed in place.
Callers pass no multicast frame, as the function's `KASSERT` says.
-/

namespace Net80211.Defrag

open Runs

/-! ## The function -/

/-- What the function reads and writes of `struct ieee80211_frame`. -/
structure Hdr where
  /-- `i_fc[1] & IEEE80211_FC1_MORE_FRAG` -/
  moreFrag : Bool
  /-- `i_fc[1] & IEEE80211_FC1_PROTECTED` -/
  isProtected : Bool
  iAddr1 : BitVec 48
  iAddr2 : BitVec 48
  /-- `le16toh(*(uint16_t *)wh->i_seq)` -/
  iSeq : BitVec 16
  deriving DecidableEq, Repr

structure Mbuf where
  wh : Hdr
  data : List (BitVec 8)
  deriving DecidableEq, Repr

/-- `rxseq & IEEE80211_SEQ_FRAG_MASK` -/
def fragno (rxseq : BitVec 16) : Nat := rxseq.toNat % 16

/-- `rxseq >> IEEE80211_SEQ_SEQ_SHIFT` -/
def seqno (rxseq : BitVec 16) : Nat := rxseq.toNat / 16

/-- The arguments of a call; `niTable` says that the node is in a table. -/
structure Call where
  m : Mbuf
  hdrspace : Nat
  hasDecrypted : Bool
  niTable : Bool
  deriving DecidableEq, Repr

/-- The flag is set to remember that a fragment was encrypted. -/
def Call.status (c : Call) : Bool := c.m.wh.isProtected || c.hasDecrypted

def Call.wh (c : Call) : Hdr := { c.m.wh with isProtected := c.status }

/-- The new fragment is in order and related to the previous ones. -/
def follows (lwh wh : Hdr) : Bool :=
  wh.iSeq.toNat = lwh.iSeq.toNat + 1 && wh.iAddr1 = lwh.iAddr1 && wh.iAddr2 = lwh.iAddr2 &&
    wh.isProtected = lwh.isProtected

/-- The fragment goes behind the pending frame, without its header. -/
def concat (mfrag : Mbuf) (c : Call) : Mbuf :=
  { wh := { mfrag.wh with iSeq := c.m.wh.iSeq }, data := mfrag.data ++ c.m.data.drop c.hdrspace }

/-- The frame that the fragment is part of; `none` when it is dropped. -/
def validate (rxfrag : Option Mbuf) (c : Call) : Option Mbuf :=
  match rxfrag.filter fun mfrag => follows mfrag.wh c.wh with
  | some mfrag => some (concat mfrag c)
  | none => if fragno c.m.wh.iSeq ≠ 0 then none else some { c.m with wh := c.wh }

/-- `ieee80211_defrag`: the pending frame after the call, and what it returns. -/
def ieee80211Defrag (rxfrag : Option Mbuf) (c : Call) : Option Mbuf × Option Mbuf :=
  -- Quick way out, if there's nothing to defragment
  if c.m.wh.moreFrag = false ∧ fragno c.m.wh.iSeq = 0 ∧ rxfrag = none then (none, some c.m)
  else if c.niTable = false then (rxfrag, none)
  else
    match validate rxfrag c with
    | none => (none, none)
    | some mfrag =>
      if c.m.wh.moreFrag then (some mfrag, none)
      else (none, some { mfrag with wh := { mfrag.wh with isProtected := false } })

/-! ## Runs -/

/-- The calls for one node; the pending frame is dropped when it is too old or the node goes. -/
inductive Op where
  | defrag (c : Call)
  | reap
  deriving DecidableEq, Repr

/-- The pending frame, the calls so far, and the frames they returned. -/
structure State where
  rxfrag : Option Mbuf
  calls : List Call
  returned : List Mbuf
  deriving DecidableEq, Repr

def next (s : State) : Op → State
  | .defrag c =>
    let r := ieee80211Defrag s.rxfrag c
    { rxfrag := r.1, calls := s.calls ++ [c], returned := s.returned ++ r.2.toList }
  | .reap => { s with rxfrag := none }

def Step (s : State) (op : Op) (s' : State) : Prop := s' = next s op

def Initial (s : State) : Prop := s = { rxfrag := none, calls := [], returned := [] }

/-! ## Frames made of fragments -/

/-- The fragments that come in one frame: they are numbered from 0, have one sequence number, one pair of
    addresses and one protected status. -/
structure Numbered (parts : List Call) : Prop where
  frag : ∀ i c, parts[i]? = some c → fragno c.m.wh.iSeq = i
  seq : ∀ c ∈ parts, ∀ c' ∈ parts, seqno c.m.wh.iSeq = seqno c'.m.wh.iSeq
  addr1 : ∀ c ∈ parts, ∀ c' ∈ parts, c.m.wh.iAddr1 = c'.m.wh.iAddr1
  addr2 : ∀ c ∈ parts, ∀ c' ∈ parts, c.m.wh.iAddr2 = c'.m.wh.iAddr2
  status : ∀ c ∈ parts, ∀ c' ∈ parts, c.status = c'.status

/-- A frame with the bytes of its first fragment and the bodies of the others, behind the header of the first one
    with the number of the last one. -/
structure Assembled (parts : List Call) (m : Mbuf) : Prop where
  data : ∃ first rest, parts = first :: rest ∧
    m.data = first.m.data ++ rest.flatMap (fun c => c.m.data.drop c.hdrspace) ∧
    m.wh.iAddr1 = first.m.wh.iAddr1 ∧ m.wh.iAddr2 = first.m.wh.iAddr2
  last : parts.getLast?.map (fun c => c.m.wh.iSeq) = some m.wh.iSeq

structure Pending (calls parts : List Call) (m : Mbuf) : Prop extends Numbered parts, Assembled parts m where
  sub : parts.Sublist calls
  more : ∀ c ∈ parts, c.m.wh.moreFrag = true
  wasProtected : ∀ c ∈ parts, c.status = m.wh.isProtected

/-- All fragments but the last have another one behind them. -/
structure InOrder (parts : List Call) : Prop extends Numbered parts where
  more : ∀ i c, parts[i]? = some c → c.m.wh.moreFrag = decide (i + 1 < parts.length)

/-- What a frame that was handed on is made of. -/
def MadeOf (calls : List Call) (m : Mbuf) : Prop :=
  ∃ parts : List Call, parts.Sublist calls ∧ Assembled parts m ∧ (1 < parts.length → InOrder parts)

/-- The fragment does not follow a fragment with the number 15. -/
def Ok (s : State) : Op → Prop
  | .defrag c => ∀ mfrag, s.rxfrag = some mfrag → follows mfrag.wh c.wh = true → fragno mfrag.wh.iSeq ≠ 15
  | .reap => True

variable {parts calls : List Call} {c : Call} {m mfrag : Mbuf} {s s' : State} {op : Op}

/-! ## One fragment more -/

theorem follows_iff {lwh wh : Hdr} : follows lwh wh = true ↔ wh.iSeq.toNat = lwh.iSeq.toNat + 1 ∧
    wh.iAddr1 = lwh.iAddr1 ∧ wh.iAddr2 = lwh.iAddr2 ∧ wh.isProtected = lwh.isProtected := by
  simp only [follows, Bool.and_eq_true, decide_eq_true_eq, and_assoc]

theorem seq_of_succ {a b : BitVec 16} (h : b.toNat = a.toNat + 1) (h15 : fragno a ≠ 15) :
    fragno b = fragno a + 1 ∧ seqno b = seqno a := by
  unfold fragno seqno at *
  omega

theorem Assembled.single (c : Call) (wh : Hdr) (h1 : wh.iAddr1 = c.m.wh.iAddr1) (h2 : wh.iAddr2 = c.m.wh.iAddr2)
    (hs : wh.iSeq = c.m.wh.iSeq) : Assembled [c] { c.m with wh := wh } := by
  refine ⟨⟨c, [], rfl, ?_, h1, h2⟩, ?_⟩
  · rw [List.flatMap_nil, List.append_nil]
  · rw [hs]
    rfl

theorem Assembled.concat (h : Assembled parts mfrag) (c : Call) : Assembled (parts ++ [c]) (concat mfrag c) := by
  obtain ⟨⟨first, rest, rfl, hdata, h1, h2⟩, -⟩ := h
  refine ⟨⟨first, rest ++ [c], rfl, ?_, h1, h2⟩, ?_⟩
  · simp [Defrag.concat, hdata]
  · rw [List.getLast?_concat]
    rfl

theorem Assembled.setProtected (h : Assembled parts m) (b : Bool) :
    Assembled parts { m with wh := { m.wh with isProtected := b } } :=
  ⟨h.data, h.last⟩

theorem Numbered.single (hfrag : fragno c.m.wh.iSeq = 0) : Numbered [c] := by
  refine ⟨fun i d h => ?_, ?_, ?_, ?_, ?_⟩
  · cases i with
    | zero =>
      cases h
      exact hfrag
    | succ i => cases h
  all_goals simp

theorem same_concat {β : Type} {f : Call → β} (h : ∀ a ∈ parts, ∀ b ∈ parts, f a = f b) {d : Call} (hd : d ∈ parts)
    (hc : f c = f d) : ∀ a ∈ parts ++ [c], ∀ b ∈ parts ++ [c], f a = f b := by
  have hall : ∀ a ∈ parts ++ [c], f a = f d := by
    intro a ha
    rcases List.mem_append.mp ha with ha | ha
    · exact h a ha d hd
    · rw [List.mem_singleton.mp ha]
      exact hc
  intro a ha b hb
  exact (hall a ha).trans (hall b hb).symm

/-- **A fragment that follows** the pending frame, unless its number carries. -/
theorem Numbered.concat (h : Pending calls parts mfrag) (hf : follows mfrag.wh c.wh = true)
    (h15 : fragno mfrag.wh.iSeq ≠ 15) : Numbered (parts ++ [c]) := by
  obtain ⟨hseq, h1, h2, hprot⟩ := follows_iff.mp hf
  obtain ⟨first, rest, hparts, -, haddr1, haddr2⟩ := h.data
  have hfirst : first ∈ parts := by
    rw [hparts]
    exact List.mem_cons_self
  obtain ⟨l, hl, hlast⟩ := Option.map_eq_some_iff.mp h.last
  have hmem : l ∈ parts := List.mem_of_getLast? hl
  have hat : parts[parts.length - 1]? = some l := by
    rw [← List.getLast?_eq_getElem?]
    exact hl
  have hpos : 0 < parts.length := List.length_pos_of_mem hmem
  obtain ⟨hnum, hsame⟩ := seq_of_succ hseq h15
  have hlen : fragno c.m.wh.iSeq = parts.length := by
    have hn := h.frag _ l hat
    rw [hlast] at hn
    have hc : fragno c.m.wh.iSeq = fragno mfrag.wh.iSeq + 1 := hnum
    omega
  refine ⟨fun i d hd => ?_, ?_, ?_, ?_, ?_⟩
  · rcases Nat.lt_trichotomy i parts.length with hi | hi | hi
    · rw [List.getElem?_append_left hi] at hd
      exact h.frag i d hd
    · rw [hi, List.getElem?_concat_length] at hd
      cases hd
      rw [hi]
      exact hlen
    · rw [List.getElem?_eq_none (by rw [List.length_append, List.length_singleton]; omega)] at hd
      cases hd
  · refine same_concat h.seq hmem ?_
    rw [hlast]
    exact hsame
  · exact same_concat h.addr1 hfirst (h1.trans haddr1)
  · exact same_concat h.addr2 hfirst (h2.trans haddr2)
  · refine same_concat h.status hmem ?_
    exact hprot.trans (h.wasProtected l hmem).symm

/-! ## Runs -/

/-- What is pending is made of fragments in order, and so is what was handed on. -/
structure Inv (s : State) : Prop where
  pending : ∀ m, s.rxfrag = some m → ∃ parts, Pending s.calls parts m
  returned : ∀ m ∈ s.returned, MadeOf s.calls m

theorem MadeOf.later (h : MadeOf calls m) (c : Call) : MadeOf (calls ++ [c]) m := by
  obtain ⟨parts, hsub, hrest⟩ := h
  exact ⟨parts, hsub.trans (List.sublist_append_left _ _), hrest⟩

theorem MadeOf.single (wh : Hdr) (h1 : wh.iAddr1 = c.m.wh.iAddr1) (h2 : wh.iAddr2 = c.m.wh.iAddr2)
    (hs : wh.iSeq = c.m.wh.iSeq) : MadeOf (calls ++ [c]) { c.m with wh := wh } := by
  refine ⟨[c], List.sublist_append_right _ _, .single c wh h1 h2 hs, fun hlen => ?_⟩
  rw [List.length_singleton] at hlen
  omega

theorem InOrder.of_last (hn : Numbered (parts ++ [c])) (hmore : ∀ d ∈ parts, d.m.wh.moreFrag = true)
    (hlast : c.m.wh.moreFrag = false) : InOrder (parts ++ [c]) := by
  refine ⟨hn, fun i d hd => ?_⟩
  rw [List.length_append, List.length_singleton]
  rcases Nat.lt_trichotomy i parts.length with hi | hi | hi
  · rw [List.getElem?_append_left hi] at hd
    rw [hmore d (List.mem_of_getElem? hd), decide_eq_true (by omega)]
  · rw [hi, List.getElem?_concat_length] at hd
    cases hd
    rw [hlast, decide_eq_false (by omega)]
  · rw [List.getElem?_eq_none (by rw [List.length_append, List.length_singleton]; omega)] at hd
    cases hd

/-- What a call does to the pending frame and what it returns. -/
theorem defrag_spec {rxfrag : Option Mbuf} (hp : ∀ m, rxfrag = some m → ∃ parts, Pending calls parts m)
    (hok : ∀ mfrag, rxfrag = some mfrag → follows mfrag.wh c.wh = true → fragno mfrag.wh.iSeq ≠ 15) :
    (∀ m, (ieee80211Defrag rxfrag c).1 = some m → ∃ parts, Pending (calls ++ [c]) parts m) ∧
      ∀ m, (ieee80211Defrag rxfrag c).2 = some m → MadeOf (calls ++ [c]) m := by
  have hlater : ∀ m, rxfrag = some m → ∃ parts, Pending (calls ++ [c]) parts m := by
    intro m hm
    obtain ⟨parts, h⟩ := hp m hm
    exact ⟨parts, { h with sub := h.sub.trans (List.sublist_append_left _ _) }⟩
  unfold ieee80211Defrag
  by_cases hquick : c.m.wh.moreFrag = false ∧ fragno c.m.wh.iSeq = 0 ∧ rxfrag = none
  · rw [if_pos hquick]
    refine ⟨fun m hm => (by cases hm), fun m hm => ?_⟩
    cases hm
    exact .single c.m.wh rfl rfl rfl
  rw [if_neg hquick]
  by_cases htable : c.niTable = false
  · rw [if_pos htable]
    exact ⟨hlater, fun m hm => by cases hm⟩
  rw [if_neg htable]
  unfold validate
  cases hfilter : rxfrag.filter fun mfrag => follows mfrag.wh c.wh with
  | none =>
    by_cases hfrag : fragno c.m.wh.iSeq = 0
    · -- the fragment starts a frame of its own
      dsimp only
      rw [if_neg (not_not_intro hfrag)]
      dsimp only
      by_cases hmore : c.m.wh.moreFrag = true
      · rw [if_pos hmore]
        refine ⟨fun m hm => ?_, fun m hm => by cases hm⟩
        cases hm
        refine ⟨[c], .single hfrag, .single c c.wh rfl rfl rfl, List.sublist_append_right _ _, ?_, ?_⟩
        · simpa using hmore
        · simp [Call.wh]
      · rw [if_neg hmore]
        refine ⟨fun m hm => (by cases hm), fun m hm => ?_⟩
        cases hm
        exact .single _ rfl rfl rfl
    · dsimp only
      rw [if_pos hfrag]
      exact ⟨fun m hm => (by cases hm), fun m hm => by cases hm⟩
  | some mfrag =>
    obtain ⟨hrx, hfollows⟩ := Option.filter_eq_some_iff.mp hfilter
    obtain ⟨parts, h⟩ := hp mfrag hrx
    have hnum := Numbered.concat h hfollows (hok mfrag hrx hfollows)
    have hasm := h.toAssembled.concat c
    have hsub : (parts ++ [c]).Sublist (calls ++ [c]) := h.sub.append (List.Sublist.refl _)
    dsimp only
    by_cases hmore : c.m.wh.moreFrag = true
    · rw [if_pos hmore]
      refine ⟨fun m hm => ?_, fun m hm => by cases hm⟩
      cases hm
      refine ⟨parts ++ [c], hnum, hasm, hsub, ?_, ?_⟩
      · intro d hd
        rcases List.mem_append.mp hd with hd | hd
        · exact h.more d hd
        · rw [List.mem_singleton.mp hd]
          exact hmore
      · intro d hd
        rcases List.mem_append.mp hd with hd | hd
        · exact h.wasProtected d hd
        · rw [List.mem_singleton.mp hd]
          exact (follows_iff.mp hfollows).2.2.2
    · rw [if_neg hmore]
      refine ⟨fun m hm => (by cases hm), fun m hm => ?_⟩
      cases hm
      exact ⟨parts ++ [c], hsub, hasm.setProtected false, fun _ => .of_last hnum h.more (Bool.eq_false_iff.mpr hmore)⟩

theorem Inv.step (hi : Inv s) (hok : Ok s op) (hs : Step s op s') : Inv s' := by
  rw [hs]
  cases op with
  | defrag c =>
    obtain ⟨hpending, hreturned⟩ := defrag_spec hi.pending hok
    refine ⟨hpending, fun m hm => ?_⟩
    rcases List.mem_append.mp hm with hm | hm
    · exact (hi.returned m hm).later c
    · exact hreturned m (Option.mem_toList.mp hm)
  | reap => exact ⟨fun m hm => (by cases hm), hi.returned⟩

/-- **Frames are made of their own fragments, in order**, in every run in which no fragment follows one with the
    number 15. -/
theorem fragments_in_order (hr : Reachable Initial (Guarded Ok Step) s) : ∀ m ∈ s.returned, MadeOf s.calls m := by
  have hinv : Inv s := by
    refine hr.invariant (fun s h0 => ?_) fun s op s' hi h => hi.step h.1 h.2
    rw [h0]
    exact ⟨fun m hm => (by cases hm), fun m hm => by cases hm⟩
  exact hinv.returned

/-! ## The carry -/

/-- A fragment with a header of 24 bytes and one byte behind it. -/
def piece (seq frag : Nat) (moreFrag : Bool) : Op :=
  .defrag { m := { wh := { moreFrag, isProtected := false, iAddr1 := 2, iAddr2 := 4, iSeq := BitVec.ofNat 16 (seq * 16 + frag) }
                   data := List.replicate 25 0 }
            hdrspace := 24, hasDecrypted := false, niTable := true }

/-- Two fragments are put together. -/
theorem fragments_in_order_two : ∃ s : State, Reachable Initial (Guarded Ok Step) s ∧ s.returned.length = 1 ∧
    ∀ m ∈ s.returned, MadeOf s.calls m := by
  have hr : Reachable Initial (Guarded Ok Step) (next (next { rxfrag := none, calls := [], returned := [] }
      (piece 5 0 true)) (piece 5 1 false)) := by
    refine .next (.next (.start rfl) ⟨?_, rfl⟩) ⟨?_, rfl⟩
    · intro mfrag h
      cases h
    · intro mfrag h _
      cases h
      decide
  exact ⟨_, hr, rfl, fragments_in_order hr⟩

/-- The fragments 0 to 15 of the frame 5, all with another one behind them, and the frame 6. -/
def carried : List Op := (List.range 16).map (fun i => piece 5 i true) ++ [piece 6 0 false]

/-- The frame 6 is taken for the seventeenth fragment of the frame 5. -/
theorem frames_joined : ¬ ∀ s, Reachable Initial Step s → ∀ m ∈ s.returned, MadeOf s.calls m := by
  intro hall
  have hrun : (exec (fun s op => some (next s op)) carried { rxfrag := none, calls := [], returned := [] }).map
      (fun s => (s.calls.all fun c => c.m.data.length = 25, s.returned.map fun m => (m.data.length, m.wh.iSeq))) =
      some (true, [(41, (96 : BitVec 16))]) := by decide
  obtain ⟨s, hr, hs⟩ := exec_observe (show Initial _ from rfl) carried (fun _ _ _ _ h => (Option.some.inj h).symm) _ hrun
  rw [Prod.mk.injEq] at hs
  obtain ⟨hcalls, hreturned⟩ := hs
  obtain ⟨m, hm, hobs⟩ := List.map_eq_singleton_iff.mp hreturned
  rw [Prod.mk.injEq] at hobs
  obtain ⟨parts, hsub, ⟨⟨first, rest, rfl, hdata, -, -⟩, hlast⟩, horder⟩ := hall s hr m (by rw [hm]; exact List.mem_singleton_self m)
  cases rest with
  | nil =>
    have hlen := List.all_eq_true.mp hcalls first (hsub.subset List.mem_cons_self)
    rw [List.flatMap_nil, List.append_nil] at hdata
    rw [hdata] at hobs
    rw [decide_eq_true_eq] at hlen
    omega
  | cons d rest =>
    have ho := horder (by simp)
    obtain ⟨l, hl, hseq⟩ := Option.map_eq_some_iff.mp hlast
    rw [List.getLast?_eq_getElem?] at hl
    have hfrag := ho.frag _ l hl
    rw [hseq, hobs.2] at hfrag
    simp [fragno] at hfrag

end Net80211.Defrag
