import Wifi.Net80211.AmpduRxOrder

/-!
# Subframes of an A-MSDU in the receive reorder window

A device that splits A-MSDUs gives their subframes to `ieee80211_ampdu_reorder` one after the other, with the same
sequence number, `IEEE80211_RX_F_AMSDU` on all of them and `IEEE80211_RX_F_AMSDU_MORE` on all but the last.

* `Subframes` — such a list, with the clock when each of them comes; `subframeCalls` — the calls.
* `Call.Kept`, `Call.Discarded` — by what a call passes up, what was held before and what is held after it.
* `Space` — one slot of the window, by the room in it and the age of the window: which subframes are taken.
* `AlikeWhen` — when all subframes are treated alike, by the session before the first of them.
-/

namespace Net80211

open Slots Runs

/-! ## Calls -/

/-- One call of `ieee80211_ampdu_reorder`. -/
structure Call where
  before : RxAmpdu
  frame : Mbuf
  after : RxAmpdu
  up : List Mbuf

/-- What a session holds, marked as it will be when it is dispatched. -/
def held (rap : RxAmpdu) : List Mbuf := dispatched rap.rxaMq 0 rap.rxaWnd

/-- **The frame is delivered or queued**: nothing is lost. -/
def Call.Kept (c : Call) : Prop :=
  (held c.after ++ c.up.map ampduDispatch).Perm (ampduDispatch c.frame :: held c.before)

/-- **The frame is discarded**: everything else is still there. -/
def Call.Discarded (c : Call) : Prop := (held c.after ++ c.up.map ampduDispatch).Perm (held c.before)

/-- The calls for frames that come one after the other. -/
def subframeCalls : Node → List (Clock × Mbuf) → Except Fault (List Call)
  | _, [] => .ok []
  | ni, (clk, m) :: rest =>
    match (Op.reorder clk m m.rxs).apply ni with
    | .error f => .error f
    | .ok (ni', v, out) =>
      match subframeCalls ni' rest with
      | .error f => .error f
      | .ok calls =>
        .ok (⟨ni.niRxAmpdu m.tid, m, ni'.niRxAmpdu m.tid, (Op.reorder clk m m.rxs).passedUp v out⟩ :: calls)

/-- A subframe of an A-MSDU with the header of `hdr`. -/
structure SubframeOf (hdr m : Mbuf) : Prop where
  iFc0 : m.iFc0 = hdr.iFc0
  iAddr1 : m.iAddr1 = hdr.iAddr1
  qos0 : m.qos0 = hdr.qos0
  iSeq : m.iSeq = hdr.iSeq
  fromInput : m.mAmpdu = true ∧ m.mAmpduMpdu = false
  amsdu : ieee80211CheckRxseqAmsdu m.rxs = true

/-- **The subframes of an A-MSDU**, with the clock when they come. -/
inductive Subframes (hdr : Mbuf) : List (Clock × Mbuf) → Prop where
  | last {clk : Clock} {m : Mbuf} : SubframeOf hdr m → ieee80211CheckRxseqAmsduMore m.rxs = true →
      Subframes hdr [(clk, m)]
  | more {clk : Clock} {m : Mbuf} {rest : List (Clock × Mbuf)} : SubframeOf hdr m →
      ieee80211CheckRxseqAmsduMore m.rxs = false → Subframes hdr rest → Subframes hdr ((clk, m) :: rest)

/-- **All subframes are treated alike.** -/
def Alike (calls : List Call) : Prop := (∀ c ∈ calls, c.Kept) ∨ ∀ c ∈ calls, c.Discarded

/-! ## One slot -/

/-- A slot of the window: the age of the window, if something is held, and how many subframes the slot still takes. -/
structure Space where
  age : Option Int
  room : Nat

def Space.late (s : Space) (clk : Clock) : Bool :=
  match s.age with
  | none => false
  | some age => decide (clk.ampduAge < wrap32 (clk.ticks - age))

def Space.takes (s : Space) (clk : Clock) : Bool := s.late clk || decide (0 < s.room)

/-- The slot behind the next subframe; where frames have been held for too long, it is delivered after all of them. -/
def Space.next (s : Space) (clk : Clock) : Space :=
  if s.late clk then { age := none, room := mqMaxlen }
  else { age := some (s.age.getD clk.ticks), room := s.room - 1 }

/-- **There is room for all of them.** -/
def Space.Fits : Space → List Clock → Prop
  | _, [] => True
  | s, clk :: clks => s.takes clk = true ∧ (s.next clk).Fits clks

/-- **No room for any of them**, and what is held is not too old. -/
def Space.Refuses (s : Space) (clks : List Clock) : Prop := s.room = 0 ∧ ∀ clk ∈ clks, s.late clk = false

/-- Which subframes are taken, one after the other. -/
def outcomes {σ : Type} (takes : σ → Clock → Bool) (next : σ → Clock → σ) : σ → List Clock → List Bool
  | _, [] => []
  | s, clk :: clks => takes s clk :: outcomes takes next (next s clk) clks

/-! ## The session before the first subframe -/

/-- How many subframes a slot takes: it is empty, or its last frame says that more of its A-MSDU will come. -/
def roomOf (slot : List Mbuf) : Nat :=
  if slot = [] ∨ ieee80211CheckRxseqAmsduMore (slot.getLast?.bind (·.rxs)) = false then mqMaxlen - slot.length else 0

def ageOf (rap : RxAmpdu) : Option Int := if rap.rxaQframes = 0 then none else some rap.rxaAge

/-- The session when a frame with sequence number `rxseq` has been seen. -/
def RxAmpdu.entered (rap : RxAmpdu) (rxseq : Nat) : RxAmpdu :=
  if rap.waitrx then { rap with waitrx := false, rxaStart := rxseq } else rap

/-- The window moves up to the frame: nothing is left before it. -/
def ReachesHead (rap : RxAmpdu) (off : Nat) : Prop :=
  rap.rxaWnd = 1 ∨ off = rap.rxaWnd ∧ ∀ j, 0 < j → j < rap.rxaWnd → rap.rxaMq j ≠ []

/-- Frames stay in the window when it moves: they are behind a gap. -/
def StaysBehindGap (rap : RxAmpdu) (off : Nat) : Prop :=
  ∃ i j, off - (rap.rxaWnd - 1) ≤ i ∧ i < j ∧ rap.rxaMq i = [] ∧ rap.rxaMq j ≠ []

/-- **When the subframes of an A-MSDU are treated alike**, for a session that takes them: at the head of the window nothing
    is held or there is one subframe, in the window there is room for all of them or for none, and behind it there is room
    for all of them in an empty slot or they come to the head. -/
def WindowAlike (rap : RxAmpdu) (rxseq : Nat) (clks : List Clock) : Prop :=
  let off := seqSub rxseq rap.rxaStart
  (off = 0 → rap.rxaQframes = 0 ∨ clks.length = 1) ∧
    (0 < off → off < rap.rxaWnd →
      Space.Fits ⟨ageOf rap, roomOf (rap.rxaMq off)⟩ clks ∨ Space.Refuses ⟨ageOf rap, roomOf (rap.rxaMq off)⟩ clks) ∧
    (rap.rxaWnd ≤ off → off < IEEE80211_SEQ_BA_RANGE → ReachesHead rap off ∨
      (StaysBehindGap rap off → Space.Fits ⟨some rap.rxaAge, mqMaxlen⟩ clks) ∧
        (¬ StaysBehindGap rap off → Space.Fits ⟨none, mqMaxlen⟩ clks))

/-- **When the subframes of an A-MSDU are treated alike**: the session does not take them, or as its window says. -/
def AlikeWhen (rap : RxAmpdu) (hdr : Mbuf) (clks : List Clock) : Prop :=
  hdr.iFc0 ≠ IEEE80211_FC0_QOSDATA ∨ hdr.isMulticast = true ∨ rap.xchgpend = false ∨ hdr.frag ≠ 0 ∨
    WindowAlike (rap.entered hdr.seq) hdr.seq clks

end Net80211
