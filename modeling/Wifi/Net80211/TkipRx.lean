import Wifi.Lib.Memo
import Wifi.Lib.TkipMixing
import Wifi.Net80211.Ccmp

/-!
# TKIP on receive (`freebsd/sys/net80211/ieee80211_crypto_tkip.c`)

* `tkipMixingPhase1`, `tkipMixingPhase2` — the key mixing.
* `tkipDecrypt` — `tkip_decrypt`; `rx_ttak` keeps what the first phase gave.
* `tkipDecap`, `tkipDemic` — the functions of the cipher that call it, and that record the counter of a frame.
* `Event`, `step` — received frames on one key.
* `ttak_coherent_iff` — a frame gets the key of its own counter exactly when a value that is kept is only used for the
  counter that it was computed for.

The cases that a frame takes in `tkip_decap` and `tkip_demic` because of `struct ieee80211_rx_stats` and of the flags are
fields of the frame; what `wep_decrypt` returns is a parameter, and so is the comparison of the MIC. Statistics and
messages are left out.
-/

namespace Net80211.TkipRx

open TkipMixing (Ttak Octets)
open Ccmp (ieee80211Gettid IEEE80211_WEP_EXTIV)

def tkipMixingPhase1 (tk : Nat → Byte) (ta : Octets) (iv32 : BitVec 32) : Ttak :=
  TkipMixing.phase1 TkipMixing.subst tk ta iv32

def tkipMixingPhase2 (tk : Nat → Byte) (ttak : Ttak) (iv16 : BitVec 16) : List Byte :=
  TkipMixing.phase2 TkipMixing.subst tk ttak iv16

/-! ## Keys -/

/-- `struct tkip_ctx`, for received frames -/
structure TkipCtx where
  rxTtak : Ttak
  rxPhase1Done : Bool
  rxRc4key : List Byte
  rxRsc : BitVec 64

/-- `struct ieee80211_key` -/
structure Key where
  wkKey : Nat → Byte
  swDecrypt : Bool
  swDemic : Bool
  noReplay : Bool

/-- What a received frame changes: the context, and `wk_keyrsc`; `tried` is what the first phase was run for last. -/
structure State where
  ctx : TkipCtx
  wkKeyrsc : Nat → BitVec 64
  tried : Option (Octets × BitVec 32)

/-- A frame for `tkip_decap`: its header, and the bytes from `ivp` on. -/
structure RxFrame where
  wh : List Byte
  ivp : List Byte
  /-- `IEEE80211_RX_F_IV_STRIP` -/
  ivStrip : Bool
  /-- `IEEE80211_F_COUNTERM`, when the frame comes -/
  counterm : Bool

/-- `i_addr2` -/
def RxFrame.addr2 (f : RxFrame) : Octets := fun i => f.wh.getD (10 + i) 0

/-- `READ_6` of the extended IV -/
def RxFrame.rsc (f : RxFrame) : BitVec 64 :=
  (f.ivp.getD 7 0 ++ f.ivp.getD 6 0 ++ f.ivp.getD 5 0 ++ f.ivp.getD 4 0 ++ f.ivp.getD 0 0 ++ f.ivp.getD 2 0 :
    BitVec 48).setWidth 64

/-- `iv32` of a counter -/
def iv32Of (rsc : BitVec 64) : BitVec 32 := (rsc >>> 16).setWidth 32
/-- `iv16` of a counter -/
def iv16Of (rsc : BitVec 64) : BitVec 16 := rsc.setWidth 16

/-! ## Decryption -/

/-- The first phase is run in `tkip_decrypt`. -/
def phase1Runs (s : State) (wh : List Byte) : Prop :=
  iv32Of s.ctx.rxRsc ≠ iv32Of (s.wkKeyrsc (ieee80211Gettid wh)) ∨ s.ctx.rxPhase1Done = false

instance (s : State) (wh : List Byte) : Decidable (phase1Runs s wh) := inferInstanceAs (Decidable (_ ∨ _))

/-- What `tkip_decrypt` returns, and what it changes. -/
structure Decrypted where
  ok : Bool
  state : State

/-- `tkip_decrypt`; `wep` is whether `wep_decrypt` finds the ICV right, for a key and the data. -/
def tkipDecrypt (wep : List Byte → List Byte → Bool) (key : Key) (s : State) (f : RxFrame) : Decrypted :=
  let iv16 := iv16Of s.ctx.rxRsc
  let iv32 := iv32Of s.ctx.rxRsc
  let fresh := decide (phase1Runs s f.wh)
  let ttak := if fresh then tkipMixingPhase1 key.wkKey f.addr2 iv32 else s.ctx.rxTtak
  let ctx := { s.ctx with
    rxTtak := ttak
    rxPhase1Done := fresh || s.ctx.rxPhase1Done
    rxRc4key := tkipMixingPhase2 key.wkKey ttak iv16 }
  let ok := wep ctx.rxRc4key (f.ivp.drop 8)
  -- the value that was kept before is lost
  let lost := !ok && decide (iv32 ≠ iv32Of (s.wkKeyrsc (ieee80211Gettid f.wh)))
  { ok := ok
    state := { s with
      ctx := { ctx with rxPhase1Done := ctx.rxPhase1Done && !lost }
      tried := if fresh then some (f.addr2, iv32) else s.tried } }

/-- The checks of `tkip_decap` that come before the counter is read. -/
def decapReads (f : RxFrame) : Prop :=
  f.ivStrip = false ∧ f.ivp.getD 3 0 &&& IEEE80211_WEP_EXTIV ≠ 0 ∧ f.counterm = false

instance (f : RxFrame) : Decidable (decapReads f) := inferInstanceAs (Decidable (_ ∧ _ ∧ _))

/-- The counter of the frame is not newer than the last one of its TID. -/
def replayed (key : Key) (s : State) (f : RxFrame) : Prop :=
  f.rsc ≤ s.wkKeyrsc (ieee80211Gettid f.wh) ∧ key.noReplay = false

instance (key : Key) (s : State) (f : RxFrame) : Decidable (replayed key s f) := inferInstanceAs (Decidable (_ ∧ _))

/-- The state when the counter of the frame has been read. -/
def State.readRsc (s : State) (f : RxFrame) : State := { s with ctx := { s.ctx with rxRsc := f.rsc } }

/-- What `tkip_decap` returns, and what it changes; `used` is the `rx_ttak` that the second phase was run with. -/
structure Decapped where
  ok : Bool
  state : State
  used : Option Ttak

def tkipDecap (wep : List Byte → List Byte → Bool) (key : Key) (s : State) (f : RxFrame) : Decapped :=
  if f.ivStrip then { ok := true, state := s, used := none }
  else if ¬ decapReads f then { ok := false, state := s, used := none }
  else if replayed key s f then { ok := false, state := s.readRsc f, used := none }
  else if key.swDecrypt then
    let d := tkipDecrypt wep key (s.readRsc f) f
    { ok := d.ok, state := d.state, used := some d.state.ctx.rxTtak }
  else { ok := true, state := s.readRsc f, used := none }

/-- A frame for `tkip_demic`. -/
structure DemicFrame where
  wh : List Byte
  /-- `IEEE80211_RX_F_FAIL_MIC` -/
  failMic : Bool
  /-- `IEEE80211_RX_F_MMIC_STRIP` -/
  mmicStrip : Bool
  force : Bool
  /-- the MIC of the frame is the one that `michael_mic` computes -/
  micOk : Bool

/-- `tkip_demic`, as far as it changes something here. -/
def tkipDemic (key : Key) (s : State) (f : DemicFrame) : State :=
  if f.failMic then s
  else if f.mmicStrip then s
  else if (key.swDemic || f.force) && !f.micOk then s
  else { s with wkKeyrsc := Function.update s.wkKeyrsc (ieee80211Gettid f.wh) s.ctx.rxRsc }

/-! ## Runs -/

inductive Event where
  | decap (f : RxFrame)
  | demic (f : DemicFrame)

variable (wep : List Byte → List Byte → Bool) (key : Key)

def step (s : State) : Event → State
  | .decap f => (tkipDecap wep key s f).state
  | .demic f => tkipDemic key s f

/-- `rx_ttak` of a context that is new. -/
def noTtak : Ttak := ⟨0, 0, 0, 0, 0⟩

/-- A key that is new, with the counters that it was given. -/
def State.start (wkKeyrsc : Nat → BitVec 64) : State :=
  { ctx := { rxTtak := noTtak, rxPhase1Done := false, rxRc4key := [], rxRsc := 0 }
    wkKeyrsc := wkKeyrsc, tried := none }

/-- **The value of its own counter** is in `rx_ttak` when the second phase is run. -/
def Coherent (s : State) : Event → Prop
  | .decap f => ∀ ttak, (tkipDecap wep key s f).used = some ttak →
      ttak = tkipMixingPhase1 key.wkKey f.addr2 (iv32Of f.rsc)
  | .demic _ => True

def Decrypts (s : State) (f : RxFrame) : Prop :=
  decapReads f ∧ ¬ replayed key s f ∧ key.swDecrypt = true

/-- **The value that is kept is for the frame**, where it is used: the first phase was run for its address and the upper
    bits of its counter last. -/
def Guarded (s : State) : Event → Prop
  | .decap f => Decrypts key s f → ¬ phase1Runs (s.readRsc f) f.wh → s.tried = some (f.addr2, iv32Of f.rsc)
  | .demic _ => True

/-- `rx_ttak` is that of the last run of the first phase, which there was when it counts as done. -/
structure Kept (s : State) : Prop where
  right : Memo.Right (fun t : Octets × BitVec 32 => tkipMixingPhase1 key.wkKey t.1 t.2) noTtak s.ctx.rxTtak s.tried
  done : s.ctx.rxPhase1Done = true → s.tried ≠ none

theorem ttak_injective :
    Function.Injective fun t : Octets × BitVec 32 => tkipMixingPhase1 key.wkKey t.1 t.2 := by
  rintro ⟨ta, iv⟩ ⟨ta', iv'⟩ h
  obtain ⟨rfl, rfl⟩ := TkipMixing.phase1_inj TkipMixing.subst key.wkKey h
  rfl

theorem decrypt_spec (s : State) (f : RxFrame) :
    let d := tkipDecrypt wep key s f
    (d.state.ctx.rxTtak = if phase1Runs s f.wh then tkipMixingPhase1 key.wkKey f.addr2 (iv32Of s.ctx.rxRsc)
        else s.ctx.rxTtak) ∧
      (d.state.tried = if phase1Runs s f.wh then some (f.addr2, iv32Of s.ctx.rxRsc) else s.tried) ∧
      (d.state.ctx.rxPhase1Done = true → phase1Runs s f.wh ∨ s.ctx.rxPhase1Done = true) := by
  intro d
  have hd : d = tkipDecrypt wep key s f := rfl
  unfold tkipDecrypt at hd
  by_cases hruns : phase1Runs s f.wh
  · rw [if_pos hruns, if_pos hruns, hd]
    simp only [decide_eq_true hruns, if_pos]
    exact ⟨trivial, trivial, fun _ => .inl hruns⟩
  · rw [if_neg hruns, if_neg hruns, hd]
    simp only [decide_eq_false hruns, Bool.false_or]
    exact ⟨rfl, rfl, fun hdone => .inr (Bool.and_eq_true_iff.mp hdone).1⟩

/-- A frame that does not get to the second phase leaves what is kept. -/
theorem decap_of_not_decrypts {s : State} {f : RxFrame} (h : ¬ Decrypts key s f) :
    let d := tkipDecap wep key s f
    (d.state = s ∨ d.state = s.readRsc f) ∧ d.used = none := by
  intro d
  have hd : d = tkipDecap wep key s f := rfl
  unfold tkipDecap at hd
  by_cases hstrip : f.ivStrip = true
  · rw [if_pos hstrip] at hd
    rw [hd]
    exact ⟨.inl rfl, rfl⟩
  · rw [if_neg hstrip] at hd
    by_cases hreads : decapReads f
    · rw [if_neg (not_not_intro hreads)] at hd
      by_cases hrep : replayed key s f
      · rw [if_pos hrep] at hd
        rw [hd]
        exact ⟨.inr rfl, rfl⟩
      · rw [if_neg hrep, if_neg fun hsw => h ⟨hreads, hrep, hsw⟩] at hd
        rw [hd]
        exact ⟨.inr rfl, rfl⟩
    · rw [if_pos hreads] at hd
      rw [hd]
      exact ⟨.inl rfl, rfl⟩

theorem decap_of_decrypts {s : State} {f : RxFrame} (h : Decrypts key s f) :
    let d := tkipDecrypt wep key (s.readRsc f) f
    tkipDecap wep key s f = { ok := d.ok, state := d.state, used := some d.state.ctx.rxTtak } := by
  obtain ⟨hreads, hrep, hsw⟩ := h
  have hstrip : ¬ f.ivStrip = true := by simp [hreads.1]
  unfold tkipDecap
  rw [if_neg hstrip, if_neg (not_not_intro hreads), if_neg hrep, if_pos hsw]

theorem demic_ctx (s : State) (f : DemicFrame) :
    (tkipDemic key s f).ctx = s.ctx ∧ (tkipDemic key s f).tried = s.tried := by
  unfold tkipDemic
  by_cases hfail : f.failMic = true
  · rw [if_pos hfail]
    exact ⟨rfl, rfl⟩
  · rw [if_neg hfail]
    by_cases hstrip : f.mmicStrip = true
    · rw [if_pos hstrip]
      exact ⟨rfl, rfl⟩
    · rw [if_neg hstrip]
      by_cases hmic : ((key.swDemic || f.force) && !f.micOk) = true
      · rw [if_pos hmic]
        exact ⟨rfl, rfl⟩
      · rw [if_neg hmic]
        exact ⟨rfl, rfl⟩

/-- **The step lemma**: what is kept stays that of the last run of the first phase. -/
theorem kept_step (s : State) (e : Event) (h : Kept key s) : Kept key (step wep key s e) := by
  cases e with
  | demic f =>
    obtain ⟨hctx, htried⟩ := demic_ctx key s f
    have hstep : step wep key s (.demic f) = tkipDemic key s f := rfl
    refine ⟨?_, ?_⟩
    · rw [hstep, hctx, htried]
      exact h.right
    · rw [hstep, hctx, htried]
      exact h.done
  | decap f =>
    have hstep : step wep key s (.decap f) = (tkipDecap wep key s f).state := rfl
    by_cases hdec : Decrypts key s f
    · rw [hstep, decap_of_decrypts wep key hdec]
      obtain ⟨httak, htried, hdone⟩ := decrypt_spec wep key (s.readRsc f) f
      by_cases hruns : phase1Runs (s.readRsc f) f.wh
      · rw [if_pos hruns] at httak htried
        refine ⟨?_, ?_⟩
        · dsimp only
          rw [httak, htried]
          exact Memo.right_compute _ noTtak (f.addr2, iv32Of f.rsc)
        · intro _ hnone
          exact nomatch htried.symm.trans hnone
      · rw [if_neg hruns] at httak htried
        refine ⟨?_, ?_⟩
        · dsimp only
          rw [httak, htried]
          exact h.right
        · intro hd hnone
          exact h.done ((hdone hd).resolve_left hruns) (htried.symm.trans hnone)
    · rw [hstep]
      rcases (decap_of_not_decrypts wep key hdec).1 with heq | heq
      · rw [heq]
        exact h
      · rw [heq]
        exact ⟨h.right, h.done⟩

/-- **One event**, in a state that a run can reach. -/
theorem coherent_iff_guarded (s : State) (e : Event) (h : Kept key s) : Coherent wep key s e ↔ Guarded key s e := by
  cases e with
  | demic => exact Iff.rfl
  | decap f =>
    unfold Coherent Guarded
    dsimp only
    by_cases hdec : Decrypts key s f
    · obtain ⟨httak, -, -⟩ := decrypt_spec wep key (s.readRsc f) f
      rw [decap_of_decrypts wep key hdec]
      dsimp only
      rw [httak]
      by_cases hruns : phase1Runs (s.readRsc f) f.wh
      · rw [if_pos hruns]
        exact ⟨fun _ _ hold => absurd hruns hold, fun _ _ hp => (Option.some.inj hp).symm⟩
      · rw [if_neg hruns]
        -- the first phase was run before, as it counts as done
        have hdone : s.ctx.rxPhase1Done = true := by
          cases hd : s.ctx.rxPhase1Done with
          | true => rfl
          | false => exact absurd (.inr hd) hruns
        have huse := h.right.use_iff (ttak_injective key) (f.addr2, iv32Of f.rsc)
        have htried : (s.tried = some (f.addr2, iv32Of f.rsc) ∨ s.tried = none ∧
            noTtak = tkipMixingPhase1 key.wkKey f.addr2 (iv32Of f.rsc)) → s.tried = some (f.addr2, iv32Of f.rsc) :=
          fun ht => ht.resolve_right fun hnone => h.done hdone hnone.1
        exact ⟨fun hall _ _ => htried (huse.mp (hall _ rfl)), fun hall _ hp =>
          (Option.some.inj hp).symm.trans (huse.mpr (.inl (hall hdec hruns)))⟩
    · rw [(decap_of_not_decrypts wep key hdec).2]
      exact ⟨fun _ h => absurd h hdec, nofun⟩

/-- **Every frame of a run gets the value of its own counter exactly when every value that is kept is used for the frame
    that it was computed for.** -/
theorem ttak_coherent_iff (wkKeyrsc : Nat → BitVec 64) (es : List Event) :
    (∀ x ∈ Memo.trace (step wep key) (State.start wkKeyrsc) es, Coherent wep key x.1 x.2) ↔
      ∀ x ∈ Memo.trace (step wep key) (State.start wkKeyrsc) es, Guarded key x.1 x.2 :=
  Memo.trace_congr (kept_step wep key) (coherent_iff_guarded wep key) es _ ⟨Memo.right_start _ _, nofun⟩

/-- A key of zeros, for which everything is done in software. -/
def zeroKey : Key := { wkKey := fun _ => 0, swDecrypt := true, swDemic := true, noReplay := false }

def tidHeader (tid : Byte) : List Byte := 0x88 :: 0x41 :: List.replicate 22 0 ++ [tid, 0]

def tidFrame (tid iv32 iv16 : Byte) : RxFrame :=
  { wh := tidHeader tid, ivp := [0, 0x20, iv16, 0x20, iv32, 0, 0, 0], ivStrip := false, counterm := false }

def goodMic (tid : Byte) : DemicFrame :=
  { wh := tidHeader tid, failMic := false, mmicStrip := false, force := false, micOk := true }

/-- **A frame of TID 0 whose counter has the upper bits 1 leaves its value to a frame of TID 1 where they are 0.** -/
theorem other_tid_leaves_ttak :
    ∃ x ∈ Memo.trace (step (fun _ _ => true) zeroKey) (State.start fun _ => 0)
        [.decap (tidFrame 0 1 0), .demic (goodMic 0), .decap (tidFrame 1 0 1)],
      ¬ Coherent (fun _ _ => true) zeroKey x.1 x.2 := by
  refine ⟨_, List.mem_cons_of_mem _ (List.mem_cons_of_mem _ (List.mem_singleton_self _)), fun h => ?_⟩
  have hkey : tkipMixingPhase1 zeroKey.wkKey (tidFrame 0 1 0).addr2 1 =
      tkipMixingPhase1 zeroKey.wkKey (tidFrame 1 0 1).addr2 0 :=
    h _ rfl
  exact absurd (TkipMixing.phase1_inj _ _ hkey).2 (by decide)

end Net80211.TkipRx
