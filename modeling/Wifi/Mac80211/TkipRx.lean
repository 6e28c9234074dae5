import Wifi.Lib.Memo
import Wifi.Lib.TkipMixing
import Wifi.Linux.Elements

/-!
# TKIP in software on receive (`linux/net/mac80211/tkip.c`, `wpa.c`)

* `tkipMixingPhase1`, `tkipMixingPhase2` — the key mixing; the first phase is kept in the context.
* `tkipCheckIv` — the checks of `ieee80211_tkip_decrypt_data` before anything is computed.
* `ieee80211TkipDecryptData` — the rest of it.
* `Event`, `step` — frames on one key and queue, and the IVs that `ieee80211_rx_h_michael_mic_verify` records later.
* `p1k_coherent_iff` — a frame gets the key of its own IV32 exactly when a value that is kept is only used for the IV32
  that it was computed for.

What `ieee80211_wep_decrypt_data` returns is a parameter.
-/

namespace Mac80211.TkipRx

open TkipMixing (Ttak Octets)

/-! ## Key mixing -/

/-- `enum ieee80211_internal_tkip_state` -/
inductive TkipState where
  | notInit
  | phase1Done
  | phase1HwUploaded
  deriving DecidableEq, Repr

structure TkipCtx where
  p1k : Ttak
  p1kIv32 : BitVec 32
  state : TkipState

structure TkipCtxRx where
  ctx : TkipCtx
  iv32 : BitVec 32
  iv16 : BitVec 16

def tkipMixingPhase1 (tk : Nat → Byte) (ta : Octets) (tscIV32 : BitVec 32) : TkipCtx :=
  { p1k := TkipMixing.phase1 TkipMixing.subst tk ta tscIV32, p1kIv32 := tscIV32, state := .phase1Done }

def tkipMixingPhase2 (tk : Nat → Byte) (ctx : TkipCtx) (tscIV16 : BitVec 16) : List Byte :=
  TkipMixing.phase2 TkipMixing.subst tk ctx.p1k tscIV16

/-! ## One frame -/

/-- `TKIP_DECRYPT_OK` and the other results -/
def TKIP_DECRYPT_OK : Int := 0
def TKIP_DECRYPT_NO_EXT_IV : Int := -1
def TKIP_DECRYPT_INVALID_KEYIDX : Int := -2
def TKIP_DECRYPT_REPLAY : Int := -3

/-- What `ieee80211_tkip_decrypt_data` takes from the key. -/
structure Key where
  tk : Nat → Byte
  keyidx : Nat

/-- A frame for `ieee80211_tkip_decrypt_data`. -/
structure RxFrame where
  payload : List Byte
  ta : Octets
  onlyIv : Bool
  /-- `update_tkip_key` and `KEY_FLAG_UPLOADED_TO_HARDWARE`, when the frame is decrypted -/
  uploaded : Bool

def RxFrame.iv16 (f : RxFrame) : BitVec 16 := f.payload.getD 0 0 ++ f.payload.getD 2 0
def RxFrame.keyid (f : RxFrame) : Byte := f.payload.getD 3 0
def RxFrame.iv32 (f : RxFrame) : BitVec 32 :=
  f.payload.getD 7 0 ++ f.payload.getD 6 0 ++ f.payload.getD 5 0 ++ f.payload.getD 4 0

/-- The IV is not newer than the last one that was verified. -/
def replayed (rx : TkipCtxRx) (iv32 : BitVec 32) (iv16 : BitVec 16) : Prop :=
  iv32 < rx.iv32 ∨ iv32 = rx.iv32 ∧
    (iv16 < rx.iv16 ∨ iv16 = rx.iv16 ∧ (rx.iv32 ≠ 0 ∨ rx.iv16 ≠ 0 ∨ rx.ctx.state ≠ .notInit))

instance (rx : TkipCtxRx) (iv32 : BitVec 32) (iv16 : BitVec 16) : Decidable (replayed rx iv32 iv16) :=
  inferInstanceAs (Decidable (_ ∨ _ ∧ (_ ∨ _ ∧ (_ ∨ _ ∨ _))))

/-- The checks before anything is computed, and what is returned when one fails. -/
def tkipCheckIv (key : Key) (rx : TkipCtxRx) (f : RxFrame) : Option Int :=
  if f.payload.length < 12 then some (-1)
  else if f.keyid.getLsbD 5 = false then some TKIP_DECRYPT_NO_EXT_IV
  else if (f.keyid >>> 6).toNat ≠ key.keyidx then some TKIP_DECRYPT_INVALID_KEYIDX
  else if replayed rx f.iv32 f.iv16 then some TKIP_DECRYPT_REPLAY
  else none

/-- What `ieee80211_tkip_decrypt_data` returns, and what it changes; `tried` is what phase 1 was run for, and `used` is the
    `p1k` that phase 2 was run with. -/
structure Decrypted where
  res : Int
  rx : TkipCtxRx
  /-- `out_iv32` and `out_iv16` -/
  out : Option (BitVec 32 × BitVec 16)
  /-- what `drv_update_tkip_key` gets -/
  drvKey : Option (BitVec 32 × Ttak)
  tried : Option (Octets × BitVec 32)
  used : Option Ttak

/-- Phase 1 is run for a frame that is decrypted in software. -/
def phase1Runs (rx : TkipCtxRx) (f : RxFrame) : Prop := rx.ctx.state = .notInit ∨ rx.iv32 ≠ f.iv32

instance (rx : TkipCtxRx) (f : RxFrame) : Decidable (phase1Runs rx f) := inferInstanceAs (Decidable (_ ∨ _))

/-- `ieee80211_tkip_decrypt_data`; `wep` gives what `ieee80211_wep_decrypt_data` returns for a key and the data. -/
def ieee80211TkipDecryptData (wep : List Byte → List Byte → Int) (key : Key) (rx : TkipCtxRx) (f : RxFrame) :
    Decrypted :=
  match tkipCheckIv key rx f with
  | some res => { res := res, rx := rx, out := none, drvKey := none, tried := none, used := none }
  | none =>
    if f.onlyIv then
      { res := TKIP_DECRYPT_OK
        rx := { rx with ctx := { rx.ctx with state := .phase1HwUploaded } }
        out := some (f.iv32, f.iv16), drvKey := none, tried := none, used := none }
    else
      -- IV16 wrapped around - perform TKIP phase 1
      let tried := if phase1Runs rx f then some (f.ta, f.iv32) else none
      let ctx := if phase1Runs rx f then tkipMixingPhase1 key.tk f.ta f.iv32 else rx.ctx
      let upload := f.uploaded && decide (ctx.state ≠ .phase1HwUploaded)
      let ctx := { ctx with state := if upload then .phase1HwUploaded else ctx.state }
      let rc4key := tkipMixingPhase2 key.tk ctx f.iv16
      let res := wep rc4key (f.payload.drop 8)
      { res := res
        rx := { rx with ctx := ctx }
        out := if res = TKIP_DECRYPT_OK then some (f.iv32, f.iv16) else none
        drvKey := if upload then some (f.iv32, ctx.p1k) else none
        tried := tried, used := some ctx.p1k }

/-! ## Runs -/

inductive Event where
  | frame (f : RxFrame)
  /-- `ieee80211_rx_h_michael_mic_verify` records the IV of a frame -/
  | updateIv (iv32 : BitVec 32) (iv16 : BitVec 16)

/-- The receive context, and the IVs of frames that were decrypted and may still be recorded; `tried` is what phase 1
    was run for last. -/
structure State where
  rx : TkipCtxRx
  pending : List (BitVec 32 × BitVec 16)
  tried : Option (Octets × BitVec 32)

variable (wep : List Byte → List Byte → Int) (key : Key)

/-- One event; an IV that no frame brought is not recorded. -/
def step (s : State) : Event → State
  | .frame f =>
    let d := ieee80211TkipDecryptData wep key s.rx f
    { rx := d.rx, pending := s.pending ++ d.out.toList, tried := d.tried.orElse fun _ => s.tried }
  | .updateIv iv32 iv16 =>
    if (iv32, iv16) ∈ s.pending then { s with rx := { s.rx with iv32 := iv32, iv16 := iv16 } } else s

/-- `p1k` of a key that is new. -/
def noP1k : Ttak := ⟨0, 0, 0, 0, 0⟩

/-- A key that is new, with the counter that it was given. -/
def State.start (iv32 : BitVec 32) (iv16 : BitVec 16) : State :=
  { rx := { ctx := { p1k := noP1k, p1kIv32 := 0, state := .notInit }, iv32 := iv32, iv16 := iv16 }
    pending := [], tried := none }

/-- **The key of its own IV32** is used for the frame, if phase 2 is run. -/
def Coherent (s : State) : Event → Prop
  | .frame f => ∀ p1k, (ieee80211TkipDecryptData wep key s.rx f).used = some p1k →
      p1k = (tkipMixingPhase1 key.tk f.ta f.iv32).p1k
  | .updateIv _ _ => True

/-- **The value that is kept is for the frame**, where it is used: phase 1 was run for its address and its IV32 last. (Where
    it was never run, zeros are used; they can be the right value by chance.) -/
def Guarded (s : State) : Event → Prop
  | .frame f => tkipCheckIv key s.rx f = none → f.onlyIv = false → ¬ phase1Runs s.rx f →
      s.tried = some (f.ta, f.iv32) ∨ s.tried = none ∧ noP1k = (tkipMixingPhase1 key.tk f.ta f.iv32).p1k
  | .updateIv _ _ => True

/-- The value that is kept is that of the last run of phase 1. -/
def Kept (s : State) : Prop :=
  Memo.Right (fun t : Octets × BitVec 32 => (tkipMixingPhase1 key.tk t.1 t.2).p1k) noP1k s.rx.ctx.p1k s.tried

theorem p1k_injective : Function.Injective fun t : Octets × BitVec 32 => (tkipMixingPhase1 key.tk t.1 t.2).p1k := by
  rintro ⟨ta, iv⟩ ⟨ta', iv'⟩ h
  obtain ⟨rfl, rfl⟩ := TkipMixing.phase1_inj TkipMixing.subst key.tk h
  rfl

/-- What a frame does to the value that is kept, and which value is used for it. -/
theorem decrypt_cases (rx : TkipCtxRx) (f : RxFrame) :
    let d := ieee80211TkipDecryptData wep key rx f
    (d.rx.ctx.p1k = if tkipCheckIv key rx f = none ∧ f.onlyIv = false ∧ phase1Runs rx f then
        (tkipMixingPhase1 key.tk f.ta f.iv32).p1k else rx.ctx.p1k) ∧
      (d.tried = if tkipCheckIv key rx f = none ∧ f.onlyIv = false ∧ phase1Runs rx f then some (f.ta, f.iv32)
        else none) ∧
      d.used = if tkipCheckIv key rx f = none ∧ f.onlyIv = false then some d.rx.ctx.p1k else none := by
  intro d
  have hd : d = ieee80211TkipDecryptData wep key rx f := rfl
  unfold ieee80211TkipDecryptData at hd
  cases hcheck : tkipCheckIv key rx f with
  | some res =>
    rw [hcheck] at hd
    rw [if_neg (fun h => nomatch h.1), if_neg (fun h => nomatch h.1), if_neg (fun h => nomatch h.1), hd]
    exact ⟨rfl, rfl, rfl⟩
  | none =>
    rw [hcheck] at hd
    dsimp only at hd
    cases honly : f.onlyIv with
    | true =>
      rw [honly, if_pos rfl] at hd
      rw [if_neg (fun h => nomatch h.2.1), if_neg (fun h => nomatch h.2.1), if_neg (fun h => nomatch h.2), hd]
      exact ⟨rfl, rfl, rfl⟩
    | false =>
      rw [honly, if_neg (by decide)] at hd
      by_cases hruns : phase1Runs rx f
      · rw [if_pos ⟨rfl, rfl, hruns⟩, if_pos ⟨rfl, rfl, hruns⟩, if_pos ⟨rfl, rfl⟩, hd]
        simp only [if_pos hruns]
        exact ⟨trivial, trivial, trivial⟩
      · rw [if_neg (fun h => hruns h.2.2), if_neg (fun h => hruns h.2.2), if_pos ⟨rfl, rfl⟩, hd]
        simp only [if_neg hruns]
        exact ⟨trivial, trivial, trivial⟩

/-- **The step lemma**: what is kept stays that of the last run of phase 1. -/
theorem kept_step (s : State) (e : Event) (h : Kept key s) : Kept key (step wep key s e) := by
  cases e with
  | frame f =>
    obtain ⟨hp1k, htried, -⟩ := decrypt_cases wep key s.rx f
    unfold Kept step
    dsimp only
    rw [hp1k, htried]
    by_cases hruns : tkipCheckIv key s.rx f = none ∧ f.onlyIv = false ∧ phase1Runs s.rx f
    · rw [if_pos hruns, if_pos hruns]
      exact Memo.right_compute _ noP1k (f.ta, f.iv32)
    · rw [if_neg hruns, if_neg hruns]
      exact h
  | updateIv iv32 iv16 =>
    unfold step
    dsimp only
    by_cases hpending : (iv32, iv16) ∈ s.pending
    · rw [if_pos hpending]
      exact h
    · rw [if_neg hpending]
      exact h

/-- **One event**, in a state that a run can reach. -/
theorem coherent_iff_guarded (s : State) (e : Event) (h : Kept key s) : Coherent wep key s e ↔ Guarded key s e := by
  cases e with
  | updateIv => exact Iff.rfl
  | frame f =>
    obtain ⟨hp1k, -, hused⟩ := decrypt_cases wep key s.rx f
    unfold Coherent Guarded
    dsimp only
    rw [hused, hp1k]
    by_cases hruns : tkipCheckIv key s.rx f = none ∧ f.onlyIv = false
    · rw [if_pos hruns]
      by_cases hfresh : phase1Runs s.rx f
      · rw [if_pos ⟨hruns.1, hruns.2, hfresh⟩]
        exact ⟨fun _ _ _ hold => absurd hfresh hold, fun _ _ hp => (Option.some.inj hp).symm⟩
      · rw [if_neg fun hall => hfresh hall.2.2]
        have huse := h.use_iff (p1k_injective key) (f.ta, f.iv32)
        exact ⟨fun hall _ _ _ => huse.mp (hall _ rfl), fun hall _ hp =>
          (Option.some.inj hp).symm.trans (huse.mpr (hall hruns.1 hruns.2 hfresh))⟩
    · rw [if_neg hruns]
      exact ⟨fun _ hcheck honly => absurd ⟨hcheck, honly⟩ hruns, nofun⟩

/-- **Every frame of a run gets the key of its own IV32 exactly when every value that is kept is used for the frame that it
    was computed for.** -/
theorem p1k_coherent_iff (iv32 : BitVec 32) (iv16 : BitVec 16) (es : List Event) :
    (∀ x ∈ Memo.trace (step wep key) (State.start iv32 iv16) es, Coherent wep key x.1 x.2) ↔
      ∀ x ∈ Memo.trace (step wep key) (State.start iv32 iv16) es, Guarded key x.1 x.2 :=
  Memo.trace_congr (kept_step wep key) (coherent_iff_guarded wep key) es _ (Memo.right_start _ _)

def zeroKey : Key := { tk := fun _ => 0, keyidx := 0 }

def ivFrame (iv32 iv16 : Byte) : RxFrame :=
  { payload := [0, 0x20, iv16, 0x20, iv32, 0, 0, 0, 0, 0, 0, 0], ta := fun _ => 0, onlyIv := false, uploaded := false }

/-- **A forged frame of IV32 1 leaves its key to a genuine frame of IV32 0.** -/
theorem forged_frame_leaves_p1k :
    ∃ x ∈ Memo.trace (step (fun _ _ => -1) zeroKey) (State.start 0 0) [.frame (ivFrame 1 0), .frame (ivFrame 0 1)],
      ¬ Coherent (fun _ _ => -1) zeroKey x.1 x.2 := by
  refine ⟨_, List.mem_cons_of_mem _ (List.mem_singleton_self _), fun h => ?_⟩
  have hkey : (tkipMixingPhase1 zeroKey.tk (fun _ => 0) 1).p1k = (tkipMixingPhase1 zeroKey.tk (fun _ => 0) 0).p1k :=
    h _ rfl
  exact absurd (TkipMixing.phase1_inj _ _ hkey).2 (by decide)

end Mac80211.TkipRx
