import Wifi.Lib.Roster
import Wifi.Lib.Runs

/-!
# The state of a station, and the calls of the driver

* `StaState` — `enum ieee80211_sta_state`; `allowed` — the transitions of `_sta_info_move_state`.
* `Sta` — the state, the flags, and the calls of `drv_sta_state` that succeeded.
* `Work` — a station with what an operation on it reads and writes.
* `drvStaState`, `moveState`, `insertDrvState`, `insertFinish`, `destroyPart2`, `free` — the functions of
  `sta_info.c` and `driver-ops.c`.
* `Op`, `State.next` — the operations.

An interface that is not in the driver refuses every call, as the driver can; so `answers` has both.
-/

namespace Mac80211.StaInfo

/-- `enum ieee80211_sta_state` -/
inductive StaState where
  | notexist | none | auth | assoc | authorized
  deriving DecidableEq

namespace StaState

def toNat : StaState → Nat
  | .notexist => 0
  | .none => 1
  | .auth => 2
  | .assoc => 3
  | .authorized => 4

/-- `state + 1` -/
def succ : StaState → StaState
  | .notexist => .none
  | .none => .auth
  | .auth => .assoc
  | .assoc => .authorized
  | .authorized => .authorized

/-- `state - 1` -/
def pred : StaState → StaState
  | .notexist => .notexist
  | .none => .notexist
  | .auth => .none
  | .assoc => .auth
  | .authorized => .assoc

def Adj (old new : StaState) : Prop := old.toNat + 1 = new.toNat ∨ new.toNat + 1 = old.toNat

def allowed (old : StaState) : StaState → Bool
  | .none => old = .auth
  | .auth => old = .none || old = .assoc
  | .assoc => old = .auth || old = .authorized
  | .authorized => old = .assoc
  | .notexist => false

end StaState

/-- `enum nl80211_iftype`, as far as it matters here -/
inductive IfType where
  | adhoc | ap | apVlan | other
  deriving DecidableEq

structure Config where
  type : Nat → IfType
  /-- `local->ops->sta_state` -/
  opStaState : Bool
  /-- `local->ops->sta_add` -/
  opStaAdd : Bool
  /-- `ieee80211_alloc_hw_nm` refuses a driver with both. -/
  one : opStaState = true → opStaAdd = false

/-- `struct sta_info` -/
structure Sta where
  sdata : Nat
  staState : StaState := .none
  /-- `WLAN_STA_AUTH` -/
  auth : Bool := false
  /-- `WLAN_STA_ASSOC` -/
  assoc : Bool := false
  /-- `WLAN_STA_AUTHORIZED` -/
  authorized : Bool := false
  /-- `WLAN_STA_INSERTED` -/
  inserted : Bool := false
  uploaded : Bool := false
  /-- History: the calls of `drv_sta_state` for it that returned 0. -/
  calls : List (StaState × StaState) := []

/-- A station, `num_mcast_sta` of its interface, and the answers of the driver to come; it accepts when
    these have run out. -/
structure Work where
  sta : Sta
  numMcast : Int
  answers : List Bool

variable (c : Config)

/-- `drv_sta_state`; whether it returned 0. -/
def drvStaState (w : Work) (old new : StaState) : Bool × Work :=
  if w.answers.headD true then
    let uploaded := w.sta.uploaded || (!c.opStaState && decide (old = .auth ∧ new = .assoc))
    (true, { w with
      sta := { w.sta with uploaded := uploaded, calls := w.sta.calls ++ [(old, new)] }
      answers := w.answers.tail })
  else (false, { w with answers := w.answers.tail })

/-- `ieee80211_vif_inc_num_mcast` and `ieee80211_vif_dec_num_mcast` -/
def addNumMcast (w : Work) (d : Int) : Work :=
  match c.type w.sta.sdata with
  | .ap => { w with numMcast := w.numMcast + d }
  | .apVlan => { w with numMcast := w.numMcast + d }
  | .adhoc => w
  | .other => w

def reflect (w : Work) (new : StaState) : Work :=
  let old : StaState := w.sta.staState
  let w : Work :=
    match new with
    | .none => if old = .auth then { w with sta := { w.sta with auth := false } } else w
    | .auth =>
      if old = .none then { w with sta := { w.sta with auth := true } }
      else if old = .assoc then { w with sta := { w.sta with assoc := false } }
      else w
    | .assoc =>
      if old = .auth then { w with sta := { w.sta with assoc := true } }
      else if old = .authorized then
        let w := addNumMcast c w (-1)
        { w with sta := { w.sta with authorized := false } }
      else w
    | .authorized =>
      if old = .assoc then
        let w := addNumMcast c w 1
        { w with sta := { w.sta with authorized := true } }
      else w
    | .notexist => w
  { w with sta := { w.sta with staState := new } }

/-- `_sta_info_move_state`; whether it returned 0. -/
def moveState (w : Work) (new : StaState) : Bool × Work :=
  if w.sta.staState = new then (true, w)
  else if !w.sta.staState.allowed new then (false, w)
  else if w.sta.inserted then
    let r := drvStaState c w w.sta.staState new
    if r.1 then (true, reflect c r.2 new) else (false, r.2)
  else (true, reflect c w new)

/-- `while (sta->sta_state > IEEE80211_STA_NONE)`, in `sta_info_free` and in `__sta_info_destroy_part2`;
    each round that does not leave the loop goes one state down, so `n` is at most `sta_state`. -/
def downLoop : Nat → Work → Work
  | 0, w => w
  | n + 1, w =>
    if StaState.none.toNat < w.sta.staState.toNat then
      let r := moveState c w w.sta.staState.pred
      if r.1 then downLoop n r.2 else r.2
    else w

/-- `sta_info_free` -/
def free (w : Work) : Work := downLoop c w.sta.staState.toNat w

/-- The first loop of `sta_info_insert_drv_state`, of `n` steps up from `state`: whether none was refused,
    and `state` at its end. -/
def upLoop : Nat → StaState → Work → Bool × StaState × Work
  | 0, state, w => (true, state, w)
  | n + 1, state, w =>
    let r := drvStaState c w state state.succ
    if r.1 then upLoop n state.succ r.2 else (false, state, r.2)

/-- The unwinding, of `n` steps down from `state`; its answers are only warned about. -/
def unwind : Nat → StaState → Work → Work
  | 0, _, w => w
  | n + 1, state, w => unwind n state.pred (drvStaState c w state state.pred).2

/-- `sta_info_insert_drv_state`; whether it returned 0. -/
def insertDrvState (w : Work) : Bool × Work :=
  let r := upLoop c w.sta.staState.toNat .notexist w
  let w := r.2.2
  if r.1 then
    (true, if !c.opStaAdd then { w with sta := { w.sta with uploaded := true } } else w)
  else (decide (c.type w.sta.sdata = .adhoc), unwind c r.2.1.toNat r.2.1 w)

/-- `sta_info_insert`: `early` is for an error of `sta_info_insert_check`, or of `sta_info_insert_finish`
    before the driver is told.  Whether the station is there afterwards. -/
def staInfoInsert (w : Work) (early : Bool) : Bool × Work :=
  if early then (false, free c w)
  else
    let r := insertDrvState c w
    if r.1 then (true, { r.2 with sta := { r.2.sta with inserted := true } }) else (false, free c r.2)

/-- `__sta_info_destroy_part2` -/
def destroyPart2 (w : Work) : Work :=
  let w := if w.sta.staState = .authorized then (moveState c w .assoc).2 else w
  let w := downLoop c w.sta.staState.toNat w
  let w := if w.sta.uploaded then (drvStaState c w .none .notexist).2 else w
  free c w

/-! ## The stations -/

/-- The stations, and `num_mcast_sta` of the interfaces. -/
structure State where
  stas : Roster Sta
  numMcast : Nat → Int

namespace State

/-- A station is taken up with the answers of the driver. -/
def load (s : State) (a : Nat) (answers : List Bool) : Work :=
  { sta := s.stas.get a, numMcast := s.numMcast (s.stas.get a).sdata, answers := answers }

/-- What an operation did is stored; `there` when the station was not freed. -/
def store (s : State) (a : Nat) (there : Bool) (w : Work) : State where
  stas := if there then s.stas.set a w.sta else (s.stas.set a w.sta).remove a
  numMcast := Function.update s.numMcast (s.stas.get a).sdata w.numMcast

end State

/-- An operation, with the answers of the driver. -/
inductive Op where
  /-- `sta_info_alloc` -/
  | alloc (sdata : Nat)
  /-- `sta_info_pre_move_state` and `sta_info_move_state` -/
  | moveState (a : Nat) (new : StaState) (answers : List Bool)
  /-- `sta_info_insert` -/
  | insert (a : Nat) (early : Bool) (answers : List Bool)
  /-- `__sta_info_destroy` -/
  | destroy (a : Nat) (answers : List Bool)
  /-- `sta_info_free`, for a station that is not inserted -/
  | free (a : Nat)

/-- What an operation does; `none` when there is no such station. -/
def State.next (s : State) : Op → Option State
  | .alloc sdata => some { s with stas := s.stas.add { sdata := sdata } }
  | .moveState a new answers =>
    if a ∈ s.stas.list then some (s.store a true (Mac80211.StaInfo.moveState c (s.load a answers) new).2)
    else none
  | .insert a early answers =>
    if a ∈ s.stas.list ∧ (s.stas.get a).inserted = false then
      let r := staInfoInsert c (s.load a answers) early
      some (s.store a r.1 r.2)
    else none
  | .destroy a answers =>
    if a ∈ s.stas.list ∧ (s.stas.get a).inserted = true then
      some (s.store a false (destroyPart2 c (s.load a answers)))
    else none
  | .free a =>
    if a ∈ s.stas.list ∧ (s.stas.get a).inserted = false then
      some (s.store a false (Mac80211.StaInfo.free c (s.load a [])))
    else none

def NoStations (s : State) : Prop := s.stas.list = [] ∧ s.stas.next = 0 ∧ ∀ i, s.numMcast i = 0

def Step (s : State) (op : Op) (s' : State) : Prop := s.next c op = some s'

end Mac80211.StaInfo

/-!
## The life of a station, as the driver sees it

* `Sta.Flags` — the flags match the state; `Sta.seen` — the state after the calls of the driver.
* `Keeps` — what every operation keeps: the flags, and the share of the station in `num_mcast_sta`.
* `drvStaState_accept`, `moveState_spec`, `downLoop_spec`, … — what each function does to the log.
* `LifeOk` — the steps that keep the life of each station a path.
* `drvStaState_path` — every run of such steps.
-/

namespace Mac80211.StaInfo

open Runs PathLog

variable {c : Config}

structure Sta.Flags (sta : Sta) : Prop where
  alive : sta.staState ≠ .notexist
  auth : sta.auth = decide (StaState.auth.toNat ≤ sta.staState.toNat)
  assoc : sta.assoc = decide (StaState.assoc.toNat ≤ sta.staState.toNat)
  authorized : sta.authorized = decide (sta.staState = .authorized)

/-- The state in which the driver has the station. -/
def Sta.seen (sta : Sta) : StaState := last .notexist sta.calls

def Sta.Path (sta : Sta) : Prop := IsPath StaState.Adj .notexist sta.calls

/-- `num_mcast_sta` is kept for the interface. -/
def Config.mcast (c : Config) (i : Nat) : Bool := c.type i = .ap || c.type i = .apVlan

/-- A station counts for `num_mcast_sta` of an interface. -/
def mcastOf (i : Nat) (sta : Sta) : Int := if sta.sdata = i ∧ sta.staState = .authorized then 1 else 0

/-- The share of the station in `num_mcast_sta` of its own interface. -/
def share (c : Config) (sta : Sta) : Int :=
  if c.mcast sta.sdata = true ∧ sta.staState = .authorized then 1 else 0

structure Keeps (c : Config) (w w' : Work) : Prop where
  sdata : w'.sta.sdata = w.sta.sdata
  flags : w'.sta.Flags
  numMcast : w'.numMcast - share c w'.sta = w.numMcast - share c w.sta

namespace Keeps

variable {w w₁ w₂ : Work}

theorem refl (h : w.sta.Flags) : Keeps c w w := ⟨rfl, h, rfl⟩

theorem trans (h₁ : Keeps c w w₁) (h₂ : Keeps c w₁ w₂) : Keeps c w w₂ :=
  ⟨h₂.sdata.trans h₁.sdata, h₂.flags, h₂.numMcast.trans h₁.numMcast⟩

end Keeps

/-! ## One call of the driver -/

def refused (w : Work) : Work := { w with answers := w.answers.tail }

def accepted (c : Config) (w : Work) (old new : StaState) : Work :=
  { w with
    sta := { w.sta with
      uploaded := w.sta.uploaded || (!c.opStaState && decide (old = .auth ∧ new = .assoc))
      calls := w.sta.calls ++ [(old, new)] }
    answers := w.answers.tail }

variable {w : Work} {old new : StaState}

theorem drvStaState_accept (h : w.answers.headD true = true) :
    drvStaState c w old new = (true, accepted c w old new) := by
  unfold drvStaState
  rw [if_pos h]
  rfl

theorem drvStaState_refuse (h : w.answers.headD true = false) :
    drvStaState c w old new = (false, refused w) := by
  unfold drvStaState
  rw [h, if_neg (by decide)]
  rfl

theorem drvStaState_keeps (h : w.sta.Flags) (old new : StaState) :
    Keeps c w (drvStaState c w old new).2 := by
  unfold drvStaState
  split
  · exact ⟨rfl, ⟨h.alive, h.auth, h.assoc, h.authorized⟩, rfl⟩
  · exact ⟨rfl, h, rfl⟩

@[simp]
theorem seen_accepted (w : Work) (old new : StaState) : (accepted c w old new).sta.seen = new :=
  last_concat (old, new) ..

theorem path_accepted (hp : w.sta.Path) (hs : w.sta.seen = old) (ha : old.Adj new) :
    (accepted c w old new).sta.Path :=
  (isPath_concat (old, new) ..).2 ⟨hp, hs.symm, ha⟩

/-! ## A move -/

theorem StaState.adj_of_allowed (h : old.allowed new = true) : old.Adj new := by
  cases old <;> cases new <;> first
    | exact absurd h (by decide)
    | (unfold StaState.Adj; decide)

theorem addNumMcast_of_mcast (h : c.mcast w.sta.sdata = true) (d : Int) :
    addNumMcast c w d = { w with numMcast := w.numMcast + d } := by
  unfold Config.mcast at h
  unfold addNumMcast
  cases ht : c.type w.sta.sdata <;> simp_all

theorem addNumMcast_of_not_mcast (h : c.mcast w.sta.sdata = false) (d : Int) : addNumMcast c w d = w := by
  unfold Config.mcast at h
  unfold addNumMcast
  cases ht : c.type w.sta.sdata <;> simp_all

theorem addNumMcast_sta (w : Work) (d : Int) : (addNumMcast c w d).sta = w.sta := by
  unfold addNumMcast
  split <;> rfl

theorem addNumMcast_numMcast (w : Work) (d : Int) :
    (addNumMcast c w d).numMcast = w.numMcast + if c.mcast w.sta.sdata = true then d else 0 := by
  cases h : c.mcast w.sta.sdata with
  | true => rw [addNumMcast_of_mcast h, if_pos rfl]
  | false => rw [addNumMcast_of_not_mcast h, if_neg (by decide), add_zero]

/-- The change in all state variables keeps the flags and the share. -/
theorem reflect_keeps (h : w.sta.Flags) (ha : w.sta.staState.allowed new = true) :
    Keeps c w (reflect c w new) := by
  obtain ⟨hx, h₁, h₂, h₃⟩ := h
  have hm := addNumMcast_numMcast (c := c) w
  have hs := addNumMcast_sta (c := c) w
  cases hold : w.sta.staState <;> cases new <;> rw [hold] at ha <;> first
    | exact absurd ha (by decide)
    | refine ⟨?_, ⟨?_, ?_, ?_, ?_⟩, ?_⟩ <;>
        simp_all [reflect, share, StaState.toNat] <;> split <;> omega

theorem reflect_frame (c : Config) (w : Work) (new : StaState) :
    (reflect c w new).sta.staState = new ∧ (reflect c w new).sta.calls = w.sta.calls ∧
      (reflect c w new).sta.inserted = w.sta.inserted ∧ (reflect c w new).sta.uploaded = w.sta.uploaded ∧
        (reflect c w new).answers = w.answers := by
  have hs := addNumMcast_sta (c := c) w
  have ha (d : Int) : (addNumMcast c w d).answers = w.answers := by
    unfold addNumMcast
    split <;> rfl
  unfold reflect
  cases new with
  | notexist => exact ⟨rfl, rfl, rfl, rfl, rfl⟩
  | none => dsimp only; split_ifs <;> exact ⟨rfl, rfl, rfl, rfl, rfl⟩
  | auth => dsimp only; split_ifs <;> exact ⟨rfl, rfl, rfl, rfl, rfl⟩
  | assoc =>
    dsimp only
    split_ifs
    · exact ⟨rfl, rfl, rfl, rfl, rfl⟩
    · rw [hs]; exact ⟨rfl, rfl, rfl, rfl, ha (-1)⟩
    · exact ⟨rfl, rfl, rfl, rfl, rfl⟩
  | authorized =>
    dsimp only
    split_ifs
    · rw [hs]; exact ⟨rfl, rfl, rfl, rfl, ha 1⟩
    · exact ⟨rfl, rfl, rfl, rfl, rfl⟩

theorem moveState_same (h : w.sta.staState = new) : moveState c w new = (true, w) := by
  unfold moveState
  rw [if_pos h]

theorem StaState.ne_of_allowed (h : old.allowed new = true) : old ≠ new := by
  rintro rfl
  cases old <;> exact absurd h (by decide)

theorem moveState_uninserted (hi : w.sta.inserted = false) (ha : w.sta.staState.allowed new = true) :
    moveState c w new = (true, reflect c w new) := by
  unfold moveState
  rw [if_neg (StaState.ne_of_allowed ha), ha, hi]
  rfl

theorem moveState_accept (hi : w.sta.inserted = true) (ha : w.sta.staState.allowed new = true)
    (hans : w.answers.headD true = true) :
    moveState c w new = (true, reflect c (accepted c w w.sta.staState new) new) := by
  unfold moveState
  rw [if_neg (StaState.ne_of_allowed ha), ha, hi, drvStaState_accept hans]
  rfl

theorem moveState_refuse (hi : w.sta.inserted = true) (ha : w.sta.staState.allowed new = true)
    (hans : w.answers.headD true = false) : moveState c w new = (false, refused w) := by
  unfold moveState
  rw [if_neg (StaState.ne_of_allowed ha), ha, hi, drvStaState_refuse hans]
  rfl

theorem moveState_disallowed (hne : w.sta.staState ≠ new) (ha : w.sta.staState.allowed new = false) :
    moveState c w new = (false, w) := by
  unfold moveState
  rw [if_neg hne, ha]
  rfl

/-- An accepted move of a station that the driver has in the same state. -/
theorem reflect_accepted (hf : w.sta.Flags) (hp : w.sta.Path) (hs : w.sta.seen = w.sta.staState)
    (ha : w.sta.staState.allowed new = true) :
    Keeps c w (reflect c (accepted c w w.sta.staState new) new) ∧
      (reflect c (accepted c w w.sta.staState new) new).sta.Path ∧
        (reflect c (accepted c w w.sta.staState new) new).sta.seen = new := by
  obtain ⟨-, hcalls, -⟩ := reflect_frame c (accepted c w w.sta.staState new) new
  refine ⟨?_, ?_, ?_⟩
  · have hk : Keeps c w (accepted c w w.sta.staState new) :=
      ⟨rfl, ⟨hf.alive, hf.auth, hf.assoc, hf.authorized⟩, rfl⟩
    exact hk.trans (reflect_keeps hk.flags ha)
  · unfold Sta.Path
    rw [hcalls]
    exact path_accepted hp hs (StaState.adj_of_allowed ha)
  · unfold Sta.seen
    rw [hcalls]
    exact seen_accepted w _ _

/-! ## Down to NONE -/

/-- The next `n` calls are accepted. -/
def Accepts : Nat → List Bool → Prop
  | 0, _ => True
  | n + 1, answers => answers.headD true = true ∧ Accepts n answers.tail

theorem StaState.allowed_pred {st : StaState} (h : StaState.none.toNat < st.toNat) :
    st.allowed st.pred = true ∧ st.pred.toNat + 1 = st.toNat := by
  cases st <;> first
    | exact absurd h (by decide)
    | exact ⟨rfl, rfl⟩

theorem StaState.eq_none {st : StaState} (h : st ≠ .notexist) (hle : ¬ StaState.none.toNat < st.toNat) :
    st = .none := by
  cases st <;> first
    | exact absurd rfl h
    | rfl
    | exact absurd (by decide) hle

/-- A station that is not inserted goes down without the driver. -/
theorem downLoop_uninserted : ∀ (n : Nat) {w : Work}, w.sta.Flags → w.sta.inserted = false →
    w.sta.staState.toNat ≤ n + 1 →
    Keeps c w (downLoop c n w) ∧ (downLoop c n w).sta.staState = .none ∧
      (downLoop c n w).sta.calls = w.sta.calls
  | 0, w, hf, _, hn => ⟨.refl hf, StaState.eq_none hf.alive (Nat.not_lt.2 hn), rfl⟩
  | n + 1, w, hf, hi, hn => by
    unfold downLoop
    split
    · rename_i hlt
      obtain ⟨ha, hpred⟩ := StaState.allowed_pred hlt
      rw [moveState_uninserted hi ha]
      obtain ⟨hst, hcalls, hins, -, -⟩ := reflect_frame c w w.sta.staState.pred
      have hk := reflect_keeps (c := c) hf ha
      obtain ⟨hk', hst', hcalls'⟩ := downLoop_uninserted n hk.flags (hins.trans hi) (by rw [hst]; omega)
      exact ⟨hk.trans hk', hst', hcalls'.trans hcalls⟩
    · exact ⟨.refl hf, StaState.eq_none hf.alive ‹_›, rfl⟩

/-- The driver accepts, and goes down with the station. -/
theorem downLoop_accept : ∀ (n : Nat) {w : Work} {j : Nat}, w.sta.Flags → w.sta.inserted = true →
    w.sta.Path → w.sta.seen = w.sta.staState → w.sta.staState.toNat ≤ n + 1 →
    Accepts (w.sta.staState.toNat - 1 + j) w.answers →
    Keeps c w (downLoop c n w) ∧ (downLoop c n w).sta.staState = .none ∧ (downLoop c n w).sta.Path ∧
      (downLoop c n w).sta.seen = .none ∧ (w.sta.uploaded = true → (downLoop c n w).sta.uploaded = true) ∧
        Accepts j (downLoop c n w).answers
  | 0, w, j, hf, _, hp, hs, hn, hans => by
    have hst : w.sta.staState = .none := StaState.eq_none hf.alive (Nat.not_lt.2 hn)
    rw [hst] at hs hans
    exact ⟨.refl hf, hst, hp, hs, id, by simpa [StaState.toNat, downLoop] using hans⟩
  | n + 1, w, j, hf, hi, hp, hs, hn, hans => by
    unfold downLoop
    split
    · rename_i hlt
      obtain ⟨ha, hpred⟩ := StaState.allowed_pred hlt
      have hsplit : w.sta.staState.toNat - 1 + j = (w.sta.staState.pred.toNat - 1 + j) + 1 := by
        have : 1 < w.sta.staState.toNat := hlt
        omega
      rw [hsplit] at hans
      obtain ⟨hhead, htail⟩ := hans
      rw [moveState_accept hi ha hhead]
      obtain ⟨hst, -, hins, hup, hanswers⟩ :=
        reflect_frame c (accepted c w w.sta.staState w.sta.staState.pred) w.sta.staState.pred
      obtain ⟨hk, hp', hs'⟩ := reflect_accepted (c := c) hf hp hs ha
      obtain ⟨hk', hst', hp'', hs'', hup', hans'⟩ := downLoop_accept n (j := j) hk.flags (hins.trans hi) hp'
        (hs'.trans hst.symm) (by rw [hst]; omega) (by rw [hst, hanswers]; exact htail)
      refine ⟨hk.trans hk', hst', hp'', hs'', fun h => hup' ?_, hans'⟩
      rw [hup]
      simp [accepted, h]
    · have hst : w.sta.staState = .none := StaState.eq_none hf.alive ‹_›
      rw [hst] at hs hans
      exact ⟨.refl hf, hst, hp, hs, id, by simpa [StaState.toNat] using hans⟩

theorem downLoop_none (n : Nat) (h : w.sta.staState = .none) : downLoop c n w = w := by
  cases n with
  | zero => rfl
  | succ n =>
    unfold downLoop
    rw [h, if_neg (by decide)]

/-! ## The destruction -/

/-- The driver accepts the calls of a destruction; the first of two attempts to leave AUTHORIZED may be
    refused. -/
def DownOk (st : StaState) (answers : List Bool) : Prop :=
  Accepts st.toNat answers ∨
    (st = .authorized ∧ answers.headD true = false ∧ Accepts st.toNat answers.tail)

theorem down_remove {w : Work} (hf : w.sta.Flags) (hi : w.sta.inserted = true) (hp : w.sta.Path)
    (hs : w.sta.seen = w.sta.staState) (hup : w.sta.uploaded = true)
    (hans : Accepts w.sta.staState.toNat w.answers) :
    let w₁ := downLoop c w.sta.staState.toNat w
    let w₂ := if w₁.sta.uploaded then (drvStaState c w₁ .none .notexist).2 else w₁
    Keeps c w w₂ ∧ w₂.sta.staState = .none ∧ w₂.sta.Path ∧ w₂.sta.seen = .notexist := by
  have hpos : 1 ≤ w.sta.staState.toNat := by
    have := hf.alive
    revert this
    cases w.sta.staState <;> decide
  obtain ⟨hk, hst, hp', hs', hup', hans'⟩ := downLoop_accept (c := c) w.sta.staState.toNat (j := 1) hf hi hp hs
    (by omega) (by rwa [Nat.sub_add_cancel hpos])
  dsimp only
  rw [if_pos (hup' hup)]
  have hk₂ := drvStaState_keeps (c := c) hk.flags .none .notexist
  rw [drvStaState_accept hans'.1] at hk₂ ⊢
  exact ⟨hk.trans hk₂, hst, path_accepted hp' hs' (.inr rfl), seen_accepted ..⟩

theorem destroyPart2_spec {w : Work} (hf : w.sta.Flags) (hi : w.sta.inserted = true) (hp : w.sta.Path)
    (hs : w.sta.seen = w.sta.staState) (hup : w.sta.uploaded = true)
    (hans : DownOk w.sta.staState w.answers) :
    Keeps c w (destroyPart2 c w) ∧ (destroyPart2 c w).sta.staState = .none ∧
      (destroyPart2 c w).sta.Path ∧ (destroyPart2 c w).sta.seen = .notexist := by
  -- the station before the loop, and what is left of the answers
  have hfirst : ∃ w₀, (if w.sta.staState = .authorized then (moveState c w .assoc).2 else w) = w₀ ∧
      Keeps c w w₀ ∧ w₀.sta.inserted = true ∧ w₀.sta.Path ∧ w₀.sta.seen = w₀.sta.staState ∧
        w₀.sta.uploaded = true ∧ Accepts w₀.sta.staState.toNat w₀.answers := by
    refine ⟨_, rfl, ?_⟩
    split
    · rename_i hst
      have ha : w.sta.staState.allowed .assoc = true := by rw [hst]; rfl
      rcases hans with hans | ⟨-, hhead, hans⟩
      · rw [hst] at hans
        rw [moveState_accept hi ha hans.1]
        obtain ⟨hst', -, hins, hup', hanswers⟩ := reflect_frame c (accepted c w w.sta.staState .assoc) .assoc
        obtain ⟨hk, hp', hs'⟩ := reflect_accepted (c := c) hf hp hs ha
        refine ⟨hk, hins.trans hi, hp', hs'.trans hst'.symm, ?_, ?_⟩
        · rw [hup']
          simp [accepted, hup]
        · rw [hst', hanswers]
          exact hans.2
      · rw [moveState_refuse hi ha hhead]
        exact ⟨⟨rfl, hf, rfl⟩, hi, hp, hs, hup, hans⟩
    · rename_i hst
      refine ⟨.refl hf, hi, hp, hs, hup, ?_⟩
      exact hans.resolve_right fun h => hst h.1
  obtain ⟨w₀, hw₀, hk₀, hi₀, hp₀, hs₀, hup₀, hans₀⟩ := hfirst
  obtain ⟨hk, hst, hp', hs'⟩ := down_remove (c := c) hk₀.flags hi₀ hp₀ hs₀ hup₀ hans₀
  unfold destroyPart2
  rw [hw₀]
  dsimp only at hk hst hp' hs' ⊢
  unfold free
  rw [downLoop_none _ hst]
  exact ⟨hk₀.trans hk, hst, hp', hs'⟩

theorem destroyPart2_none {w : Work} (hst : w.sta.staState = .none) (hup : w.sta.uploaded = false) :
    destroyPart2 c w = w := by
  unfold destroyPart2 free
  rw [hst, if_neg (by decide)]
  dsimp only
  rw [downLoop_none _ hst, hup, if_neg (by decide), downLoop_none _ hst]

end Mac80211.StaInfo
