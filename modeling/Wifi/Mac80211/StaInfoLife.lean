import Wifi.Mac80211.StaInfo

/-!
# The life of a station over whole runs

* `upLoop_spec`, `unwind_spec`, `staInfoInsert_spec` — an insertion, and its unwinding.
* `Sta.Valid`, `Valid` — what holds of a station, and of all stations, between operations.
* `LifeOk` — the steps that keep it; `drvStaState_path` — every run of such steps.
-/

namespace Mac80211.StaInfo

open Runs PathLog

variable {c : Config}

/-! ## The insertion -/

/-- Of an insertion with `n` calls up to go, and `k` made, no call of the unwinding is refused. -/
def Unwound : Nat → Nat → List Bool → Prop
  | 0, _, _ => True
  | n + 1, k, answers =>
    if answers.headD true = true then Unwound n (k + 1) answers.tail else Accepts k answers.tail

theorem StaState.succ_spec (st : StaState) (h : st.toNat < StaState.authorized.toNat) :
    st.succ.toNat = st.toNat + 1 ∧ st.Adj st.succ := by
  cases st <;> first
    | exact absurd h (by decide)
    | exact ⟨rfl, .inl rfl⟩

theorem StaState.pred_spec (st : StaState) (h : 0 < st.toNat) :
    st.pred.toNat + 1 = st.toNat ∧ st.Adj st.pred := by
  cases st <;> first
    | exact absurd h (by decide)
    | exact ⟨rfl, .inr rfl⟩

theorem StaState.toNat_le (st : StaState) : st.toNat ≤ StaState.authorized.toNat := by
  cases st <;> decide

theorem StaState.toNat_inj {a b : StaState} (h : a.toNat = b.toNat) : a = b := by
  revert h
  cases a <;> cases b <;> decide

/-- What the calls of an insertion leave of a station. -/
structure Told (w w' : Work) : Prop where
  sdata : w'.sta.sdata = w.sta.sdata
  state : w'.sta.staState = w.sta.staState
  inserted : w'.sta.inserted = w.sta.inserted
  flags : w.sta.Flags → w'.sta.Flags
  numMcast : w'.numMcast = w.numMcast

namespace Told

variable {w w₁ w₂ : Work}

theorem refl : Told w w := ⟨rfl, rfl, rfl, id, rfl⟩

theorem trans (h₁ : Told w w₁) (h₂ : Told w₁ w₂) : Told w w₂ :=
  ⟨h₂.sdata.trans h₁.sdata, h₂.state.trans h₁.state, h₂.inserted.trans h₁.inserted,
    fun h => h₂.flags (h₁.flags h), h₂.numMcast.trans h₁.numMcast⟩

theorem accepted (old new : StaState) : Told w (accepted c w old new) :=
  ⟨rfl, rfl, rfl, fun h => ⟨h.alive, h.auth, h.assoc, h.authorized⟩, rfl⟩

theorem refused : Told w (refused w) := ⟨rfl, rfl, rfl, id, rfl⟩

theorem keeps (h : Told w w₁) (hf : w.sta.Flags) : Keeps c w w₁ := by
  refine ⟨h.sdata, h.flags hf, ?_⟩
  unfold share
  rw [h.sdata, h.state, h.numMcast]

end Told

/-- **The loop up**: the driver has the station in the state that was reached. -/
theorem upLoop_spec : ∀ (n : Nat) {w : Work} {state : StaState} {k : Nat}, w.sta.Path →
    w.sta.seen = state → state.toNat = k → k + n ≤ StaState.authorized.toNat → Unwound n k w.answers →
    let r := upLoop c n state w
    Told w r.2.2 ∧ r.2.2.sta.Path ∧ r.2.2.sta.seen = r.2.1 ∧ (r.1 = true → r.2.1.toNat = k + n) ∧
      (r.1 = false → Accepts r.2.1.toNat r.2.2.answers)
  | 0, w, state, k, hp, hs, hk, _, _ => ⟨.refl, hp, hs, fun _ => hk, nofun⟩
  | n + 1, w, state, k, hp, hs, hk, hle, hu => by
    unfold upLoop
    unfold Unwound at hu
    by_cases hans : w.answers.headD true = true
    · rw [if_pos hans] at hu
      rw [drvStaState_accept hans]
      obtain ⟨hsucc, hadj⟩ := StaState.succ_spec state (by omega)
      obtain ⟨ht, hp', hs', hok, herr⟩ := upLoop_spec n (w := accepted c w state state.succ)
        (path_accepted hp hs hadj) (seen_accepted ..) (by rw [hsucc, hk]) (by omega) hu
      exact ⟨(Told.accepted state state.succ).trans ht, hp', hs', fun h => (hok h).trans (by omega), herr⟩
    · rw [if_neg hans] at hu
      rw [drvStaState_refuse (by simpa using hans)]
      refine ⟨.refused, hp, hs, nofun, fun _ => ?_⟩
      show Accepts state.toNat w.answers.tail
      rwa [hk]

/-- **The unwinding** ends at NOTEXIST. -/
theorem unwind_spec : ∀ (n : Nat) {w : Work} {state : StaState}, w.sta.Path → w.sta.seen = state →
    state.toNat = n → Accepts n w.answers →
    Told w (unwind c n state w) ∧ (unwind c n state w).sta.Path ∧ (unwind c n state w).sta.seen = .notexist
  | 0, w, state, hp, hs, hn, _ => ⟨.refl, hp, hs.trans (StaState.toNat_inj hn)⟩
  | n + 1, w, state, hp, hs, hn, hans => by
    unfold unwind
    rw [drvStaState_accept hans.1]
    obtain ⟨hpred, hadj⟩ := StaState.pred_spec state (by omega)
    obtain ⟨ht, hp', hs'⟩ := unwind_spec n (w := accepted c w state state.pred)
      (path_accepted hp hs hadj) (seen_accepted ..) (by omega) hans.2
    exact ⟨(Told.accepted state state.pred).trans ht, hp', hs'⟩

/-- What holds of a station between operations. -/
structure Sta.Valid (sta : Sta) : Prop where
  flags : sta.Flags
  path : sta.Path
  new : sta.inserted = false → sta.seen = .notexist
  seen : sta.inserted = true → sta.seen = sta.staState ∨ sta.seen = .notexist

structure Sta.Gone (sta : Sta) : Prop where
  path : sta.Path
  seen : sta.seen = .notexist

theorem free_spec {w : Work} (hf : w.sta.Flags) (hi : w.sta.inserted = false) (hp : w.sta.Path)
    (hs : w.sta.seen = .notexist) :
    Keeps c w (free c w) ∧ (free c w).sta.staState = .none ∧ (free c w).sta.Gone := by
  obtain ⟨hk, hst, hcalls⟩ := downLoop_uninserted (c := c) w.sta.staState.toNat hf hi (Nat.le_succ _)
  refine ⟨hk, hst, ?_, ?_⟩
  · unfold Sta.Path free
    rw [hcalls]
    exact hp
  · unfold Sta.seen free
    rw [hcalls]
    exact hs

theorem insertDrvState_spec {w : Work} (hp : w.sta.Path) (hs : w.sta.seen = .notexist)
    (hu : Unwound w.sta.staState.toNat 0 w.answers) :
    let r := insertDrvState c w
    Told w r.2 ∧ r.2.sta.Path ∧ (r.2.sta.seen = w.sta.staState ∨ r.2.sta.seen = .notexist) ∧
      (r.1 = false → r.2.sta.seen = .notexist) := by
  obtain ⟨ht, hp', hs', hok, herr⟩ := upLoop_spec (c := c) w.sta.staState.toNat hp hs rfl
    (by have := w.sta.staState.toNat_le; simpa [StaState.toNat] using this) hu
  unfold insertDrvState
  dsimp only
  cases hr : (upLoop c w.sta.staState.toNat .notexist w).1 with
  | true =>
    have hseen : (upLoop c w.sta.staState.toNat .notexist w).2.2.sta.seen = w.sta.staState := by
      rw [hs']
      exact StaState.toNat_inj (by rw [hok hr]; simp [StaState.toNat])
    rw [if_pos rfl]
    refine ⟨?_, ?_, .inl ?_, fun h => absurd h Bool.false_ne_true.symm⟩
    · split
      · exact ht.trans ⟨rfl, rfl, rfl, fun h => ⟨h.alive, h.auth, h.assoc, h.authorized⟩, rfl⟩
      · exact ht
    · dsimp only
      split <;> exact hp'
    · dsimp only
      split <;> exact hseen
  | false =>
    rw [if_neg (by decide)]
    obtain ⟨ht₂, hp₂, hs₂⟩ := unwind_spec (c := c) _ hp' hs' rfl (herr hr)
    exact ⟨ht.trans ht₂, hp₂, .inr hs₂, fun _ => hs₂⟩

theorem staInfoInsert_spec {w : Work} {early : Bool} (hv : w.sta.Valid) (hi : w.sta.inserted = false)
    (hu : early = false → Unwound w.sta.staState.toNat 0 w.answers) :
    let r := staInfoInsert c w early
    Keeps c w r.2 ∧ (r.1 = true → r.2.sta.Valid) ∧
      (r.1 = false → r.2.sta.staState = .none ∧ r.2.sta.Gone) := by
  unfold staInfoInsert
  cases early with
  | true =>
    obtain ⟨hk, hst, hg⟩ := free_spec (c := c) hv.flags hi hv.path (hv.new hi)
    exact ⟨hk, nofun, fun _ => ⟨hst, hg⟩⟩
  | false =>
    obtain ⟨ht, hp, hs, herr⟩ := insertDrvState_spec (c := c) hv.path (hv.new hi) (hu rfl)
    rw [if_neg (by decide)]
    dsimp only at ht hp hs herr ⊢
    have hf := ht.flags hv.flags
    cases hr : (insertDrvState c w).1 with
    | true =>
      rw [if_pos rfl]
      refine ⟨?_, fun _ => ?_, nofun⟩
      · obtain ⟨h₁, h₂, h₃⟩ := ht.keeps (c := c) hv.flags
        exact ⟨h₁, ⟨hf.alive, hf.auth, hf.assoc, hf.authorized⟩, h₃⟩
      · refine ⟨⟨hf.alive, hf.auth, hf.assoc, hf.authorized⟩, hp, nofun, fun _ => ?_⟩
        exact hs.imp (fun h => h.trans ht.state.symm) id
    | false =>
      rw [if_neg (by decide)]
      obtain ⟨hk, hst, hg⟩ := free_spec (c := c) hf (ht.inserted.trans hi) hp (herr hr)
      exact ⟨(ht.keeps hv.flags).trans hk, nofun, fun _ => ⟨hst, hg⟩⟩

/-! ## All stations -/

structure Valid (c : Config) (s : State) : Prop where
  here : ∀ a ∈ s.stas.list, (s.stas.get a).Valid
  gone : ∀ a, a < s.stas.next → a ∉ s.stas.list → (s.stas.get a).Gone
  numMcast : ∀ i, c.mcast i = true → s.numMcast i = s.stas.sum (mcastOf i)

theorem mcastOf_self (sta : Sta) (h : c.mcast sta.sdata = true) : mcastOf sta.sdata sta = share c sta := by
  unfold mcastOf share
  rw [h]
  simp

theorem mcastOf_ne {sta : Sta} {i : Nat} (h : i ≠ sta.sdata) : mcastOf i sta = 0 :=
  if_neg fun hc => h hc.1.symm

variable {s : State} {a : Nat}

/-- **What an operation on one station keeps.** -/
theorem Valid.store (h : Valid c s) (ha : a ∈ s.stas.list) {answers : List Bool} {there : Bool} {w : Work}
    (hk : Keeps c (s.load a answers) w) (hv : there = true → w.sta.Valid)
    (hg : there = false → w.sta.staState = .none ∧ w.sta.Gone) : Valid c (s.store a there w) := by
  have hsum (i : Nat) : (s.store a there w).stas.sum (mcastOf i) =
      s.stas.sum (mcastOf i) - mcastOf i (s.stas.get a) + mcastOf i w.sta := by
    cases there with
    | true => exact Roster.sum_set _ _ ha
    | false =>
      have hz : mcastOf i w.sta = 0 := if_neg fun hc => by
        rw [(hg rfl).1] at hc
        cases hc.2
      show ((s.stas.set a w.sta).remove a).sum (mcastOf i) = _
      rw [Roster.sum_remove (r := s.stas.set a w.sta) _ ha, Roster.sum_set _ _ ha, Roster.get_set_self, hz]
      omega
  refine ⟨fun b hb => ?_, fun b hb hnot => ?_, fun i hi => ?_⟩
  · cases there with
    | true =>
      show ((s.stas.set a w.sta).get b).Valid
      by_cases hba : b = a
      · rw [hba, Roster.get_set_self]
        exact hv rfl
      · rw [Roster.get_set_ne _ _ hba]
        exact h.here b hb
    | false =>
      obtain ⟨hba, hb⟩ := (Roster.mem_remove _).1 hb
      show ((s.stas.set a w.sta).get b).Valid
      rw [Roster.get_set_ne _ _ hba]
      exact h.here b hb
  · cases there with
    | true =>
      show ((s.stas.set a w.sta).get b).Gone
      have hba : b ≠ a := fun e => hnot (e ▸ ha)
      rw [Roster.get_set_ne _ _ hba]
      exact h.gone b hb hnot
    | false =>
      show ((s.stas.set a w.sta).get b).Gone
      by_cases hba : b = a
      · rw [hba, Roster.get_set_self]
        exact (hg rfl).2
      · rw [Roster.get_set_ne _ _ hba]
        exact h.gone b hb fun hmem => hnot ((Roster.mem_remove _).2 ⟨hba, hmem⟩)
  · rw [hsum]
    show Function.update s.numMcast (s.stas.get a).sdata w.numMcast i = _
    have hsd : w.sta.sdata = (s.stas.get a).sdata := hk.sdata
    by_cases his : i = (s.stas.get a).sdata
    · subst his
      have hnum := hk.numMcast
      rw [Function.update_self, mcastOf_self _ hi, ← hsd, mcastOf_self (c := c) w.sta (by rw [hsd]; exact hi), hsd,
        ← h.numMcast _ hi]
      unfold State.load at hnum
      dsimp only at hnum
      omega
    · rw [Function.update_of_ne his, mcastOf_ne his, mcastOf_ne (by rw [hsd]; exact his), h.numMcast i hi]
      omega

theorem alloc_valid (h : Valid c s) (sdata : Nat) :
    Valid c { s with stas := s.stas.add { sdata := sdata } } := by
  refine ⟨fun b hb => ?_, fun b hb hnot => ?_, fun i hi => ?_⟩
  · show ((s.stas.add { sdata := sdata }).get b).Valid
    rcases (Roster.mem_add _).1 hb with hb | rfl
    · rw [Roster.get_add_mem _ _ hb]
      exact h.here b hb
    · rw [Roster.get_add_self]
      exact ⟨⟨nofun, rfl, rfl, rfl⟩, trivial, fun _ => rfl, nofun⟩
  · have hne : b ≠ s.stas.next := fun e => hnot ((Roster.mem_add _).2 (.inr e))
    have hlt : b < s.stas.next := Nat.lt_of_le_of_ne (Nat.le_of_lt_succ hb) hne
    show (Function.update s.stas.get s.stas.next _ b).Gone
    rw [Function.update_of_ne hne]
    exact h.gone b hlt fun hmem => hnot ((Roster.mem_add _).2 (.inl hmem))
  · show s.numMcast i = (s.stas.add { sdata := sdata }).sum (mcastOf i)
    have hz : mcastOf i { sdata := sdata } = 0 := if_neg fun hc => nomatch hc.2
    rw [Roster.sum_add, h.numMcast i hi, hz, add_zero]

/-- The driver has the station in another state: it refused the insertion, and the station was kept. -/
def Sta.kept (sta : Sta) : Prop := sta.inserted = true ∧ sta.seen ≠ sta.staState

/-- The steps that keep the life of each station a path. -/
def LifeOk (s : State) : Op → Prop
  | .alloc _ => True
  | .moveState a new answers =>
    (s.stas.get a).kept → (s.stas.get a).staState.allowed new = true → answers.headD true = false
  | .insert a early answers => early = false → Unwound (s.stas.get a).staState.toNat 0 answers
  | .destroy a answers =>
    ((s.stas.get a).kept → (s.stas.get a).staState = .none ∧ (s.stas.get a).uploaded = false) ∧
      (¬ (s.stas.get a).kept → (s.stas.get a).uploaded = true ∧ DownOk (s.stas.get a).staState answers)
  | .free _ => True

theorem moveState_valid {w : Work} {new : StaState} (hv : w.sta.Valid)
    (hok : w.sta.kept → w.sta.staState.allowed new = true → w.answers.headD true = false) :
    Keeps c w (moveState c w new).2 ∧ (moveState c w new).2.sta.Valid := by
  by_cases hsame : w.sta.staState = new
  · rw [moveState_same hsame]
    exact ⟨.refl hv.flags, hv⟩
  cases ha : w.sta.staState.allowed new with
  | false =>
    rw [moveState_disallowed hsame ha]
    exact ⟨.refl hv.flags, hv⟩
  | true =>
    cases hi : w.sta.inserted with
    | false =>
      rw [moveState_uninserted hi ha]
      obtain ⟨-, hcalls, hins, -, -⟩ := reflect_frame c w new
      have hk := reflect_keeps (c := c) hv.flags ha
      refine ⟨hk, hk.flags, ?_, fun _ => ?_, fun h => ?_⟩
      · unfold Sta.Path
        rw [hcalls]
        exact hv.path
      · unfold Sta.seen
        rw [hcalls]
        exact hv.new hi
      · rw [hins, hi] at h
        cases h
    | true =>
      cases hans : w.answers.headD true with
      | false =>
        rw [moveState_refuse hi ha hans]
        exact ⟨⟨rfl, hv.flags, rfl⟩, hv⟩
      | true =>
        have hseen : w.sta.seen = w.sta.staState := by
          by_contra hne
          have hrefused := hok ⟨hi, hne⟩ ha
          rw [hans] at hrefused
          cases hrefused
        rw [moveState_accept hi ha hans]
        obtain ⟨hk, hp, hs⟩ := reflect_accepted (c := c) hv.flags hv.path hseen ha
        obtain ⟨hst, -, hins, -, -⟩ := reflect_frame c (accepted c w w.sta.staState new) new
        refine ⟨hk, hk.flags, hp, fun h => ?_, fun _ => .inl (hs.trans hst.symm)⟩
        rw [hins.trans hi] at h
        cases h

theorem destroy_gone {w : Work} (hv : w.sta.Valid) (hi : w.sta.inserted = true)
    (hkept : w.sta.kept → w.sta.staState = .none ∧ w.sta.uploaded = false)
    (hok : ¬ w.sta.kept → w.sta.uploaded = true ∧ DownOk w.sta.staState w.answers) :
    Keeps c w (destroyPart2 c w) ∧ (destroyPart2 c w).sta.staState = .none ∧
      (destroyPart2 c w).sta.Gone := by
  by_cases hk : w.sta.kept
  · obtain ⟨hst, hup⟩ := hkept hk
    rw [destroyPart2_none hst hup]
    exact ⟨.refl hv.flags, hst, hv.path, (hv.seen hi).resolve_left hk.2⟩
  · obtain ⟨hup, hans⟩ := hok hk
    have hseen : w.sta.seen = w.sta.staState := by
      by_contra hne
      exact hk ⟨hi, hne⟩
    obtain ⟨hkeeps, hst, hp, hs⟩ := destroyPart2_spec (c := c) hv.flags hi hv.path hseen hup hans
    exact ⟨hkeeps, hst, hp, hs⟩

theorem step_guard {p : Prop} [Decidable p] {s s' : State} (h : (if p then some s else none) = some s') :
    p ∧ s = s' := by
  obtain ⟨hp, hs⟩ := Option.ite_none_right_eq_some.1 h
  exact ⟨hp, Option.some.inj hs⟩

/-- **One step.** -/
theorem step_valid {s' : State} {op : Op} (h : Valid c s) (hs : Guarded LifeOk (Step c) s op s') :
    Valid c s' := by
  obtain ⟨hok, hs⟩ := hs
  cases op with
  | alloc sdata => cases hs; exact alloc_valid h sdata
  | moveState a new answers =>
    obtain ⟨ha, rfl⟩ := step_guard hs
    obtain ⟨hk, hv⟩ := moveState_valid (c := c) (w := s.load a answers) (h.here a ha) hok
    exact h.store ha hk (fun _ => hv) nofun
  | insert a early answers =>
    obtain ⟨⟨ha, hi⟩, rfl⟩ := step_guard hs
    obtain ⟨hk, hv, hg⟩ := staInfoInsert_spec (c := c) (w := s.load a answers) (h.here a ha) hi hok
    exact h.store ha hk hv hg
  | destroy a answers =>
    obtain ⟨⟨ha, hi⟩, rfl⟩ := step_guard hs
    obtain ⟨hk, hst, hg⟩ := destroy_gone (c := c) (w := s.load a answers) (h.here a ha) hi hok.1 hok.2
    exact h.store ha hk nofun fun _ => ⟨hst, hg⟩
  | free a =>
    obtain ⟨⟨ha, hi⟩, rfl⟩ := step_guard hs
    have hv := h.here a ha
    obtain ⟨hk, hst, hg⟩ := free_spec (c := c) (w := s.load a []) hv.flags hi hv.path (hv.new hi)
    exact h.store ha hk nofun fun _ => ⟨hst, hg⟩

theorem start_valid (h : NoStations s) : Valid c s := by
  obtain ⟨hl, hnext, hnum⟩ := h
  refine ⟨fun a ha => ?_, fun a ha => ?_, fun i _ => ?_⟩
  · rw [hl] at ha
    cases ha
  · rw [hnext] at ha
    cases ha
  · rw [hnum, Roster.sum, hl]
    rfl

/-- **The driver sees the life of every station as a path**, in every run of steps that keep it. -/
theorem drvStaState_path (c : Config) (s : State)
    (h : Reachable NoStations (Guarded LifeOk (Step c)) s) :
    (∀ a, a < s.stas.next → IsPath StaState.Adj .notexist (s.stas.get a).calls ∧
      (a ∉ s.stas.list → last .notexist (s.stas.get a).calls = .notexist)) ∧
    (∀ a ∈ s.stas.list, (s.stas.get a).Flags) ∧
    ∀ i, c.mcast i = true → s.numMcast i = s.stas.sum (mcastOf i) := by
  have hv : Valid c s := h.invariant (fun _ => start_valid) fun _ _ _ => step_valid
  refine ⟨fun a ha => ⟨?_, fun hnot => (hv.gone a ha hnot).seen⟩, fun a ha => (hv.here a ha).flags, hv.numMcast⟩
  by_cases hmem : a ∈ s.stas.list
  · exact (hv.here a hmem).path
  · exact (hv.gone a ha hmem).path

/-- A driver with `sta_state`, and interfaces of one type. -/
def staStateDriver (t : IfType) : Config where
  type := fun _ => t
  opStaState := true
  opStaAdd := false
  one := fun _ => rfl

def noStations : State where
  stas := Roster.empty fun _ => { sdata := 0 }
  numMcast := fun _ => 0

theorem noStations_start : NoStations noStations := ⟨rfl, rfl, fun _ => rfl⟩

def allocated : State := { noStations with stas := noStations.stas.add { sdata := 0 } }

def inserted : State :=
  allocated.store 0 true (staInfoInsert (staStateDriver .ap) (allocated.load 0 []) false).2

def destroyed : State := inserted.store 0 false (destroyPart2 (staStateDriver .ap) (inserted.load 0 []))

theorem drvStaState_path_destroyed :
    ((∀ a, a < destroyed.stas.next → IsPath StaState.Adj .notexist (destroyed.stas.get a).calls ∧
        (a ∉ destroyed.stas.list → last .notexist (destroyed.stas.get a).calls = .notexist)) ∧
      (∀ a ∈ destroyed.stas.list, (destroyed.stas.get a).Flags) ∧
      ∀ i, (staStateDriver .ap).mcast i = true → destroyed.numMcast i = destroyed.stas.sum (mcastOf i)) ∧
    (destroyed.stas.get 0).calls = [(.notexist, .none), (.none, .notexist)] := by
  refine ⟨drvStaState_path (staStateDriver .ap) destroyed ?_, by decide⟩
  have h₁ : Reachable NoStations (Guarded LifeOk (Step (staStateDriver .ap))) allocated :=
    .next (i := .alloc 0) (.start noStations_start) ⟨trivial, rfl⟩
  have h₂ : Reachable NoStations (Guarded LifeOk (Step (staStateDriver .ap))) inserted :=
    h₁.next (i := .insert 0 false []) ⟨fun _ => trivial, rfl⟩
  refine h₂.next (i := .destroy 0 []) ⟨⟨fun h => absurd rfl h.2, fun _ => ⟨rfl, .inl ?_⟩⟩, rfl⟩
  exact ⟨rfl, trivial⟩

/-- An IBSS station whose move to ASSOC is refused at its insertion is kept, and destroyed. -/
def keptOps : List Op :=
  [.alloc 0, .moveState 0 .auth [], .moveState 0 .assoc [], .moveState 0 .authorized [],
    .insert 0 false [true, true, false], .destroy 0 []]

/-- The driver is told that a station goes down from AUTHORIZED that it does not have, and the station is
    not removed from it. -/
theorem drvStaState_path_kept : ∃ s, Reachable NoStations (Step (staStateDriver .adhoc)) s ∧
    s.stas.list = [] ∧ ¬ IsPath StaState.Adj .notexist (s.stas.get 0).calls ∧
      last .notexist (s.stas.get 0).calls = .none := by
  have hrun : (exec (State.next (staStateDriver .adhoc)) keptOps noStations).map
      (fun s => (s.stas.list, (s.stas.get 0).calls)) = some ([],
        [(.notexist, .none), (.none, .auth), (.auth, .none), (.none, .notexist),
          (.authorized, .assoc), (.assoc, .auth), (.auth, .none)]) := by decide
  obtain ⟨s, hr, hs⟩ := exec_observe noStations_start keptOps (fun _ _ _ _ h => h) _ hrun
  obtain ⟨hlist, hcalls⟩ := Prod.mk.inj hs
  refine ⟨s, hr, hlist, ?_, ?_⟩
  · rw [hcalls]
    rintro ⟨-, -, -, -, -, -, -, -, h, -⟩
    cases h
  · rw [hcalls]
    rfl

end Mac80211.StaInfo
