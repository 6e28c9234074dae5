import Mathlib.Data.List.TakeWhile
import Mathlib.Tactic

/-!
# The power-save queue of a station (`freebsd/sys/net80211/ieee80211_power.c`)

* `Frame`, `Psq` — a frame and its age, and the two queues.
* `ieee80211Pwrsave`, `ieee80211NodePsqDequeue`, `ieee80211NodePsqAge` — the functions of these names.
* `Due` — the next call is the first after which the intervals since the frame was saved exceed its age.
* `OnTime` — the frames on the queue are discarded by the calls at which they are due.
* `Encoded` — what the stored ages must be for that; `onTime_iff`.
* `run_onTime_iff` — the runs in which it is so.

The ages that `ieee80211_pwrsave` computes are below 2148 seconds, so that nothing wraps where it takes differences.
-/

namespace Net80211.Power

/-! ## The queue -/

/-- `IEEE80211_INACT_WAIT` -/
def INACT_WAIT : Nat := 15

/-- `IEEE80211_PS_MAX_QUEUE` -/
def PS_MAX_QUEUE : Nat := 50

structure Frame where
  /-- `M_AGE_GET` -/
  age : Nat
  /-- The age with which it was saved. -/
  saved : Int
  /-- The calls of `ieee80211_node_psq_age` since then. -/
  calls : Nat
  deriving DecidableEq, Repr

/-- `struct ieee80211_psq`: the queue of encapsulated frames, `psq_head[0]`, and that of the others. -/
structure Psq where
  high : List Frame
  low : List Frame
  deriving DecidableEq, Repr

/-- After `ieee80211_psq_init`. -/
def init : Psq := { high := [], low := [] }

/-- The age of a frame, in seconds: `IEEE80211_TU_TO_MS((ni->ni_intval * ic->ic_bintval) << 2) / 1000`. -/
def saveAge (intval bintval : BitVec 16) : Int :=
  let tu : BitVec 32 := (intval.setWidth 32 * bintval.setWidth 32) <<< 2
  (((tu * 1024).sdiv 1000).sdiv 1000).toInt

/-- `psq_len >= psq_maxlen` -/
def Psq.full (q : Psq) : Prop := PS_MAX_QUEUE ≤ q.high.length + q.low.length

instance (q : Psq) : Decidable q.full := inferInstanceAs (Decidable (_ ≤ _))

/-- The end of `ieee80211_pwrsave`, with its `KASSERT`: `age` is written down for a frame of age `saved`. -/
def Psq.insert (q : Psq) (encap : Bool) (saved age : Int) : Option Psq :=
  if 0 ≤ age then
    let m : Frame := { age := age.toNat, saved := saved, calls := 0 }
    some (if encap then { q with high := q.high ++ [m] } else { q with low := q.low ++ [m] })
  else none

/-- The head of the other queue when an encapsulated frame is the first one: clamped to zero. -/
def lower (age : Int) : List Frame → List Frame
  | [] => []
  | mh :: l => { mh with age := (mh.age - age).toNat } :: l

def ieee80211Pwrsave (q : Psq) (encap : Bool) (intval bintval : BitVec 16) : Option Psq :=
  if q.full then some q
  else
    let age := saveAge intval bintval
    match encap, q.high, q.low with
    | true, [], low => Psq.insert { high := [], low := lower age low } true age age
    | true, mh :: _, _ => q.insert true age (age - mh.age)
    | false, [], [] => q.insert false age age
    | false, mh :: _, [] => q.insert false age (age - mh.age)
    | false, _, mh :: _ => q.insert false age (age - mh.age)

def ieee80211NodePsqDequeue (q : Psq) : Psq :=
  match q.high with
  | _ :: high => { q with high := high }
  | [] => { q with low := q.low.tail }

/-- The test of `ieee80211_node_psq_age`. -/
def Frame.old (f : Frame) : Bool := f.age < INACT_WAIT

def Frame.tick (f : Frame) : Frame := { f with calls := f.calls + 1 }

/-- `M_AGE_SUB` on the head of the second queue, the one that was walked last. -/
def ageSub : List Frame → List Frame
  | [] => []
  | m :: l => { m with age := m.age - INACT_WAIT } :: l

/-- `ieee80211_node_psq_age`: the frames that it discards, and the queue. -/
def ieee80211NodePsqAge (q : Psq) : List Frame × Psq :=
  (q.high.takeWhile Frame.old ++ q.low.takeWhile Frame.old,
    { high := (q.high.dropWhile Frame.old).map Frame.tick
      low := ageSub ((q.low.dropWhile Frame.old).map Frame.tick) })

inductive Op where
  | save (encap : Bool) (intval bintval : BitVec 16)
  | dequeue
  | age

def next (q : Psq) : Op → Option Psq
  | .save encap intval bintval => ieee80211Pwrsave q encap intval bintval
  | .dequeue => some (ieee80211NodePsqDequeue q)
  | .age => some (ieee80211NodePsqAge q).2

/-! ## Frames that are due -/

/-- The next call is the first after which `INACT_WAIT` times the calls exceeds the age. -/
def Frame.Due (f : Frame) : Prop := f.saved < INACT_WAIT * (f.calls + 1 : Nat)

instance (f : Frame) : Decidable f.Due := inferInstanceAs (Decidable (_ < _))

/-- **A call discards the frames that are due**, and no others. -/
def Exact (q : Psq) : Prop :=
  (∀ f ∈ (ieee80211NodePsqAge q).1, f.Due) ∧
    ∀ f ∈ q.high.dropWhile Frame.old ++ q.low.dropWhile Frame.old, ¬f.Due

/-- **Every frame on the queue is discarded when it is due**, by one of the next calls. -/
def OnTime (q : Psq) : Prop := ∀ n, Exact ((fun q => (ieee80211NodePsqAge q).2)^[n] q)

/-- In every state of the run it is so, and no `KASSERT` fails. -/
def RunOnTime (q : Psq) : List Op → Prop
  | [] => OnTime q
  | op :: ops => OnTime q ∧ ∃ q', next q op = some q' ∧ RunOnTime q' ops

/-! ## The encoding -/

def Frame.rounds (f : Frame) : Nat := (f.saved - INACT_WAIT * f.calls).toNat / INACT_WAIT

/-- The multiples of `INACT_WAIT` that the stored ages hold. -/
def held (l : List Frame) : Nat := (l.map fun f => f.age / INACT_WAIT).sum

/-- On the second queue each frame survives the calls that the ages up to its own hold, and `k` more. -/
def LowEncoded (k : Nat) : List Frame → Prop
  | [] => True
  | f :: l => f.rounds = k + f.age / INACT_WAIT ∧ LowEncoded (k + f.age / INACT_WAIT) l

/-- No frame on the first queue survives a call. -/
structure Encoded (q : Psq) : Prop where
  high : ∀ f ∈ q.high, f.old = true ∧ f.Due
  low : LowEncoded 0 q.low

def Fits (q : Psq) : Op → Prop
  | .save true intval bintval => q.full ∨
      (0 ≤ saveAge intval bintval ∧ saveAge intval bintval < INACT_WAIT ∧
        match q.high with
        | mh :: _ => mh.age ≤ saveAge intval bintval
        | [] => ∀ mh ∈ q.low.head?, (mh.age - saveAge intval bintval).toNat / INACT_WAIT = mh.age / INACT_WAIT)
  | .save false intval bintval => q.full ∨
      ∃ base : Nat, (base = match q.low, q.high with
          | mh :: _, _ => mh.age
          | [], mh :: _ => mh.age
          | [], [] => 0) ∧ base ≤ saveAge intval bintval ∧
        (saveAge intval bintval).toNat / INACT_WAIT =
          held q.low + (saveAge intval bintval - base).toNat / INACT_WAIT
  | .dequeue => q.high ≠ [] ∨ q.low.length ≤ 1 ∨ ∀ mh ∈ q.low.head?, mh.old = true
  | .age => True

/-- Every call of the run meets the condition. -/
def RunFits (q : Psq) : List Op → Prop
  | [] => True
  | op :: ops => Fits q op ∧ ∀ q', next q op = some q' → RunFits q' ops

variable {q : Psq} {f : Frame} {l : List Frame} {k : Nat}

theorem due_iff : f.Due ↔ f.rounds = 0 := by
  unfold Frame.Due Frame.rounds INACT_WAIT
  omega

theorem rounds_tick (f : Frame) : f.tick.rounds = f.rounds - 1 := by
  unfold Frame.rounds Frame.tick INACT_WAIT
  dsimp only
  omega

theorem old_iff : f.old = true ↔ f.age / INACT_WAIT = 0 := by
  unfold Frame.old INACT_WAIT
  rw [decide_eq_true_iff]
  omega

/-! ## One call of `ieee80211_node_psq_age` -/

theorem lowEncoded_tick : ∀ {l : List Frame} {k : Nat},
    LowEncoded (k + 1) l ↔ (∀ f ∈ l, ¬f.Due) ∧ LowEncoded k (l.map Frame.tick)
  | [], _ => by simp [LowEncoded]
  | f :: l, k => by
    have ih := lowEncoded_tick (l := l) (k := k + f.age / INACT_WAIT)
    simp only [LowEncoded, List.map_cons, List.forall_mem_cons, rounds_tick]
    rw [Nat.add_right_comm k 1, ih, due_iff]
    rw [show f.tick.age = f.age from rfl]
    generalize f.age / INACT_WAIT = a
    constructor
    · rintro ⟨hf, hl, hk⟩
      exact ⟨⟨by omega, hl⟩, by omega, hk⟩
    · rintro ⟨⟨hf, hl⟩, hr, hk⟩
      exact ⟨by omega, hl, hk⟩

/-- **The second queue**: the encoding is right when the call is and it is right afterwards. -/
theorem lowEncoded_age : ∀ {l : List Frame}, LowEncoded 0 l ↔
    (∀ f ∈ l.takeWhile Frame.old, f.Due) ∧ (∀ f ∈ l.dropWhile Frame.old, ¬f.Due) ∧
      LowEncoded 0 (ageSub ((l.dropWhile Frame.old).map Frame.tick))
  | [] => by simp [LowEncoded, ageSub]
  | f :: l => by
    cases hf : f.old with
    | true =>
      rw [List.takeWhile_cons_of_pos hf, List.dropWhile_cons_of_pos hf, List.forall_mem_cons, and_assoc,
        ← lowEncoded_age (l := l), due_iff]
      simp only [LowEncoded, old_iff.mp hf, Nat.add_zero]
    | false =>
      have hn : ¬f.old = true := by simp [hf]
      rw [List.takeWhile_cons_of_neg hn, List.dropWhile_cons_of_neg hn]
      have hpos : f.age / INACT_WAIT ≠ 0 := fun h => hn (old_iff.mpr h)
      obtain ⟨j, hj⟩ := Nat.exists_eq_succ_of_ne_zero hpos
      have hsub : (f.age - INACT_WAIT) / INACT_WAIT = j := by
        unfold INACT_WAIT at hj ⊢
        omega
      simp only [LowEncoded, List.map_cons, ageSub, List.forall_mem_cons, List.not_mem_nil, false_implies, implies_true,
        true_and, Nat.zero_add]
      have hr : ({ f.tick with age := f.tick.age - INACT_WAIT } : Frame).rounds = f.rounds - 1 := rounds_tick f
      rw [hr, show f.tick.age = f.age from rfl, hsub, hj, due_iff, lowEncoded_tick]
      constructor
      · rintro ⟨h, hl, hk⟩
        exact ⟨⟨by omega, hl⟩, by omega, hk⟩
      · rintro ⟨⟨h, hl⟩, h', hk⟩
        exact ⟨by omega, hl, hk⟩

/-! ## All the calls that follow -/

theorem onTime_iff_age : OnTime q ↔ Exact q ∧ OnTime (ieee80211NodePsqAge q).2 := by
  constructor
  · intro h
    exact ⟨h 0, fun n => h (n + 1)⟩
  · rintro ⟨h₀, h⟩ n
    cases n with
    | zero => exact h₀
    | succ n => exact h n

theorem Encoded.exact (h : Encoded q) : Exact q ∧ Encoded (ieee80211NodePsqAge q).2 := by
  obtain ⟨htake, hdrop, hlow⟩ := lowEncoded_age.mp h.low
  have hhigh : q.high.dropWhile Frame.old = [] := List.dropWhile_eq_nil_iff.mpr fun f hf => (h.high f hf).1
  refine ⟨⟨?_, ?_⟩, ?_, hlow⟩
  · intro f hf
    obtain hf | hf := List.mem_append.mp hf
    · exact (h.high f ((List.takeWhile_sublist _).subset hf)).2
    · exact htake f hf
  · rw [hhigh]
    exact hdrop
  · unfold ieee80211NodePsqAge
    rw [hhigh]
    simp

theorem Encoded.onTime (h : Encoded q) : OnTime q := by
  intro n
  induction n generalizing q with
  | zero => exact h.exact.1
  | succ n ih => exact ih h.exact.2

/-- A frame at the head of the first queue that stays is never discarded. -/
theorem head_stays : ∀ (n : Nat) {q : Psq} {f : Frame} {l : List Frame}, q.high = f :: l → ¬f.old = true →
    f.rounds = n → ¬OnTime q
  | n, q, f, l, hq, hf, hn => by
    intro h
    obtain ⟨⟨-, hdrop⟩, h'⟩ := onTime_iff_age.mp h
    have hkept : q.high.dropWhile Frame.old = f :: l := by rw [hq, List.dropWhile_cons_of_neg hf]
    have hdue : ¬f.Due := hdrop f (by rw [hkept]; exact List.mem_append_left _ List.mem_cons_self)
    rw [due_iff] at hdue
    have hhigh : (ieee80211NodePsqAge q).2.high = f.tick :: l.map Frame.tick := by
      unfold ieee80211NodePsqAge
      rw [hkept]
      rfl
    cases n with
    | zero => exact hdue hn
    | succ n => exact head_stays n hhigh hf (by rw [rounds_tick]; omega) h'

def weight (l : List Frame) : Nat := l.length + (l.map Frame.age).sum

theorem weight_age : ∀ {l : List Frame}, l ≠ [] → weight (ageSub ((l.dropWhile Frame.old).map Frame.tick)) < weight l
  | [], h => absurd rfl h
  | f :: l, _ => by
    cases hf : f.old with
    | true =>
      rw [List.dropWhile_cons_of_pos hf]
      by_cases hl : l = []
      · subst hl
        simp [weight, ageSub]
      · have := weight_age hl
        simp only [weight, List.length_cons, List.map_cons, List.sum_cons] at this ⊢
        omega
    | false =>
      have hn : ¬f.old = true := by simp [hf]
      have hsame : (l.map Frame.tick).map Frame.age = l.map Frame.age := by
        rw [List.map_map]
        rfl
      rw [List.dropWhile_cons_of_neg hn]
      simp only [weight, List.map_cons, ageSub, List.length_cons, List.length_map, List.sum_cons, hsame]
      unfold Frame.old INACT_WAIT at hn
      rw [decide_eq_true_iff] at hn
      unfold Frame.tick INACT_WAIT
      dsimp only
      omega

theorem OnTime.lowEncoded : ∀ (n : Nat) {q : Psq}, weight q.low = n → OnTime q → LowEncoded 0 q.low := by
  intro n
  induction n using Nat.strong_induction_on with
  | _ n ih =>
    intro q hn h
    obtain ⟨⟨htake, hdrop⟩, h'⟩ := onTime_iff_age.mp h
    by_cases hl : q.low = []
    · rw [hl]
      trivial
    · have hw : weight (ieee80211NodePsqAge q).2.low < n := hn ▸ weight_age hl
      exact lowEncoded_age.mpr ⟨fun f hf => htake f (List.mem_append_right _ hf),
        fun f hf => hdrop f (List.mem_append_right _ hf), ih _ hw rfl h'⟩

/-- **Frames are discarded when they are due** exactly when the stored ages say so. -/
theorem onTime_iff : OnTime q ↔ Encoded q := by
  refine ⟨fun h => ⟨?_, h.lowEncoded _ rfl⟩, Encoded.onTime⟩
  obtain ⟨⟨htake, -⟩, h'⟩ := onTime_iff_age.mp h
  have hdrop : q.high.dropWhile Frame.old = [] := by
    cases hd : q.high.dropWhile Frame.old with
    | nil => rfl
    | cons f l =>
      have hf : ¬f.old = true := by
        have := List.head_dropWhile_not Frame.old (l := q.high) (by rw [hd]; exact List.cons_ne_nil f l)
        simpa [hd] using this
      have hhigh : (ieee80211NodePsqAge q).2.high = f.tick :: l.map Frame.tick := by
        unfold ieee80211NodePsqAge
        rw [hd]
        rfl
      exact absurd h' (head_stays _ hhigh hf rfl)
  have hall : ∀ f ∈ q.high, f.old = true := List.dropWhile_eq_nil_iff.mp hdrop
  intro f hf
  refine ⟨hall f hf, htake f (List.mem_append_left _ ?_)⟩
  rw [List.takeWhile_eq_self_iff.mpr hall]
  exact hf

/-! ## The other calls -/

theorem lowEncoded_append : ∀ {l : List Frame} {k : Nat}, LowEncoded k (l ++ [f]) ↔
    LowEncoded k l ∧ f.rounds = k + held l + f.age / INACT_WAIT
  | [], k => by simp [LowEncoded, held]
  | g :: l, k => by
    simp only [List.cons_append, LowEncoded, lowEncoded_append (l := l), held, List.map_cons, List.sum_cons, and_assoc,
      Nat.add_assoc]

theorem lowEncoded_lower {age : Int} (h : LowEncoded 0 l) : LowEncoded 0 (lower age l) ↔
    ∀ f ∈ l.head?, (f.age - age).toNat / INACT_WAIT = f.age / INACT_WAIT := by
  cases l with
  | nil => simp [lower, LowEncoded]
  | cons f l =>
    obtain ⟨hf, hl⟩ := h
    have hr : ({ f with age := (f.age - age).toNat } : Frame).rounds = f.rounds := rfl
    simp only [lower, LowEncoded, List.head?_cons, Option.mem_some_iff, forall_eq', hr, hf, Nat.zero_add] at hl ⊢
    constructor
    · rintro ⟨h, -⟩
      exact h.symm
    · intro h
      exact ⟨h.symm, h ▸ hl⟩

theorem rounds_new {age saved : Int} : ({ age := age.toNat, saved := saved, calls := 0 } : Frame).rounds =
    saved.toNat / INACT_WAIT := by
  simp [Frame.rounds]

theorem insert_high {q : Psq} {saved age : Int} : (∃ q', q.insert true saved age = some q' ∧ Encoded q') ↔
    Encoded q ∧ 0 ≤ age ∧ age < INACT_WAIT ∧ saved < INACT_WAIT := by
  unfold Psq.insert
  by_cases ha : 0 ≤ age
  · rw [if_pos ha]
    simp only [if_true, Option.some.injEq, exists_eq_left']
    have hnew : ∀ g : Frame, g = { age := age.toNat, saved := saved, calls := 0 } →
        ((g.old = true ∧ g.Due) ↔ age < INACT_WAIT ∧ saved < INACT_WAIT) := by
      rintro g rfl
      unfold Frame.old Frame.Due INACT_WAIT
      rw [decide_eq_true_iff]
      dsimp only
      omega
    constructor
    · rintro ⟨hh, hl⟩
      have hlast := (hnew _ rfl).mp (hh _ (List.mem_append_right _ List.mem_cons_self))
      exact ⟨⟨fun f hf => hh f (List.mem_append_left _ hf), hl⟩, ha, hlast⟩
    · rintro ⟨⟨hh, hl⟩, -, hlast⟩
      refine ⟨?_, hl⟩
      intro f hf
      obtain hf | hf := List.mem_append.mp hf
      · exact hh f hf
      · exact (hnew f (List.mem_singleton.mp hf)).mpr hlast
  · rw [if_neg ha]
    simp [ha]

theorem insert_low {saved age : Int} (h : Encoded q) : (∃ q', q.insert false saved age = some q' ∧ Encoded q') ↔
    0 ≤ age ∧ saved.toNat / INACT_WAIT = held q.low + age.toNat / INACT_WAIT := by
  unfold Psq.insert
  by_cases ha : 0 ≤ age
  · rw [if_pos ha]
    simp only [Bool.false_eq_true, if_false, Option.some.injEq, exists_eq_left', ha, true_and]
    constructor
    · intro h'
      have := (lowEncoded_append.mp h'.low).2
      rwa [rounds_new, Nat.zero_add] at this
    · intro heq
      exact ⟨h.high, lowEncoded_append.mpr ⟨h.low, by rw [rounds_new, Nat.zero_add, heq]⟩⟩
  · rw [if_neg ha]
    simp [ha]

/-- **`ieee80211_pwrsave`** of an encapsulated frame. -/
theorem save_high {intval bintval : BitVec 16} (h : Encoded q) :
    (∃ q', ieee80211Pwrsave q true intval bintval = some q' ∧ Encoded q') ↔ Fits q (.save true intval bintval) := by
  unfold ieee80211Pwrsave Fits
  by_cases hfull : q.full
  · rw [if_pos hfull]
    simp [hfull, h]
  · rw [if_neg hfull]
    simp only [hfull, false_or]
    cases hhigh : q.high with
    | nil =>
      dsimp only
      rw [insert_high]
      constructor
      · rintro ⟨h', h0, h1, -⟩
        exact ⟨h0, h1, (lowEncoded_lower h.low).mp h'.low⟩
      · rintro ⟨h0, h1, h'⟩
        exact ⟨⟨by simp, (lowEncoded_lower h.low).mpr h'⟩, h0, h1, h1⟩
    | cons mh r =>
      dsimp only
      rw [insert_high]
      constructor
      · rintro ⟨-, h0, h1, h2⟩
        exact ⟨by omega, h2, by omega⟩
      · rintro ⟨h0, h1, h2⟩
        exact ⟨h, by omega, by omega, h1⟩

/-- **`ieee80211_pwrsave`** of another frame. -/
theorem save_low {intval bintval : BitVec 16} (h : Encoded q) :
    (∃ q', ieee80211Pwrsave q false intval bintval = some q' ∧ Encoded q') ↔ Fits q (.save false intval bintval) := by
  unfold ieee80211Pwrsave Fits
  by_cases hfull : q.full
  · rw [if_pos hfull]
    simp [hfull, h]
  · rw [if_neg hfull]
    simp only [hfull, false_or, exists_eq_left]
    cases hlow : q.low with
    | nil =>
      cases hhigh : q.high with
      | nil =>
        dsimp only
        rw [insert_low h, hlow]
        simp
      | cons mh r =>
        dsimp only
        rw [insert_low h, hlow, Int.sub_nonneg]
    | cons mh r =>
      cases hhigh : q.high <;>
      · dsimp only
        rw [insert_low h, hlow, Int.sub_nonneg]

/-- **`ieee80211_node_psq_dequeue`**: the others lose what the head of the second queue holds. -/
theorem dequeue_encoded (h : Encoded q) : Encoded (ieee80211NodePsqDequeue q) ↔ Fits q .dequeue := by
  unfold ieee80211NodePsqDequeue Fits
  cases hhigh : q.high with
  | cons f r =>
    have hr : Encoded { q with high := r } := ⟨fun g hg => h.high g (hhigh ▸ List.mem_cons_of_mem f hg), h.low⟩
    simp [hr]
  | nil =>
    have hlow := h.low
    simp only [ne_eq, not_true, false_or]
    have hq : ∀ r, Encoded { high := [], low := r } ↔ LowEncoded 0 r := fun r => ⟨Encoded.low, fun hr => ⟨by simp, hr⟩⟩
    rw [hq]
    cases hl : q.low with
    | nil => simp [LowEncoded]
    | cons f r =>
      rw [hl] at hlow
      simp only [List.tail_cons, List.length_cons, List.head?_cons, Option.mem_some_iff, forall_eq', old_iff]
      obtain ⟨-, hr⟩ := hlow
      rw [Nat.zero_add] at hr
      constructor
      · intro hr'
        cases r with
        | nil => exact .inl (by simp)
        | cons g r =>
          have h1 := hr.1
          have h2 := hr'.1
          exact .inr (by omega)
      · rintro (h1 | h1)
        · rw [List.length_eq_zero_iff.mp (Nat.le_zero.mp (Nat.le_of_succ_le_succ h1))]
          trivial
        · exact h1 ▸ hr

/-- **One call.** -/
theorem step_encoded (h : Encoded q) (op : Op) : (∃ q', next q op = some q' ∧ Encoded q') ↔ Fits q op := by
  cases op with
  | save encap intval bintval =>
    cases encap with
    | true => exact save_high h
    | false => exact save_low h
  | dequeue =>
    rw [← dequeue_encoded h]
    simp [next]
  | age => simp [next, Fits, h.exact.2]

theorem runOnTime_iff : ∀ {ops : List Op} {q : Psq}, Encoded q → (RunOnTime q ops ↔ RunFits q ops)
  | [], q, h => by simp [RunOnTime, RunFits, h.onTime]
  | op :: ops, q, h => by
    have hstep := step_encoded h op
    have hhead : ∀ {q' : Psq}, RunOnTime q' ops → Encoded q' := by
      intro q' hr
      cases ops with
      | nil => exact onTime_iff.mp hr
      | cons op' ops' => exact onTime_iff.mp hr.1
    simp only [RunOnTime, RunFits, h.onTime, true_and]
    constructor
    · rintro ⟨q', hq', hr⟩
      refine ⟨hstep.mp ⟨q', hq', hhead hr⟩, ?_⟩
      intro q'' hq''
      rw [hq'] at hq''
      exact Option.some.inj hq'' ▸ (runOnTime_iff (hhead hr)).mp hr
    · rintro ⟨hfit, hr⟩
      obtain ⟨q', hq', he⟩ := hstep.mpr hfit
      exact ⟨q', hq', (runOnTime_iff he).mpr (hr q' hq')⟩

theorem init_encoded : Encoded init := ⟨by simp [init], trivial⟩

/-- **Over every run frames are discarded when they are due, and no `KASSERT` fails**, exactly when every call meets
    the condition. -/
theorem run_onTime_iff (ops : List Op) : RunOnTime init ops ↔ RunFits init ops := runOnTime_iff init_encoded

/-- An encapsulated frame of 20 seconds, alone on the queue, stays there. -/
theorem encapsulated_frame_stays : saveAge 50 100 = 20 ∧ ¬RunOnTime init [.save true 50 100] := by
  have hage : saveAge 50 100 = 20 := by decide +kernel
  refine ⟨hage, ?_⟩
  rw [runOnTime_iff init_encoded]
  rintro ⟨hfull | ⟨-, hlt, -⟩, -⟩
  · exact absurd hfull (by decide)
  · rw [hage] at hlt
    exact absurd hlt (by decide)

end Net80211.Power
