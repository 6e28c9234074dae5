import Wifi.Iwlwifi.TxQueueOps

/-!
# Runs of a transmit queue

* `Sound` — every frame is in one place, the frames go to the ring in order, and a reclaim hands out the ring from its
  beginning.
* `MayCall` — no submission overtakes the overflow queue, and no submission from the overflow queue fails.
* `Kept`, `kept_step` — what every such call keeps.
* `runs_sound` — the queue is sound in every run of such calls.
-/

namespace Iwlwifi.TxQueue

open TxRing

variable {cfg : Config} {q q' : Queue} {l : List Nat} {s s' : State} {op : Op}

/-! ## What is kept -/

/-- What a reclaim hands out: nothing, or the frames from `read_ptr` up to `ssn`; a flush adds the overflow queue. -/
def HandsOut (cfg : Config) (q : Queue) (ssn : Nat) (isFlush : Bool) (q' : Queue) (skbs : List Nat) : Prop :=
  (q' = q ∧ skbs = []) ∨
    ∃ k, 0 < k ∧ k ≤ (q.onRing cfg).length ∧ (q.ring.readPtr + k) % q.ring.nWindow = ssn % q.ring.nWindow ∧
      (skbs = (q.onRing cfg).take k ∨ isFlush = true ∧ skbs = (q.onRing cfg).take k ++ q.overflowQ)

/-- A submission does not overtake the overflow queue, and none from the overflow queue fails. -/
def MayCall (cfg : Config) (s : State) : Op → Prop
  | .tx a => s.q.overflowQ = [] ∨ s.q.noRoom cfg = true ∨ ¬ a.Ok
  | .reclaim _ isFlush attempts => isFlush = true ∨ ∀ j, j < s.q.overflowQ.length → (attempts j).Ok
  | .unmap => True

/-- **Soundness** of a state. -/
structure Sound (cfg : Config) (s : State) : Prop where
  /-- every accepted frame is in one place -/
  places : (s.q.onRing cfg ++ s.q.overflowQ ++ s.handed ++ s.freed).Perm s.accepted
  once : s.accepted.Nodup
  /-- the frames were put on the ring in the order of their submission, and are there in that order -/
  order : s.q.sent.Pairwise (· < ·)
  ring : s.q.onRing cfg <:+ s.q.sent
  reclaims : ∀ ssn isFlush attempts, MayCall cfg s (.reclaim ssn isFlush attempts) →
    ∃ q' skbs, Returns (fun fuel => iwlTxqReclaim cfg fuel s.q ssn isFlush attempts) (q', skbs, []) ∧
      HandsOut cfg s.q ssn isFlush q' skbs
  unmaps : ∃ q', Returns (fun fuel => iwlTxqUnmap cfg fuel s.q) (q', s.q.onRing cfg ++ s.q.overflowQ)
  awake : s.q.onRing cfg = [] → s.q.overflowQ = [] → s.q.queueStopped = false

/-- The invariant: `l` is on the ring. -/
structure Kept (cfg : Config) (s : State) (l : List Nat) : Prop where
  good : Good cfg s.q l
  places : (l ++ s.q.overflowQ ++ s.handed ++ s.freed).Perm s.accepted
  accepted : s.accepted.Pairwise (· < ·)
  old : ∀ x ∈ s.accepted, x < s.count
  order : (s.q.sent ++ s.q.overflowQ).Pairwise (· < ·)
  sentOld : ∀ x ∈ s.q.sent ++ s.q.overflowQ, x < s.count
  ring : l <:+ s.q.sent

/-! ## Results -/

theorem Returns.unique {α : Type} {f : Nat → Option α} {x y : α} (hx : Returns f x) (hy : Returns f y) : x = y := by
  obtain ⟨n, hx⟩ := hx
  obtain ⟨m, hy⟩ := hy
  have hboth := (hx (max n m) (Nat.le_max_left n m)).symm.trans (hy (max n m) (Nat.le_max_right n m))
  exact Option.some.inj hboth

/-- A frame is put on the ring only by an attempt with which nothing goes wrong. -/
theorem tx_placed {skb : Nat} {a : Attempt} (hroom : q.noRoom cfg = false) (hret : (iwlTransTx cfg q skb a).1 = 0) :
    a.Ok := by
  unfold iwlTransTx at hret
  by_cases h1 : a.fwError = true
  · rw [if_pos h1] at hret
    exact absurd hret (by simp)
  rw [if_neg h1] at hret
  by_cases h2 : q.queueUsed = false
  · rw [if_pos h2] at hret
    exact absurd hret (by simp)
  rw [if_neg h2] at hret
  by_cases h3 : a.linearizeFails = true
  · rw [if_pos h3] at hret
    exact absurd hret (by simp)
  rw [if_neg h3, if_neg (by rw [hroom]; exact Bool.false_ne_true)] at hret
  by_cases h4 : a.mapFails = true
  · simp [h4] at hret
  · exact ⟨Bool.eq_false_of_not_eq_true h1, Bool.eq_false_of_not_eq_true h3, Bool.eq_false_of_not_eq_true h4⟩

structure Reclaims (cfg : Config) (q : Queue) (l : List Nat) (ssn : Nat) (isFlush : Bool) (q' : Queue)
    (skbs l' : List Nat) : Prop where
  good : Good cfg q' l'
  frames : (l' ++ q'.overflowQ ++ skbs).Perm (l ++ q.overflowQ)
  sent : q'.sent ++ q'.overflowQ <+: q.sent ++ q.overflowQ
  ring : l <:+ q.sent → l' <:+ q'.sent
  out : HandsOut cfg q ssn isFlush q' skbs

theorem reclaim_result (h : Good cfg q l) (ssn : Nat) (isFlush : Bool) (attempts : Nat → Attempt)
    (hok : isFlush = true ∨ ∀ j, j < q.overflowQ.length → (attempts j).Ok) :
    ∃ q' skbs l', Returns (fun fuel => iwlTxqReclaim cfg fuel q ssn isFlush attempts) (q', skbs, []) ∧
      Reclaims cfg q l ssn isFlush q' skbs l' := by
  obtain hnothing | ⟨hused, k, q₁, hreclaimed⟩ := reclaim_spec h ssn isFlush attempts
  · refine ⟨q, [], l, ⟨0, fun fuel _ => hnothing fuel⟩, h, ?_, List.prefix_rfl, id, .inl ⟨rfl, rfl⟩⟩
    rw [List.append_nil]
  · have hrest := hreclaimed.rest
    rw [← hrest.overflowQ] at hok
    obtain ⟨l', hdrained⟩ := drain_spec hreclaimed.laid (hrest.queueUsed.trans hused) isFlush hok
    have hframes := hdrained.frames
    have hsent := hdrained.sent
    have hout := hdrained.out
    rw [hrest.overflowQ] at hframes hsent hout
    rw [hrest.sent] at hsent
    refine ⟨_, _, l', ⟨q.ring.nWindow, hreclaimed.eq⟩, hdrained.good, ?_, ⟨_, hsent⟩, ?_, ?_⟩
    · have hmove := List.perm_append_comm_assoc (l' ++ (drainOverflow cfg q₁ isFlush attempts).1.overflowQ) (l.take k)
        (drainOverflow cfg q₁ isFlush attempts).2
      rw [hframes, ← List.append_assoc (l.take k), List.take_append_drop] at hmove
      exact hmove
    · rintro ⟨pre, hpre⟩
      -- the frames before the ring are those before it, and those that are handed out
      refine ⟨pre ++ l.take k, ?_⟩
      have hall : pre ++ l.take k ++ l' ++ ((drainOverflow cfg q₁ isFlush attempts).1.overflowQ ++
          (drainOverflow cfg q₁ isFlush attempts).2) =
          (drainOverflow cfg q₁ isFlush attempts).1.sent ++ ((drainOverflow cfg q₁ isFlush attempts).1.overflowQ ++
          (drainOverflow cfg q₁ isFlush attempts).2) := by
        rw [← List.append_assoc (drainOverflow cfg q₁ isFlush attempts).1.sent, hsent, ← hpre, List.append_assoc,
          ← List.append_assoc l', hframes, List.append_assoc, ← List.append_assoc (l.take k), List.take_append_drop,
          List.append_assoc]
      exact List.append_cancel_right hall
    · right
      rw [h.onRing.eq]
      refine ⟨k, hreclaimed.some_frame, hreclaimed.inside, hreclaimed.upTo, ?_⟩
      by_cases hflush : q₁.drains cfg ∧ isFlush = true
      · rw [if_pos hflush] at hout
        exact .inr ⟨hflush.2, by rw [hout]⟩
      · rw [if_neg hflush] at hout
        exact .inl (by rw [hout, List.append_nil])

/-! ## Steps -/

theorem kept_initial (h : Initial cfg s) : Kept cfg s [] := by
  obtain ⟨hsizes, hread, hwrite, hlow, hhigh, hoverflow, hstopped, hsent, -, haccepted, hhanded, hfreed⟩ := h
  have hcapacity := capacity_ge hsizes
  refine ⟨⟨⟨hsizes, ?_, ?_, ?_, fun j x hj => nomatch hj⟩, hlow, hhigh, fun h => ?_⟩, ?_, ?_, ?_, ?_, ?_, ?_⟩
  · have hinside := hsizes.inside
    have hleast := hsizes.least
    omega
  · rw [hwrite, hread, List.length_nil, Nat.zero_add, Nat.zero_mod]
  · rw [List.length_nil]
    omega
  · rw [hstopped] at h
    cases h
  · rw [hoverflow, hhanded, hfreed, haccepted]
    exact List.Perm.refl []
  · rw [haccepted]
    exact List.Pairwise.nil
  · rw [haccepted]
    intro x hx
    cases hx
  · rw [hsent, hoverflow]
    exact List.Pairwise.nil
  · rw [hsent, hoverflow]
    intro x hx
    cases hx
  · exact List.nil_suffix

theorem pairwise_snoc {xs : List Nat} {n : Nat} (h : xs.Pairwise (· < ·)) (hold : ∀ x ∈ xs, x < n) :
    (xs ++ [n]).Pairwise (· < ·) :=
  List.pairwise_append.mpr ⟨h, List.pairwise_singleton _ _, fun x hx _ hy => List.mem_singleton.mp hy ▸ hold x hx⟩

theorem old_snoc {xs : List Nat} {n : Nat} (hold : ∀ x ∈ xs, x < n) : ∀ x ∈ xs ++ [n], x < n + 1 := by
  intro x hx
  obtain hx | hx := List.mem_append.mp hx
  · exact Nat.lt_succ_of_lt (hold x hx)
  · exact List.mem_singleton.mp hx ▸ Nat.lt_succ_self n

/-- **A submission** keeps the invariant. -/
theorem kept_tx {ret : Int} {a : Attempt} (h : Kept cfg s l) (hmay : MayCall cfg s (.tx a))
    (htx : iwlTransTx cfg s.q s.count a = (ret, q')) :
    ∃ l', Kept cfg { s with
      q := q'
      count := s.count + 1
      accepted := if ret = 0 then s.accepted ++ [s.count] else s.accepted } l' := by
  have houtcome := tx_spec h.good s.count a
  rw [htx] at houtcome
  cases houtcome with
  | failed hret hgood hoverflow hsent =>
    refine ⟨l, hgood, ?_, ?_, ?_, ?_, ?_, ?_⟩
    · rw [if_neg hret, hoverflow]
      exact h.places
    · rw [if_neg hret]
      exact h.accepted
    · rw [if_neg hret]
      exact fun x hx => Nat.lt_succ_of_lt (h.old x hx)
    · rw [hsent, hoverflow]
      exact h.order
    · rw [hsent, hoverflow]
      exact fun x hx => Nat.lt_succ_of_lt (h.sentOld x hx)
    · rw [hsent]
      exact h.ring
  | overflow hroom hroom' hgood hoverflow hsent =>
    refine ⟨l, hgood, ?_, ?_, ?_, ?_, ?_, ?_⟩
    · rw [if_pos rfl, hoverflow]
      have hmove : (l ++ (s.q.overflowQ ++ [s.count]) ++ s.handed ++ s.freed).Perm
          (l ++ s.q.overflowQ ++ s.handed ++ s.freed ++ [s.count]) := by
        simp only [List.append_assoc, List.perm_append_left_iff]
        exact List.perm_append_comm.trans (by rw [List.append_assoc])
      exact hmove.trans (h.places.append_right _)
    · rw [if_pos rfl]
      exact pairwise_snoc h.accepted h.old
    · rw [if_pos rfl]
      exact old_snoc h.old
    · rw [hsent, hoverflow, ← List.append_assoc]
      exact pairwise_snoc h.order h.sentOld
    · rw [hsent, hoverflow, ← List.append_assoc]
      exact old_snoc h.sentOld
    · rw [hsent]
      exact h.ring
  | placed hroom hgood hoverflow hsent =>
    have hOk : a.Ok := tx_placed hroom (by rw [htx])
    -- nothing waits in the overflow queue
    have hempty : s.q.overflowQ = [] := hmay.resolve_right fun hr => hr.elim (fun hn => by simp [hn] at hroom) (· hOk)
    have hplaces := h.places
    have horder := h.order
    have hsentOld := h.sentOld
    rw [hempty, List.append_nil] at hplaces horder hsentOld
    refine ⟨l ++ [s.count], hgood, ?_, ?_, ?_, ?_, ?_, ?_⟩
    · rw [if_pos rfl, hoverflow, hempty, List.append_nil]
      have hmove : (l ++ [s.count] ++ s.handed ++ s.freed).Perm (l ++ s.handed ++ s.freed ++ [s.count]) := by
        simp only [List.append_assoc, List.perm_append_left_iff]
        exact List.perm_append_comm.trans (by rw [List.append_assoc])
      exact hmove.trans (hplaces.append_right _)
    · rw [if_pos rfl]
      exact pairwise_snoc h.accepted h.old
    · rw [if_pos rfl]
      exact old_snoc h.old
    · rw [hsent, hoverflow, hempty, List.append_nil]
      exact pairwise_snoc horder hsentOld
    · rw [hsent, hoverflow, hempty, List.append_nil]
      exact old_snoc hsentOld
    · rw [hsent]
      exact (List.suffix_append_inj_of_length_eq rfl).mpr ⟨h.ring, rfl⟩

/-- **A reclaim** keeps the invariant. -/
theorem kept_reclaim {skbs l' : List Nat} {ssn : Nat} {isFlush : Bool} (h : Kept cfg s l)
    (hr : Reclaims cfg s.q l ssn isFlush q' skbs l') : Kept cfg { s with q := q', handed := s.handed ++ skbs } l' := by
  refine ⟨hr.good, ?_, h.accepted, h.old, h.order.sublist hr.sent.sublist,
    fun x hx => h.sentOld x (hr.sent.sublist.subset hx), hr.ring h.ring⟩
  have hmove : (l' ++ q'.overflowQ ++ (s.handed ++ skbs) ++ s.freed).Perm
      (l' ++ q'.overflowQ ++ skbs ++ s.handed ++ s.freed) := by
    simp only [List.append_assoc, List.perm_append_left_iff]
    rw [← List.append_assoc, ← List.append_assoc]
    exact List.perm_append_comm.append_right _
  exact (hmove.trans ((hr.frames.append_right _).append_right _)).trans h.places

/-- **An unmap** keeps the invariant. -/
theorem kept_unmap (h : Kept cfg s l) (hgood : Good cfg q' []) (hoverflow : q'.overflowQ = []) (hsent : q'.sent = s.q.sent) :
    Kept cfg { s with q := q', freed := s.freed ++ (l ++ s.q.overflowQ) } [] := by
  have hsub : (q'.sent ++ q'.overflowQ).Sublist (s.q.sent ++ s.q.overflowQ) := by
    rw [hsent, hoverflow, List.append_nil]
    exact List.sublist_append_left _ _
  refine ⟨hgood, ?_, h.accepted, h.old, h.order.sublist hsub, fun x hx => h.sentOld x (hsub.subset hx), List.nil_suffix⟩
  rw [hoverflow, List.nil_append, List.nil_append, ← List.append_assoc]
  have hmove : (s.handed ++ s.freed ++ (l ++ s.q.overflowQ)).Perm (l ++ s.q.overflowQ ++ (s.handed ++ s.freed)) :=
    List.perm_append_comm
  rw [← List.append_assoc (l ++ s.q.overflowQ)] at hmove
  exact hmove.trans h.places

theorem kept_step (h : Kept cfg s l) (hmay : MayCall cfg s op) (hstep : Step cfg s op s') : ∃ l', Kept cfg s' l' := by
  cases hstep with
  | tx htx => exact kept_tx h hmay htx
  | @reclaim ssn isFlush attempts q' skbs freed hret =>
    obtain ⟨q₁, skbs₁, l', hret₁, hr⟩ := reclaim_result h.good ssn isFlush attempts hmay
    obtain ⟨rfl, rfl, rfl⟩ : q₁ = q' ∧ skbs₁ = skbs ∧ [] = freed := by
      have heq := hret₁.unique hret
      simpa using heq
    refine ⟨l', ?_⟩
    rw [List.append_nil]
    exact kept_reclaim h hr
  | @unmap q' freed hret =>
    obtain ⟨q₁, hgood, hoverflow, -, hsent, heq⟩ := unmap_spec h.good
    obtain ⟨rfl, rfl⟩ : q₁ = q' ∧ l ++ s.q.overflowQ = freed := by
      have hsame := Returns.unique ⟨_, heq⟩ hret
      simpa using hsame
    exact ⟨[], kept_unmap h hgood hoverflow hsent⟩

theorem Kept.sound (h : Kept cfg s l) : Sound cfg s := by
  have hring := h.good.onRing.eq
  refine ⟨?_, h.accepted.imp Nat.ne_of_lt, (List.pairwise_append.mp h.order).1, ?_, fun ssn isFlush attempts hmay => ?_, ?_,
    fun hempty _ => ?_⟩
  · rw [hring]
    exact h.places
  · rw [hring]
    exact h.ring
  · obtain ⟨q', skbs, l', hret, hr⟩ := reclaim_result h.good ssn isFlush attempts hmay
    exact ⟨q', skbs, hret, hr.out⟩
  · obtain ⟨q', -, -, -, -, heq⟩ := unmap_spec h.good
    rw [hring]
    exact ⟨q', _, heq⟩
  · rw [hring] at hempty
    have hspace := h.good.onRing.space
    have hcapacity := capacity_ge h.good.onRing.sizes
    have hlow := h.good.low
    rw [hempty, List.length_nil] at hspace
    by_contra hstopped
    have hle := h.good.stopped (Bool.eq_true_of_not_eq_false hstopped)
    omega

/-- **The queue is sound in every run**, as long as nothing overtakes the overflow queue and no submission from it fails. -/
theorem runs_sound (h : Runs.Reachable (Initial cfg) (Runs.Guarded (MayCall cfg) (Step cfg)) s) : Sound cfg s := by
  have hkept : ∃ l, Kept cfg s l := by
    have hinitial : ∀ s, Initial cfg s → ∃ l, Kept cfg s l := fun s hs => ⟨[], kept_initial hs⟩
    apply h.invariant hinitial
    rintro s op s' ⟨l, hl⟩ ⟨hmay, hstep⟩
    exact kept_step hl hmay hstep
  obtain ⟨l, hl⟩ := hkept
  exact hl.sound

/-! ## Calls that can be computed -/

theorem reclaimLoop_more {tfdNum : Nat} : ∀ {fuel : Nat} {q : Queue} {readPtr : Nat} {r : Queue × List Nat × List Nat},
    reclaimLoop cfg tfdNum fuel q readPtr = some r →
    ∀ {fuel' : Nat}, fuel ≤ fuel' → reclaimLoop cfg tfdNum fuel' q readPtr = some r := by
  intro fuel
  induction fuel with
  | zero => exact nofun
  | succ fuel ih =>
    intro q readPtr r h fuel' hle
    obtain ⟨fuel', rfl⟩ := Nat.exists_eq_succ_of_ne_zero (show fuel' ≠ 0 by omega)
    unfold reclaimLoop at h ⊢
    by_cases hdone : readPtr = tfdNum
    · rw [if_pos hdone] at h ⊢
      exact h
    rw [if_neg hdone] at h ⊢
    generalize reclaimOne cfg q readPtr = one at h ⊢
    obtain ⟨q₁, skbs, freed⟩ := one
    obtain ⟨⟨q₂, skbs', freed'⟩, hloop, hr⟩ := Option.bind_eq_some_iff.mp h
    exact Option.bind_eq_some_iff.mpr ⟨_, ih hloop (by omega), hr⟩

theorem reclaim_more {fuel fuel' ssn : Nat} {isFlush : Bool} {attempts : Nat → Attempt} {r : Queue × List Nat × List Nat}
    (h : iwlTxqReclaim cfg fuel q ssn isFlush attempts = some r) (hle : fuel ≤ fuel') :
    iwlTxqReclaim cfg fuel' q ssn isFlush attempts = some r := by
  unfold iwlTxqReclaim at h ⊢
  extract_lets tfdNum readPtr at h
  extract_lets
  by_cases hunused : q.queueUsed = false
  · rw [if_pos hunused] at h ⊢
    exact h
  rw [if_neg hunused] at h ⊢
  by_cases hsame : readPtr = tfdNum
  · rw [if_pos hsame] at h ⊢
    exact h
  rw [if_neg hsame] at h ⊢
  by_cases hout : iwlTxqUsed q.ring ((tfdNum + 2 ^ 32 - 1) % 2 ^ 32 &&& (cfg.maxTfdQueueSize - 1)) = false
  · rw [if_pos hout] at h ⊢
    exact h
  rw [if_neg hout] at h ⊢
  obtain ⟨r₁, hloop, hr⟩ := Option.bind_eq_some_iff.mp h
  exact Option.bind_eq_some_iff.mpr ⟨r₁, reclaimLoop_more hloop hle, hr⟩

theorem unmapLoop_more : ∀ {fuel : Nat} {q : Queue} {r : Queue × List Nat}, unmapLoop cfg fuel q = some r →
    ∀ {fuel' : Nat}, fuel ≤ fuel' → unmapLoop cfg fuel' q = some r := by
  intro fuel
  induction fuel with
  | zero => exact nofun
  | succ fuel ih =>
    intro q r h fuel' hle
    obtain ⟨fuel', rfl⟩ := Nat.exists_eq_succ_of_ne_zero (show fuel' ≠ 0 by omega)
    unfold unmapLoop at h ⊢
    by_cases hdone : q.ring.writePtr = q.ring.readPtr
    · rw [if_pos hdone] at h ⊢
      exact h
    rw [if_neg hdone] at h ⊢
    by_cases hnone : cfg.gen2 = false ∧ q.entries q.ring.readPtr = none
    · rw [if_pos hnone] at h ⊢
      exact ih h (by omega)
    rw [if_neg hnone] at h ⊢
    generalize iwlTxqFreeTfd q = one at h ⊢
    obtain ⟨q₁, freed⟩ := one
    obtain ⟨r₁, hloop, hr⟩ := Option.bind_eq_some_iff.mp h
    exact Option.bind_eq_some_iff.mpr ⟨r₁, ih hloop (by omega), hr⟩

theorem unmap_more {fuel fuel' : Nat} {r : Queue × List Nat} (h : iwlTxqUnmap cfg fuel q = some r) (hle : fuel ≤ fuel') :
    iwlTxqUnmap cfg fuel' q = some r := by
  unfold iwlTxqUnmap at h ⊢
  obtain ⟨r₁, hloop, hr⟩ := Option.bind_eq_some_iff.mp h
  exact Option.bind_eq_some_iff.mpr ⟨r₁, unmapLoop_more hloop hle, hr⟩

def perform (cfg : Config) (s : State) : Op → Option State
  | .tx a =>
    let r := iwlTransTx cfg s.q s.count a
    some { s with
      q := r.2
      count := s.count + 1
      accepted := if r.1 = 0 then s.accepted ++ [s.count] else s.accepted }
  | .reclaim ssn isFlush attempts =>
    (iwlTxqReclaim cfg s.q.ring.nWindow s.q ssn isFlush attempts).map fun (q, skbs, freed) =>
      { s with q := q, handed := s.handed ++ skbs, freed := s.freed ++ freed }
  | .unmap =>
    (iwlTxqUnmap cfg s.q.ring.nWindow s.q).map fun (q, freed) => { s with q := q, freed := s.freed ++ freed }

theorem perform_step (h : perform cfg s op = some s') : Step cfg s op s' := by
  cases op with
  | tx a =>
    cases Option.some.inj h
    exact .tx rfl
  | reclaim ssn isFlush attempts =>
    obtain ⟨⟨q, skbs, freed⟩, hreclaim, hs'⟩ := Option.map_eq_some_iff.mp h
    cases hs'
    exact .reclaim ⟨_, fun fuel hle => reclaim_more hreclaim hle⟩
  | unmap =>
    obtain ⟨⟨q, freed⟩, hunmap, hs'⟩ := Option.map_eq_some_iff.mp h
    cases hs'
    exact .unmap ⟨_, fun fuel hle => unmap_more hunmap hle⟩

instance (a : Attempt) : Decidable a.Ok := inferInstanceAs (Decidable (_ ∧ _ ∧ _))

instance (s : State) : ∀ op, Decidable (MayCall cfg s op)
  | .tx _ => inferInstanceAs (Decidable (_ ∨ _ ∨ _))
  | .reclaim _ _ _ => inferInstanceAs (Decidable (_ ∨ _))
  | .unmap => .isTrue trivial

def fresh : State where
  q := {
    ring := { nWindow := 16, readPtr := 0, writePtr := 0 }
    entries := fun _ => none
    lowMark := 4
    highMark := 2
    overflowQ := []
    overflowTx := false
    queueStopped := false
    queueUsed := true
    sent := [] }
  count := 0
  accepted := []
  handed := []
  freed := []

def ax210 : Config := { maxTfdQueueSize := 256, gen2 := true }

def fine : Attempt := { fwError := false, linearizeFails := false, mapFails := false }

theorem fresh_initial : Initial ax210 fresh :=
  ⟨⟨⟨4, rfl⟩, ⟨8, by decide, rfl⟩, by decide, by decide, nofun⟩, rfl, rfl, rfl, rfl, rfl, rfl, rfl, rfl, rfl, rfl,
    rfl⟩

/-- 16 submissions: the last frame goes to the overflow queue. -/
def filling : List Op := List.replicate 16 (.tx fine)

theorem perform_reachable {β : Type} (ops : List Op) (f : State → β) {x : β}
    (h : (Runs.exec (perform ax210) ops fresh).map f = some x) :
    ∃ s, Runs.Reachable (Initial ax210) (Step ax210) s ∧ f s = x := by
  have hstep : ∀ op ∈ ops, ∀ s s', perform ax210 s op = some s' → Step ax210 s op s' := fun _ _ _ _ hs => perform_step hs
  exact Runs.exec_observe fresh_initial ops hstep f h

def performMay (cfg : Config) (s : State) (op : Op) : Option State :=
  if MayCall cfg s op then perform cfg s op else none

theorem performMay_step (h : performMay cfg s op = some s') : Runs.Guarded (MayCall cfg) (Step cfg) s op s' := by
  unfold performMay at h
  by_cases hmay : MayCall cfg s op
  · rw [if_pos hmay] at h
    exact ⟨hmay, perform_step h⟩
  · rw [if_neg hmay] at h
    cases h

theorem performMay_reachable {β : Type} (ops : List Op) (f : State → β) {x : β}
    (h : (Runs.exec (performMay ax210) ops fresh).map f = some x) :
    ∃ s, Runs.Reachable (Initial ax210) (Runs.Guarded (MayCall ax210) (Step ax210)) s ∧ f s = x := by
  have hstep : ∀ op ∈ ops, ∀ s s', performMay ax210 s op = some s' →
      Runs.Guarded (MayCall ax210) (Step ax210) s op s' := fun _ _ _ _ hs => performMay_step hs
  exact Runs.exec_observe fresh_initial ops hstep f h

/-- A queue that is filled, flushed in part, and unmapped after some more submissions. -/
theorem runs_sound_filled :
    ∃ s, (s.handed, s.freed) = (List.range 8 ++ [15], [8, 9, 10, 11, 12, 13, 14] ++ List.range' 16 10) ∧
      Sound ax210 s := by
  obtain ⟨s, hr, hseen⟩ := performMay_reachable
    (filling ++ [.reclaim 8 true fun _ => fine] ++ List.replicate 10 (.tx fine) ++ [.unmap])
    (fun s => (s.handed, s.freed))
    (x := (List.range 8 ++ [15], [8, 9, 10, 11, 12, 13, 14] ++ List.range' 16 10)) (by decide +kernel)
  exact ⟨s, hseen, runs_sound hr⟩

/-- A flush hands out a frame that was never on the ring; a frame whose submission from the overflow queue fails is
    nowhere; and a later frame gets to the ring before one that waits in the overflow queue. -/
theorem overflow_queue_runs :
    (∃ s s', Runs.Reachable (Initial ax210) (Step ax210) s ∧ Step ax210 s (.reclaim 8 true fun _ => fine) s' ∧
      s.handed = [] ∧ s.q.onRing ax210 = List.range 15 ∧ s'.handed = List.range 8 ++ [15]) ∧
    (∃ s, Runs.Reachable (Initial ax210) (Step ax210) s ∧
      ¬ (s.q.onRing ax210 ++ s.q.overflowQ ++ s.handed ++ s.freed).Perm s.accepted) ∧
    ∃ s, Runs.Reachable (Initial ax210) (Step ax210) s ∧ ¬ s.q.sent.Pairwise (· < ·) := by
  refine ⟨?_, ?_, ?_⟩
  · obtain ⟨s, hs, hseen⟩ := perform_reachable filling
      (fun s => (s.handed, s.q.onRing ax210, (perform ax210 s (.reclaim 8 true fun _ => fine)).map State.handed))
      (x := ([], List.range 15, some (List.range 8 ++ [15]))) (by decide +kernel)
    simp only [Prod.mk.injEq, Option.map_eq_some_iff] at hseen
    obtain ⟨hhanded, hring, s', hs', hout⟩ := hseen
    exact ⟨s, s', hs, perform_step hs', hhanded, hring, hout⟩
  · obtain ⟨s, hs, hseen⟩ := perform_reachable (filling ++ [.reclaim 8 false fun _ => { fine with mapFails := true }])
      (fun s => ((s.q.onRing ax210 ++ s.q.overflowQ ++ s.handed ++ s.freed).length, s.accepted.length))
      (x := (15, 16)) (by decide +kernel)
    simp only [Prod.mk.injEq] at hseen
    refine ⟨s, hs, fun hperm => ?_⟩
    have hlen := hperm.length_eq
    omega
  · obtain ⟨s, hs, hseen⟩ := perform_reachable
      (filling ++ [.reclaim 3 false fun _ => fine, .tx fine, .reclaim 8 false fun _ => fine])
      (fun s => s.q.sent.drop 15) (x := [16, 15]) (by decide +kernel)
    refine ⟨s, hs, fun hsorted => ?_⟩
    have hlast : (s.q.sent.drop 15).Pairwise (· < ·) := hsorted.sublist (List.drop_sublist _ _)
    rw [hseen] at hlast
    simp at hlast

end Iwlwifi.TxQueue
