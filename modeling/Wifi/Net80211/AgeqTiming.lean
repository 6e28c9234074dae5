import Mathlib
import Wifi.Net80211.AgeqRuns

/-!
# Ages on an age queue

Ages are kept relative to the head, which changes.

* `stored`, `remaining` — what a frame's age says, and how long the frame may still stay.
* `Exact` — the stored ages represent the remaining ones.
* `Timely` — the calls that keep it so.
* `returned_when_due` — in runs of such calls a frame is returned when its age has passed, and not before.
-/

namespace Net80211.Ageq

open LinkedList Runs

variable {invariants : Bool} {s s' : State} {l : List Nat} {mem : Mem} {m x : Nat} {quanta : BitVec 32}

/-! ## The encoding -/

/-- `M_AGE_GET`, a number. -/
def stored (mem : Mem) (m : Nat) : Int := (mem.mbuf m).age.toNat

/-- The age that was given at the append, less the quanta since then. -/
def Ticket.remaining (t : Ticket) (clock : Int) : Int := t.age - (clock - t.since)

def State.remaining (s : State) (m : Nat) : Int := (s.ticket m).remaining s.clock

/-- The head's age is its own, the others' are relative to it; none is negative as an `int`. -/
structure Exact (s : State) (l : List Nat) : Prop where
  head : ∀ h ∈ l.head?, stored s.mem h = s.remaining h
  others : ∀ h ∈ l.head?, ∀ m ∈ l.tail, stored s.mem h + stored s.mem m = s.remaining m
  small : ∀ m ∈ l, stored s.mem m < 2 ^ 31

/-- A frame that `ieee80211_ageq_age` returned, with the sum of the quanta then. -/
def Due (x : Ticket × Int) : Prop := x.1.age < x.2 - x.1.since

/-! ## Calls that keep it -/

/-- The age that is appended, and what is written down for it, are not negative. -/
def AppendTimely (s : State) (l : List Nat) (age : BitVec 32) : Prop :=
  s.mem.aq.len < s.mem.aq.maxlen → 0 ≤ age.toInt ∧ 0 ≤ (storedAge s.mem l age).toInt

/-- The quanta are not negative; a frame behind the head that is returned is due when the head's age is counted
    in; and when the head is returned and frames stay, then the head had no age left and one frame stays. -/
def AgeTimely (s : State) (l : List Nat) (quanta : BitVec 32) : Prop :=
  ∀ h ∈ l.head?, 0 ≤ quanta.toInt ∧
    (∀ m ∈ (due s.mem quanta l).tail, stored s.mem h + stored s.mem m < quanta.toInt) ∧
    (due s.mem quanta l = [] ∨ notDue s.mem quanta l = [] ∨
      (stored s.mem h = 0 ∧ (notDue s.mem quanta l).length = 1))

/-- The head stays, or no frame stays, or the new head's age is that of the old one. -/
def RemoveTimely (s : State) (l : List Nat) (ni : Option Nat) : Prop :=
  ∀ h ∈ l.head?, matchesNode s.mem ni h = true →
    ∀ j ∈ (l.filter fun m => !matchesNode s.mem ni m).head?, stored s.mem j = 0

/-- The condition on a call, for the list that the queue holds. -/
def Timely (s : State) (op : Op) : Prop := ∀ l, Chain s.mem.links.next s.mem.aq.head l →
  match op with
  | .append _ age => AppendTimely s l age
  | .age quanta => AgeTimely s l quanta
  | .remove ni => RemoveTimely s l ni
  | .drain ni => RemoveTimely s l ni
  | .touch _ _ => True

theorem Exact.congr (h : Exact s l) (hage : ∀ x ∈ l, (s'.mem.mbuf x).age = (s.mem.mbuf x).age)
    (hrem : ∀ x ∈ l, s'.remaining x = s.remaining x) : Exact s' l := by
  have hstored : ∀ x ∈ l, stored s'.mem x = stored s.mem x := by
    intro x hx
    unfold stored
    rw [hage x hx]
  refine ⟨?_, ?_, ?_⟩
  · intro a ha
    have hal := List.mem_of_mem_head? ha
    rw [hstored a hal, hrem a hal]
    exact h.head a ha
  · intro a ha m hm
    have hml := List.mem_of_mem_tail hm
    rw [hstored a (List.mem_of_mem_head? ha), hstored m hml, hrem m hml]
    exact h.others a ha m hm
  · intro m hm
    rw [hstored m hm]
    exact h.small m hm

/-- An append writes down the rest behind the head's age. -/
theorem storedAge_eq {age : BitVec 32} (h : Exact s l) (hage : 0 ≤ age.toInt)
    (hs : 0 ≤ (storedAge s.mem l age).toInt) :
    ((storedAge s.mem l age).toNat : Int) < 2 ^ 31 ∧
      ((storedAge s.mem l age).toNat : Int) = age.toInt - (l.head?.elim 0 (stored s.mem)) := by
  cases l with
  | nil =>
    unfold storedAge at *
    simp only [List.head?_nil, Option.elim_none]
    rw [BitVec.toInt_eq_toNat_cond] at *
    split at hs <;> omega
  | cons a l =>
    have ha := h.small a List.mem_cons_self
    unfold storedAge stored at *
    simp only [List.head?_cons, Option.elim_some]
    rw [BitVec.toInt_eq_toNat_cond] at *
    rw [BitVec.toNat_sub] at *
    omega

/-! ## One call -/

theorem issue_of_ne (hx : x ≠ m) {age : BitVec 32} : s.issue m age x = s.ticket x := Function.update_of_ne hx _ _

theorem append_exact {age : BitVec 32} (h : Exact s l) (hm : m ∉ l)
    (ht : 0 ≤ age.toInt ∧ 0 ≤ (storedAge s.mem l age).toInt)
    (hages : ∀ x, (mem.mbuf x).age = if x = m then storedAge s.mem l age else (s.mem.mbuf x).age) :
    Exact { s with mem := mem, ticket := s.issue m age, count := s.count + 1 } (l ++ [m]) := by
  obtain ⟨hsmall, hstored⟩ := storedAge_eq h ht.1 ht.2
  have hnew : stored mem m = (storedAge s.mem l age).toNat := by
    unfold stored
    rw [hages, if_pos rfl]
  have hold : ∀ x ∈ l, stored mem x = stored s.mem x := by
    intro x hx
    unfold stored
    rw [hages, if_neg]
    rintro rfl
    exact hm hx
  have hremaining : ∀ x ∈ l, ((s.issue m age x).remaining s.clock) = s.remaining x := by
    intro x hx
    rw [issue_of_ne]
    · rfl
    · rintro rfl
      exact hm hx
  have hnewRemaining : (s.issue m age m).remaining s.clock = age.toInt := by
    rw [issue_self]
    unfold Ticket.remaining
    dsimp only
    omega
  cases l with
  | nil =>
    simp only [List.head?_nil, Option.elim_none] at hstored
    refine ⟨?_, ?_, ?_⟩
    · rintro a ⟨rfl⟩
      show stored mem m = (s.issue m age m).remaining s.clock
      omega
    · rintro a _ y hy
      cases hy
    · intro y hy
      rw [List.nil_append, List.mem_singleton] at hy
      subst hy
      show stored mem y < _
      omega
  | cons a l =>
    simp only [List.head?_cons, Option.elim_some] at hstored
    have hhead := h.head a rfl
    refine ⟨?_, ?_, ?_⟩
    · rintro b ⟨rfl⟩
      show stored mem a = (s.issue m age a).remaining s.clock
      rw [hold a List.mem_cons_self, hremaining a List.mem_cons_self]
      exact hhead
    · rintro b ⟨rfl⟩ y hy
      show stored mem a + stored mem y = (s.issue m age y).remaining s.clock
      rw [hold a List.mem_cons_self]
      rw [List.cons_append, List.tail_cons, List.mem_append, List.mem_singleton] at hy
      rcases hy with hy | rfl
      · rw [hold y (List.mem_cons_of_mem a hy), hremaining y (List.mem_cons_of_mem a hy)]
        exact h.others a rfl y hy
      · omega
    · intro y hy
      show stored mem y < _
      rcases List.mem_append.mp hy with hy | hy
      · rw [hold y hy]
        exact h.small y hy
      · rw [List.mem_singleton.mp hy]
        omega

theorem age_due (h : Exact s l) (ht : AgeTimely s l quanta) :
    ∀ x ∈ (due s.mem quanta l).map fun m => (s.ticket m, s.clock + quanta.toInt), Due x := by
  intro x hx
  obtain ⟨m, hm, rfl⟩ := List.mem_map.mp hx
  unfold Due
  dsimp only
  cases l with
  | nil => cases hm
  | cons a l =>
    obtain ⟨hq, htail, -⟩ := ht a rfl
    have hrem : s.remaining m < quanta.toInt := by
      by_cases hdue : (s.mem.mbuf a).age < quanta
      · rw [show due s.mem quanta (a :: l) = a :: due s.mem quanta l from
          List.takeWhile_cons_of_pos (by simp [hdue])] at hm htail
        cases hm with
        | head =>
          rw [← h.head m rfl]
          unfold stored
          rw [BitVec.toInt_eq_toNat_cond] at hq ⊢
          rw [BitVec.lt_def] at hdue
          split at hq <;> omega
        | tail _ hm =>
          have hml : m ∈ l := (List.takeWhile_sublist _).subset hm
          rw [← h.others a rfl m hml]
          exact htail m hm
      · rw [show due s.mem quanta (a :: l) = [] from List.takeWhile_cons_of_neg (by simp [hdue])] at hm
        cases hm
    unfold State.remaining Ticket.remaining at hrem
    omega

theorem exact_nil (s : State) : Exact s [] := by
  refine ⟨?_, ?_, ?_⟩
  · rintro a ⟨⟩
  · rintro a ⟨⟩
  · rintro a ⟨⟩

theorem exact_singleton (h : stored s.mem m = s.remaining m) (hsmall : stored s.mem m < 2 ^ 31) : Exact s [m] := by
  refine ⟨?_, ?_, ?_⟩
  · rintro a ⟨rfl⟩
    exact h
  · rintro a _ y hy
    cases hy
  · intro y hy
    rw [List.mem_singleton.mp hy]
    exact hsmall

theorem sub_stored {a : BitVec 32} (hq : 0 ≤ quanta.toInt) (h : ¬a < quanta) :
    ((a - quanta).toNat : Int) = a.toNat - quanta.toInt := by
  rw [BitVec.lt_def] at h
  rw [BitVec.toInt_eq_toNat_cond] at *
  rw [BitVec.toNat_sub]
  split at hq <;> omega

theorem notDue_head {j : Nat} (hj : j ∈ (notDue s.mem quanta l).head?) : ¬(s.mem.mbuf j).age < quanta := by
  have hnot := List.head?_dropWhile_not (fun m => decide ((s.mem.mbuf m).age < quanta)) l
  unfold notDue at hj
  rw [show (l.dropWhile fun m => decide ((s.mem.mbuf m).age < quanta)).head? = some j from hj] at hnot
  simpa using hnot

theorem age_exact (h : Exact s l) (hnd : l.Nodup) (ht : AgeTimely s l quanta)
    (hages : ∀ x, (mem.mbuf x).age = agedBy quanta s.mem (notDue s.mem quanta l) x) {returned : List (List Ticket)}
    {aged : List (Ticket × Int)} :
    Exact { s with mem := mem, clock := s.clock + quanta.toInt, returned := returned, aged := aged }
      (notDue s.mem quanta l) := by
  have hremaining : ∀ x, (s.ticket x).remaining (s.clock + quanta.toInt) = s.remaining x - quanta.toInt := by
    intro x
    unfold State.remaining Ticket.remaining
    omega
  cases l with
  | nil => exact exact_nil _
  | cons a l =>
    obtain ⟨hq, -, hcase⟩ := ht a rfl
    have hnew : ∀ j ∈ (notDue s.mem quanta (a :: l)).head?, stored mem j = stored s.mem j - quanta.toInt := by
      intro j hj
      have hage := hages j
      unfold agedBy at hage
      rw [if_pos (show _ = some j from hj)] at hage
      unfold stored
      rw [hage]
      exact sub_stored hq (notDue_head hj)
    by_cases hdue : (s.mem.mbuf a).age < quanta
    · have hdues : due s.mem quanta (a :: l) ≠ [] := by
        rw [show due s.mem quanta (a :: l) = a :: due s.mem quanta l from
          List.takeWhile_cons_of_pos (by simp [hdue])]
        simp
      obtain hnil | ⟨hzero, hone⟩ := hcase.resolve_left hdues
      · rw [hnil]
        exact exact_nil _
      · obtain ⟨j, hj⟩ := List.length_eq_one_iff.mp hone
        have hnewj := hnew j (by rw [hj]; rfl)
        have hjl : j ∈ l := by
          have hsub := List.dropWhile_sublist (l := l) fun m => decide ((s.mem.mbuf m).age < quanta)
          rw [show notDue s.mem quanta (a :: l) = notDue s.mem quanta l from
            List.dropWhile_cons_of_pos (by simp [hdue])] at hj
          refine hsub.subset ?_
          show j ∈ notDue s.mem quanta l
          rw [hj]
          exact List.mem_singleton_self j
        have hothers := h.others a rfl j hjl
        have hsmall := h.small j (List.mem_cons_of_mem a hjl)
        rw [hj]
        refine exact_singleton ?_ ?_
        · show stored mem j = (s.ticket j).remaining (s.clock + quanta.toInt)
          rw [hremaining]
          omega
        · show stored mem j < _
          omega
    · have hstay : notDue s.mem quanta (a :: l) = a :: l := List.dropWhile_cons_of_neg (by simp [hdue])
      rw [hstay] at hages hnew ⊢
      have hother : ∀ x ∈ l, stored mem x = stored s.mem x := by
        intro x hx
        have hne : x ≠ a := by
          rintro rfl
          exact (List.nodup_cons.mp hnd).1 hx
        unfold stored
        rw [hages]
        unfold agedBy
        rw [if_neg]
        rintro ⟨rfl⟩
        exact hne rfl
      have ha := hnew a rfl
      refine ⟨?_, ?_, ?_⟩
      · rintro b ⟨rfl⟩
        show stored mem a = (s.ticket a).remaining (s.clock + quanta.toInt)
        rw [ha, hremaining, h.head a rfl]
      · rintro b ⟨rfl⟩ y hy
        show stored mem a + stored mem y = (s.ticket y).remaining (s.clock + quanta.toInt)
        rw [ha, hremaining, hother y hy, ← h.others a rfl y hy]
        omega
      · intro y hy
        show stored mem y < _
        rcases List.mem_cons.mp hy with rfl | hy
        · have hsmall := h.small y List.mem_cons_self
          omega
        · rw [hother y hy]
          exact h.small y (List.mem_cons_of_mem a hy)

theorem remove_exact {ni : Option Nat} (h : Exact s l) (hnd : l.Nodup) (ht : RemoveTimely s l ni)
    (hages : ∀ x, (mem.mbuf x).age = correctedAge s.mem ni l x) (hs' : s'.mem = mem)
    (hrem : ∀ x, s'.remaining x = s.remaining x) : Exact s' (l.filter fun m => !matchesNode s.mem ni m) := by
  cases l with
  | nil => exact exact_nil _
  | cons a l =>
    have hsub : (l.filter fun m => !matchesNode s.mem ni m).Sublist l := List.filter_sublist
    have hsame : ∀ x, (matchesNode s.mem ni a = true →
        ¬((a :: l).filter fun m => !matchesNode s.mem ni m).head? = some x) → stored s'.mem x = stored s.mem x := by
      intro x hx
      unfold stored
      rw [hs', hages]
      show ((if _ then _ else _ : BitVec 32).toNat : Int) = _
      rw [if_neg fun he => hx he.1 he.2]
    cases hm : matchesNode s.mem ni a with
    | false =>
      have hall : ∀ x, stored s'.mem x = stored s.mem x := fun x => hsame x fun he => by
        rw [hm] at he
        cases he
      rw [List.filter_cons_of_pos (by simp [hm])]
      refine ⟨?_, ?_, ?_⟩
      · rintro b ⟨rfl⟩
        rw [hall, hrem, h.head a rfl]
      · rintro b ⟨rfl⟩ y hy
        rw [hall, hall, hrem]
        exact h.others a rfl y (hsub.subset hy)
      · intro y hy
        rw [hall]
        exact h.small y ((hsub.cons_cons a).subset hy)
    | true =>
      have hkept : (a :: l).filter (fun m => !matchesNode s.mem ni m) = l.filter fun m => !matchesNode s.mem ni m :=
        List.filter_cons_of_neg (by simp [hm])
      have hj := ht a rfl hm
      rw [hkept] at hj hsame ⊢
      have hnd' : (l.filter fun m => !matchesNode s.mem ni m).Nodup := hsub.nodup (List.nodup_cons.mp hnd).2
      have hnew : ∀ j, (l.filter fun m => !matchesNode s.mem ni m).head? = some j →
          stored s'.mem j = stored s.mem a := by
        intro j hhead
        unfold stored
        rw [hs', hages]
        show ((if _ then _ else _ : BitVec 32).toNat : Int) = _
        rw [if_pos ⟨hm, by rw [hkept]; exact hhead⟩]
      generalize (l.filter fun m => !matchesNode s.mem ni m) = kept at *
      cases kept with
      | nil => exact exact_nil _
      | cons j kept =>
        have hmem : ∀ y ∈ j :: kept, y ∈ l := fun y hy => hsub.subset hy
        have hjnew := hnew j rfl
        have hjold := hj j rfl
        have hjrem := h.others a rfl j (hmem j List.mem_cons_self)
        have hother : ∀ y ∈ kept, stored s'.mem y = stored s.mem y := by
          intro y hy
          refine hsame y fun _ => ?_
          rintro ⟨rfl⟩
          exact (List.nodup_cons.mp hnd').1 hy
        refine ⟨?_, ?_, ?_⟩
        · rintro b ⟨rfl⟩
          rw [hjnew, hrem]
          omega
        · rintro b ⟨rfl⟩ y hy
          rw [hjnew, hother y hy, hrem]
          exact h.others a rfl y (hmem y (List.mem_cons_of_mem j hy))
        · intro y hy
          rcases List.mem_cons.mp hy with rfl | hy
          · rw [hjnew]
            exact h.small a List.mem_cons_self
          · rw [hother y hy]
            exact h.small y (List.mem_cons_of_mem a (hmem y (List.mem_cons_of_mem j hy)))

/-! ## Runs -/

structure Timed (s : State) (l : List Nat) : Prop where
  holds : Holds s.mem l
  exact : Exact s l
  due : ∀ x ∈ s.aged, Due x

theorem step_timed {op : Op} (h : Timed s l) (hop : Timely s op) (hs : Step invariants s op s') :
    ∃ l', Timed s' l' := by
  have ht := hop l h.holds.chain
  have hnd := h.holds.nodup
  cases op with
  | append m age =>
    obtain ⟨hm, mem, -, ⟨hlen, -, hq, hages, rfl⟩ | ⟨-, hq, hdata, rfl⟩⟩ := append_step h.holds hs
    · exact ⟨_, hq, append_exact h.exact hm (ht hlen) hages, h.due⟩
    · refine ⟨l, hq, h.exact.congr (fun x _ => (hdata x).1) fun x hx => ?_, h.due⟩
      show (s.issue m age x).remaining s.clock = _
      rw [issue_of_ne]
      · rfl
      · rintro rfl
        exact hm hx
  | age quanta =>
    obtain ⟨mem, -, hq, hages, rfl⟩ := age_step h.holds hs
    refine ⟨_, hq, age_exact h.exact hnd ht hages, ?_⟩
    intro x hx
    rcases List.mem_append.mp hx with hx | hx
    · exact h.due x hx
    · exact age_due h.exact ht x hx
  | remove ni =>
    obtain ⟨mem, -, hq, hages, rfl⟩ := remove_step h.holds hs
    exact ⟨_, hq, remove_exact h.exact hnd ht hages rfl fun _ => rfl, h.due⟩
  | drain ni =>
    obtain ⟨mem, -, hq, hages, rfl⟩ := drain_step h.holds hs
    exact ⟨_, hq, remove_exact h.exact hnd ht hages rfl fun _ => rfl, h.due⟩
  | touch m v =>
    obtain ⟨hq, hages, rfl⟩ := touch_step h.holds hs
    exact ⟨l, hq, h.exact.congr hages fun _ _ => rfl, h.due⟩

/-- **Ages on an age queue.**  In a run whose calls are timely, every frame that `ieee80211_ageq_age` returned had
    been on the queue for more than its age, and the stored ages represent the remaining ones. -/
theorem returned_when_due (hr : Reachable Initial (Guarded Timely (Step invariants)) s) :
    (∀ x ∈ s.aged, Due x) ∧ ∃ l, Chain s.mem.links.next s.mem.aq.head l ∧ Exact s l := by
  have h : ∃ l, Timed s l := by
    induction hr with
    | start h =>
      obtain ⟨-, -, -, -, -, haged⟩ := id h
      refine ⟨[], (initial_inv h).holds, exact_nil _, ?_⟩
      rw [haged]
      simp
    | next _ hs ih =>
      obtain ⟨l, h⟩ := ih
      exact step_timed h hs.1 hs.2
  obtain ⟨l, h⟩ := h
  exact ⟨h.due, l, h.holds.chain, h.exact⟩

/-- Two frames with the ages 5 and 20, of which 15 is written down for the second one. -/
theorem two_frames : ∃ s, Reachable Initial (Guarded Timely (Step true)) s ∧ Holds s.mem [1, 2] ∧
    (s.mem.mbuf 1).age = 5 ∧ (s.mem.mbuf 2).age = 15 ∧ s.ticket 1 = { serial := 0, age := 5, since := 0 } ∧
    s.ticket 2 = { serial := 1, age := 20, since := 0 } ∧ s.clock = 0 ∧ s.aged = [] := by
  refine ⟨_, .next (.next (.start idle_initial) ⟨?_, show Step true _ (.append 1 5) _ from .append
    (owned_of (l := []) .nil (by simp)) rfl⟩) ⟨?_, show Step true _ (.append 2 20) _ from .append
    (owned_of (l := [1]) (.cons .nil) (by simp)) rfl⟩, ⟨.cons (.cons .nil), rfl, rfl⟩, rfl, rfl, rfl, rfl, rfl, rfl⟩
  · intro l hl _
    obtain rfl := hl.unique .nil
    decide
  · intro l hl _
    obtain rfl := hl.unique (.cons .nil)
    decide

/-- Both are returned when 25 seconds have passed. -/
theorem returned_when_due_two : ∃ s, Reachable Initial (Guarded Timely (Step true)) s ∧ s.aged.length = 2 ∧
    ∀ x ∈ s.aged, Due x := by
  obtain ⟨s, hr, hq, h1, h2, -, -, -, haged⟩ := two_frames
  have hdue : due s.mem 25 [1, 2] = [1, 2] := by simp [due, h1, h2]
  have htimely : Timely s (.age 25) := by
    intro l hl
    obtain rfl := hl.unique hq.chain
    rintro h ⟨rfl⟩
    refine ⟨by decide, ?_, .inr (.inl ?_)⟩
    · rw [hdue]
      simp [stored, h1, h2]
    · simp [notDue, h1, h2]
  obtain ⟨s', hs'⟩ := returns hq (show Op.Fits true _ (.age 25) from trivial)
  obtain ⟨mem, -, -, -, hs⟩ := age_step hq hs'
  refine ⟨s', .next hr ⟨htimely, hs'⟩, ?_, (returned_when_due (.next hr ⟨htimely, hs'⟩)).1⟩
  rw [hs, hdue, haged]
  rfl

/-- **A frame leaves too early**: of the ages 5 and 20, the second one is returned after two times ten seconds. -/
theorem frame_returned_early : ∃ s, Reachable Initial (Step true) s ∧ ∃ x ∈ s.aged, ¬Due x := by
  obtain ⟨s, hr, hq, h1, h2, -, ht2, hclock, -⟩ := two_frames
  have hdue : due s.mem 10 [1, 2] = [1] ∧ notDue s.mem 10 [1, 2] = [2] := by simp [due, notDue, h1, h2]
  obtain ⟨s₁, hs₁⟩ := returns hq (show Op.Fits true _ (.age 10) from trivial)
  obtain ⟨mem, -, hq₁, hages, hs⟩ := age_step hq hs₁
  rw [hdue.2] at hq₁ hages
  have hmem : s₁.mem = mem := by rw [hs]
  have hage₁ : (s₁.mem.mbuf 2).age = 5 := by
    rw [hmem, hages]
    unfold agedBy
    rw [if_pos (show [2].head? = some 2 from rfl), h2]
    decide
  rw [← hmem] at hq₁
  have hdue₁ : due s₁.mem 10 [2] = [2] := by simp [due, hage₁]
  obtain ⟨s₂, hs₂⟩ := returns hq₁ (show Op.Fits true _ (.age 10) from trivial)
  obtain ⟨mem₂, -, -, -, hs'⟩ := age_step hq₁ hs₂
  refine ⟨s₂, .next (.next hr.of_guarded hs₁) hs₂, (s₁.ticket 2, s₁.clock + 10), ?_, ?_⟩
  · rw [hs', hdue₁]
    simp
  · rw [hs]
    unfold Due
    dsimp only
    rw [ht2, hclock]
    decide

end Net80211.Ageq
