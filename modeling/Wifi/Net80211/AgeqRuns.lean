import Wifi.Net80211.AgeqOps

/-!
# Runs of an age queue

* `append_step`, `age_step`, `remove_step`, `drain_step`, `touch_step` — what a call on a queue with `l` does.
* `Inv` — the queue holds a list, and every frame that was appended is in one place.
* `Inv.leave` — frames that leave the queue, in order.
* `queue_consistent` — **structure of the queue** over every run.
-/

namespace Net80211.Ageq

open LinkedList Runs

variable {invariants : Bool} {s s' : State} {l left taken : List Nat} {mem : Mem} {m : Nat}

/-! ## One call -/

theorem Returns.eq {α : Type} {f : Nat → Option α} {x y : α} {n : Nat} (h : Returns f x)
    (hf : ∀ fuel, n < fuel → f fuel = some y) : x = y := by
  obtain ⟨k, hk⟩ := h
  exact Option.some.inj ((hk (max n k + 1) (by omega)).symm.trans (hf (max n k + 1) (by omega)))

theorem issue_map {age : BitVec 32} (hm : m ∉ l) : l.map (s.issue m age) = l.map s.ticket :=
  List.map_congr_left fun x hx => Function.update_of_ne (fun he => hm (by rwa [← he])) _ _

theorem issue_self (s : State) (m : Nat) (age : BitVec 32) :
    s.issue m age m = { serial := s.count, age := age.toInt, since := s.clock } := Function.update_self ..

/-- An append: there was space, or the frame is reclaimed. -/
theorem append_step {age : BitVec 32} (h : Holds s.mem l) (hs : Step invariants s (.append m age) s') :
    m ∉ l ∧ ∃ mem, mem.aq.maxlen = s.mem.aq.maxlen ∧
      ((s.mem.aq.len < s.mem.aq.maxlen ∧ (invariants = true → 0 ≤ (storedAge s.mem l age).toInt) ∧
          Holds mem (l ++ [m]) ∧
          (∀ x, (mem.mbuf x).age = if x = m then storedAge s.mem l age else (s.mem.mbuf x).age) ∧
          s' = { s with mem := mem, ticket := s.issue m age, count := s.count + 1 }) ∨
        (¬s.mem.aq.len < s.mem.aq.maxlen ∧ Holds mem l ∧ SameData s.mem mem ∧
          s' = { s with
            mem := mem
            ticket := s.issue m age
            count := s.count + 1
            reclaimed := s.reclaimed ++ [s.issue m age m] })) := by
  cases hs with
  | @append _ _ _ mem freed hm hcall =>
    have hml : m ∉ l := hm l h.chain
    refine ⟨hml, mem, ?_⟩
    by_cases hlen : s.mem.aq.len < s.mem.aq.maxlen
    · obtain ⟨mem', hcall', hq, hmax, hages⟩ := append_spec h hml hlen
      rw [hcall'] at hcall
      cases hk : kassert invariants (decide (0 ≤ (storedAge s.mem l age).toInt)) with
      | none =>
        rw [hk] at hcall
        cases hcall
      | some _ =>
        rw [hk] at hcall
        cases hcall
        refine ⟨hmax, .inl ⟨hlen, fun hi => of_decide_eq_true (kassert_eq_some.mp hk hi), hq, hages, ?_⟩⟩
        simp
    · obtain ⟨mem', nodes, hcall', hq, hmax, hdata⟩ :=
        refused_spec h hml hlen
      rw [hcall'] at hcall
      cases hcall
      exact ⟨hmax, .inr ⟨hlen, hq, hdata, rfl⟩⟩

theorem age_step {quanta : BitVec 32} (h : Holds s.mem l) (hs : Step invariants s (.age quanta) s') :
    ∃ mem, mem.aq.maxlen = s.mem.aq.maxlen ∧ Holds mem (notDue s.mem quanta l) ∧
      (∀ x, (mem.mbuf x).age = agedBy quanta s.mem (notDue s.mem quanta l) x) ∧
      s' = { s with
        mem := mem
        clock := s.clock + quanta.toInt
        returned := s.returned ++ [(due s.mem quanta l).map s.ticket]
        aged := s.aged ++ (due s.mem quanta l).map fun m => (s.ticket m, s.clock + quanta.toInt) } := by
  cases hs with
  | @age _ uninit mem l' hcall hl' =>
    obtain ⟨mem', hcall', hq, hc, hmax, hages⟩ :=
      age_spec uninit h
    obtain rfl := hcall.eq hcall'
    obtain rfl := hl'.unique hc
    exact ⟨mem, hmax, hq, hages, rfl⟩

theorem remove_step {ni : Option Nat} (h : Holds s.mem l) (hs : Step invariants s (.remove ni) s') :
    ∃ mem, mem.aq.maxlen = s.mem.aq.maxlen ∧ Holds mem (l.filter fun m => !matchesNode s.mem ni m) ∧
      (∀ x, (mem.mbuf x).age = correctedAge s.mem ni l x) ∧
      s' = { s with mem := mem, returned := s.returned ++ [(l.filter (matchesNode s.mem ni)).map s.ticket] } := by
  cases hs with
  | @remove _ uninit mem l' hcall hl' =>
    obtain ⟨mem', hcall', hq, hc, hmax, hages⟩ := remove_spec ni uninit h
    obtain rfl := hcall.eq hcall'
    obtain rfl := hl'.unique hc
    exact ⟨mem, hmax, hq, hages, rfl⟩

theorem drain_step {ni : Option Nat} (h : Holds s.mem l) (hs : Step invariants s (.drain ni) s') :
    ∃ mem, mem.aq.maxlen = s.mem.aq.maxlen ∧ Holds mem (l.filter fun m => !matchesNode s.mem ni m) ∧
      (∀ x, (mem.mbuf x).age = correctedAge s.mem ni l x) ∧
      s' = { s with mem := mem, reclaimed := s.reclaimed ++ (l.filter (matchesNode s.mem ni)).map s.ticket } := by
  cases hs with
  | @drain _ uninit mem freed hcall =>
    obtain ⟨mem', nodes, hcall', hq, hmax, hages⟩ :=
      drainNode_spec uninit h
    cases hcall.eq hcall'
    exact ⟨mem, hmax, hq, hages, rfl⟩

theorem touch_step {v : Mbuf} (h : Holds s.mem l) (hs : Step invariants s (.touch m v) s') :
    Holds s'.mem l ∧ (∀ x ∈ l, (s'.mem.mbuf x).age = (s.mem.mbuf x).age) ∧
      s' = { s with mem := s.mem.setMbuf m v } := by
  cases hs with
  | touch hm =>
    have hml : m ∉ l := hm l h.chain
    have hsame : ∀ x ∈ l, (s.mem.setMbuf m v).mbuf x = s.mem.mbuf x :=
      fun x hx => Function.update_of_ne (fun he => hml (by rwa [← he])) _ _
    refine ⟨⟨LinkedList.Seg.frame h.list fun x hx => ?_, h.tail, h.len⟩, fun x hx => ?_, rfl⟩
    · exact congrArg Mbuf.nextpkt (hsame x hx)
    · exact congrArg Mbuf.age (hsame x hx)

/-! ## The structure of the queue -/

def InOrder (tickets : List Ticket) : Prop := (tickets.map Ticket.serial).Pairwise (· < ·)

/-- The queue is the list `l`, in the order of the appends, and no longer than `aq_maxlen`; every append is in one
    place: on the queue, in a list that was returned (in the order of the appends), or reclaimed. -/
structure Inv (s : State) (l : List Nat) : Prop where
  holds : Holds s.mem l
  bound : s.mem.aq.len ≤ s.mem.aq.maxlen
  order : InOrder (l.map s.ticket)
  returned : ∀ r ∈ s.returned, InOrder r
  places : ((l.map s.ticket ++ (s.returned.flatten ++ s.reclaimed)).map Ticket.serial).Perm (List.range s.count)

theorem Inv.serial_lt (h : Inv s l) {t : Ticket} (ht : t ∈ l.map s.ticket) : t.serial < s.count := by
  refine List.mem_range.mp (h.places.subset ?_)
  exact List.mem_map_of_mem (List.mem_append_left _ ht)

theorem initial_inv (h : Initial s) : Inv s [] := by
  obtain ⟨⟨maxlen, haq⟩, hcount, -, hreturned, hreclaimed, -⟩ := h
  refine ⟨⟨?_, ?_, ?_⟩, ?_, List.Pairwise.nil, ?_, ?_⟩
  · show Chain s.mem.links.next s.mem.aq.head []
    rw [haq]
    exact .nil
  · rw [haq]
    rfl
  · rw [haq]
    rfl
  · rw [haq]
    exact Int.natCast_nonneg maxlen
  · simp [hreturned]
  · simp [hreturned, hreclaimed, hcount]

theorem Inv.sublist (h : Inv s l) (hsub : taken.Sublist l) : InOrder (taken.map s.ticket) :=
  List.Pairwise.sublist ((hsub.map s.ticket).map Ticket.serial) h.order

theorem Inv.bound_of (h : Inv s l) (hq : Holds mem left) (hsub : left.Sublist l)
    (hmax : mem.aq.maxlen = s.mem.aq.maxlen) : mem.aq.len ≤ mem.aq.maxlen := by
  have hle := hsub.length_le
  have hb := h.bound
  have hl := h.holds.len
  rw [hq.len, hmax]
  omega

/-- Frames leave the queue for a list that is returned. -/
theorem Inv.leave (h : Inv s l) (hq : Holds mem left) (hmax : mem.aq.maxlen = s.mem.aq.maxlen)
    (htaken : taken.Sublist l) (hleft : left.Sublist l) (hperm : (taken ++ left).Perm l) {clock : Int}
    {aged : List (Ticket × Int)} :
    Inv { s with mem := mem, clock := clock, returned := s.returned ++ [taken.map s.ticket], aged := aged } left := by
  refine ⟨hq, h.bound_of hq hleft hmax, h.sublist hleft, ?_, ?_⟩
  · intro r hr
    cases List.mem_append.mp hr with
    | inl hr => exact h.returned r hr
    | inr hr =>
      rw [List.mem_singleton.mp hr]
      exact h.sublist htaken
  · refine List.Perm.trans (List.Perm.map _ ?_) h.places
    refine List.Perm.trans ?_ (List.Perm.append_right _ (hperm.map s.ticket))
    refine List.perm_iff_count.mpr fun t => ?_
    simp only [List.flatten_append, List.flatten_singleton, List.map_append, List.count_append]
    omega

theorem Inv.reclaim (h : Inv s l) (hq : Holds mem left) (hmax : mem.aq.maxlen = s.mem.aq.maxlen)
    (hleft : left.Sublist l) (hperm : (taken ++ left).Perm l) :
    Inv { s with mem := mem, reclaimed := s.reclaimed ++ taken.map s.ticket } left := by
  refine ⟨hq, h.bound_of hq hleft hmax, h.sublist hleft, h.returned, ?_⟩
  refine List.Perm.trans (List.Perm.map _ ?_) h.places
  refine List.Perm.trans ?_ (List.Perm.append_right _ (hperm.map s.ticket))
  refine List.perm_iff_count.mpr fun t => ?_
  simp only [List.map_append, List.count_append]
  omega

theorem due_split (mem : Mem) (quanta : BitVec 32) (l : List Nat) :
    (due mem quanta l).Sublist l ∧ (notDue mem quanta l).Sublist l ∧ due mem quanta l ++ notDue mem quanta l = l :=
  ⟨List.takeWhile_sublist _, List.dropWhile_sublist _, List.takeWhile_append_dropWhile⟩

/-- The frame that is appended has the greatest number. -/
theorem Inv.append (h : Inv s l) (hm : m ∉ l) {age : BitVec 32} (hlen : s.mem.aq.len < s.mem.aq.maxlen)
    (hq : Holds mem (l ++ [m])) (hmax : mem.aq.maxlen = s.mem.aq.maxlen) :
    Inv { s with mem := mem, ticket := s.issue m age, count := s.count + 1 } (l ++ [m]) := by
  have hmap : (l ++ [m]).map (s.issue m age) =
      l.map s.ticket ++ [{ serial := s.count, age := age.toInt, since := s.clock }] := by
    rw [List.map_append, issue_map hm, List.map_singleton, issue_self]
  refine ⟨hq, ?_, ?_, h.returned, ?_⟩
  · have hl := h.holds.len
    rw [hq.len, hmax, List.length_append, List.length_singleton]
    omega
  · unfold InOrder
    rw [hmap, List.map_append, List.pairwise_append]
    refine ⟨h.order, List.pairwise_singleton _ _, ?_⟩
    intro a ha b hb
    obtain ⟨t, ht, rfl⟩ := List.mem_map.mp ha
    rw [List.map_singleton, List.mem_singleton] at hb
    rw [hb]
    exact h.serial_lt ht
  · rw [hmap, List.range_succ]
    refine List.Perm.trans ?_ (List.Perm.append_right [s.count] h.places)
    refine List.perm_iff_count.mpr fun t => ?_
    simp only [List.map_append, List.map_singleton, List.count_append]
    omega

theorem Inv.refuse (h : Inv s l) (hm : m ∉ l) {age : BitVec 32} (hq : Holds mem l)
    (hmax : mem.aq.maxlen = s.mem.aq.maxlen) :
    Inv { s with
      mem := mem
      ticket := s.issue m age
      count := s.count + 1
      reclaimed := s.reclaimed ++ [s.issue m age m] } l := by
  have hmap : l.map (s.issue m age) = l.map s.ticket := issue_map hm
  refine ⟨hq, h.bound_of hq (List.Sublist.refl l) hmax, ?_, h.returned, ?_⟩
  · rw [hmap]
    exact h.order
  · rw [hmap, List.range_succ]
    refine List.Perm.trans ?_ (List.Perm.append_right [s.count] h.places)
    refine List.perm_iff_count.mpr fun t => ?_
    simp only [issue_self, List.map_append, List.map_singleton, List.count_append]
    omega

theorem step_inv {op : Op} (h : Inv s l) (hs : Step invariants s op s') : ∃ l', Inv s' l' := by
  cases op with
  | append m age =>
    obtain ⟨hm, mem, hmax, ⟨hlen, -, hq, -, rfl⟩ | ⟨-, hq, -, rfl⟩⟩ := append_step h.holds hs
    · exact ⟨_, h.append hm hlen hq hmax⟩
    · exact ⟨_, h.refuse hm hq hmax⟩
  | age quanta =>
    obtain ⟨mem, hmax, hq, -, rfl⟩ := age_step h.holds hs
    obtain ⟨htaken, hleft, hsplit⟩ := due_split s.mem quanta l
    exact ⟨_, h.leave hq hmax htaken hleft (List.Perm.of_eq hsplit)⟩
  | remove ni =>
    obtain ⟨mem, hmax, hq, -, rfl⟩ := remove_step h.holds hs
    exact ⟨_, h.leave hq hmax List.filter_sublist List.filter_sublist (List.filter_append_perm _ l)⟩
  | drain ni =>
    obtain ⟨mem, hmax, hq, -, rfl⟩ := drain_step h.holds hs
    exact ⟨_, h.reclaim hq hmax List.filter_sublist (List.filter_append_perm _ l)⟩
  | touch m v =>
    obtain ⟨hq, -, rfl⟩ := touch_step h.holds hs
    exact ⟨l, hq, h.bound, h.order, h.returned, h.places⟩

theorem reachable_inv (hr : Reachable Initial (Step invariants) s) : ∃ l, Inv s l := by
  induction hr with
  | start h => exact ⟨[], initial_inv h⟩
  | next _ hs ih =>
    obtain ⟨l, h⟩ := ih
    exact step_inv h hs

/-! ## Every call returns -/

/-- What a caller must keep to: a frame that it appends or writes is its own; where `KASSERT` is checked, it holds
    of the age that an append writes down. -/
def Op.Fits (invariants : Bool) (s : State) : Op → Prop
  | .append m a => s.Owned m ∧ ∀ l, Chain s.mem.links.next s.mem.aq.head l →
      invariants = true → s.mem.aq.len < s.mem.aq.maxlen → 0 ≤ (storedAge s.mem l a).toInt
  | .touch m _ => s.Owned m
  | .age _ => True
  | .remove _ => True
  | .drain _ => True

theorem returns (h : Holds s.mem l) {op : Op} (hop : op.Fits invariants s) : ∃ s', Step invariants s op s' := by
  cases op with
  | append m age =>
    obtain ⟨hm, hage⟩ := hop
    by_cases hlen : s.mem.aq.len < s.mem.aq.maxlen
    · obtain ⟨mem, hcall, -⟩ := append_spec h (hm l h.chain) hlen
      rw [kassert_eq_some.mpr fun hi => decide_eq_true (hage l h.chain hi hlen)] at hcall
      exact ⟨_, .append hm hcall⟩
    · obtain ⟨mem, nodes, hcall, -⟩ :=
        refused_spec h (hm l h.chain) hlen
      exact ⟨_, .append hm hcall⟩
  | age quanta =>
    obtain ⟨mem, hcall, -, hc, -⟩ :=
      age_spec none h
    exact ⟨_, .age ⟨_, hcall⟩ hc⟩
  | remove ni =>
    obtain ⟨mem, hcall, -, hc, -⟩ := remove_spec ni none h
    exact ⟨_, .remove ⟨_, hcall⟩ hc⟩
  | drain ni =>
    obtain ⟨mem, nodes, hcall, -⟩ := drainNode_spec none h
    exact ⟨_, .drain ⟨_, hcall⟩⟩
  | touch m v => exact ⟨_, .touch hop⟩

/-- **The structure of an age queue.**  In every run of appends, ageing, removals and drains, whatever frames,
    ages, quanta and nodes they are given: `aq_len` is the length of the list from `aq_head` and at most `aq_maxlen`,
    `aq_tail` is its last frame, the list is in the order of the appends, as is every list that was returned, and
    every append is in exactly one place; and every call returns. -/
theorem queue_consistent (hr : Reachable Initial (Step invariants) s) :
    ∃ l, Chain s.mem.links.next s.mem.aq.head l ∧ s.mem.aq.len = l.length ∧ s.mem.aq.tail = l.getLast? ∧
      (s.mem.aq.tail = none ↔ l = []) ∧ s.mem.aq.len ≤ s.mem.aq.maxlen ∧ InOrder (l.map s.ticket) ∧
      (∀ r ∈ s.returned, InOrder r) ∧
      ((l.map s.ticket ++ (s.returned.flatten ++ s.reclaimed)).map Ticket.serial).Perm (List.range s.count) ∧
      ∀ op : Op, op.Fits invariants s → ∃ s', Step invariants s op s' := by
  obtain ⟨l, h⟩ := reachable_inv hr
  refine ⟨l, h.holds.chain, h.holds.len, h.holds.tail, ?_, h.bound, h.order, h.returned, h.places,
    fun op hop => returns h.holds hop⟩
  rw [h.holds.tail, List.getLast?_eq_none_iff]

def idle : State where
  mem :=
    { mbuf := fun _ => { nextpkt := none, rcvif := none, encap := false, age := 0 }
      aq := ieee80211AgeqInit 4
      head := none }
  ticket := fun _ => { serial := 0, age := 0, since := 0 }
  count := 0
  clock := 0
  returned := []
  reclaimed := []
  aged := []

theorem idle_initial : Initial idle := ⟨⟨4, rfl⟩, rfl, rfl, rfl, rfl, rfl⟩

theorem owned_of (h : Chain s.mem.links.next s.mem.aq.head l) (hm : m ∉ l) : s.Owned m := fun _ h' => h.unique h' ▸ hm

/-- Two frames. -/
theorem queue_consistent_two : ∃ s, Reachable Initial (Step true) s ∧ s.mem.aq.len = 2 ∧
    ∃ l, Chain s.mem.links.next s.mem.aq.head l ∧ s.mem.aq.len = l.length := by
  obtain ⟨s, hr, hlen⟩ : ∃ s, Reachable Initial (Step true) s ∧ s.mem.aq.len = 2 :=
    ⟨_, .next (.next (.start idle_initial)
      (show Step true _ (.append 1 5) _ from .append (owned_of (l := []) .nil (by simp)) rfl))
      (show Step true _ (.append 2 20) _ from .append (owned_of (l := [1]) (.cons .nil) (by simp)) rfl), rfl⟩
  obtain ⟨l, hchain, hl, -⟩ := queue_consistent hr
  exact ⟨s, hr, hlen, l, hchain, hl⟩

end Net80211.Ageq
