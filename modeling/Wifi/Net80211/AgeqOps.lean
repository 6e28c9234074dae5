import Wifi.Net80211.Ageq

/-!
# What the functions on an age queue do

* `Holds` — the queue is the list `l`.
* `append_spec`, `refused_spec`, `age_spec`, `remove_spec`, `mfree_spec` — each function on a queue with `l`.
-/

namespace Net80211.Ageq

open LinkedList

/-! ## Memory -/

/-- The frames are the same but for their links. -/
def SameData (mem mem' : Mem) : Prop :=
  ∀ m, (mem'.mbuf m).age = (mem.mbuf m).age ∧ (mem'.mbuf m).rcvif = (mem.mbuf m).rcvif

variable {invariants : Bool} {mem mem' : Mem} {m x : Nat} {p q : Option Nat} {r : Ref} {l removed kept : List Nat}
  {ni uninit : Option Nat} {quanta age : BitVec 32}

theorem SameData.refl (mem : Mem) : SameData mem mem := fun _ => ⟨rfl, rfl⟩

theorem SameData.trans {mem'' : Mem} (h : SameData mem mem') (h' : SameData mem' mem'') : SameData mem mem'' :=
  fun m => ⟨(h' m).1.trans (h m).1, (h' m).2.trans (h m).2⟩

theorem setNextpkt_data (mem : Mem) (m : Nat) (p : Option Nat) : SameData mem (mem.setNextpkt m p) := by
  intro x
  unfold Mem.setNextpkt Mem.setMbuf
  dsimp only
  by_cases hx : x = m
  · subst hx
    rw [Function.update_self]
    exact ⟨rfl, rfl⟩
  · rw [Function.update_of_ne hx]
    exact ⟨rfl, rfl⟩

theorem store_data (mem : Mem) (r : Ref) (p : Option Nat) : SameData mem (mem.store r p) := by
  cases r with
  | var v => cases v <;> exact .refl mem
  | next m => exact setNextpkt_data mem m p

theorem links_setNextpkt (mem : Mem) (m : Nat) (p : Option Nat) :
    (mem.setNextpkt m p).links = mem.links.store (.next m) p := by
  unfold Mem.links Links.store Mem.setNextpkt Mem.setMbuf
  congr 1
  funext x
  by_cases hx : x = m
  · subst hx
    simp
  · simp [hx]

theorem links_store (mem : Mem) (r : Ref) (p : Option Nat) : (mem.store r p).links = mem.links.store r p := by
  cases r with
  | next m => exact links_setNextpkt mem m p
  | var v =>
    unfold Mem.links Links.store Mem.store
    cases v <;>
    · congr 1
      funext v
      cases v <;> simp

theorem links_setAge (mem : Mem) (m : Nat) (v : BitVec 32) : (mem.setAge m v).links = mem.links := by
  unfold Mem.links Mem.setAge Mem.setMbuf
  congr 1
  funext x
  by_cases hx : x = m
  · subst hx
    simp
  · simp [hx]

theorem setAge_age (mem : Mem) (m : Nat) (v : BitVec 32) (x : Nat) :
    ((mem.setAge m v).mbuf x).age = if x = m then v else (mem.mbuf x).age := by
  unfold Mem.setAge Mem.setMbuf
  by_cases hx : x = m
  · subst hx
    simp
  · simp [hx]

theorem store_aq (mem : Mem) (r : Ref) (p : Option Nat) : (mem.store r p).aq.len = mem.aq.len ∧
    (mem.store r p).aq.maxlen = mem.aq.maxlen ∧ (mem.store r p).aq.tail = mem.aq.tail := by
  cases r with
  | next m => exact ⟨rfl, rfl, rfl⟩
  | var v => cases v <;> exact ⟨rfl, rfl, rfl⟩

/-! ## The queue -/

/-- **The queue holds `l`**: its list, its last frame and its length. -/
structure Holds (mem : Mem) (l : List Nat) : Prop where
  list : mem.links.Seg .aqHead l none
  tail : mem.aq.tail = l.getLast?
  len : mem.aq.len = l.length

theorem Holds.chain (h : Holds mem l) : Chain mem.links.next mem.aq.head l := h.list

theorem Holds.nodup (h : Holds mem l) : l.Nodup := h.chain.nodup

theorem Holds.head (h : Holds mem l) : mem.aq.head = l.head? := h.chain.head

theorem kassert_eq_some {p : Bool} : kassert invariants p = some () ↔ (invariants = true → p = true) := by
  unfold kassert
  cases invariants <;> cases p <;> simp

theorem kassert_of {p : Bool} (h : p = true) : kassert invariants p = some () := by
  exact kassert_eq_some.mpr fun _ => h

/-! ## `ieee80211_ageq_append` -/

/-- The age that `ieee80211_ageq_append` writes down: relative to the head's. -/
def storedAge (mem : Mem) (l : List Nat) (age : BitVec 32) : BitVec 32 :=
  match l with
  | [] => age
  | h :: _ => age - (mem.mbuf h).age

theorem becomeTail_holds (h : mem.links.Seg .aqHead l (some m)) (hm : m ∉ l) (hlen : mem.aq.len = l.length) :
    Holds (becomeTail mem m age) (l ++ [m]) := by
  have hlinks : (becomeTail mem m age).links = mem.links.store (.next m) none := by
    rw [← links_setAge mem m age, ← links_setNextpkt]
    rfl
  refine ⟨?_, by rw [List.getLast?_concat]; rfl, ?_⟩
  · have hl : (mem.links.store (.next m) none).Seg .aqHead l (some m) := by
      refine h.store_other (by simp) ?_
      rintro a ha ⟨rfl⟩
      exact hm ha
    rw [hlinks]
    exact seg_append.mpr ⟨some m, hl, by simp⟩
  · show mem.aq.len + 1 = _
    rw [hlen, List.length_append]
    rfl

theorem becomeTail_age (mem : Mem) (m : Nat) (age : BitVec 32) (x : Nat) :
    ((becomeTail mem m age).mbuf x).age = if x = m then age else (mem.mbuf x).age :=
  (setNextpkt_data (mem.setAge m age) m none x).1.trans (setAge_age mem m age x)

/-- **A frame is appended**, unless the `KASSERT` fails. -/
theorem append_spec (h : Holds mem l) (hm : m ∉ l) (hlen : mem.aq.len < mem.aq.maxlen) :
    ∃ mem', ieee80211AgeqAppend invariants mem m age =
        ((kassert invariants (0 ≤ (storedAge mem l age).toInt)).bind fun _ =>
          some (0, mem', { mbufs := [], nodes := [] })) ∧
      Holds mem' (l ++ [m]) ∧ mem'.aq.maxlen = mem.aq.maxlen ∧
      ∀ x, (mem'.mbuf x).age = if x = m then storedAge mem l age else (mem.mbuf x).age := by
  have hhead := h.head
  have htail := h.tail
  unfold ieee80211AgeqAppend
  rw [if_pos hlen]
  obtain rfl | ⟨l', t, rfl⟩ := List.eq_nil_or_concat l
  · rw [show mem.aq.tail = none from htail]
    refine ⟨becomeTail { mem with aq := { mem.aq with head := some m } } m age, rfl, ?_, rfl, ?_⟩
    · exact becomeTail_holds (seg_nil.mpr rfl) hm h.len
    · exact becomeTail_age _ m age
  · rw [List.concat_eq_append] at h hm hhead htail ⊢
    obtain ⟨first, rest, hl⟩ : ∃ first rest, l' ++ [t] = first :: rest := by
      cases l' with
      | nil => exact ⟨_, _, rfl⟩
      | cons a l' => exact ⟨_, _, rfl⟩
    rw [hl] at hhead
    rw [List.getLast?_concat] at htail
    have hstored : storedAge mem (l' ++ [t]) age = age - (mem.mbuf first).age := by rw [hl]; rfl
    rw [htail, hhead]
    refine ⟨becomeTail (mem.setNextpkt t (some m)) m (storedAge mem (l' ++ [t]) age), ?_, ?_, rfl, ?_⟩
    · rw [hstored]
      rfl
    · refine becomeTail_holds ?_ hm h.len
      have hend := h.list.store_endLink h.nodup (v := some m)
      rw [endLink_snoc, ← links_setNextpkt] at hend
      exact hend
    · intro x
      rw [becomeTail_age, (setNextpkt_data mem t (some m) x).1]

/-- **No space.** -/
theorem refused_spec (h : Holds mem l) (hm : m ∉ l) (hlen : ¬mem.aq.len < mem.aq.maxlen) :
    ∃ mem' nodes, ieee80211AgeqAppend invariants mem m age = some (ENOSPC, mem', { mbufs := [m], nodes := nodes }) ∧
      Holds mem' l ∧ mem'.aq.maxlen = mem.aq.maxlen ∧ SameData mem mem' := by
  unfold ieee80211AgeqAppend
  rw [if_neg hlen]
  refine ⟨_, _, rfl, ⟨?_, h.tail, h.len⟩, rfl, setNextpkt_data _ m none⟩
  have hl : (mem.links.store (.next m) none).Seg .aqHead l none := by
    refine h.list.store_other (by simp) ?_
    rintro a ha ⟨rfl⟩
    exact hm ha
  rw [← links_setNextpkt] at hl
  exact hl

/-! ## `ieee80211_ageq_age` -/

/-- In the loops: the queue is `l`, and `removed` hangs on the variable `head`, with `phead` behind its last frame. -/
structure Removing (mem : Mem) (phead : Ref) (removed : List Nat) : Prop where
  list : ∃ q, mem.links.Seg .head removed q
  phead : phead = endLink .head removed
  nodup : removed.Nodup

theorem Holds.store_head (h : Holds mem l) (hd : ∀ a ∈ removed, a ∉ l) :
    Holds (mem.store (endLink .head removed) p) l := by
  obtain ⟨hlen, -, htail⟩ := store_aq mem (endLink .head removed) p
  obtain ⟨h1, h2⟩ := endLink_ne Var.head Var.aqHead (by simp) hd
  refine ⟨?_, htail.trans h.tail, hlen.trans h.len⟩
  rw [links_store]
  exact h.list.store_other h1 h2

theorem Removing.add (h : Removing mem (endLink .head removed) removed) (hm : m ∉ removed) :
    Removing (mem.store (endLink .head removed) (some m)) (.next m) (removed ++ [m]) := by
  obtain ⟨q, hq⟩ := h.list
  have hs := hq.store_endLink h.nodup (v := some m)
  rw [← links_store] at hs
  refine ⟨⟨_, hs.snoc⟩, (endLink_snoc _ _ _).symm, ?_⟩
  rw [List.nodup_append]
  refine ⟨h.nodup, by simp, ?_⟩
  intro a ha b hb hab
  rw [List.mem_singleton.mp hb] at hab
  exact hm (hab ▸ ha)

/-- The frames that the loop takes from the head. -/
def due (mem : Mem) (quanta : BitVec 32) (l : List Nat) : List Nat := l.takeWhile fun m => (mem.mbuf m).age < quanta

def notDue (mem : Mem) (quanta : BitVec 32) (l : List Nat) : List Nat := l.dropWhile fun m => (mem.mbuf m).age < quanta

theorem SameData.due_eq (h : SameData mem mem') (quanta : BitVec 32) (l : List Nat) :
    due mem' quanta l = due mem quanta l ∧ notDue mem' quanta l = notDue mem quanta l := by
  unfold due notDue
  have hage : (fun m => decide ((mem'.mbuf m).age < quanta)) = fun m => decide ((mem.mbuf m).age < quanta) := by
    funext m
    rw [(h m).1]
  exact ⟨by rw [hage], by rw [hage]⟩

theorem Holds.tail_of (h : Holds mem (m :: l)) {aq : Ageq} (hhead : aq.head = (mem.mbuf m).nextpkt)
    (htail : aq.tail = if (mem.mbuf m).nextpkt = none then none else mem.aq.tail) (hlen : aq.len = mem.aq.len - 1) :
    Holds { mem with aq := aq } l := by
  have hchain : Chain mem.links.next (mem.mbuf m).nextpkt l := (seg_cons.mp h.chain).2
  refine ⟨?_, ?_, ?_⟩
  · show Chain mem.links.next aq.head l
    rw [hhead]
    exact hchain
  · show aq.tail = _
    rw [htail, h.tail]
    cases l with
    | nil => rw [if_pos (hchain.nil_iff.mpr rfl)]; rfl
    | cons b l => rw [if_neg (fun h0 => by simpa using hchain.nil_iff.mp h0), List.getLast?_cons_cons]
  · show aq.len = _
    rw [hlen, h.len, List.length_cons]
    omega

theorem ageLoop_spec : ∀ {l : List Nat} {mem : Mem} {phead : Ref} {removed : List Nat},
    Holds mem l → Removing mem phead removed → (removed ++ l).Nodup →
    ∃ mem' phead', (∀ fuel, l.length < fuel → ageLoop invariants quanta fuel mem phead = some (mem', phead')) ∧
      Holds mem' (notDue mem quanta l) ∧ Removing mem' phead' (removed ++ due mem quanta l) ∧
      SameData mem mem' ∧ mem'.aq.maxlen = mem.aq.maxlen := by
  intro l
  induction l with
  | nil =>
    intro mem phead removed h hr hnd
    refine ⟨mem, phead, ?_, h, ?_, .refl mem, rfl⟩
    · intro fuel hfuel
      obtain ⟨fuel, rfl⟩ : ∃ n, fuel = n + 1 := ⟨fuel - 1, by omega⟩
      rw [ageLoop, show mem.aq.head = none from h.head]
    · rw [show removed ++ due mem quanta [] = removed from List.append_nil removed]
      exact hr
  | cons m l ih =>
    intro mem phead removed h hr hnd
    have hhead : mem.aq.head = some m := h.head
    by_cases hdue : (mem.mbuf m).age < quanta
    · have hlen : decide (0 < mem.aq.len) = true := by
        rw [h.len, List.length_cons]
        simp
      obtain ⟨hm, hd⟩ : m ∉ removed ∧ ∀ a ∈ removed, a ∉ l := by
        rw [List.nodup_append] at hnd
        exact ⟨fun hm => hnd.2.2 m hm m List.mem_cons_self rfl,
          fun a ha hl => hnd.2.2 a ha a (List.mem_cons_of_mem m hl) rfl⟩
      have hnd' : ((removed ++ [m]) ++ l).Nodup := by rwa [List.append_assoc]
      obtain ⟨aq, haq⟩ : ∃ aq : Ageq, aq = { mem.aq with
          head := (mem.mbuf m).nextpkt
          tail := if (mem.mbuf m).nextpkt = none then none else mem.aq.tail
          len := mem.aq.len - 1 } := ⟨_, rfl⟩
      have h1 : Holds { mem with aq := aq } l := h.tail_of (by rw [haq]) (by rw [haq]) (by rw [haq])
      have hr1 : Removing { mem with aq := aq } (endLink .head removed) removed := ⟨hr.list, rfl, hr.nodup⟩
      have hdata : SameData mem (Mem.store { mem with aq := aq } (endLink .head removed) (some m)) :=
        store_data { mem with aq := aq } (endLink .head removed) (some m)
      obtain ⟨mem', phead', hloop, hq', hr', hd', hmax⟩ :=
        ih (h1.store_head (p := some m) hd) (hr1.add hm) hnd'
      rw [(hdata.due_eq quanta l).1] at hr'
      rw [(hdata.due_eq quanta l).2] at hq'
      refine ⟨mem', phead', ?_, ?_, ?_, hdata.trans hd', ?_⟩
      · intro fuel hfuel
        obtain ⟨fuel, rfl⟩ : ∃ n, fuel = n + 1 := ⟨fuel - 1, by omega⟩
        rw [ageLoop, hhead]
        dsimp only
        rw [if_pos hdue, kassert_of hlen, hr.phead, ← haq]
        exact hloop fuel (by simpa using hfuel)
      · rw [show notDue mem quanta (m :: l) = notDue mem quanta l from List.dropWhile_cons_of_pos (by simp [hdue])]
        exact hq'
      · rw [show due mem quanta (m :: l) = m :: due mem quanta l from List.takeWhile_cons_of_pos (by simp [hdue])]
        rw [List.append_assoc] at hr'
        exact hr'
      · rw [hmax, (store_aq _ _ _).2.1, haq]
    · refine ⟨mem, phead, ?_, ?_, ?_, .refl mem, rfl⟩
      · intro fuel hfuel
        obtain ⟨fuel, rfl⟩ : ∃ n, fuel = n + 1 := ⟨fuel - 1, by omega⟩
        rw [ageLoop, hhead]
        dsimp only
        rw [if_neg hdue]
      · rw [show notDue mem quanta (m :: l) = m :: l from List.dropWhile_cons_of_neg (by simp [hdue])]
        exact h
      · rw [show due mem quanta (m :: l) = [] from List.takeWhile_cons_of_neg (by simp [hdue]), List.append_nil]
        exact hr

theorem Holds.setAge (h : Holds mem l) (x : Nat) (v : BitVec 32) : Holds (mem.setAge x v) l := by
  refine ⟨?_, h.tail, h.len⟩
  rw [links_setAge]
  exact h.list

theorem Removing.setAge (h : Removing mem r removed) (x : Nat) (v : BitVec 32) :
    Removing (mem.setAge x v) r removed := by
  refine ⟨?_, h.phead, h.nodup⟩
  rw [links_setAge]
  exact h.list

theorem Removing.close (h : Removing mem (endLink .head removed) removed) (hq : Holds mem l)
    (hd : ∀ a ∈ removed, a ∉ l) :
    Chain (mem.store (endLink .head removed) none).links.next (mem.store (endLink .head removed) none).head removed ∧
      Holds (mem.store (endLink .head removed) none) l := by
  obtain ⟨q, hlist⟩ := h.list
  have hs := hlist.store_endLink h.nodup (v := none)
  rw [← links_store] at hs
  exact ⟨hs, hq.store_head hd⟩

/-- The ages of the frames after a call with these quanta: the new head gets younger. -/
def agedBy (quanta : BitVec 32) (mem : Mem) (l : List Nat) (x : Nat) : BitVec 32 :=
  if l.head? = some x then (mem.mbuf x).age - quanta else (mem.mbuf x).age

/-- **Frames that are due** leave the queue, and are returned. -/
theorem age_spec (uninit : Option Nat) (h : Holds mem l) :
    ∃ mem', (∀ fuel, l.length < fuel → ieee80211AgeqAge invariants fuel mem quanta uninit = some mem') ∧
      Holds mem' (notDue mem quanta l) ∧
      Chain mem'.links.next mem'.head (due mem quanta l) ∧ mem'.aq.maxlen = mem.aq.maxlen ∧
      ∀ x, (mem'.mbuf x).age = agedBy quanta mem (notDue mem quanta l) x := by
  have h0 : Holds { mem with head := uninit } l := ⟨h.list, h.tail, h.len⟩
  have hr0 : Removing { mem with head := uninit } (endLink .head []) [] := ⟨⟨uninit, .nil⟩, rfl, List.nodup_nil⟩
  by_cases hlen : mem.aq.len = 0
  · have hl : l = [] := List.length_eq_zero_iff.mp (by have := h.len; omega)
    subst hl
    obtain ⟨hc, hq⟩ := hr0.close h0 (by simp)
    refine ⟨_, fun fuel _ => ?_, hq, hc, rfl, fun x => rfl⟩
    unfold ieee80211AgeqAge
    dsimp only
    rw [if_neg (by simp [hlen])]
    rfl
  · obtain ⟨mem₁, phead, hloop, hq, hr, hdata, hmax⟩ := ageLoop_spec
      h0 hr0 (by simpa using h0.nodup)
    rw [List.nil_append] at hr
    rw [endLink_nil] at hloop
    obtain ⟨mem₂, hmem₂⟩ : ∃ mem₂, mem₂ =
        mem₁.aq.head.elim mem₁ fun m => mem₁.setAge m ((mem₁.mbuf m).age - quanta) := ⟨_, rfl⟩
    have hq₁ : Holds mem₁ (notDue mem quanta l) := hq
    have hr₁ : Removing mem₁ phead (due mem quanta l) := hr
    have hd : ∀ a ∈ due mem quanta l, a ∉ notDue mem quanta l := by
      have hnd := h.nodup
      rw [← List.takeWhile_append_dropWhile (p := fun m => decide ((mem.mbuf m).age < quanta)) (l := l),
        List.nodup_append] at hnd
      exact fun a ha hb => hnd.2.2 a ha a hb rfl
    have hcase : Holds mem₂ (notDue mem quanta l) ∧ Removing mem₂ phead (due mem quanta l) ∧
        mem₂.aq.maxlen = mem.aq.maxlen ∧ ∀ x, (mem₂.mbuf x).age = agedBy quanta mem (notDue mem quanta l) x := by
      unfold agedBy
      rw [← hq₁.head]
      cases hhead : mem₁.aq.head with
      | none =>
        rw [hhead, Option.elim_none] at hmem₂
        subst hmem₂
        refine ⟨hq₁, hr₁, hmax, fun x => ?_⟩
        rw [if_neg (by simp)]
        exact (hdata x).1
      | some m =>
        rw [hhead, Option.elim_some] at hmem₂
        subst hmem₂
        refine ⟨hq₁.setAge _ _, hr₁.setAge _ _, hmax, fun x => ?_⟩
        rw [setAge_age, (hdata x).1, (hdata m).1]
        by_cases hx : x = m
        · subst hx
          simp
        · rw [if_neg hx, if_neg fun he => hx (Option.some.inj he).symm]
    obtain ⟨hq₂, hr₂, hmax₂, hage₂⟩ := hcase
    have hphead := hr₂.phead
    subst hphead
    obtain ⟨hc, hq'⟩ := hr₂.close hq₂ hd
    refine ⟨mem₂.store (endLink .head (due mem quanta l)) none, ?_, hq', hc, (store_aq _ _ _).2.1.trans hmax₂, ?_⟩
    · intro fuel hfuel
      unfold ieee80211AgeqAge
      dsimp only
      rw [if_pos hlen, hloop fuel hfuel, hmem₂]
      dsimp only [Option.bind_eq_bind, Option.bind_some]
      cases mem₁.aq.head <;> rfl
    · intro x
      rw [(store_data mem₂ _ none x).1, hage₂]

/-! ## `ieee80211_ageq_remove` -/

theorem Holds.load_prev (h : Holds mem (kept ++ l)) : Chain mem.links.next (mem.load (endLink .aqHead kept)) l := by
  obtain ⟨q, hk, hl⟩ := seg_append.mp h.list
  have hq : mem.load (endLink .aqHead kept) = q := Links.Seg.load_endLink hk
  rw [hq]
  exact hl

theorem removeTail_spec (h : Holds mem (kept ++ m :: l)) :
    ∃ tail, removeTail invariants { mem with aq := { mem.aq with len := mem.aq.len - 1 } } (endLink .aqHead kept) m =
        some { mem with aq := { mem.aq with len := mem.aq.len - 1, tail := tail } } ∧
      tail = (kept ++ l).getLast? := by
  have hl : Chain mem.links.next (mem.mbuf m).nextpkt l := (seg_cons.mp h.load_prev).2
  have hnd := h.nodup
  unfold removeTail
  dsimp only
  by_cases htail : mem.aq.tail = some m
  · -- the frame is the last one
    have hnil : l = [] := by
      rw [h.tail] at htail
      obtain rfl | ⟨l', b, rfl⟩ := List.eq_nil_or_concat l
      · rfl
      · rw [List.concat_eq_append, ← List.cons_append, ← List.append_assoc, List.getLast?_concat] at htail
        obtain rfl := Option.some.inj htail
        rw [List.concat_eq_append, List.nodup_append] at hnd
        exact absurd (List.nodup_cons.mp hnd.2.1).1 (by simp)
    subst hnil
    have hnext : (mem.mbuf m).nextpkt = none := hl.nil_iff.mpr rfl
    rw [if_pos htail, kassert_of (by simp [hnext])]
    simp only [Option.bind_eq_bind, Option.bind_some]
    obtain rfl | ⟨kept', b, rfl⟩ := List.eq_nil_or_concat kept
    · have hlen := h.len
      rw [if_pos (show mem.aq.head = some m from h.head), kassert_of (by simp at hlen; simp [hlen])]
      exact ⟨none, rfl, rfl⟩
    · rw [List.concat_eq_append] at h hnd ⊢
      have hne : ¬mem.aq.head = some m := by
        rw [h.head]
        intro hhead
        have hmem : m ∈ kept' ++ [b] := by
          cases kept' with
          | nil =>
            simp at hhead
            simp [hhead]
          | cons c kept' =>
            simp at hhead
            simp [hhead]
        rw [List.nodup_append] at hnd
        exact hnd.2.2 m hmem m List.mem_cons_self rfl
      rw [if_neg hne, endLink_snoc]
      exact ⟨some b, rfl, by rw [List.append_nil, List.getLast?_concat]⟩
  · rw [if_neg htail]
    refine ⟨mem.aq.tail, rfl, ?_⟩
    rw [h.tail] at htail ⊢
    obtain rfl | ⟨l', b, rfl⟩ := List.eq_nil_or_concat l
    · exact absurd (List.getLast?_concat ..) htail
    · rw [List.concat_eq_append, ← List.cons_append, ← List.append_assoc, ← List.append_assoc, List.getLast?_concat,
        List.getLast?_concat]

theorem Holds.unlink (h : Holds mem (kept ++ m :: l)) {tail : Option Nat} (htail : tail = (kept ++ l).getLast?) :
    Holds (Mem.store { mem with aq := { mem.aq with len := mem.aq.len - 1, tail := tail } } (endLink .aqHead kept)
      (mem.mbuf m).nextpkt) (kept ++ l) := by
  obtain ⟨q, hk, hml⟩ := seg_append.mp h.list
  have hl : Chain mem.links.next (mem.mbuf m).nextpkt l := (seg_cons.mp hml).2
  have hnd := h.nodup
  rw [List.nodup_append] at hnd
  obtain ⟨hlen', -, htail'⟩ := store_aq { mem with aq := { mem.aq with len := mem.aq.len - 1, tail := tail } }
    (endLink .aqHead kept) (mem.mbuf m).nextpkt
  refine ⟨?_, htail'.trans htail, ?_⟩
  · rw [links_store]
    refine seg_append.mpr ⟨_, Links.Seg.store_endLink hk hnd.1, LinkedList.Seg.frame hl fun a ha => ?_⟩
    obtain ⟨-, hne⟩ := endLink_ne Var.aqHead Var.head (l := kept) (by simp)
      fun b hb hb' => hnd.2.2 b hb b (List.mem_cons_of_mem m hb') rfl
    cases hend : endLink Var.aqHead kept with
    | var v => rfl
    | next b =>
      refine store_next_of_ne ?_
      rintro rfl
      exact hne a ha hend
  · rw [hlen']
    have hlen := h.len
    simp only [List.length_append, List.length_cons] at hlen ⊢
    omega

theorem SameData.matches_eq (h : SameData mem mem') (ni : Option Nat) : matchesNode mem' ni = matchesNode mem ni := by
  funext m
  unfold matchesNode
  rw [(h m).2]

theorem Removing.store_prev (h : Removing mem r removed) (hd : ∀ a ∈ kept, a ∉ removed) :
    Removing (mem.store (endLink .aqHead kept) p) r removed := by
  obtain ⟨q, hlist⟩ := h.list
  obtain ⟨h1, h2⟩ := endLink_ne Var.aqHead Var.head (by simp) hd
  refine ⟨⟨q, ?_⟩, h.phead, h.nodup⟩
  rw [links_store]
  exact hlist.store_other h1 h2

theorem removeLoop_spec : ∀ {l kept : List Nat} {mem : Mem} {phead : Ref} {removed : List Nat},
    Holds mem (kept ++ l) → Removing mem phead removed → (removed ++ (kept ++ l)).Nodup →
    ∃ mem' phead', (∀ fuel, l.length < fuel →
        removeLoop invariants ni fuel mem (endLink .aqHead kept) phead = some (mem', phead')) ∧
      Holds mem' (kept ++ l.filter fun m => !matchesNode mem ni m) ∧
      Removing mem' phead' (removed ++ l.filter (matchesNode mem ni)) ∧
      SameData mem mem' ∧ mem'.aq.maxlen = mem.aq.maxlen := by
  intro l
  induction l with
  | nil =>
    intro kept mem phead removed h hr hnd
    refine ⟨mem, phead, ?_, h, by simpa using hr, .refl mem, rfl⟩
    intro fuel hfuel
    obtain ⟨fuel, rfl⟩ : ∃ n, fuel = n + 1 := ⟨fuel - 1, by omega⟩
    rw [removeLoop, h.load_prev.nil_iff.mpr rfl]
  | cons m l ih =>
    intro kept mem phead removed h hr hnd
    have hload : mem.load (endLink .aqHead kept) = some m := h.load_prev.head
    cases hmatch : matchesNode mem ni m with
    | false =>
      have h' : Holds mem ((kept ++ [m]) ++ l) := by rwa [List.append_assoc]
      obtain ⟨mem', phead', hloop, hq', hr', hd', hmax⟩ := ih h' hr (by rwa [List.append_assoc])
      refine ⟨mem', phead', ?_, ?_, ?_, hd', hmax⟩
      · intro fuel hfuel
        obtain ⟨fuel, rfl⟩ : ∃ n, fuel = n + 1 := ⟨fuel - 1, by omega⟩
        rw [removeLoop, hload]
        dsimp only
        rw [hmatch, if_pos rfl, ← endLink_snoc Var.aqHead kept m]
        exact hloop fuel (by simpa using hfuel)
      · simpa [hmatch] using hq'
      · simpa [hmatch] using hr'
    | true =>
      obtain ⟨tail, hrt, htail⟩ := removeTail_spec h
      obtain ⟨hm, hd⟩ : m ∉ removed ∧ ∀ a ∈ removed, a ∉ kept ++ l := by
        rw [List.nodup_append] at hnd
        refine ⟨fun hm => hnd.2.2 m hm m (by simp) rfl, fun a ha hl => hnd.2.2 a ha a ?_ rfl⟩
        simp only [List.mem_append, List.mem_cons] at hl ⊢
        tauto
      have hnd' : ((removed ++ [m]) ++ (kept ++ l)).Nodup := by
        refine (List.Perm.nodup_iff ?_).mp hnd
        rw [List.append_assoc]
        exact List.Perm.append_left removed List.perm_middle
      have hlen : decide (0 < mem.aq.len) = true := by
        rw [h.len]
        simp
        omega
      obtain ⟨aq, haq⟩ : ∃ aq : Ageq, aq = { mem.aq with len := mem.aq.len - 1, tail := tail } := ⟨_, rfl⟩
      obtain ⟨memU, hmemU⟩ : ∃ memU, memU =
          Mem.store { mem with aq := aq } (endLink .aqHead kept) (mem.mbuf m).nextpkt := ⟨_, rfl⟩
      have hqU : Holds memU (kept ++ l) := by
        rw [hmemU, haq]
        exact h.unlink htail
      have hphead := hr.phead
      subst hphead
      have hrU : Removing memU (endLink .head removed) removed := by
        have hr0 : Removing { mem with aq := { aq with head := mem.aq.head } } (endLink .head removed) removed :=
          ⟨hr.list, rfl, hr.nodup⟩
        rw [hmemU]
        have hd' : ∀ a ∈ kept, a ∉ removed := fun a ha hb => hd a hb (List.mem_append_left l ha)
        have hrs := hr0.store_prev (p := (mem.mbuf m).nextpkt) hd'
        rw [haq] at hrs ⊢
        exact hrs
      have hdata : SameData mem (memU.store (endLink .head removed) (some m)) := by
        have h1 : SameData mem memU := by
          rw [hmemU]
          exact store_data { mem with aq := aq } _ _
        exact h1.trans (store_data memU _ _)
      obtain ⟨mem', phead', hloop, hq', hr', hd', hmax⟩ :=
        ih (hqU.store_head (p := some m) hd) (hrU.add hm) hnd'
      rw [hdata.matches_eq] at hq' hr'
      refine ⟨mem', phead', ?_, ?_, ?_, hdata.trans hd', ?_⟩
      · intro fuel hfuel
        obtain ⟨fuel, rfl⟩ : ∃ n, fuel = n + 1 := ⟨fuel - 1, by omega⟩
        have hrest := hloop fuel (by simpa using hfuel)
        rw [hmemU, haq] at hrest
        rw [removeLoop, hload]
        dsimp only
        rw [hmatch, if_neg (by decide), kassert_of hlen]
        simp only [Option.bind_eq_bind, Option.bind_some]
        rw [hrt, Option.bind_some]
        exact hrest
      · simpa [hmatch] using hq'
      · simpa [hmatch] using hr'
      · rw [hmax, (store_aq _ _ _).2.1, hmemU, (store_aq _ _ _).2.1, haq]

/-- The ages after a removal: a new head gets the old head's. -/
def correctedAge (mem : Mem) (ni : Option Nat) (l : List Nat) (x : Nat) : BitVec 32 :=
  match l with
  | [] => (mem.mbuf x).age
  | h :: _ =>
    if matchesNode mem ni h ∧ (l.filter fun m => !matchesNode mem ni m).head? = some x then (mem.mbuf h).age
    else (mem.mbuf x).age

theorem correctAge_eq (mem : Mem) (ohead : Option Nat) :
    correctAge mem ohead = mem ∨ ∃ x v, correctAge mem ohead = mem.setAge x v := by
  unfold correctAge
  split
  · split
    · exact .inr ⟨_, _, rfl⟩
    · exact .inl rfl
  · exact .inl rfl

theorem correctAge_age (mem : Mem) (ohead : Option Nat) (x : Nat) :
    ((correctAge mem ohead).mbuf x).age = match mem.head with
      | none => (mem.mbuf x).age
      | some h => if some h = ohead ∧ mem.aq.head = some x then (mem.mbuf h).age else (mem.mbuf x).age := by
  unfold correctAge
  cases mem.head with
  | none => rfl
  | some h =>
    cases mem.aq.head with
    | none => simp
    | some m =>
      dsimp only
      by_cases ho : some h = ohead
      · rw [if_pos ho, setAge_age]
        by_cases hx : x = m
        · simp [hx, ho]
        · rw [if_neg hx, if_neg fun he => hx (Option.some.inj he.2).symm]
      · rw [if_neg ho, if_neg fun he => ho he.1]

/-- **The matching frames** leave the queue, and are returned. -/
theorem remove_spec (ni uninit : Option Nat) (h : Holds mem l) :
    ∃ mem', (∀ fuel, l.length < fuel → ieee80211AgeqRemove invariants fuel mem ni uninit = some mem') ∧
      Holds mem' (l.filter fun m => !matchesNode mem ni m) ∧
      Chain mem'.links.next mem'.head (l.filter (matchesNode mem ni)) ∧ mem'.aq.maxlen = mem.aq.maxlen ∧
      ∀ x, (mem'.mbuf x).age = correctedAge mem ni l x := by
  have h0 : Holds { mem with head := uninit } ([] ++ l) := ⟨h.list, h.tail, h.len⟩
  have hr0 : Removing { mem with head := uninit } (.var .head) [] := ⟨⟨uninit, .nil⟩, rfl, List.nodup_nil⟩
  obtain ⟨mem₁, phead, hloop, hq, hr, hdata, hmax⟩ := removeLoop_spec
    h0 hr0 (by simpa using h0.nodup)
  have hq₁ : Holds mem₁ (l.filter fun m => !matchesNode mem ni m) := hq
  have hr₁ : Removing mem₁ phead (l.filter (matchesNode mem ni)) := hr
  have hd : ∀ a ∈ l.filter (matchesNode mem ni), a ∉ l.filter fun m => !matchesNode mem ni m := by
    intro a ha hb
    simp only [List.mem_filter] at ha hb
    simp [ha.2] at hb
  obtain ⟨hq₂, hr₂, hmax₂⟩ : Holds (correctAge mem₁ mem.aq.head) (l.filter fun m => !matchesNode mem ni m) ∧
      Removing (correctAge mem₁ mem.aq.head) phead (l.filter (matchesNode mem ni)) ∧
      (correctAge mem₁ mem.aq.head).aq.maxlen = mem.aq.maxlen := by
    obtain he | ⟨x, v, he⟩ := correctAge_eq mem₁ mem.aq.head
    · rw [he]
      exact ⟨hq₁, hr₁, hmax⟩
    · rw [he]
      exact ⟨hq₁.setAge x v, hr₁.setAge x v, hmax⟩
  have hphead := hr₂.phead
  subst hphead
  obtain ⟨hc, hq'⟩ := hr₂.close hq₂ hd
  refine ⟨(correctAge mem₁ mem.aq.head).store (endLink .head (l.filter (matchesNode mem ni))) none, ?_, hq', hc,
    (store_aq _ _ _).2.1.trans hmax₂, ?_⟩
  · intro fuel hfuel
    unfold ieee80211AgeqRemove
    dsimp only
    rw [← endLink_nil (α := Nat) Var.aqHead, hloop fuel hfuel]
    rfl
  · intro x
    rw [(store_data _ _ none x).1, correctAge_age, hq₁.head, h.head]
    have hdata' : ∀ y, (mem₁.mbuf y).age = (mem.mbuf y).age := fun y => (hdata y).1
    simp only [hdata']
    unfold correctedAge
    cases l with
    | nil => cases mem₁.head <;> simp
    | cons m l =>
      obtain ⟨q, hlist⟩ := hr₁.list
      obtain ⟨first, hfirst⟩ : ∃ first, first = ((m :: l).filter fun m => !matchesNode mem ni m).head? := ⟨_, rfl⟩
      rw [← hfirst, List.head?_cons]
      dsimp only
      cases hm : matchesNode mem ni m with
      | true =>
        rw [List.filter_cons_of_pos hm] at hlist
        have hhead : mem₁.head = some m := (seg_cons.mp hlist).1
        rw [hhead]
        simp
      | false =>
        rw [List.filter_cons_of_pos (by simp [hm]), List.head?_cons] at hfirst
        rw [if_neg (by simp)]
        -- nothing was removed from the head, and `head` is not set before that: it may be anything
        cases mem₁.head with
        | none => rfl
        | some h' =>
          dsimp only
          by_cases he : some h' = some m ∧ first = some x
          · rw [if_pos he]
            obtain ⟨rfl⟩ := he.1
            rw [Option.some.inj (hfirst.symm.trans he.2)]
          · rw [if_neg he]

/-! ## `ieee80211_ageq_mfree` -/

/-- **A list is freed** that is no part of the queue. -/
theorem mfree_spec : ∀ {l : List Nat} {p : Option Nat} {mem : Mem} {queue : List Nat},
    Chain mem.links.next p l → Holds mem queue → (∀ a ∈ l, a ∉ queue) →
    ∃ mem' nodes, (∀ fuel, l.length ≤ fuel →
        ieee80211AgeqMfree fuel mem p = some (mem', { mbufs := l, nodes := nodes })) ∧
      Holds mem' queue ∧ mem'.aq.maxlen = mem.aq.maxlen ∧ SameData mem mem' := by
  intro l
  induction l with
  | nil =>
    intro p mem queue hc h _
    rw [hc.nil_iff.mpr rfl]
    refine ⟨mem, [], fun fuel _ => ?_, h, rfl, .refl mem⟩
    unfold ieee80211AgeqMfree
    rfl
  | cons m l ih =>
    intro p mem queue hc h hd
    obtain ⟨rfl, hl⟩ := seg_cons.mp hc
    have hm : m ∉ l := (List.nodup_cons.mp hc.nodup).1
    have hq : Holds (mem.setNextpkt m none) queue := by
      refine ⟨?_, h.tail, h.len⟩
      rw [links_setNextpkt]
      refine h.list.store_other (by simp) ?_
      rintro a ha ⟨rfl⟩
      exact hd m List.mem_cons_self ha
    have hl' : Chain (mem.setNextpkt m none).links.next (mem.mbuf m).nextpkt l := by
      rw [links_setNextpkt]
      refine LinkedList.Seg.frame hl fun a ha => store_next_of_ne ?_
      rintro rfl
      exact hm ha
    obtain ⟨mem', nodes, hrest, hq', hmax, hdata⟩ :=
      ih hl' hq fun a ha => hd a (List.mem_cons_of_mem m ha)
    refine ⟨mem', (ageqMfree mem m).2.nodes ++ nodes, ?_, hq', hmax, (setNextpkt_data mem m none).trans hdata⟩
    intro fuel hfuel
    simp only [List.length_cons] at hfuel
    obtain ⟨fuel, rfl⟩ : ∃ n, fuel = n + 1 := ⟨fuel - 1, by omega⟩
    rw [ieee80211AgeqMfree]
    dsimp only [ageqMfree]
    rw [hrest fuel (by omega)]
    rfl

/-- **The matching frames are drained.** -/
theorem drainNode_spec (uninit : Option Nat) (h : Holds mem l) :
    ∃ mem' nodes, (∀ fuel, l.length < fuel → ieee80211AgeqDrainNode invariants fuel mem ni uninit =
        some (mem', { mbufs := l.filter (matchesNode mem ni), nodes := nodes })) ∧
      Holds mem' (l.filter fun m => !matchesNode mem ni m) ∧ mem'.aq.maxlen = mem.aq.maxlen ∧
      ∀ x, (mem'.mbuf x).age = correctedAge mem ni l x := by
  obtain ⟨mem₁, hremove, hq, hc, hmax, hage⟩ := remove_spec ni uninit h
  have hle := List.length_filter_le (matchesNode mem ni) l
  obtain ⟨mem', nodes, hfree, hq', hmax', hdata⟩ := mfree_spec hc hq (by
    intro a ha hb
    simp only [List.mem_filter] at ha hb
    simp [ha.2] at hb)
  refine ⟨mem', nodes, ?_, hq', hmax'.trans hmax, fun x => (hdata x).1.trans (hage x)⟩
  intro fuel hfuel
  unfold ieee80211AgeqDrainNode
  rw [hremove fuel hfuel]
  exact hfree fuel (by omega)

end Net80211.Ageq
