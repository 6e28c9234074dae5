import Wifi.Mac80211.DefragInv

/-!
# Runs of the defragmentation

* `Outcome` — what a call can do to a cache, and `defragment_outcome`.
* `Inv` — every entry of every cache holds the fragments of one frame, and no received frame is in two
  places.
* `reassembled_one_frame` — **what is returned is one frame**, in every run.
-/

namespace Mac80211.Defrag

variable (k : KernelApi)

/-! ## One call -/

/-- What `ieee80211_rx_h_defragment` can do. -/
inductive Outcome (c : Cache) (rx : Rx) : RxResult × Cache → Prop where
  /-- no fragment -/
  | whole : (isCtl rx.skb.hdr || isExt rx.skb.hdr) = true ∨ rx.skb.hdr.frag = 0 →
      Outcome c rx (.continue rx.skb, c)
  | dropped {reason : DropReason} {c' : Cache} : Purged c c' →
      Outcome c rx (.drop reason, c')
  /-- the first fragment of a new frame -/
  | first {c' : Cache} {idx : Nat} {e : FragmentEntry} :
      c'.entries = Function.update c.entries idx e → Pending e [rx] → Outcome c rx (.queued, c')
  /-- a fragment of a pending frame -/
  | later {c₁ c' : Cache} {idx : Nat} {e : FragmentEntry} : Purged c c₁ →
      c'.entries = Function.update c₁.entries idx e → (c₁.entries idx).skbList ≠ [] →
      (∀ frags, Pending (c₁.entries idx) frags → Pending e (frags ++ [rx])) →
      Outcome c rx (.queued, c')
  /-- the last fragment of a pending frame -/
  | last {c₁ c' : Cache} {idx : Nat} {e e' : FragmentEntry} {skb : Skb} : Purged c c₁ →
      c'.entries = Function.update c₁.entries idx e' → e'.skbList = [] →
      (c₁.entries idx).skbList ≠ [] →
      (∀ frags, Pending (c₁.entries idx) frags → Pending e (frags ++ [rx])) →
      skb.body = e.skbList.flatMap Skb.body → skb.src = e.skbList.flatMap Skb.src →
      Outcome c rx (.continue skb, c')

theorem foldl_skbPutData : ∀ (rest : List Skb) (first : Skb),
    (rest.foldl skbPutData first).body = (first :: rest).flatMap Skb.body ∧
      (rest.foldl skbPutData first).src = (first :: rest).flatMap Skb.src
  | [], first => by simp
  | skb :: rest, first => by
    obtain ⟨hb, hs⟩ := foldl_skbPutData rest (skbPutData first skb)
    rw [List.foldl_cons, hb, hs]
    simp only [List.flatMap_cons, skbPutData, List.append_assoc, and_self]

theorem purged_set {c c₁ : Cache} {idx : Nat} {e : FragmentEntry} (h : Purged c c₁)
    (he : e.skbList = []) : Purged c (c₁.set idx e) := by
  refine h.trans fun i => ?_
  unfold Cache.set
  by_cases hi : i = idx
  · subst hi
    refine .inr ?_
    simp only [Function.update_self, he]
  · exact .inl (Function.update_of_ne hi _ _)

theorem completeFrame_outcome {c c₁ : Cache} {idx : Nat} {e : FragmentEntry} {rx : Rx}
    (hp : Purged c c₁) (hne : (c₁.entries idx).skbList ≠ [])
    (ha : ∀ frags, Pending (c₁.entries idx) frags → Pending (appended e rx) (frags ++ [rx])) :
    Outcome c rx (completeFrame c₁ idx e rx) := by
  unfold completeFrame
  simp only
  split
  · exact .later hp rfl hne ha
  · split
    · exact .later hp rfl hne ha
    · rename_i first rest hlist
      split
      · exact .dropped (purged_set hp rfl)
      · obtain ⟨hb, hs⟩ := foldl_skbPutData rest first
        refine .last hp rfl rfl hne ha ?_ ?_
        · rw [hb, ← hlist]; rfl
        · rw [hs, ← hlist]; rfl

theorem reassembleAdd_outcome {c : Cache} {jiffies : BitVec 64} {rx : Rx}
    (h0 : rx.skb.hdr.frag = 0) :
    let add := ieee80211ReassembleAdd c 0 rx.skb.hdr.seq rx.seqnoIdx jiffies rx.skb
    Outcome c rx (.queued, add.2.set add.1 (rememberKey (add.2.entries add.1) rx)) := by
  simp only [ieee80211ReassembleAdd, Cache.set, Function.update_self]
  exact .first (Function.update_idem ..) (rememberKey_pending rfl h0 rfl rfl rfl rfl)

theorem defragment_outcome (c : Cache) (jiffies : BitVec 64) (rx : Rx) :
    Outcome c rx (ieee80211RxHDefragment k c jiffies rx) := by
  unfold ieee80211RxHDefragment
  simp only
  split
  · rename_i hc
    exact .whole (.inl hc)
  · split
    · rename_i hw
      exact .whole (.inr hw.2)
    · split
      · exact .dropped (Purged.refl c)
      · split
        · exact .dropped (Purged.refl c)
        · split
          · rename_i h0
            exact reassembleAdd_outcome h0
          · rename_i h0
            have hfind := findLoop_spec k rx.skb.hdr.frag.toNat rx.skb.hdr.seq rx.seqnoIdx jiffies
              rx.skb.hdr IEEE80211_FRAGMENT_MAX c.next c
            unfold ieee80211ReassembleFind
            split
            · rename_i c₁ heq
              rw [heq] at hfind
              exact .dropped hfind.1
            · rename_i idx c₁ heq
              rw [heq] at hfind
              obtain ⟨hp, hm⟩ := hfind
              have hmatch := hm idx rfl
              split
              · exact .dropped hp
              · rename_i e hok
                obtain ⟨f, hf, -⟩ := hmatch.sender
                refine completeFrame_outcome hp ?_ fun frags h => h.append h0 hmatch hok
                intro hnil
                rw [hnil] at hf
                cases hf

/-! ## Runs -/

def State.entry (s : State) (b : Bool) (i : Nat) : FragmentEntry := (s.caches b).entries i

/-- The received frames whose data an entry holds. -/
def FragmentEntry.src (e : FragmentEntry) : List Nat := e.skbList.flatMap Skb.src

def Received (received : List Rx) (r : Rx) : Prop :=
  ∃ i, r.skb.src = [i] ∧ received[i]? = some r

theorem Received.append {received : List Rx} {r : Rx} (h : Received received r) (rx : Rx) :
    Received (received ++ [rx]) r := by
  obtain ⟨i, hsrc, hi⟩ := h
  refine ⟨i, hsrc, ?_⟩
  rw [List.getElem?_append_left (List.getElem?_eq_some_iff.1 hi).1, hi]

theorem received_last {received : List Rx} {rx : Rx} (h : rx.skb.src = [received.length]) :
    Received (received ++ [rx]) rx :=
  ⟨received.length, h, List.getElem?_concat_length⟩

/-- The entry holds received fragments of one frame. -/
def Holds (received : List Rx) (e : FragmentEntry) : Prop :=
  e.skbList = [] ∨ ∃ frags, Pending e frags ∧ ∀ r ∈ frags, Received received r

theorem Holds.append {received : List Rx} {e : FragmentEntry} (h : Holds received e) (rx : Rx) :
    Holds (received ++ [rx]) e := by
  cases h with
  | inl hnil => exact .inl hnil
  | inr hp =>
    obtain ⟨frags, hp, hr⟩ := hp
    exact .inr ⟨frags, hp, fun r hmem => (hr r hmem).append rx⟩

theorem Pending.src {e : FragmentEntry} {frags : List Rx} (h : Pending e frags) :
    e.src = frags.flatMap fun r => r.skb.src := by
  rw [FragmentEntry.src, h.stored, List.flatMap_map]

theorem Holds.src_lt {received : List Rx} {e : FragmentEntry} (h : Holds received e) {x : Nat}
    (hx : x ∈ e.src) : x < received.length := by
  cases h with
  | inl hnil =>
    rw [FragmentEntry.src, hnil] at hx
    cases hx
  | inr hp =>
    obtain ⟨frags, hp, hr⟩ := hp
    rw [hp.src, List.mem_flatMap] at hx
    obtain ⟨r, hmem, hx⟩ := hx
    obtain ⟨i, hsrc, hi⟩ := hr r hmem
    rw [hsrc, List.mem_singleton] at hx
    rw [hx]
    exact (List.getElem?_eq_some_iff.1 hi).1

/-- Invariant of the caches: every entry holds the fragments of one frame, and `place` says where each
    received frame is: in an entry, or (`none`) gone. -/
structure Inv (s : State) : Prop where
  holds : ∀ b i, Holds s.received (s.entry b i)
  nodup : ∀ b i, (s.entry b i).src.Nodup
  apart : ∃ place : Nat → Option (Bool × Nat),
    (∀ b i, ∀ x ∈ (s.entry b i).src, place x = some (b, i)) ∧ ∀ x ∈ s.used, place x = none
  used : ∀ x ∈ s.used, x < s.received.length

theorem Inv.unused {s : State} (h : Inv s) {b : Bool} {i x : Nat} (hx : x ∈ (s.entry b i).src) :
    x ∉ s.used := by
  obtain ⟨place, hin, hout⟩ := h.apart
  intro hu
  have he := hin b i x hx
  rw [hout x hu] at he
  cases he

/-- A step that empties entries and changes one: there are only the new frame and what was in that
    entry to move. -/
theorem Inv.step_of {s s' : State} (h : Inv s) {rx : Rx} {b : Bool} {idx : Nat}
    (hrec : s'.received = s.received ++ [rx])
    (hother : ∀ b' i', (b', i') ≠ (b, idx) →
      s'.entry b' i' = s.entry b' i' ∨ (s'.entry b' i').skbList = [])
    (hslot : Holds s'.received (s'.entry b idx)) (hnodup : (s'.entry b idx).src.Nodup)
    (hsrc : ∀ x ∈ (s'.entry b idx).src, x = s.received.length ∨ x ∈ (s.entry b idx).src)
    (hused : ∀ x ∈ s'.used, x ∈ s.used ∨ x = s.received.length ∨ x ∈ (s.entry b idx).src)
    (hgone : ∀ x ∈ s'.used, x ∉ (s'.entry b idx).src) : Inv s' := by
  obtain ⟨place, hin, hout⟩ := h.apart
  have hsame : ∀ b' i', (b', i') ≠ (b, idx) → ∀ x ∈ (s'.entry b' i').src, x ∈ (s.entry b' i').src := by
    intro b' i' hne x hx
    cases hother b' i' hne with
    | inl he => rwa [he] at hx
    | inr hnil =>
      rw [FragmentEntry.src, hnil] at hx
      cases hx
  refine ⟨?_, ?_, ?_, ?_⟩
  · intro b' i'
    by_cases hne : (b', i') = (b, idx)
    · cases hne
      exact hslot
    · cases hother b' i' hne with
      | inl he =>
        rw [he, hrec]
        exact (h.holds b' i').append rx
      | inr hnil => exact .inl hnil
  · intro b' i'
    by_cases hne : (b', i') = (b, idx)
    · cases hne
      exact hnodup
    · cases hother b' i' hne with
      | inl he =>
        rw [he]
        exact h.nodup b' i'
      | inr hnil =>
        rw [FragmentEntry.src, hnil]
        exact List.nodup_nil
  · refine ⟨fun x => if x ∈ (s'.entry b idx).src then some (b, idx)
      else if x ∈ s'.used then none else place x, ?_, ?_⟩
    · intro b' i' x hx
      by_cases hne : (b', i') = (b, idx)
      · cases hne
        exact if_pos hx
      · have hold := hsame b' i' hne x hx
        have hplace := hin b' i' x hold
        -- a frame of another entry is neither new nor from the entry that changes
        have hkeep : ∀ y, y = s.received.length ∨ y ∈ (s.entry b idx).src → x ≠ y := by
          intro y hy hxy
          subst hxy
          cases hy with
          | inl hn => exact absurd ((h.holds b' i').src_lt hold) (by omega)
          | inr hy =>
            rw [hin b idx x hy] at hplace
            exact hne (Option.some.inj hplace).symm
        beta_reduce
        rw [if_neg fun hx' => hkeep x (hsrc x hx') rfl, if_neg, hplace]
        intro hu
        rcases hused x hu with hu | hu
        · exact h.unused hold hu
        · exact hkeep x hu rfl
    · intro x hx
      beta_reduce
      rw [if_neg (hgone x hx), if_pos hx]
  · intro x hx
    rw [hrec, List.length_append, List.length_singleton]
    rcases hused x hx with hu | hu | hu
    · exact Nat.lt_succ_of_lt (h.used x hu)
    · rw [hu]; exact Nat.lt_succ_self _
    · exact Nat.lt_succ_of_lt ((h.holds b idx).src_lt hu)

theorem entry_update (s : State) (received : List Rx) (used : List Nat) (b : Bool) (c : Cache)
    (b' : Bool) (i : Nat) :
    State.entry { caches := Function.update s.caches b c, received := received, used := used } b' i =
      if b' = b then c.entries i else s.entry b' i := by
  unfold State.entry
  simp only [Function.update_apply, apply_ite (fun c : Cache => c.entries i)]

theorem Inv.kept {s : State} (h : Inv s) {b : Bool} {i : Nat} {e : FragmentEntry}
    (he : e = s.entry b i ∨ e.skbList = []) :
    Holds s.received e ∧ e.src.Nodup ∧ ∀ x ∈ e.src, x ∈ (s.entry b i).src := by
  cases he with
  | inl he =>
    subst he
    exact ⟨h.holds b i, h.nodup b i, fun _ hx => hx⟩
  | inr hnil =>
    have hsrc : e.src = [] := by rw [FragmentEntry.src, hnil]; rfl
    rw [hsrc]
    exact ⟨.inl hnil, List.nodup_nil, fun x hx => (List.not_mem_nil hx).elim⟩

/-- What a pending entry becomes with the new fragment. -/
theorem Inv.grown {s : State} (h : Inv s) {rx : Rx} (hsrc : rx.skb.src = [s.received.length])
    {b : Bool} {i : Nat} {e : FragmentEntry} (hne : (s.entry b i).skbList ≠ [])
    (ha : ∀ frags, Pending (s.entry b i) frags → Pending e (frags ++ [rx])) :
    ∃ frags, Pending e (frags ++ [rx]) ∧ (∀ r ∈ frags ++ [rx], Received (s.received ++ [rx]) r) ∧
      e.src.Nodup ∧ ∀ x ∈ e.src, x = s.received.length ∨ x ∈ (s.entry b i).src := by
  obtain hnil | ⟨frags, hp, hr⟩ := h.holds b i
  · exact absurd hnil hne
  · have he := ha frags hp
    have hesrc : e.src = (s.entry b i).src ++ [s.received.length] := by
      rw [he.src, hp.src, List.flatMap_append, List.flatMap_singleton, hsrc]
    refine ⟨frags, he, ?_, ?_, ?_⟩
    · intro r hmem
      cases List.mem_append.1 hmem with
      | inl hold => exact (hr r hold).append rx
      | inr hnew =>
        rw [List.mem_singleton.1 hnew]
        exact received_last hsrc
    · rw [hesrc]
      refine List.nodup_append.2 ⟨h.nodup b i, List.nodup_singleton _, ?_⟩
      intro x hx y hy
      rw [List.mem_singleton.1 hy]
      exact Nat.ne_of_lt ((h.holds b i).src_lt hx)
    · intro x hx
      rw [hesrc, List.mem_append, List.mem_singleton] at hx
      exact hx.symm

theorem Inv.grown_of {s : State} (h : Inv s) {rx : Rx} (hsrc : rx.skb.src = [s.received.length])
    {b : Bool} {c₁ : Cache} {i : Nat} {e : FragmentEntry} (hp : Purged (s.caches b) c₁)
    (hne : (c₁.entries i).skbList ≠ [])
    (ha : ∀ frags, Pending (c₁.entries i) frags → Pending e (frags ++ [rx])) :
    ∃ frags, Pending e (frags ++ [rx]) ∧ (∀ r ∈ frags ++ [rx], Received (s.received ++ [rx]) r) ∧
      e.src.Nodup ∧ ∀ x ∈ e.src, x = s.received.length ∨ x ∈ (s.entry b i).src := by
  cases hp i with
  | inl he =>
    rw [he] at hne ha
    exact h.grown hsrc hne ha
  | inr hnil => exact absurd hnil hne

/-- `Inv.step_of` for a received frame, at the entry that the call changes. -/
theorem Inv.frame_of {s : State} (h : Inv s) {rx : Rx} {b : Bool} {c₁ c' : Cache} {idx : Nat}
    {e : FragmentEntry} {used : List Nat} (hp : Purged (s.caches b) c₁)
    (hc : c'.entries = Function.update c₁.entries idx e) (hslot : Holds (s.received ++ [rx]) e)
    (hnodup : e.src.Nodup) (hsrc : ∀ x ∈ e.src, x = s.received.length ∨ x ∈ (s.entry b idx).src)
    (hused : ∀ x ∈ used, x ∈ s.used ∨ x = s.received.length ∨ x ∈ (s.entry b idx).src)
    (hgone : ∀ x ∈ used, x ∉ e.src) :
    Inv { caches := Function.update s.caches b c', received := s.received ++ [rx], used := used } := by
  have he : State.entry
      { caches := Function.update s.caches b c', received := s.received ++ [rx], used := used }
      b idx = e := by
    rw [entry_update, if_pos rfl, hc, Function.update_self]
  refine h.step_of rfl ?_ (by rw [he]; exact hslot) (by rw [he]; exact hnodup)
    (by rw [he]; exact hsrc) hused (by rw [he]; exact hgone)
  intro b' i' hne
  rw [entry_update]
  by_cases hb : b' = b
  · subst hb
    have hi : i' ≠ idx := fun hi => hne (by rw [hi])
    rw [if_pos rfl, hc, Function.update_of_ne hi]
    exact hp i'
  · rw [if_neg hb]
    exact .inl rfl

/-- `Inv.frame_of` when the call changes no entry but for emptying some. -/
theorem Inv.frame_purged {s : State} (h : Inv s) {rx : Rx} {b : Bool} {c' : Cache} {used : List Nat}
    (hp : Purged (s.caches b) c') (hused : ∀ x ∈ used, x ∈ s.used ∨ x = s.received.length) :
    Inv { caches := Function.update s.caches b c', received := s.received ++ [rx], used := used } := by
  obtain ⟨hslot, hnodup, hsrc⟩ := h.kept (hp 0)
  refine h.frame_of hp (Function.update_eq_self 0 c'.entries).symm (hslot.append rx) hnodup
    (fun x hx => .inr (hsrc x hx)) (fun x hx => (hused x hx).imp_right .inl) ?_
  intro x hu hx
  have hold := hsrc x hx
  cases hused x hu with
  | inl hu => exact h.unused hold hu
  | inr hn => exact absurd ((h.holds b 0).src_lt hold) (by omega)

theorem arrive_src (s : State) (rx : Rx) : (s.arrive rx).skb.src = [s.received.length] := rfl

theorem frame_inv {s : State} (h : Inv s) (jiffies : BitVec 64) (rx : Rx) :
    Inv (s.next k (.frame jiffies rx)) := by
  have hsrc := arrive_src s rx
  have ho := defragment_outcome k (s.caches rx.sta) jiffies (s.arrive rx)
  unfold State.next State.defragment
  simp only
  generalize s.arrive rx = rx' at *
  generalize ieee80211RxHDefragment k (s.caches rx.sta) jiffies rx' = r at ho ⊢
  cases ho with
  | whole =>
    refine h.frame_purged (Purged.refl _) fun x hx => ?_
    simp only [RxResult.src, hsrc, List.singleton_append, List.mem_cons] at hx
    exact hx.symm
  | dropped hp => exact h.frame_purged hp fun x hx => .inl hx
  | first hc he =>
    have hesrc := he.src
    rw [List.flatMap_singleton, hsrc] at hesrc
    refine h.frame_of (Purged.refl _) hc (.inr ⟨[rx'], he, ?_⟩) ?_ ?_ (fun x hx => .inl hx) ?_
    · intro r hr
      rw [List.mem_singleton.1 hr]
      exact received_last hsrc
    · rw [hesrc]; exact List.nodup_singleton _
    · intro x hx
      rw [hesrc] at hx
      exact .inl (List.mem_singleton.1 hx)
    · intro x hu hx
      rw [hesrc] at hx
      exact absurd (h.used x hu) (by rw [List.mem_singleton.1 hx]; omega)
  | later hp hc hne ha =>
    obtain ⟨frags, he, hr, hnodup, hmem⟩ := h.grown_of hsrc hp hne ha
    refine h.frame_of hp hc (.inr ⟨_, he, hr⟩) hnodup hmem (fun x hx => .inl hx) ?_
    intro x hu hx
    rcases hmem x hx with hn | hold
    · exact absurd (h.used x hu) (by omega)
    · exact h.unused hold hu
  | last hp hc hnil hne ha hb hs =>
    obtain ⟨frags, he, hr, hnodup, hmem⟩ := h.grown_of hsrc hp hne ha
    refine h.frame_of hp hc (.inl hnil) ?_ ?_ ?_ ?_
    · rw [FragmentEntry.src, hnil]; exact List.nodup_nil
    · intro x hx
      rw [FragmentEntry.src, hnil] at hx
      cases hx
    · intro x hx
      cases List.mem_append.1 hx with
      | inl hx =>
        simp only [RxResult.src, hs] at hx
        exact .inr (hmem x hx)
      | inr hx => exact .inl hx
    · intro x _ hx
      rw [FragmentEntry.src, hnil] at hx
      cases hx

theorem destroy_inv {s : State} (h : Inv s) (sta : Bool) : Inv (s.next k (.destroy sta)) := by
  have hkept : ∀ b i, (s.next k (.destroy sta)).entry b i = s.entry b i ∨
      ((s.next k (.destroy sta)).entry b i).skbList = [] := by
    intro b i
    unfold State.next
    rw [entry_update]
    by_cases hb : b = sta
    · rw [if_pos hb]; exact .inr rfl
    · rw [if_neg hb]; exact .inl rfl
  obtain ⟨place, hin, hout⟩ := h.apart
  refine ⟨?_, ?_, ⟨place, ?_, hout⟩, h.used⟩
  · intro b i
    exact (h.kept (hkept b i)).1
  · intro b i
    exact (h.kept (hkept b i)).2.1
  · intro b i x hx
    exact hin b i x ((h.kept (hkept b i)).2.2 x hx)

theorem step_inv {s s' : State} {op : Op} (h : Inv s) (hs : Step k s op s') : Inv s' := by
  rw [hs]
  cases op with
  | frame jiffies rx => exact frame_inv k h jiffies rx
  | destroy sta => exact destroy_inv k h sta

theorem initial_inv {s : State} (h : Initial s) : Inv s := by
  obtain ⟨hempty, -, hrec, hused⟩ := h
  have hsrc : ∀ b i, (s.entry b i).src = [] := by
    intro b i
    rw [FragmentEntry.src, State.entry, hempty]
    rfl
  refine ⟨fun b i => .inl (hempty b i), ?_, ⟨fun _ => none, ?_, fun _ _ => rfl⟩, ?_⟩
  · intro b i
    rw [hsrc]
    exact List.nodup_nil
  · intro b i x hx
    rw [hsrc] at hx
    cases hx
  · intro x hx
    rw [hused] at hx
    cases hx

theorem reachable_inv {s : State} (hr : Runs.Reachable Initial (Step k) s) : Inv s :=
  hr.invariant (fun _ => initial_inv) fun _ _ _ => step_inv k

theorem received_src {received : List Rx} : ∀ {frags : List Rx},
    (∀ r ∈ frags, Received received r) →
    (frags.flatMap fun r => r.skb.src).map (fun i => received[i]?) = frags.map some
  | [], _ => rfl
  | r :: frags, h => by
    obtain ⟨i, hsrc, hi⟩ := h r List.mem_cons_self
    have ih := received_src fun r' hr' => h r' (List.mem_cons_of_mem _ hr')
    rw [List.flatMap_cons, hsrc, List.singleton_append, List.map_cons, List.map_cons, ih, hi]

/-- **A reassembled frame is one frame.**  In every run, what is returned for a data or management
    frame is the concatenation of the fragments `0, …, n` of one frame, each of them a frame that was
    received and that nothing returned before was made of; under CCMP and GCMP they are protected
    under keys of one colour and their PNs are consecutive. -/
theorem reassembled_one_frame {s : State} (hr : Runs.Reachable Initial (Step k) s)
    {jiffies : BitVec 64} {rx : Rx} {skb : Skb}
    (hframe : (isCtl rx.skb.hdr || isExt rx.skb.hdr) = false)
    (h : (s.defragment k jiffies rx).1 = .continue skb) :
    ∃ frags, OneFrame frags ∧ frags.getLast? = some (s.arrive rx) ∧
      skb.body = frags.flatMap (fun r => r.skb.body) ∧
      skb.src.map (fun i => (s.received ++ [s.arrive rx])[i]?) = frags.map some ∧
      skb.src.Nodup ∧ ∀ x ∈ skb.src, x ∉ s.used := by
  have hinv := reachable_inv k hr
  have ho := defragment_outcome k (s.caches rx.sta) jiffies (s.arrive rx)
  unfold State.defragment at h
  generalize ieee80211RxHDefragment k (s.caches rx.sta) jiffies (s.arrive rx) = r at h ho
  obtain ⟨res, c'⟩ := r
  simp only at h
  subst h
  have hnew : ∀ x ∈ s.used, x ≠ s.received.length := fun x hx => Nat.ne_of_lt (hinv.used x hx)
  cases ho with
  | whole hw =>
    have h0 : (s.arrive rx).skb.hdr.frag = 0 := by
      cases hw with
      | inl hc => rw [show (s.arrive rx).skb.hdr = rx.skb.hdr from rfl, hframe] at hc; cases hc
      | inr h0 => exact h0
    refine ⟨[s.arrive rx], .single h0, rfl, (List.flatMap_singleton ..).symm, ?_, ?_, ?_⟩
    · rw [arrive_src, List.map_singleton, List.getElem?_concat_length]; rfl
    · rw [arrive_src]; exact List.nodup_singleton _
    · intro x hx hu
      rw [arrive_src, List.mem_singleton] at hx
      exact hnew x hu hx
  | last hp hc hnil hne ha hb hs =>
    obtain ⟨frags, he, hrec, hnodup, hmem⟩ := hinv.grown_of (arrive_src s rx) hp hne ha
    have hsrc : skb.src = (frags ++ [s.arrive rx]).flatMap fun r => r.skb.src := hs.trans he.src
    refine ⟨frags ++ [s.arrive rx], he.oneFrame, List.getLast?_concat, ?_, ?_, ?_, ?_⟩
    · rw [hb, he.stored, List.flatMap_map]
    · rw [hsrc]; exact received_src hrec
    · rw [hs]; exact hnodup
    · intro x hx hu
      rw [hs] at hx
      rcases hmem x hx with hn | hold
      · exact hnew x hu hn
      · exact hinv.unused hold hu

def start : State :=
  { caches := fun _ =>
      { entries := fun _ =>
          { skbList := [], firstFragTime := 0, seq := 0, extraLen := 0, lastFrag := 0, rxQueue := 0,
            checkSequentialPn := false, isProtected := false, keyColor := 0, lastPn := fun _ => 0 }
        next := 0 }
    received := []
    used := [] }

/-- A fragment of a station's frame, decrypted with CCMP. -/
def ccmpFragment (frag : BitVec 4) (moreFrags : Bool) (pn : Pn) (body : List (BitVec 8)) : Rx :=
  { skb :=
      { src := []
        hdr :=
          { ftype := 2, moreFrags := moreFrags, hasProtected := true, addr1 := 2, addr2 := 4,
            frag := frag, seq := 7 }
        body := body
        tailroom := 0 }
    sta := true
    key := some { cipher := .ccmp, color := 1, rxPn := fun _ => pn }
    seqnoIdx := 0
    securityIdx := 0
    ccmGcmPn := pn
    decrypted := false
    linearizeOk := true
    expandOk := true }

/-- Two fragments with the PNs 255 and 256. -/
theorem reassembled_one_frame_carry :
    ∃ s skb frags, Runs.Reachable Initial (Step .linux) s ∧
      (s.defragment .linux 0 (ccmpFragment 1 false (fun i => if i = 4 then 1 else 0) [2, 3])).1 =
        .continue skb ∧
      skb.body = [1, 2, 3] ∧ OneFrame frags ∧ frags.length = 2 := by
  obtain ⟨s, hs⟩ : ∃ s, s = start.next .linux
      (.frame 0 (ccmpFragment 0 true (fun i => if i = 5 then 255 else 0) [1])) := ⟨_, rfl⟩
  have hr : Runs.Reachable Initial (Step .linux) s :=
    .next (.start ⟨fun _ _ => rfl, fun _ => rfl, rfl, rfl⟩) hs
  obtain ⟨skb, hskb, hbody, hsrc⟩ : ∃ skb, (s.defragment .linux 0
      (ccmpFragment 1 false (fun i => if i = 4 then 1 else 0) [2, 3])).1 = .continue skb ∧
      skb.body = [1, 2, 3] ∧ skb.src = [0, 1] := by
    subst hs
    exact ⟨_, rfl, rfl, rfl⟩
  obtain ⟨frags, hone, -, -, hfrags, -⟩ := reassembled_one_frame .linux hr rfl hskb
  have hlen := congrArg List.length hfrags
  rw [hsrc, List.length_map, List.length_map] at hlen
  exact ⟨s, skb, frags, hr, hskb, hbody, hone, hlen.symm⟩

end Mac80211.Defrag
