import Wifi.Mac80211.DefragRuns

/-!
# Entries of the fragment cache that are used again (`linux/net/mac80211/rx.c`)

`ieee80211_reassemble_add` takes the entries in turn and leaves `is_protected` to its caller.

* `Flow`, `Parts` — the fragments of one frame that came without a key, and their arrival, with calls
  between them that leave the cache alone.
* `feed` — what `ieee80211_rx_h_defragment` returns for them.
* `feed_parts` — the later fragments, on the entry of the first one.
* `fresh_frame_restored_iff` — the frame is put together exactly when the entry does not remember a
  protected frame.
-/

namespace Mac80211.Defrag

open Runs

/-! ## A frame in fragments -/

/-- What the fragments of a frame have in common, and when the first one came; number and mark in the header
    are not among it. -/
structure Flow where
  sta : Bool
  seqnoIdx : Nat
  hdr : Hdr
  time : BitVec 64

/-- A frame of one station that is not protected. -/
structure Flow.Plain (f : Flow) : Prop where
  notCtl : isCtl f.hdr = false
  notExt : isExt f.hdr = false
  unprotected : f.hdr.hasProtected = false
  unicast : isMulticastEtherAddr f.hdr.addr1 = false

/-- The call leaves this cache alone: it is about the other one, or its frame is no fragment. -/
def Op.passes (sta : Bool) : Op → Prop
  | .frame _ rx => rx.sta ≠ sta ∨ isFrag rx.skb.hdr = false ∨ isCtl rx.skb.hdr = true ∨ isExt rx.skb.hdr = true
  | .destroy sta' => sta' ≠ sta

/-- The fragment with the number `n`; it came without a key, and there is memory. -/
structure Rx.Part (f : Flow) (n : Nat) (more : Bool) (rx : Rx) : Prop where
  hdr : rx.skb.hdr = { f.hdr with frag := BitVec.ofNat 4 n, moreFrags := more }
  sta : rx.sta = f.sta
  queue : rx.seqnoIdx = f.seqnoIdx
  key : rx.key = none
  linearizeOk : rx.linearizeOk = true
  expandOk : rx.expandOk = true

/-- A fragment, with the calls before it since the one before. -/
structure Arrival where
  gap : List Op
  jiffies : BitVec 64
  rx : Rx

/-- The calls before the fragment leave the cache alone. -/
def Arrival.Quiet (f : Flow) (a : Arrival) : Prop := ∀ op ∈ a.gap, op.passes f.sta

variable (k : KernelApi)

/-- All fragments from the number `n` on, none later than two seconds behind the first one. -/
inductive Parts (f : Flow) : Nat → List Arrival → Prop where
  | last {n : Nat} {a : Arrival} (h15 : n ≤ 15) (quiet : a.Quiet f) (part : a.rx.Part f n false)
      (inTime : k.timeAfter a.jiffies (f.time + BitVec.ofNat 64 (2 * k.hz)) = false) : Parts f n [a]
  | more {n : Nat} {a : Arrival} {rest : List Arrival} (quiet : a.Quiet f) (part : a.rx.Part f n true)
      (inTime : k.timeAfter a.jiffies (f.time + BitVec.ofNat 64 (2 * k.hz)) = false)
      (hrest : Parts f (n + 1) rest) : Parts f n (a :: rest)

/-- What `ieee80211_rx_h_defragment` returns for the fragments. -/
def feed : State → List Arrival → List RxResult
  | _, [] => []
  | s, a :: rest =>
    let s := a.gap.foldl (State.next k) s
    (s.defragment k a.jiffies a.rx).1 :: feed (s.next k (.frame a.jiffies a.rx)) rest

/-- The frame came out of the last fragment, with the bodies of all. -/
def Restored (results : List RxResult) (arrivals : List Arrival) : Prop :=
  ∃ skb, results = List.replicate (arrivals.length - 1) .queued ++ [.continue skb] ∧
    skb.body = arrivals.flatMap fun a => a.rx.skb.body

variable {k} {f : Flow} {n : Nat} {a : Arrival} {arrivals rest : List Arrival} {c : Cache} {idx : Nat} {s : State}
  {held : List Skb} {p : Bool} {rx : Rx} {jiffies : BitVec 64}

/-! ## What the calls between do -/

theorem defragment_passes (jiffies : BitVec 64) (rx : Rx)
    (h : isFrag rx.skb.hdr = false ∨ isCtl rx.skb.hdr = true ∨ isExt rx.skb.hdr = true) :
    (ieee80211RxHDefragment k c jiffies rx).2 = c := by
  unfold ieee80211RxHDefragment
  dsimp only
  by_cases hc : (isCtl rx.skb.hdr || isExt rx.skb.hdr) = true
  · rw [if_pos hc]
  · rw [if_neg hc]
    rw [Bool.or_eq_true] at hc
    have hfrag : isFrag rx.skb.hdr = false := h.resolve_right hc
    unfold isFrag at hfrag
    rw [Bool.or_eq_false_iff, decide_eq_false_iff_not, ne_eq, not_not] at hfrag
    rw [if_pos hfrag]

theorem caches_passes {op : Op} {sta : Bool} (h : op.passes sta) : (s.next k op).caches sta = s.caches sta := by
  cases op with
  | frame jiffies rx =>
    by_cases hsta : rx.sta = sta
    · have hcache := defragment_passes (k := k) (c := s.caches rx.sta) jiffies (s.arrive rx)
        (h.resolve_left fun hne => hne hsta)
      show Function.update s.caches rx.sta _ sta = _
      rw [State.defragment, hcache, Function.update_eq_self]
    · exact Function.update_of_ne (Ne.symm hsta) _ _
  | destroy sta' => exact Function.update_of_ne (Ne.symm h) _ _

theorem caches_gap {sta : Bool} : ∀ {gap : List Op} {s : State}, (∀ op ∈ gap, op.passes sta) →
    (gap.foldl (State.next k) s).caches sta = s.caches sta := by
  intro gap
  induction gap with
  | nil =>
    intro s _
    rfl
  | cons op gap ih =>
    intro s h
    rw [List.foldl_cons, ih fun op' hop => h op' (List.mem_cons_of_mem _ hop)]
    exact caches_passes (h op List.mem_cons_self)

/-! ## The entry of the frame -/

/-- The entry holds the fragments before the number `n`; `p` is what it says about their protection. -/
structure Collecting (f : Flow) (n : Nat) (p : Bool) (e : FragmentEntry) (held : List Skb) : Prop where
  list : e.skbList = held
  nonempty : held ≠ []
  first : ∀ skb ∈ held.head?, SameSender f.hdr skb.hdr
  time : e.firstFragTime = f.time
  seq : e.seq = f.hdr.seq
  queue : e.rxQueue = f.seqnoIdx
  lastFrag : e.lastFrag + 1 = n
  unchecked : e.checkSequentialPn = false
  isProtected : e.isProtected = p

def newest (c : Cache) : Nat := if c.next = 0 then IEEE80211_FRAGMENT_MAX - 1 else c.next - 1

theorem Parts.le (h : Parts k f n arrivals) : n ≤ 15 := by
  induction h with
  | last h15 _ _ _ => exact h15
  | more _ _ _ _ ih => omega

theorem Parts.eq_cons (h : Parts k f n arrivals) : ∃ a rest, arrivals = a :: rest := by
  cases h with
  | last _ _ _ _ => exact ⟨_, _, rfl⟩
  | more _ _ _ _ => exact ⟨_, _, rfl⟩

theorem Rx.Part.arrive {more : Bool} (h : rx.Part f n more) (s : State) : (s.arrive rx).Part f n more :=
  ⟨h.hdr, h.sta, h.queue, h.key, h.linearizeOk, h.expandOk⟩

theorem Rx.Part.frag {more : Bool} (h : rx.Part f n more) (h15 : n ≤ 15) : rx.skb.hdr.frag.toNat = n := by
  rw [h.hdr]
  show (BitVec.ofNat 4 n).toNat = n
  rw [BitVec.toNat_ofNat]
  omega

theorem Rx.Part.moreFrags {more : Bool} (h : rx.Part f n more) : rx.skb.hdr.moreFrags = more := by rw [h.hdr]

theorem Rx.Part.sameSender {more : Bool} (h : rx.Part f n more) : SameSender f.hdr rx.skb.hdr := by
  rw [h.hdr]
  exact ⟨rfl, rfl, rfl⟩

theorem find_newest (he : Collecting f n p (c.entries (newest c)) held) {more : Bool} (ha : rx.Part f n more)
    (h15 : n ≤ 15) (ht : k.timeAfter jiffies (f.time + BitVec.ofNat 64 (2 * k.hz)) = false) :
    ieee80211ReassembleFind k c rx.skb.hdr.frag.toNat rx.skb.hdr.seq rx.seqnoIdx jiffies rx.skb.hdr =
      (some (newest c), c) := by
  obtain ⟨skb, rest, rfl⟩ := List.exists_cons_of_ne_nil he.nonempty
  obtain ⟨htype, h1, h2⟩ := he.first skb rfl
  rw [ha.frag h15]
  unfold ieee80211ReassembleFind
  rw [show IEEE80211_FRAGMENT_MAX = 3 + 1 from rfl, findLoop]
  simp only [← newest.eq_1, he.list]
  rw [if_neg, if_neg, if_neg]
  · show ¬k.timeAfter jiffies ((c.entries (newest c)).firstFragTime + BitVec.ofNat 64 (2 * k.hz)) = true
    rw [he.time, ht]
    decide
  · rw [ha.hdr]
    simp [htype, h1, h2]
  · rw [ha.hdr, ha.queue]
    have hseq : (c.entries (newest c)).seq = f.hdr.seq := he.seq
    have hqueue : (c.entries (newest c)).rxQueue = f.seqnoIdx := he.queue
    have hlast : (c.entries (newest c)).lastFrag + 1 = n := he.lastFrag
    simp only [not_or, not_not]
    exact ⟨hseq, hqueue, hlast⟩

/-- What `ieee80211_rx_h_defragment` asks about a header before it looks at the cache. -/
theorem Rx.Part.header (hf : f.Plain) {more : Bool} (ha : rx.Part f n more) :
    (isCtl rx.skb.hdr || isExt rx.skb.hdr) = false ∧ isMulticastEtherAddr rx.skb.hdr.addr1 = false := by
  rw [ha.hdr]
  exact ⟨Bool.or_eq_false_iff.mpr ⟨hf.notCtl, hf.notExt⟩, hf.unicast⟩

theorem checkFragment_noKey {e : FragmentEntry} (hkey : rx.key = none) (hc : e.checkSequentialPn = false) :
    checkFragment e rx = if e.isProtected then .error .expectDefragProt else .ok e := by
  unfold checkFragment
  rw [if_neg (by rw [hc]; decide), hkey]

theorem defragment_later (hf : f.Plain) (he : Collecting f n p (c.entries (newest c)) held) {more : Bool}
    (ha : rx.Part f n more) (h1 : 1 ≤ n) (h15 : n ≤ 15)
    (ht : k.timeAfter jiffies (f.time + BitVec.ofNat 64 (2 * k.hz)) = false) :
    ieee80211RxHDefragment k c jiffies rx =
      if p then (.drop .expectDefragProt, c) else completeFrame c (newest c) (c.entries (newest c)) rx := by
  have hfrag : rx.skb.hdr.frag ≠ 0 := by
    intro h0
    have hn := ha.frag h15
    rw [h0] at hn
    change 0 = n at hn
    omega
  obtain ⟨hctl, hcast⟩ := ha.header hf
  unfold ieee80211RxHDefragment
  dsimp only
  rw [hctl, if_neg (by decide), if_neg fun h => hfrag h.2, hcast, if_neg (by decide), ha.linearizeOk,
    if_neg (by decide), if_neg hfrag, find_newest he ha h15 ht]
  dsimp only
  rw [checkFragment_noKey ha.key he.unchecked, he.isProtected]
  cases p with
  | true => rfl
  | false => rfl

theorem Collecting.append (he : Collecting f n p (c.entries (newest c)) held) (ha : rx.Part f n true) (h15 : n ≤ 15) :
    Collecting f (n + 1) p (appended (c.entries (newest c)) rx) (held ++ [rx.skb]) := by
  refine ⟨?_, by simp, ?_, he.time, he.seq, he.queue, ?_, he.unchecked, he.isProtected⟩
  · show (c.entries (newest c)).skbList ++ [rx.skb] = _
    rw [he.list]
  · intro skb hskb
    rw [List.head?_append_of_ne_nil _ he.nonempty] at hskb
    exact he.first skb hskb
  · show rx.skb.hdr.frag.toNat + 1 = n + 1
    rw [ha.frag h15]

theorem newest_set (c : Cache) (i : Nat) (e : FragmentEntry) : newest (c.set i e) = newest c := rfl

theorem entries_set (c : Cache) (i : Nat) (e : FragmentEntry) : (c.set i e).entries i = e := by
  unfold Cache.set
  dsimp only
  rw [Function.update_self]

theorem completeFrame_more {e : FragmentEntry} (h : rx.skb.hdr.moreFrags = true) :
    completeFrame c idx e rx = (.queued, c.set idx (appended e rx)) := by
  unfold completeFrame
  dsimp only
  rw [h, if_pos rfl]
  rfl

theorem completeFrame_last {e : FragmentEntry} (hlist : e.skbList = held) (hne : held ≠ [])
    (h : rx.skb.hdr.moreFrags = false) (hx : rx.expandOk = true) :
    ∃ skb, (completeFrame c idx e rx).1 = .continue skb ∧ skb.body = held.flatMap Skb.body ++ rx.skb.body := by
  obtain ⟨first, held', rfl⟩ := List.exists_cons_of_ne_nil hne
  unfold completeFrame
  dsimp only
  rw [h, if_neg (by decide), hlist, List.cons_append]
  dsimp only
  rw [hx, if_neg (by simp)]
  refine ⟨_, rfl, ?_⟩
  rw [(foldl_skbPutData (held' ++ [rx.skb]) first).1]
  simp

theorem caches_frame (jiffies : BitVec 64) {rx : Rx} (hsta : rx.sta = f.sta) :
    (s.next k (.frame jiffies rx)).caches f.sta =
      (ieee80211RxHDefragment k (s.caches f.sta) jiffies (s.arrive rx)).2 := by
  show Function.update s.caches rx.sta _ f.sta = _
  rw [State.defragment, hsta, Function.update_self]

/-- **The later fragments** of a frame whose entry says it is not protected. -/
theorem feed_parts (hf : f.Plain) (hp : Parts k f n arrivals) : 1 ≤ n → ∀ {s : State} {held : List Skb},
    Collecting f n false ((s.caches f.sta).entries (newest (s.caches f.sta))) held →
    ∃ skb, feed k s arrivals = List.replicate (arrivals.length - 1) .queued ++ [.continue skb] ∧
      skb.body = held.flatMap Skb.body ++ arrivals.flatMap fun a => a.rx.skb.body := by
  induction hp with
  | @last n a h15 quiet part inTime =>
    intro h1 s held he
    rw [← caches_gap (k := k) quiet] at he
    obtain ⟨skb, hskb, hbody⟩ := completeFrame_last (c := (a.gap.foldl (State.next k) s).caches f.sta)
      he.list he.nonempty
      (part.arrive (a.gap.foldl (State.next k) s)).moreFrags part.expandOk
    refine ⟨skb, ?_, ?_⟩
    · unfold feed State.defragment
      dsimp only
      rw [part.sta, defragment_later hf he (part.arrive _) h1 h15 inTime, if_neg (by decide), hskb]
      rfl
    · rw [hbody, List.flatMap_cons, List.flatMap_nil, List.append_nil]
      rfl
  | @more n a rest quiet part inTime hrest ih =>
    intro h1 s held he
    have h15 : n ≤ 15 := Nat.le_of_succ_le hrest.le
    rw [← caches_gap (k := k) quiet] at he
    have hcall := defragment_later hf he (part.arrive (a.gap.foldl (State.next k) s)) h1 h15 inTime
    rw [if_neg (by decide), completeFrame_more (part.arrive _).moreFrags] at hcall
    have hnext := caches_frame (k := k) (s := a.gap.foldl (State.next k) s) a.jiffies part.sta
    rw [hcall] at hnext
    have he' := he.append (part.arrive (a.gap.foldl (State.next k) s)) h15
    obtain ⟨skb, hfeed, hbody⟩ := ih (by omega) (s := (a.gap.foldl (State.next k) s).next k (.frame a.jiffies a.rx))
      (by
        rw [hnext, newest_set, entries_set]
        exact he')
    obtain ⟨b, rest', rfl⟩ := hrest.eq_cons
    refine ⟨skb, ?_, ?_⟩
    · unfold feed
      dsimp only
      rw [hfeed, State.defragment, part.sta, hcall]
      simp [List.replicate_succ]
    · rw [hbody]
      simp [State.arrive]

/-- The fragment behind the first one is dropped when the entry says that its frame is protected. -/
theorem feed_dropped (hf : f.Plain) (hp : Parts k f n arrivals) (h1 : 1 ≤ n)
    (he : Collecting f n true ((s.caches f.sta).entries (newest (s.caches f.sta))) held) :
    ∃ tail, feed k s arrivals = .drop .expectDefragProt :: tail := by
  cases hp with
  | @last _ a h15 quiet part inTime =>
    rw [← caches_gap (k := k) quiet] at he
    refine ⟨[], ?_⟩
    rw [feed, feed, State.defragment, part.sta, defragment_later hf he (part.arrive _) h1 h15 inTime, if_pos rfl]
  | @more _ a rest quiet part inTime hrest =>
    rw [← caches_gap (k := k) quiet] at he
    refine ⟨feed k ((a.gap.foldl (State.next k) s).next k (.frame a.jiffies a.rx)) rest, ?_⟩
    rw [feed, State.defragment, part.sta, defragment_later hf he (part.arrive _) h1 (Nat.le_of_succ_le hrest.le) inTime,
      if_pos rfl]

/-! ## The first fragment -/

theorem findLoop_next {frag : Nat} {seq : BitVec 12} {rxQueue : Nat} {hdr : Hdr} : ∀ (n idx : Nat) (c : Cache),
    (findLoop k frag seq rxQueue jiffies hdr n idx c).2.next = c.next := by
  intro n
  induction n with
  | zero =>
    intro idx c
    rfl
  | succ n ih =>
    intro idx c
    rw [findLoop]
    generalize (if idx = 0 then IEEE80211_FRAGMENT_MAX - 1 else idx - 1) = i
    split
    · exact ih _ _
    · split
      · exact ih _ _
      · split
        · exact ih _ _
        · split
          · exact (ih _ _).trans rfl
          · rfl

theorem completeFrame_next {e : FragmentEntry} : (completeFrame c idx e rx).2.next = c.next := by
  unfold completeFrame
  dsimp only
  split
  · rfl
  · split
    · rfl
    · split <;> rfl

theorem defragment_next (h : c.next < IEEE80211_FRAGMENT_MAX) :
    (ieee80211RxHDefragment k c jiffies rx).2.next < IEEE80211_FRAGMENT_MAX := by
  have hfind : ∀ frag seq rxQueue hdr, (ieee80211ReassembleFind k c frag seq rxQueue jiffies hdr).2.next = c.next :=
    fun frag seq rxQueue hdr => findLoop_next _ _ _
  unfold ieee80211RxHDefragment
  dsimp only
  split
  · exact h
  · split
    · exact h
    · split
      · exact h
      · split
        · exact h
        · split
          · show (if IEEE80211_FRAGMENT_MAX ≤ c.next + 1 then 0 else c.next + 1) < IEEE80211_FRAGMENT_MAX
            unfold IEEE80211_FRAGMENT_MAX at *
            split <;> omega
          · split
            · rename_i c₁ heq
              rw [← hfind, heq] at h
              exact h
            · rename_i i c₁ heq
              rw [← hfind, heq] at h
              split
              · exact h
              · rw [completeFrame_next]
                exact h

/-- `next` is the index of an entry. -/
def NextInRange (s : State) : Prop := ∀ sta, (s.caches sta).next < IEEE80211_FRAGMENT_MAX

theorem next_inRange (h : NextInRange s) (op : Op) : NextInRange (s.next k op) := by
  intro sta
  cases op with
  | frame jiffies rx =>
    show (Function.update s.caches rx.sta _ sta).next < _
    rw [Function.update_apply]
    split
    · exact defragment_next (h rx.sta)
    · exact h sta
  | destroy sta' =>
    show (Function.update s.caches sta' _ sta).next < _
    rw [Function.update_apply]
    split
    · exact h sta'
    · exact h sta

theorem reachable_inRange (hr : Reachable Initial (Step k) s) : NextInRange s := by
  refine hr.invariant ?_ ?_
  · intro s h sta
    rw [h.2.1]
    decide
  · intro s op s' h hs
    rw [hs]
    exact next_inRange h op

/-- The cache after the first fragment of a frame that came without a key. -/
def Cache.begin (c : Cache) (time : BitVec 64) (rx : Rx) : Cache :=
  (ieee80211ReassembleAdd c 0 rx.skb.hdr.seq rx.seqnoIdx time rx.skb).2

theorem newest_begin (hc : c.next < IEEE80211_FRAGMENT_MAX) : newest (c.begin jiffies rx) = c.next := by
  show (if (if IEEE80211_FRAGMENT_MAX ≤ c.next + 1 then 0 else c.next + 1) = 0 then IEEE80211_FRAGMENT_MAX - 1
    else (if IEEE80211_FRAGMENT_MAX ≤ c.next + 1 then 0 else c.next + 1) - 1) = c.next
  unfold IEEE80211_FRAGMENT_MAX at *
  by_cases h : 4 ≤ c.next + 1
  · rw [if_pos h, if_pos rfl]
    omega
  · rw [if_neg h, if_neg (by omega)]
    omega

theorem defragment_first (jiffies : BitVec 64) (hf : f.Plain) (ha : rx.Part f 0 true) :
    ieee80211RxHDefragment k c jiffies rx = (.queued, c.begin jiffies rx) := by
  obtain ⟨hctl, hcast⟩ := ha.header hf
  have hfrag : rx.skb.hdr.frag = 0 := by rw [ha.hdr]; rfl
  unfold ieee80211RxHDefragment
  dsimp only
  rw [hctl, if_neg (by decide), ha.moreFrags, if_neg fun h => Bool.noConfusion h.1, hcast, if_neg (by decide),
    ha.linearizeOk, if_neg (by decide), if_pos hfrag]
  unfold rememberKey
  rw [ha.key]
  dsimp only
  unfold Cache.set Cache.begin
  rw [Function.update_eq_self]

/-- The first fragment takes the next entry, and leaves what that entry says about protection. -/
theorem begin_collecting (ha : rx.Part f 0 true) (hc : c.next < IEEE80211_FRAGMENT_MAX) :
    Collecting f 1 (c.entries c.next).isProtected
      ((c.begin f.time rx).entries (newest (c.begin f.time rx))) [rx.skb] := by
  have hentry : (c.begin f.time rx).entries c.next = { c.entries c.next with
      skbList := [rx.skb], firstFragTime := f.time, seq := rx.skb.hdr.seq, rxQueue := rx.seqnoIdx, lastFrag := 0,
      checkSequentialPn := false, extraLen := 0 } := Function.update_self ..
  rw [newest_begin hc, hentry]
  refine ⟨rfl, by simp, ?_, rfl, ?_, ha.queue, rfl, rfl, rfl⟩
  · intro skb hskb
    cases hskb
    exact ha.sameSender
  · rw [ha.hdr]

/-! ## The whole frame -/

/-- **A frame in fragments that came without a key.**  In every reachable state it is put together and returned
    exactly when the entry that its first fragment takes does not say that its frame is protected: that mark is
    left by the frame that had the entry before. -/
theorem fresh_frame_restored_iff (hr : Reachable Initial (Step k) s) (hf : f.Plain) {first : Arrival}
    (quiet : first.Quiet f) (htime : first.jiffies = f.time) (part : first.rx.Part f 0 true)
    (hrest : Parts k f 1 rest) :
    Restored (feed k s (first :: rest)) (first :: rest) ↔
      ((s.caches f.sta).entries (s.caches f.sta).next).isProtected = false := by
  obtain ⟨t, ht⟩ : ∃ t, t = first.gap.foldl (State.next k) s := ⟨_, rfl⟩
  have hcache : t.caches f.sta = s.caches f.sta := by rw [ht, caches_gap quiet]
  have hcall := defragment_first (k := k) (c := s.caches f.sta) f.time hf (part.arrive t)
  have hnext := caches_frame (k := k) (s := t) f.time part.sta
  have hcollect := begin_collecting (part.arrive t) (reachable_inRange hr f.sta)
  rw [hcache, hcall] at hnext
  dsimp only at hnext
  rw [← hnext] at hcollect
  have hfeed : feed k s (first :: rest) = .queued :: feed k (t.next k (.frame f.time first.rx)) rest := by
    rw [feed, ← ht, State.defragment, part.sta, hcache, htime, hcall]
  rw [hfeed]
  obtain ⟨b, rest', hrest'⟩ := hrest.eq_cons
  cases hp : ((s.caches f.sta).entries (s.caches f.sta).next).isProtected with
  | false =>
    rw [hp] at hcollect
    refine iff_of_true ?_ rfl
    obtain ⟨skb, hskb, hbody⟩ := feed_parts hf hrest (Nat.le_refl 1) hcollect
    refine ⟨skb, ?_, ?_⟩
    · rw [hskb, hrest']
      simp [List.replicate_succ]
    · rw [hbody]
      simp [State.arrive]
  | true =>
    rw [hp] at hcollect
    refine iff_of_false ?_ (by decide)
    obtain ⟨tail, htail⟩ := feed_dropped hf hrest (Nat.le_refl 1) hcollect
    rintro ⟨skb, hskb, -⟩
    rw [htail] at hskb
    have hmem : RxResult.drop .expectDefragProt ∈
        List.replicate ((first :: rest).length - 1) RxResult.queued ++ [.continue skb] := by
      rw [← hskb]
      simp
    simp [List.mem_replicate] at hmem

/-! ## Runs -/

/-- A fragment of a station's frame that came without a key. -/
def plainFragment (frag : BitVec 4) (moreFrags : Bool) (body : List (BitVec 8)) : Rx :=
  { skb :=
      { src := []
        hdr :=
          { ftype := 2, moreFrags := moreFrags, hasProtected := false, addr1 := 2, addr2 := 4,
            frag := frag, seq := 8 }
        body := body
        tailroom := 0 }
    sta := true
    key := none
    seqnoIdx := 0
    securityIdx := 0
    ccmGcmPn := fun _ => 0
    decrypted := false
    linearizeOk := true
    expandOk := true }

/-- The frame of `plainFragment`. -/
def plainFlow : Flow :=
  { sta := true, seqnoIdx := 0, hdr := (plainFragment 0 true []).skb.hdr, time := 0 }

theorem plainFlow_plain : plainFlow.Plain := ⟨rfl, rfl, rfl, rfl⟩

/-- The fragments arrive one after the other. -/
def twoFragments : List Arrival :=
  [⟨[], 0, plainFragment 0 true [1]⟩, ⟨[], 0, plainFragment 1 false [2, 3]⟩]

theorem twoFragments_part : (plainFragment 0 true [1]).Part plainFlow 0 true := ⟨rfl, rfl, rfl, rfl, rfl, rfl⟩

theorem twoFragments_parts : Parts .linux plainFlow 1 [⟨[], 0, plainFragment 1 false [2, 3]⟩] :=
  .last (by decide) (by simp [Arrival.Quiet]) ⟨rfl, rfl, rfl, rfl, rfl, rfl⟩ (by decide)

theorem start_initial : Initial start := ⟨fun _ _ => rfl, fun _ => rfl, rfl, rfl⟩

/-- Empty caches give a frame back. -/
theorem fresh_frame_restored_start : Restored (feed .linux start twoFragments) twoFragments :=
  (fresh_frame_restored_iff (k := .linux) (s := start) (.start start_initial) plainFlow_plain
    (by simp [Arrival.Quiet]) rfl twoFragments_part twoFragments_parts).mpr rfl

/-- Four protected frames of which only the first fragment comes. -/
def protectedStarts : List Op :=
  List.replicate 4 (.frame 0 (ccmpFragment 0 true (fun _ => 0) [1]))

/-- After that the cache is used from its first entry on again, and a frame without protection is dropped. -/
theorem reused_entry_drops :
    Reachable Initial (Step .linux) (protectedStarts.foldl (State.next .linux) start) ∧
      feed .linux (protectedStarts.foldl (State.next .linux) start) twoFragments =
        [.queued, .drop .expectDefragProt] ∧
      ¬Restored (feed .linux (protectedStarts.foldl (State.next .linux) start) twoFragments) twoFragments := by
  have hr : ∀ {s : State} (ops : List Op), Reachable Initial (Step .linux) s →
      Reachable Initial (Step .linux) (ops.foldl (State.next .linux) s) := by
    intro s ops
    induction ops generalizing s with
    | nil => exact id
    | cons op ops ih => exact fun h => ih (.next h rfl)
  have hfeed : feed .linux (protectedStarts.foldl (State.next .linux) start) twoFragments =
      [.queued, .drop .expectDefragProt] := rfl
  refine ⟨hr _ (.start start_initial), hfeed, ?_⟩
  rw [hfeed]
  rintro ⟨skb, hskb, -⟩
  cases hskb

end Mac80211.Defrag
