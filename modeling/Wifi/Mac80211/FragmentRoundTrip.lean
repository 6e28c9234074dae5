import Wifi.Mac80211.DefragRuns
import Wifi.Mac80211.Fragment

/-!
# Fragments and their reassembly

* `rxHdr` — the header of a received frame, as the cache reads it.
* `feed` — frames that are received one after the other.
* `Sequel` — the fragments of a frame from a number on.
* `feed_sequel`, `feed_fragments` — the cache on them.
* `fragments_restored` — the fragments of a frame, and what becomes of them.
-/

namespace Mac80211.Fragment

open Defrag

/-! ## Received frames -/

def etherAddr (data : List Byte) (offset : Nat) : BitVec 48 :=
  data.getD offset 0 ++ data.getD (offset + 1) 0 ++ data.getD (offset + 2) 0 ++
    data.getD (offset + 3) 0 ++ data.getD (offset + 4) 0 ++ data.getD (offset + 5) 0

def rxHdr (data : List Byte) : Hdr where
  ftype := ((frameControl data &&& IEEE80211_FCTL_FTYPE) >>> 2).setWidth 2
  moreFrags := (frameControl data).hasMorefrags
  hasProtected := decide (frameControl data &&& IEEE80211_FCTL_PROTECTED ≠ 0)
  addr1 := etherAddr data 4
  addr2 := etherAddr data 10
  frag := (seqCtrl data).setWidth 4
  seq := (seqCtrl data >>> 4).setWidth 12

/-- What the frames of a sender have in common at the receiver; none is decrypted, and there is memory. -/
structure Receiver where
  sta : Bool
  key : Option Key
  seqnoIdx : Nat
  securityIdx : Nat
  ccmGcmPn : Pn
  tailroom : Nat

/-- `struct ieee80211_rx_data` of the `i`-th frame. -/
def Receiver.rx (r : Receiver) (i : Nat) (data : List Byte) : Rx where
  skb := { src := [i], hdr := rxHdr data, body := bodyOf data, tailroom := r.tailroom }
  sta := r.sta
  key := r.key
  seqnoIdx := r.seqnoIdx
  securityIdx := r.securityIdx
  ccmGcmPn := r.ccmGcmPn
  decrypted := false
  linearizeOk := true
  expandOk := true

variable (k : KernelApi) (r : Receiver)

/-- Frames received one after the other, each at its time: what `ieee80211_rx_h_defragment` returns for them. -/
def feed : Nat → List (BitVec 64 × List Byte) → Cache → List RxResult
  | _, [], _ => []
  | i, (jiffies, data) :: rest, c =>
    let x := ieee80211RxHDefragment k c jiffies (r.rx i data)
    x.1 :: feed (i + 1) rest x.2

/-- The frame that is handed on: the buffer of the first fragment, with the bodies behind it. -/
def handedOn (frames : List (List Byte)) (skb : Skb) : List Byte :=
  let first := frames.getD (skb.src.headD 0) []
  first.take (hdrlenOf first) ++ skb.body

/-! ## The cache, on the fragments of a frame -/

/-- The fragments of a frame from the number `n` on, with the header `h` but for number and mark. -/
inductive Sequel (h : Hdr) : Nat → List (List Byte) → Prop where
  | nil (n : Nat) : Sequel h n []
  | cons {n : Nat} {data : List Byte} {rest : List (List Byte)} :
      rxHdr data = { h with frag := BitVec.ofNat 4 n, moreFrags := decide (rest ≠ []) } →
      Sequel h (n + 1) rest → Sequel h n (data :: rest)

/-- The header is that of a data frame for one station that is not protected. -/
structure Plain (h : Hdr) : Prop where
  ftype : h.ftype = 2
  unprotected : h.hasProtected = false
  unicast : Defrag.isMulticastEtherAddr h.addr1 = false

/-- The entry holds the fragments of the frame before the number `n`, none under a key. -/
structure Collects (h : Hdr) (n : Nat) (e : FragmentEntry) (held : List Skb) : Prop where
  list : e.skbList = held
  first : ∀ skb ∈ held.head?, SameSender h skb.hdr
  nonempty : held ≠ []
  seq : e.seq = h.seq
  queue : e.rxQueue = r.seqnoIdx
  lastFrag : e.lastFrag + 1 = n
  unchecked : e.checkSequentialPn = false
  unprotected : e.isProtected = false

section Cache

variable {k r} {h : Hdr} {n i idx : Nat} {c : Cache} {data : List Byte} {held : List Skb} {jiffies : BitVec 64}
  {more : Bool}

theorem entries_set_self (c : Cache) (idx : Nat) (e : FragmentEntry) : (c.set idx e).entries idx = e :=
  Function.update_self ..

theorem frag_ne_zero (h1 : 1 ≤ n) (h15 : n ≤ 15) : BitVec.ofNat 4 n ≠ 0 := by
  intro he
  have hn := congrArg BitVec.toNat he
  rw [BitVec.toNat_ofNat, Nat.mod_eq_of_lt (by omega)] at hn
  change n = 0 at hn
  omega

theorem find_of_collects (he : Collects r h n (c.entries idx) held) (h15 : n ≤ 15)
    (hidx : idx = if c.next = 0 then IEEE80211_FRAGMENT_MAX - 1 else c.next - 1)
    (hdata : rxHdr data = { h with frag := BitVec.ofNat 4 n, moreFrags := more })
    (htime : k.timeAfter jiffies ((c.entries idx).firstFragTime + BitVec.ofNat 64 (2 * k.hz)) = false) :
    ieee80211ReassembleFind k c (rxHdr data).frag.toNat (rxHdr data).seq (r.rx i data).seqnoIdx jiffies
      (rxHdr data) = (some idx, c) := by
  obtain ⟨hlist, hfirst, hne, hseq, hqueue, hlast, -, -⟩ := he
  have hfrag : (rxHdr data).frag.toNat = n := by
    rw [hdata]
    show (BitVec.ofNat 4 n).toNat = n
    rw [BitVec.toNat_ofNat, Nat.mod_eq_of_lt (by omega)]
  obtain ⟨first, rest, rfl⟩ := List.exists_cons_of_ne_nil hne
  obtain ⟨ht, h1, h2⟩ := hfirst first rfl
  unfold ieee80211ReassembleFind
  rw [show IEEE80211_FRAGMENT_MAX = 3 + 1 from rfl]
  unfold findLoop
  dsimp only
  rw [← hidx, hlist]
  dsimp only
  rw [if_neg, if_neg, if_neg]
  · rw [htime]
    decide
  · rw [hdata]
    simp [ht, h1, h2]
  · rw [hfrag, hdata]
    simp [hseq, hqueue, hlast, Receiver.rx]

theorem defragment_of_collects (hp : Plain h) (he : Collects r h n (c.entries idx) held) (h1 : 1 ≤ n) (h15 : n ≤ 15)
    (hidx : idx = if c.next = 0 then IEEE80211_FRAGMENT_MAX - 1 else c.next - 1)
    (hdata : rxHdr data = { h with frag := BitVec.ofNat 4 n, moreFrags := more })
    (htime : k.timeAfter jiffies ((c.entries idx).firstFragTime + BitVec.ofNat 64 (2 * k.hz)) = false) :
    ieee80211RxHDefragment k c jiffies (r.rx i data) = completeFrame c idx (c.entries idx) (r.rx i data) := by
  have hrx : (r.rx i data).skb.hdr = rxHdr data := rfl
  have hfrag : (rxHdr data).frag ≠ 0 := by
    rw [hdata]
    exact frag_ne_zero h1 h15
  have hcheck : checkFragment (c.entries idx) (r.rx i data) = .ok (c.entries idx) := by
    unfold checkFragment
    rw [if_neg (by rw [he.unchecked]; decide)]
    cases (r.rx i data).key with
    | none =>
      dsimp only
      rw [if_neg (by rw [he.unprotected]; decide)]
    | some key =>
      dsimp only
      rw [if_neg (by rw [he.unprotected]; simp), if_neg (by rw [he.unprotected]; simp)]
  unfold ieee80211RxHDefragment
  dsimp only
  rw [hrx, if_neg, if_neg, if_neg, if_neg, if_neg hfrag, find_of_collects he h15 hidx hdata htime]
  · dsimp only
    rw [hcheck]
  · simp [Receiver.rx]
  · rw [hdata]
    simp [hp.unicast]
  · exact fun hw => hfrag hw.2
  · rw [hdata]
    simp [isCtl, isExt, hp.ftype]

/-- **The fragments from a number on**, into the entry that holds those before. -/
theorem feed_sequel (hp : Plain h) {frames : List (List Byte)} (hs : Sequel h n frames) :
    frames ≠ [] → 1 ≤ n → n + frames.length ≤ 16 →
    ∀ {c : Cache} {held : List Skb} {times : List (BitVec 64)} (i : Nat),
    Collects r h n (c.entries idx) held →
    (idx = if c.next = 0 then IEEE80211_FRAGMENT_MAX - 1 else c.next - 1) →
    times.length = frames.length →
    (∀ t ∈ times, k.timeAfter t ((c.entries idx).firstFragTime + BitVec.ofNat 64 (2 * k.hz)) = false) →
    ∃ skb, feed k r i (times.zip frames) c = List.replicate (frames.length - 1) .queued ++ [.continue skb] ∧
      (∀ first ∈ held.head?, first.src ≠ [] → skb.src.headD 0 = first.src.headD 0) ∧
      skb.body = held.flatMap Skb.body ++ frames.flatMap bodyOf := by
  induction hs with
  | nil => exact fun hne => absurd rfl hne
  | @cons n data rest hdata hrest ih =>
    intro _ h1 h16 c held times i he hidx hlen htimes
    rw [List.length_cons] at h16
    cases times with
    | nil => cases hlen
    | cons t times =>
      have hstep := defragment_of_collects (i := i) hp he h1 (by omega) hidx hdata (htimes t List.mem_cons_self)
      rw [List.zip_cons_cons]
      unfold feed
      dsimp only
      rw [hstep]
      unfold completeFrame
      dsimp only
      have hmore : (r.rx i data).skb.hdr.moreFrags = decide (rest ≠ []) := congrArg Hdr.moreFrags hdata
      have hnum : (r.rx i data).skb.hdr.frag.toNat = n := by
        have hf : (r.rx i data).skb.hdr.frag = BitVec.ofNat 4 n := congrArg Hdr.frag hdata
        rw [hf, BitVec.toNat_ofNat, Nat.mod_eq_of_lt (by omega)]
      obtain ⟨first, held', rfl⟩ := List.exists_cons_of_ne_nil he.nonempty
      by_cases hr : rest = []
      · subst hr
        rw [if_neg (by rw [hmore]; decide), he.list, List.cons_append]
        dsimp only
        rw [if_neg (by simp [Receiver.rx])]
        cases times with
        | cons t' times => cases hlen
        | nil =>
          obtain ⟨hb, hsrc⟩ := foldl_skbPutData (held' ++ [(r.rx i data).skb]) first
          refine ⟨_, rfl, ?_, ?_⟩
          · intro x hx hxs
            cases hx
            rw [hsrc, List.flatMap_cons]
            cases hsx : first.src with
            | nil => exact absurd hsx hxs
            | cons y ys => rfl
          · rw [hb]
            simp [Receiver.rx]
      · rw [if_pos (by rw [hmore]; exact decide_eq_true hr)]
        have he' : Collects r h (n + 1) ((c.set idx { c.entries idx with
            skbList := (c.entries idx).skbList ++ [(r.rx i data).skb]
            lastFrag := (r.rx i data).skb.hdr.frag.toNat
            extraLen := (c.entries idx).extraLen + (r.rx i data).skb.body.length }).entries idx)
            (first :: held' ++ [(r.rx i data).skb]) := by
          rw [entries_set_self]
          exact ⟨by rw [he.list], fun x hx => he.first x hx, List.cons_ne_nil _ _, he.seq, he.queue,
            by rw [hnum], he.unchecked, he.unprotected⟩
        have hlen' : times.length = rest.length := by simpa using hlen
        obtain ⟨skb, hfeed, hsrc, hbody⟩ := ih hr (by omega) (by omega) (i + 1) he' hidx hlen' (by
          intro t' ht'
          have htime := htimes t' (List.mem_cons_of_mem _ ht')
          rw [entries_set_self]
          exact htime)
        refine ⟨skb, ?_, hsrc, ?_⟩
        · rw [hfeed]
          obtain ⟨m, hm⟩ : ∃ m, rest.length = m + 1 :=
            ⟨rest.length - 1, by have := List.length_pos_iff.2 hr; omega⟩
          rw [List.length_cons, hm]
          rfl
        · rw [hbody]
          simp [Receiver.rx]

/-- **All fragments**, into a cache whose next entry does not remember a key. -/
theorem feed_fragments (hp : Plain h) {rest : List (List Byte)} {t : BitVec 64} {times : List (BitVec 64)}
    (hdata : rxHdr data = { h with frag := 0, moreFrags := true }) (hs : Sequel h 1 rest) (hne : rest ≠ [])
    (h16 : 1 + rest.length ≤ 16) (hnext : c.next < IEEE80211_FRAGMENT_MAX)
    (hclean : (c.entries c.next).isProtected = false) (hlen : times.length = rest.length)
    (htimes : ∀ t' ∈ times, k.timeAfter t' (t + BitVec.ofNat 64 (2 * k.hz)) = false) :
    ∃ skb, feed k r 0 ((t :: times).zip (data :: rest)) c =
        List.replicate rest.length .queued ++ [.continue skb] ∧
      skb.src.headD 0 = 0 ∧ skb.body = bodyOf data ++ rest.flatMap bodyOf := by
  have hrx : (r.rx 0 data).skb.hdr = rxHdr data := rfl
  have hreq : requiresSequentialPn (r.rx 0 data) = false := by
    unfold requiresSequentialPn
    cases (r.rx 0 data).key with
    | none => rfl
    | some key =>
      dsimp only
      rw [hrx, hdata]
      simp [hp.unprotected]
  have hkey : ∀ e, rememberKey e (r.rx 0 data) = e := by
    intro e
    unfold rememberKey
    cases (r.rx 0 data).key with
    | none => rfl
    | some key =>
      dsimp only
      rw [if_neg (by rw [hreq]; decide), if_neg]
      rw [hrx, hdata]
      simp [hp.unprotected, Receiver.rx]
  -- the first fragment takes the next entry
  obtain ⟨c', hc'⟩ : ∃ c', c' = (ieee80211ReassembleAdd c 0 (rxHdr data).seq r.seqnoIdx t (r.rx 0 data).skb).2 :=
    ⟨_, rfl⟩
  have hentry : c'.entries c.next = { c.entries c.next with
      skbList := [(r.rx 0 data).skb], firstFragTime := t, seq := (rxHdr data).seq, rxQueue := r.seqnoIdx,
      lastFrag := 0, checkSequentialPn := false, extraLen := 0 } := by
    rw [hc']
    exact entries_set_self ..
  have hfirst : ieee80211RxHDefragment k c t (r.rx 0 data) = (.queued, c'.set c.next (c'.entries c.next)) := by
    unfold ieee80211RxHDefragment
    dsimp only
    rw [hrx, if_neg, if_neg, if_neg, if_neg, if_pos]
    · rw [hkey, hc']
      rfl
    · rw [hdata]
    · simp [Receiver.rx]
    · rw [hdata]
      simp [hp.unicast]
    · rw [hdata]
      simp
    · rw [hdata]
      simp [isCtl, isExt, hp.ftype]
  have hset : (c'.set c.next (c'.entries c.next)).entries c.next = c'.entries c.next :=
    entries_set_self ..
  have hnext' : (c'.set c.next (c'.entries c.next)).next =
      if IEEE80211_FRAGMENT_MAX ≤ c.next + 1 then 0 else c.next + 1 := by
    rw [hc']
    rfl
  have hidx : c.next = if (c'.set c.next (c'.entries c.next)).next = 0 then IEEE80211_FRAGMENT_MAX - 1
      else (c'.set c.next (c'.entries c.next)).next - 1 := by
    rw [hnext']
    by_cases hwrap : IEEE80211_FRAGMENT_MAX ≤ c.next + 1
    · rw [if_pos hwrap, if_pos rfl]
      omega
    · rw [if_neg hwrap, if_neg (Nat.succ_ne_zero _), Nat.add_sub_cancel]
  have hcol : Collects r h 1 ((c'.set c.next (c'.entries c.next)).entries c.next) [(r.rx 0 data).skb] := by
    rw [hset, hentry]
    refine ⟨rfl, ?_, List.cons_ne_nil _ _, ?_, rfl, rfl, rfl, hclean⟩
    · intro skb hskb
      cases hskb
      rw [hrx, hdata]
      exact ⟨rfl, rfl, rfl⟩
    · rw [hdata]
  obtain ⟨skb, hfeed, hsrc, hbody⟩ := feed_sequel hp hs hne (Nat.le_refl _) h16 1 hcol hidx hlen (by
    intro t' ht'
    rw [hset, hentry]
    exact htimes t' ht')
  refine ⟨skb, ?_, ?_, ?_⟩
  · rw [List.zip_cons_cons]
    unfold feed
    dsimp only
    rw [hfirst, hfeed]
    obtain ⟨m, hm⟩ : ∃ m, rest.length = m + 1 :=
      ⟨rest.length - 1, by have := List.length_pos_iff.2 hne; omega⟩
    rw [hm]
    rfl
  · exact hsrc _ rfl (List.cons_ne_nil _ _)
  · rw [hbody]
    simp [Receiver.rx]

end Cache

/-! ## The fragments as they are received -/

section Received

variable {data orig : List Byte} {hdrlen n : Nat} {more : Bool}

theorem or_setWidth {sc : BitVec 16} (h : sc &&& 0x000f = 0) :
    (sc ||| BitVec.ofNat 16 (n % 16)).setWidth 4 = BitVec.ofNat 4 n := by
  have hlow : sc.setWidth 4 = 0 := by
    have hw : sc.setWidth 4 &&& BitVec.allOnes 4 = 0 := by simpa using congrArg (fun x => x.setWidth 4) h
    rwa [BitVec.and_allOnes] at hw
  have hnum : (BitVec.ofNat 16 (n % 16)).setWidth 4 = BitVec.ofNat 4 n := by
    apply BitVec.eq_of_toNat_eq
    simp
  rw [BitVec.setWidth_or, hlow, hnum]
  simp

theorem or_shift {sc : BitVec 16} : (sc ||| BitVec.ofNat 16 (n % 16)) >>> 4 = sc >>> 4 := by
  have hnum : BitVec.ofNat 16 (n % 16) >>> 4 = 0 := by
    apply BitVec.eq_of_toNat_eq
    rw [BitVec.toNat_ushiftRight, BitVec.toNat_ofNat, Nat.shiftRight_eq_div_pow]
    show n % 16 % 2 ^ 16 / 2 ^ 4 = 0
    omega
  rw [BitVec.ushiftRight_or_distrib, hnum]
  simp

theorem or_and_low {sc : BitVec 16} (h : sc &&& 0x000f = 0) :
    ((sc ||| BitVec.ofNat 16 (n % 16)) &&& 0x000f).toNat = n % 16 := by
  rw [BitVec.and_or_distrib_right, h]
  have hz : (0 : BitVec 16) ||| (BitVec.ofNat 16 (n % 16) &&& 0x000f) = BitVec.ofNat 16 (n % 16) &&& 0x000f := by
    simp
  rw [hz, BitVec.toNat_and, BitVec.toNat_ofNat]
  show n % 16 % 2 ^ 16 &&& 2 ^ 4 - 1 = n % 16
  rw [Nat.and_two_pow_sub_one_eq_mod]
  omega

theorem etherAddr_mark (hl : 24 ≤ data.length) {i : Nat} (h2 : 2 ≤ i) (h16 : i ≤ 16) :
    etherAddr (mark more n data) i = etherAddr data i := by
  unfold etherAddr
  rw [getD_mark hl h2 (by omega), getD_mark hl (by omega) (by omega), getD_mark hl (by omega) (by omega),
    getD_mark hl (by omega) (by omega), getD_mark hl (by omega) (by omega), getD_mark hl (by omega) (by omega)]

/-- The receiver sees the number and the mark, and nothing else of what the last loop wrote. -/
theorem rxHdr_mark (hl : 24 ≤ data.length) (h0 : seqCtrl data &&& 0x000f = 0) :
    rxHdr (mark more n data) = { rxHdr data with frag := BitVec.ofNat 4 n, moreFrags := more } := by
  unfold rxHdr
  rw [frameControl_mark hl, seqCtrl_mark hl, and_mark (by decide), and_mark (by decide), hasMorefrags_mark,
    etherAddr_mark hl (by omega) (by omega), etherAddr_mark hl (by omega) (by omega), or_setWidth h0, or_shift]

theorem fragOf_mark (hl : 24 ≤ data.length) (h0 : seqCtrl data &&& 0x000f = 0) :
    fragOf (mark more n data) = n % 16 := by
  rw [fragOf, seqCtrl_mark hl, or_and_low h0]

theorem bodyOf_mark (hl : 24 ≤ data.length) (hd : (frameControl data).isData = true) :
    bodyOf (mark more n data) = bodyOf data := by
  have hlo : 24 ≤ hdrlenOf data := (hdrlen_bounds hd).1
  rw [bodyOf, hdrlenOf_mark hl, drop_mark hl hlo, bodyOf]

/-- A piece behind the header of `orig`. -/
structure Behind (orig data : List Byte) : Prop where
  length : 24 ≤ data.length
  frameControl : frameControl data = frameControl orig
  seqCtrl : seqCtrl data = seqCtrl orig
  rxHdr : rxHdr data = rxHdr orig

theorem getD_of_take (h : data.take hdrlen = orig.take hdrlen) {i : Nat} (hi : i < hdrlen) :
    data.getD i 0 = orig.getD i 0 := by
  have hget := congrArg (fun l => l.getD i 0) h
  simpa [List.getD, List.getElem?_take_of_lt hi] using hget

theorem behind_of_take (h : data.take hdrlen = orig.take hdrlen) (hlo : 24 ≤ hdrlen) (hl : hdrlen ≤ orig.length) :
    Behind orig data := by
  have hget : ∀ i, i < 24 → data.getD i 0 = orig.getD i 0 := fun i hi => getD_of_take h (by omega)
  have hlen := congrArg List.length h
  rw [List.length_take, List.length_take, Nat.min_eq_left hl] at hlen
  have hfc : frameControl data = frameControl orig := by
    unfold frameControl le16
    rw [hget _ (by omega), hget _ (by omega)]
  have hsc : seqCtrl data = seqCtrl orig := by
    unfold seqCtrl le16
    rw [hget _ (by omega), hget _ (by omega)]
  have haddr : ∀ i, i ≤ 16 → etherAddr data i = etherAddr orig i := by
    intro i hi
    unfold etherAddr
    rw [hget _ (by omega), hget _ (by omega), hget _ (by omega), hget _ (by omega), hget _ (by omega),
      hget _ (by omega)]
  refine ⟨by omega, hfc, hsc, ?_⟩
  unfold rxHdr
  rw [hfc, hsc, haddr _ (by omega), haddr _ (by omega)]

theorem length_marked (l : List (List Byte)) : ∀ n : Nat, (marked n l).length = l.length := by
  induction l with
  | nil => exact fun _ => rfl
  | cons d rest ih =>
    intro n
    rw [marked, List.length_cons, ih (n + 1), List.length_cons]

theorem marked_ne_nil {l : List (List Byte)} : marked n l ≠ [] ↔ l ≠ [] := by
  rw [← List.length_pos_iff, length_marked, List.length_pos_iff]

/-- **The marked pieces are the fragments that the cache expects.** -/
theorem sequel_marked (h0 : seqCtrl orig &&& 0x000f = 0) (l : List (List Byte)) :
    ∀ n : Nat, (∀ d ∈ l, Behind orig d) → Sequel (rxHdr orig) n (marked n l) := by
  induction l with
  | nil => exact fun n _ => .nil n
  | cons d rest ih =>
    intro n hl
    have hd := hl d List.mem_cons_self
    rw [marked]
    refine .cons ?_ (ih (n + 1) (fun d' hd' => hl d' (List.mem_cons_of_mem _ hd')))
    rw [rxHdr_mark hd.length (by rw [hd.seqCtrl]; exact h0), hd.rxHdr]
    simp [marked_ne_nil]

theorem fragOf_marked (h0 : seqCtrl orig &&& 0x000f = 0) (l : List (List Byte)) :
    ∀ n : Nat, (∀ d ∈ l, Behind orig d) →
      (marked n l).map fragOf = (List.range' n l.length).map (· % 16) := by
  induction l with
  | nil => exact fun n _ => rfl
  | cons d rest ih =>
    intro n hl
    have hd := hl d List.mem_cons_self
    rw [marked, List.map_cons, ih (n + 1) (fun d' hd' => hl d' (List.mem_cons_of_mem _ hd')),
      fragOf_mark hd.length (by rw [hd.seqCtrl]; exact h0)]
    rfl

theorem hasMorefrags_marked (l : List (List Byte)) : ∀ n : Nat, (∀ d ∈ l, Behind orig d) →
    (marked n l).map (fun d => (frameControl d).hasMorefrags) =
      List.replicate (l.length - 1) true ++ List.replicate (min l.length 1) false := by
  induction l with
  | nil => exact fun n _ => rfl
  | cons d rest ih =>
    intro n hl
    rw [marked, List.map_cons, ih (n + 1) (fun d' hd' => hl d' (List.mem_cons_of_mem _ hd')),
      frameControl_mark (hl d List.mem_cons_self).length, hasMorefrags_mark]
    cases rest with
    | nil => rfl
    | cons d' rest =>
      simp [List.replicate_succ]

theorem bodyOf_marked (hd : (frameControl orig).isData = true) (l : List (List Byte)) :
    ∀ n : Nat, (∀ d ∈ l, Behind orig d) → (marked n l).flatMap bodyOf = l.flatMap bodyOf := by
  induction l with
  | nil => exact fun n _ => rfl
  | cons d rest ih =>
    intro n hl
    have hb := hl d List.mem_cons_self
    rw [marked, List.flatMap_cons, ih (n + 1) (fun d' hd' => hl d' (List.mem_cons_of_mem _ hd')),
      bodyOf_mark hb.length (by rw [hb.frameControl]; exact hd), List.flatMap_cons]

theorem length_of_marked {b : Nat} (l : List (List Byte)) :
    ∀ n : Nat, (∀ d ∈ l, Behind orig d) → (∀ d ∈ l, d.length ≤ b) → ∀ d ∈ marked n l, d.length ≤ b := by
  induction l with
  | nil => exact fun n _ _ d hd => (nomatch hd)
  | cons d rest ih =>
    intro n hl hb d' hd'
    rcases List.mem_cons.1 hd' with rfl | hd'
    · rw [length_mark (hl d List.mem_cons_self).length]
      exact hb d List.mem_cons_self
    · exact ih (n + 1) (fun x hx => hl x (List.mem_cons_of_mem _ hx))
        (fun x hx => hb x (List.mem_cons_of_mem _ hx)) d' hd'

/-- Numbers in four bits are distinct up to the sixteenth. -/
theorem nodup_mod {m : Nat} : ((List.range' 0 m).map (· % 16)).Nodup ↔ m ≤ 16 := by
  constructor
  · intro h
    by_contra hm
    have hinj := List.inj_on_of_nodup_map h (x := 0) (y := 16) (by simp; omega) (by simp; omega) rfl
    omega
  · intro hm
    refine List.Nodup.map_on ?_ List.nodup_range'
    intro x hx y hy hxy
    rw [List.mem_range'_1] at hx hy
    omega

end Received

/-! ## The round trip -/

section RoundTrip

variable {data : List Byte} {hdrlen n : Nat} {more : Bool}

theorem take_setFrameControl {fc : FrameControl} (h : 2 ≤ hdrlen) :
    (setFrameControl data fc).take hdrlen = setFrameControl (data.take hdrlen) fc := by
  obtain ⟨m, rfl⟩ : ∃ m, hdrlen = 2 + m := ⟨hdrlen - 2, by omega⟩
  simp [setFrameControl, toLe16, List.drop_take, Nat.add_comm 2 m]

theorem toLe16_append (lo hi : Byte) : toLe16 (hi ++ lo) = [lo, hi] := by
  have hlo : (hi ++ lo : BitVec 16).setWidth 8 = lo := by grind
  have hhi : ((hi ++ lo : BitVec 16) >>> 8).setWidth 8 = hi := by grind
  unfold toLe16
  rw [hlo, hhi]

theorem setSeqCtrl_self (hl : 24 ≤ data.length) : setSeqCtrl data (seqCtrl data) = data := by
  have hdrop : data.drop 22 = toLe16 (seqCtrl data) ++ data.drop 24 := by
    unfold seqCtrl le16
    rw [toLe16_append, List.drop_eq_getElem_cons (by omega : 22 < data.length),
      List.drop_eq_getElem_cons (by omega : 22 + 1 < data.length)]
    simp [List.getD, List.getElem?_eq_getElem (by omega : 22 < data.length),
      List.getElem?_eq_getElem (by omega : 23 < data.length)]
  rw [setSeqCtrl, ← hdrop, List.take_append_drop]

theorem mark_zero (hl : 24 ≤ data.length) :
    mark true 0 data = setFrameControl data (frameControl data ||| IEEE80211_FCTL_MOREFRAGS) := by
  have hl' : 24 ≤ (setFrameControl data (frameControl data ||| IEEE80211_FCTL_MOREFRAGS)).length := by
    rw [length_setFrameControl (by omega)]
    exact hl
  have hself := setSeqCtrl_self hl'
  rw [seqCtrl_setFrameControl] at hself
  simpa [mark] using hself

variable {orig : List Byte}

/-- The header of the first fragment, in front of the body. -/
theorem take_mark_append (h : data.take hdrlen = orig.take hdrlen) (hlo : 24 ≤ hdrlen) (hl : hdrlen ≤ orig.length) :
    (mark true 0 data).take hdrlen ++ orig.drop hdrlen =
      setFrameControl orig (frameControl orig ||| IEEE80211_FCTL_MOREFRAGS) := by
  have hb := behind_of_take h hlo hl
  rw [mark_zero hb.length, take_setFrameControl (by omega), h, hb.frameControl]
  unfold setFrameControl
  rw [List.append_assoc, List.drop_take]
  congr 1
  obtain ⟨m, rfl⟩ : ∃ m, hdrlen = 2 + m := ⟨hdrlen - 2, by omega⟩
  rw [Nat.add_sub_cancel_left, ← List.drop_drop, List.take_append_drop]

theorem plain_of_data (hd : (frameControl orig).isData = true)
    (hopen : frameControl orig &&& IEEE80211_FCTL_PROTECTED = 0)
    (hunicast : Defrag.isMulticastEtherAddr (etherAddr orig 4) = false) : Plain (rxHdr orig) := by
  refine ⟨?_, ?_, hunicast⟩
  · have hft : frameControl orig &&& IEEE80211_FCTL_FTYPE = 0x0008 := by
      simpa [FrameControl.isData] using hd
    unfold rxHdr
    dsimp only
    rw [hft]
    decide
  · unfold rxHdr
    dsimp only
    rw [hopen]
    decide

theorem txHFragment_marked {conf : TxConf} {skb : TxSkb} {alloc : Nat → Bool} (hs : Sendable conf skb)
    (halloc : ∀ i, alloc i = true) :
    ∃ frames l, ieee80211TxHFragment conf alloc skb = some frames ∧
      frames.map TxSkb.data = marked 0 (l.map TxSkb.data) ∧
      Pieces skb.data (hdrlenOf skb.data) (conf.fragThreshold - (hdrlenOf skb.data + FCS_LEN))
        (hdrlenOf skb.data) l ∧ 2 ≤ l.length ∧
      ∀ m, l.length ≤ m ↔
        (bodyOf skb.data).length ≤ m * (conf.fragThreshold - (hdrlenOf skb.data + FCS_LEN)) := by
  obtain ⟨l, hl, hpieces, htwo, hcount⟩ := fragment_pieces hs halloc
  refine ⟨numberFragments 0 l, l, ?_, data_numberFragments l 0, hpieces, htwo, hcount⟩
  have hlong := hs.long
  unfold ieee80211TxHFragment
  dsimp only
  unfold hdrlenOf at hl
  rw [hs.dontfrag, hs.software, hs.ampdu, hl, if_neg (by decide), if_neg (by decide), if_neg (by decide),
    if_neg (by omega)]
  rfl

def perFragm (conf : TxConf) (skb : TxSkb) : Nat := conf.fragThreshold - (hdrlenOf skb.data + FCS_LEN)

/-- What is sent for a frame, one after the other. -/
structure Fragmented (conf : TxConf) (skb : TxSkb) (frames : List TxSkb) : Prop where
  several : 2 ≤ frames.length
  short : ∀ f ∈ frames, f.data.length ≤ conf.fragThreshold - FCS_LEN
  moreFrags : frames.map (fun f => (frameControl f.data).hasMorefrags) =
    List.replicate (frames.length - 1) true ++ [false]
  numbers : frames.map (fun f => fragOf f.data) = (List.range frames.length).map (· % 16)
  distinct : (frames.map (fun f => fragOf f.data)).Nodup ↔ (bodyOf skb.data).length ≤ 16 * perFragm conf skb
  body : frames.flatMap (fun f => bodyOf f.data) = bodyOf skb.data

variable {conf : TxConf} {skb : TxSkb} {alloc : Nat → Bool} {frames l : List TxSkb}

theorem behind_of_pieces (hs : Sendable conf skb)
    (hp : Pieces skb.data (hdrlenOf skb.data) (perFragm conf skb) (hdrlenOf skb.data) l) :
    ∀ d ∈ l.map TxSkb.data, Behind skb.data d := by
  intro d hd
  obtain ⟨f, hf, rfl⟩ := List.mem_map.1 hd
  have hlong := hs.long
  have hthr := hs.threshold
  have hb := hdrlen_bounds hs.isData
  unfold FCS_LEN at hlong
  exact behind_of_take (hp.header f hf) hb.1 (by unfold hdrlenOf; omega)

theorem flatMap_bodyOf (hs : Sendable conf skb)
    (hp : Pieces skb.data (hdrlenOf skb.data) (perFragm conf skb) (hdrlenOf skb.data) l) :
    (l.map TxSkb.data).flatMap bodyOf = bodyOf skb.data := by
  have hb := behind_of_pieces hs hp
  have hpiece : ∀ f ∈ l, bodyOf f.data = f.data.drop (hdrlenOf skb.data) := by
    intro f hf
    unfold bodyOf hdrlenOf
    rw [(hb _ (List.mem_map_of_mem hf)).frameControl]
  rw [List.flatMap_map, bodyOf, ← hp.body]
  exact List.flatMap_congr hpiece

/-- **The sender.** -/
theorem fragmented_of_marked (hs : Sendable conf skb)
    (hmarked : frames.map TxSkb.data = marked 0 (l.map TxSkb.data))
    (hp : Pieces skb.data (hdrlenOf skb.data) (perFragm conf skb) (hdrlenOf skb.data) l) (htwo : 2 ≤ l.length)
    (hcount : ∀ m, l.length ≤ m ↔ (bodyOf skb.data).length ≤ m * perFragm conf skb) :
    Fragmented conf skb frames := by
  have hb := behind_of_pieces hs hp
  have hlen : frames.length = l.length := by
    have h := congrArg List.length hmarked
    rwa [List.length_map, length_marked, List.length_map] at h
  have hmap : ∀ {β : Type} (g : List Byte → β),
      frames.map (fun f => g f.data) = (marked 0 (l.map TxSkb.data)).map g := by
    intro β g
    rw [← hmarked, List.map_map]
    rfl
  have hnumbers : frames.map (fun f => fragOf f.data) = (List.range' 0 l.length).map (· % 16) := by
    rw [hmap fragOf, fragOf_marked hs.unnumbered _ 0 hb, List.length_map]
  refine ⟨by omega, ?_, ?_, ?_, ?_, ?_⟩
  · intro f hf
    have hmem : f.data ∈ marked 0 (l.map TxSkb.data) := by
      rw [← hmarked]
      exact List.mem_map_of_mem hf
    refine length_of_marked (l.map TxSkb.data) 0 hb ?_ f.data hmem
    intro d hd
    obtain ⟨f', hf', rfl⟩ := List.mem_map.1 hd
    have hshort := hp.short f' hf'
    have hlo := hdrlen_bounds hs.isData
    have hthr := hs.threshold
    unfold perFragm FCS_LEN hdrlenOf at hshort
    unfold FCS_LEN
    omega
  · rw [hmap (fun d => (frameControl d).hasMorefrags), hasMorefrags_marked _ 0 hb, List.length_map, hlen,
      Nat.min_eq_right (by omega)]
    rfl
  · rw [hnumbers, hlen, List.range_eq_range']
  · rw [hnumbers, nodup_mod, hcount 16]
  · have hflat : frames.flatMap (fun f => bodyOf f.data) = (frames.map TxSkb.data).flatMap bodyOf := by
      rw [List.flatMap_map]
    rw [hflat, hmarked, bodyOf_marked hs.isData _ 0 hb, flatMap_bodyOf hs hp]

/-- **The receiver**: the header of the first fragment and the body. -/
theorem restored_of_marked (hs : Sendable conf skb)
    (hopen : frameControl skb.data &&& IEEE80211_FCTL_PROTECTED = 0)
    (hunicast : Defrag.isMulticastEtherAddr (etherAddr skb.data 4) = false)
    (hmarked : frames.map TxSkb.data = marked 0 (l.map TxSkb.data))
    (hp : Pieces skb.data (hdrlenOf skb.data) (perFragm conf skb) (hdrlenOf skb.data) l) (htwo : 2 ≤ l.length)
    (h16 : l.length ≤ 16) {k : KernelApi} {r : Receiver} {c : Cache} {t : BitVec 64} {times : List (BitVec 64)}
    (hnext : c.next < IEEE80211_FRAGMENT_MAX) (hclean : (c.entries c.next).isProtected = false)
    (hlen : times.length + 1 = frames.length)
    (htimes : ∀ t' ∈ times, k.timeAfter t' (t + BitVec.ofNat 64 (2 * k.hz)) = false) :
    ∃ skb', feed k r 0 ((t :: times).zip (frames.map TxSkb.data)) c =
        List.replicate (frames.length - 1) .queued ++ [.continue skb'] ∧
      handedOn (frames.map TxSkb.data) skb' =
        setFrameControl skb.data (frameControl skb.data ||| IEEE80211_FCTL_MOREFRAGS) := by
  have hb := behind_of_pieces hs hp
  have hbody := flatMap_bodyOf hs hp
  have hplain := plain_of_data hs.isData hopen hunicast
  have hfl : frames.length = l.length := by
    have h := congrArg List.length hmarked
    rwa [List.length_map, length_marked, List.length_map] at h
  cases l with
  | nil => exact absurd htwo (by decide)
  | cons p ps =>
    rw [List.map_cons] at hb hbody hmarked
    have hhead := hp.header p List.mem_cons_self
    have hpb := hb _ List.mem_cons_self
    have hrest : ∀ d ∈ ps.map TxSkb.data, Behind skb.data d := fun d hd => hb d (List.mem_cons_of_mem _ hd)
    rw [List.length_cons] at htwo h16 hfl
    have hne : ps.map TxSkb.data ≠ [] := by
      rw [← List.length_pos_iff, List.length_map]
      omega
    have hhl : hdrlenOf p.data = hdrlenOf skb.data := by
      unfold hdrlenOf
      rw [hpb.frameControl]
    have hlo : 24 ≤ hdrlenOf skb.data := (hdrlen_bounds hs.isData).1
    have hbl : hdrlenOf skb.data ≤ skb.data.length := by
      have hhi : hdrlenOf skb.data ≤ 36 := (hdrlen_bounds hs.isData).2
      have hlong := hs.long
      have hthr := hs.threshold
      unfold FCS_LEN at hlong
      omega
    have hfirst : rxHdr (mark true 0 p.data) = { rxHdr skb.data with frag := 0, moreFrags := true } := by
      rw [rxHdr_mark hpb.length (by rw [hpb.seqCtrl]; exact hs.unnumbered), hpb.rxHdr]
      rfl
    rw [marked, decide_eq_true hne] at hmarked
    rw [hmarked]
    obtain ⟨skb', hfeed, hsrc, hskb⟩ := feed_fragments (k := k) (r := r) hplain hfirst
      (sequel_marked hs.unnumbered _ 1 hrest) (marked_ne_nil.2 hne)
      (by rw [length_marked, List.length_map]; omega) hnext hclean
      (by rw [length_marked, List.length_map]; omega) htimes
    refine ⟨skb', ?_, ?_⟩
    · rw [hfeed, length_marked, List.length_map, hfl, Nat.add_sub_cancel]
    · unfold handedOn
      dsimp only
      rw [hsrc, List.getD_cons_zero, hskb, bodyOf_mark hpb.length (by rw [hpb.frameControl]; exact hs.isData),
        bodyOf_marked hs.isData _ 1 hrest, hdrlenOf_mark hpb.length, hhl, ← List.flatMap_cons, hbody]
      exact take_mark_append hhead hlo hbl

/-- **Fragments and their reassembly**: what a data frame is sent as, and for as many fragments as have numbers,
    that a receiver without a protected frame in the way gets the frame again, but for the mark. -/
theorem fragments_restored (hs : Sendable conf skb) (halloc : ∀ i, alloc i = true)
    (hopen : frameControl skb.data &&& IEEE80211_FCTL_PROTECTED = 0)
    (hunicast : Defrag.isMulticastEtherAddr (etherAddr skb.data 4) = false) :
    ∃ frames, ieee80211TxHFragment conf alloc skb = some frames ∧ Fragmented conf skb frames ∧
      ((bodyOf skb.data).length ≤ 16 * perFragm conf skb →
        ∀ (k : KernelApi) (r : Receiver) (c : Cache) (t : BitVec 64) (times : List (BitVec 64)),
          c.next < IEEE80211_FRAGMENT_MAX → (c.entries c.next).isProtected = false →
          times.length + 1 = frames.length →
          (∀ t' ∈ times, k.timeAfter t' (t + BitVec.ofNat 64 (2 * k.hz)) = false) →
          ∃ skb', feed k r 0 ((t :: times).zip (frames.map TxSkb.data)) c =
              List.replicate (frames.length - 1) .queued ++ [.continue skb'] ∧
            handedOn (frames.map TxSkb.data) skb' =
              setFrameControl skb.data (frameControl skb.data ||| IEEE80211_FCTL_MOREFRAGS)) := by
  obtain ⟨frames, l, htx, hmarked, hp, htwo, hcount⟩ := txHFragment_marked hs halloc
  refine ⟨frames, htx, fragmented_of_marked hs hmarked hp htwo hcount, ?_⟩
  intro hbody k r c t times hnext hclean hlen htimes
  exact restored_of_marked hs hopen hunicast hmarked hp htwo ((hcount 16).2 hbody) hnext hclean hlen htimes

end RoundTrip

/-! ## A frame -/

/-- A data frame with `n` bytes behind its header. -/
def dataFrame (n : Nat) : TxSkb where
  info :=
    { dontfrag := false, ampdu := false, clearPsFilt := false, firstFragment := true, moreFrames := false,
      rateCtrlProbe := false, rates := [-1, -1, -1] }
  data := 0x08 :: (List.replicate 23 0 ++ List.replicate n 0)

def conf256 : TxConf where
  fragThreshold := 256
  supportsTxFrag := false

theorem frameControl_dataFrame (n : Nat) : frameControl (dataFrame n).data = 0x0008 := by
  simp [dataFrame, frameControl, le16, List.getD, List.replicate]

theorem unicast_dataFrame (n : Nat) : Defrag.isMulticastEtherAddr (etherAddr (dataFrame n).data 4) = false := by
  simp [dataFrame, etherAddr, Defrag.isMulticastEtherAddr, List.getD, List.replicate]

theorem sendable_dataFrame {n : Nat} (h : 228 < n) : Sendable conf256 (dataFrame n) where
  isData := by
    rw [frameControl_dataFrame]
    decide
  threshold := Nat.le_refl _
  long := by
    simp [conf256, dataFrame, FCS_LEN]
    omega
  unnumbered := by simp [dataFrame, seqCtrl, le16, List.getD, List.replicate]
  dontfrag := rfl
  ampdu := rfl
  software := rfl

theorem hdrlenOf_dataFrame (n : Nat) : hdrlenOf (dataFrame n).data = 24 := by
  rw [hdrlenOf, frameControl_dataFrame]
  decide

theorem length_bodyOf_dataFrame (n : Nat) : (bodyOf (dataFrame n).data).length = n := by
  rw [bodyOf, hdrlenOf_dataFrame, List.length_drop]
  simp [dataFrame]

theorem perFragm_dataFrame (n : Nat) : perFragm conf256 (dataFrame n) = 228 := by
  rw [perFragm, hdrlenOf_dataFrame]
  rfl

def granted : Nat → Bool := fun _ => true

theorem granted_eq (i : Nat) : granted i = true := rfl

theorem length_dataFrame_240 {frames : List TxSkb}
    (htx : ieee80211TxHFragment conf256 granted (dataFrame 240) = some frames) : frames.length = 2 := by
  obtain ⟨frames', l, htx', hmarked, -, htwo, hcount⟩ := txHFragment_marked
    (sendable_dataFrame (n := 240) (by decide)) granted_eq
  rw [htx] at htx'
  cases htx'
  have hle : l.length ≤ 2 := (hcount 2).2 (by
    rw [length_bodyOf_dataFrame, ← perFragm, perFragm_dataFrame]
    decide)
  have h := congrArg List.length hmarked
  rw [List.length_map, length_marked, List.length_map] at h
  omega

def openReceiver : Receiver where
  sta := true
  key := none
  seqnoIdx := 0
  securityIdx := 0
  ccmGcmPn := fun _ => 0
  tailroom := 0

theorem in_time : ∀ t' ∈ [(1 : BitVec 64)],
    KernelApi.linux.timeAfter t' (0 + BitVec.ofNat 64 (2 * KernelApi.linux.hz)) = false := by
  intro t' ht'
  rw [List.mem_singleton.1 ht']
  rfl

/-- `ieee80211_init_frag_cache` -/
def emptyCache : Cache where
  entries _ :=
    { skbList := [], firstFragTime := 0, seq := 0, extraLen := 0, lastFrag := 0, rxQueue := 0,
      checkSequentialPn := false, isProtected := false, keyColor := 0, lastPn := fun _ => 0 }
  next := 0

/-- The header comes back with the mark of the first fragment, and the seventeenth fragment has the number of the
    first. -/
theorem mark_and_number_stay :
    (∃ frames skb', ieee80211TxHFragment conf256 granted (dataFrame 240) = some frames ∧
      feed KernelApi.linux openReceiver 0 ([0, 1].zip (frames.map TxSkb.data)) emptyCache =
        [.queued, .continue skb'] ∧
      handedOn (frames.map TxSkb.data) skb' ≠ (dataFrame 240).data) ∧
    ∃ frames, ieee80211TxHFragment conf256 granted (dataFrame 4000) = some frames ∧
      ¬ (frames.map (fun f => fragOf f.data)).Nodup := by
  refine ⟨?_, ?_⟩
  · have hs := sendable_dataFrame (n := 240) (by decide)
    obtain ⟨frames, l, htx, hmarked, hp, htwo, hcount⟩ :=
      txHFragment_marked hs granted_eq
    have hlen := length_dataFrame_240 htx
    have hle : l.length ≤ 16 := (hcount 16).2 (by
      rw [length_bodyOf_dataFrame, ← perFragm, perFragm_dataFrame]
      decide)
    obtain ⟨skb', hfeed, hback⟩ := restored_of_marked (k := KernelApi.linux) (r := openReceiver) (c := emptyCache)
      (t := 0) hs (by rw [frameControl_dataFrame]; decide) (unicast_dataFrame 240) hmarked hp htwo hle (by decide) rfl
      (show [(1 : BitVec 64)].length + 1 = frames.length from hlen.symm) in_time
    rw [hlen] at hfeed
    refine ⟨frames, skb', htx, hfeed, ?_⟩
    rw [hback]
    intro h
    exact absurd (congrArg (fun data => data.getD 1 0) h) (by decide)
  · have hs := sendable_dataFrame (n := 4000) (by decide)
    obtain ⟨frames, l, htx, hmarked, hp, htwo, hcount⟩ :=
      txHFragment_marked hs granted_eq
    refine ⟨frames, htx, ?_⟩
    rw [(fragmented_of_marked hs hmarked hp htwo hcount).distinct, length_bodyOf_dataFrame, perFragm_dataFrame]
    decide

/-- A frame in two fragments. -/
theorem fragments_restored_two :
    ∃ frames, ieee80211TxHFragment conf256 granted (dataFrame 240) = some frames ∧
      Fragmented conf256 (dataFrame 240) frames ∧
      ∃ skb', feed KernelApi.linux openReceiver 0 ([0, 1].zip (frames.map TxSkb.data)) emptyCache =
          [.queued, .continue skb'] ∧
        handedOn (frames.map TxSkb.data) skb' = 0x08 :: 0x04 :: (dataFrame 240).data.drop 2 := by
  obtain ⟨frames, htx, hfrag, hback⟩ := fragments_restored
    (sendable_dataFrame (n := 240) (by decide)) granted_eq (by rw [frameControl_dataFrame]; decide)
    (unicast_dataFrame 240)
  have hlen := length_dataFrame_240 htx
  obtain ⟨skb', hfeed, hhand⟩ := hback (by rw [length_bodyOf_dataFrame, perFragm_dataFrame]; decide)
    KernelApi.linux openReceiver emptyCache 0 [1] (by decide) rfl hlen.symm in_time
  rw [hlen] at hfeed
  exact ⟨frames, htx, hfrag, skb', hfeed, hhand⟩

end Mac80211.Fragment
