import Mathlib
import Wifi.Lib.Runs
import Wifi.Mac80211.Defrag

/-!
# Fragments of one frame

* `pnValue_incPn` — the next PN is one more, with carry.
* `OneFrame` — what the fragments of a reassembled frame have in common.
* `Pending` — what an entry holds, and what it remembers of it.
* `findLoop_spec`, `rememberKey_pending`, `checkFragment_append` — the functions of the cache, on a
  pending entry.
-/

namespace Mac80211.Defrag

/-! ## Packet numbers -/

theorem byte_succ {b : BitVec 8} (h : b + 1 ≠ 0) : (b + 1).toNat = b.toNat + 1 := by
  have hlt := b.isLt
  have hne : (b + 1).toNat ≠ 0 := fun h0 => h (BitVec.eq_of_toNat_eq h0)
  rw [BitVec.toNat_add, show (1 : BitVec 8).toNat = 1 from rfl] at hne ⊢
  omega

theorem byte_wrap {b : BitVec 8} (h : b + 1 = 0) : b.toNat = 255 := by
  have hlt := b.isLt
  have h0 : (b + 1).toNat = 0 := by rw [h]; rfl
  rw [BitVec.toNat_add, show (1 : BitVec 8).toNat = 1 from rfl] at h0
  omega

theorem byteIdx_ne {i j : Nat} (hi : i < 6) (hj : j < 6) (h : j ≠ i) :
    Fin.ofNat 6 j ≠ Fin.ofNat 6 i := by
  intro he
  have hv := congrArg Fin.val he
  simp only [Fin.val_ofNat, Nat.mod_eq_of_lt hi, Nat.mod_eq_of_lt hj] at hv
  exact h hv

theorem pnPrefix_succ (pn : Pn) (i : Nat) : pnPrefix pn (i + 1) = pnPrefix pn i * 256 + (pn (Fin.ofNat 6 i)).toNat := rfl

theorem incPnFrom_succ (i : Nat) (pn : Pn) : incPnFrom (i + 1) pn =
    if pn (Fin.ofNat 6 i) + 1 ≠ 0 then Function.update pn (Fin.ofNat 6 i) (pn (Fin.ofNat 6 i) + 1)
    else incPnFrom i (Function.update pn (Fin.ofNat 6 i) (pn (Fin.ofNat 6 i) + 1)) := by
  change (if _ then _ else _) = _
  rw [Function.update_self]

theorem pnPrefix_lt (pn : Pn) : ∀ i, pnPrefix pn i < 256 ^ i
  | 0 => Nat.one_pos
  | i + 1 => by
    have ih := pnPrefix_lt pn i
    have hb := (pn (Fin.ofNat 6 i)).isLt
    rw [pnPrefix_succ, pow_succ]
    omega

theorem pnPrefix_update (pn : Pn) (b : BitVec 8) {i : Nat} (hi : i < 6) : ∀ j ≤ i,
    pnPrefix (Function.update pn (Fin.ofNat 6 i) b) j = pnPrefix pn j
  | 0, _ => rfl
  | j + 1, hj => by
    rw [pnPrefix_succ, pnPrefix_succ, pnPrefix_update pn b hi j (by omega),
      Function.update_of_ne (byteIdx_ne hi (by omega) (by omega))]

theorem incPnFrom_of_ge : ∀ (i : Nat) (pn : Pn) {j : Nat}, i ≤ 6 → i ≤ j → j < 6 →
    incPnFrom i pn (Fin.ofNat 6 j) = pn (Fin.ofNat 6 j)
  | 0, _, _, _, _, _ => rfl
  | i + 1, pn, j, hi, hij, hj => by
    have hne := byteIdx_ne (show i < 6 by omega) hj (show j ≠ i by omega)
    rw [incPnFrom_succ]
    split
    · exact Function.update_of_ne hne _ _
    · rw [incPnFrom_of_ge i _ (by omega) (by omega) hj, Function.update_of_ne hne]

theorem pnPrefix_incPnFrom : ∀ (i : Nat) (pn : Pn), i ≤ 6 →
    pnPrefix (incPnFrom i pn) i = (pnPrefix pn i + 1) % 256 ^ i
  | 0, _, _ => by rw [pow_zero, Nat.mod_one]; rfl
  | i + 1, pn, hi => by
    have hlt := pnPrefix_lt pn i
    have hpow : 256 ^ (i + 1) = 256 ^ i * 256 := pow_succ _ _
    rw [incPnFrom_succ, pnPrefix_succ pn]
    split
    · -- no carry out of byte `i`
      rename_i hb
      have hs := byte_succ hb
      have hub := (pn (Fin.ofNat 6 i) + 1).isLt
      rw [pnPrefix_succ, pnPrefix_update pn _ (by omega) i (by omega), Function.update_self, hs,
        Nat.mod_eq_of_lt (by omega)]
      omega
    · rename_i hb
      have hz : pn (Fin.ofNat 6 i) + 1 = 0 := not_not.1 hb
      have hw := byte_wrap hz
      have ih := pnPrefix_incPnFrom i (Function.update pn (Fin.ofNat 6 i) (pn (Fin.ofNat 6 i) + 1))
        (by omega)
      rw [pnPrefix_succ, ih, incPnFrom_of_ge i _ (by omega) (Nat.le_refl i) (by omega), Function.update_self, hz,
        pnPrefix_update pn _ (by omega) i (Nat.le_refl i), hw, hpow,
        show pnPrefix pn i * 256 + 255 + 1 = (pnPrefix pn i + 1) * 256 by omega,
        Nat.mul_mod_mul_right]
      exact Nat.add_zero _

/-- **The next PN is one more, with carry across the six bytes.** -/
theorem pnValue_incPn (pn : Pn) : pnValue (incPn pn) = (pnValue pn + 1) % 2 ^ 48 := by
  rw [show (2 : Nat) ^ 48 = 256 ^ 6 by decide]
  exact pnPrefix_incPnFrom 6 pn (Nat.le_refl 6)

/-- The PN of a fragment as the decryption leaves it: the key has that of a first fragment,
    `rx->ccm_gcm` that of a later one. -/
def Rx.pn (rx : Rx) : Pn :=
  if rx.skb.hdr.frag = 0 then
    match rx.key with
    | none => rx.ccmGcmPn
    | some key => key.rxPn rx.securityIdx
  else rx.ccmGcmPn

def Rx.color (rx : Rx) : Option (BitVec 32) := rx.key.map Key.color

/-! ## Fragments of one frame -/

def SameSender (a b : Hdr) : Prop := a.ftype = b.ftype ∧ a.addr1 = b.addr1 ∧ a.addr2 = b.addr2

theorem SameSender.symm {a b : Hdr} (h : SameSender a b) : SameSender b a :=
  ⟨h.1.symm, h.2.1.symm, h.2.2.symm⟩

theorem SameSender.trans {a b c : Hdr} (h : SameSender a b) (h' : SameSender b c) :
    SameSender a c :=
  ⟨h.1.trans h'.1, h.2.1.trans h'.2.1, h.2.2.trans h'.2.2⟩

/-- **The fragments `0, 1, …, n` of one frame**: one sequence number, queue, type and pair of
    addresses; when the first was accepted under a CCMP or GCMP key, all were protected under a key
    of its colour and each PN is one more than the PN before it. -/
structure OneFrame (frags : List Rx) : Prop where
  order : frags.map (fun r => r.skb.hdr.frag.toNat) = List.range frags.length
  seq : ∀ a ∈ frags, ∀ b ∈ frags, a.skb.hdr.seq = b.skb.hdr.seq ∧ a.seqnoIdx = b.seqnoIdx
  sender : ∀ a ∈ frags, ∀ b ∈ frags, SameSender a.skb.hdr b.skb.hdr
  sequential : ∀ first ∈ frags.head?, requiresSequentialPn first = true →
    (∀ r ∈ frags, requiresSequentialPn r = true ∧ r.color = first.color) ∧
      frags.IsChain fun a b => pnValue b.pn = (pnValue a.pn + 1) % 2 ^ 48

/-- What an entry with `check_sequential_pn` has checked. -/
structure Sequential (e : FragmentEntry) (frags : List Rx) : Prop where
  colors : ∀ r ∈ frags, requiresSequentialPn r = true ∧ r.color = some e.keyColor
  chain : frags.IsChain fun a b => b.pn = incPn a.pn
  last : ∀ r ∈ frags.getLast?, r.pn = e.lastPn

structure Pending (e : FragmentEntry) (frags : List Rx) : Prop where
  stored : e.skbList = frags.map Rx.skb
  order : frags.map (fun r => r.skb.hdr.frag.toNat) = List.range (e.lastFrag + 1)
  seq : ∀ r ∈ frags, r.skb.hdr.seq = e.seq ∧ r.seqnoIdx = e.rxQueue
  sender : ∀ a ∈ frags, ∀ b ∈ frags, SameSender a.skb.hdr b.skb.hdr
  checked : ∀ first ∈ frags.head?, requiresSequentialPn first = true → e.checkSequentialPn = true
  sequential : e.checkSequentialPn = true → Sequential e frags

theorem Pending.length {e : FragmentEntry} {frags : List Rx} (h : Pending e frags) :
    frags.length = e.lastFrag + 1 := by
  have hl := congrArg List.length h.order
  rwa [List.length_map, List.length_range] at hl

theorem Pending.ne_nil {e : FragmentEntry} {frags : List Rx} (h : Pending e frags) :
    frags ≠ [] := by
  intro hn
  have hl := h.length
  rw [hn] at hl
  cases hl

theorem Pending.oneFrame {e : FragmentEntry} {frags : List Rx} (h : Pending e frags) :
    OneFrame frags := by
  refine ⟨?_, ?_, h.sender, ?_⟩
  · rw [h.length]; exact h.order
  · intro a ha b hb
    exact ⟨(h.seq a ha).1.trans (h.seq b hb).1.symm, (h.seq a ha).2.trans (h.seq b hb).2.symm⟩
  · intro first hfirst hreq
    have hs := h.sequential (h.checked first hfirst hreq)
    have hc := hs.colors first (List.mem_of_mem_head? hfirst)
    refine ⟨fun r hr => ⟨(hs.colors r hr).1, (hs.colors r hr).2.trans hc.2.symm⟩, ?_⟩
    refine hs.chain.imp fun a b hab => ?_
    rw [hab, pnValue_incPn]

theorem OneFrame.single {rx : Rx} (h : rx.skb.hdr.frag = 0) : OneFrame [rx] := by
  refine ⟨by rw [List.map_singleton, h]; rfl, ?_, ?_, ?_⟩
  · intro a ha b hb
    rw [List.mem_singleton.1 ha, List.mem_singleton.1 hb]
    exact ⟨rfl, rfl⟩
  · intro a ha b hb
    rw [List.mem_singleton.1 ha, List.mem_singleton.1 hb]
    exact ⟨rfl, rfl, rfl⟩
  · intro first hfirst hreq
    cases hfirst
    refine ⟨?_, .singleton _⟩
    intro r hr
    rw [List.mem_singleton.1 hr]
    exact ⟨hreq, rfl⟩

/-! ## `ieee80211_reassemble_find` -/

def Purged (c c' : Cache) : Prop :=
  ∀ i, c'.entries i = c.entries i ∨ (c'.entries i).skbList = []

theorem Purged.refl (c : Cache) : Purged c c := fun _ => .inl rfl

theorem Purged.trans {a b c : Cache} (h : Purged a b) (h' : Purged b c) : Purged a c := by
  intro i
  cases h' i with
  | inr he => exact .inr he
  | inl he => rw [he]; exact h i

theorem purged_purge (c : Cache) (idx : Nat) : Purged c (c.purge idx) := by
  intro i
  unfold Cache.purge
  by_cases hi : i = idx
  · subst hi
    refine .inr ?_
    simp only [Function.update_self]
  · exact .inl (Function.update_of_ne hi _ _)

structure Matches (e : FragmentEntry) (frag : Nat) (seq : BitVec 12) (rxQueue : Nat) (hdr : Hdr) :
    Prop where
  seq : e.seq = seq
  rxQueue : e.rxQueue = rxQueue
  lastFrag : e.lastFrag + 1 = frag
  sender : ∃ first ∈ e.skbList.head?, SameSender hdr first.hdr

variable (k : KernelApi)

theorem findLoop_spec (frag : Nat) (seq : BitVec 12) (rxQueue : Nat) (jiffies : BitVec 64)
    (hdr : Hdr) : ∀ (n idx : Nat) (c : Cache),
    Purged c (findLoop k frag seq rxQueue jiffies hdr n idx c).2 ∧
      ∀ i ∈ (findLoop k frag seq rxQueue jiffies hdr n idx c).1,
        Matches ((findLoop k frag seq rxQueue jiffies hdr n idx c).2.entries i) frag seq rxQueue hdr
  | 0, _, c => ⟨Purged.refl c, fun _ hi => by cases hi⟩
  | n + 1, idx, c => by
    unfold findLoop
    simp only
    obtain ⟨j, hj⟩ : ∃ j, j = if idx = 0 then IEEE80211_FRAGMENT_MAX - 1 else idx - 1 := ⟨_, rfl⟩
    rw [← hj]
    have ih := findLoop_spec frag seq rxQueue jiffies hdr n j
    split
    · exact ih c
    · rename_i fSkb rest hlist
      split
      · exact ih c
      · rename_i hm
        split
        · exact ih c
        · rename_i hs
          split
          · exact ⟨(purged_purge c j).trans (ih (c.purge j)).1, (ih (c.purge j)).2⟩
          · simp only [not_or, ne_eq, not_not] at hm hs
            refine ⟨Purged.refl c, fun i hi => ?_⟩
            cases hi
            exact ⟨hm.1, hm.2.1, hm.2.2, fSkb, by rw [hlist]; rfl, hs.1, hs.2.1, hs.2.2⟩

/-! ## Entries -/

theorem rememberKey_fields (e : FragmentEntry) (rx : Rx) :
    (rememberKey e rx).skbList = e.skbList ∧ (rememberKey e rx).lastFrag = e.lastFrag ∧
      (rememberKey e rx).seq = e.seq ∧ (rememberKey e rx).rxQueue = e.rxQueue := by
  unfold rememberKey
  split
  · exact ⟨rfl, rfl, rfl, rfl⟩
  · split
    · exact ⟨rfl, rfl, rfl, rfl⟩
    · split <;> exact ⟨rfl, rfl, rfl, rfl⟩

theorem requiresSequentialPn_key {rx : Rx} (h : requiresSequentialPn rx = true) :
    ∃ key, rx.key = some key := by
  unfold requiresSequentialPn at h
  split at h
  · cases h
  · rename_i key hkey
    exact ⟨key, hkey⟩

theorem rememberKey_checked {e : FragmentEntry} {rx : Rx} (h : requiresSequentialPn rx = true) :
    (rememberKey e rx).checkSequentialPn = true := by
  obtain ⟨key, hkey⟩ := requiresSequentialPn_key h
  simp only [rememberKey, hkey, h, if_true]

theorem rememberKey_sequential {e : FragmentEntry} {rx : Rx} (h0 : rx.skb.hdr.frag = 0)
    (he : e.checkSequentialPn = false) (h : (rememberKey e rx).checkSequentialPn = true) :
    Sequential (rememberKey e rx) [rx] := by
  by_cases hreq : requiresSequentialPn rx = true
  · obtain ⟨key, hkey⟩ := requiresSequentialPn_key hreq
    have hr : rememberKey e rx = { e with
        checkSequentialPn := true, isProtected := true, keyColor := key.color,
        lastPn := key.rxPn rx.securityIdx } := by
      simp only [rememberKey, hkey, hreq, if_true]
    rw [hr]
    refine ⟨?_, .singleton _, ?_⟩
    · intro r hmem
      rw [List.mem_singleton.1 hmem]
      exact ⟨hreq, by rw [Rx.color, hkey]; rfl⟩
    · intro r hmem
      rw [List.getLast?_singleton, Option.mem_some_iff] at hmem
      subst hmem
      unfold Rx.pn
      rw [if_pos h0, hkey]
  · exfalso
    have hf : (rememberKey e rx).checkSequentialPn = false := by
      unfold rememberKey
      split
      · exact he
      · rw [if_neg hreq]
        split <;> exact he
    rw [hf] at h
    cases h

theorem rememberKey_pending {e : FragmentEntry} {rx : Rx} (hlist : e.skbList = [rx.skb])
    (h0 : rx.skb.hdr.frag = 0) (hlast : e.lastFrag = 0) (hseq : e.seq = rx.skb.hdr.seq)
    (hq : e.rxQueue = rx.seqnoIdx) (hc : e.checkSequentialPn = false) :
    Pending (rememberKey e rx) [rx] := by
  obtain ⟨hf1, hf2, hf3, hf4⟩ := rememberKey_fields e rx
  have hone := OneFrame.single h0
  refine ⟨?_, ?_, ?_, hone.sender, ?_, rememberKey_sequential h0 hc⟩
  · rw [hf1, hlist]; rfl
  · rw [hf2, hlast]; exact hone.order
  · intro r hr
    rw [List.mem_singleton.1 hr, hf3, hf4, hseq, hq]
    exact ⟨rfl, rfl⟩
  · intro first hfirst hreq
    cases hfirst
    exact rememberKey_checked hreq

theorem checkFragment_ok {e e' : FragmentEntry} {rx : Rx} (h : checkFragment e rx = .ok e') :
    (e.checkSequentialPn = false ∧ e' = e) ∨
      (e.checkSequentialPn = true ∧ requiresSequentialPn rx = true ∧
        rx.color = some e.keyColor ∧ rx.ccmGcmPn = incPn e.lastPn ∧
        e' = { e with lastPn := rx.ccmGcmPn }) := by
  unfold checkFragment at h
  split at h
  · rename_i hc
    split at h
    · cases h
    · rename_i key hkey
      split at h
      · cases h
      · rename_i hreq
        split at h
        · cases h
        · rename_i hcol
          split at h
          · cases h
          · rename_i hpn
            cases h
            simp only [ne_eq, not_not] at hcol hpn
            refine .inr ⟨hc, by simpa using hreq, ?_, hpn.symm, by rw [hpn]⟩
            rw [Rx.color, hkey, hcol]
            rfl
  · rename_i hc
    refine .inl ⟨by simpa using hc, ?_⟩
    split at h
    · split at h
      · cases h
      · cases h; rfl
    · split at h
      · cases h
      · split at h
        · cases h
        · cases h; rfl

/-- The entry after the fragment is added to it. -/
def appended (e : FragmentEntry) (rx : Rx) : FragmentEntry :=
  { e with
    skbList := e.skbList ++ [rx.skb]
    lastFrag := rx.skb.hdr.frag.toNat
    extraLen := e.extraLen + rx.skb.body.length }

theorem Sequential.append {e : FragmentEntry} {frags : List Rx} {rx : Rx} (h : Sequential e frags)
    (h0 : rx.skb.hdr.frag ≠ 0) (hreq : requiresSequentialPn rx = true)
    (hcol : rx.color = some e.keyColor) (hpn : rx.ccmGcmPn = incPn e.lastPn) :
    Sequential (appended { e with lastPn := rx.ccmGcmPn } rx) (frags ++ [rx]) := by
  have hrx : rx.pn = rx.ccmGcmPn := if_neg h0
  refine ⟨?_, ?_, ?_⟩
  · intro r hr
    cases List.mem_append.1 hr with
    | inl hold => exact h.colors r hold
    | inr hnew =>
      rw [List.mem_singleton.1 hnew]
      exact ⟨hreq, hcol⟩
  · rw [List.isChain_append]
    refine ⟨h.chain, .singleton _, ?_⟩
    intro a ha b hb
    cases hb
    rw [hrx, hpn, h.last a ha]
  · intro r hr
    rw [List.getLast?_concat] at hr
    cases hr
    exact hrx

/-- **A fragment that is found an entry and passes its checks continues the frame there.** -/
theorem Pending.append {e e' : FragmentEntry} {frags : List Rx} {rx : Rx} (h : Pending e frags)
    (h0 : rx.skb.hdr.frag ≠ 0)
    (hm : Matches e rx.skb.hdr.frag.toNat rx.skb.hdr.seq rx.seqnoIdx rx.skb.hdr)
    (hok : checkFragment e rx = .ok e') : Pending (appended e' rx) (frags ++ [rx]) := by
  obtain ⟨first, rest, rfl⟩ := List.exists_cons_of_ne_nil h.ne_nil
  have hfirst : SameSender rx.skb.hdr first.skb.hdr := by
    obtain ⟨f, hf, hs⟩ := hm.sender
    rw [h.stored] at hf
    cases hf
    exact hs
  have hwith : ∀ a ∈ first :: rest, SameSender a.skb.hdr rx.skb.hdr := fun a ha =>
    (h.sender a ha first List.mem_cons_self).trans hfirst.symm
  have hfields : e'.skbList = e.skbList ∧ e'.seq = e.seq ∧ e'.rxQueue = e.rxQueue ∧
      e'.checkSequentialPn = e.checkSequentialPn := by
    rcases checkFragment_ok hok with ⟨-, rfl⟩ | ⟨-, -, -, -, rfl⟩
    · exact ⟨rfl, rfl, rfl, rfl⟩
    · exact ⟨rfl, rfl, rfl, rfl⟩
  obtain ⟨hl, hseq, hq, hc⟩ := hfields
  refine ⟨?_, ?_, ?_, ?_, ?_, ?_⟩
  · simp only [appended, hl, h.stored, List.map_append, List.map_cons, List.map_nil]
  · rw [List.map_append, h.order, hm.lastFrag]
    exact List.range_succ.symm
  · intro r hr
    simp only [appended, hseq, hq]
    cases List.mem_append.1 hr with
    | inl hold => exact h.seq r hold
    | inr hnew =>
      rw [List.mem_singleton.1 hnew]
      exact ⟨hm.seq.symm, hm.rxQueue.symm⟩
  · intro a ha b hb
    cases List.mem_append.1 ha with
    | inl ha =>
      cases List.mem_append.1 hb with
      | inl hb => exact h.sender a ha b hb
      | inr hb => rw [List.mem_singleton.1 hb]; exact hwith a ha
    | inr ha =>
      rw [List.mem_singleton.1 ha]
      cases List.mem_append.1 hb with
      | inl hb => exact (hwith b hb).symm
      | inr hb => rw [List.mem_singleton.1 hb]; exact ⟨rfl, rfl, rfl⟩
  · intro f hf hreq
    simp only [appended, hc]
    exact h.checked f hf hreq
  · intro hcheck
    rcases checkFragment_ok hok with ⟨hcf, rfl⟩ | ⟨hct, hreq, hcol, hpn, rfl⟩
    · simp only [appended, hcf] at hcheck
      cases hcheck
    · exact (h.sequential hct).append h0 hreq hcol hpn

end Mac80211.Defrag
