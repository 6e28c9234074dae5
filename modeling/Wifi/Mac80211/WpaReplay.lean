import Wifi.Mac80211.Wpa

/-!
# Replay protection

* `framePn`, `queueOf` — the packet number in a frame, and the counter it is compared with.
* `rxHDecrypt_cases` — what a handler does with the counters, for every cipher.
* `replay_protection` — the packet numbers that are stored increase, and are the transmitter's.
-/

namespace Mac80211.Wpa

open ByteOrder

variable {api : CryptoApi} {mem : RxMemory} {key : Key} {rx : RxData}

def bipOf (api : CryptoApi) : Cipher → Option Bip
  | .aesCmac => some (cmacBip api)
  | .bipCmac256 => some (cmac256Bip api)
  | .bipGmac128 | .bipGmac256 => some (gmacBip api)
  | _ => none

/-- **The packet number in a frame**: behind its header, or in its MMIE. -/
def framePn (api : CryptoApi) (cipher : Cipher) (data : List Byte) : Pn :=
  match bipOf api cipher with
  | none => ccmpHdr2pn (data.drop (ieee80211Hdrlen (frameControl data)))
  | some b => bipIpnSwap (mmieSequenceNumber (b.mmie data))

def queueOf (api : CryptoApi) (cipher : Cipher) (rx : RxData) : Nat :=
  match bipOf api cipher with
  | none => rx.securityIdx
  | some _ => 0

/-- The frames that are not of the kind that the cipher protects. -/
def passes (api : CryptoApi) (cipher : Cipher) (data : List Byte) : Bool :=
  match bipOf api cipher with
  | none => !(frameControl data).isData && !api.isRobustMgmtFrame data
  | some _ => !(frameControl data).isMgmt

/-- A frame that is accepted, or that is dropped only when its MIC is cut off. -/
def RxResult.Stores (r : RxResult) : Prop :=
  r = .rxContinue ∨ r = .rxDropUShortCcmpMic ∨ r = .rxDropUShortGcmpMic

instance (r : RxResult) : Decidable r.Stores :=
  inferInstanceAs (Decidable (_ ∨ _ ∨ _))

theorem not_stores_oom : ¬ RxResult.rxDropUOom.Stores := by decide
theorem not_stores_replay : ¬ RxResult.rxDropUReplay.Stores := by decide
theorem not_stores_micFail : ¬ RxResult.rxDropUMicFail.Stores := by decide
theorem not_stores_badMmie : ¬ RxResult.rxDropUBadMmie.Stores := by decide
theorem not_stores_shortCcmp : ¬ RxResult.rxDropUShortCcmp.Stores := by decide
theorem not_stores_shortGcmp : ¬ RxResult.rxDropUShortGcmp.Stores := by decide
theorem not_stores_shortCmac : ¬ RxResult.rxDropUShortCmac.Stores := by decide
theorem not_stores_shortCmac256 : ¬ RxResult.rxDropUShortCmac256.Stores := by decide
theorem not_stores_shortGmac : ¬ RxResult.rxDropUShortGmac.Stores := by decide

/-! ## Packet numbers -/

theorem memcmp_pn (p q : Pn) : memcmp p.toList q.toList = compare p.value q.value :=
  memcmp_eq_compare (by rw [Vector.length_toList, Vector.length_toList])

theorem ccmpHdr2pn_pn2hdr (pn : Pn) (keyId : Byte) (rest : List Byte) :
    ccmpHdr2pn (ccmpPn2hdr pn keyId ++ rest) = pn := by
  apply Vector.ext
  intro i hi
  rcases i with _ | _ | _ | _ | _ | _ | i
  · rfl
  · rfl
  · rfl
  · rfl
  · rfl
  · rfl
  · omega

theorem bipIpnSwap_set64 (pn64 : BitVec 64) : bipIpnSwap (bipIpnSet64 pn64) = pnOf pn64 := rfl

/-- **The packet number is the counter modulo 2^48.** -/
theorem pnOf_value (pn64 : BitVec 64) : (pnOf pn64).value = pn64.toNat % 2 ^ 48 := by
  have hlt := pn64.isLt
  have hl : (pnOf pn64).toList = [(pn64 >>> 40).setWidth 8, (pn64 >>> 32).setWidth 8,
    (pn64 >>> 24).setWidth 8, (pn64 >>> 16).setWidth 8, (pn64 >>> 8).setWidth 8,
    pn64.setWidth 8] := rfl
  unfold Pn.value
  rw [hl]
  simp only [beValue, List.length_cons, List.length_nil, BitVec.toNat_setWidth,
    BitVec.toNat_ushiftRight, Nat.shiftRight_eq_div_pow]
  omega

/-! ## CCMP and GCMP -/

section Aead

variable {a : Aead} {micLen : Nat}

theorem aeadStrip_key {skb : SkBuff} {hdrlen : Nat} :
    (aeadStrip a mem key rx skb hdrlen micLen).key = key ∧
      ((aeadStrip a mem key rx skb hdrlen micLen).result = .rxContinue ∨
        ((aeadStrip a mem key rx skb hdrlen micLen).result = a.dropShortMic ∧ mem.trim = false)) := by
  unfold aeadStrip
  split
  · rename_i htrim
    refine ⟨rfl, .inr ⟨rfl, ?_⟩⟩
    cases hm : mem.trim with
    | false => rfl
    | true =>
      unfold SkBuff.trim at htrim
      rw [hm, Bool.not_true, Bool.and_false, if_neg Bool.false_ne_true] at htrim
      split at htrim <;> cases htrim
  · exact ⟨rfl, .inl rfl⟩

theorem aeadPrepare_ok {hdrlen micLen' : Nat} {skb : SkBuff}
    (h : aeadPrepare a mem rx hdrlen micLen = .ok (skb, micLen')) : skb.bytes = rx.skb.bytes := by
  unfold aeadPrepare at h
  split at h
  · cases hm : rx.skb.mayPull (hdrlen + IEEE80211_CCMP_HDR_LEN) mem.mayPull with
    | none => rw [hm] at h; cases h
    | some skb' =>
      rw [hm] at h
      cases h
      exact (SkBuff.mayPull_bytes hm).1
  · cases hl : rx.skb.linearize mem.linearize with
    | none => rw [hl] at h; cases h
    | some skb' =>
      rw [hl] at h
      cases h
      exact (SkBuff.linearize_bytes hl).1

theorem aeadPrepare_error {hdrlen : Nat} {drop : RxResult}
    (h : aeadPrepare a mem rx hdrlen micLen = .error drop) : drop = a.dropShort ∨ drop = .rxDropUOom := by
  unfold aeadPrepare at h
  split at h
  · split at h
    · cases h
      exact .inl rfl
    · cases h
  · split at h
    · cases h
      exact .inr rfl
    · cases h

/-- **What CCMP and GCMP do with the counters.** -/
theorem aeadDecrypt_cases (hshort : ¬ a.dropShort.Stores) (hmic : a.dropShortMic.Stores)
    (hv : rx.flag.pnValidated = false) (hs : rx.flag.allowSamePn = false)
    (hp : (!(frameControl rx.skb.bytes).isData && !api.isRobustMgmtFrame rx.skb.bytes) = false) :
    (¬ (aeadDecrypt api a micLen mem key rx).result.Stores ∧
      (aeadDecrypt api a micLen mem key rx).key.rxPn = key.rxPn ∧
      (aeadDecrypt api a micLen mem key rx).key.cipher = key.cipher) ∨
    ((aeadDecrypt api a micLen mem key rx).result.Stores ∧
      ((aeadDecrypt api a micLen mem key rx).result = .rxContinue ∨ mem.trim = false) ∧
      (aeadDecrypt api a micLen mem key rx).key = key.setRxPn rx.securityIdx
        (ccmpHdr2pn (rx.skb.bytes.drop (ieee80211Hdrlen (frameControl rx.skb.bytes)))) ∧
      (key.rxPn rx.securityIdx).value <
        (ccmpHdr2pn (rx.skb.bytes.drop (ieee80211Hdrlen (frameControl rx.skb.bytes)))).value) := by
  unfold aeadDecrypt
  dsimp only
  rw [hp, if_neg Bool.false_ne_true]
  cases hprep : aeadPrepare a mem rx (ieee80211Hdrlen (frameControl rx.skb.bytes)) micLen with
  | error drop =>
    refine .inl ⟨?_, rfl, rfl⟩
    rcases aeadPrepare_error hprep with rfl | rfl
    · exact hshort
    · exact not_stores_oom
  | ok r =>
    obtain ⟨skb, micLen'⟩ := r
    have hb := aeadPrepare_ok hprep
    dsimp only
    rw [hb, memcmp_pn, hv]
    split
    · exact .inl ⟨hshort, rfl, rfl⟩
    · rw [if_neg Bool.false_ne_true]
      split
      · exact .inl ⟨not_stores_replay, rfl, rfl⟩
      · rename_i hres
        rw [hs] at hres
        have hlt : (key.rxPn rx.securityIdx).value <
            (ccmpHdr2pn (rx.skb.bytes.drop (ieee80211Hdrlen (frameControl rx.skb.bytes)))).value := by
          rw [not_or, compare_lt_iff_lt, not_and, compare_eq_iff_eq] at hres
          exact Nat.lt_of_le_of_ne (Nat.not_lt.1 hres.1) fun he => hres.2 he.symm rfl
        split
        · exact .inl ⟨not_stores_micFail, rfl, rfl⟩
        · refine .inr ?_
          obtain ⟨hkey, hresult⟩ := aeadStrip_key (a := a)
          rw [hkey]
          refine ⟨?_, hresult.imp_right And.right, rfl, hlt⟩
          rcases hresult with hr | ⟨hr, _⟩
          · rw [hr]
            exact .inl rfl
          · rw [hr]
            exact hmic

end Aead

/-! ## BIP -/

section Bip

variable {b : Bip}

/-- **What the BIP ciphers do with the counter.** -/
theorem bipDecrypt_cases (hshort : ¬ b.dropShort.Stores)
    (hmic : ∀ kmalloc data pn drop, b.mic kmalloc data pn = .error drop → ¬ drop.Stores)
    (hp : (!(frameControl rx.skb.bytes).isMgmt) = false) :
    (¬ (bipDecrypt b mem key rx).result.Stores ∧ (bipDecrypt b mem key rx).key.rxPn = key.rxPn ∧
      (bipDecrypt b mem key rx).key.cipher = key.cipher) ∨
    ((bipDecrypt b mem key rx).result.Stores ∧
      ((bipDecrypt b mem key rx).result = .rxContinue ∨ mem.trim = false) ∧
      (bipDecrypt b mem key rx).key =
        key.setRxPn 0 (bipIpnSwap (mmieSequenceNumber (b.mmie rx.skb.bytes))) ∧
      (key.rxPn 0).value < (bipIpnSwap (mmieSequenceNumber (b.mmie rx.skb.bytes))).value) := by
  unfold bipDecrypt
  dsimp only
  rw [hp, if_neg Bool.false_ne_true, memcmp_pn]
  split
  · exact .inl ⟨hshort, rfl, rfl⟩
  · split
    · exact .inl ⟨not_stores_badMmie, rfl, rfl⟩
    · split
      · exact .inl ⟨not_stores_replay, rfl, rfl⟩
      · rename_i hgt
        rw [not_not, compare_gt_iff_gt] at hgt
        split
        · exact .inr ⟨.inl rfl, .inl rfl, rfl, hgt⟩
        · cases hm : b.mic mem.kmalloc rx.skb.bytes
              (bipIpnSwap (mmieSequenceNumber (b.mmie rx.skb.bytes))) with
          | error drop => exact .inl ⟨hmic _ _ _ _ hm, rfl, rfl⟩
          | ok mic =>
            dsimp only
            split
            · exact .inl ⟨not_stores_micFail, rfl, rfl⟩
            · exact .inr ⟨.inl rfl, .inl rfl, rfl, hgt⟩

end Bip

/-! ## Every cipher -/

theorem rxHDecrypt_aead (h : bipOf api key.cipher = none) :
    ∃ (a : Aead) (micLen : Nat), rxHDecrypt api mem key rx = aeadDecrypt api a micLen mem key rx ∧
      ¬ a.dropShort.Stores ∧ a.dropShortMic.Stores := by
  unfold rxHDecrypt
  cases hc : key.cipher with
  | ccmp => exact ⟨ccmpAead api, _, rfl, not_stores_shortCcmp, .inr (.inl rfl)⟩
  | ccmp256 => exact ⟨ccmpAead api, _, rfl, not_stores_shortCcmp, .inr (.inl rfl)⟩
  | gcmp => exact ⟨gcmpAead api, _, rfl, not_stores_shortGcmp, .inr (.inr rfl)⟩
  | gcmp256 => exact ⟨gcmpAead api, _, rfl, not_stores_shortGcmp, .inr (.inr rfl)⟩
  | aesCmac => rw [hc] at h; cases h
  | bipCmac256 => rw [hc] at h; cases h
  | bipGmac128 => rw [hc] at h; cases h
  | bipGmac256 => rw [hc] at h; cases h

theorem gmacBip_error {kmalloc : Bool} {data : List Byte} {pn : Pn} {drop : RxResult}
    (h : (gmacBip api).mic kmalloc data pn = .error drop) : ¬ drop.Stores := by
  unfold gmacBip at h
  dsimp only at h
  split at h
  · cases h
  · cases h
    exact not_stores_oom

theorem rxHDecrypt_bip {b : Bip} (h : bipOf api key.cipher = some b) :
    rxHDecrypt api mem key rx = bipDecrypt b mem key rx ∧ ¬ b.dropShort.Stores ∧
      ∀ kmalloc data pn drop, b.mic kmalloc data pn = .error drop → ¬ drop.Stores := by
  unfold rxHDecrypt
  cases hc : key.cipher with
  | ccmp => rw [hc] at h; cases h
  | ccmp256 => rw [hc] at h; cases h
  | gcmp => rw [hc] at h; cases h
  | gcmp256 => rw [hc] at h; cases h
  | aesCmac =>
    rw [hc] at h
    cases h
    exact ⟨rfl, not_stores_shortCmac, nofun⟩
  | bipCmac256 =>
    rw [hc] at h
    cases h
    exact ⟨rfl, not_stores_shortCmac256, nofun⟩
  | bipGmac128 =>
    rw [hc] at h
    cases h
    exact ⟨rfl, not_stores_shortGmac, fun _ _ _ _ he => gmacBip_error he⟩
  | bipGmac256 =>
    rw [hc] at h
    cases h
    exact ⟨rfl, not_stores_shortGmac, fun _ _ _ _ he => gmacBip_error he⟩

/-- **What a handler does with the counters**: a frame passes, or it is dropped and no counter changes,
    or its packet number is greater than the counter and stored. -/
theorem rxHDecrypt_cases (hv : rx.flag.pnValidated = false) (hs : rx.flag.allowSamePn = false) :
    (passes api key.cipher rx.skb.bytes = true ∧ (rxHDecrypt api mem key rx).key = key) ∨
    (passes api key.cipher rx.skb.bytes = false ∧ ¬ (rxHDecrypt api mem key rx).result.Stores ∧
      (rxHDecrypt api mem key rx).key.rxPn = key.rxPn) ∨
    (passes api key.cipher rx.skb.bytes = false ∧ (rxHDecrypt api mem key rx).result.Stores ∧
      ((rxHDecrypt api mem key rx).result = .rxContinue ∨ mem.trim = false) ∧
      (rxHDecrypt api mem key rx).key = key.setRxPn (queueOf api key.cipher rx)
        (framePn api key.cipher rx.skb.bytes) ∧
      (key.rxPn (queueOf api key.cipher rx)).value < (framePn api key.cipher rx.skb.bytes).value) := by
  unfold passes queueOf framePn
  cases hb : bipOf api key.cipher with
  | none =>
    obtain ⟨a, micLen, he, hshort, hmic⟩ := rxHDecrypt_aead hb
    rw [he]
    dsimp only
    cases hp : !(frameControl rx.skb.bytes).isData && !api.isRobustMgmtFrame rx.skb.bytes with
    | true =>
      refine .inl ⟨rfl, ?_⟩
      unfold aeadDecrypt
      dsimp only
      rw [hp, if_pos rfl]
    | false =>
      rcases aeadDecrypt_cases hshort hmic hv hs hp with h | h
      · exact .inr (.inl ⟨rfl, h.1, h.2.1⟩)
      · exact .inr (.inr ⟨rfl, h⟩)
  | some b =>
    obtain ⟨he, hshort, hmic⟩ := rxHDecrypt_bip hb
    rw [he]
    dsimp only
    cases hp : !(frameControl rx.skb.bytes).isMgmt with
    | true =>
      refine .inl ⟨rfl, ?_⟩
      unfold bipDecrypt
      dsimp only
      rw [hp, if_pos rfl]
    | false =>
      rcases bipDecrypt_cases hshort hmic hp with h | h
      · exact .inr (.inl ⟨rfl, h.1, h.2.1⟩)
      · exact .inr (.inr ⟨rfl, h⟩)

/-! ## Runs -/

/-- A received frame, and whether there is memory while it is handled. -/
structure RxInput where
  mem : RxMemory
  rx : RxData

structure Entry where
  queue : Nat
  pn : Pn
  result : RxResult

def rxAll (api : CryptoApi) : Key → List RxInput → Key
  | key, [] => key
  | key, f :: fs => rxAll api (rxHDecrypt api f.mem key f.rx).key fs

/-- What becomes of the frames of the kind that the cipher protects. -/
def rxLog (api : CryptoApi) : Key → List RxInput → List Entry
  | _, [] => []
  | key, f :: fs =>
    let step := rxHDecrypt api f.mem key f.rx
    if passes api key.cipher f.rx.skb.bytes then rxLog api step.key fs
    else
      { queue := queueOf api key.cipher f.rx
        pn := framePn api key.cipher f.rx.skb.bytes
        result := step.result } :: rxLog api step.key fs

/-- The packet numbers of the frames with one of the results, at a counter. -/
def pnsAt (log : List Entry) (q : Nat) (ok : RxResult → Prop) [DecidablePred ok] : List Pn :=
  (log.filter fun e => decide (e.queue = q ∧ ok e.result)).map Entry.pn

/-- **Accepted frames.** -/
abbrev acceptedAt (log : List Entry) (q : Nat) : List Pn := pnsAt log q (· = .rxContinue)

/-- **Frames with a packet number that is stored.** -/
abbrev storedAt (log : List Entry) (q : Nat) : List Pn := pnsAt log q RxResult.Stores

theorem pnsAt_cons (e : Entry) (log : List Entry) (q : Nat) (ok : RxResult → Prop)
    [DecidablePred ok] :
    pnsAt (e :: log) q ok =
      if e.queue = q ∧ ok e.result then e.pn :: pnsAt log q ok else pnsAt log q ok := by
  unfold pnsAt
  rw [List.filter_cons]
  by_cases h : e.queue = q ∧ ok e.result
  · rw [decide_eq_true h, if_pos rfl, List.map_cons, if_pos h]
  · rw [decide_eq_false h, if_neg Bool.false_ne_true, if_neg h]

theorem acceptedAt_sublist (log : List Entry) (q : Nat) :
    (acceptedAt log q).Sublist (storedAt log q) := by
  refine (List.monotone_filter_right log ?_).map _
  intro e he
  rw [decide_eq_true_iff] at he ⊢
  exact ⟨he.1, .inl he.2⟩

/-- **The stored packet numbers increase**, by induction on the frames. -/
theorem storedAt_increasing (q : Nat) (fs : List RxInput) :
    ∀ (key : Key), (∀ f ∈ fs, f.rx.flag.pnValidated = false ∧ f.rx.flag.allowSamePn = false) →
      (storedAt (rxLog api key fs) q).Pairwise (fun a b => a.value < b.value) ∧
      (∀ pn ∈ storedAt (rxLog api key fs) q, (key.rxPn q).value < pn.value) ∧
      (rxAll api key fs).rxPn q = (storedAt (rxLog api key fs) q).getLast?.getD (key.rxPn q) := by
  induction fs with
  | nil => exact fun key _ => ⟨.nil, nofun, rfl⟩
  | cons f fs ih =>
    intro key hf
    obtain ⟨hv, hs⟩ := hf f List.mem_cons_self
    obtain ⟨hinc, hgt, hlast⟩ := ih (rxHDecrypt api f.mem key f.rx).key
      fun g hg => hf g (List.mem_cons_of_mem _ hg)
    unfold rxLog rxAll
    dsimp only
    rcases rxHDecrypt_cases hv hs with
      ⟨hp, hkey⟩ | ⟨hp, hno, hkey⟩ | ⟨hp, hst, _, hkey, hlt⟩
    · rw [hp, if_pos rfl]
      rw [hkey] at hinc hgt hlast ⊢
      exact ⟨hinc, hgt, hlast⟩
    · rw [hp, if_neg Bool.false_ne_true, storedAt, pnsAt_cons, if_neg fun h => hno h.2]
      rw [hkey] at hgt hlast
      exact ⟨hinc, hgt, hlast⟩
    · rw [hp, if_neg Bool.false_ne_true, storedAt, pnsAt_cons]
      dsimp only
      by_cases hq : queueOf api key.cipher f.rx = q
      · have hnew : (rxHDecrypt api f.mem key f.rx).key.rxPn q =
            framePn api key.cipher f.rx.skb.bytes := by
          rw [hkey, ← hq]
          exact Function.update_self ..
        rw [hnew] at hgt hlast
        rw [hq] at hlt
        rw [if_pos ⟨hq, hst⟩]
        refine ⟨List.pairwise_cons.2 ⟨hgt, hinc⟩, ?_, ?_⟩
        · intro pn hpn
          rcases List.mem_cons.1 hpn with rfl | hpn
          · exact hlt
          · exact Nat.lt_trans hlt (hgt pn hpn)
        · rw [List.getLast?_cons]
          exact hlast
      · have hold : (rxHDecrypt api f.mem key f.rx).key.rxPn q = key.rxPn q := by
          rw [hkey]
          exact Function.update_of_ne (Ne.symm hq) ..
        rw [hold] at hgt hlast
        rw [if_neg fun h => hq h.1]
        exact ⟨hinc, hgt, hlast⟩

/-- With memory to cut off the MIC, the frames that are stored are those that are accepted. -/
theorem storedAt_eq_acceptedAt (q : Nat) (fs : List RxInput) :
    ∀ (key : Key), (∀ f ∈ fs, f.rx.flag.pnValidated = false ∧ f.rx.flag.allowSamePn = false) →
      (∀ f ∈ fs, f.mem.trim = true) →
      storedAt (rxLog api key fs) q = acceptedAt (rxLog api key fs) q := by
  induction fs with
  | nil => exact fun _ _ _ => rfl
  | cons f fs ih =>
    intro key hf htrim
    obtain ⟨hv, hs⟩ := hf f List.mem_cons_self
    have hrest := ih (rxHDecrypt api f.mem key f.rx).key (fun g hg => hf g (List.mem_cons_of_mem _ hg))
      (fun g hg => htrim g (List.mem_cons_of_mem _ hg))
    unfold rxLog
    dsimp only
    rcases rxHDecrypt_cases hv hs with
      ⟨hp, _⟩ | ⟨hp, hno, _⟩ | ⟨hp, hst, hok, _⟩
    · rw [hp, if_pos rfl]
      exact hrest
    · rw [hp, if_neg Bool.false_ne_true, storedAt, acceptedAt, pnsAt_cons, pnsAt_cons,
        if_neg fun h => hno h.2, if_neg fun h => hno (.inl h.2)]
      exact hrest
    · have hc := hok.resolve_right fun h => by rw [htrim f List.mem_cons_self] at h; cases h
      rw [hp, if_neg Bool.false_ne_true, storedAt, acceptedAt, pnsAt_cons, pnsAt_cons]
      dsimp only
      by_cases hq : queueOf api key.cipher f.rx = q
      · rw [if_pos ⟨hq, hst⟩, if_pos ⟨hq, hc⟩]
        exact congrArg _ hrest
      · rw [if_neg fun h => hq h.1, if_neg fun h => hq h.1]
        exact hrest

/-! ## The transmitter -/

theorem frameControl_take_append {data : List Byte} (rest : List Byte) {n : Nat} (h2 : 2 ≤ n)
    (hn : n ≤ data.length) : frameControl (data.take n ++ rest) = frameControl data := by
  have hget : ∀ i, i < 2 → (data.take n ++ rest).getD i 0 = data.getD i 0 := by
    intro i hi
    rw [List.getD_eq_getElem?_getD, List.getD_eq_getElem?_getD,
      List.getElem?_append_left (by rw [List.length_take]; omega), List.getElem?_take, if_pos (by omega)]
  unfold frameControl le16
  rw [hget 0 (by omega), hget (0 + 1) (by omega)]

theorem two_le_hdrlen (fc : FrameControl) : 2 ≤ ieee80211Hdrlen fc := by
  unfold ieee80211Hdrlen
  dsimp only
  repeat' split
  all_goals decide

theorem hdr2pn_insert (tx : TxSkb) (pn : Pn) (keyId : Byte) (rest : List Byte) {data : List Byte}
    (hd : data = tx.skb.head.take (ieee80211Hdrlen (frameControl tx.skb.bytes)) ++
      (ccmpPn2hdr pn keyId ++ rest)) :
    ccmpHdr2pn (data.drop (ieee80211Hdrlen (frameControl data))) = pn := by
  have hle := tx.hdr_le
  have h2 := two_le_hdrlen (frameControl tx.skb.bytes)
  have hlen : (tx.skb.head.take (ieee80211Hdrlen (frameControl tx.skb.bytes))).length =
      ieee80211Hdrlen (frameControl tx.skb.bytes) := by
    rw [List.length_take]
    omega
  have hhead : frameControl tx.skb.bytes = frameControl tx.skb.head := by
    unfold SkBuff.bytes
    have htake := frameControl_take_append (tx.skb.frags.flatten ++ tx.skb.fragList.flatten)
      (Nat.le_trans h2 hle) (Nat.le_refl tx.skb.head.length)
    rwa [List.take_length] at htake
  have hfc : frameControl data = frameControl tx.skb.bytes := by
    rw [hd, frameControl_take_append _ h2 hle, hhead]
  rw [hfc, hd, List.drop_left' hlen, ccmpHdr2pn_pn2hdr]

theorem bytes_insertHdr (skb : SkBuff) (hdrlen : Nat) (hdr8 : List Byte) :
    (insertHdr skb hdrlen hdr8).bytes = skb.head.take hdrlen ++
      (hdr8 ++ (skb.head.drop hdrlen ++ (skb.frags.flatten ++ skb.fragList.flatten))) := by
  unfold insertHdr SkBuff.bytes
  simp only [List.append_assoc]

/-- **A packet number that CCMP or GCMP counts is in the frame.** -/
theorem aeadEncryptSkb_pn {a : Aead} {micLen : Nat} {tx : TxData} {key' : Key} {skb : SkBuff}
    (h : aeadEncryptSkb a micLen key tx = (key', some skb)) (hpn : key'.txPn ≠ key.txPn) :
    key'.txPn = key.txPn + 1 ∧
      ccmpHdr2pn (skb.bytes.drop (ieee80211Hdrlen (frameControl skb.bytes))) = pnOf key'.txPn := by
  unfold aeadEncryptSkb at h
  dsimp only at h
  generalize (if tx.hwKey.isSome then 0 else micLen) = tail at h
  split at h
  · cases h
    exact absurd rfl hpn
  · split at h
    · cases h
    · split at h
      · cases h
        exact absurd rfl hpn
      · split at h
        · cases h
          exact ⟨rfl, hdr2pn_insert tx.skb _ key.keyidx _ (bytes_insertHdr _ _ _)⟩
        · rw [Prod.mk.injEq, Option.map_eq_some_iff] at h
          obtain ⟨hk, ⟨cipher, mic⟩, _, hs⟩ := h
          rw [← hk]
          refine ⟨rfl, hdr2pn_insert tx.skb _ key.keyidx (cipher ++ mic) ?_⟩
          have hle := tx.skb.hdr_le
          have hlen : (tx.skb.skb.head.take (ieee80211Hdrlen (frameControl tx.skb.skb.bytes)) ++
              ccmpPn2hdr (pnOf (key.txPn + 1)) key.keyidx).length =
              ieee80211Hdrlen (frameControl tx.skb.skb.bytes) + IEEE80211_CCMP_HDR_LEN := by
            rw [List.length_append, List.length_take]
            show min _ _ + 8 = _ + 8
            omega
          have htake : (insertHdr tx.skb.skb (ieee80211Hdrlen (frameControl tx.skb.skb.bytes))
              (ccmpPn2hdr (pnOf (key.txPn + 1)) key.keyidx)).bytes.take
              (ieee80211Hdrlen (frameControl tx.skb.skb.bytes) + IEEE80211_CCMP_HDR_LEN) =
              tx.skb.skb.head.take (ieee80211Hdrlen (frameControl tx.skb.skb.bytes)) ++
                ccmpPn2hdr (pnOf (key.txPn + 1)) key.keyidx := by
            rw [bytes_insertHdr, ← List.append_assoc]
            exact List.take_left' hlen
          rw [← hs]
          show (_ ++ (cipher ++ mic)) ++ [] = _
          rw [List.append_nil, htake, List.append_assoc]

/-- **The MMIE at the end of a frame is found there.** -/
theorem mmie_append (b : Bip) (data pre seq mic : List Byte) (hpre : pre.length = 4)
    (hseq : seq.length = 6) (hmic : mic.length = b.micLen) :
    mmieSequenceNumber (b.mmie (data ++ ((pre ++ seq) ++ mic))) = seq := by
  have hlen : ((pre ++ seq) ++ mic).length = b.mmieLen := by
    unfold Bip.mmieLen
    simp only [List.length_append]
    omega
  have hdrop : (data ++ ((pre ++ seq) ++ mic)).length - b.mmieLen = data.length := by
    rw [List.length_append, hlen]
    omega
  unfold Bip.mmie mmieSequenceNumber
  rw [hdrop, List.drop_left, List.append_assoc, List.drop_left' hpre, List.take_left' hseq]

/-- **A packet number that a BIP cipher counts is in the MMIE.** -/
theorem bipEncrypt_pn {b : Bip} {hwMmie : Key → Bool} {tx : TxData} {key' : Key} {skb : SkBuff}
    (hb : ∀ kmalloc data pn mic, b.mic kmalloc data pn = .ok (some mic) → mic.length = b.micLen)
    (h : bipEncrypt b hwMmie key tx = (key', some skb)) (hpn : key'.txPn ≠ key.txPn) :
    key'.txPn = key.txPn + 1 ∧
      bipIpnSwap (mmieSequenceNumber (b.mmie skb.bytes)) = pnOf key'.txPn := by
  unfold bipEncrypt at h
  dsimp only at h
  split at h
  · cases h
    exact absurd rfl hpn
  · split at h
    · cases h
    · rename_i htail
      have hmem : ((tx.skb.skb.tailroom.drop 10).take b.micLen).length = b.micLen := by
        unfold Bip.mmieLen at htail
        rw [List.length_take, List.length_drop]
        omega
      split at h
      · cases h
        refine ⟨rfl, ?_⟩
        unfold putMmie SkBuff.bytes
        dsimp only
        rw [List.flatten_nil, List.append_nil, List.append_nil, mmie_append b _ _ _ _ rfl rfl hmem,
          bipIpnSwap_set64]
      · split at h
        · rename_i mic hmic
          cases h
          refine ⟨rfl, ?_⟩
          unfold putMmie SkBuff.bytes
          dsimp only
          rw [List.flatten_nil, List.append_nil, List.append_nil, ← List.append_assoc,
            List.length_append, hmem, Nat.add_sub_cancel, List.take_left, List.append_assoc,
            mmie_append b _ _ _ _ rfl rfl (hb _ _ _ _ hmic), bipIpnSwap_set64]
        · cases h

theorem cmacBip_mic (kmalloc : Bool) (data : List Byte) (pn : Pn) (mic : List Byte)
    (h : (cmacBip api).mic kmalloc data pn = .ok (some mic)) : mic.length = (cmacBip api).micLen := by
  cases h
  show (List.take 8 _).length = 8
  rw [List.length_take, api.cmac_length]
  rfl

theorem cmac256Bip_mic (kmalloc : Bool) (data : List Byte) (pn : Pn) (mic : List Byte)
    (h : (cmac256Bip api).mic kmalloc data pn = .ok (some mic)) :
    mic.length = (cmac256Bip api).micLen := by
  cases h
  exact api.cmac_length _

theorem gmacBip_mic (kmalloc : Bool) (data : List Byte) (pn : Pn) (mic : List Byte)
    (h : (gmacBip api).mic kmalloc data pn = .ok (some mic)) :
    mic.length = (gmacBip api).micLen := by
  have h' : (if kmalloc then Except.ok (aesGmac api (bipAad data) (addr2 data ++ pn.toList)
      (data.drop 24)) else .error RxResult.rxDropUOom) = .ok (some mic) := h
  split at h'
  · rw [Except.ok.injEq] at h'
    unfold aesGmac at h'
    split at h'
    · cases h'
    · exact api.gmac_length _ _ _ h'
  · cases h'

/-- **The packet number in a frame is the counter of the transmitter.** -/
theorem txHEncrypt_pn {tx : TxData} {key' : Key} {skb : SkBuff}
    (h : txHEncrypt api key tx = (key', some skb)) (hpn : key'.txPn ≠ key.txPn) :
    key'.txPn = key.txPn + 1 ∧ framePn api key.cipher skb.bytes = pnOf key'.txPn := by
  unfold txHEncrypt at h
  unfold framePn
  cases hc : key.cipher with
  | ccmp => rw [hc] at h; exact aeadEncryptSkb_pn h hpn
  | ccmp256 => rw [hc] at h; exact aeadEncryptSkb_pn h hpn
  | gcmp => rw [hc] at h; exact aeadEncryptSkb_pn h hpn
  | gcmp256 => rw [hc] at h; exact aeadEncryptSkb_pn h hpn
  | aesCmac => rw [hc] at h; exact bipEncrypt_pn cmacBip_mic h hpn
  | bipCmac256 => rw [hc] at h; exact bipEncrypt_pn cmac256Bip_mic h hpn
  | bipGmac128 => rw [hc] at h; exact bipEncrypt_pn gmacBip_mic h hpn
  | bipGmac256 => rw [hc] at h; exact bipEncrypt_pn gmacBip_mic h hpn

/-! ## Replay protection -/

/-- **Replay protection**: the packet numbers that are accepted, and with them those that are stored,
    increase at every counter; the counter is the last one that is stored, which is the last one that is
    accepted unless a MIC cannot be cut off; a frame that is dropped for another reason changes no
    counter; and the packet number in a frame is the counter of the transmitter. -/
theorem replay_protection (api : CryptoApi) (key : Key) (fs : List RxInput)
    (hf : ∀ f ∈ fs, f.rx.flag.pnValidated = false ∧ f.rx.flag.allowSamePn = false) :
    (∀ (q : Nat),
      (acceptedAt (rxLog api key fs) q).Pairwise (fun a b => a.value < b.value) ∧
      (storedAt (rxLog api key fs) q).Pairwise (fun a b => a.value < b.value) ∧
      (rxAll api key fs).rxPn q = (storedAt (rxLog api key fs) q).getLast?.getD (key.rxPn q) ∧
      ((∀ f ∈ fs, f.mem.trim = true) →
        (rxAll api key fs).rxPn q = (acceptedAt (rxLog api key fs) q).getLast?.getD (key.rxPn q))) ∧
    (∀ f ∈ fs, ∀ (k : Key), ¬ (rxHDecrypt api f.mem k f.rx).result.Stores →
      (rxHDecrypt api f.mem k f.rx).key.rxPn = k.rxPn) ∧
    (∀ (tx : TxData) (key' : Key) (skb : SkBuff), txHEncrypt api key tx = (key', some skb) →
      key'.txPn ≠ key.txPn → key'.txPn = key.txPn + 1 ∧
        (framePn api key.cipher skb.bytes).value = key'.txPn.toNat % 2 ^ 48) ∧
    (∀ (p q : Pn), memcmp p.toList q.toList = compare p.value q.value) := by
  refine ⟨?_, ?_, ?_, memcmp_pn⟩
  · intro q
    obtain ⟨hinc, _, hlast⟩ := storedAt_increasing q fs key hf
    refine ⟨hinc.sublist (acceptedAt_sublist _ q), hinc, hlast, ?_⟩
    intro htrim
    rw [← storedAt_eq_acceptedAt q fs key hf htrim]
    exact hlast
  · intro f hmem k hno
    obtain ⟨hv, hs⟩ := hf f hmem
    rcases rxHDecrypt_cases hv hs with h | h | h
    · rw [h.2]
    · exact h.2.2
    · exact absurd h.2.1 hno
  · intro tx key' skb h hpn
    obtain ⟨hk, hframe⟩ := txHEncrypt_pn h hpn
    rw [hframe, pnOf_value]
    exact ⟨hk, rfl⟩

/-- A library that gets no MIC right: what it computes is not used when the hardware decrypts. -/
def noCrypto : CryptoApi :=
  { isRobustMgmtFrame := fun _ => false
    ccmEncrypt := fun _ _ _ _ => none
    ccmDecrypt := fun _ _ _ _ => none
    gcmEncrypt := fun _ _ _ _ => none
    gcmDecrypt := fun _ _ _ _ => none
    cmac := fun _ => List.replicate 16 0
    gmac := fun _ _ => none
    cmac_length := fun _ => rfl
    gmac_length := nofun }

def newKey : Key :=
  { cipher := .ccmp
    keyidx := 0
    sppAmsdu := false
    generateMmie := false
    txPn := 0
    rxPn := fun _ => pnOf 0
    replays := 0
    icverrors := 0 }

def dataHdr : List Byte := 0x08 :: 0x40 :: List.replicate 22 0

/-- A data frame that the hardware has decrypted, with its MIC in a fragment. -/
def hwFrame (pn64 : BitVec 64) (trim : Bool) : RxInput :=
  { mem := ⟨true, true, trim, true⟩
    rx :=
      { skb :=
          { head := dataHdr ++ ccmpPn2hdr (pnOf pn64) 0
            tailroom := []
            frags := [List.replicate 8 0]
            fragList := []
            headFrag := false
            dev := 0
            priority := 0 }
        sta := true
        securityIdx := 0
        flag := ⟨true, false, false, false⟩
        ccmGcmPn := pnOf 0 } }

/-- A frame that the hardware encrypts with the packet number of the stack. -/
def hwTx : TxData :=
  { skb :=
      { skb :=
          { head := dataHdr
            tailroom := []
            frags := []
            fragList := []
            headFrag := false
            dev := 0
            priority := 0 }
        headroom := 8
        hdr_le := by decide }
    hwKey := some ⟨true, false, false⟩ }

/-- Two frames that are accepted, two replays, and a frame that is sent. -/
theorem replay_protection_two :
    ((rxAll noCrypto newKey [hwFrame 1 true, hwFrame 1 true, hwFrame 2 true, hwFrame 0 true]).rxPn 0 =
        pnOf 2 ∧
      (rxHDecrypt noCrypto (hwFrame 0 true).mem newKey (hwFrame 0 true).rx).key.rxPn = newKey.rxPn) ∧
    ((txHEncrypt noCrypto newKey hwTx).2.map fun skb => (framePn noCrypto .ccmp skb.bytes).value) =
      some 1 := by
  have hf : ∀ f ∈ [hwFrame 1 true, hwFrame 1 true, hwFrame 2 true, hwFrame 0 true],
      f.rx.flag.pnValidated = false ∧ f.rx.flag.allowSamePn = false := by
    intro f hf
    simp only [List.mem_cons, List.not_mem_nil, or_false] at hf
    rcases hf with rfl | rfl | rfl | rfl <;> exact ⟨rfl, rfl⟩
  obtain ⟨hrun, hdrop, hsend, _⟩ := replay_protection noCrypto newKey _ hf
  refine ⟨⟨?_, ?_⟩, ?_⟩
  · rw [(hrun 0).2.2.1]
    decide
  · exact hdrop _ (by simp only [List.mem_cons, true_or, or_true]) newKey (by decide)
  · cases hs : txHEncrypt noCrypto newKey hwTx with
    | mk key' skb =>
      have hk : key'.txPn = 1 := (congrArg (fun r => r.1.txPn) hs).symm
      cases skb with
      | none => cases hs
      | some skb =>
        have hv := (hsend _ _ _ hs (by rw [hk]; decide)).2
        rw [hk] at hv
        exact congrArg some hv

/-- **A frame with a MIC that cannot be cut off is dropped, but its packet number is stored.** -/
theorem replay_stored_by_dropped :
    (rxHDecrypt noCrypto (hwFrame 1 false).mem newKey (hwFrame 1 false).rx).result =
        .rxDropUShortCcmpMic ∧
      (rxHDecrypt noCrypto (hwFrame 1 false).mem newKey (hwFrame 1 false).rx).key.rxPn 0 ≠
        newKey.rxPn 0 ∧
      acceptedAt (rxLog noCrypto newKey [hwFrame 1 false]) 0 = [] ∧
      (rxAll noCrypto newKey [hwFrame 1 false]).rxPn 0 = pnOf 1 := by
  decide

end Mac80211.Wpa
