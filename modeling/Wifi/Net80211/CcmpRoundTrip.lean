import Wifi.Net80211.CcmpDecrypt

/-!
# The round trip of a frame through `ccmp_encap` and `ccmp_decap`

* `pn48` — the packet number that a frame has; `READ_6_bytes` reads it back.
* `ccmpFrame` — the bytes that `ccmp_encap` makes of a frame (`ccmpEncap_contiguous`).
* `ccmpDecrypt_frame` — `ccmp_decrypt` on these bytes, divided over mbufs.
* `ccmp_roundTrip` — `ccmp_decap` takes the frame, whatever the key and the payload, if and only if no
  block straddles; a replayed one it never takes.
-/

namespace Net80211.Ccmp

open Ccm

/-! ## The packet number -/

/-- The packet number in a frame, of 48 bits. -/
def pn48 (pn : BitVec 64) : BitVec 64 := (pn.setWidth 48).setWidth 64

theorem pn48_byte (pn : BitVec 64) {k : Nat} (hk : k ≤ 40) :
    (pn48 pn >>> k).setWidth 8 = (pn >>> k).setWidth 8 := by
  refine BitVec.eq_of_getLsbD_eq fun i hi => ?_
  unfold pn48
  rw [BitVec.getLsbD_setWidth, BitVec.getLsbD_setWidth, BitVec.getLsbD_ushiftRight,
    BitVec.getLsbD_ushiftRight, BitVec.getLsbD_setWidth, BitVec.getLsbD_setWidth]
  have h64 : k + i < 64 := by omega
  have h48 : k + i < 48 := by omega
  simp only [hi, h64, h48, decide_true, Bool.true_and]

theorem pnBytes_pn48 (pn : BitVec 64) : pnBytes (pn48 pn) = pnBytes pn := by
  unfold pnBytes
  rw [pn48_byte pn (k := 40) (by omega), pn48_byte pn (k := 32) (by omega), pn48_byte pn (k := 24) (by omega),
    pn48_byte pn (k := 16) (by omega), pn48_byte pn (k := 8) (by omega), pn48_byte pn (k := 0) (by omega)]

theorem READ_6_bytes (pn : BitVec 64) :
    READ_6 ((pn >>> 0).setWidth 8) ((pn >>> 8).setWidth 8) ((pn >>> 16).setWidth 8)
      ((pn >>> 24).setWidth 8) ((pn >>> 32).setWidth 8) ((pn >>> 40).setWidth 8) = pn48 pn := by
  refine BitVec.eq_of_getLsbD_eq fun i hi => ?_
  unfold READ_6 pn48
  -- each bit is in one of the bytes, or above them
  rcases (by omega : i < 8 ∨ (8 ≤ i ∧ i < 16) ∨ (16 ≤ i ∧ i < 24) ∨ (24 ≤ i ∧ i < 32) ∨ (32 ≤ i ∧ i < 40) ∨
    (40 ≤ i ∧ i < 48) ∨ 48 ≤ i) with h | h | h | h | h | h | h
  all_goals
    simp only [BitVec.getLsbD_or, BitVec.getLsbD_shiftLeft, BitVec.getLsbD_setWidth,
      BitVec.getLsbD_ushiftRight]
    grind

/-! ## What is sent -/

theorem ieee80211Hdrspace_append {hdr : List Byte} (h : 2 ≤ hdr.length) (more : List Byte) (datapad : Bool) :
    ieee80211Hdrspace datapad (hdr ++ more) = ieee80211Hdrspace datapad hdr := by
  unfold ieee80211Hdrspace ieee80211Hdrsize isDstods qosHasSeq
  rw [getD_append_left more (i := 0) (by omega), getD_append_left more (i := 1) (by omega)]

theorem ieee80211Hdrsize_le (datapad : Bool) (wh : List Byte) :
    ieee80211Hdrsize wh ≤ ieee80211Hdrspace datapad wh := by
  unfold ieee80211Hdrspace
  split
  · omega
  · exact Nat.le_refl _

theorem ieee80211Gettid_append {hdr : List Byte} (h : ieee80211Hdrsize hdr ≤ hdr.length) (more : List Byte) :
    ieee80211Gettid (hdr ++ more) = ieee80211Gettid hdr := by
  have h24 : 24 ≤ hdr.length := by
    unfold ieee80211Hdrsize at h
    omega
  have hd : isDstods (hdr ++ more) = isDstods hdr := by
    unfold isDstods
    rw [getD_append_left more (i := 1) (by omega)]
  have hq : qosHasSeq (hdr ++ more) = qosHasSeq hdr := by
    unfold qosHasSeq
    rw [getD_append_left more (i := 0) (by omega)]
  unfold ieee80211Gettid
  rw [hq]
  split
  · rename_i hqos
    unfold ieee80211Hdrsize at h
    rw [if_pos hqos] at h
    unfold iQos0
    rw [hd]
    split
    · rename_i hds
      rw [if_pos hds] at h
      unfold IEEE80211_ADDR_LEN at h
      rw [getD_append_left more (i := 30) (by omega)]
    · rw [getD_append_left more (i := 24) (by omega)]
  · rfl

/-- **The frame that `ccmp_encap` makes**, for a header and the eight bytes after it. -/
def ccmpFrame (aes : Aes) (pn : BitVec 64) (hdr iv payload : List Byte) : List Byte :=
  let init := ccmpInitBlocks aes (hdr ++ iv) pn payload.length
  (hdr ++ iv) ++ (ctrXor aes (setCounter init.b0) 1 payload ++
    (xorAt (cbcMac aes init.auth payload) 0 (init.s0.take icTrailer)).take icTrailer)

/-- **`ccmp_encap`**, for a frame in one mbuf. -/
theorem ccmpEncap_contiguous {api : MbufApi} {datapad : Bool} {k : Key} {hdr payload : List Byte}
    {out : Chain} (hhdr : hdr.length = ieee80211Hdrspace datapad hdr) (hsw : k.swEncrypt = true)
    (hiv : k.noIv = false) (hivm : k.noIvMgt = false)
    (h : (ccmpEncap api datapad k [hdr ++ payload]).2 = some out) :
    out.flatten = ccmpFrame k.aes (k.wkKeytsc + 1) hdr (ccmpSetiv k).2 payload := by
  have hsize := ieee80211Hdrsize_le datapad hdr
  have h24 : 24 ≤ hdr.length := by
    unfold ieee80211Hdrsize at hsize
    omega
  have hspace : ieee80211Hdrspace datapad (hdr ++ payload) = hdr.length := by
    rw [ieee80211Hdrspace_append (by omega), hhdr]
  have hivl : (ccmpSetiv k).2.length = 8 := rfl
  unfold ccmpEncap at h
  dsimp only [List.headD_cons] at h
  rw [hiv, hivm, Bool.and_false, Bool.and_false, if_neg Bool.false_ne_true, if_neg Bool.false_ne_true] at h
  cases hp : api.prepend [hdr ++ payload] icHeader with
  | none =>
    rw [hp] at h
    cases h
  | some m =>
    obtain ⟨room, hroom, rfl⟩ := api.prepend_room hp
    rw [hp] at h
    dsimp only [List.headD_cons, List.tail_cons] at h
    have hdrop : (room ++ (hdr ++ payload)).drop icHeader = hdr ++ payload := List.drop_left' hroom
    have hdrop' : (room ++ (hdr ++ payload)).drop (hdr.length + icHeader) = payload := by
      rw [Nat.add_comm, ← List.drop_drop, hdrop, List.drop_left' rfl]
    have hsw' : (ccmpSetiv k).1.swEncrypt = true := hsw
    rw [hspace, hdrop, hdrop', List.take_left' rfl, if_pos hsw'] at h
    have hout := api.append_flatten h
    have hic : icHeader = 8 := rfl
    have hlen : hdr.length + icHeader ≤ (hdr ++ (ccmpSetiv k).2 ++ payload).length := by
      rw [List.length_append, List.length_append]
      omega
    have hlen' : (hdr ++ (ccmpSetiv k).2).length = hdr.length + icHeader := by
      rw [List.length_append]
      omega
    obtain ⟨h1, h2⟩ := (@encryptChain_outcome _ [] _ k.aes (k.wkKeytsc + 1) h24 hlen).1
      (gatherable_single rfl)
    have haes : (ccmpSetiv k).1.aes = k.aes ∧ (ccmpSetiv k).1.wkKeytsc = k.wkKeytsc + 1 := ⟨rfl, rfl⟩
    rw [haes.1, haes.2, h1, h2, List.flatten_nil, List.append_nil] at hout
    rw [hout]
    unfold ccmFrame ccmpFrame
    dsimp only
    rw [List.take_left' hlen', List.drop_left' hlen', ccmpInitBlocks_append (by omega), List.append_assoc]

/-! ## What is received -/

section Received

variable {aes : Aes} {pn : BitVec 64} {hdr iv payload first : List Byte} {rest : Chain}

theorem ccmpInitBlocks_pn48 (wh : List Byte) (dlen : Nat) :
    ccmpInitBlocks aes wh (pn48 pn) dlen = ccmpInitBlocks aes wh pn dlen := by
  unfold ccmpInitBlocks
  rw [pnBytes_pn48]

def ccmpMic (aes : Aes) (pn : BitVec 64) (hdr iv payload : List Byte) : List Byte :=
  let init := ccmpInitBlocks aes (hdr ++ iv) pn payload.length
  (xorAt (cbcMac aes init.auth payload) 0 (init.s0.take icTrailer)).take icTrailer

theorem length_ccmpMic : (ccmpMic aes pn hdr iv payload).length = icTrailer := by
  unfold ccmpMic
  dsimp only
  have hauth : (ccmpInitBlocks aes (hdr ++ iv) pn payload.length).auth.length = 16 := aes.length_encrypt _
  rw [List.length_take, length_xorAt, length_cbcMac hauth]
  rfl

theorem length_ccmpFrame (hiv : iv.length = 8) :
    (ccmpFrame aes pn hdr iv payload).length = hdr.length + icHeader + payload.length + icTrailer := by
  have hmic : (ccmpMic aes pn hdr iv payload).length = _ := length_ccmpMic
  have hframe : ccmpFrame aes pn hdr iv payload = (hdr ++ iv) ++
      (ctrXor aes (setCounter (ccmpInitBlocks aes (hdr ++ iv) pn payload.length).b0) 1 payload ++
        ccmpMic aes pn hdr iv payload) := rfl
  rw [hframe, List.length_append, List.length_append, List.length_append, length_ctrXor, hmic, hiv,
    Nat.add_assoc _ payload.length]

/-- The header is in the first mbuf, and so are the eight bytes after it. -/
theorem first_parts (hiv : iv.length = 8) (hle : hdr.length + icHeader ≤ first.length)
    (hf : (first :: rest).flatten = ccmpFrame aes pn hdr iv payload) :
    first.take (hdr.length + icHeader) = hdr ++ iv ∧
      first.drop (hdr.length + icHeader) ++ rest.flatten =
        ctrXor aes (setCounter (ccmpInitBlocks aes (hdr ++ iv) pn payload.length).b0) 1 payload ++
          ccmpMic aes pn hdr iv payload := by
  have hlen : (hdr ++ iv).length = hdr.length + icHeader := by
    rw [List.length_append, hiv]
  rw [List.flatten_cons] at hf
  constructor
  · have h1 := congrArg (List.take (hdr.length + icHeader)) hf
    rw [List.take_append_of_le_length hle] at h1
    rw [h1]
    exact List.take_left' hlen
  · have h1 := congrArg (List.drop (hdr.length + icHeader)) hf
    rw [List.drop_append_of_le_length hle] at h1
    rw [h1]
    exact List.drop_left' hlen

/-- **`ccmp_decrypt` on a frame that is divided over mbufs.** -/
theorem ccmpDecrypt_frame (h24 : 24 ≤ hdr.length) (hiv : iv.length = 8)
    (hle : hdr.length + icHeader ≤ first.length)
    (hf : (first :: rest).flatten = ccmpFrame aes pn hdr iv payload) :
    (∀ r, ccmpDecrypt aes (pn48 pn) (first :: rest) hdr.length = some r →
      (∃ (p : List Byte) (ps : Chain), r.1 = ((hdr ++ iv) ++ p) :: ps ∧
        p ++ ps.flatten = payload ++ ccmpMic aes pn hdr iv payload) ∧
      ∃ seen, Seen ((first.length - (hdr.length + icHeader)) :: sizes rest) payload seen ∧
        r.2 = decide ((cbcMac aes (ccmpInitBlocks aes (hdr ++ iv) pn payload.length).auth payload).take icTrailer =
          (cbcMac aes (ccmpInitBlocks aes (hdr ++ iv) pn payload.length).auth seen).take icTrailer)) ∧
    (ccmpDecrypt aes (pn48 pn) (first :: rest) hdr.length = none →
      ¬ Aligned ((first.length - (hdr.length + icHeader)) :: sizes rest) payload.length) := by
  obtain ⟨htake, hdrop⟩ := first_parts hiv hle hf
  have hic : icHeader = 8 := rfl
  have hit : icTrailer = 8 := rfl
  have hmiclen : (ccmpMic aes pn hdr iv payload).length = _ := length_ccmpMic
  have hfirst : first = (hdr ++ iv) ++ first.drop (hdr.length + icHeader) := by
    rw [← htake, List.take_append_drop]
  have hinit : ∀ dlen, ccmpInitBlocks aes first (pn48 pn) dlen = ccmpInitBlocks aes (hdr ++ iv) pn dlen := by
    intro dlen
    rw [hfirst, ccmpInitBlocks_append (by rw [List.length_append]; omega), ccmpInitBlocks_pn48]
  have hflat : (first :: rest).flatten = ((hdr ++ iv) ++
      ctrXor aes (setCounter (ccmpInitBlocks aes (hdr ++ iv) pn payload.length).b0) 1 payload) ++
        ccmpMic aes pn hdr iv payload := by
    rw [hf, List.append_assoc]
    rfl
  have htotal : (first :: rest).flatten.length = hdr.length + 8 + payload.length + icTrailer := by
    rw [hflat, List.length_append, List.length_append, List.length_append, length_ctrXor, hmiclen, hiv]
  have hdlen : (first :: rest).flatten.length - (hdr.length + icHeader + icTrailer) = payload.length := by
    omega
  -- the last bytes of the frame
  have hmic : (((first :: rest).flatten.drop ((first :: rest).flatten.length - icTrailer)).take icTrailer) =
      ccmpMic aes pn hdr iv payload := by
    rw [hflat, List.length_append, hmiclen, Nat.add_sub_cancel, List.drop_left' rfl,
      List.take_of_length_le (Nat.le_of_eq hmiclen)]
  have hout : DecryptOutcome aes (ccmpInitBlocks aes (hdr ++ iv) pn payload.length).b0 1
      (ccmpInitBlocks aes (hdr ++ iv) pn payload.length).auth (hdr ++ iv) _ _ _ _ :=
    decryptLoop_some (rest.length + 1) (Nat.lt_succ_self _) hdrop
  rw [length_ctrXor] at hout
  have hr : ccmpDecrypt aes (pn48 pn) (first :: rest) hdr.length =
      (decryptLoop aes (ccmpInitBlocks aes (hdr ++ iv) pn payload.length).b0 (rest.length + 1) 1
        (ccmpInitBlocks aes (hdr ++ iv) pn payload.length).auth payload.length (hdr ++ iv)
        (first.drop (hdr.length + icHeader)) rest).map fun r => (r.1,
          decide (xorAt (ccmpMic aes pn hdr iv payload) 0
            ((ccmpInitBlocks aes (hdr ++ iv) pn payload.length).s0.take icTrailer) = r.2.take icTrailer)) := by
    unfold ccmpDecrypt
    dsimp only
    rw [hdlen, hinit, hmic, htake]
  have hxor : xorAt (ccmpMic aes pn hdr iv payload) 0
      ((ccmpInitBlocks aes (hdr ++ iv) pn payload.length).s0.take icTrailer) =
      (cbcMac aes (ccmpInitBlocks aes (hdr ++ iv) pn payload.length).auth payload).take icTrailer := by
    unfold ccmpMic
    dsimp only
    rw [take_xorAt, xorAt_xorAt]
  rw [hr, hxor]
  rw [List.length_drop] at hout
  obtain ⟨hsome, hnone⟩ := hout
  constructor
  · intro r hrun
    obtain ⟨r0, hr0, rfl⟩ := Option.map_eq_some_iff.1 hrun
    obtain ⟨⟨p, ps, h1, h2⟩, ⟨seen, hseen, hmac⟩⟩ := hsome r0 hr0
    rw [ctrXor_ctrXor] at h2 hseen
    refine ⟨⟨p, ps, h1, h2⟩, ⟨seen, hseen, ?_⟩⟩
    rw [hmac]
  · intro hrun
    have := hnone (Option.map_eq_none_iff.1 hrun)
    rwa [length_ctrXor] at this

/-- The header is moved up, and the bytes of the cipher are cut off. -/
theorem strip_flatten {p mic : List Byte} {ps : Chain} (h24 : 24 ≤ hdr.length) (hiv : iv.length = 8)
    (hmic : mic.length = icTrailer) (hp : p ++ ps.flatten = payload ++ mic) :
    (adjTail (adjHead ((((hdr ++ iv) ++ p).take icHeader ++ ((hdr ++ iv) ++ p).take hdr.length ++
      ((hdr ++ iv) ++ p).drop (hdr.length + icHeader)) :: ps) icHeader) icTrailer).flatten = hdr ++ payload := by
  have hlen : (hdr ++ iv).length = hdr.length + icHeader := by
    rw [List.length_append, hiv]
  have htake : ((hdr ++ iv) ++ p).take hdr.length = hdr := by
    rw [List.append_assoc, List.take_left' rfl]
  have hdrop : ((hdr ++ iv) ++ p).drop (hdr.length + icHeader) = p := List.drop_left' hlen
  have h8 : (((hdr ++ iv) ++ p).take icHeader).length = icHeader := by
    have hic : icHeader = 8 := rfl
    rw [List.length_take, List.length_append, hlen]
    omega
  have hhead : (adjHead ((((hdr ++ iv) ++ p).take icHeader ++ ((hdr ++ iv) ++ p).take hdr.length ++
      ((hdr ++ iv) ++ p).drop (hdr.length + icHeader)) :: ps) icHeader).flatten = (hdr ++ payload) ++ mic := by
    rw [adjHead_flatten, List.flatten_cons, htake, hdrop, List.append_assoc, List.append_assoc,
      List.drop_left' h8, hp, List.append_assoc]
  unfold adjTail
  rw [keepHead_flatten, hhead, List.length_append, hmic, Nat.add_sub_cancel, List.take_left' rfl]

/-- **`ccmp_decap` on a frame of `ccmp_encap`.** -/
theorem ccmpDecap_frame {ks kr : Key} (hsize : ieee80211Hdrsize hdr ≤ hdr.length) (hsw : kr.swDecrypt = true)
    (htake : first.take (hdr.length + icHeader) = hdr ++ (ccmpSetiv ks).2) :
    ccmpDecap {} kr (first :: rest) hdr.length =
      if pn48 (ks.wkKeytsc + 1) ≤ kr.wkKeyrsc (ieee80211Gettid hdr) ∧ kr.noReplay = false then some (kr, none)
      else
        match ccmpDecrypt kr.aes (pn48 (ks.wkKeytsc + 1)) (first :: rest) hdr.length with
        | none => none
        | some (_, false) => some (kr, none)
        | some (m, true) =>
          some ({ kr with wkKeyrsc := fun t =>
              if t = ieee80211Gettid hdr then pn48 (ks.wkKeytsc + 1) else kr.wkKeyrsc t },
            some (adjTail (adjHead (((m.headD []).take icHeader ++ (m.headD []).take hdr.length ++
              (m.headD []).drop (hdr.length + icHeader)) :: m.tail) icHeader) icTrailer)) := by
  have hfirst : first = hdr ++ ((ccmpSetiv ks).2 ++ first.drop (hdr.length + icHeader)) := by
    rw [← List.append_assoc, ← htake, List.take_append_drop]
  have hivp : first.drop hdr.length = (ccmpSetiv ks).2 ++ first.drop (hdr.length + icHeader) := by
    conv_lhs => rw [hfirst]
    exact List.drop_left' rfl
  have htid : ieee80211Gettid first = ieee80211Gettid hdr := by
    rw [hfirst, ieee80211Gettid_append hsize]
  have hext : ((ks.keyid <<< 6) ||| IEEE80211_WEP_EXTIV) &&& IEEE80211_WEP_EXTIV ≠ 0 := by
    intro h
    have hbit := congrArg (fun y : Byte => y.getLsbD 5) h
    simp [IEEE80211_WEP_EXTIV] at hbit
  unfold ccmpDecap
  dsimp only [List.headD_cons]
  rw [if_neg Bool.false_ne_true, hivp, htid]
  generalize first.drop (hdr.length + icHeader) = x
  have h3 : ((ccmpSetiv ks).2 ++ x).getD 3 0 = (ks.keyid <<< 6) ||| IEEE80211_WEP_EXTIV := rfl
  have hpn : READ_6 (((ccmpSetiv ks).2 ++ x).getD 0 0) (((ccmpSetiv ks).2 ++ x).getD 1 0)
      (((ccmpSetiv ks).2 ++ x).getD 4 0) (((ccmpSetiv ks).2 ++ x).getD 5 0)
      (((ccmpSetiv ks).2 ++ x).getD 6 0) (((ccmpSetiv ks).2 ++ x).getD 7 0) = pn48 (ks.wkKeytsc + 1) :=
    READ_6_bytes (ks.wkKeytsc + 1)
  rw [h3, hpn, if_neg hext, if_pos hsw]
  rfl

end Received

/-! ## The round trip -/

/-- A frame goes through `ccmp_encap` in one mbuf, and comes to `ccmp_decap` divided over mbufs, with the
    header in the first. -/
structure Delivered (api : MbufApi) (datapad : Bool) (ks kr : Key) (hdr payload first : List Byte)
    (rest : Chain) : Prop where
  swEncrypt : ks.swEncrypt = true
  iv : ks.noIv = false
  ivMgt : ks.noIvMgt = false
  swDecrypt : kr.swDecrypt = true
  sameKey : kr.aes = ks.aes
  frame : ∃ out, (ccmpEncap api datapad ks [hdr ++ payload]).2 = some out ∧
    (first :: rest).flatten = out.flatten
  header : hdr.length + icHeader ≤ first.length

/-- **What is expected of `ccmp_decap`**, for the packet number of the frame. -/
structure RoundTrip (kr : Key) (pn : BitVec 64) (hdr payload first : List Byte) (rest : Chain) : Prop where
  accepted : kr.wkKeyrsc (ieee80211Gettid hdr) < pn → ∃ m : Chain,
    ccmpDecap {} kr (first :: rest) hdr.length = some ({ kr with
      wkKeyrsc := fun t => if t = ieee80211Gettid hdr then pn else kr.wkKeyrsc t }, some m) ∧
      m.flatten = hdr ++ payload
  replayed : pn ≤ kr.wkKeyrsc (ieee80211Gettid hdr) → kr.noReplay = false →
    ccmpDecap {} kr (first :: rest) hdr.length = some (kr, none)

section RoundTrip

variable {api : MbufApi} {datapad : Bool} {ks kr : Key} {hdr payload first : List Byte} {rest : Chain}

theorem hdr_length (hhdr : hdr.length = ieee80211Hdrspace datapad hdr) :
    ieee80211Hdrsize hdr ≤ hdr.length ∧ 24 ≤ hdr.length := by
  have hsize := ieee80211Hdrsize_le datapad hdr
  rw [← hhdr] at hsize
  refine ⟨hsize, ?_⟩
  unfold ieee80211Hdrsize at hsize
  omega

theorem Delivered.flatten (h : Delivered api datapad ks kr hdr payload first rest)
    (hhdr : hdr.length = ieee80211Hdrspace datapad hdr) :
    (first :: rest).flatten = ccmpFrame ks.aes (ks.wkKeytsc + 1) hdr (ccmpSetiv ks).2 payload := by
  obtain ⟨out, hout, hflat⟩ := h.frame
  rw [hflat]
  exact ccmpEncap_contiguous hhdr h.swEncrypt h.iv h.ivMgt hout

/-- **A division in which no block straddles.** -/
theorem roundTrip_of_aligned (h : Delivered api datapad ks kr hdr payload first rest)
    (hhdr : hdr.length = ieee80211Hdrspace datapad hdr)
    (ha : Aligned ((first.length - (hdr.length + icHeader)) :: sizes rest) payload.length) :
    RoundTrip kr (pn48 (ks.wkKeytsc + 1)) hdr payload first rest := by
  obtain ⟨hsize, h24⟩ := hdr_length hhdr
  have hflat := h.flatten hhdr
  obtain ⟨htake, _⟩ := first_parts rfl h.header hflat
  have hdecap := @ccmpDecap_frame _ _ rest _ _ hsize h.swDecrypt htake
  obtain ⟨hsome, hnone⟩ := ccmpDecrypt_frame h24 rfl h.header hflat
  constructor
  · intro hlt
    rw [if_neg (fun hle => absurd hlt (BitVec.not_lt.2 hle.1))] at hdecap
    cases hr : ccmpDecrypt ks.aes (pn48 (ks.wkKeytsc + 1)) (first :: rest) hdr.length with
    | none => exact absurd ha (hnone hr)
    | some r =>
      obtain ⟨⟨p, ps, h1, h2⟩, ⟨seen, hseen, hok⟩⟩ := hsome r hr
      obtain ⟨m, ok⟩ := r
      have hm : m = ((hdr ++ (ccmpSetiv ks).2) ++ p) :: ps := h1
      have htrue : ok = true := by
        have h3 : ok = _ := hok
        rw [h3, hseen.aligned ha]
        exact decide_eq_true rfl
      have hr' : ccmpDecrypt kr.aes (pn48 (ks.wkKeytsc + 1)) (first :: rest) hdr.length =
          some (((hdr ++ (ccmpSetiv ks).2) ++ p) :: ps, true) := by
        rw [h.sameKey, hr, hm, htrue]
      rw [hr'] at hdecap
      exact ⟨_, hdecap, strip_flatten h24 rfl length_ccmpMic h2⟩
  · intro hle hreplay
    rw [hdecap, if_pos ⟨hle, hreplay⟩]

end RoundTrip

/-! ## A block that straddles -/

def xorSum : List Byte → Byte
  | [] => 0
  | x :: d => x ^^^ xorSum d

theorem xorSum_append (d d' : List Byte) : xorSum (d ++ d') = xorSum d ^^^ xorSum d' := by
  induction d with
  | nil => exact BitVec.zero_xor.symm
  | cons x d ih =>
    show x ^^^ xorSum (d ++ d') = x ^^^ xorSum d ^^^ xorSum d'
    rw [ih, BitVec.xor_assoc]

theorem xorSum_zeros (k : Nat) : xorSum (List.replicate k 0) = 0 := by
  induction k with
  | zero => rfl
  | succ k ih =>
    show 0 ^^^ xorSum (List.replicate k 0) = 0
    rw [ih]
    rfl

theorem xorSum_xorAt (b d : List Byte) : d.length ≤ b.length → xorSum (xorAt b 0 d) = xorSum b ^^^ xorSum d := by
  induction b generalizing d with
  | nil =>
    intro h
    rw [List.eq_nil_of_length_eq_zero (Nat.le_zero.1 h)]
    rfl
  | cons x b ih =>
    cases d with
    | nil => exact fun _ => BitVec.xor_zero.symm
    | cons y d =>
      intro h
      show x ^^^ y ^^^ xorSum (xorAt b 0 d) = x ^^^ xorSum b ^^^ (y ^^^ xorSum d)
      rw [ih d (Nat.le_of_succ_le_succ h), BitVec.xor_assoc, BitVec.xor_assoc, ← BitVec.xor_assoc y,
        BitVec.xor_comm y, BitVec.xor_assoc]

/-- A block function for which the MIC is the sum of all bytes. -/
def sumBlock : Aes where
  encrypt b := xorSum b :: List.replicate 15 0
  length_encrypt _ := rfl

theorem cbcMac_sumBlock (data : List Byte) : ∀ v : Byte,
    cbcMac sumBlock (v :: List.replicate 15 0) data = (v ^^^ xorSum data) :: List.replicate 15 0 := by
  induction hn : data.length using Nat.strongRecOn generalizing data with
  | ind k ih =>
    intro v
    by_cases h : data = []
    · rw [h, cbcMac_nil, show v ^^^ xorSum [] = v from BitVec.xor_zero]
    · have hpos := List.length_pos_iff.2 h
      have hsum : xorSum (xorAt (v :: List.replicate 15 0) 0 (data.take 16)) = v ^^^ xorSum (data.take 16) := by
        have hle : (data.take 16).length ≤ (v :: List.replicate 15 (0 : Byte)).length := List.length_take_le _ _
        rw [xorSum_xorAt _ _ hle]
        show v ^^^ xorSum (List.replicate 15 0) ^^^ _ = _
        rw [xorSum_zeros, show v ^^^ (0 : Byte) = v from BitVec.xor_zero]
      have hblock : sumBlock.encrypt (xorAt (v :: List.replicate 15 0) 0 (data.take 16)) =
          (v ^^^ xorSum (data.take 16)) :: List.replicate 15 0 := congrArg (· :: _) hsum
      have hmac := cbcMac_block (C := sumBlock) (firstBlock_take (n := 15) h) (v :: List.replicate 15 0)
      rw [List.take_append_drop] at hmac
      rw [hmac, hblock, ih (data.drop 16).length (by rw [List.length_drop]; omega) _ rfl, BitVec.xor_assoc,
        ← xorSum_append, List.take_append_drop]

/-- Functions of `<sys/mbuf.h>` that do not fail. -/
def mbufApi : MbufApi where
  prepend m len :=
    match m with
    | [] => none
    | first :: rest => some ((List.replicate len 0 ++ first) :: rest)
  append m data := some (m ++ [data])
  prepend_room := by
    intro first rest m len h
    exact ⟨List.replicate len 0, List.length_replicate, (Option.some.inj h).symm⟩
  append_flatten := by
    intro m m' data h
    rw [← Option.some.inj h, List.flatten_append, List.flatten_singleton]

def newKey (aes : Aes) : Key where
  swEncrypt := true
  swDecrypt := true
  noReplay := false
  noIv := false
  noIvMgt := false
  wkKeytsc := 0
  wkKeyrsc _ := 0
  keyid := 0
  aes := aes

def divide : List Nat → List Byte → Chain
  | [], _ => []
  | s :: ss, d => d.take s :: divide ss (d.drop s)

theorem sizes_divide (ss : List Nat) : ∀ d : List Byte, ss.sum ≤ d.length → sizes (divide ss d) = ss := by
  induction ss with
  | nil => exact fun _ _ => rfl
  | cons s ss ih =>
    intro d h
    rw [List.sum_cons] at h
    show (d.take s).length :: sizes (divide ss (d.drop s)) = s :: ss
    rw [List.length_take, Nat.min_eq_left (by omega), ih _ (by rw [List.length_drop]; omega)]

theorem flatten_divide (ss : List Nat) : ∀ d : List Byte, d.length = ss.sum → (divide ss d).flatten = d := by
  induction ss with
  | nil => exact fun d h => (List.eq_nil_of_length_eq_zero h).symm
  | cons s ss ih =>
    intro d h
    rw [List.sum_cons] at h
    show d.take s ++ (divide ss (d.drop s)).flatten = d
    rw [ih _ (by rw [List.length_drop]; omega), List.take_append_drop]

section Straddle

variable {datapad : Bool} {hdr payload : List Byte} {s0 : Nat} {ss : List Nat}

/-- Every frame can be divided so that its mbufs have given sizes. -/
theorem exists_delivered (aes : Aes) (hhdr : hdr.length = ieee80211Hdrspace datapad hdr)
    (hsum : (s0 :: ss).sum = payload.length + icTrailer) :
    ∃ (first : List Byte) (rest : Chain), Delivered mbufApi datapad (newKey aes) (newKey aes) hdr payload first rest ∧
      first.length = hdr.length + icHeader + s0 ∧ sizes rest = ss := by
  obtain ⟨out, hout⟩ : ∃ out, (ccmpEncap mbufApi datapad (newKey aes) [hdr ++ payload]).2 = some out := by
    unfold ccmpEncap newKey
    dsimp only
    rw [Bool.and_false, Bool.and_false, if_neg Bool.false_ne_true, if_neg Bool.false_ne_true]
    exact ⟨_, rfl⟩
  have hflat := ccmpEncap_contiguous hhdr rfl rfl rfl hout
  have hlen : out.flatten.length = hdr.length + icHeader + s0 + ss.sum := by
    rw [List.sum_cons] at hsum
    rw [hflat, length_ccmpFrame rfl]
    omega
  refine ⟨out.flatten.take (hdr.length + icHeader + s0),
    divide ss (out.flatten.drop (hdr.length + icHeader + s0)), ?_, ?_, ?_⟩
  · refine ⟨rfl, rfl, rfl, rfl, rfl, ⟨out, hout, ?_⟩, ?_⟩
    · rw [List.flatten_cons, flatten_divide _ _ (by rw [List.length_drop]; omega), List.take_append_drop]
    · rw [List.length_take]
      omega
  · rw [List.length_take]
    omega
  · exact sizes_divide _ _ (by rw [List.length_drop]; omega)

/-- A payload with a single byte that is not zero. -/
def oneAt (p len : Nat) : List Byte := List.replicate p 0 ++ 1 :: List.replicate (len - p - 1) 0

theorem length_oneAt {p len : Nat} (h : p < len) : (oneAt p len).length = len := by
  unfold oneAt
  rw [List.length_append, List.length_cons, List.length_replicate, List.length_replicate]
  omega

theorem xorSum_oneAt (p len : Nat) : xorSum (oneAt p len) = 1 := by
  unfold oneAt
  rw [xorSum_append, xorSum_zeros]
  show 0 ^^^ ((1 : Byte) ^^^ xorSum (List.replicate _ 0)) = 1
  rw [xorSum_zeros]
  rfl

theorem Seen.oneAt {sz : List Nat} {p len : Nat} {seen : List Byte} (h : Seen sz (oneAt p len) seen)
    (hp : p < len) (hb : Boundary sz p) (hmod : p % 16 ≠ 0) : seen = List.replicate len 0 := by
  have hlen := h.length.trans (length_oneAt hp)
  refine List.ext_getElem? fun q => ?_
  by_cases hq : q < len
  · rw [List.getElem?_replicate, if_pos hq]
    by_cases hqp : q = p
    · rw [hqp]
      exact h.missed p hb (by rw [length_oneAt hp]; exact hp) hmod
    · refine (h.bytes q).elim (fun hbyte => ?_) id
      rw [hbyte]
      unfold Ccmp.oneAt
      by_cases hlt : q < p
      · rw [List.getElem?_append_left (by rw [List.length_replicate]; exact hlt), List.getElem?_replicate,
          if_pos hlt]
      · rw [List.getElem?_append_right (by rw [List.length_replicate]; omega), List.length_replicate]
        obtain ⟨k, hk⟩ : ∃ k, q - p = k + 1 := ⟨q - p - 1, by omega⟩
        rw [hk, List.getElem?_cons_succ, List.getElem?_replicate, if_pos (by omega)]
  · rw [List.getElem?_eq_none (by omega), List.getElem?_eq_none (by rw [List.length_replicate]; omega)]

/-- **A division in which a block straddles**: there is a frame that does not go through. -/
theorem exists_not_roundTrip (hhdr : hdr.length = ieee80211Hdrspace datapad hdr)
    (hsum : icTrailer ≤ (s0 :: ss).sum) (ha : ¬ Aligned (s0 :: ss) ((s0 :: ss).sum - icTrailer)) :
    ∃ (payload first : List Byte) (rest : Chain),
      Delivered mbufApi datapad (newKey sumBlock) (newKey sumBlock) hdr payload first rest ∧
      first.length = hdr.length + icHeader + s0 ∧ sizes rest = ss ∧
      ¬ RoundTrip (newKey sumBlock) (pn48 ((newKey sumBlock).wkKeytsc + 1)) hdr payload first rest := by
  obtain ⟨p, hp⟩ := Classical.not_forall.1 ha
  obtain ⟨hb, hp⟩ := Classical.not_imp.1 hp
  obtain ⟨hlt, hmod⟩ := Classical.not_imp.1 hp
  have hlen := length_oneAt hlt
  have hpay : (s0 :: ss).sum = (oneAt p ((s0 :: ss).sum - icTrailer)).length + icTrailer := by
    rw [hlen]
    omega
  obtain ⟨first, rest, hd, hfirst, hrest⟩ := exists_delivered sumBlock hhdr hpay
  refine ⟨_, first, rest, hd, hfirst, hrest, fun hround => ?_⟩
  obtain ⟨hsize, h24⟩ := hdr_length hhdr
  have hflat := hd.flatten hhdr
  obtain ⟨htake, _⟩ := first_parts rfl hd.header hflat
  have hdecap := @ccmpDecap_frame _ _ rest _ _ hsize hd.swDecrypt htake
  have hpn : (0 : BitVec 64) < pn48 ((newKey sumBlock).wkKeytsc + 1) := by decide
  obtain ⟨m, hm, _⟩ := hround.accepted hpn
  rw [hm, if_neg (fun hle => absurd hpn (BitVec.not_lt.2 hle.1))] at hdecap
  have hsome := (ccmpDecrypt_frame h24 rfl hd.header hflat).1
  cases hr : ccmpDecrypt sumBlock (pn48 ((newKey sumBlock).wkKeytsc + 1)) (first :: rest) hdr.length with
  | none =>
    have hr' : ccmpDecrypt (newKey sumBlock).aes (pn48 ((newKey sumBlock).wkKeytsc + 1)) (first :: rest)
      hdr.length = none := hr
    rw [hr'] at hdecap
    exact nomatch hdecap
  | some r =>
    obtain ⟨_, ⟨seen, hseen, hok⟩⟩ := hsome r hr
    have hr' : ccmpDecrypt (newKey sumBlock).aes (pn48 ((newKey sumBlock).wkKeytsc + 1)) (first :: rest)
      hdr.length = some r := hr
    obtain ⟨m', ok⟩ := r
    rw [hr'] at hdecap
    cases ok with
    | false => exact absurd (congrArg Prod.snd (Option.some.inj hdecap)) (nomatch ·)
    | true =>
      -- the MIC is a sum, and it misses the only byte of the payload
      have hmac := of_decide_eq_true hok.symm
      rw [hfirst, Nat.add_sub_cancel_left, hrest] at hseen
      rw [hseen.oneAt hlt hb hmod] at hmac
      have hauth : ∀ (wh : List Byte) (dlen : Nat), ∃ v : Byte,
          (ccmpInitBlocks sumBlock wh ((newKey sumBlock).wkKeytsc + 1) dlen).auth = v :: List.replicate 15 0 :=
        fun wh dlen => ⟨_, rfl⟩
      obtain ⟨v, hv⟩ := hauth (hdr ++ (ccmpSetiv (newKey sumBlock)).2)
        (oneAt p ((s0 :: ss).sum - icTrailer)).length
      have hv' : (ccmpInitBlocks (newKey sumBlock).aes (hdr ++ (ccmpSetiv (newKey sumBlock)).2)
        ((newKey sumBlock).wkKeytsc + 1) (oneAt p ((s0 :: ss).sum - icTrailer)).length).auth =
          v :: List.replicate 15 0 := hv
      have haes : (newKey sumBlock).aes = sumBlock := rfl
      rw [hv', haes, cbcMac_sumBlock, cbcMac_sumBlock, xorSum_oneAt, xorSum_zeros] at hmac
      have hbyte : v ^^^ 1 = v ^^^ 0 := (List.cons.inj hmac).1
      have hbit := congrArg (fun y : Byte => y.getLsbD 0) hbyte
      simp at hbit

end Straddle

/-- **The frames of `ccmp_encap` go through `ccmp_decap`, whatever the keys and the payload, if and only if
    the division over mbufs is `Aligned`.** -/
theorem ccmp_roundTrip {datapad : Bool} {hdr : List Byte} {s0 : Nat} {ss : List Nat}
    (hhdr : hdr.length = ieee80211Hdrspace datapad hdr) (hsum : icTrailer ≤ (s0 :: ss).sum) :
    (∀ (api : MbufApi) (ks kr : Key) (payload first : List Byte) (rest : Chain),
      Delivered api datapad ks kr hdr payload first rest → first.length = hdr.length + icHeader + s0 →
      sizes rest = ss → RoundTrip kr (pn48 (ks.wkKeytsc + 1)) hdr payload first rest) ↔
    Aligned (s0 :: ss) ((s0 :: ss).sum - icTrailer) := by
  constructor
  · intro hall
    refine Classical.byContradiction fun ha => ?_
    obtain ⟨payload, first, rest, hd, hfirst, hrest, hnot⟩ := exists_not_roundTrip hhdr hsum ha
    exact hnot (hall _ _ _ payload first rest hd hfirst hrest)
  · intro ha api ks kr payload first rest hd hfirst hrest
    refine roundTrip_of_aligned hd hhdr ?_
    have hlen := congrArg List.length (hd.flatten hhdr)
    rw [List.flatten_cons, List.length_append, length_ccmpFrame rfl, ← sum_sizes, hrest, hfirst] at hlen
    rw [hfirst, Nat.add_sub_cancel_left, hrest]
    have hpay : (s0 :: ss).sum - icTrailer = payload.length := by
      rw [List.sum_cons]
      omega
    rwa [hpay] at ha

def dataHdr : List Byte := 0x08 :: List.replicate 23 0

def copyBlock : Aes where
  encrypt b := (b ++ List.replicate 16 0).take 16
  length_encrypt b := by
    rw [List.length_take, List.length_append, List.length_replicate]
    omega

/-- The first block of `copyBlock`, with the second of its two bytes in the second mbuf. -/
theorem ccmp_roundTrip_straddled :
    Delivered mbufApi false (newKey copyBlock) (newKey copyBlock) dataHdr [1, 2]
      (dataHdr ++ [1, 0, 0, 0x20, 0, 0, 0, 0] ++ [0]) [[2, 89, 20, 8, 0, 0, 0, 0, 0]] ∧
    (ccmpDecap {} (newKey copyBlock) [dataHdr ++ [1, 0, 0, 0x20, 0, 0, 0, 0] ++ [0],
      [2, 89, 20, 8, 0, 0, 0, 0, 0]] dataHdr.length).map Prod.snd = some none ∧
    (ccmpDecap {} (newKey copyBlock) [dataHdr ++ [1, 0, 0, 0x20, 0, 0, 0, 0] ++ [0, 2],
      [89, 20, 8, 0, 0, 0, 0, 0]] dataHdr.length).map Prod.snd = some (some [dataHdr ++ [1, 2], []]) := by
  refine ⟨⟨rfl, rfl, rfl, rfl, rfl, ⟨_, rfl, ?_⟩, ?_⟩, ?_, ?_⟩
  · decide
  · decide
  · decide
  · decide

/-- A payload of 20 bytes, with its first block in the first mbuf. -/
theorem ccmp_roundTrip_blocks : Aligned [16, 12] ([16, 12].sum - icTrailer) ∧
    ∀ (api : MbufApi) (ks kr : Key) (payload first : List Byte) (rest : Chain),
      Delivered api false ks kr dataHdr payload first rest → first.length = dataHdr.length + icHeader + 16 →
      sizes rest = [12] → RoundTrip kr (pn48 (ks.wkKeytsc + 1)) dataHdr payload first rest := by
  have ha : Aligned [16, 12] ([16, 12].sum - icTrailer) := by
    intro p hp hlt
    rcases boundary_cons.1 hp with rfl | ⟨q, hq, rfl⟩
    · rfl
    · rcases boundary_cons.1 hq with rfl | ⟨r, hr, rfl⟩
      · rfl
      · have hlt' : 16 + (12 + r) < 20 := hlt
        omega
  exact ⟨ha, (ccmp_roundTrip (by decide) (by decide)).2 ha⟩

end Net80211.Ccmp
