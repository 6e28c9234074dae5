import Wifi.Wireless.Amsdu

/-!
# The length of a subframe of an A-MSDU

`ieee80211_amsdu_subframe_length` adds the mesh header to the length field in 16 bits.

* `declaredLength` — the sum; `amsduSubframeLength_exact_iff` says when the code computes it.
* `Walk` — what a loop over the subframes takes from the data; `Walk.Boundary` is where subframes begin, for the lengths
  that it goes by, and `Walk.Looks` where it computes one.
* `validWalk`, `splitWalk` — `ieee80211_is_valid_amsdu` and `ieee80211_amsdu_to_8023s`.
* `lengths_exact_iff` — when both go by the sums.
-/

namespace Wireless.Amsdu

/-! ## The sum -/

def lengthField (field : List Byte) (hdrType : Byte) : BitVec 16 :=
  if hdrType ≥ 2 then field.getD 1 0 ++ field.getD 0 0 else field.getD 0 0 ++ field.getD 1 0

/-- **The sum** of the length field and of the mesh header's length, where the field does not count the mesh header. -/
def declaredLength (field : List Byte) (meshFlags hdrType : Byte) : Nat :=
  (lengthField field hdrType).toNat + if hdrType ≠ 0 then (getMeshHdrlen meshFlags).toNat else 0

theorem amsduSubframeLength_toNat (field : List Byte) (meshFlags hdrType : Byte) :
    (amsduSubframeLength field meshFlags hdrType).toNat = declaredLength field meshFlags hdrType % 65536 := by
  have hfield : (lengthField field hdrType).toNat < 65536 := BitVec.isLt _
  show (if hdrType ≠ 0 then lengthField field hdrType + getMeshHdrlen meshFlags
    else lengthField field hdrType).toNat = _
  unfold declaredLength
  by_cases hmesh : hdrType ≠ 0
  · rw [if_pos hmesh, if_pos hmesh, BitVec.toNat_add]
  · rw [if_neg hmesh, if_neg hmesh, Nat.add_zero, Nat.mod_eq_of_lt hfield]

theorem declaredLength_zero (field : List Byte) (meshFlags : Byte) : declaredLength field meshFlags 0 < 65536 := by
  have hfield : (lengthField field 0).toNat < 65536 := BitVec.isLt _
  exact hfield

/-- **The code computes the sum** when it fits in 16 bits. -/
theorem amsduSubframeLength_exact_iff (field : List Byte) (meshFlags hdrType : Byte) :
    (amsduSubframeLength field meshFlags hdrType).toNat = declaredLength field meshFlags hdrType ↔
      hdrType = 0 ∨ declaredLength field meshFlags hdrType < 65536 := by
  rw [amsduSubframeLength_toNat]
  constructor
  · intro h
    exact .inr (by omega)
  · rintro (rfl | h)
    · exact Nat.mod_eq_of_lt (declaredLength_zero field meshFlags)
    · exact Nat.mod_eq_of_lt h

/-! ## Walks -/

/-- What a loop over the subframes takes from the data: its size, how many bytes of a header have to be there, and at
    which headers it stops. -/
structure Walk where
  size : Nat
  need : Nat
  stop : Nat → Bool

def behind (length : Nat → Nat) (offset : Nat) : Nat :=
  offset + (ETH_HLEN + length offset + amsduPadding (ETH_HLEN + length offset))

/-- **Where a subframe begins**, for subframes of these lengths. -/
inductive Walk.Boundary (W : Walk) (length : Nat → Nat) : Nat → Prop where
  | start : Boundary W length 0
  | next {offset : Nat} (h : Boundary W length offset) (hneed : offset + W.need ≤ W.size)
      (hfit : offset + (ETH_HLEN + length offset) ≤ W.size) (hgo : W.stop offset = false) :
      Boundary W length (behind length offset)

/-- **Where the length of a subframe is computed.** -/
def Walk.Looks (W : Walk) (length : Nat → Nat) (offset : Nat) : Prop :=
  W.Boundary length offset ∧ offset + W.need ≤ W.size

variable {W : Walk} {f g : Nat → Nat}

/-- Walks by lengths that agree where one of them looks. -/
theorem boundary_of_agree (h : ∀ o, W.Looks f o → f o = g o) {o : Nat} (hb : W.Boundary g o) : W.Boundary f o := by
  induction hb with
  | start => exact .start
  | @next o _ hneed hfit hgo ih =>
    have heq := h o ⟨ih, hneed⟩
    have hbehind : behind g o = behind f o := by
      unfold behind
      rw [heq]
    rw [hbehind]
    exact .next ih hneed (by rwa [heq]) hgo

theorem boundary_of_agree' (h : ∀ o, W.Looks f o → f o = g o) {o : Nat} (hb : W.Boundary f o) : W.Boundary g o := by
  induction hb with
  | start => exact .start
  | @next o hb hneed hfit hgo ih =>
    have heq := h o ⟨hb, hneed⟩
    have hbehind : behind f o = behind g o := by
      unfold behind
      rw [heq]
    rw [hbehind]
    exact .next ih hneed (by rwa [← heq]) hgo

/-- **The lengths agree on the one walk when they do on the other.** -/
theorem agree_iff (W : Walk) (f g : Nat → Nat) :
    (∀ o, W.Looks f o → f o = g o) ↔ ∀ o, W.Looks g o → f o = g o := by
  constructor
  · intro h o ho
    exact h o ⟨boundary_of_agree h ho.1, ho.2⟩
  · intro h o ho
    exact h o ⟨boundary_of_agree (fun o ho => (h o ho).symm) ho.1, ho.2⟩

/-! ## `ieee80211_is_valid_amsdu` -/

/-- The bytes that the loop reads at a subframe. -/
def validHdr (skb : SkBuff) (offset : Nat) : List Byte := (skb.bytes.drop (offset + 2 * ETH_ALEN)).take 4

/-- The length that the loop computes at a subframe. -/
def validLength (skb : SkBuff) (meshHdr : Byte) (offset : Nat) : Nat :=
  (amsduSubframeLength ((validHdr skb offset).take 2) ((validHdr skb offset).getD 2 0) meshHdr).toNat

def validDeclared (skb : SkBuff) (meshHdr : Byte) (offset : Nat) : Nat :=
  declaredLength ((validHdr skb offset).take 2) ((validHdr skb offset).getD 2 0) meshHdr

def validWalk (skb : SkBuff) : Walk := { size := skb.len, need := 16, stop := fun _ => false }

theorem isValidFrom_succ {skb : SkBuff} (meshHdr : Byte) (fuel : Nat) {offset : Nat} (hlt : offset < skb.len) :
    isValidFrom skb meshHdr (fuel + 1) offset =
      if offset + 16 ≤ skb.len ∧ offset + (ETH_HLEN + validLength skb meshHdr offset) ≤ skb.len then
        isValidFrom skb meshHdr fuel (behind (validLength skb meshHdr) offset)
      else some false := by
  rw [isValidFrom, if_pos hlt]
  dsimp only
  by_cases h4 : 4 > skb.len - offset
  · rw [if_pos h4, if_neg fun h => absurd h.1 (by omega)]
  rw [if_neg h4]
  by_cases hneed : offset + 2 * ETH_ALEN + 4 ≤ skb.len
  · rw [SkBuff.copyBits_of_le hneed]
    change (if ETH_HLEN + validLength skb meshHdr offset > skb.len - offset then some false
      else isValidFrom skb meshHdr fuel (behind (validLength skb meshHdr) offset)) = _
    by_cases hfit : ETH_HLEN + validLength skb meshHdr offset > skb.len - offset
    · rw [if_pos hfit, if_neg fun h => absurd h.2 (by omega)]
    · rw [if_neg hfit, if_pos ⟨hneed, by omega⟩]
  · unfold SkBuff.copyBits
    rw [if_pos (Nat.lt_of_not_le hneed), if_neg fun h => hneed h.1]

/-- **The loop comes to every boundary.** -/
theorem isValidAmsdu_boundary (skb : SkBuff) (meshHdr : Byte) {o : Nat}
    (ho : (validWalk skb).Boundary (validLength skb meshHdr) o) (hlt : o < skb.len) :
    ∃ fuel, isValidAmsdu skb meshHdr = isValidFrom skb meshHdr (fuel + 1) o ∧ skb.len < o + (fuel + 1) := by
  induction ho with
  | start => exact ⟨skb.len, rfl, by omega⟩
  | @next o _ hneed hfit _ ih =>
    have hneed : o + 16 ≤ skb.len := hneed
    have hfit : o + (ETH_HLEN + validLength skb meshHdr o) ≤ skb.len := hfit
    have he : ETH_HLEN = 14 := rfl
    have hge : o + ETH_HLEN ≤ behind (validLength skb meshHdr) o := by
      unfold behind
      omega
    obtain ⟨fuel, hrun, hfuel⟩ := ih (by omega)
    obtain ⟨fuel, rfl⟩ : ∃ fuel', fuel = fuel' + 1 := ⟨fuel - 1, by omega⟩
    rw [isValidFrom_succ _ _ (by omega), if_pos ⟨hneed, hfit⟩] at hrun
    exact ⟨fuel, hrun, by omega⟩

/-! ## `ieee80211_amsdu_to_8023s` -/

/-- The bytes that the loop reads at a subframe. -/
def splitHdr (a : AmsduArgs) (skb : SkBuff) (offset : Nat) : List Byte :=
  (skb.bytes.drop offset).take (if a.isMesh then ETH_HLEN + 1 else ETH_HLEN)

/-- `hdr.flags` at a subframe -/
def splitFlags (a : AmsduArgs) (skb : SkBuff) (offset : Nat) : Byte :=
  if a.isMesh then (splitHdr a skb offset).getD ETH_HLEN 0 else a.stackFlags

/-- The length that the loop computes at a subframe. -/
def splitLength (a : AmsduArgs) (skb : SkBuff) (offset : Nat) : Nat :=
  (amsduSubframeLength (EthHdr.read (splitHdr a skb offset)).hProto (splitFlags a skb offset) a.meshControl).toNat

def splitDeclared (a : AmsduArgs) (skb : SkBuff) (offset : Nat) : Nat :=
  declaredLength (EthHdr.read (splitHdr a skb offset)).hProto (splitFlags a skb offset) a.meshControl

def splitWalk (a : AmsduArgs) (skb : SkBuff) : Walk :=
  { size := skb.len
    need := if a.isMesh then ETH_HLEN + 1 else ETH_HLEN
    stop := fun offset => decide ((EthHdr.read (splitHdr a skb offset)).hDest = rfc1042Header) }

/-- The frame of `len` bytes of payload behind the header at `offset`; the last one can be the skb itself. -/
def FrameAt (a : AmsduArgs) (skb frame : SkBuff) (offset len : Nat) : Prop :=
  ∃ eth payload, frame = amsduFinish a skb eth payload ∧
    ((∃ mem minLen, amsduCopy mem skb (offset + ETH_HLEN) len (reuseFrag skb) minLen = some payload) ∨
      payload = skb.pull (offset + ETH_HLEN) ∧
        skb.len - offset ≤ ETH_HLEN + len + amsduPadding (ETH_HLEN + len))

theorem amsduReadHdr_eq (a : AmsduArgs) (skb : SkBuff) (offset : Nat) : amsduReadHdr a skb offset =
    if (splitWalk a skb).need > skb.len - offset then none
    else if ETH_HLEN + splitLength a skb offset > skb.len - offset then none
    else if (EthHdr.read (splitHdr a skb offset)).hDest = rfc1042Header then none
    else
      some
        { eth := EthHdr.read (splitHdr a skb offset)
          meshLen := if a.isMesh then (getMeshHdrlen (splitFlags a skb offset)).toNat else 0
          len := splitLength a skb offset
          padding := amsduPadding (ETH_HLEN + splitLength a skb offset)
          last := decide (skb.len - offset ≤
            ETH_HLEN + splitLength a skb offset + amsduPadding (ETH_HLEN + splitLength a skb offset)) } := rfl

theorem amsduReadHdr_inside {a : AmsduArgs} {skb : SkBuff} {offset : Nat} {sf : Subframe}
    (h : amsduReadHdr a skb offset = some sf) (hle : offset ≤ skb.len) :
    offset + (splitWalk a skb).need ≤ skb.len ∧ offset + (ETH_HLEN + splitLength a skb offset) ≤ skb.len ∧
      (splitWalk a skb).stop offset = false ∧ sf.len = splitLength a skb offset ∧
      offset + ETH_HLEN + (sf.len + sf.padding) = behind (splitLength a skb) offset ∧
      (sf.last = true ↔ skb.len ≤ behind (splitLength a skb) offset) := by
  rw [amsduReadHdr_eq] at h
  by_cases hneed : (splitWalk a skb).need > skb.len - offset
  · rw [if_pos hneed] at h
    cases h
  rw [if_neg hneed] at h
  by_cases hfit : ETH_HLEN + splitLength a skb offset > skb.len - offset
  · rw [if_pos hfit] at h
    cases h
  rw [if_neg hfit] at h
  by_cases hstop : (EthHdr.read (splitHdr a skb offset)).hDest = rfc1042Header
  · rw [if_pos hstop] at h
    cases h
  rw [if_neg hstop] at h
  cases h
  unfold behind
  refine ⟨by omega, by omega, decide_eq_false hstop, rfl, ?_, ?_⟩
  · dsimp only
    omega
  · dsimp only
    rw [decide_eq_true_iff]
    omega

/-- **Every frame is made where a subframe begins**, of as many bytes as were computed there. -/
theorem amsduLoop_frames {a : AmsduArgs} {alloc : Nat → Option (List Byte)} {skb : SkBuff} (fuel : Nat) :
    ∀ {offset : Nat} {list frames : List SkBuff} {reused : Bool},
      (splitWalk a skb).Boundary (splitLength a skb) offset → offset ≤ skb.len →
      (∀ frame ∈ list, ∃ o, (splitWalk a skb).Looks (splitLength a skb) o ∧
        FrameAt a skb frame o (splitLength a skb o)) →
      amsduLoop a alloc skb fuel offset list = some (frames, reused) →
      ∀ frame ∈ frames, ∃ o, (splitWalk a skb).Looks (splitLength a skb) o ∧
        FrameAt a skb frame o (splitLength a skb o) := by
  induction fuel with
  | zero =>
    intro offset list frames reused _ _ _ h
    cases h
  | succ fuel ih =>
    intro offset list frames reused hb hle hlist h
    unfold amsduLoop at h
    cases hsf : amsduReadHdr a skb offset with
    | none =>
      rw [hsf] at h
      cases h
      exact nofun
    | some sf =>
      obtain ⟨hneed, hfit, hgo, hlen, hbehind, hlast⟩ := amsduReadHdr_inside hsf hle
      have hnext := Walk.Boundary.next hb hneed hfit hgo
      rw [hsf] at h
      dsimp only at h
      rw [hbehind] at h
      have hmore : ∀ {list' : List SkBuff}, sf.last ≠ true →
          (∀ frame ∈ list', ∃ o, (splitWalk a skb).Looks (splitLength a skb) o ∧
            FrameAt a skb frame o (splitLength a skb o)) →
          amsduLoop a alloc skb fuel (behind (splitLength a skb) offset) list' = some (frames, reused) →
          ∀ frame ∈ frames, ∃ o, (splitWalk a skb).Looks (splitLength a skb) o ∧
            FrameAt a skb frame o (splitLength a skb o) := by
        intro list' hgoes hlist' hrest
        have hlt : ¬ skb.len ≤ behind (splitLength a skb) offset := fun hle => hgoes (hlast.mpr hle)
        exact ih hnext (Nat.le_of_not_le hlt) hlist' hrest
      have hadd : ∀ {frame : SkBuff}, FrameAt a skb frame offset (splitLength a skb offset) →
          ∀ frame' ∈ list ++ [frame], ∃ o, (splitWalk a skb).Looks (splitLength a skb) o ∧
            FrameAt a skb frame' o (splitLength a skb o) := by
        intro frame hframe frame' hf
        obtain hf | hf := List.mem_append.mp hf
        · exact hlist frame' hf
        · obtain rfl := List.mem_singleton.mp hf
          exact ⟨offset, ⟨hb, hneed⟩, hframe⟩
      by_cases hfiltered : amsduFiltered a sf.eth = true
      · rw [if_pos hfiltered] at h
        by_cases hend : sf.last = true
        · rw [if_pos hend] at h
          cases h
          exact hlist
        · rw [if_neg hend] at h
          exact hmore hend hlist h
      rw [if_neg hfiltered] at h
      by_cases hreuse : reusesSkb skb = true ∧ sf.last = true
      · rw [if_pos hreuse] at h
        cases h
        refine hadd ⟨sf.eth, skb.pull (offset + ETH_HLEN), rfl, .inr ⟨rfl, ?_⟩⟩
        have hend := hlast.mp hreuse.2
        unfold behind at hend
        omega
      rw [if_neg hreuse] at h
      cases hcopy : amsduCopy (alloc list.length) skb (offset + ETH_HLEN) sf.len (reuseFrag skb) (32 + sf.meshLen) with
      | none =>
        rw [hcopy] at h
        cases h
        exact nofun
      | some payload =>
        rw [hcopy] at h
        dsimp only at h
        have hlist' := hadd ⟨sf.eth, payload, rfl, .inl ⟨_, _, hlen ▸ hcopy⟩⟩
        by_cases hend : sf.last = true
        · rw [if_pos hend] at h
          cases h
          exact hlist'
        · rw [if_neg hend] at h
          exact hmore hend hlist' h

def enoughMemory : Nat → Option (List Byte) := fun _ => some []

/-- **The loop comes to every boundary** before the end of the data, with enough memory. -/
theorem amsduTo8023s_boundary (a : AmsduArgs) (skb : SkBuff) {o : Nat}
    (ho : (splitWalk a skb).Boundary (splitLength a skb) o) (hlt : o < skb.len) :
    ∃ fuel list, amsduTo8023s a enoughMemory skb = amsduLoop a enoughMemory skb (fuel + 1) o list ∧
      skb.len < o + (fuel + 1) := by
  induction ho with
  | start => exact ⟨skb.len, [], rfl, by omega⟩
  | @next o _ hneed hfit hgo ih =>
    have hneed : o + (splitWalk a skb).need ≤ skb.len := hneed
    have hfit : o + (ETH_HLEN + splitLength a skb o) ≤ skb.len := hfit
    have hge : o + ETH_HLEN ≤ behind (splitLength a skb) o := by
      unfold behind
      omega
    have he : ETH_HLEN = 14 := rfl
    obtain ⟨fuel, list, hrun, hfuel⟩ := ih (by omega)
    obtain ⟨fuel, rfl⟩ : ∃ fuel', fuel = fuel' + 1 := ⟨fuel - 1, by omega⟩
    have hstop : ¬ (EthHdr.read (splitHdr a skb o)).hDest = rfc1042Header := of_decide_eq_false hgo
    obtain ⟨sf, hsf⟩ : ∃ sf, amsduReadHdr a skb o = some sf := by
      rw [amsduReadHdr_eq, if_neg (by omega), if_neg (by omega), if_neg hstop]
      exact ⟨_, rfl⟩
    obtain ⟨-, -, -, hlen, hbehind, hlast⟩ := amsduReadHdr_inside hsf (by omega)
    have hgoes : ¬ sf.last = true := fun h => absurd (hlast.mp h) (by omega)
    suffices hnext : ∃ list', amsduLoop a enoughMemory skb (fuel + 1 + 1) o list =
        amsduLoop a enoughMemory skb (fuel + 1) (behind (splitLength a skb) o) list' by
      obtain ⟨list', hnext⟩ := hnext
      exact ⟨fuel, list', hrun.trans hnext, by omega⟩
    conv => enter [1, list', 1]; unfold amsduLoop
    rw [hsf]
    dsimp only
    rw [hbehind]
    by_cases hfiltered : amsduFiltered a sf.eth = true
    · rw [if_pos hfiltered, if_neg hgoes]
      exact ⟨_, rfl⟩
    have hcopy : ∃ payload, amsduCopy (enoughMemory list.length) skb (o + ETH_HLEN) sf.len (reuseFrag skb)
        (32 + sf.meshLen) = some payload := by
      unfold amsduCopy
      rw [if_neg (by omega)]
      exact ⟨_, rfl⟩
    obtain ⟨payload, hcopy⟩ := hcopy
    rw [if_neg hfiltered, if_neg fun h => hgoes h.2, hcopy]
    dsimp only
    rw [if_neg hgoes]
    exact ⟨_, rfl⟩

/-! ## When the lengths are the sums -/

/-- **Both functions go by the sums**: they compute it wherever they look; a body is only accepted if its subframes by
    the sums are inside; and every frame is made of as many bytes as the sum says. -/
structure LengthsExact (skb : SkBuff) (meshHdr : Byte) (a : AmsduArgs) : Prop where
  valid : ∀ o, (validWalk skb).Looks (validLength skb meshHdr) o →
    validLength skb meshHdr o = validDeclared skb meshHdr o
  inside : isValidAmsdu skb meshHdr = some true → ∀ o, (validWalk skb).Boundary (validDeclared skb meshHdr) o →
    o < skb.len → o + 16 ≤ skb.len ∧ o + (ETH_HLEN + validDeclared skb meshHdr o) ≤ skb.len
  split : ∀ o, (splitWalk a skb).Looks (splitLength a skb) o → splitLength a skb o = splitDeclared a skb o
  frames : ∀ alloc frames reused, amsduTo8023s a alloc skb = some (frames, reused) → ∀ frame ∈ frames,
    ∃ o, (splitWalk a skb).Looks (splitDeclared a skb) o ∧ FrameAt a skb frame o (splitDeclared a skb o)

/-- **No wrap**: no sum needs more than 16 bits, up to the first subframe that is not inside. -/
def NoWrap (W : Walk) (declared : Nat → Nat) (hdrType : Byte) : Prop :=
  hdrType = 0 ∨ ∀ o, W.Looks declared o → declared o < 65536

theorem noWrap_iff (W : Walk) (computed declared : Nat → Nat) {hdrType : Byte}
    (h : ∀ o, computed o = declared o ↔ hdrType = 0 ∨ declared o < 65536) :
    (∀ o, W.Looks computed o → computed o = declared o) ↔ NoWrap W declared hdrType := by
  rw [agree_iff]
  constructor
  · intro hall
    by_cases hzero : hdrType = 0
    · exact .inl hzero
    · exact .inr fun o ho => ((h o).mp (hall o ho)).resolve_left hzero
  · rintro (hzero | hall) o ho
    · exact (h o).mpr (.inl hzero)
    · exact (h o).mpr (.inr (hall o ho))

/-- **The lengths are the sums exactly when no sum wraps.** -/
theorem lengths_exact_iff (skb : AmsduSkb) (meshHdr : Byte) (a : AmsduArgs) :
    LengthsExact skb.toSkBuff meshHdr a ↔
      NoWrap (validWalk skb.toSkBuff) (validDeclared skb.toSkBuff meshHdr) meshHdr ∧
        NoWrap (splitWalk a skb.toSkBuff) (splitDeclared a skb.toSkBuff) a.meshControl := by
  have hvalid := noWrap_iff (validWalk skb.toSkBuff) (validLength skb.toSkBuff meshHdr)
    (validDeclared skb.toSkBuff meshHdr) fun o => amsduSubframeLength_exact_iff _ _ meshHdr
  have hsplit := noWrap_iff (splitWalk a skb.toSkBuff) (splitLength a skb.toSkBuff)
    (splitDeclared a skb.toSkBuff) fun o => amsduSubframeLength_exact_iff _ _ a.meshControl
  constructor
  · intro h
    exact ⟨hvalid.mp h.valid, hsplit.mp h.split⟩
  · rintro ⟨hv, hs⟩
    have hv := hvalid.mpr hv
    have hs := hsplit.mpr hs
    refine ⟨hv, fun haccept o ho hlt => ?_, hs, fun alloc frames reused hrun frame hframe => ?_⟩
    · have ho := boundary_of_agree hv ho
      obtain ⟨fuel, hrun, -⟩ := isValidAmsdu_boundary skb.toSkBuff meshHdr ho hlt
      rw [haccept, isValidFrom_succ _ _ hlt] at hrun
      by_cases hinside : o + 16 ≤ skb.len ∧ o + (ETH_HLEN + validLength skb.toSkBuff meshHdr o) ≤ skb.len
      · rwa [hv o ⟨ho, hinside.1⟩] at hinside
      · rw [if_neg hinside] at hrun
        cases hrun
    · obtain ⟨o, ho, hframe⟩ := amsduLoop_frames (skb.len + 1) .start (Nat.zero_le _) (by intro _ hf; cases hf) hrun
        frame hframe
      refine ⟨o, ⟨boundary_of_agree' hs ho.1, ho.2⟩, ?_⟩
      rw [← hs o ho]
      exact hframe

/-- Sixteen bytes, with a length field of 0xfffa and mesh flags of 0. -/
def wrapSkb : SkBuff :=
  { head := [2, 0, 0, 0, 0, 1, 2, 0, 0, 0, 0, 2, 0xff, 0xfa, 0, 0]
    tailroom := []
    frags := []
    fragList := []
    headFrag := false
    dev := 0
    priority := 0 }

def meshArgs : AmsduArgs := { isMesh := true, checkDa := none, checkSa := none, meshControl := 1, stackFlags := 0 }

/-- **A subframe of 65550 bytes is found in 16 bytes**, and a frame is made of it. -/
theorem wrapped_subframe_accepted :
    wrapSkb.len = 16 ∧ validLength wrapSkb 1 0 = 0 ∧ validDeclared wrapSkb 1 0 = 65536 ∧
      isValidAmsdu wrapSkb 1 = some true ∧
      (amsduTo8023s meshArgs enoughMemory wrapSkb).map (fun r => r.1.map SkBuff.bytes) = some [wrapSkb.bytes] := by
  decide

end Wireless.Amsdu
