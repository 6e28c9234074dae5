import Wifi.Wireless.RadiotapRuns

/-!
# The present words of a radiotap header

* `headerWords` — the present words of a header that is accepted.
* `init_eq` — what `ieee80211_radiotap_iterator_init` returns, in these words, and what it reads.
* `start_at` — the iterator is at the first of them then.
* `holeWord` — the word in which the first field of the radiotap namespace without a size is present, before any vendor
  namespace.
-/

namespace Wireless.Radiotap

open ReadLog

variable {m : Mem} {maxLength pos : Nat} {w : BitVec 32} {ws : List (BitVec 32)}

/-! ## Words -/

/-- The word `w` and those that follow it from `pos` on, with a bound; none if one is not inside. -/
def extWords (m : Mem) (maxLength : Nat) : Nat → BitVec 32 → Nat → Option (List (BitVec 32))
  | 0, _, _ => none
  | fuel + 1, w, pos =>
    if w.getLsbD EXT then
      if pos + 4 ≤ maxLength then
        (extWords m maxLength fuel (getUnalignedLe32 m pos).value (pos + 4)).map (w :: ·)
      else none
    else some [w]

def itLen (m : Mem) : Nat := (getUnalignedLe16 m 2).value.toNat

def itPresent (m : Mem) : BitVec 32 := (getUnalignedLe32 m 4).value

/-- The present words of the header in a buffer of `maxLength` bytes. -/
def headerWords (m : Mem) (maxLength : Nat) : Option (List (BitVec 32)) :=
  if RADIOTAP_HEADER ≤ maxLength ∧ m 0 = 0 ∧ itLen m ≤ maxLength then
    extWords m (itLen m) (itLen m + 1) (itPresent m) 8
  else none

theorem itLen_lt (m : Mem) : itLen m < 65536 := BitVec.isLt _

theorem extWords_fuel {fuel : Nat} (extra : Nat) (h : maxLength < pos + 4 * fuel) (hfuel : 0 < fuel) :
    extWords m maxLength (fuel + extra) w pos = extWords m maxLength fuel w pos := by
  induction fuel generalizing w pos with
  | zero => exact absurd hfuel (Nat.lt_irrefl 0)
  | succ fuel ih =>
    rw [Nat.succ_add, extWords, extWords]
    by_cases hw : w.getLsbD EXT
    · rw [if_pos hw, if_pos hw]
      by_cases hin : pos + 4 ≤ maxLength
      · rw [if_pos hin, if_pos hin, ih (by omega) (by omega)]
      · rw [if_neg hin, if_neg hin]
    · rw [if_neg hw, if_neg hw]

theorem chain_extWords {fuel : Nat} (h : extWords m maxLength fuel w pos = some ws) :
    ∃ rest, ws = w :: rest ∧ Chain m maxLength w pos rest := by
  induction fuel generalizing w pos ws with
  | zero => cases h
  | succ fuel ih =>
    unfold extWords at h
    cases hw : w.getLsbD EXT with
    | false =>
      rw [if_neg (by rw [hw]; decide)] at h
      cases h
      exact ⟨[], rfl, .last hw⟩
    | true =>
      rw [if_pos hw] at h
      by_cases hin : pos + 4 ≤ maxLength
      · rw [if_pos hin] at h
        obtain ⟨rest, hrest, rfl⟩ := Option.map_eq_some_iff.mp h
        obtain ⟨_, rfl, hchain⟩ := ih hrest
        exact ⟨_, rfl, .ext hw hin hchain⟩
      · rw [if_neg hin] at h
        cases h

theorem Chain.length_le (h : Chain m maxLength w pos ws) : ws ≠ [] → pos + 4 * ws.length ≤ maxLength := by
  induction h with
  | last => exact fun hne => absurd rfl hne
  | @ext _ _ ws _ hin hc ih =>
    intro _
    cases ws with
    | nil => simpa using hin
    | cons =>
      have hrest := ih (by simp)
      simp only [List.length_cons] at hrest ⊢
      omega

/-! ## `ieee80211_radiotap_iterator_init` -/

theorem ptr_lt (p : Nat) : ptr p < 2 ^ 64 := Nat.mod_lt _ (by decide)

theorem ptr_of_lt {p : Nat} (h : p < 2 ^ 64) : ptr p = p := Nat.mod_eq_of_lt h

/-- The loop over the bitmaps finds the last word, and reads inside. -/
theorem findPayload_eq (hmax : maxLength < 65536) {fuel : Nat} {pos : Nat} (hin : pos + 4 ≤ maxLength) :
    (findPayload m maxLength fuel pos).value =
        (extWords m maxLength fuel (getUnalignedLe32 m pos).value (pos + 4)).map (fun ws => pos + 4 * (ws.length - 1)) ∧
      Within maxLength (findPayload m maxLength fuel pos) := by
  induction fuel generalizing pos with
  | zero => exact ⟨rfl, within_pure _⟩
  | succ fuel ih =>
    have hword : Within maxLength (getUnalignedLe32 m pos) := by
      intro a ha
      rw [touched_le32] at ha
      simp only [wordReads, List.mem_cons, List.not_mem_nil, or_false] at ha
      have hp : ∀ i < 4, ptr (pos + i) < maxLength := fun i hi => by rw [ptr_of_lt (by omega)]; omega
      rcases ha with rfl | rfl | rfl | rfl
      · exact hp 0 (by decide)
      · exact hp 1 (by decide)
      · exact hp 2 (by decide)
      · exact hp 3 (by decide)
    unfold findPayload extWords
    rw [value_bind, within_bind]
    have hnext : ptr (pos + 4) = pos + 4 := ptr_of_lt (by omega)
    have hend : ptr (ptr (pos + 4) + 4) = pos + 8 := by rw [hnext, ptr_of_lt (by omega)]
    rw [hend, hnext]
    by_cases hext : (getUnalignedLe32 m pos).value.getLsbD EXT
    · rw [if_pos hext, if_pos hext]
      by_cases hout : maxLength < pos + 8
      · rw [if_pos hout, if_neg (by omega)]
        exact ⟨rfl, hword, within_pure _⟩
      · rw [if_neg hout, if_pos (by omega)]
        obtain ⟨hvalue, hwithin⟩ := ih (show pos + 4 + 4 ≤ maxLength by omega)
        refine ⟨?_, hword, hwithin⟩
        rw [hvalue]
        cases hws : extWords m maxLength fuel (getUnalignedLe32 m (pos + 4)).value (pos + 4 + 4) with
        | none => rfl
        | some ws =>
          obtain ⟨rest, rfl, -⟩ := chain_extWords hws
          show some _ = some _
          simp only [List.length_cons, Nat.add_sub_cancel]
          congr 1
          omega
    · rw [if_neg hext, if_neg hext]
      exact ⟨rfl, hword, within_pure _⟩

/-- The iterator at the first field behind the words. -/
def Iterator.start (prior : Iterator) (m : Mem) (vns : List VendorNamespace) (ws : List (BitVec 32)) : Iterator :=
  { prior with
    maxLength := itLen m, argIndex := 0, bitmapShifter := itPresent m, arg := 8 + 4 * (ws.length - 1)
    thisArg := 8 + 4 * (ws.length - 1), resetOnExt := false, nextBitmap := 8, vns := vns
    currentNamespace := some .radiotap, nsDataSet := false, usedUnset := false }

def findFields (it : Iterator) (m : Mem) : ReadLog (Except Int Iterator) :=
  if it.bitmapShifter.getLsbD EXT then
    if it.maxLength < 12 then pure (.error negEINVAL)
    else do
      match ← findPayload m it.maxLength it.maxLength 8 with
      | none => pure (.error negEINVAL)
      | some arg => pure (.ok { it with arg := arg + 4, thisArg := arg + 4 })
  else pure (.ok { it with thisArg := 8 })

theorem findFields_eq (it : Iterator) (m : Mem) (hmax : it.maxLength < 65536) (harg : it.arg = 8) :
    (findFields it m).value =
        (match extWords m it.maxLength (it.maxLength + 1) it.bitmapShifter 8 with
          | none => .error negEINVAL
          | some ws => .ok { it with arg := 8 + 4 * (ws.length - 1), thisArg := 8 + 4 * (ws.length - 1) }) ∧
      Within it.maxLength (findFields it m) := by
  unfold findFields extWords
  by_cases hext : it.bitmapShifter.getLsbD EXT
  · rw [if_pos hext, if_pos hext]
    by_cases hshort : it.maxLength < 12
    · rw [if_pos hshort, if_neg (by omega)]
      exact ⟨rfl, within_pure _⟩
    · rw [if_neg hshort, if_pos (by omega), value_bind, within_bind]
      obtain ⟨hvalue, hwithin⟩ := findPayload_eq hmax (show 8 + 4 ≤ it.maxLength by omega)
      rw [hvalue]
      cases hws : extWords m it.maxLength it.maxLength (getUnalignedLe32 m 8).value (8 + 4) with
      | none => exact ⟨rfl, hwithin, within_pure _⟩
      | some ws =>
        obtain ⟨rest, rfl, -⟩ := chain_extWords hws
        have hpos : 8 + 4 * ((((getUnalignedLe32 m 8).value :: rest).length) - 1) + 4 =
            8 + 4 * ((it.bitmapShifter :: (getUnalignedLe32 m 8).value :: rest).length - 1) := by
          simp only [List.length_cons, Nat.add_sub_cancel]
          omega
        refine ⟨?_, hwithin, within_pure _⟩
        simp only [Option.map_some, value_pure, hpos]
  · rw [if_neg hext, if_neg hext]
    refine ⟨?_, within_pure _⟩
    rw [value_pure, ← harg]
    rfl

theorem fixed_lt {p : Nat} (hp : p ∈ [0, 2, 3, 4, 5, 6, 7]) (h : RADIOTAP_HEADER ≤ itLen m) : p < itLen m := by
  simp only [List.mem_cons, List.not_mem_nil, or_false] at hp
  simp only [RADIOTAP_HEADER] at h
  omega

def anyIterator : Iterator := ⟨[], none, 0, 0, 0, 0, 0, 0, 0, 0, 0, false, false, false⟩

theorem init_fixed (prior : Iterator) {m : Mem} {maxLength : Nat} (vns : List VendorNamespace)
    (hmax : RADIOTAP_HEADER ≤ maxLength) (hversion : m 0 = 0) (hlen : itLen m ≤ maxLength) :
    ieee80211RadiotapIteratorInit prior m maxLength vns = (do
      let _ ← byte m 0
      let _ ← getUnalignedLe16 m 2
      let _ ← getUnalignedLe32 m 4
      findFields { prior.start m vns [itPresent m] with thisArg := prior.thisArg } m) := by
  unfold ieee80211RadiotapIteratorInit
  have hversion' : ¬ (byte m 0).value ≠ 0 := not_not_intro hversion
  have hlen' : ¬ maxLength < (getUnalignedLe16 m 2).value.toNat := Nat.not_lt.mpr hlen
  rw [if_neg (Nat.not_lt.mpr hmax)]
  refine bind_congr_value _ ?_
  rw [if_neg hversion']
  refine bind_congr_value _ ?_
  rw [if_neg hlen']
  rfl

/-- **`ieee80211_radiotap_iterator_init`**: it accepts a header when its words are inside; it reads inside the header
    when there is room for the fixed part, and behind it otherwise. -/
theorem init_eq (prior : Iterator) (m : Mem) (maxLength : Nat) (vns : List VendorNamespace) :
    (ieee80211RadiotapIteratorInit prior m maxLength vns).value =
        (match headerWords m maxLength with
          | none => .error negEINVAL
          | some ws => .ok (prior.start m vns ws)) ∧
      (headerWords m maxLength ≠ none →
        (Within (itLen m) (ieee80211RadiotapIteratorInit prior m maxLength vns) ↔ RADIOTAP_HEADER ≤ itLen m)) := by
  by_cases hfixed : RADIOTAP_HEADER ≤ maxLength ∧ m 0 = 0 ∧ itLen m ≤ maxLength
  · obtain ⟨hmax, hversion, hlen⟩ := hfixed
    obtain ⟨hvalue, hwithin⟩ := findFields_eq { prior.start m vns [itPresent m] with thisArg := prior.thisArg } m
      (itLen_lt m) rfl
    rw [init_fixed prior vns hmax hversion hlen]
    unfold headerWords
    rw [if_pos ⟨hmax, hversion, hlen⟩]
    refine ⟨hvalue, fun _ => ?_⟩
    rw [within_bind, within_bind, within_bind]
    refine ⟨fun h => h.2.2.1 7 ((show 7 ∈ [4, 5, 6, 7] by decide)), fun h => ⟨fun a ha => ?_, fun a ha => ?_, fun a ha => ?_, hwithin⟩⟩
    · exact fixed_lt ((show [0] ⊆ [0, 2, 3, 4, 5, 6, 7] by decide) ha) h
    · exact fixed_lt ((show [2, 3] ⊆ [0, 2, 3, 4, 5, 6, 7] by decide) ha) h
    · exact fixed_lt ((show [4, 5, 6, 7] ⊆ [0, 2, 3, 4, 5, 6, 7] by decide) ha) h
  · unfold headerWords
    rw [if_neg hfixed]
    refine ⟨?_, fun h => absurd rfl h⟩
    unfold ieee80211RadiotapIteratorInit
    by_cases hmax : maxLength < RADIOTAP_HEADER
    · rw [if_pos hmax, value_pure]
    rw [if_neg hmax, value_bind]
    by_cases hversion : (byte m 0).value ≠ 0
    · rw [if_pos hversion, value_pure]
    rw [if_neg hversion, value_bind]
    by_cases hlen : maxLength < (getUnalignedLe16 m 2).value.toNat
    · rw [if_pos hlen, value_pure]
    · exact absurd ⟨Nat.le_of_not_lt hmax, not_not.mp hversion, Nat.le_of_not_lt hlen⟩ hfixed

/-- **An accepted header**: the iterator is at the first word. -/
theorem start_at {maxLength : Nat} (prior : Iterator) (vns : List VendorNamespace)
    (h : headerWords m maxLength = some ws) :
    ∃ rest, ws = itPresent m :: rest ∧ At m (prior.start m vns ws) (itPresent m) rest 0 ∧
      (RADIOTAP_HEADER ≤ itLen m → 8 + 4 * rest.length ≤ itLen m) ∧ (itLen m < RADIOTAP_HEADER → rest = []) := by
  unfold headerWords at h
  split at h
  case isFalse => cases h
  obtain ⟨rest, rfl, hchain⟩ := chain_extWords h
  have hle := hchain.length_le
  refine ⟨rest, rfl, ⟨by decide, ?_, rfl, hchain⟩, fun h8 => ?_, fun h8 => ?_⟩
  · show itPresent m = itPresent m >>> 0
    rw [BitVec.ushiftRight_zero]
  · cases rest with
    | nil => exact h8
    | cons => exact hle (by simp)
  · cases rest with
    | nil => rfl
    | cons =>
      have hin := hle (by simp)
      simp only [RADIOTAP_HEADER] at h8
      omega

/-! ## Fields without a size -/

/-- How the fields of a word in the radiotap namespace end: with one that has no size, with one that is unknown or that
    the header has no room for, or with the data behind them. -/
inductive WordEnd where
  | hole
  | ends
  | data (arg : Nat)

def padTo (arg align : Nat) : Nat :=
  let pad := arg &&& (align - 1)
  if pad ≠ 0 then ptr (arg + (align - pad)) else arg

/-- The last `n` of the 29 fields of the word `w`, the first of which has index `base`. -/
def scanWord (maxLength base : Nat) (w : BitVec 32) : Nat → Nat → WordEnd
  | 0, arg => .data arg
  | n + 1, arg =>
    if w.getLsbD (28 - n) = false then scanWord maxLength base w n arg
    else
      match rtapNamespaceSizes[base + (28 - n)]? with
      | none => .ends
      | some f =>
        if f.align = 0 then .hole
        else
          let arg := ptr (padTo arg f.align.toNat + f.size.toNat)
          if maxLength < arg then .ends else scanWord maxLength base w n arg

/-- The word of the list in which a field without a size comes first, before any vendor namespace. -/
def holeWord (maxLength : Nat) : List (BitVec 32) → Nat → Nat → Option (BitVec 32)
  | [], _, _ => none
  | w :: ws, base, arg =>
    match scanWord maxLength base w 29 arg with
    | .hole => some w
    | .ends => none
    | .data arg =>
      if w.getLsbD VENDOR_NAMESPACE then none
      else holeWord maxLength ws (if w.getLsbD RADIOTAP_NAMESPACE then 0 else base + 32) arg

/-- The same from bit `k` of the word `w` on. -/
def holeFrom (maxLength : Nat) (w : BitVec 32) (ws : List (BitVec 32)) (base k arg : Nat) : Option (BitVec 32) :=
  match scanWord maxLength base w (29 - k) arg with
  | .hole => some w
  | .ends => none
  | .data arg =>
    if w.getLsbD VENDOR_NAMESPACE then none
    else holeWord maxLength ws (if w.getLsbD RADIOTAP_NAMESPACE then 0 else base + 32) arg

theorem holeWord_cons (maxLength : Nat) (w : BitVec 32) (ws : List (BitVec 32)) (base arg : Nat) :
    holeWord maxLength (w :: ws) base arg = holeFrom maxLength w ws base 0 arg := rfl

variable {it : Iterator} {base k : Nat}

/-- The iterator has met no vendor namespace and no field without a size. -/
structure Fresh (m : Mem) (it : Iterator) (w : BitVec 32) (ws : List (BitVec 32)) (base k : Nat) : Prop
    extends At m it w ws k where
  radiotap : it.currentNamespace = some .radiotap
  unset : it.nsDataSet = false
  notUsed : it.usedUnset = false
  argIndex : it.argIndex = base + k
  reset : it.resetOnExt = (decide (29 < k) && w.getLsbD 29)
  noVendor : k = 31 → w.getLsbD 30 = false
  arg_lt : it.arg < 2 ^ 64
  inside : it.arg ≤ it.maxLength ∨ ws = []

/-- The field without a size that the iterator meets, if it goes on from here. -/
def Iterator.hole (it : Iterator) (w : BitVec 32) (ws : List (BitVec 32)) (base k : Nat) : Option (BitVec 32) :=
  holeFrom it.maxLength w ws base k it.arg

theorem scanWord_succ {maxLength arg : Nat} (hk : k < 29) (hbit : w.getLsbD k = true) :
    scanWord maxLength base w (29 - k) arg = (match rtapNamespaceSizes[base + k]? with
      | none => .ends
      | some f =>
        if f.align = 0 then .hole
        else if maxLength < ptr (padTo arg f.align.toNat + f.size.toNat) then .ends
        else scanWord maxLength base w (29 - (k + 1)) (ptr (padTo arg f.align.toNat + f.size.toNat))) := by
  obtain ⟨n, hn⟩ : ∃ n, 29 - k = n + 1 := ⟨28 - k, by omega⟩
  have hk' : 28 - n = k := by omega
  rw [hn, scanWord, hk', if_neg (by rw [hbit]; decide), show 29 - (k + 1) = n by omega]

theorem scanWord_absent {maxLength arg : Nat} (hbit : w.getLsbD k = false) :
    scanWord maxLength base w (29 - k) arg = scanWord maxLength base w (29 - (k + 1)) arg := by
  by_cases hk : k < 29
  · obtain ⟨n, hn⟩ : ∃ n, 29 - k = n + 1 := ⟨28 - k, by omega⟩
    have hk' : 28 - n = k := by omega
    rw [hn, scanWord, hk', if_pos hbit, show 29 - (k + 1) = n by omega]
  · rw [show 29 - k = 29 - (k + 1) by omega]

namespace Fresh

theorem arg_same (h : Fresh m it w ws base k) : ptr (it.padded 1 + 0) = it.arg := by
  rw [padded_one, Nat.add_zero, ptr_of_lt h.arg_lt]

theorem absent (h : Fresh m it w ws base k) (hk : k ≠ 31) (hbit : w.getLsbD k = false) :
    Fresh m it.nextEntry w ws base (k + 1) ∧ it.nextEntry.hole w ws base (k + 1) = it.hole w ws base k := by
  have hindex := h.argIndex
  refine ⟨⟨h.nextEntry hk ⟨rfl, rfl, rfl, rfl⟩, h.radiotap, h.unset, h.notUsed, ?_, ?_, ?_, h.arg_lt, h.inside⟩, ?_⟩
  · show it.argIndex + 1 = base + (k + 1)
    omega
  · refine h.reset.trans ?_
    by_cases h29 : k = 29
    · rw [← h29, hbit, Bool.and_false, Bool.and_false]
    · congr 1
      exact decide_eq_decide.mpr (by omega)
  · intro h31
    rw [show (30 : Nat) = k by omega, hbit]
  · unfold Iterator.hole holeFrom
    rw [scanWord_absent hbit]
    rfl

theorem field {f : AlignSize} (h : Fresh m it w ws base k) (hk : k < 29) (hbit : w.getLsbD k = true)
    (hsize : rtapNamespaceSizes[it.argIndex]? = some f) (halign : f.align ≠ 0)
    (hin : ptr (it.padded f.align.toNat + f.size.toNat) ≤ it.maxLength) :
    Fresh m (it.behindField f) w ws base (k + 1) ∧ (it.behindField f).hole w ws base (k + 1) = it.hole w ws base k := by
  have hindex := h.argIndex
  refine ⟨⟨At.nextEntry h.toAt (by omega) ⟨rfl, rfl, rfl, rfl⟩, h.radiotap, h.unset, h.notUsed,
    ?_, ?_, ?_, ptr_lt _, .inl hin⟩, ?_⟩
  · show it.argIndex + 1 = base + (k + 1)
    omega
  · refine h.reset.trans ?_
    congr 1
    exact decide_eq_decide.mpr (by omega)
  · intro h31
    omega
  · rw [hindex] at hsize
    unfold Iterator.hole holeFrom
    rw [scanWord_succ hk hbit, hsize]
    dsimp only
    rw [if_neg halign, if_neg (show ¬ it.maxLength < ptr (padTo it.arg f.align.toNat + f.size.toNat) from Nat.not_lt.mpr hin)]
    rfl

theorem change (h : Fresh m it w ws base k) (hk : k = 29) (hbit : w.getLsbD k = true) :
    Fresh m it.behindNamespace w ws base (k + 1) ∧ it.behindNamespace.hole w ws base (k + 1) = it.hole w ws base k := by
  have hindex := h.argIndex
  refine ⟨⟨At.nextEntry h.toAt (by omega)
   
    ⟨rfl, rfl, rfl, rfl⟩, rfl, h.unset, h.notUsed, ?_, ?_, ?_, ptr_lt _, ?_⟩, ?_⟩
  · show it.argIndex + 1 = base + (k + 1)
    omega
  · show true = _
    subst hk
    rw [hbit]
    rfl
  · intro h31
    omega
  · show ptr (it.padded 1 + 0) ≤ it.maxLength ∨ ws = []
    rw [h.arg_same]
    exact h.inside
  · unfold Iterator.hole
    rw [show it.behindNamespace.arg = it.arg from h.arg_same, hk]
    rfl

theorem ext {word : BitVec 32} {ws' : List (BitVec 32)} (h : Fresh m it w ws base k) (hk : k = 31)
    (hws : ws = word :: ws') (hat : At m (it.atWord word) word ws' 0) :
    Fresh m (it.atWord word) word ws' (if w.getLsbD RADIOTAP_NAMESPACE then 0 else base + 32) 0 ∧
      (it.atWord word).hole word ws' (if w.getLsbD RADIOTAP_NAMESPACE then 0 else base + 32) 0 = it.hole w ws base k := by
  have hindex := h.argIndex
  have hreset := h.reset
  refine ⟨⟨hat, h.radiotap, h.unset, h.notUsed, ?_, ?_, ?_, ptr_lt _, ?_⟩, ?_⟩
  · show (if it.resetOnExt then 0 else it.argIndex + 1) = (if w.getLsbD 29 then 0 else base + 32) + 0
    rw [hreset, hk, show decide (29 < 31) = true by decide, Bool.true_and, hindex, hk]
    rfl
  · rfl
  · intro h31
    cases h31
  · show ptr (it.padded 1 + 0) ≤ it.maxLength ∨ ws' = []
    rw [h.arg_same]
    exact .inl (h.inside.resolve_right (by rw [hws]; simp))
  · have hnoVendor := h.noVendor hk
    unfold Iterator.hole
    rw [show (it.atWord word).arg = it.arg from h.arg_same, ← holeWord_cons, hws, hk]
    unfold holeFrom
    simp only [hnoVendor]
    rfl

theorem hole_field (h : Fresh m it w ws base k) (hk : k < 29) (hbit : w.getLsbD k = true) :
    it.hole w ws base k = (match rtapNamespaceSizes[it.argIndex]? with
      | none => none
      | some f =>
        if f.align = 0 then some w
        else if it.maxLength < ptr (it.padded f.align.toNat + f.size.toNat) then none
        else (it.behindField f).hole w ws base (k + 1)) := by
  rw [h.argIndex]
  unfold Iterator.hole holeFrom
  rw [scanWord_succ hk hbit]
  cases rtapNamespaceSizes[base + k]? with
  | none => rfl
  | some f =>
    dsimp only
    by_cases halign : f.align = 0
    · rw [if_pos halign, if_pos halign]
    rw [if_neg halign, if_neg halign]
    by_cases hout : it.maxLength < ptr (it.padded f.align.toNat + f.size.toNat)
    · rw [if_pos hout, if_pos (show it.maxLength < ptr (padTo it.arg f.align.toNat + f.size.toNat) from hout)]
    · rw [if_neg hout, if_neg (show ¬ it.maxLength < ptr (padTo it.arg f.align.toNat + f.size.toNat) from hout)]
      rfl

theorem hole_vendor (hk : k = 30) (hbit : w.getLsbD k = true) : it.hole w ws base k = none := by
  subst hk
  unfold Iterator.hole holeFrom
  simp only [hbit]
  rfl

theorem hole_nil (hk : 29 ≤ k) : it.hole w [] base k = none := by
  unfold Iterator.hole holeFrom
  rw [Nat.sub_eq_zero_of_le hk]
  dsimp only [scanWord, holeWord]
  split <;> rfl

/-- **One round of a fresh iterator**: it ends, or goes on to be fresh, or it comes to a field without a size, or to a
    vendor namespace. -/
theorem step {r : ReadLog Round} (h : Fresh m it w ws base k) (hs : StepOf m it w ws k r) :
    (∃ code, r.value = .ret code) ∧ it.hole w ws base k = none ∨
      ∃ it', (r.value = .hit it' ∨ r.value = .more it') ∧
        ((∃ w' ws' base' k', Fresh m it' w' ws' base' k' ∧ it'.hole w' ws' base' k' = it.hole w ws base k ∧
            it'.maxLength = it.maxLength ∧ it'.nextNsData = it.nextNsData) ∨
          k < 29 ∧ it' = it.skipNamespace.nextEntry ∧ it.hole w ws base k = some w ∨
          (∃ ns vnslen, it' = it.behindVendor ns vnslen) ∧ it.hole w ws base k = none) := by
  cases hs with
  | absent hk hbit =>
    obtain ⟨hfresh, hhole⟩ := h.absent hk hbit
    exact .inr ⟨_, .inr rfl, .inl ⟨_, _, _, _, hfresh, hhole, rfl, rfl⟩⟩
  | finished hk hbit =>
    have hchain := h.chain
    refine .inl ⟨⟨_, rfl⟩, ?_⟩
    cases hchain with
    | last => exact hole_nil (by omega)
    | ext hw =>
      rw [hk] at hbit
      exact absurd hw (by rw [hbit]; decide)
  | unknown hk hbit _ hsize =>
    refine .inl ⟨⟨_, rfl⟩, ?_⟩
    rw [h.hole_field hk hbit, hsize]
  | skip hk hbit hns =>
    obtain ⟨f, hsize, halign⟩ := hns h.radiotap
    refine .inr ⟨_, .inr rfl, .inr (.inl ⟨hk, rfl, ?_⟩)⟩
    rw [h.hole_field hk hbit, hsize]
    exact if_pos halign
  | @field ns f hk hbit hns hsize halign hin =>
    obtain rfl : Namespace.radiotap = ns := Option.some.inj (h.radiotap.symm.trans hns)
    obtain ⟨hfresh, hhole⟩ := h.field hk hbit hsize halign hin
    exact .inr ⟨_, .inl rfl, .inl ⟨_, _, _, _, hfresh, hhole, rfl, rfl⟩⟩
  | @fieldOut ns f hk hbit hns hsize halign hout =>
    obtain rfl : Namespace.radiotap = ns := Option.some.inj (h.radiotap.symm.trans hns)
    refine .inl ⟨⟨_, rfl⟩, ?_⟩
    rw [h.hole_field hk hbit, show rtapNamespaceSizes[it.argIndex]? = some f from hsize]
    dsimp only
    rw [if_neg halign, if_pos hout]
  | radiotap hk hbit =>
    obtain ⟨hfresh, hhole⟩ := h.change hk hbit
    exact .inr ⟨_, .inr rfl, .inl ⟨_, _, _, _, hfresh, hhole, rfl, rfl⟩⟩
  | @vendor hk hbit _ ns vnslen =>
    exact .inr ⟨it.behindVendor ns vnslen, vendor_goes_on ns _, .inr (.inr ⟨⟨ns, vnslen, rfl⟩, hole_vendor hk hbit⟩)⟩
  | vendorOut hk hbit => exact .inl ⟨⟨_, rfl⟩, hole_vendor hk hbit⟩
  | vendorFar hk hbit => exact .inl ⟨⟨_, rfl⟩, hole_vendor hk hbit⟩
  | ext hk _ _ hws _ hat =>
    obtain ⟨hfresh, hhole⟩ := h.ext hk hws hat
    exact .inr ⟨_, .inr rfl, .inl ⟨_, _, _, _, hfresh, hhole, rfl, rfl⟩⟩
  | out hk _ hout =>
    rw [ptr_of_lt h.arg_lt] at hout
    obtain rfl := h.inside.resolve_left (by omega)
    exact .inl ⟨⟨_, rfl⟩, hole_nil (by omega)⟩

end Fresh

/-- **The iterator of an accepted header is fresh.** -/
theorem start_fresh {maxLength : Nat} (prior : Iterator) (vns : List VendorNamespace)
    (h : headerWords m maxLength = some ws) :
    ∃ rest, ws = itPresent m :: rest ∧ Fresh m (prior.start m vns ws) (itPresent m) rest 0 0 := by
  obtain ⟨rest, rfl, hat, hlong, hshort⟩ := start_at prior vns h
  have hmax := itLen_lt m
  have harg : (prior.start m vns (itPresent m :: rest)).arg = 8 + 4 * rest.length := rfl
  refine ⟨rest, rfl, hat, rfl, rfl, rfl, rfl, rfl, nofun, ?_, ?_⟩
  · rw [harg]
    by_cases h8 : RADIOTAP_HEADER ≤ itLen m
    · have := hlong h8
      omega
    · rw [hshort (Nat.lt_of_not_le h8)]
      decide
  · by_cases h8 : RADIOTAP_HEADER ≤ itLen m
    · exact .inl (hlong h8)
    · exact .inr (hshort (Nat.lt_of_not_le h8))

end Wireless.Radiotap
