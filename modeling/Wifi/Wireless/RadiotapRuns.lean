import Wifi.Wireless.Radiotap

/-!
# Runs of the radiotap iterator

* `Run` — the rounds of the iterator, over all calls; `run_iterate` takes a run to the calls.
* `Chain` — a present word and the words that follow it in the header.
* `At` — where the iterator is in these words; `StepOf` — what a round can do there, and `round_step`.
* `run_exists` — the iteration ends; `Ends` is said of the calls, and determines what they return.
-/

namespace Wireless.Radiotap

open ReadLog

variable {m : Mem} {it it' last : Iterator} {args : List Arg} {t : List Nat} {code : Int} {k : Nat} {w : BitVec 32}
  {ws : List (BitVec 32)}

/-! ## Rounds and calls -/

/-- The rounds from a state of the iterator on: the fields that are returned, what is read, what is returned at last,
    and the iterator then. -/
inductive Run (m : Mem) : Iterator → List Arg → List Nat → Int → Iterator → Prop where
  | ret {it : Iterator} {code : Int} {t : List Nat} (h : it.round m = ⟨.ret code, t⟩)
      (hcode : code ≠ 0) : Run m it [] t code it
  | hit {it it' last : Iterator} {args : List Arg} {code : Int} {t t' : List Nat} (h : it.round m = ⟨.hit it', t⟩)
      (r : Run m it' args t' code last) : Run m it (it'.thisField :: args) (t ++ t') code last
  | more {it it' last : Iterator} {args : List Arg} {code : Int} {t t' : List Nat} (h : it.round m = ⟨.more it', t⟩)
      (r : Run m it' args t' code last) : Run m it args (t ++ t') code last

/-- The iteration when the current call has `n` rounds left. -/
def resume (m : Mem) (rounds calls n : Nat) (it : Iterator) : ReadLog (Option (List Arg × Int × Iterator)) := do
  match ← ieee80211RadiotapIteratorNext m n it with
  | none => pure none
  | some (code, it) =>
    if code ≠ 0 then pure (some ([], code, it))
    else do
      match ← iterate m rounds calls it with
      | none => pure none
      | some (args, code, last) => pure (some (it.thisField :: args, code, last))

theorem iterate_succ (m : Mem) (rounds calls : Nat) (it : Iterator) :
    iterate m rounds (calls + 1) it = resume m rounds calls rounds it := rfl

/-- **The calls do what the rounds do**, with enough of them allowed. -/
theorem run_iterate (r : Run m it args t code last) : code ≠ 0 ∧ ∃ n, ∀ rounds calls, n ≤ rounds → n ≤ calls →
    iterate m rounds calls it = ⟨some (args, code, last), t⟩ := by
  have hresume : code ≠ 0 ∧ ∃ n, ∀ rounds calls left, n ≤ rounds → n ≤ calls → n ≤ left →
      resume m rounds calls left it = ⟨some (args, code, last), t⟩ := by
    induction r with
    | @ret it code t h hcode =>
      refine ⟨hcode, 1, fun rounds calls left _ _ hleft => ?_⟩
      obtain ⟨left, rfl⟩ := Nat.exists_eq_succ_of_ne_zero (Nat.ne_of_gt hleft)
      unfold resume
      rw [ieee80211RadiotapIteratorNext, h, mk_bind, mk_bind]
      dsimp only [mk_pure]
      rw [if_pos hcode]
      dsimp only
      rw [List.append_nil, List.append_nil]
    | @hit it it' last args code t t' h _ ih =>
      obtain ⟨hcode, n, ih⟩ := ih
      refine ⟨hcode, n + 1, fun rounds calls left hrounds hcalls hleft => ?_⟩
      obtain ⟨left, rfl⟩ := Nat.exists_eq_succ_of_ne_zero (Nat.ne_of_gt (Nat.lt_of_lt_of_le (Nat.succ_pos n) hleft))
      obtain ⟨calls, rfl⟩ := Nat.exists_eq_succ_of_ne_zero (Nat.ne_of_gt (Nat.lt_of_lt_of_le (Nat.succ_pos n) hcalls))
      have hrest := ih rounds calls rounds (by omega) (by omega) (by omega)
      unfold resume
      rw [ieee80211RadiotapIteratorNext, h, mk_bind, mk_bind]
      dsimp only [mk_pure]
      rw [if_neg (by decide), Nat.succ_eq_add_one, iterate_succ, hrest, mk_bind]
      dsimp only
      rw [List.append_nil, List.append_nil]
    | @more it it' last args code t t' h _ ih =>
      obtain ⟨hcode, n, ih⟩ := ih
      refine ⟨hcode, n + 1, fun rounds calls left hrounds hcalls hleft => ?_⟩
      obtain ⟨left, rfl⟩ := Nat.exists_eq_succ_of_ne_zero (Nat.ne_of_gt (Nat.lt_of_lt_of_le (Nat.succ_pos n) hleft))
      have hrest := ih rounds calls left (by omega) (by omega) (by omega)
      unfold resume at hrest ⊢
      rw [ieee80211RadiotapIteratorNext, h, bind_bind, mk_bind]
      dsimp only
      rw [hrest]
  obtain ⟨hcode, n, hresume⟩ := hresume
  refine ⟨hcode, n + 1, fun rounds calls hrounds hcalls => ?_⟩
  obtain ⟨calls, rfl⟩ := Nat.exists_eq_succ_of_ne_zero (Nat.ne_of_gt (Nat.lt_of_lt_of_le (Nat.succ_pos n) hcalls))
  rw [iterate_succ]
  exact hresume rounds calls rounds (by omega) (by omega) (by omega)

/-! ## Present words -/

/-- The word `w` is followed by the words `ws` in the header, from `pos` on. -/
inductive Chain (m : Mem) (maxLength : Nat) : BitVec 32 → Nat → List (BitVec 32) → Prop where
  | last {w : BitVec 32} {pos : Nat} (h : w.getLsbD EXT = false) : Chain m maxLength w pos []
  | ext {w : BitVec 32} {pos : Nat} {ws : List (BitVec 32)} (h : w.getLsbD EXT = true) (hin : pos + 4 ≤ maxLength)
      (hc : Chain m maxLength (getUnalignedLe32 m pos).value (pos + 4) ws) :
      Chain m maxLength w pos ((getUnalignedLe32 m pos).value :: ws)

/-- The iterator is at bit `k` of the word `w`, which `ws` follow. -/
structure At (m : Mem) (it : Iterator) (w : BitVec 32) (ws : List (BitVec 32)) (k : Nat) : Prop where
  lt : k < 32
  shifter : it.bitmapShifter = w >>> k
  index : it.argIndex % 32 = k
  chain : Chain m it.maxLength w it.nextBitmap ws

/-- The rest of the iteration: bits of this word and of those that follow. -/
def bitsLeft (ws : List (BitVec 32)) (k : Nat) : Nat := 32 * ws.length + (32 - k)

structure SamePlace (it it' : Iterator) : Prop where
  shifter : it'.bitmapShifter = it.bitmapShifter
  index : it'.argIndex = it.argIndex
  nextBitmap : it'.nextBitmap = it.nextBitmap
  maxLength : it'.maxLength = it.maxLength

theorem At.bit (h : At m it w ws k) : it.bitmapShifter.getLsbD 0 = w.getLsbD k := by
  rw [h.shifter, BitVec.getLsbD_ushiftRight, Nat.add_zero]

theorem At.nextEntry (h : At m it w ws k) (hk : k ≠ 31) (hs : SamePlace it it') : At m it'.nextEntry w ws (k + 1) := by
  have hlt := h.lt
  have hindex := h.index
  refine ⟨by omega, ?_, ?_, ?_⟩
  · show it'.bitmapShifter >>> 1 = w >>> (k + 1)
    rw [hs.shifter, h.shifter, BitVec.shiftRight_add]
  · show (it'.argIndex + 1) % 32 = k + 1
    rw [hs.index]
    omega
  · show Chain m it'.maxLength w it'.nextBitmap ws
    rw [hs.maxLength, hs.nextBitmap]
    exact h.chain

/-! ## One round -/

/-- The addresses of the vendor namespace's header. -/
def vendorReads (arg : Nat) : List Nat :=
  [ptr arg, ptr (arg + 1), ptr (arg + 2), ptr (arg + 3), ptr (arg + 4), ptr (arg + 4 + 1)]

def wordReads (pos : Nat) : List Nat := [ptr pos, ptr (pos + 1), ptr (pos + 2), ptr (pos + 2 + 1)]

def Iterator.behindField (it : Iterator) (f : AlignSize) : Iterator :=
  (it.setThis (it.padded f.align.toNat) f.size.toNat).nextEntry

/-- The iterator behind a change to the radiotap namespace. -/
def Iterator.behindNamespace (it : Iterator) : Iterator :=
  { it.setThis (it.padded 1) 0 with resetOnExt := true, currentNamespace := some .radiotap }.nextEntry

/-- The iterator behind the header of a vendor namespace. -/
def Iterator.behindVendor (it : Iterator) (ns : Option Namespace) (vnslen : Nat) : Iterator :=
  { ({ it with currentNamespace := ns, nextNsData := ptr (it.padded 2 + 6 + vnslen), nsDataSet := true } :
      Iterator).setThis (it.padded 2) (if ns.isNone then 6 + vnslen else 6) with
    resetOnExt := true, thisArgIndex := VENDOR_NAMESPACE }.nextEntry

def Iterator.atWord (it : Iterator) (word : BitVec 32) : Iterator :=
  { it.setThis (it.padded 1) 0 with
    bitmapShifter := word, nextBitmap := it.nextBitmap + 4
    argIndex := if it.resetOnExt then 0 else it.argIndex + 1, resetOnExt := false }

/-- **What a round can do** at bit `k` of the word `w`. -/
inductive StepOf (m : Mem) (it : Iterator) (w : BitVec 32) (ws : List (BitVec 32)) (k : Nat) :
    ReadLog Round → Prop where
  /-- the field is not present -/
  | absent (hk : k ≠ 31) (hbit : w.getLsbD k = false) : StepOf m it w ws k ⟨.more it.nextEntry, []⟩
  /-- there is no other word -/
  | finished (hk : k = 31) (hbit : w.getLsbD k = false) : StepOf m it w ws k ⟨.ret negENOENT, []⟩
  /-- the radiotap namespace has no such field -/
  | unknown (hk : k < 29) (hbit : w.getLsbD k = true) (hns : it.currentNamespace = some .radiotap)
      (hsize : rtapNamespaceSizes[it.argIndex]? = none) : StepOf m it w ws k ⟨.ret negENOENT, []⟩
  /-- a field of unknown size -/
  | skip (hk : k < 29) (hbit : w.getLsbD k = true)
      (hns : it.currentNamespace = some .radiotap → ∃ f, rtapNamespaceSizes[it.argIndex]? = some f ∧ f.align = 0) :
      StepOf m it w ws k ⟨.more it.skipNamespace.nextEntry, []⟩
  | field {ns : Namespace} {f : AlignSize} (hk : k < 29) (hbit : w.getLsbD k = true)
      (hns : it.currentNamespace = some ns) (hsize : ns.alignSize[it.argIndex]? = some f) (halign : f.align ≠ 0)
      (hin : ptr (it.padded f.align.toNat + f.size.toNat) ≤ it.maxLength) :
      StepOf m it w ws k ⟨.hit (it.behindField f), []⟩
  | fieldOut {ns : Namespace} {f : AlignSize} (hk : k < 29) (hbit : w.getLsbD k = true)
      (hns : it.currentNamespace = some ns) (hsize : ns.alignSize[it.argIndex]? = some f) (halign : f.align ≠ 0)
      (hout : it.maxLength < ptr (it.padded f.align.toNat + f.size.toNat)) :
      StepOf m it w ws k ⟨.ret negEINVAL, []⟩
  | radiotap (hk : k = 29) (hbit : w.getLsbD k = true) (hin : ptr it.arg ≤ it.maxLength) :
      StepOf m it w ws k ⟨.more it.behindNamespace, []⟩
  | vendor (hk : k = 30) (hbit : w.getLsbD k = true) (hin : ptr (it.padded 2 + 6) ≤ it.maxLength)
      (ns : Option Namespace) {vnslen : Nat} (hlen : vnslen < 65536)
      (hin' : ptr (it.padded 2 + if ns.isNone then 6 + vnslen else 6) ≤ it.maxLength) :
      StepOf m it w ws k
        ⟨if ns.isNone then .hit (it.behindVendor ns vnslen) else .more (it.behindVendor ns vnslen),
          vendorReads (it.padded 2)⟩
  | vendorOut (hk : k = 30) (hbit : w.getLsbD k = true) (hin : ptr (it.padded 2 + 6) ≤ it.maxLength) :
      StepOf m it w ws k ⟨.ret negEINVAL, vendorReads (it.padded 2)⟩
  | ext {word : BitVec 32} {ws' : List (BitVec 32)} (hk : k = 31) (hbit : w.getLsbD k = true)
      (hin : ptr it.arg ≤ it.maxLength) (hws : ws = word :: ws') (hword : it.nextBitmap + 4 ≤ it.maxLength)
      (hat : At m (it.atWord word) word ws' 0) :
      StepOf m it w ws k ⟨.more (it.atWord word), wordReads it.nextBitmap⟩
  /-- a change of the namespace, or the next word, when the data is left already -/
  | out (hk : k = 29 ∨ k = 31) (hbit : w.getLsbD k = true) (hout : it.maxLength < ptr it.arg) :
      StepOf m it w ws k ⟨.ret negEINVAL, []⟩
  | vendorFar (hk : k = 30) (hbit : w.getLsbD k = true) (hout : it.maxLength < ptr (it.padded 2 + 6)) :
      StepOf m it w ws k ⟨.ret negEINVAL, []⟩

theorem padded_one (it : Iterator) : it.padded 1 = it.arg := by
  unfold Iterator.padded
  dsimp only
  rw [Nat.sub_self, Nat.and_zero, if_neg (fun h => h rfl)]

theorem visit_eq (it : Iterator) (align size : Nat) (hk : it.argIndex % 32 < 29) :
    it.visit m align size = if it.maxLength < ptr (it.padded align + size) then ⟨.ret negEINVAL, []⟩
      else ⟨.hit (it.setThis (it.padded align) size).nextEntry, []⟩ := by
  unfold Iterator.visit
  dsimp only
  have h29 : ¬ (it.setThis (it.padded align) size).argIndex % 32 = RADIOTAP_NAMESPACE := by
    show ¬ it.argIndex % 32 = 29
    omega
  have h31 : ¬ (it.setThis (it.padded align) size).argIndex % 32 = EXT := by
    show ¬ it.argIndex % 32 = 31
    omega
  rw [if_neg h29, if_neg h31]
  rfl

theorem byte_eq (a : Nat) : byte m a = ⟨m a, [a]⟩ := rfl

theorem touched_le32 (p : Nat) : (getUnalignedLe32 m p).touched = wordReads p := rfl

theorem round_special (h : At m it w ws k) (hk : k = 29 ∨ k = 31) (hbit : w.getLsbD k = true) :
    StepOf m it w ws k (it.visit m 1 0) := by
  have hindex := h.index
  unfold Iterator.visit
  dsimp only
  by_cases hout : it.maxLength < ptr it.arg
  · have hout' : (it.setThis (it.padded 1) 0).maxLength < (it.setThis (it.padded 1) 0).arg := by
      show it.maxLength < ptr (it.padded 1 + 0)
      rwa [padded_one]
    rw [if_pos hout']
    exact .out hk hbit hout
  · have hin : ¬ (it.setThis (it.padded 1) 0).maxLength < (it.setThis (it.padded 1) 0).arg := by
      show ¬ it.maxLength < ptr (it.padded 1 + 0)
      rwa [padded_one]
    rw [if_neg hin]
    obtain hk | hk := hk
    · rw [if_pos (show (it.setThis (it.padded 1) 0).argIndex % 32 = RADIOTAP_NAMESPACE from hindex.trans hk)]
      exact .radiotap hk hbit (by omega)
    · have h29 : ¬ (it.setThis (it.padded 1) 0).argIndex % 32 = RADIOTAP_NAMESPACE := by
        show ¬ it.argIndex % 32 = 29
        omega
      have hchain := h.chain
      rw [hk] at hbit
      rw [if_neg h29, if_pos (show (it.setThis (it.padded 1) 0).argIndex % 32 = EXT from hindex.trans hk)]
      cases hchain with
      | last hlast => exact absurd hbit (by rw [hlast]; decide)
      | @ext _ _ ws' _ hword hc =>
        refine .ext hk (hk ▸ hbit) (by omega) rfl hword ⟨by decide, ?_, ?_, hc⟩
        · show (getUnalignedLe32 m it.nextBitmap).value = _
          rw [BitVec.ushiftRight_zero]
          rfl
        · show (if it.resetOnExt then 0 else it.argIndex + 1) % 32 = 0
          split
          · rfl
          · omega

/-- What `find_ns` finds for the header at `arg`. -/
def vendorNs (m : Mem) (vns : List VendorNamespace) (arg : Nat) : Option Namespace :=
  let oui := ((m (ptr arg)).setWidth 32 <<< 16) ||| ((m (ptr (arg + 1))).setWidth 32 <<< 8) |||
    (m (ptr (arg + 2))).setWidth 32
  (vns.find? fun ns => decide (ns.oui = oui ∧ ns.subns = m (ptr (arg + 3)))).map .vendor

/-- The length of the data behind the header at `arg`. -/
def vnslen (m : Mem) (arg : Nat) : Nat := (getUnalignedLe16 m (arg + 4)).value.toNat

/-- The end of the round behind the header of a vendor namespace. -/
def Iterator.vendorEnd (it : Iterator) (ns : Option Namespace) (vnslen : Nat) : Round :=
  if it.maxLength < ptr (it.padded 2 + if ns.isNone then 6 + vnslen else 6) then .ret negEINVAL
  else if ns.isNone then .hit (it.behindVendor ns vnslen)
  else .more (it.behindVendor ns vnslen)

theorem visitVendor_eq (m : Mem) (it : Iterator) : it.visitVendor m =
    if it.maxLength < ptr (it.padded 2 + 6) then ⟨.ret negEINVAL, []⟩
    else ⟨it.vendorEnd (vendorNs m it.vns (it.padded 2)) (vnslen m (it.padded 2)), vendorReads (it.padded 2)⟩ := by
  unfold Iterator.visitVendor
  dsimp only
  by_cases hout : it.maxLength < ptr (it.padded 2 + 6)
  · rw [if_pos hout, if_pos hout]
    rfl
  · rw [if_neg hout, if_neg hout]
    simp only [byte_eq, getUnalignedLe16, mk_bind, mk_pure, ite_mk]
    rfl

theorem round_vendor (hk : k = 30) (hbit : w.getLsbD k = true) : StepOf m it w ws k (it.visitVendor m) := by
  rw [visitVendor_eq]
  by_cases hout : it.maxLength < ptr (it.padded 2 + 6)
  · rw [if_pos hout]
    exact .vendorFar hk hbit hout
  rw [if_neg hout]
  unfold Iterator.vendorEnd
  have hin : ptr (it.padded 2 + 6) ≤ it.maxLength := Nat.le_of_not_lt hout
  generalize vendorNs m it.vns (it.padded 2) = ns
  have hlen : vnslen m (it.padded 2) < 65536 := BitVec.isLt _
  generalize vnslen m (it.padded 2) = vnslen at hlen
  by_cases hout' : it.maxLength < ptr (it.padded 2 + if ns.isNone then 6 + vnslen else 6)
  · rw [if_pos hout']
    exact .vendorOut hk hbit hin
  · rw [if_neg hout']
    exact .vendor hk hbit hin ns hlen (Nat.le_of_not_lt hout')

/-- **Every round does one of these things.** -/
theorem round_step (h : At m it w ws k) : StepOf m it w ws k (it.round m) := by
  have hlt := h.lt
  have hindex := h.index
  unfold Iterator.round
  rw [h.bit]
  cases hbit : w.getLsbD k with
  | false =>
    by_cases hk : k = 31
    · rw [if_pos ⟨hindex.trans hk, rfl⟩]
      exact .finished hk hbit
    · rw [if_neg fun hend => hk (hindex.symm.trans hend.1), if_pos rfl]
      exact .absent hk hbit
  | true =>
    rw [if_neg fun hend => (nomatch hend.2), if_neg (by decide), hindex]
    by_cases hspecial : k = RADIOTAP_NAMESPACE ∨ k = EXT
    · rw [if_pos hspecial]
      exact round_special h hspecial hbit
    rw [if_neg hspecial]
    by_cases hvendor : k = VENDOR_NAMESPACE
    · rw [if_pos hvendor]
      exact round_vendor hvendor hbit
    rw [if_neg hvendor]
    have hk : k < 29 := by
      simp only [RADIOTAP_NAMESPACE, VENDOR_NAMESPACE, EXT] at hspecial hvendor
      omega
    cases hns : it.currentNamespace with
    | none => exact .skip hk hbit fun hr => by rw [hns] at hr; cases hr
    | some ns =>
      dsimp only
      cases hsize : ns.alignSize[it.argIndex]? with
      | none =>
        cases ns with
        | radiotap => exact .unknown hk hbit hns hsize
        | vendor ns => exact .skip hk hbit fun hr => by rw [hns] at hr; cases hr
      | some f =>
        dsimp only
        by_cases halign : f.align = 0
        · rw [if_pos halign]
          refine .skip hk hbit fun hr => ?_
          rw [hns] at hr
          cases hr
          exact ⟨f, hsize, halign⟩
        · rw [if_neg halign, visit_eq it _ _ (by omega)]
          by_cases hout : it.maxLength < ptr (it.padded f.align.toNat + f.size.toNat)
          · rw [if_pos hout]
            exact .fieldOut hk hbit hns hsize halign hout
          · rw [if_neg hout]
            exact .field hk hbit hns hsize halign (by omega)

/-! ## The iteration ends -/

theorem round_unique {v : Round} {it'' : Iterator} (hv : v = .hit it' ∨ v = .more it')
    (hv' : v = .hit it'' ∨ v = .more it'') : it' = it'' := by
  obtain rfl | rfl := hv <;> obtain hv' | hv' := hv' <;> cases hv' <;> rfl

theorem vendor_goes_on (ns : Option Namespace) (it : Iterator) :
    (if ns.isNone then Round.hit it else .more it) = .hit it ∨ (if ns.isNone then Round.hit it else .more it) = .more it := by
  cases ns.isNone with
  | true => exact .inl rfl
  | false => exact .inr rfl

/-- Each field that has a size, or has not, leaves the iterator in the same word. -/
theorem At.step {r : ReadLog Round} (h : At m it w ws k) (hs : StepOf m it w ws k r) :
    (∃ code, r.value = .ret code ∧ code ≠ 0) ∨
      ∃ it' w' ws' k', (r.value = .hit it' ∨ r.value = .more it') ∧ At m it' w' ws' k' ∧
        bitsLeft ws' k' < bitsLeft ws k := by
  have hlt := h.lt
  have hnext : ∀ it' : Iterator, k ≠ 31 → SamePlace it it' →
      At m it'.nextEntry w ws (k + 1) ∧ bitsLeft ws (k + 1) < bitsLeft ws k := by
    intro it' hk hp
    refine ⟨h.nextEntry hk hp, ?_⟩
    unfold bitsLeft
    omega
  cases hs with
  | absent hk => exact .inr ⟨_, w, ws, k + 1, .inr rfl, hnext it hk ⟨rfl, rfl, rfl, rfl⟩⟩
  | finished | unknown => exact .inl ⟨_, rfl, by decide⟩
  | fieldOut | vendorOut | out | vendorFar => exact .inl ⟨_, rfl, by decide⟩
  | skip hk => exact .inr ⟨_, w, ws, k + 1, .inr rfl, hnext it.skipNamespace (by omega) ⟨rfl, rfl, rfl, rfl⟩⟩
  | @field ns f hk =>
    exact .inr ⟨_, w, ws, k + 1, .inl rfl, hnext (it.setThis _ _) (by omega) ⟨rfl, rfl, rfl, rfl⟩⟩
  | radiotap hk =>
    refine .inr ⟨_, w, ws, k + 1, .inr rfl, ?_⟩
    exact hnext { it.setThis (it.padded 1) 0 with resetOnExt := true, currentNamespace := some .radiotap } (by omega)
      ⟨rfl, rfl, rfl, rfl⟩
  | @vendor hk _ _ ns vnslen =>
    refine .inr ⟨it.behindVendor ns vnslen, w, ws, k + 1, vendor_goes_on ns _, ?_⟩
    · have hp : ∀ it' : Iterator, SamePlace it it' →
          SamePlace it { it' with resetOnExt := true, thisArgIndex := VENDOR_NAMESPACE } := fun _ hp => ⟨hp.1, hp.2, hp.3, hp.4⟩
      exact hnext _ (by omega) (hp _ ⟨rfl, rfl, rfl, rfl⟩)
  | @ext word ws' hk _ _ hws _ hat =>
    refine .inr ⟨_, word, ws', 0, .inr rfl, hat, ?_⟩
    rw [hws, hk]
    unfold bitsLeft
    simp only [List.length_cons]
    omega

theorem At.next {r : ReadLog Round} (h : At m it w ws k) (hr : it.round m = r)
    (hv : r.value = .hit it' ∨ r.value = .more it') : ∃ w' ws' k', At m it' w' ws' k' := by
  obtain ⟨code, hcode, -⟩ | ⟨it'', w', ws', k', hv', hat, -⟩ := h.step (hr ▸ round_step h)
  · rw [hcode] at hv
    obtain hv | hv := hv <;> cases hv
  · exact ⟨w', ws', k', round_unique hv hv' ▸ hat⟩

/-- **The iteration ends.** -/
theorem run_exists (h : At m it w ws k) : ∃ args t code last, Run m it args t code last := by
  generalize hn : bitsLeft ws k = n
  induction n using Nat.strongRecOn generalizing it w ws k with
  | ind n ih =>
    obtain ⟨r, hr⟩ : ∃ r, it.round m = r := ⟨_, rfl⟩
    obtain ⟨code, hcode, hne⟩ | ⟨it', w', ws', k', hvalue, hat, hless⟩ := h.step (hr ▸ round_step h)
    · obtain ⟨_, t⟩ := r
      obtain rfl : _ = Round.ret code := hcode
      exact ⟨[], t, code, it, .ret hr hne⟩
    · obtain ⟨args, t', code, last, hrun⟩ := ih _ (hn ▸ hless) hat rfl
      obtain ⟨_, t⟩ := r
      obtain rfl | rfl : _ = Round.hit it' ∨ _ = Round.more it' := hvalue
      · exact ⟨_, _, code, last, .hit hr hrun⟩
      · exact ⟨_, _, code, last, .more hr hrun⟩

/-- The calls end so, with enough of them allowed. -/
def Ends (m : Mem) (it : Iterator) (args : List Arg) (t : List Nat) (code : Int) (last : Iterator) : Prop :=
  ∃ n, ∀ rounds calls, n ≤ rounds → n ≤ calls → iterate m rounds calls it = ⟨some (args, code, last), t⟩

theorem Ends.unique {args' : List Arg} {t' : List Nat} {code' : Int} {last' : Iterator} (h : Ends m it args t code last)
    (h' : Ends m it args' t' code' last') : args' = args ∧ t' = t ∧ code' = code ∧ last' = last := by
  obtain ⟨n, h⟩ := h
  obtain ⟨n', h'⟩ := h'
  have heq := (h' (max n n') (max n n') (Nat.le_max_right ..) (Nat.le_max_right ..)).symm.trans
    (h (max n n') (max n n') (Nat.le_max_left ..) (Nat.le_max_left ..))
  obtain ⟨hv, rfl⟩ := ReadLog.mk.inj heq
  cases hv
  exact ⟨rfl, rfl, rfl, rfl⟩

end Wireless.Radiotap
