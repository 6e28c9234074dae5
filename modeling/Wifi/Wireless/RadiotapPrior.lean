import Wifi.Wireless.RadiotapStart

/-!
# What the iteration takes from the iterator before

`ieee80211_radiotap_iterator_init` leaves `_next_ns_data` as it was.

* `Same` — two iterators that differ in the argument returned last, and in `_next_ns_data` while the header has not set
  it; `round_same` and `run_same` are the lockstep of two runs.
* `run_used` — `_next_ns_data` is used before it is set exactly when the header has a `holeWord`.
* `results_independent_iff` — the results are the same for every iterator before, and nothing unset is used, exactly
  when it has none.
-/

namespace Wireless.Radiotap

open ReadLog

variable {m : Mem} {it it' last : Iterator} {args : List Arg} {t : List Nat} {code : Int} {base k : Nat}
  {w : BitVec 32} {ws : List (BitVec 32)}

/-! ## Two runs -/

structure Same (it it' : Iterator) : Prop where
  vns : it'.vns = it.vns
  currentNamespace : it'.currentNamespace = it.currentNamespace
  arg : it'.arg = it.arg
  nextBitmap : it'.nextBitmap = it.nextBitmap
  maxLength : it'.maxLength = it.maxLength
  argIndex : it'.argIndex = it.argIndex
  bitmapShifter : it'.bitmapShifter = it.bitmapShifter
  resetOnExt : it'.resetOnExt = it.resetOnExt
  nsDataSet : it'.nsDataSet = it.nsDataSet
  usedUnset : it'.usedUnset = it.usedUnset
  nextNsData : it.nsDataSet = true → it'.nextNsData = it.nextNsData

/-- The same result of a round, as long as nothing unset was used. -/
inductive SameRound : Round → Round → Prop where
  | ret (code : Int) : SameRound (.ret code) (.ret code)
  | hit {it it' : Iterator} (h : it.usedUnset = false → Same it it' ∧ it'.thisField = it.thisField) :
      SameRound (.hit it) (.hit it')
  | more {it it' : Iterator} (h : it.usedUnset = false → Same it it') : SameRound (.more it) (.more it')

namespace Same

theorem nextEntry (h : Same it it') : Same it.nextEntry it'.nextEntry :=
  { h with
    argIndex := congrArg (fun i : Nat => i + 1) h.argIndex
    bitmapShifter := congrArg (fun w : BitVec 32 => w >>> 1) h.bitmapShifter }

theorem padded (h : Same it it') (align : Nat) : it'.padded align = it.padded align := by
  unfold Iterator.padded
  rw [h.arg]

theorem setThis (h : Same it it') (arg size : Nat) : Same (it.setThis arg size) (it'.setThis arg size) :=
  { h with arg := rfl }

theorem thisField_setThis (h : Same it it') (arg size : Nat) :
    (it'.setThis arg size).thisField = (it.setThis arg size).thisField := by
  show Arg.mk it'.argIndex arg size = ⟨it.argIndex, arg, size⟩
  rw [h.argIndex]

theorem skipNamespace (h : Same it it') (hused : it.skipNamespace.usedUnset = false) :
    Same it.skipNamespace it'.skipNamespace := by
  obtain ⟨-, hset⟩ : it.usedUnset = false ∧ (!it.nsDataSet) = false := Bool.or_eq_false_iff.mp hused
  have hdata := h.nextNsData (by simpa using hset)
  exact { h with
    currentNamespace := rfl
    arg := congrArg ptr hdata
    usedUnset := congrArg₂ (fun a b => a || !b) h.usedUnset h.nsDataSet }

end Same

theorem visit_same (h : Same it it') (align size : Nat) :
    SameRound (it.visit m align size).value (it'.visit m align size).value ∧
      (it'.visit m align size).touched = (it.visit m align size).touched := by
  have hthis := h.setThis (it.padded align) size
  have hfield := h.thisField_setThis (it.padded align) size
  unfold Iterator.visit
  rw [h.padded]
  dsimp only
  generalize it.setThis (it.padded align) size = this at hthis hfield
  generalize it'.setThis (it.padded align) size = this' at hthis hfield
  have hout_iff : this'.maxLength < this'.arg ↔ this.maxLength < this.arg := by rw [hthis.maxLength, hthis.arg]
  have hbit_iff : ∀ bit, this'.argIndex % 32 = bit ↔ this.argIndex % 32 = bit := fun bit => by rw [hthis.argIndex]
  by_cases hout : this.maxLength < this.arg
  · rw [if_pos hout, if_pos (hout_iff.mpr hout)]
    exact ⟨.ret _, rfl⟩
  rw [if_neg hout, if_neg (hout_iff.not.mpr hout)]
  by_cases h29 : this.argIndex % 32 = RADIOTAP_NAMESPACE
  · rw [if_pos h29, if_pos ((hbit_iff _).mpr h29)]
    have hchange : Same { this with resetOnExt := true, currentNamespace := some .radiotap }
        { this' with resetOnExt := true, currentNamespace := some .radiotap } :=
      { hthis with resetOnExt := rfl, currentNamespace := rfl }
    exact ⟨.more fun _ => hchange.nextEntry, rfl⟩
  rw [if_neg h29, if_neg ((hbit_iff _).not.mpr h29)]
  by_cases h31 : this.argIndex % 32 = EXT
  · rw [if_pos h31, if_pos ((hbit_iff _).mpr h31)]
    have hword : (getUnalignedLe32 m this'.nextBitmap) = getUnalignedLe32 m this.nextBitmap := by rw [hthis.nextBitmap]
    rw [hword]
    refine ⟨.more fun _ => ?_, rfl⟩
    exact { hthis with
      bitmapShifter := rfl
      nextBitmap := congrArg (fun p : Nat => p + 4) hthis.nextBitmap
      argIndex := by dsimp only; rw [hthis.resetOnExt, hthis.argIndex]
      resetOnExt := rfl }
  · rw [if_neg h31, if_neg ((hbit_iff _).not.mpr h31)]
    exact ⟨.hit fun _ => ⟨hthis.nextEntry, hfield⟩, rfl⟩

theorem behindVendor_same (h : Same it it') (ns : Option Namespace) (vnslen : Nat) :
    Same (it.behindVendor ns vnslen) (it'.behindVendor ns vnslen) ∧
      (it'.behindVendor ns vnslen).thisField = (it.behindVendor ns vnslen).thisField := by
  have hpad := h.padded 2
  unfold Iterator.behindVendor
  rw [hpad]
  have hdata : Same
      { it with currentNamespace := ns, nextNsData := ptr (it.padded 2 + 6 + vnslen), nsDataSet := true }
      { it' with currentNamespace := ns, nextNsData := ptr (it.padded 2 + 6 + vnslen), nsDataSet := true } :=
    { h with currentNamespace := rfl, nextNsData := fun _ => rfl, nsDataSet := rfl }
  have hthis := hdata.setThis (it.padded 2) (if ns.isNone then 6 + vnslen else 6)
  exact ⟨Same.nextEntry { hthis with resetOnExt := rfl }, rfl⟩

theorem vendorEnd_same (h : Same it it') (ns : Option Namespace) (vnslen : Nat) :
    SameRound (it.vendorEnd ns vnslen) (it'.vendorEnd ns vnslen) := by
  unfold Iterator.vendorEnd
  rw [h.maxLength, h.padded]
  have hbehind := behindVendor_same h ns vnslen
  by_cases hout : it.maxLength < ptr (it.padded 2 + if ns.isNone then 6 + vnslen else 6)
  · rw [if_pos hout, if_pos hout]
    exact .ret _
  rw [if_neg hout, if_neg hout]
  cases ns.isNone with
  | true => exact .hit fun _ => hbehind
  | false => exact .more fun _ => hbehind.1

/-- **The same round.** -/
theorem round_same (h : Same it it') :
    SameRound (it.round m).value (it'.round m).value ∧ (it'.round m).touched = (it.round m).touched := by
  unfold Iterator.round
  rw [h.argIndex, h.bitmapShifter, h.currentNamespace]
  by_cases hend : it.argIndex % 32 = EXT ∧ it.bitmapShifter.getLsbD 0 = false
  · rw [if_pos hend, if_pos hend]
    exact ⟨.ret _, rfl⟩
  rw [if_neg hend, if_neg hend]
  by_cases habsent : it.bitmapShifter.getLsbD 0 = false
  · rw [if_pos habsent, if_pos habsent]
    exact ⟨.more fun _ => h.nextEntry, rfl⟩
  rw [if_neg habsent, if_neg habsent]
  by_cases hspecial : it.argIndex % 32 = RADIOTAP_NAMESPACE ∨ it.argIndex % 32 = EXT
  · rw [if_pos hspecial, if_pos hspecial]
    exact visit_same h 1 0
  rw [if_neg hspecial, if_neg hspecial]
  by_cases hvendor : it.argIndex % 32 = VENDOR_NAMESPACE
  · rw [if_pos hvendor, if_pos hvendor, visitVendor_eq, visitVendor_eq, h.padded, h.maxLength, h.vns]
    by_cases hout : it.maxLength < ptr (it.padded 2 + 6)
    · rw [if_pos hout, if_pos hout]
      exact ⟨.ret _, rfl⟩
    · rw [if_neg hout, if_neg hout]
      exact ⟨vendorEnd_same h _ _, rfl⟩
  rw [if_neg hvendor, if_neg hvendor]
  have hskip : SameRound (.more it.skipNamespace.nextEntry) (.more it'.skipNamespace.nextEntry) :=
    .more fun hused => (h.skipNamespace hused).nextEntry
  cases it.currentNamespace with
  | none => exact ⟨hskip, rfl⟩
  | some ns =>
    dsimp only
    cases ns.alignSize[it.argIndex]? with
    | none =>
      cases ns with
      | radiotap => exact ⟨.ret _, rfl⟩
      | vendor => exact ⟨hskip, rfl⟩
    | some f =>
      dsimp only
      by_cases halign : f.align = 0
      · rw [if_pos halign, if_pos halign]
        exact ⟨hskip, rfl⟩
      · rw [if_neg halign, if_neg halign]
        exact visit_same h _ _

/-! ## `_next_ns_data` -/

/-- What was used stays so; once the header has set it, nothing unset is used. -/
theorem step_flags {r : ReadLog Round} (hs : StepOf m it w ws k r) (hv : r.value = .hit it' ∨ r.value = .more it') :
    (it.usedUnset = true → it'.usedUnset = true) ∧
      (it.nsDataSet = true → it'.nsDataSet = true ∧ it'.usedUnset = it.usedUnset) := by
  cases hs with
  | absent | field | radiotap | ext =>
    obtain hv | hv := hv <;> cases hv
    exact ⟨fun hu => hu, fun hset => ⟨hset, rfl⟩⟩
  | skip =>
    obtain hv | hv := hv <;> cases hv
    refine ⟨fun hu => ?_, fun hset => ⟨hset, ?_⟩⟩
    · show (it.usedUnset || !it.nsDataSet) = true
      rw [hu, Bool.true_or]
    · show (it.usedUnset || !it.nsDataSet) = it.usedUnset
      rw [hset, Bool.not_true, Bool.or_false]
  | @vendor _ _ _ ns vnslen =>
    obtain rfl := round_unique hv (vendor_goes_on ns _)
    exact ⟨fun hu => hu, fun _ => ⟨rfl, rfl⟩⟩
  | finished | unknown | fieldOut | vendorOut | out | vendorFar => obtain hv | hv := hv <;> cases hv

theorem run_flags (r : Run m it args t code last) (h : At m it w ws k) :
    (it.usedUnset = true → last.usedUnset = true) ∧ (it.nsDataSet = true → last.usedUnset = it.usedUnset) := by
  induction r generalizing w ws k with
  | ret => exact ⟨fun hu => hu, fun _ => rfl⟩
  | @hit it it' last args code t t' hround _ ih =>
    obtain ⟨hused, hset⟩ := step_flags (hround ▸ round_step h) (.inl rfl)
    obtain ⟨_, _, _, hat⟩ := h.next hround (.inl rfl)
    refine ⟨fun hu => (ih hat).1 (hused hu), fun hs => ?_⟩
    rw [(ih hat).2 (hset hs).1, (hset hs).2]
  | @more it it' last args code t t' hround _ ih =>
    obtain ⟨hused, hset⟩ := step_flags (hround ▸ round_step h) (.inr rfl)
    obtain ⟨_, _, _, hat⟩ := h.next hround (.inr rfl)
    refine ⟨fun hu => (ih hat).1 (hused hu), fun hs => ?_⟩
    rw [(ih hat).2 (hset hs).1, (hset hs).2]

theorem not_used_before (r : Run m it args t code last) (h : At m it w ws k) (hused : last.usedUnset = false) :
    it.usedUnset = false := by
  cases hu : it.usedUnset with
  | false => rfl
  | true => exact absurd ((run_flags r h).1 hu) (by rw [hused]; decide)

theorem fresh_rest (h : Fresh m it w ws base k) {r : ReadLog Round} (hround : it.round m = r)
    (hv : r.value = .hit it' ∨ r.value = .more it') (hrun : Run m it' args t code last)
    (ih : ∀ {w' ws' base' k'}, Fresh m it' w' ws' base' k' → last.usedUnset = (it'.hole w' ws' base' k').isSome) :
    last.usedUnset = (it.hole w ws base k).isSome := by
  obtain ⟨_, _, _, hat⟩ := h.toAt.next hround hv
  obtain ⟨hused, hset⟩ := run_flags hrun hat
  obtain ⟨⟨code, hcode⟩, -⟩ | ⟨it'', hv', hcases⟩ := h.step (hround ▸ round_step h.toAt)
  · rw [hcode] at hv
    obtain hv | hv := hv <;> cases hv
  obtain rfl := round_unique hv hv'
  obtain ⟨w', ws', base', k', hfresh, hhole, -⟩ | ⟨-, rfl, hhole⟩ | ⟨⟨ns, vnslen, rfl⟩, hhole⟩ := hcases
  · rw [ih hfresh, hhole]
  · rw [hhole]
    refine hused ?_
    show (it.usedUnset || !it.nsDataSet) = true
    rw [h.unset, Bool.not_false, Bool.or_true]
  · rw [hhole, hset rfl]
    exact h.notUsed

/-- **`_next_ns_data` is used unset exactly at a field without a size.** -/
theorem run_used (r : Run m it args t code last) (h : Fresh m it w ws base k) :
    last.usedUnset = (it.hole w ws base k).isSome := by
  induction r generalizing w ws base k with
  | @ret it code t hround =>
    obtain ⟨-, hhole⟩ | ⟨it', hv, -⟩ := h.step (hround ▸ round_step h.toAt)
    · rw [hhole]
      exact h.notUsed
    · obtain hv | hv := hv <;> cases hv
  | hit hround hrun ih => exact fresh_rest h hround (.inl rfl) hrun ih
  | more hround hrun ih => exact fresh_rest h hround (.inr rfl) hrun ih

/-- **Lockstep**, when nothing unset is used. -/
theorem run_same (r : Run m it args t code last) (h : At m it w ws k) (hused : last.usedUnset = false)
    (hsame : Same it it') : ∃ last', Run m it' args t code last' ∧ last'.usedUnset = false := by
  induction r generalizing it' w ws k with
  | @ret it code t hround hcode =>
    obtain ⟨hvalue, htouched⟩ := round_same (m := m) hsame
    rw [hround] at hvalue htouched
    have heq : it'.round m = ⟨.ret code, t⟩ := by
      cases hr : it'.round m with
      | mk v t' =>
        rw [hr] at hvalue htouched
        cases hvalue
        rw [show t' = t from htouched]
    exact ⟨it', .ret heq hcode, hsame.usedUnset.trans hused⟩
  | @hit it it₂ last args code t t' hround r ih =>
    obtain ⟨_, _, _, hat⟩ := h.next hround (.inl rfl)
    obtain ⟨hvalue, htouched⟩ := round_same (m := m) hsame
    rw [hround] at hvalue htouched
    cases hr : it'.round m with
    | mk v u =>
      rw [hr] at hvalue htouched
      obtain rfl : u = t := htouched
      cases hvalue with
      | @hit _ it₂' hsame =>
        obtain ⟨hsame, hfield⟩ := hsame (not_used_before r hat hused)
        obtain ⟨last', r', hused'⟩ := ih hat hused hsame
        exact ⟨last', hfield ▸ .hit hr r', hused'⟩
  | @more it it₂ last args code t t' hround r ih =>
    obtain ⟨_, _, _, hat⟩ := h.next hround (.inr rfl)
    obtain ⟨hvalue, htouched⟩ := round_same (m := m) hsame
    rw [hround] at hvalue htouched
    cases hr : it'.round m with
    | mk v u =>
      rw [hr] at hvalue htouched
      obtain rfl : u = t := htouched
      cases hvalue with
      | @more _ it₂' hsame =>
        obtain ⟨last', r', hused'⟩ := ih hat hused (hsame (not_used_before r hat hused))
        exact ⟨last', .more hr r', hused'⟩

/-! ## The results -/

/-- What the caller of `ieee80211_radiotap_iterator_init` and then `ieee80211_radiotap_iterator_next` gets; `used` tells
    whether `_next_ns_data` was used before it was set. -/
def Results (m : Mem) (maxLength : Nat) (vns : List VendorNamespace) (prior : Iterator)
    (r : Except Int (List Arg × Int)) (used : Bool) : Prop :=
  match (ieee80211RadiotapIteratorInit prior m maxLength vns).value with
  | .error code => r = .error code ∧ used = false
  | .ok it => ∃ args t code last, r = .ok (args, code) ∧ used = last.usedUnset ∧ Ends m it args t code last

theorem start_same (prior prior' : Iterator) (vns : List VendorNamespace) :
    Same (prior.start m vns ws) (prior'.start m vns ws) :=
  ⟨rfl, rfl, rfl, rfl, rfl, rfl, rfl, rfl, rfl, rfl, nofun⟩

/-- **The results do not depend on the iterator before, and nothing unset is used**, exactly when no field without a size
    is met in the radiotap namespace before a vendor namespace. -/
theorem results_independent_iff (m : Mem) (maxLength : Nat) (vns : List VendorNamespace) :
    (∃ r, ∀ prior, Results m maxLength vns prior r false) ↔
      ∀ ws, headerWords m maxLength = some ws → holeWord (itLen m) ws 0 (8 + 4 * (ws.length - 1)) = none := by
  unfold Results
  cases hws : headerWords m maxLength with
  | none =>
    refine ⟨fun _ ws h => (nomatch h), fun _ => ⟨.error negEINVAL, fun prior => ?_⟩⟩
    rw [(init_eq prior m maxLength vns).1, hws]
    exact ⟨rfl, rfl⟩
  | some ws =>
    obtain ⟨rest, rfl, hfresh⟩ := start_fresh anyIterator vns hws
    obtain ⟨args, t, code, last, hrun⟩ := run_exists hfresh.toAt
    have hhole : last.usedUnset =
        (holeWord (itLen m) (itPresent m :: rest) 0 (8 + 4 * ((itPresent m :: rest).length - 1))).isSome :=
      run_used hrun hfresh
    have hinit : ∀ prior : Iterator, (ieee80211RadiotapIteratorInit prior m maxLength vns).value =
        .ok (prior.start m vns (itPresent m :: rest)) := fun prior => by
      rw [(init_eq prior m maxLength vns).1, hws]
    constructor
    · rintro ⟨r, h⟩ _ ⟨⟩
      have hany := h anyIterator
      rw [hinit] at hany
      obtain ⟨args', t', code', last', -, hused, hends⟩ := hany
      obtain ⟨-, -, -, rfl⟩ := Ends.unique (run_iterate hrun).2 hends
      exact Option.isNone_iff_eq_none.mp (Option.isSome_eq_false_iff.mp (hhole.symm.trans hused.symm))
    · intro h
      have hnone := h _ rfl
      have hused : last.usedUnset = false := by rw [hhole, hnone, Option.isSome_none]
      refine ⟨.ok (args, code), fun prior => ?_⟩
      rw [hinit]
      obtain ⟨last', hrun', hused'⟩ := run_same hrun hfresh.toAt hused (start_same anyIterator prior vns)
      exact ⟨args, t, code, last', rfl, hused'.symm, (run_iterate hrun').2⟩

/-- A header of 8 bytes, with bits 18 and 29. -/
def holeHeader : Mem := fun p => [0, 0, 8, 0, 0, 0, 4, 0x20].getD p 0

/-- **The rest of an earlier iteration decides.** -/
theorem hole_follows_prior :
    ∃ it it', (ieee80211RadiotapIteratorInit { anyIterator with nextNsData := 8 } holeHeader 8 []).value = .ok it ∧
      (ieee80211RadiotapIteratorInit { anyIterator with nextNsData := 9 } holeHeader 8 []).value = .ok it' ∧
      (iterate holeHeader 40 2 it).value.map (fun r => r.2.1) = some negENOENT ∧
      (iterate holeHeader 40 2 it').value.map (fun r => r.2.1) = some negEINVAL :=
  ⟨_, _, rfl, rfl, by decide, by decide⟩

end Wireless.Radiotap
