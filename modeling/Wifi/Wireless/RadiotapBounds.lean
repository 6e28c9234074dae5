import Wifi.Wireless.RadiotapStart

/-!
# Bounds of the radiotap iterator

* `Inside` — all reads are below `it_len`, and all fields that are returned end there at the latest.
* `calm_step` — a round from a place near the header stays inside; only the jump to `_next_ns_data` can leave it.
* `Safe`, `Doomed` — the invariants of the runs that stay inside, and of those that do not.
* `iteration_inside_iff` — the iteration ends inside exactly when there is room for the fixed part of the header, and no
  field without a size lets a vendor namespace be read where the iterator before has left `_next_ns_data`.
-/

namespace Wireless.Radiotap

open ReadLog

variable {m : Mem} {it it' last : Iterator} {args : List Arg} {t : List Nat} {code : Int} {base k : Nat}
  {w : BitVec 32} {ws : List (BitVec 32)}

def Arg.Inside (maxLength : Nat) (f : Arg) : Prop := f.offset + f.size ≤ maxLength

/-- The reads and the fields stay in the header. -/
def Inside (maxLength : Nat) (args : List Arg) (t : List Nat) : Prop :=
  (∀ a ∈ t, a < maxLength) ∧ ∀ f ∈ args, f.Inside maxLength

/-- A pointer this near the end of the address space is behind it after the header of a vendor namespace, and is not
    taken back to 0 by the padding. -/
def WrapsVendor (u : Nat) : Prop := 2 ^ 64 - 7 ≤ u ∧ u ≤ 2 ^ 64 - 2

/-- The fields of the word `w` are left for `u`, and a vendor namespace is read there. -/
def BadSkip (u : Nat) (w : BitVec 32) : Prop :=
  w.getLsbD VENDOR_NAMESPACE = true ∧ w.getLsbD RADIOTAP_NAMESPACE = false ∧ WrapsVendor u

/-! ## Offsets -/

/-- The furthest that a vendor namespace can skip to. -/
abbrev reach (maxLength : Nat) : Nat := maxLength + 65541

theorem padded_le (h : it.arg < 2 ^ 63) (align : Byte) : it.padded align.toNat ≤ it.arg + 255 := by
  have halign := align.isLt
  unfold Iterator.padded
  dsimp only
  by_cases hpad : it.arg &&& (align.toNat - 1) = 0
  · rw [if_neg (not_not_intro hpad)]
    omega
  · rw [if_pos hpad, ptr_of_lt (by omega)]
    omega

theorem padded_two_le (h : it.arg < 2 ^ 63) : it.padded 2 ≤ it.arg + 1 := by
  unfold Iterator.padded
  dsimp only
  by_cases hpad : it.arg &&& (2 - 1) = 0
  · rw [if_neg (not_not_intro hpad)]
    omega
  · rw [if_pos hpad, ptr_of_lt (by omega)]
    omega

theorem vendorReads_inside {p maxLength : Nat} (hp : p + 6 ≤ maxLength) (hmax : maxLength < 65536) :
    ∀ a ∈ vendorReads p, a < maxLength := by
  have hp' : ∀ i < 6, ptr (p + i) < maxLength := fun i hi => by rw [ptr_of_lt (by omega)]; omega
  intro a ha
  simp only [vendorReads, List.mem_cons, List.not_mem_nil, or_false] at ha
  rcases ha with rfl | rfl | rfl | rfl | rfl | rfl
  · exact hp' 0 (by decide)
  · exact hp' 1 (by decide)
  · exact hp' 2 (by decide)
  · exact hp' 3 (by decide)
  · exact hp' 4 (by decide)
  · exact hp' 5 (by decide)

theorem wordReads_inside {p maxLength : Nat} (hp : p + 4 ≤ maxLength) (hmax : maxLength < 65536) :
    ∀ a ∈ wordReads p, a < maxLength := by
  have hp' : ∀ i < 4, ptr (p + i) < maxLength := fun i hi => by rw [ptr_of_lt (by omega)]; omega
  intro a ha
  simp only [wordReads, List.mem_cons, List.not_mem_nil, or_false] at ha
  rcases ha with rfl | rfl | rfl | rfl
  · exact hp' 0 (by decide)
  · exact hp' 1 (by decide)
  · exact hp' 2 (by decide)
  · exact hp' 3 (by decide)

/-! ## One round -/

/-- A round stays in the header: what is read, and what is returned. -/
structure RoundInside (maxLength : Nat) (r : ReadLog Round) : Prop where
  reads : ∀ a ∈ r.touched, a < maxLength
  field : ∀ it', r.value = .hit it' → it'.thisField.Inside maxLength

/-- Where a vendor namespace leaves the iterator, when its header is inside. -/
theorem behindVendor_inside {ns : Option Namespace} {vnslen : Nat} (hmax : it.maxLength < 65536)
    (hp : it.padded 2 + 6 ≤ it.maxLength) (hlen : vnslen < 65536)
    (hin : ptr (it.padded 2 + if ns.isNone then 6 + vnslen else 6) ≤ it.maxLength) :
    (it.behindVendor ns vnslen).thisField.Inside it.maxLength ∧ (it.behindVendor ns vnslen).arg ≤ it.maxLength ∧
      ptr (it.behindVendor ns vnslen).nextNsData ≤ reach it.maxLength := by
  have hsize : (if ns.isNone then 6 + vnslen else 6) ≤ 6 + vnslen := by
    split <;> omega
  have hfit : ptr (it.padded 2 + if ns.isNone then 6 + vnslen else 6) =
      it.padded 2 + if ns.isNone then 6 + vnslen else 6 := ptr_of_lt (by omega)
  refine ⟨?_, hin, ?_⟩
  · show it.padded 2 + (if ns.isNone then 6 + vnslen else 6) ≤ it.maxLength
    rwa [hfit] at hin
  · show ptr (ptr (it.padded 2 + 6 + vnslen)) ≤ it.maxLength + 65541
    have hnext : ptr (it.padded 2 + 6 + vnslen) = it.padded 2 + 6 + vnslen := ptr_of_lt (by omega)
    rw [hnext, hnext]
    omega

/-- **A round near the header stays inside**, and stays near unless it jumps to `_next_ns_data`. -/
theorem calm_step {r : ReadLog Round} (hmax : it.maxLength < 65536) (harg : it.arg ≤ reach it.maxLength)
    (hs : StepOf m it w ws k r) :
    RoundInside it.maxLength r ∧ ∀ it', (r.value = .hit it' ∨ r.value = .more it') →
      it'.maxLength = it.maxLength ∧
        (it'.arg ≤ reach it.maxLength ∨ it' = it.skipNamespace.nextEntry) ∧
        (ptr it'.nextNsData ≤ reach it.maxLength ∨ it'.nextNsData = it.nextNsData ∧ it'.nsDataSet = it.nsDataSet) := by
  have hreach : reach it.maxLength < 2 ^ 63 := by
    simp only [reach]
    omega
  have hnear : it.arg < 2 ^ 63 := by omega
  have hvendor : ptr (it.padded 2 + 6) ≤ it.maxLength → it.padded 2 + 6 ≤ it.maxLength := by
    intro h
    have hp := padded_two_le hnear
    rwa [ptr_of_lt (by omega)] at h
  cases hs with
  | absent =>
    refine ⟨⟨nofun, nofun⟩, fun it' hv => ?_⟩
    obtain hv | hv := hv <;> cases hv
    exact ⟨rfl, .inl harg, .inr ⟨rfl, rfl⟩⟩
  | skip =>
    refine ⟨⟨nofun, nofun⟩, fun it' hv => ?_⟩
    obtain hv | hv := hv <;> cases hv
    exact ⟨rfl, .inr rfl, .inr ⟨rfl, rfl⟩⟩
  | @field ns f _ _ _ _ _ hin =>
    have hp := padded_le hnear f.align
    have hsize := f.size.isLt
    have hin' : it.padded f.align.toNat + f.size.toNat ≤ it.maxLength := by
      rwa [ptr_of_lt (by omega)] at hin
    refine ⟨⟨nofun, fun it' hv => ?_⟩, fun it' hv => ?_⟩
    · cases hv
      exact hin'
    · obtain hv | hv := hv <;> cases hv
      refine ⟨rfl, .inl ?_, .inr ⟨rfl, rfl⟩⟩
      show ptr (it.padded f.align.toNat + f.size.toNat) ≤ reach it.maxLength
      simp only [reach]
      omega
  | radiotap =>
    refine ⟨⟨nofun, nofun⟩, fun it' hv => ?_⟩
    obtain hv | hv := hv <;> cases hv
    refine ⟨rfl, .inl ?_, .inr ⟨rfl, rfl⟩⟩
    show ptr (it.padded 1 + 0) ≤ reach it.maxLength
    rw [padded_one, Nat.add_zero, ptr_of_lt (by omega)]
    exact harg
  | @vendor _ _ hin ns vnslen hlen hin' =>
    have hp := hvendor hin
    obtain ⟨hfield, harg', hdata⟩ := behindVendor_inside hmax hp hlen hin'
    refine ⟨⟨vendorReads_inside hp hmax, fun it' hv => ?_⟩, fun it' hv => ?_⟩
    · obtain rfl := round_unique (.inl hv) (vendor_goes_on ns _)
      exact hfield
    · obtain rfl := round_unique hv (vendor_goes_on ns _)
      exact ⟨rfl, .inl (Nat.le_trans harg' (Nat.le_add_right _ _)), .inl hdata⟩
  | vendorOut _ _ hin =>
    refine ⟨⟨vendorReads_inside (hvendor hin) hmax, nofun⟩, fun it' hv => ?_⟩
    obtain hv | hv := hv <;> cases hv
  | ext _ _ hin _ hword =>
    refine ⟨⟨wordReads_inside hword hmax, nofun⟩, fun it' hv => ?_⟩
    obtain hv | hv := hv <;> cases hv
    refine ⟨rfl, .inl ?_, .inr ⟨rfl, rfl⟩⟩
    show ptr (it.padded 1 + 0) ≤ reach it.maxLength
    rw [padded_one, Nat.add_zero, ptr_of_lt (by omega)]
    exact harg
  | finished | unknown | fieldOut | out | vendorFar =>
    refine ⟨⟨nofun, nofun⟩, fun it' hv => ?_⟩
    obtain hv | hv := hv <;> cases hv

/-! ## Runs -/

/-- The rest of the data of the word `w` is left for `_next_ns_data`, which the header has not set. -/
structure Lost (m : Mem) (it : Iterator) (w : BitVec 32) (ws : List (BitVec 32)) (k : Nat) : Prop
    extends At m it w ws k where
  namespaceLeft : it.currentNamespace = none
  arg : it.arg = ptr it.nextNsData
  noChange : 29 < k → w.getLsbD RADIOTAP_NAMESPACE = false

theorem Fresh.lost (h : Fresh m it w ws base k) (hk : k < 29) : Lost m it.skipNamespace.nextEntry w ws (k + 1) :=
  ⟨At.nextEntry h.toAt (by omega) ⟨rfl, rfl, rfl, rfl⟩, rfl, rfl, fun h29 => by omega⟩

theorem Lost.absent (h : Lost m it w ws k) (hk : k ≠ 31) (hbit : w.getLsbD k = false) :
    Lost m it.nextEntry w ws (k + 1) := by
  refine ⟨At.nextEntry h.toAt hk ⟨rfl, rfl, rfl, rfl⟩, h.namespaceLeft, h.arg, fun h29 => ?_⟩
  by_cases h30 : k = 29
  · rw [show RADIOTAP_NAMESPACE = k from h30.symm, hbit]
  · exact h.noChange (by omega)

theorem Lost.skip (h : Lost m it w ws k) (hk : k < 29) : Lost m it.skipNamespace.nextEntry w ws (k + 1) :=
  ⟨At.nextEntry h.toAt (by omega) ⟨rfl, rfl, rfl, rfl⟩, rfl, rfl, fun h29 => by omega⟩

/-- **The invariant of a run that stays inside.** -/
inductive Safe (m : Mem) (it : Iterator) : Prop where
  | tame {w : BitVec 32} {ws : List (BitVec 32)} {k : Nat} (h : At m it w ws k) (harg : it.arg ≤ reach it.maxLength)
      (hdata : ptr it.nextNsData ≤ reach it.maxLength)
  | fresh {w : BitVec 32} {ws : List (BitVec 32)} {base k : Nat} (h : Fresh m it w ws base k)
      (harg : it.arg ≤ reach it.maxLength)
      (hhole : ∀ w', it.hole w ws base k = some w' → ¬ BadSkip (ptr it.nextNsData) w')
  | lost {w : BitVec 32} {ws : List (BitVec 32)} {k : Nat} (h : Lost m it w ws k)
      (hbad : k ≤ 30 → ¬ BadSkip (ptr it.nextNsData) w)

/-- The header of a vendor namespace that is read behind the jump. -/
theorem Lost.vendor_fits (h : Lost m it w ws k) (hk : k = 30) (hbit : w.getLsbD k = true)
    (hbad : ¬ BadSkip (ptr it.nextNsData) w) (hmax : it.maxLength < 65536)
    (hin : ptr (it.padded 2 + 6) ≤ it.maxLength) : it.padded 2 + 6 ≤ it.maxLength := by
  have hwraps : ¬ WrapsVendor it.arg := by
    rw [h.arg]
    exact fun hwraps => hbad ⟨by rwa [hk] at hbit, h.noChange (by omega), hwraps⟩
  have hlt : it.arg < 2 ^ 64 := by
    rw [h.arg]
    exact ptr_lt _
  unfold WrapsVendor at hwraps
  unfold Iterator.padded at hin ⊢
  dsimp only at hin ⊢
  rw [show it.arg &&& (2 - 1) = it.arg % 2 from Nat.and_one_is_mod _] at hin ⊢
  unfold ptr at hin ⊢
  by_cases hodd : it.arg % 2 = 0
  · rw [if_neg (not_not_intro hodd)] at hin ⊢
    omega
  · rw [if_pos hodd] at hin ⊢
    omega

theorem lost_step {r : ReadLog Round} (hmax : it.maxLength < 65536) (h : Lost m it w ws k)
    (hbad : k ≤ 30 → ¬ BadSkip (ptr it.nextNsData) w) (hr : it.round m = r) :
    RoundInside it.maxLength r ∧ ∀ it', (r.value = .hit it' ∨ r.value = .more it') →
      it'.maxLength = it.maxLength ∧ Safe m it' := by
  have hs := round_step h.toAt
  rw [hr] at hs
  have harg := h.arg
  have hlt : it.arg < 2 ^ 64 := by
    rw [harg]
    exact ptr_lt _
  have htame : ∀ {it'}, (r.value = .hit it' ∨ r.value = .more it') → it'.maxLength = it.maxLength →
      it'.arg ≤ it.maxLength → ptr it'.nextNsData ≤ reach it.maxLength →
      it'.maxLength = it.maxLength ∧ Safe m it' := by
    intro it' hv hlen harg' hdata
    obtain ⟨_, _, _, hat⟩ := h.next hr hv
    exact ⟨hlen, .tame hat (by rw [hlen]; exact Nat.le_trans harg' (Nat.le_add_right _ _)) (by rwa [hlen])⟩
  have hstay : ptr it.arg ≤ it.maxLength → ptr (it.padded 1 + 0) ≤ it.maxLength ∧
      ptr it.nextNsData ≤ reach it.maxLength := by
    intro hin
    rw [padded_one, Nat.add_zero, ← harg]
    rw [ptr_of_lt hlt] at hin ⊢
    exact ⟨hin, Nat.le_trans hin (Nat.le_add_right _ _)⟩
  cases hs with
  | absent hk hbit =>
    refine ⟨⟨nofun, nofun⟩, fun it' hv => ?_⟩
    obtain hv | hv := hv <;> cases hv
    exact ⟨rfl, .lost (h.absent hk hbit) fun _ => hbad (by omega)⟩
  | skip hk =>
    refine ⟨⟨nofun, nofun⟩, fun it' hv => ?_⟩
    obtain hv | hv := hv <;> cases hv
    exact ⟨rfl, .lost (h.skip hk) fun _ => hbad (by omega)⟩
  | field _ _ hns =>
    rw [h.namespaceLeft] at hns
    cases hns
  | radiotap _ _ hin =>
    refine ⟨⟨nofun, nofun⟩, fun it' hv => ?_⟩
    have hv' := hv
    obtain hv' | hv' := hv' <;> cases hv'
    exact htame hv rfl (hstay hin).1 (hstay hin).2
  | @vendor hk hbit hin ns vnslen hlen hin' =>
    have hp := h.vendor_fits hk hbit (hbad (by omega)) hmax hin
    obtain ⟨hfield, harg', hdata⟩ := behindVendor_inside hmax hp hlen hin'
    refine ⟨⟨vendorReads_inside hp hmax, fun it' hv => ?_⟩, fun it' hv => ?_⟩
    · obtain rfl := round_unique (.inl hv) (vendor_goes_on ns _)
      exact hfield
    · obtain rfl := round_unique hv (vendor_goes_on ns _)
      exact htame hv rfl harg' hdata
  | vendorOut hk hbit hin =>
    have hp := h.vendor_fits hk hbit (hbad (by omega)) hmax hin
    refine ⟨⟨vendorReads_inside hp hmax, nofun⟩, fun it' hv => ?_⟩
    obtain hv | hv := hv <;> cases hv
  | ext _ _ hin _ hword =>
    refine ⟨⟨wordReads_inside hword hmax, nofun⟩, fun it' hv => ?_⟩
    have hv' := hv
    obtain hv' | hv' := hv' <;> cases hv'
    exact htame hv rfl (hstay hin).1 (hstay hin).2
  | finished | unknown | fieldOut | out | vendorFar =>
    refine ⟨⟨nofun, nofun⟩, fun it' hv => ?_⟩
    obtain hv | hv := hv <;> cases hv

/-- **One round of a safe run.** -/
theorem Safe.step {r : ReadLog Round} (h : Safe m it) (hmax : it.maxLength < 65536) (hr : it.round m = r) :
    RoundInside it.maxLength r ∧ ∀ it', (r.value = .hit it' ∨ r.value = .more it') →
      it'.maxLength = it.maxLength ∧ Safe m it' := by
  cases h with
  | tame h harg hdata =>
    obtain ⟨hround, hnext⟩ := calm_step hmax harg (hr ▸ round_step h)
    refine ⟨hround, fun it' hv => ?_⟩
    obtain ⟨_, _, _, hat⟩ := h.next hr hv
    obtain ⟨hlen, harg', hdata'⟩ := hnext it' hv
    refine ⟨hlen, .tame hat ?_ ?_⟩
    · rw [hlen]
      obtain harg' | rfl := harg'
      · exact harg'
      · exact hdata
    · rw [hlen]
      obtain hdata' | ⟨hsame, -⟩ := hdata'
      · exact hdata'
      · rwa [hsame]
  | @fresh w ws base k h harg hhole =>
    obtain ⟨hround, hnext⟩ := calm_step hmax harg (hr ▸ round_step h.toAt)
    refine ⟨hround, fun it' hv => ?_⟩
    obtain ⟨hlen, harg', hdata'⟩ := hnext it' hv
    refine ⟨hlen, ?_⟩
    obtain ⟨⟨code, hcode⟩, -⟩ | ⟨it'', hv', hcases⟩ := h.step (hr ▸ round_step h.toAt)
    · rw [hcode] at hv
      obtain hv | hv := hv <;> cases hv
    obtain rfl := round_unique hv hv'
    obtain ⟨w', ws', base', k', hfresh, hsame, -, hdata⟩ | ⟨hk, rfl, hw⟩ | ⟨⟨ns, vnslen, rfl⟩, -⟩ := hcases
    · have hcalm : it'.arg ≤ reach it.maxLength := by
        obtain harg' | rfl := harg'
        · exact harg'
        · exact (nomatch hfresh.radiotap)
      refine .fresh hfresh (by rwa [hlen]) fun w hw hbad => ?_
      rw [hsame] at hw
      exact hhole w hw (hdata ▸ hbad)
    · exact .lost (h.lost hk) fun _ => hhole w hw
    · obtain ⟨_, _, _, hat⟩ := h.toAt.next hr hv
      obtain hdata' | ⟨-, hset⟩ := hdata'
      · refine .tame hat ?_ (by rwa [hlen])
        obtain harg' | hskip := harg'
        · rwa [hlen]
        · have hset : true = it.nsDataSet := congrArg Iterator.nsDataSet hskip
          rw [h.unset] at hset
          cases hset
      · rw [h.unset] at hset
        cases hset
  | @lost w ws k h hbad => exact lost_step hmax h hbad hr

/-- **A safe run stays inside.** -/
theorem run_inside (r : Run m it args t code last) (h : Safe m it) (hmax : it.maxLength < 65536) :
    Inside it.maxLength args t := by
  induction r with
  | ret hround =>
    obtain ⟨⟨hreads, -⟩, -⟩ := h.step hmax hround
    exact ⟨hreads, nofun⟩
  | hit hround _ ih =>
    obtain ⟨⟨hreads, hfield⟩, hnext⟩ := h.step hmax hround
    obtain ⟨hlen, hsafe⟩ := hnext _ (.inl rfl)
    obtain ⟨hreads', hfields⟩ := ih hsafe (hlen ▸ hmax)
    rw [hlen] at hreads' hfields
    refine ⟨fun a ha => (List.mem_append.mp ha).elim (hreads a) (hreads' a), fun f hf => ?_⟩
    obtain rfl | hf := List.mem_cons.mp hf
    · exact hfield _ rfl
    · exact hfields f hf
  | more hround _ ih =>
    obtain ⟨⟨hreads, -⟩, hnext⟩ := h.step hmax hround
    obtain ⟨hlen, hsafe⟩ := hnext _ (.inr rfl)
    obtain ⟨hreads', hfields⟩ := ih hsafe (hlen ▸ hmax)
    rw [hlen] at hreads' hfields
    exact ⟨fun a ha => (List.mem_append.mp ha).elim (hreads a) (hreads' a), hfields⟩

/-- **The invariant of a run that does not.** -/
inductive Doomed (m : Mem) (it : Iterator) : Prop where
  | fresh {w w' : BitVec 32} {ws : List (BitVec 32)} {base k : Nat} (h : Fresh m it w ws base k)
      (hhole : it.hole w ws base k = some w') (hbad : BadSkip (ptr it.nextNsData) w')
  | lost {w : BitVec 32} {ws : List (BitVec 32)} {k : Nat} (h : Lost m it w ws k) (hk : k ≤ 30)
      (hbad : BadSkip (ptr it.nextNsData) w)

theorem Lost.vendor_outside (h : Lost m it w ws k) (hwraps : WrapsVendor (ptr it.nextNsData))
    (hmin : RADIOTAP_HEADER ≤ it.maxLength) (hmax : it.maxLength < 65536) :
    ptr (it.padded 2 + 6) ≤ it.maxLength ∧ it.maxLength ≤ ptr (it.padded 2) := by
  rw [← h.arg] at hwraps
  simp only [RADIOTAP_HEADER] at hmin
  unfold WrapsVendor at hwraps
  unfold Iterator.padded
  dsimp only
  rw [show it.arg &&& (2 - 1) = it.arg % 2 from Nat.and_one_is_mod _]
  unfold ptr
  by_cases hodd : it.arg % 2 = 0
  · rw [if_neg (not_not_intro hodd)]
    omega
  · rw [if_pos hodd]
    omega

theorem fresh_doomed_step {w' : BitVec 32} {r : ReadLog Round} (h : Fresh m it w ws base k)
    (hhole : it.hole w ws base k = some w') (hbad : BadSkip (ptr it.nextNsData) w') (hr : it.round m = r) :
    ∃ it', (r.value = .hit it' ∨ r.value = .more it') ∧ it'.maxLength = it.maxLength ∧ Doomed m it' := by
  obtain ⟨-, hnone⟩ | ⟨it', hv, hcases⟩ := h.step (hr ▸ round_step h.toAt)
  · rw [hnone] at hhole
    cases hhole
  refine ⟨it', hv, ?_⟩
  obtain ⟨_, _, _, _, hfresh, hsame, hlen, hdata⟩ | ⟨hk, rfl, hw⟩ | ⟨-, hnone⟩ := hcases
  · exact ⟨hlen, .fresh hfresh (hsame.trans hhole) (hdata ▸ hbad)⟩
  · rw [hw] at hhole
    cases hhole
    exact ⟨rfl, .lost (h.lost hk) (by omega) hbad⟩
  · rw [hnone] at hhole
    cases hhole

/-- **One round of a doomed run.** -/
theorem Doomed.step {r : ReadLog Round} (h : Doomed m it) (hmin : RADIOTAP_HEADER ≤ it.maxLength)
    (hmax : it.maxLength < 65536) (hr : it.round m = r) :
    (∃ a ∈ r.touched, it.maxLength ≤ a) ∨
      ∃ it', (r.value = .hit it' ∨ r.value = .more it') ∧ it'.maxLength = it.maxLength ∧ Doomed m it' := by
  cases h with
  | fresh h hhole hbad => exact .inr (fresh_doomed_step h hhole hbad hr)
  | @lost w ws k h hk hbad =>
    have hs := round_step h.toAt
    rw [hr] at hs
    obtain ⟨hvendor, hnoChange, hwraps⟩ := hbad
    obtain ⟨hin, hout⟩ := h.vendor_outside hwraps hmin hmax
    have hread : ptr (it.padded 2) ∈ vendorReads (it.padded 2) := List.mem_cons_self ..
    cases hs with
    | absent hk' hbit =>
      refine .inr ⟨_, .inr rfl, rfl, .lost (h.absent hk' hbit) ?_ ⟨hvendor, hnoChange, hwraps⟩⟩
      by_contra hk30
      rw [show k = 30 by omega] at hbit
      exact absurd hvendor (by rw [hbit]; decide)
    | skip hk' => exact .inr ⟨_, .inr rfl, rfl, .lost (h.skip hk') (by omega) ⟨hvendor, hnoChange, hwraps⟩⟩
    | unknown _ _ hns | field _ _ hns | fieldOut _ _ hns =>
      rw [h.namespaceLeft] at hns
      cases hns
    | radiotap hk' hbit =>
      rw [hk'] at hbit
      exact absurd hbit (by rw [hnoChange]; decide)
    | vendor | vendorOut => exact .inl ⟨_, hread, hout⟩
    | vendorFar _ _ hfar => omega
    | finished hk' | ext hk' => omega
    | out hk' hbit =>
      rw [hk'.resolve_right (by omega)] at hbit
      exact absurd hbit (by rw [hnoChange]; decide)

/-- **A doomed run reads outside.** -/
theorem run_outside (r : Run m it args t code last) (h : Doomed m it) (hmin : RADIOTAP_HEADER ≤ it.maxLength)
    (hmax : it.maxLength < 65536) : ∃ a ∈ t, it.maxLength ≤ a := by
  induction r with
  | ret hround =>
    obtain hread | ⟨it', hv, -⟩ := h.step hmin hmax hround
    · exact hread
    · obtain hv | hv := hv <;> cases hv
  | hit hround _ ih =>
    obtain ⟨a, ha, hout⟩ | ⟨it', hv, hlen, hdoomed⟩ := h.step hmin hmax hround
    · exact ⟨a, List.mem_append_left _ ha, hout⟩
    · obtain rfl := round_unique (.inl rfl) hv
      obtain ⟨a, ha, hout⟩ := ih hdoomed (hlen ▸ hmin) (hlen ▸ hmax)
      exact ⟨a, List.mem_append_right _ ha, hlen ▸ hout⟩
  | more hround _ ih =>
    obtain ⟨a, ha, hout⟩ | ⟨it', hv, hlen, hdoomed⟩ := h.step hmin hmax hround
    · exact ⟨a, List.mem_append_left _ ha, hout⟩
    · obtain rfl := round_unique (.inr rfl) hv
      obtain ⟨a, ha, hout⟩ := ih hdoomed (hlen ▸ hmin) (hlen ▸ hmax)
      exact ⟨a, List.mem_append_right _ ha, hlen ▸ hout⟩

/-! ## The whole iteration -/

/-- **The iteration of an accepted header ends, inside the header**, exactly when the header has room for its fixed part,
    and it has no field without a size that lets a vendor namespace be read at the end of the address space. -/
theorem iteration_inside_iff (prior : Iterator) (m : Mem) (maxLength : Nat) (vns : List VendorNamespace) :
    (∀ it t₀, ieee80211RadiotapIteratorInit prior m maxLength vns = ⟨.ok it, t₀⟩ →
      ∃ args t code last, code ≠ 0 ∧ Ends m it args t code last ∧ Inside (itLen m) args (t₀ ++ t)) ↔
    ∀ ws, headerWords m maxLength = some ws → RADIOTAP_HEADER ≤ itLen m ∧
      ∀ w, holeWord (itLen m) ws 0 (8 + 4 * (ws.length - 1)) = some w → ¬ BadSkip (ptr prior.nextNsData) w := by
  have hmax := itLen_lt m
  obtain ⟨hvalue, hreads⟩ := init_eq prior m maxLength vns
  generalize ieee80211RadiotapIteratorInit prior m maxLength vns = r at hvalue hreads
  obtain ⟨v, t₀⟩ := r
  obtain rfl : v = _ := hvalue
  cases hws : headerWords m maxLength with
  | none => exact ⟨fun _ ws h => (nomatch h), fun _ it t₀ h => (nomatch h)⟩
  | some ws =>
    obtain ⟨rest, rfl, hfresh⟩ := start_fresh prior vns hws
    obtain ⟨args, t, code, last, hrun⟩ := run_exists hfresh.toAt
    obtain ⟨hcode, hends⟩ := run_iterate hrun
    rw [hws] at hreads
    have hreads := hreads (Option.some_ne_none _)
    have hhole : (prior.start m vns (itPresent m :: rest)).hole (itPresent m) rest 0 0 =
        holeWord (itLen m) (itPresent m :: rest) 0 (8 + 4 * ((itPresent m :: rest).length - 1)) := rfl
    constructor
    · rintro h _ ⟨⟩
      obtain ⟨args', t', code', last', -, hends', hinside⟩ := h _ _ rfl
      obtain ⟨rfl, rfl, -, -⟩ := Ends.unique hends hends'
      have hmin := hreads.mp fun a ha => hinside.1 a (List.mem_append_left _ ha)
      refine ⟨hmin, fun w hw hbad => ?_⟩
      obtain ⟨a, ha, hout⟩ := run_outside hrun (.fresh hfresh (hhole.trans hw) hbad) hmin hmax
      exact absurd (hinside.1 a (List.mem_append_right _ ha)) (Nat.not_lt.mpr hout)
    · rintro h it t₀ ⟨⟩
      obtain ⟨hmin, hbad⟩ := h _ rfl
      obtain ⟨_, hrest, -, hlong, -⟩ := start_at prior vns hws
      cases hrest
      have harg : (prior.start m vns (itPresent m :: rest)).arg ≤ reach (itLen m) :=
        Nat.le_trans (hlong hmin) (Nat.le_add_right _ _)
      obtain ⟨hinside, hfields⟩ := run_inside hrun (.fresh hfresh harg fun w hw => hbad w (hhole.symm.trans hw)) hmax
      refine ⟨args, t, code, last, hcode, hends, fun a ha => ?_, hfields⟩
      exact (List.mem_append.mp ha).elim (hreads.mpr hmin a) (hinside a)

def shortHeader : Mem := fun p => [0, 0, 4, 0, 2, 0, 0, 0].getD p 0

/-- A header of 8 bytes, with bits 18 and 30. -/
def skipHeader : Mem := fun p => [0, 0, 8, 0, 0, 0, 4, 0x40].getD p 0

/-- **A present word behind the header, and a vendor namespace before it.** -/
theorem reads_outside_header :
    (∃ it t₀, ieee80211RadiotapIteratorInit anyIterator shortHeader 8 [] = ⟨.ok it, t₀⟩ ∧ itLen shortHeader = 4 ∧
      7 ∈ t₀) ∧
    ∃ it t₀, ieee80211RadiotapIteratorInit { anyIterator with nextNsData := 2 ^ 64 - 6 } skipHeader 8 [] = ⟨.ok it, t₀⟩ ∧
      itLen skipHeader = 8 ∧ 2 ^ 64 - 6 ∈ (iterate skipHeader 40 2 it).touched ∧
      (iterate skipHeader 40 2 it).value.map (fun r => r.1) = some [⟨30, 2 ^ 64 - 6, 6⟩] :=
  ⟨⟨_, _, rfl, by decide, by decide⟩, _, _, rfl, by decide, by decide, by decide⟩

end Wireless.Radiotap
