import Wifi.Net80211.Mesh.ElementCodec

/-!
# Reading path selection elements back

* `Elem` — where the elements of a frame body start.
* `Readable` — the octets that the length check of an element looks at lie in the frame body.
* `Targetless` — a PREQ without a target whose length is right.
* `recvLoop_spec` — the parser goes from element to element.
* `elements_read_back` — which elements are read back as they were sent, which frame bodies are read
  within their bounds, and which ones hand on no PREQ without a target.
-/

namespace Net80211.Mesh.Wire

open ReadLog Cursor

variable {m : Nat → BitVec 8} {t efrm a b : Nat}

/-! ## One element -/

/-- The length octet of the element at `a`. -/
def lenAt (m : Nat → BitVec 8) (a : Nat) : Nat := (m (a + 1)).toNat

/-- The element at `a` lies in the frame body. -/
def Fits (m : Nat → BitVec 8) (efrm a : Nat) : Prop := a + lenAt m a + 2 ≤ efrm

def WrongRann (m : Nat → BitVec 8) (a : Nat) : Prop :=
  m a = IEEE80211_ELEMID_MESHRANN ∧ lenAt m a ≠ IEEE80211_MESHRANN_BASE_SZ

/-- The octets that the length check of the element at `a` looks at lie in the frame body. -/
structure Readable (m : Nat → BitVec 8) (efrm a : Nat) : Prop where
  preq : m a = IEEE80211_ELEMID_MESHPREQ → a + 2 < efrm ∧ tcntAt m a < efrm
  prep : m a = IEEE80211_ELEMID_MESHPREP → a + 2 < efrm
  perr : m a = IEEE80211_ELEMID_MESHPERR → a + 3 < efrm ∧
    ((m (a + 3)).toNat ≤ IEEE80211_MESHPERR_MAXDEST → ∀ i, i < (m (a + 3)).toNat → destAt m (a + 4) i < efrm)

/-- A PREQ that is long enough for its fields and counts no target. -/
def Targetless (m : Nat → BitVec 8) (a : Nat) : Prop :=
  m a = IEEE80211_ELEMID_MESHPREQ ∧ lenAt m a = preqBase m a ∧ m (tcntAt m a) = 0

theorem value_verifyMeshPreqLen : (verifyMeshPreqLen m a).value =
    if lenAt m a ≠ preqBase m a + (m (tcntAt m a)).toNat * IEEE80211_MESHPREQ_TRGT_SZ then none
    else some (m (tcntAt m a)).toNat := rfl

theorem value_verifyMeshPrepLen : (verifyMeshPrepLen m a).value =
    if lenAt m a = (if hasAE (m (a + 2)) then IEEE80211_MESHPREP_BASE_SZ_AE else IEEE80211_MESHPREP_BASE_SZ) then some 1
    else none := rfl

theorem value_verifyMeshPerrLen : (verifyMeshPerrLen m a).value =
    if IEEE80211_MESHPERR_MAXDEST < (m (a + 3)).toNat then none
    else if destAt m (a + 4) (m (a + 3)).toNat - a - 2 ≠ lenAt m a then none else some (m (a + 3)).toNat := by
  unfold verifyMeshPerrLen
  rw [value_bind]
  split
  next h =>
    rw [if_pos (show IEEE80211_MESHPERR_MAXDEST < (m (a + 3)).toNat from h)]
    rfl
  next h =>
    rw [if_neg (show ¬ IEEE80211_MESHPERR_MAXDEST < (m (a + 3)).toNat from h)]
    simp only [value_bind, value_byte, value_destLoop, value_pure, lenAt, IEEE80211_MESHPERR_NDEST_OFFSET]
    rfl

theorem within_verifyMeshPreqLen : Within efrm (verifyMeshPreqLen m a) ↔ a + 2 < efrm ∧ tcntAt m a < efrm ∧ a + 1 < efrm := by
  rw [verifyMeshPreqLen, within_bind, within_bind, within_bind, within_byte, within_byte, within_byte, value_byte]
  simp only [within_pure, and_true, tcntAt]

theorem within_verifyMeshPrepLen : Within efrm (verifyMeshPrepLen m a) ↔ a + 2 < efrm ∧ a + 1 < efrm := by
  simp only [verifyMeshPrepLen, within_bind, within_byte, within_pure, and_true]

theorem within_destLoop : ∀ (n t : Nat), Within efrm (destLoop m n t) ↔ ∀ i, i < n → destAt m t i < efrm := by
  intro n
  induction n with
  | zero =>
    intro t
    simp [destLoop]
  | succ n ih =>
    intro t
    simp only [destLoop, within_bind, within_byte, value_byte, ih]
    constructor
    · rintro ⟨h0, h⟩ i hi
      cases i with
      | zero => exact h0
      | succ i => exact h i (Nat.lt_of_succ_lt_succ hi)
    · intro h
      exact ⟨h 0 (Nat.succ_pos n), fun i hi => h (i + 1) (Nat.succ_lt_succ hi)⟩

theorem within_verifyMeshPerrLen : Within efrm (verifyMeshPerrLen m a) ↔ a + 3 < efrm ∧
    ((m (a + 3)).toNat ≤ IEEE80211_MESHPERR_MAXDEST →
      (∀ i, i < (m (a + 3)).toNat → destAt m (a + 4) i < efrm) ∧ a + 1 < efrm) := by
  rw [verifyMeshPerrLen, within_bind, within_byte, within_ite]
  simp only [value_byte, within_bind, within_byte, within_pure, within_destLoop, IEEE80211_MESHPERR_NDEST_OFFSET,
    Nat.not_lt, and_true, implies_true, true_and]

theorem within_recvChecked {v : ReadLog (Option Nat)} {body : Cursor Ie} :
    Within efrm (recvChecked v body a) ↔ Within efrm v ∧ (v.value.isSome = true → Within efrm (body a)) := by
  unfold recvChecked
  rw [within_bind]
  cases v.value with
  | none => simp
  | some n => simp [within_bind]

theorem value_recvChecked {v : ReadLog (Option Nat)} {body : Cursor Ie} :
    (recvChecked v body a).value = if v.value.isSome then .found (result body a) else .discard := by
  unfold recvChecked
  rw [value_bind]
  cases v.value with
  | none => rfl
  | some n => rfl

/-- A body that passes its check takes what the length octet says. -/
theorem endsAt_of_checked (hfit : Fits m efrm a) :
    ((verifyMeshPreqLen m a).value.isSome = true → endsAt (readPreq m) a ≤ efrm) ∧
      ((verifyMeshPrepLen m a).value.isSome = true → endsAt (readPrep m) a ≤ efrm) ∧
      ((verifyMeshPerrLen m a).value.isSome = true → endsAt (readPerr m) a ≤ efrm) := by
  unfold Fits at hfit
  rw [value_verifyMeshPreqLen, value_verifyMeshPrepLen, value_verifyMeshPerrLen, endsAt_readPreq, endsAt_readPrep,
    endsAt_readPerr]
  refine ⟨fun h => ?_, fun h => ?_, fun h => ?_⟩
  · have hlen := Option.isSome_ite'.mp h
    rw [IEEE80211_MESHPREQ_TRGT_SZ] at hlen
    omega
  · have hlen := Option.isSome_ite.mp h
    omega
  · by_cases hmax : IEEE80211_MESHPERR_MAXDEST < (m (a + 3)).toNat
    · rw [if_pos hmax] at h
      cases h
    · rw [if_neg hmax] at h
      have hlen := Option.isSome_ite'.mp h
      omega

theorem readable_preq (hie : m a = IEEE80211_ELEMID_MESHPREQ) :
    Readable m efrm a ↔ a + 2 < efrm ∧ tcntAt m a < efrm := by
  refine ⟨fun h => h.preq hie, fun h => ⟨fun _ => h, ?_, ?_⟩⟩
  · rw [hie]
    exact fun h => absurd h (by decide)
  · rw [hie]
    exact fun h => absurd h (by decide)

theorem readable_prep (hie : m a = IEEE80211_ELEMID_MESHPREP) : Readable m efrm a ↔ a + 2 < efrm := by
  refine ⟨fun h => h.prep hie, fun h => ⟨?_, fun _ => h, ?_⟩⟩
  · rw [hie]
    exact fun h => absurd h (by decide)
  · rw [hie]
    exact fun h => absurd h (by decide)

theorem readable_perr (hie : m a = IEEE80211_ELEMID_MESHPERR) : Readable m efrm a ↔ a + 3 < efrm ∧
    ((m (a + 3)).toNat ≤ IEEE80211_MESHPERR_MAXDEST → ∀ i, i < (m (a + 3)).toNat → destAt m (a + 4) i < efrm) := by
  refine ⟨fun h => h.perr hie, fun h => ⟨?_, ?_, fun _ => h⟩⟩
  · rw [hie]
    exact fun h => absurd h (by decide)
  · rw [hie]
    exact fun h => absurd h (by decide)

/-- **One element is read within the frame** exactly when its length check is. -/
theorem within_recvElement (hfit : Fits m efrm a) : Within efrm (recvElement m a) ↔ Readable m efrm a := by
  obtain ⟨hpreq, hprep, hperr⟩ := endsAt_of_checked hfit
  unfold Fits at hfit
  have hin0 : a < efrm := by omega
  have hin : a + 1 < efrm := by omega
  rw [recvElement, within_bind, within_byte, and_iff_right hin0]
  by_cases h1 : m a = IEEE80211_ELEMID_MESHPREQ
  · rw [value_byte, if_pos h1, within_recvChecked, within_verifyMeshPreqLen, readable_preq h1]
    refine ⟨fun h => ⟨h.1.1, h.1.2.1⟩, fun h => ⟨⟨h.1, h.2, hin⟩, fun hok => ?_⟩⟩
    exact forward_readPreq.within (hpreq hok)
  by_cases h2 : m a = IEEE80211_ELEMID_MESHPREP
  · rw [value_byte, if_neg h1, if_pos h2, within_recvChecked, within_verifyMeshPrepLen, readable_prep h2]
    refine ⟨fun h => h.1.1, fun h => ⟨⟨h, hin⟩, fun hok => ?_⟩⟩
    exact forward_readPrep.within (hprep hok)
  by_cases h3 : m a = IEEE80211_ELEMID_MESHPERR
  · rw [value_byte, if_neg h1, if_neg h2, if_pos h3, within_recvChecked, within_verifyMeshPerrLen, readable_perr h3]
    refine ⟨fun h => ⟨h.1.1, fun hmax => (h.1.2 hmax).1⟩, fun h => ⟨⟨h.1, fun hmax => ⟨h.2 hmax, hin⟩⟩, fun hok => ?_⟩⟩
    exact forward_readPerr.within (hperr hok)
  have hother : Readable m efrm a := by
    refine ⟨fun h => absurd h h1, fun h => absurd h h2, fun h => absurd h h3⟩
  rw [value_byte, if_neg h1, if_neg h2, if_neg h3, iff_true_right hother]
  by_cases h4 : m a = IEEE80211_ELEMID_MESHRANN
  · rw [if_pos h4, within_bind, within_byte, within_ite]
    refine ⟨hin, fun _ => within_pure _, fun hlen => within_bind.mpr ⟨?_, within_pure _⟩⟩
    have hlen' : lenAt m a = IEEE80211_MESHRANN_BASE_SZ := Decidable.not_not.mp hlen
    refine forward_readRann.within (t := a) ?_
    rw [IEEE80211_MESHRANN_BASE_SZ] at hlen'
    show a + 23 ≤ efrm
    omega
  · rw [if_neg h4]
    exact within_pure _

/-! ## What one element gives -/

theorem value_recvElement_wrongRann : (recvElement m a).value = .wrongRann ↔ WrongRann m a := by
  unfold recvElement WrongRann
  rw [value_bind, value_byte]
  by_cases h1 : m a = IEEE80211_ELEMID_MESHPREQ
  · rw [if_pos h1, value_recvChecked, h1]
    split <;> simp [IEEE80211_ELEMID_MESHPREQ, IEEE80211_ELEMID_MESHRANN]
  by_cases h2 : m a = IEEE80211_ELEMID_MESHPREP
  · rw [if_neg h1, if_pos h2, value_recvChecked, h2]
    split <;> simp [IEEE80211_ELEMID_MESHPREP, IEEE80211_ELEMID_MESHRANN]
  by_cases h3 : m a = IEEE80211_ELEMID_MESHPERR
  · rw [if_neg h1, if_neg h2, if_pos h3, value_recvChecked, h3]
    split <;> simp [IEEE80211_ELEMID_MESHPERR, IEEE80211_ELEMID_MESHRANN]
  rw [if_neg h1, if_neg h2, if_neg h3]
  by_cases h4 : m a = IEEE80211_ELEMID_MESHRANN
  · rw [if_pos h4, value_bind, and_iff_right h4]
    split
    next hlen => exact iff_of_true rfl hlen
    next hlen => exact iff_of_false (fun h => by cases h) hlen
  · rw [if_neg h4]
    exact iff_of_false (fun h => by cases h) fun h => h4 h.1

theorem readPreq_shape : ∃ len preq, result (readPreq m) a = .preq len preq ∧
    preq.preqTargets.length = (m (tcntAt m a)).toNat := by
  unfold readPreq tcntAt
  cases hae : hasAE (m (a + 2)) with
  | false =>
    simp only [result_bind, result_next8, endsAt_next8, endsAt_next48, endsAt_nextLe32, hae,
      Bool.false_eq_true, if_false, result_pure, endsAt_pure]
    exact ⟨_, _, rfl, result_times_length _ _⟩
  | true =>
    simp only [result_bind, result_next8, endsAt_next8, endsAt_next48, endsAt_nextLe32, hae, if_true,
      result_pure]
    exact ⟨_, _, rfl, result_times_length _ _⟩

theorem readPrep_shape : ∃ len prep, result (readPrep m) a = .prep len prep := by
  unfold readPrep
  cases hae : hasAE (m (a + 2)) with
  | false =>
    simp only [result_bind, result_next8, endsAt_next8, endsAt_next48, endsAt_nextLe32, hae, Bool.false_eq_true, if_false,
      result_pure]
    exact ⟨_, _, rfl⟩
  | true =>
    simp only [result_bind, result_next8, endsAt_next8, endsAt_next48, endsAt_nextLe32, hae, if_true, result_pure]
    exact ⟨_, _, rfl⟩

theorem destFlags_readDest : (result (readDest m) t).destFlags = m t := by
  unfold readDest
  cases hae : hasAE (m t) with
  | false =>
    simp only [result_bind, result_next8, hae, Bool.false_eq_true, if_false, result_pure]
  | true =>
    simp only [result_bind, result_next8, hae, if_true, result_pure]

/-- The walk of the length check is the sum of the sizes of the destinations. -/
theorem destAt_eq_sum : ∀ (n t : Nat),
    destAt m t n = t + ((result (times (readDest m) n) t).map fun dest => destSz dest.destFlags).sum := by
  intro n
  induction n with
  | zero =>
    intro t
    rfl
  | succ n ih =>
    intro t
    simp only [times, result_bind, result_pure, List.map_cons, List.sum_cons, endsAt_readDest, destFlags_readDest, destAt, ih]
    omega

theorem readPerr_shape : ∃ len perr, result (readPerr m) a = .perr len perr ∧
    destAt m (a + 4) (m (a + 3)).toNat = a + 2 + perrSz perr := by
  refine ⟨_, _, rfl, ?_⟩
  rw [destAt_eq_sum, perrSz, IEEE80211_MESHPERR_BASE_SZ]
  exact Nat.add_assoc (a + 2) 2 _

theorem found_cases {ie : Ie} (h : (recvElement m a).value = .found ie) :
    (m a = IEEE80211_ELEMID_MESHPREQ ∧ (verifyMeshPreqLen m a).value.isSome = true ∧ ie = result (readPreq m) a) ∨
      (∃ len prep, ie = .prep len prep) ∨
      ((verifyMeshPerrLen m a).value.isSome = true ∧ ie = result (readPerr m) a) ∨ ∃ len rann, ie = .rann len rann := by
  unfold recvElement at h
  rw [value_bind, value_byte] at h
  by_cases h1 : m a = IEEE80211_ELEMID_MESHPREQ
  · rw [if_pos h1, value_recvChecked] at h
    split at h
    next hok =>
      injection h with h
      exact .inl ⟨h1, hok, h.symm⟩
    · cases h
  by_cases h2 : m a = IEEE80211_ELEMID_MESHPREP
  · rw [if_neg h1, if_pos h2, value_recvChecked] at h
    split at h
    · injection h with h
      obtain ⟨len, prep, hshape⟩ := readPrep_shape (m := m) (a := a)
      exact .inr (.inl ⟨len, prep, h.symm.trans hshape⟩)
    · cases h
  by_cases h3 : m a = IEEE80211_ELEMID_MESHPERR
  · rw [if_neg h1, if_neg h2, if_pos h3, value_recvChecked] at h
    split at h
    next hok =>
      injection h with h
      exact .inr (.inr (.inl ⟨hok, h.symm⟩))
    · cases h
  rw [if_neg h1, if_neg h2, if_neg h3] at h
  by_cases h4 : m a = IEEE80211_ELEMID_MESHRANN
  · rw [if_pos h4, value_bind] at h
    split at h
    · cases h
    · injection h with h
      exact .inr (.inr (.inr ⟨_, _, h.symm⟩))
  · rw [if_neg h4] at h
    cases h

/-- A PREQ without targets is handed on exactly when nothing but its count is wrong. -/
theorem found_targetless : (∃ len preq, (recvElement m a).value = .found (.preq len preq) ∧ preq.preqTargets = []) ↔
    Targetless m a := by
  obtain ⟨len', preq', hshape, hcount⟩ := readPreq_shape (m := m) (a := a)
  constructor
  · rintro ⟨len, preq, hfound, hnone⟩
    rcases found_cases hfound with ⟨hie, hok, heq⟩ | ⟨_, _, heq⟩ | ⟨_, heq⟩ | ⟨_, _, heq⟩
    · rw [hshape] at heq
      injection heq with _ heq
      rw [← heq, hnone] at hcount
      have hzero : m (tcntAt m a) = 0 := BitVec.eq_of_toNat_eq hcount.symm
      rw [value_verifyMeshPreqLen] at hok
      have hlen := Option.isSome_ite'.mp hok
      refine ⟨hie, ?_, hzero⟩
      rw [hzero] at hlen
      exact Decidable.not_not.mp hlen
    · cases heq
    · obtain ⟨_, _, hperr, -⟩ := readPerr_shape (m := m) (a := a)
      rw [hperr] at heq
      cases heq
    · cases heq
  · rintro ⟨hie, hlen, hzero⟩
    refine ⟨len', preq', ?_, List.length_eq_zero_iff.mp ?_⟩
    · have hok : (verifyMeshPreqLen m a).value.isSome = true := by
        rw [value_verifyMeshPreqLen, hzero, hlen]
        exact Option.isSome_ite'.mpr fun h => h rfl
      rw [recvElement, value_bind, value_byte, if_pos hie, value_recvChecked, if_pos hok, hshape]
    · rw [hcount, hzero]
      rfl

/-- No PERR is handed on whose fields do not fit its length octet. -/
theorem found_perr {len : BitVec 8} {perr : MeshperrIe} (h : (recvElement m a).value = .found (.perr len perr)) :
    perrSz perr ≤ 255 := by
  rcases found_cases h with ⟨_, _, heq⟩ | ⟨_, _, heq⟩ | ⟨hok, heq⟩ | ⟨_, _, heq⟩
  · obtain ⟨_, _, hpreq, -⟩ := readPreq_shape (m := m) (a := a)
    rw [hpreq] at heq
    cases heq
  · cases heq
  · obtain ⟨_, perr', hshape, hsz⟩ := readPerr_shape (m := m) (a := a)
    rw [hshape] at heq
    injection heq with _ heq
    rw [value_verifyMeshPerrLen] at hok
    by_cases hmax : IEEE80211_MESHPERR_MAXDEST < (m (a + 3)).toNat
    · rw [if_pos hmax] at hok
      cases hok
    · rw [if_neg hmax] at hok
      have hlen := Decidable.not_not.mp (Option.isSome_ite'.mp hok)
      have hoctet : lenAt m a < 256 := (m (a + 1)).isLt
      rw [heq]
      omega
  · cases heq

/-! ## The elements of a frame body -/

/-- An element starts at `b` when the parser goes on from the element at `a`. -/
inductive Elem (m : Nat → BitVec 8) (efrm : Nat) : Nat → Nat → Prop where
  | here {a : Nat} (hfit : Fits m efrm a) : Elem m efrm a a
  | later {a b : Nat} (hfit : Fits m efrm a) (hrann : ¬ WrongRann m a)
      (hrest : Elem m efrm (a + lenAt m a + 2) b) : Elem m efrm a b

theorem Elem.fits (h : Elem m efrm a b) : Fits m efrm b := by
  induction h with
  | here hfit => exact hfit
  | later _ _ _ ih => exact ih

theorem Elem.start (h : Elem m efrm a b) : Fits m efrm a := by
  cases h with
  | here hfit => exact hfit
  | later hfit _ _ => exact hfit

theorem elem_iff (hfit : Fits m efrm a) :
    Elem m efrm a b ↔ b = a ∨ ¬ WrongRann m a ∧ Elem m efrm (a + lenAt m a + 2) b := by
  constructor
  · intro h
    cases h with
    | here _ => exact .inl rfl
    | later _ hrann hrest => exact .inr ⟨hrann, hrest⟩
  · rintro (rfl | ⟨hrann, hrest⟩)
    · exact .here hfit
    · exact .later hfit hrann hrest

/-- What the parser does from the element at `a` on: it ends, reads what its elements read, and hands on what
    they give. -/
structure LoopSpec (m : Nat → BitVec 8) (efrm a : Nat) (o : Outcome) (r : ReadLog (Option Outcome)) : Prop where
  ends : ∃ out, r.value = some out ∧
    ∀ ie, ie ∈ out.found ↔ ie ∈ o.found ∨ ∃ b, Elem m efrm a b ∧ (recvElement m b).value = .found ie
  reads : Within efrm r ↔ ∀ b, Elem m efrm a b → Within efrm (recvElement m b)

theorem LoopSpec.next {o o' : Outcome} {r : ReadLog (Option Outcome)} (hfit : Fits m efrm a)
    (hrann : ¬ WrongRann m a) (hr : LoopSpec m efrm (a + lenAt m a + 2) o' r)
    (hfound : ∀ ie, ie ∈ o'.found ↔ ie ∈ o.found ∨ (recvElement m a).value = .found ie)
    {x : ReadLog (Option Outcome)} (hvalue : x.value = r.value)
    (hreads : Within efrm x ↔ Within efrm (recvElement m a) ∧ Within efrm r) : LoopSpec m efrm a o x := by
  obtain ⟨⟨out, hout, hall⟩, hwithin⟩ := hr
  refine ⟨⟨out, hvalue.trans hout, fun ie => ?_⟩, ?_⟩
  · rw [hall, hfound, or_assoc]
    refine or_congr_right ⟨?_, ?_⟩
    · rintro (h | ⟨b, hb, h⟩)
      · exact ⟨a, .here hfit, h⟩
      · exact ⟨b, .later hfit hrann hb, h⟩
    · rintro ⟨b, hb, h⟩
      rcases (elem_iff hfit).mp hb with rfl | ⟨-, hrest⟩
      · exact .inl h
      · exact .inr ⟨b, hrest, h⟩
  · rw [hreads, hwithin]
    constructor
    · rintro ⟨hfirst, hrest⟩ b hb
      rcases (elem_iff hfit).mp hb with rfl | ⟨-, hb⟩
      · exact hfirst
      · exact hrest b hb
    · intro h
      exact ⟨h a (.here hfit), fun b hb => h b (.later hfit hrann hb)⟩

/-- A round that the loop ends with, without an element. -/
theorem LoopSpec.last {o : Outcome} {x : ReadLog (Option Outcome)} (out : Outcome) (hfit : ¬ Fits m efrm a)
    (hvalue : x.value = some out) (hfound : out.found = o.found) (hreads : Within efrm x) : LoopSpec m efrm a o x := by
  have hnone : ∀ b, ¬ Elem m efrm a b := fun b hb => hfit hb.start
  refine ⟨⟨out, hvalue, fun ie => ?_⟩, iff_of_true hreads fun b hb => absurd hb (hnone b)⟩
  rw [hfound]
  refine ⟨Or.inl, ?_⟩
  rintro (h | ⟨b, hb, -⟩)
  · exact h
  · exact absurd hb (hnone b)

/-- **The parser goes from element to element** and ends. -/
theorem recvLoop_spec : ∀ (fuel a : Nat) (o : Outcome), efrm - a < fuel →
    LoopSpec m efrm a o (recvLoop m efrm fuel a o) := by
  intro fuel
  induction fuel with
  | zero =>
    intro a o h
    omega
  | succ fuel ih =>
    intro a o hfuel
    rw [recvLoop]
    by_cases hmore : 1 < efrm - a
    · rw [if_pos hmore]
      by_cases hshort : efrm - a < lenAt m a + 2
      · have hfit : ¬ Fits m efrm a := by
          unfold Fits
          omega
        have hshort' : efrm - a < (byte m (a + 1)).value.toNat + 2 := hshort
        refine LoopSpec.last { o with isRxElemToosmall := o.isRxElemToosmall + 1 } hfit ?_ rfl ?_
        · rw [value_bind, if_pos hshort']
          rfl
        · rw [within_bind, if_pos hshort', within_byte]
          exact ⟨by omega, within_pure _⟩
      · have hfit : Fits m efrm a := by
          unfold Fits
          omega
        have hlong : ¬ efrm - a < (byte m (a + 1)).value.toNat + 2 := hshort
        have hlater := fun o' => ih (a + lenAt m a + 2) o' (by omega)
        have hbyte : Within efrm (byte m (a + 1)) := within_byte.mpr (by omega)
        have hrann := value_recvElement_wrongRann (m := m) (a := a)
        cases hfate : (recvElement m a).value with
        | found ie =>
          rw [hfate] at hrann
          refine (hlater { o with found := o.found ++ [ie] }).next hfit (fun h => ?_) (fun ie' => ?_) ?_ ?_
          · cases hrann.mpr h
          · rw [List.mem_append, List.mem_singleton, hfate, Fate.found.injEq, eq_comm (a := ie')]
          · rw [value_bind, if_neg hlong, value_bind, hfate]
            rfl
          · rw [within_bind, if_neg hlong, within_bind, hfate]
            exact and_iff_right hbyte
        | discard =>
          rw [hfate] at hrann
          refine (hlater { o with isRxMgtdiscard := o.isRxMgtdiscard + 1 }).next hfit (fun h => ?_) (fun ie' => ?_) ?_ ?_
          · cases hrann.mpr h
          · rw [hfate]
            exact (or_iff_left fun h => by cases h).symm
          · rw [value_bind, if_neg hlong, value_bind, hfate]
            rfl
          · rw [within_bind, if_neg hlong, within_bind, hfate]
            exact and_iff_right hbyte
        | skip =>
          rw [hfate] at hrann
          refine (hlater o).next hfit (fun h => ?_) (fun ie' => ?_) ?_ ?_
          · cases hrann.mpr h
          · rw [hfate]
            exact (or_iff_left fun h => by cases h).symm
          · rw [value_bind, if_neg hlong, value_bind, hfate]
            rfl
          · rw [within_bind, if_neg hlong, within_bind, hfate]
            exact and_iff_right hbyte
        | wrongRann =>
          rw [hfate] at hrann
          have hstop : ∀ b, Elem m efrm a b ↔ b = a := fun b => by
            rw [elem_iff hfit, or_iff_left fun h => h.1 (hrann.mp rfl)]
          refine ⟨⟨{ o with isRxMgtdiscard := o.isRxMgtdiscard + 1, ret := 1 }, ?_, fun ie' => ?_⟩, ?_⟩
          · rw [value_bind, if_neg hlong, value_bind, hfate]
            rfl
          · simp only [hstop, exists_eq_left, hfate]
            exact (or_iff_left fun h => by cases h).symm
          · rw [within_bind, if_neg hlong, within_bind, hfate]
            simp only [hstop, forall_eq]
            exact ⟨fun h => h.2.1, fun h => ⟨hbyte, h, within_pure _⟩⟩
    · rw [if_neg hmore]
      have hfit : ¬ Fits m efrm a := by
        unfold Fits
        omega
      refine LoopSpec.last _ hfit rfl ?_ (within_pure _)
      split <;> rfl

theorem hwmpRecvActionMeshpath_spec (m : Nat → BitVec 8) (efrm : Nat) :
    LoopSpec m efrm 2 { found := [], isRxMgtdiscard := 0, isRxElemToosmall := 0, ret := 0 }
      (hwmpRecvActionMeshpath m efrm) :=
  recvLoop_spec (efrm + 1) 2 _ (by omega)

/-! ## Reading back -/

/-- The parser hands on the element of this frame body alone, whatever lies behind it in the memory. -/
def ReadsBack (frame : List (BitVec 8)) (ie : Ie) : Prop :=
  ∀ m, Stored m 0 frame → (hwmpRecvActionMeshpath m frame.length).value =
    some { found := [ie], isRxMgtdiscard := 0, isRxElemToosmall := 0, ret := 0 }

theorem readsBack_one {frame : List (BitVec 8)} {ie : Ie}
    (h : ∀ m, Stored m 0 frame → frame.length = lenAt m 2 + 4 ∧ (recvElement m 2).value = .found ie) :
    ReadsBack frame ie := by
  intro m hm
  obtain ⟨hlen, hfound⟩ := h m hm
  have hmore : 1 < frame.length - 2 := by omega
  have hlong : ¬ frame.length - 2 < (byte m (2 + 1)).value.toNat + 2 := by
    show ¬ frame.length - 2 < lenAt m 2 + 2
    omega
  have hend : ¬ 1 < frame.length - (2 + (byte m (2 + 1)).value.toNat + 2) := by
    show ¬ 1 < frame.length - (2 + lenAt m 2 + 2)
    omega
  obtain ⟨n, hn⟩ : ∃ n, frame.length = n + 1 := ⟨frame.length - 1, by omega⟩
  unfold hwmpRecvActionMeshpath
  rw [recvLoop, if_pos hmore, value_bind, if_neg hlong, value_bind, hfound]
  show (recvLoop m frame.length frame.length _ _).value = _
  rw [hn] at hend ⊢
  rw [recvLoop, if_neg hend]
  rfl

theorem readsBack_preq {preq : Preq} (hfit : preqSz preq ≤ 255) :
    ReadsBack (hwmpSendAction (hwmpSendPreq preq)) (carried (hwmpSendPreq preq)) := by
  refine readsBack_one fun m hm => ?_
  have hstored : Stored m 2 (hwmpAddMeshpreq (BitVec.ofNat 8 (preqSz preq)) preq) := (stored_append.mp hm).2
  have hcount : preq.preqTargets.length < 256 := by
    simp only [preqSz, IEEE80211_MESHPREQ_TRGT_SZ] at hfit
    omega
  have hhead := hstored
  simp only [hwmpAddMeshpreq, List.append_assoc, stored_append, stored_cons] at hhead
  obtain ⟨⟨hie, hlen, -⟩, -⟩ := hhead
  have hsz : lenAt m 2 = preqSz preq := by
    rw [lenAt, hlen, BitVec.toNat_ofNat]
    omega
  refine ⟨?_, ?_⟩
  · rw [hsz]
    show (hwmpAddMeshpreq (BitVec.ofNat 8 (preqSz preq)) preq).length + 2 = _
    rw [length_hwmpAddMeshpreq]
    omega
  · have hok := verifyMeshPreqLen_stored hfit hstored
    rw [recvElement, value_bind, value_byte, if_pos hie, value_recvChecked, hok, readPreq_stored hcount hstored]
    rfl

theorem readsBack_prep (prep : MeshprepIe) :
    ReadsBack (hwmpSendAction (hwmpSendPrep prep)) (carried (hwmpSendPrep prep)) := by
  refine readsBack_one fun m hm => ?_
  have hstored := (stored_append.mp hm).2
  have hstored' : Stored m 2 (hwmpAddMeshprep (BitVec.ofNat 8
    (if hasAE prep.prepFlags then IEEE80211_MESHPREP_BASE_SZ_AE else IEEE80211_MESHPREP_BASE_SZ)) prep) := hstored
  have hhead := hstored'
  simp only [hwmpAddMeshprep, List.append_assoc, stored_append, stored_cons] at hhead
  obtain ⟨⟨hie, hlen, -⟩, -⟩ := hhead
  have hne : ¬ m 2 = IEEE80211_ELEMID_MESHPREQ := by
    rw [hie]
    decide
  refine ⟨?_, ?_⟩
  · rw [lenAt, hlen]
    show (hwmpAddMeshprep _ prep).length + 2 = _
    rw [length_hwmpAddMeshprep]
    cases hasAE prep.prepFlags with
    | false => rfl
    | true => rfl
  · rw [recvElement, value_bind, value_byte, if_neg hne, if_pos hie, value_recvChecked, verifyMeshPrepLen_stored hstored',
      readPrep_stored hstored']
    rfl

theorem readsBack_perr {perr : MeshperrIe} (hfit : perrSz perr ≤ 255) :
    ReadsBack (hwmpSendAction (hwmpSendPerr perr)) (carried (hwmpSendPerr perr)) := by
  rw [hwmpSendPerr_eq]
  refine readsBack_one fun m hm => ?_
  have hstored : Stored m 2 (hwmpAddMeshperr (BitVec.ofNat 8 (perrSz perr)) perr) := (stored_append.mp hm).2
  have hcount : perr.perrDests.length < 256 := by
    have hlong := length_le_perrSz perr
    omega
  have hhead := hstored
  simp only [hwmpAddMeshperr, stored_append, stored_cons] at hhead
  obtain ⟨⟨hie, hlen, -⟩, -⟩ := hhead
  have hne : ¬ m 2 = IEEE80211_ELEMID_MESHPREQ := by
    rw [hie]
    decide
  have hne' : ¬ m 2 = IEEE80211_ELEMID_MESHPREP := by
    rw [hie]
    decide
  have hsz : lenAt m 2 = perrSz perr := by
    rw [lenAt, hlen, BitVec.toNat_ofNat]
    omega
  refine ⟨?_, ?_⟩
  · rw [hsz]
    show (hwmpAddMeshperr (BitVec.ofNat 8 (perrSz perr)) perr).length + 2 = _
    rw [length_hwmpAddMeshperr]
    omega
  · have hok := verifyMeshPerrLen_stored hfit hstored
    rw [recvElement, value_bind, value_byte, if_neg hne, if_neg hne', if_pos hie, value_recvChecked, hok,
      readPerr_stored hcount hstored]
    rfl

/-- A PERR comes back exactly when its fields fit the length octet. -/
theorem readsBack_perr_iff (perr : MeshperrIe) :
    ReadsBack (hwmpSendAction (hwmpSendPerr perr)) (carried (hwmpSendPerr perr)) ↔ perrSz perr ≤ 255 := by
  refine ⟨fun h => ?_, readsBack_perr⟩
  have hval := h _ stored_getD
  obtain ⟨⟨out, hout, hall⟩, -⟩ := hwmpRecvActionMeshpath_spec
    (fun i => (hwmpSendAction (hwmpSendPerr perr)).getD i 0) (hwmpSendAction (hwmpSendPerr perr)).length
  have heq : out = _ := Option.some.inj (hout.symm.trans hval)
  have hmem : carried (hwmpSendPerr perr) ∈ out.found := by
    rw [heq]
    exact List.mem_singleton_self _
  rcases (hall _).mp hmem with hnil | ⟨b, -, hfound⟩
  · cases hnil
  · rw [hwmpSendPerr_eq] at hfound
    have hsz := found_perr hfound
    have hsame : perrSz (perrCarried perr) = perrSz perr := by
      simp only [perrSz, perrCarried, List.map_map]
      rfl
    rwa [hsame] at hsz

/-- **The elements of path selection** come back as they were sent, a PERR exactly when its fields fit its length
    octet; on every frame body the parser ends, it reads within the frame exactly when the length checks of all
    elements do, and it hands on a PREQ without targets exactly when there is one of the right length. -/
theorem elements_read_back (preq : MeshpreqIe) (prep : MeshprepIe) (perr : MeshperrIe) (m : Nat → BitVec 8)
    (efrm : Nat) :
    (preqSz (ofMeshpreqIe preq) ≤ 255 →
      ReadsBack (hwmpSendAction (hwmpSendPreq (ofMeshpreqIe preq))) (carried (hwmpSendPreq (ofMeshpreqIe preq)))) ∧
    ReadsBack (hwmpSendAction (hwmpSendPrep prep)) (carried (hwmpSendPrep prep)) ∧
    (ReadsBack (hwmpSendAction (hwmpSendPerr perr)) (carried (hwmpSendPerr perr)) ↔ perrSz perr ≤ 255) ∧
    ∃ out, (hwmpRecvActionMeshpath m efrm).value = some out ∧
      (Within efrm (hwmpRecvActionMeshpath m efrm) ↔ ∀ a, Elem m efrm 2 a → Readable m efrm a) ∧
      ((∀ len preq, .preq len preq ∈ out.found → preq.preqTargets ≠ []) ↔ ∀ a, Elem m efrm 2 a → ¬ Targetless m a) := by
  refine ⟨readsBack_preq, readsBack_prep prep, readsBack_perr_iff perr, ?_⟩
  obtain ⟨⟨out, hout, hall⟩, hreads⟩ := hwmpRecvActionMeshpath_spec m efrm
  refine ⟨out, hout, hreads.trans ?_, ?_⟩
  · exact forall_congr' fun a => ⟨fun h ha => (within_recvElement ha.fits).mp (h ha),
      fun h ha => (within_recvElement ha.fits).mpr (h ha)⟩
  · constructor
    · intro h a ha htargetless
      obtain ⟨len, preq, hfound, hnone⟩ := found_targetless.mpr htargetless
      exact h len preq ((hall _).mpr (.inr ⟨a, ha, hfound⟩)) hnone
    · intro h len preq hmem hnone
      rcases (hall _).mp hmem with hnil | ⟨a, ha, hfound⟩
      · cases hnil
      · exact h a ha (found_targetless.mp ⟨len, preq, hfound, hnone⟩)

/-- An empty PREQ at the end of the frame: its flags and its target count are looked for behind the end. -/
theorem read_behind_frame :
    ¬ Within 4 (hwmpRecvActionMeshpath (fun i => ([13, 1, 130, 0] : List (BitVec 8)).getD i 0) 4) := by
  decide

end Net80211.Mesh.Wire
