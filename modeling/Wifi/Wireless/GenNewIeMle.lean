import Mathlib.Tactic.SplitIfs
import Wifi.Wireless.GenNewIe

/-!
# A Multi-Link element among the inherited elements

The elements that `cfg80211_gen_new_ie` makes of a frame and a profile do not depend on what a Multi-Link element of the frame holds.

* `copyAt`, `stepAt`, `listLoop` — the loop over the parent, in terms of its elements; `parentLoop_eq` — it is that.
* `Same` — elements before which look the same to a search; `listLoop_same`, `listLoop_swap` — another Multi-Link element, with other
  fragments, makes no difference.
* `genNewIe_swap` — nor does it for `cfg80211_gen_new_ie`.
* `genNewIe_fits` — what `cfg80211_gen_new_ie` writes stays in its buffer, for every frame and profile.
-/

namespace Wireless

open BoundedWriter

variable (api : ElementApi)

/-- An element, with those behind it, is copied. -/
def copyAt (n : Nat) (e : Element) (post : List Element) (out : List Byte) : Except (List Byte) (List Byte) := do
  let out ← put n out e.bytes
  if e.datalen ≠ 255 then .ok out else copyFrags n post out

def stepAt (subie : List Byte) (nonInheritElem : Option Element) (n : Nat) (pre : List Element) (parent : Element) (post : List Element)
    (out : List Byte) : Except (List Byte) (List Byte) :=
  let sub := cfg80211FindElemMatch api parent.id subie (typeMatch parent) 0
  if sub = none ∧ cfg80211IsElementInherited parent nonInheritElem = true then copyAt n parent post out
  else if pre.any (elemMatches parent.id (typeMatch parent) 0) then .ok out
  else copyMatches api parent.id (typeMatch parent) subie n subie.length sub out

def listLoop (subie : List Byte) (nonInheritElem : Option Element) (n : Nat) :
    List Element → List Element → List Byte → Except (List Byte) (List Byte)
  | _, [], out => .ok out
  | pre, parent :: post, out =>
    if parent.id = WLAN_EID_FRAGMENT then listLoop subie nonInheritElem n (pre ++ [parent]) post out
    else if parent.id = WLAN_EID_EXTENSION ∧ parent.datalen < 1 then listLoop subie nonInheritElem n (pre ++ [parent]) post out
    else do
      let out ← stepAt api subie nonInheritElem n pre parent post out
      listLoop subie nonInheritElem n (pre ++ [parent]) post out

variable {api} {subie rest : List Byte} {nonInheritElem : Option Element} {n : Nat}

theorem findElemMatch_isSome_eq (es : List Element) (hrest : ¬ StartsElement rest) (eid : Byte) (matchBytes : List Byte) :
    (cfg80211FindElemMatch api eid (elementBytes es ++ rest) matchBytes 0).isSome = es.any (elemMatches eid matchBytes 0) := by
  have hoff : ∀ (es : List Element) (off : Nat), ((offsets off es).find? fun p => elemMatches eid matchBytes 0 p.2).isSome =
      es.any (elemMatches eid matchBytes 0) := by
    intro es
    induction es with
    | nil => exact fun _ => rfl
    | cons e es ih =>
      intro off
      unfold offsets
      rw [List.find?_cons, List.any_cons]
      cases elemMatches eid matchBytes 0 e with
      | true => rfl
      | false => exact ih _
  unfold cfg80211FindElemMatch ElementApi.forEachElementAt
  rw [api.forEachElement_eq es rest hrest]
  exact hoff es 0

theorem copyElemWithFrags_eq (hrest : ¬ StartsElement rest) (pre post : List Element) (e : Element) (out : List Byte) :
    cfg80211CopyElemWithFrags api (elementBytes pre).length e (elementBytes (pre ++ e :: post) ++ rest) n out = copyAt n e post out := by
  have hbytes : elementBytes (pre ++ e :: post) ++ rest = (elementBytes pre ++ e.bytes) ++ (elementBytes post ++ rest) := by
    rw [elementBytes_append, elementBytes_cons]
    simp only [List.append_assoc]
  have hlen : (elementBytes pre ++ e.bytes).length = (elementBytes pre).length + e.datalen + 2 := by
    rw [List.length_append, e.length_bytes, Nat.add_assoc]
  unfold cfg80211CopyElemWithFrags copyAt
  rw [if_neg (by rw [hbytes, List.length_append, hlen]; omega), hbytes, ← hlen, List.drop_left, api.forEachElement_eq post rest hrest]

theorem parentStep_eq (hrest : ¬ StartsElement rest) (pre post : List Element) (e : Element) (out : List Byte) :
    parentStep api (elementBytes (pre ++ e :: post) ++ rest) subie nonInheritElem n (elementBytes pre).length e out =
      stepAt api subie nonInheritElem n pre e post out := by
  have htake : (elementBytes (pre ++ e :: post) ++ rest).take (elementBytes pre).length = elementBytes pre ++ [] := by
    rw [elementBytes_append, List.append_assoc, List.take_left, List.append_nil]
  unfold parentStep stepAt
  rw [copyElemWithFrags_eq hrest, htake, findElemMatch_isSome_eq pre not_startsElement_nil]

/-- The loop over a parent that is elements, and a rest without any. -/
theorem parentLoop_eq (hrest : ¬ StartsElement rest) (post : List Element) : ∀ (pre : List Element) (out : List Byte),
    parentLoop api (elementBytes (pre ++ post) ++ rest) subie nonInheritElem n (offsets (elementBytes pre).length post) out =
      listLoop api subie nonInheritElem n pre post out := by
  induction post with
  | nil => exact fun _ _ => rfl
  | cons e post ih =>
    intro pre out
    have hlen : (elementBytes (pre ++ [e])).length = (elementBytes pre).length + e.datalen + 2 := by
      rw [elementBytes_append, elementBytes_singleton, List.length_append, e.length_bytes, Nat.add_assoc]
    have hnext := ih (pre ++ [e])
    rw [List.append_assoc, List.singleton_append, hlen] at hnext
    unfold offsets parentLoop listLoop
    rw [parentStep_eq hrest]
    simp only [hnext]

/-! ## Another Multi-Link element -/

/-- The elements look the same to a search for the type of an element. -/
def Same (pre pre' : List Element) : Prop := ∀ e : Element, e.id ≠ WLAN_EID_FRAGMENT → ¬ (e.id = WLAN_EID_EXTENSION ∧ e.datalen < 1) →
  pre.any (elemMatches e.id (typeMatch e) 0) = pre'.any (elemMatches e.id (typeMatch e) 0)

theorem Same.concat {pre pre' : List Element} (h : Same pre pre') (e : Element) : Same (pre ++ [e]) (pre' ++ [e]) := by
  intro e' hid hext
  rw [List.any_append, List.any_append, h e' hid hext]

theorem stepAt_same {pre pre' : List Element} (h : Same pre pre') {e : Element} (hid : e.id ≠ WLAN_EID_FRAGMENT)
    (hext : ¬ (e.id = WLAN_EID_EXTENSION ∧ e.datalen < 1)) (post : List Element) (out : List Byte) :
    stepAt api subie nonInheritElem n pre e post out = stepAt api subie nonInheritElem n pre' e post out := by
  unfold stepAt
  rw [h e hid hext]

theorem listLoop_same (post : List Element) : ∀ (pre pre' : List Element) (out : List Byte), Same pre pre' →
    listLoop api subie nonInheritElem n pre post out = listLoop api subie nonInheritElem n pre' post out := by
  induction post with
  | nil => exact fun _ _ _ _ => rfl
  | cons e post ih =>
    intro pre pre' out h
    have hnext := fun out => ih (pre ++ [e]) (pre' ++ [e]) out (h.concat e)
    unfold listLoop
    by_cases hid : e.id = WLAN_EID_FRAGMENT
    · rw [if_pos hid, if_pos hid, hnext]
    · rw [if_neg hid, if_neg hid]
      by_cases hext : e.id = WLAN_EID_EXTENSION ∧ e.datalen < 1
      · rw [if_pos hext, if_pos hext, hnext]
      · rw [if_neg hext, if_neg hext, stepAt_same h hid hext]
        simp only [hnext]

/-- **A Multi-Link element**, with the fragments behind it. -/
structure IsMle (mle : List Element) : Prop where
  exists_cons : ∃ e frags, mle = e :: frags ∧ e.id = WLAN_EID_EXTENSION ∧ e.data.head? = some WLAN_EID_EXT_EHT_MULTI_LINK ∧ 1 < e.datalen ∧
    ∀ f ∈ frags, f.id = WLAN_EID_FRAGMENT

theorem elemMatches_mle {e : Element} (hid : e.id = WLAN_EID_EXTENSION) (hhead : e.data.head? = some WLAN_EID_EXT_EHT_MULTI_LINK)
    (p : Element) : elemMatches p.id (typeMatch p) 0 e =
      decide (p.id = WLAN_EID_EXTENSION ∧ (typeMatch p = [] ∨ typeMatch p = [WLAN_EID_EXT_EHT_MULTI_LINK])) := by
  obtain ⟨tail, hdata⟩ : ∃ tail, e.data = WLAN_EID_EXT_EHT_MULTI_LINK :: tail := List.head?_eq_some_iff.mp hhead
  have hmatch : (typeMatch p).length ≤ 1 := by
    unfold typeMatch
    split
    · exact List.length_take_le _ _
    · exact Nat.zero_le _
  unfold elemMatches Element.datalen
  rw [hid, hdata, Bool.eq_iff_iff, Bool.and_eq_true, decide_eq_true_iff, decide_eq_true_iff, decide_eq_true_iff, eq_comm]
  refine and_congr_right fun _ => ?_
  match hm : typeMatch p, hmatch with
  | [], _ => simp
  | [x], _ => simp [eq_comm]

theorem any_mle {mle : List Element} (h : IsMle mle) {p : Element} (hid : p.id ≠ WLAN_EID_FRAGMENT) :
    mle.any (elemMatches p.id (typeMatch p) 0) =
      decide (p.id = WLAN_EID_EXTENSION ∧ (typeMatch p = [] ∨ typeMatch p = [WLAN_EID_EXT_EHT_MULTI_LINK])) := by
  obtain ⟨e, frags, rfl, heid, hhead, -, hfrags⟩ := h.exists_cons
  have hnone : frags.any (elemMatches p.id (typeMatch p) 0) = false := by
    rw [List.any_eq_false]
    intro f hf hmatch
    unfold elemMatches at hmatch
    rw [Bool.and_eq_true, decide_eq_true_iff] at hmatch
    exact hid (hmatch.1.symm.trans (hfrags f hf))
  rw [List.any_cons, hnone, Bool.or_false, elemMatches_mle heid hhead]

theorem same_mle {mle mle' : List Element} (h : IsMle mle) (h' : IsMle mle') (pre post : List Element) :
    Same (pre ++ (mle ++ post)) (pre ++ (mle' ++ post)) := by
  intro e hid _
  simp only [List.any_append]
  rw [any_mle h hid, any_mle h' hid]

theorem copyFrags_swap {a a' : Element} (ha : a.id ≠ WLAN_EID_FRAGMENT) (ha' : a'.id ≠ WLAN_EID_FRAGMENT) (x y : List Element)
    (post : List Element) : ∀ out, copyFrags n (post ++ a :: x) out = copyFrags n (post ++ a' :: y) out := by
  induction post with
  | nil =>
    intro out
    rw [List.nil_append, List.nil_append]
    unfold copyFrags
    rw [if_pos ha, if_pos ha']
  | cons e post ih =>
    intro out
    rw [List.cons_append, List.cons_append]
    unfold copyFrags
    simp only [ih]

theorem listLoop_frags (frags : List Element) (hfrags : ∀ f ∈ frags, f.id = WLAN_EID_FRAGMENT) (post : List Element) :
    ∀ pre out, listLoop api subie nonInheritElem n pre (frags ++ post) out = listLoop api subie nonInheritElem n (pre ++ frags) post out := by
  induction frags with
  | nil =>
    intro pre out
    rw [List.append_nil, List.nil_append]
  | cons f frags ih =>
    intro pre out
    rw [List.cons_append]
    conv => lhs; unfold listLoop
    rw [if_pos (hfrags f List.mem_cons_self), ih (fun g hg => hfrags g (List.mem_cons_of_mem _ hg)), List.append_assoc]
    rfl

/-- **Another Multi-Link element** makes no difference to the loop. -/
theorem listLoop_swap {mle mle' : List Element} (h : IsMle mle) (h' : IsMle mle') (after before : List Element) :
    ∀ pre out, listLoop api subie nonInheritElem n pre (before ++ (mle ++ after)) out =
      listLoop api subie nonInheritElem n pre (before ++ (mle' ++ after)) out := by
  obtain ⟨e, frags, rfl, hid, hhead, hlen, hfrags⟩ := h.exists_cons
  obtain ⟨e', frags', rfl, hid', hhead', hlen', hfrags'⟩ := h'.exists_cons
  induction before with
  | nil =>
    intro pre out
    rw [List.nil_append, List.nil_append, List.cons_append, List.cons_append]
    have htype : typeMatch e = typeMatch e' := by
      obtain ⟨tail, hdata⟩ : ∃ tail, e.data = WLAN_EID_EXT_EHT_MULTI_LINK :: tail := List.head?_eq_some_iff.mp hhead
      obtain ⟨tail', hdata'⟩ : ∃ tail, e'.data = WLAN_EID_EXT_EHT_MULTI_LINK :: tail := List.head?_eq_some_iff.mp hhead'
      unfold typeMatch
      rw [if_pos hid, if_pos hid', hdata, hdata']
      rfl
    have hskip : ∀ {m : Element}, m.id = WLAN_EID_EXTENSION → m.id ≠ WLAN_EID_FRAGMENT := by
      intro m hm
      rw [hm]
      decide
    have hinherit : ∀ {m : Element}, m.id = WLAN_EID_EXTENSION → m.data.head? = some WLAN_EID_EXT_EHT_MULTI_LINK → 1 < m.datalen →
        cfg80211IsElementInherited m nonInheritElem = false := by
      intro m hm hmhead hmlen
      obtain ⟨tail, hdata⟩ : ∃ tail, m.data = WLAN_EID_EXT_EHT_MULTI_LINK :: tail := List.head?_eq_some_iff.mp hmhead
      unfold cfg80211IsElementInherited
      rw [if_neg (by rw [hm]; decide), if_pos ⟨hm, hmlen, by rw [hdata]; rfl⟩]
    have hstep : stepAt api subie nonInheritElem n pre e (frags ++ after) out =
        stepAt api subie nonInheritElem n pre e' (frags' ++ after) out := by
      unfold stepAt
      rw [hinherit hid hhead hlen, hinherit hid' hhead' hlen', htype, hid, hid']
      simp only [Bool.false_eq_true, and_false, if_false]
    have hnext : ∀ out, listLoop api subie nonInheritElem n (pre ++ [e]) (frags ++ after) out =
        listLoop api subie nonInheritElem n (pre ++ [e']) (frags' ++ after) out := by
      intro out
      rw [listLoop_frags frags hfrags, listLoop_frags frags' hfrags', List.append_assoc, List.append_assoc]
      have hsame := same_mle h h' pre []
      rw [List.append_nil, List.append_nil] at hsame
      exact listLoop_same after _ _ out hsame
    unfold listLoop
    rw [if_neg (hskip hid), if_neg (hskip hid'), if_neg (by omega), if_neg (by omega), hstep]
    simp only [hnext]
  | cons b before ih =>
    intro pre out
    have hstep : ∀ out, stepAt api subie nonInheritElem n pre b (before ++ (e :: frags ++ after)) out =
        stepAt api subie nonInheritElem n pre b (before ++ (e' :: frags' ++ after)) out := by
      intro out
      have hne : e.id ≠ WLAN_EID_FRAGMENT := by
        rw [hid]
        decide
      have hne' : e'.id ≠ WLAN_EID_FRAGMENT := by
        rw [hid']
        decide
      unfold stepAt copyAt
      simp only [List.cons_append, copyFrags_swap hne hne' (frags ++ after) (frags' ++ after)]
    show listLoop api subie nonInheritElem n pre (b :: (before ++ (e :: frags ++ after))) out =
      listLoop api subie nonInheritElem n pre (b :: (before ++ (e' :: frags' ++ after))) out
    unfold listLoop
    simp only [ih, hstep]

/-- The pass over the profile asks the parent only whether it has elements of a type. -/
theorem subLoop_congr {ie ie' : List Byte} (hsame : ∀ e : Element, e.id ≠ WLAN_EID_FRAGMENT →
      ¬ (e.id = WLAN_EID_EXTENSION ∧ e.datalen < 1) → (cfg80211FindElemMatch api e.id ie (typeMatch e) 0).isSome =
        (cfg80211FindElemMatch api e.id ie' (typeMatch e) 0).isSome) (l : List (Nat × Element)) :
    ∀ out, subLoop api ie subie n l out = subLoop api ie' subie n l out := by
  induction l with
  | nil => exact fun _ => rfl
  | cons p l ih =>
    intro out
    obtain ⟨off, sub⟩ := p
    unfold subLoop
    by_cases hfrag : sub.id = WLAN_EID_FRAGMENT
    · simp only [ih, if_pos hfrag]
    · by_cases hext : sub.id = WLAN_EID_EXTENSION ∧ sub.datalen < 1
      · simp only [ih, if_pos hext]
      · simp only [ih, hsame sub hfrag hext]

/-- **What a Multi-Link element of the frame holds** makes no difference to the elements that are made of a frame and a profile. -/
theorem genNewIe_swap {mle mle' : List Element} (h : IsMle mle) (h' : IsMle mle') (before after : List Element)
    (hrest : ¬ StartsElement rest) (subie : List Byte) (n : Nat) :
    cfg80211GenNewIe api (elementBytes (before ++ (mle ++ after)) ++ rest) subie n =
      cfg80211GenNewIe api (elementBytes (before ++ (mle' ++ after)) ++ rest) subie n := by
  have hloop : ∀ (es : List Element) (nonInheritElem : Option Element) (out : List Byte),
      parentLoop api (elementBytes es ++ rest) subie nonInheritElem n (api.forEachElementAt (elementBytes es ++ rest)) out =
        listLoop api subie nonInheritElem n [] es out := by
    intro es nonInheritElem out
    unfold ElementApi.forEachElementAt
    rw [api.forEachElement_eq es rest hrest]
    exact parentLoop_eq hrest es [] out
  unfold cfg80211GenNewIe genNewIe
  simp only [hloop, listLoop_swap h h' after before]
  have hsub : ∀ l out, subLoop api (elementBytes (before ++ (mle ++ after)) ++ rest) subie n l out =
      subLoop api (elementBytes (before ++ (mle' ++ after)) ++ rest) subie n l out := by
    refine subLoop_congr fun e hid hext => ?_
    rw [findElemMatch_isSome_eq _ hrest, findElemMatch_isSome_eq _ hrest]
    exact same_mle h h' before after e hid hext
  simp only [hsub]

/-! ## The buffer -/

theorem copyFrags_fits (es : List Element) : ∀ out : List Byte, out.length ≤ n → Fits n (copyFrags n es out) := by
  induction es with
  | nil => exact fun out h => .ok h
  | cons e es ih =>
    intro out h
    unfold copyFrags
    split
    · exact .ok h
    · refine (put_fits h e.bytes).bind fun o ho => ?_
      split
      · exact .ok ho
      · exact ih o ho

theorem copyElemWithFrags_fits (off : Nat) (e : Element) (ie : List Byte) {out : List Byte} (h : out.length ≤ n) :
    Fits n (cfg80211CopyElemWithFrags api off e ie n out) := by
  unfold cfg80211CopyElemWithFrags
  split
  · exact .error h
  · refine (put_fits h e.bytes).bind fun o ho => ?_
    split
    · exact .ok ho
    · exact copyFrags_fits _ o ho

theorem copyMatches_fits (eid : Byte) (matchBytes : List Byte) (turns : Nat) : ∀ (sub : Option (Nat × Element)) (out : List Byte),
    out.length ≤ n → Fits n (copyMatches api eid matchBytes subie n turns sub out) := by
  induction turns with
  | zero =>
    intro sub out h
    cases sub with
    | none => exact .ok h
    | some p => exact .error h
  | succ turns ih =>
    intro sub out h
    cases sub with
    | none => exact .ok h
    | some p => exact (copyElemWithFrags_fits p.1 p.2 subie h).bind fun o ho => ih _ o ho

theorem parentLoop_fits (ie : List Byte) (l : List (Nat × Element)) : ∀ out : List Byte, out.length ≤ n →
    Fits n (parentLoop api ie subie nonInheritElem n l out) := by
  induction l with
  | nil => exact fun out h => .ok h
  | cons p l ih =>
    intro out h
    obtain ⟨off, e⟩ := p
    unfold parentLoop
    split
    · exact ih out h
    · split
      · exact ih out h
      · refine Fits.bind ?_ ih
        unfold parentStep
        dsimp only
        split
        · exact copyElemWithFrags_fits off e ie h
        · split
          · exact .ok h
          · exact copyMatches_fits _ _ _ _ out h

theorem subLoop_fits (ie : List Byte) (l : List (Nat × Element)) : ∀ out : List Byte, out.length ≤ n →
    Fits n (subLoop api ie subie n l out) := by
  induction l with
  | nil => exact fun out h => .ok h
  | cons p l ih =>
    intro out h
    obtain ⟨off, e⟩ := p
    unfold subLoop
    split_ifs
    · exact ih out h
    · exact ih out h
    · exact ih out h
    · exact ih out h
    · exact ih out h
    · exact (copyElemWithFrags_fits off e subie h).bind ih

/-- **What is written stays in the buffer**; the length that is returned is 0, or that of what is written. -/
theorem genNewIe_fits (api : ElementApi) (ie subie : List Byte) (n : Nat) :
    (cfg80211GenNewIe api ie subie n).2.length ≤ n ∧
      ((cfg80211GenNewIe api ie subie n).1 ≠ 0 → (cfg80211GenNewIe api ie subie n).1 = (cfg80211GenNewIe api ie subie n).2.length) := by
  have hfits : Fits n (genNewIe api ie subie n) :=
    (parentLoop_fits ie _ [] (Nat.zero_le n)).bind fun o ho => subLoop_fits ie _ o ho
  unfold cfg80211GenNewIe
  cases hres : genNewIe api ie subie n with
  | ok out => exact ⟨hfits out (.inl hres), fun _ => rfl⟩
  | error out => exact ⟨hfits out (.inr hres), fun h => absurd rfl h⟩

end Wireless
