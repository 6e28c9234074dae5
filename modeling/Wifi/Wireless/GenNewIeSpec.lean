import Wifi.Wireless.Inheritance

/-!
# What `cfg80211_gen_new_ie` writes

* `copyElemWithFrags_writes`, `copyMatches_writes`, `parentLoop_writes`, `subLoop_writes` — the loops
  write the groups of `Wifi.Wireless.Inheritance`.
* `genNewIe_inherits` — **the result is the merged list of elements**, or 0 when there is no room
  for it.
-/

namespace Wireless

open BoundedWriter

variable (api : ElementApi)

theorem copyFrags_writes {n : Nat} : ∀ (es : List Element) {out : List Byte}, out.length ≤ n →
    Writes n out (copyFrags n es out) (elementBytes (fragmentsOf es))
  | [], _, h => Writes.nil h
  | e :: es, out, h => by
    unfold copyFrags fragmentsOf
    split
    · exact Writes.nil h
    · split
      · rw [elementBytes_singleton]
        exact (put_writes h e.bytes).bind_ok
      · rw [elementBytes_cons]
        exact (put_writes h e.bytes).bind fun h' => copyFrags_writes es h'

theorem drop_elementBytes (pre post : List Element) (e : Element) :
    (elementBytes (pre ++ e :: post)).drop ((elementBytes pre).length + e.datalen + 2) =
      elementBytes post := by
  rw [elementBytes_append, elementBytes_cons, ← List.append_assoc, Nat.add_assoc, ← e.length_bytes,
    ← List.length_append, List.drop_left]

theorem take_elementBytes (pre post : List Element) :
    (elementBytes (pre ++ post)).take (elementBytes pre).length = elementBytes pre := by
  rw [elementBytes_append, List.take_left]

/-- An element of a list is copied with its continuation. -/
theorem copyElemWithFrags_writes {n : Nat} {out : List Byte} (h : out.length ≤ n)
    (pre post : List Element) (e : Element) :
    Writes n out
      (cfg80211CopyElemWithFrags api (elementBytes pre).length e (elementBytes (pre ++ e :: post)) n
        out)
      (elementBytes (e :: continuation e post)) := by
  unfold cfg80211CopyElemWithFrags continuation
  have hlen : (elementBytes (pre ++ e :: post)).length =
      (elementBytes pre).length + (e.datalen + 2 + (elementBytes post).length) := by
    rw [elementBytes_append, List.length_append, length_elementBytes_cons]
  rw [if_neg (by omega), drop_elementBytes, api.forEachElement_bytes]
  split
  · rw [elementBytes_singleton]
    exact (put_writes h e.bytes).bind_ok
  · rw [elementBytes_cons]
    exact (put_writes h e.bytes).bind fun h' => copyFrags_writes post h'

def groupBytes (gs : List Group) : List Byte := elementBytes (ungroup gs)

theorem groupBytes_cons (g : Group) (gs : List Group) :
    groupBytes (g :: gs) = elementBytes (g.1 :: g.2) ++ groupBytes gs := by
  unfold groupBytes
  rw [← elementBytes_append]
  rfl

theorem groupBytes_append (gs gs' : List Group) :
    groupBytes (gs ++ gs') = groupBytes gs ++ groupBytes gs' := by
  unfold groupBytes ungroup
  rw [List.flatMap_append, elementBytes_append]

/-- The `while (sub)` loop copies the occurrences from `sub` on, and the length of the buffer is fuel
    enough. -/
theorem copyMatches_writes {n : Nat} {eid : Byte} {m : List Byte} {t : EltType}
    (hm : elemMatches eid m 0 = fun e => decide (typeOf e = some t)) :
    ∀ (post pre : List Element) (fuel : Nat) {out : List Byte}, post.length ≤ fuel →
      out.length ≤ n →
      Writes n out
        (copyMatches api eid m (elementBytes (pre ++ post)) n fuel
          (findFrom (elemMatches eid m 0) (elementBytes pre).length post) out)
        (groupBytes (occurrences t post))
  | [], pre, fuel, out, _, h => by
    have hf : findFrom (elemMatches eid m 0) (elementBytes pre).length [] = none := rfl
    rw [hf]
    unfold copyMatches
    exact Writes.nil h
  | e :: post, pre, fuel, out, hfuel, h => by
    have hpre : (elementBytes pre).length + e.datalen + 2 = (elementBytes (pre ++ [e])).length := by
      rw [elementBytes_append, List.length_append, length_elementBytes_cons]
      rfl
    rw [findFrom_cons]
    unfold occurrences
    by_cases ht : typeOf e = some t
    · have hme : elemMatches eid m 0 e = true := by rw [hm]; exact decide_eq_true ht
      rw [if_pos hme, if_pos ht, groupBytes_cons]
      cases fuel with
      | zero => exact absurd hfuel (by rw [List.length_cons]; omega)
      | succ fuel =>
        unfold copyMatches
        refine (copyElemWithFrags_writes api h pre post e).bind fun h' => ?_
        dsimp only
        rw [drop_elementBytes, findElemMatch_bytes, findFrom_shift, Nat.add_zero, hpre,
          List.append_cons]
        exact copyMatches_writes hm post (pre ++ [e]) fuel (Nat.le_of_succ_le_succ hfuel) h'
    · have hme : ¬ elemMatches eid m 0 e = true := by
        rw [hm, decide_eq_true_iff]
        exact ht
      rw [if_neg hme, if_neg ht, hpre, List.append_cons]
      exact copyMatches_writes hm post (pre ++ [e]) fuel (Nat.le_of_succ_le hfuel) h

theorem findElemMatch_isSome {p : Element} {t : EltType} (ht : typeOf p = some t)
    (es : List Element) :
    (cfg80211FindElemMatch api p.id (elementBytes es) (typeMatch p) 0).isSome = true ↔
      Occurs t es := by
  rw [findElemMatch_bytes, findFrom_isSome, elemMatches_eq ht]
  simp only [decide_eq_true_iff]
  rfl

theorem parentStep_writes {n : Nat} {out : List Byte} (h : out.length ≤ n)
    {pre post child : List Element} {nonInherit : Option Element} {p : Element} {t : EltType}
    (ht : typeOf p = some t) :
    Writes n out
      (parentStep api (elementBytes (pre ++ p :: post)) (elementBytes child) nonInherit n
        (elementBytes pre).length p out)
      (groupBytes (parentGroup child nonInherit pre p post t)) := by
  unfold parentStep parentGroup
  have hchild := findElemMatch_isSome api ht child
  have hpre := findElemMatch_isSome api ht pre
  simp only [take_elementBytes, ← Option.not_isSome_iff_eq_none, hchild, hpre]
  split
  · rw [groupBytes_cons]
    have hw := copyElemWithFrags_writes api h pre post p
    rwa [show groupBytes [] = [] from rfl, List.append_nil]
  · split
    · exact Writes.nil h
    · rw [findElemMatch_bytes]
      exact copyMatches_writes api (elemMatches_eq ht) child [] _ (length_le_elementBytes child) h

/-- The elements that both loops skip because they have no type. -/
theorem typeOf_none_iff {e : Element} :
    typeOf e = none ↔ e.id = WLAN_EID_FRAGMENT ∨ (e.id = WLAN_EID_EXTENSION ∧ e.datalen < 1) := by
  unfold typeOf Element.datalen
  by_cases hf : e.id = WLAN_EID_FRAGMENT
  · simp [hf]
  · by_cases hx : e.id = WLAN_EID_EXTENSION
    · rw [if_neg hf, if_pos hx, Option.map_eq_none_iff, List.head?_eq_none_iff,
        ← List.length_eq_zero_iff, Nat.lt_one_iff]
      exact ⟨fun h => .inr ⟨hx, h⟩, fun h => h.elim (fun h => absurd h hf) And.right⟩
    · simp [hf, hx]

theorem parentLoop_writes {n : Nat} (child : List Element) (nonInherit : Option Element) :
    ∀ (post pre : List Element) {out : List Byte}, out.length ≤ n →
      Writes n out
        (parentLoop api (elementBytes (pre ++ post)) (elementBytes child) nonInherit n
          (offsets (elementBytes pre).length post) out)
        (groupBytes (parentGroups child nonInherit pre post))
  | [], _, _, h => Writes.nil h
  | p :: post, pre, out, h => by
    have hpre : (elementBytes pre).length + p.datalen + 2 = (elementBytes (pre ++ [p])).length := by
      rw [elementBytes_append, List.length_append, length_elementBytes_cons]
      rfl
    have ih := fun {out : List Byte} (h : out.length ≤ n) =>
      parentLoop_writes child nonInherit post (pre ++ [p]) h
    rw [← hpre, ← List.append_cons] at ih
    unfold offsets parentLoop parentGroups
    cases ht : typeOf p with
    | none =>
      rcases typeOf_none_iff.1 ht with hf | hx
      · rw [if_pos hf]
        exact ih h
      · rw [if_neg (by rw [hx.1]; decide), if_pos hx]
        exact ih h
    | some t =>
      have hskip : ¬ (p.id = WLAN_EID_FRAGMENT ∨ (p.id = WLAN_EID_EXTENSION ∧ p.datalen < 1)) := by
        rw [← typeOf_none_iff, ht]
        exact fun h => by cases h
      rw [not_or] at hskip
      rw [if_neg hskip.1, if_neg hskip.2]
      simp only
      rw [groupBytes_append]
      exact (parentStep_writes api h ht).bind fun h' => ih h'

theorem special_iff {c : Element} {t : EltType} (ht : typeOf c = some t) :
    Special t ↔ c.id = WLAN_EID_NON_TX_BSSID_CAP ∨
      (c.id = WLAN_EID_EXTENSION ∧ c.data.getD 0 0 = WLAN_EID_EXT_NON_INHERITANCE) := by
  unfold Special
  rcases typeOf_cases ht with ⟨hx, rfl⟩ | ⟨hx, rfl⟩
  · have hne : ¬ WLAN_EID_EXTENSION = WLAN_EID_NON_TX_BSSID_CAP := by decide
    simp [hx, hne]
  · simp [hx]

theorem subLoop_writes {n : Nat} (parent : List Element) :
    ∀ (post pre : List Element) {out : List Byte}, out.length ≤ n →
      Writes n out
        (subLoop api (elementBytes parent) (elementBytes (pre ++ post)) n
          (offsets (elementBytes pre).length post) out)
        (groupBytes (subGroups parent post))
  | [], _, _, h => Writes.nil h
  | c :: post, pre, out, h => by
    have hpre : (elementBytes pre).length + c.datalen + 2 = (elementBytes (pre ++ [c])).length := by
      rw [elementBytes_append, List.length_append, length_elementBytes_cons]
      rfl
    have ih := fun {out : List Byte} (h : out.length ≤ n) =>
      subLoop_writes parent post (pre ++ [c]) h
    rw [← hpre, ← List.append_cons] at ih
    unfold offsets subLoop subGroups
    cases ht : typeOf c with
    | none =>
      rcases typeOf_none_iff.1 ht with hf | hx
      · rw [if_neg (by rw [hf]; decide), if_pos hf]
        exact ih h
      · rw [if_neg (by rw [hx.1]; decide), if_neg (by rw [hx.1]; decide), if_pos hx]
        exact ih h
    | some t =>
      have hskip : ¬ (c.id = WLAN_EID_FRAGMENT ∨ (c.id = WLAN_EID_EXTENSION ∧ c.datalen < 1)) := by
        rw [← typeOf_none_iff, ht]
        exact fun h => by cases h
      rw [not_or] at hskip
      have hspecial := special_iff ht
      have hparent := findElemMatch_isSome api ht parent
      simp only
      by_cases hs : Special t
      · rw [if_pos (show Special t ∨ Occurs t parent from .inl hs)]
        rcases hspecial.1 hs with hid | hid
        · rw [if_pos hid]
          exact ih h
        · rw [if_neg (by rw [hid.1]; decide), if_neg hskip.1, if_neg hskip.2, if_pos hid]
          exact ih h
      · have hns := hs
        rw [hspecial, not_or] at hns
        rw [if_neg hns.1, if_neg hskip.1, if_neg hskip.2, if_neg hns.2]
        by_cases hp : Occurs t parent
        · rw [if_pos (hparent.2 hp), if_pos (show Special t ∨ Occurs t parent from .inr hp)]
          exact ih h
        · rw [if_neg fun h => hp (hparent.1 h),
            if_neg fun h : Special t ∨ Occurs t parent => h.elim hs hp, groupBytes_cons]
          exact (copyElemWithFrags_writes api h pre post c).bind fun h' => ih h'

/-- **Inheritance of elements.**  For lists of elements of the
    transmitted BSS (without elements about a profile) and of the profile, there is one list of
    elements, for all sizes of the buffer, that holds of every type the expected occurrences, each
    with its continuation, and nothing else.  The result is this list when there is room for it, and
    0 when there is not; nothing is written past the end of the buffer. -/
theorem genNewIe_inherits (parent child : List Element)
    (hp : ∀ t, Occurs t parent → ¬ Special t) :
    ∃ result : List Element,
      (∀ t, occurrences t result = expected parent child
        (cfg80211FindExtElem api WLAN_EID_EXT_NON_INHERITANCE (elementBytes child)) t) ∧
      (result = ungroup (allGroups result) ∧ ∀ g ∈ allGroups result, ∃ t, typeOf g.1 = some t) ∧
      ∀ newIeLen : Nat,
        ((elementBytes result).length ≤ newIeLen →
          cfg80211GenNewIe api (elementBytes parent) (elementBytes child) newIeLen =
            ((elementBytes result).length, elementBytes result)) ∧
        (newIeLen < (elementBytes result).length →
          (cfg80211GenNewIe api (elementBytes parent) (elementBytes child) newIeLen).1 = 0 ∧
          (cfg80211GenNewIe api (elementBytes parent) (elementBytes child) newIeLen).2.length ≤
            newIeLen) := by
  obtain ⟨nonInherit, hni⟩ : ∃ e, e =
      cfg80211FindExtElem api WLAN_EID_EXT_NON_INHERITANCE (elementBytes child) := ⟨_, rfl⟩
  have hgroup := merged_isGroup parent child nonInherit
  have hall := allGroups_ungroup hgroup
  refine ⟨ungroup (merged parent child nonInherit), ?_, ⟨?_, ?_⟩, ?_⟩
  · intro t
    rw [← hni]
    exact occurrences_merged hp t
  · rw [hall]
  · intro g hg
    rw [hall] at hg
    exact (hgroup g hg).typed
  · intro n
    have hw : Writes n [] (genNewIe api (elementBytes parent) (elementBytes child) n)
        (groupBytes (merged parent child nonInherit)) := by
      unfold genNewIe merged
      simp only [ElementApi.forEachElementAt, api.forEachElement_bytes, ← hni]
      rw [groupBytes_append]
      exact (parentLoop_writes api _ _ parent [] (Nat.zero_le n)).bind fun h' =>
        subLoop_writes api _ child [] h'
    obtain ⟨hfit, hover⟩ := hw
    rw [List.length_nil, Nat.zero_add] at hfit hover
    unfold cfg80211GenNewIe
    refine ⟨fun hle => ?_, fun hlt => ?_⟩
    · rw [hfit hle]
      rfl
    · obtain ⟨o, hr, ho⟩ := hover hlt
      rw [hr]
      exact ⟨rfl, ho⟩

/-- The parent's element 1, which a child with only an SSID inherits. -/
theorem genNewIe_inherits_ssid :
    ∃ result : List Element, elementBytes result = [1, 0, 0, 2, 7, 8] ∧
      ∀ t, occurrences t result = expected [⟨1, [], by decide⟩] [⟨0, [7, 8], by decide⟩] none t := by
  obtain ⟨result, hocc, -, hn⟩ := genNewIe_inherits .linux [⟨1, [], by decide⟩]
    [⟨0, [7, 8], by decide⟩] (by
      intro t ⟨e, he, ht⟩
      rw [List.mem_singleton.1 he] at ht
      cases ht
      decide)
  have hrun : cfg80211GenNewIe .linux (elementBytes [⟨1, [], by decide⟩])
      (elementBytes [⟨0, [7, 8], by decide⟩]) 6 = (6, [1, 0, 0, 2, 7, 8]) := by decide
  obtain ⟨hfit, hover⟩ := hn 6
  rw [hrun] at hfit hover
  refine ⟨result, ?_, hocc⟩
  rcases Nat.lt_or_ge 6 (elementBytes result).length with hlt | hle
  · cases (hover hlt).1
  · exact (congrArg Prod.snd (hfit hle)).symm

end Wireless
