import Wifi.Wireless.GenNewIe

/-!
# Inheritance of elements

What `cfg80211_gen_new_ie` computes, as lists of elements.

* `Group` — an element with the FRAGMENT elements that continue it; `occurrences` — those of one type
  in a list of elements.
* `parentGroups`, `subGroups` — the groups that the two passes copy.
* `expected` — the occurrences of a type in the result, and `occurrences_merged`: the two passes
  together copy these.
-/

namespace Wireless

/-! ## Groups -/

/-- An element, and the FRAGMENT elements that continue it. -/
abbrev Group := Element × List Element

def Group.elements (g : Group) : List Element := g.1 :: g.2

/-- FRAGMENT elements, up to the first that is not full. -/
def fragmentsOf : List Element → List Element
  | [] => []
  | e :: es =>
    if e.id ≠ WLAN_EID_FRAGMENT then []
    else if e.datalen ≠ 255 then [e] else e :: fragmentsOf es

/-- The continuation of an element that is followed by `es`. -/
def continuation (e : Element) (es : List Element) : List Element :=
  if e.datalen ≠ 255 then [] else fragmentsOf es

/-- The groups that start with an element of type `t`. -/
def occurrences (t : EltType) : List Element → List Group
  | [] => []
  | e :: es =>
    if typeOf e = some t then (e, continuation e es) :: occurrences t es else occurrences t es

def allGroups : List Element → List Group
  | [] => []
  | e :: es =>
    if e.id = WLAN_EID_FRAGMENT then allGroups es else (e, continuation e es) :: allGroups es

theorem fragmentsOf_fragment : ∀ {es : List Element}, ∀ f ∈ fragmentsOf es, f.id = WLAN_EID_FRAGMENT
  | [], f, hf => (List.not_mem_nil hf).elim
  | e :: es, f, hf => by
    unfold fragmentsOf at hf
    split at hf
    · cases hf
    · rename_i he
      have he : e.id = WLAN_EID_FRAGMENT := not_not.1 he
      split at hf
      · rw [List.mem_singleton.1 hf]
        exact he
      · cases List.mem_cons.1 hf with
        | inl h => rw [h]; exact he
        | inr h => exact fragmentsOf_fragment f h

theorem continuation_fragment {e : Element} {es : List Element} :
    ∀ f ∈ continuation e es, f.id = WLAN_EID_FRAGMENT := by
  intro f hf
  unfold continuation at hf
  split at hf
  · cases hf
  · exact fragmentsOf_fragment f hf

def NoFragment (es : List Element) : Prop := ∀ e ∈ es.head?, e.id ≠ WLAN_EID_FRAGMENT

theorem fragmentsOf_noFragment {rest : List Element} (hr : NoFragment rest) :
    fragmentsOf rest = [] := by
  cases rest with
  | nil => rfl
  | cons e rest => exact if_pos (hr e rfl)

theorem fragmentsOf_append {rest : List Element} (hr : NoFragment rest) :
    ∀ es : List Element, fragmentsOf (fragmentsOf es ++ rest) = fragmentsOf es
  | [] => fragmentsOf_noFragment hr
  | e :: es => by
    by_cases he : e.id = WLAN_EID_FRAGMENT
    · by_cases hl : e.datalen = 255
      · have hf : fragmentsOf (e :: es) = e :: fragmentsOf es := by
          rw [fragmentsOf, if_neg (not_not.2 he), if_neg (not_not.2 hl)]
        rw [hf, List.cons_append, fragmentsOf, if_neg (not_not.2 he), if_neg (not_not.2 hl),
          fragmentsOf_append hr es]
      · have hf : ∀ l, fragmentsOf (e :: l) = [e] := by
          intro l
          rw [fragmentsOf, if_neg (not_not.2 he), if_pos hl]
        rw [hf, List.singleton_append, hf]
    · have hf : fragmentsOf (e :: es) = [] := by rw [fragmentsOf, if_pos he]
      rw [hf]
      exact fragmentsOf_noFragment hr

theorem continuation_append {rest : List Element} (hr : NoFragment rest) (e : Element)
    (es : List Element) : continuation e (continuation e es ++ rest) = continuation e es := by
  unfold continuation
  split
  · rfl
  · exact fragmentsOf_append hr es

/-- An element with its whole continuation, of an element that has a type. -/
structure IsGroup (g : Group) : Prop where
  typed : ∃ t, typeOf g.1 = some t
  whole : ∃ es, g.2 = continuation g.1 es

theorem typeOf_fragment {e : Element} (h : e.id = WLAN_EID_FRAGMENT) : typeOf e = none := if_pos h

theorem IsGroup.not_fragment {g : Group} (h : IsGroup g) : g.1.id ≠ WLAN_EID_FRAGMENT := by
  obtain ⟨t, ht⟩ := h.typed
  intro hf
  rw [typeOf_fragment hf] at ht
  cases ht

def ungroup (gs : List Group) : List Element := gs.flatMap Group.elements

theorem ungroup_cons (g : Group) (gs : List Group) :
    ungroup (g :: gs) = g.1 :: (g.2 ++ ungroup gs) := rfl

theorem ungroup_noFragment : ∀ {gs : List Group}, (∀ g ∈ gs, IsGroup g) → NoFragment (ungroup gs)
  | [], _ => fun e he => by cases he
  | g :: gs, h => by
    intro e he
    cases he
    exact (h g List.mem_cons_self).not_fragment

theorem allGroups_fragments {rest : List Element} : ∀ {fs : List Element},
    (∀ f ∈ fs, f.id = WLAN_EID_FRAGMENT) → allGroups (fs ++ rest) = allGroups rest
  | [], _ => rfl
  | f :: fs, h => by
    rw [List.cons_append, allGroups, if_pos (h f List.mem_cons_self)]
    exact allGroups_fragments fun x hx => h x (List.mem_cons_of_mem _ hx)

/-- **Groups that are written one after the other are read back.** -/
theorem allGroups_ungroup : ∀ {gs : List Group}, (∀ g ∈ gs, IsGroup g) → allGroups (ungroup gs) = gs
  | [], _ => rfl
  | g :: gs, h => by
    have hg := h g List.mem_cons_self
    have htail : ∀ g' ∈ gs, IsGroup g' := fun g' hg' => h g' (List.mem_cons_of_mem _ hg')
    obtain ⟨es, hes⟩ := hg.whole
    have hcont : continuation g.1 (g.2 ++ ungroup gs) = g.2 := by
      rw [hes]
      exact continuation_append (ungroup_noFragment htail) g.1 es
    have hfs : ∀ f ∈ g.2, f.id = WLAN_EID_FRAGMENT := by
      rw [hes]
      exact continuation_fragment
    rw [ungroup_cons, allGroups, if_neg hg.not_fragment, hcont, allGroups_fragments hfs,
      allGroups_ungroup htail]

theorem occurrences_eq_filter (t : EltType) : ∀ es : List Element,
    occurrences t es = (allGroups es).filter fun g => decide (typeOf g.1 = some t)
  | [] => rfl
  | e :: es => by
    have ih := occurrences_eq_filter t es
    unfold occurrences allGroups
    by_cases hf : e.id = WLAN_EID_FRAGMENT
    · rw [typeOf_fragment hf, if_neg (fun h => by cases h), if_pos hf, ih]
    · rw [if_neg hf, List.filter_cons]
      by_cases ht : typeOf e = some t
      · rw [if_pos ht, if_pos (decide_eq_true ht), ih]
      · rw [if_neg ht, if_neg (by rw [decide_eq_true_iff]; exact ht), ih]

theorem occurrences_ungroup {gs : List Group} (h : ∀ g ∈ gs, IsGroup g) (t : EltType) :
    occurrences t (ungroup gs) = gs.filter fun g => decide (typeOf g.1 = some t) := by
  rw [occurrences_eq_filter, allGroups_ungroup h]

theorem mem_occurrences {t : EltType} {g : Group} : ∀ {es : List Element},
    g ∈ occurrences t es → g.1 ∈ es ∧ typeOf g.1 = some t ∧ IsGroup g
  | [], h => (List.not_mem_nil h).elim
  | e :: es, h => by
    unfold occurrences at h
    split at h
    · rename_i ht
      cases List.mem_cons.1 h with
      | inl h =>
        subst h
        exact ⟨List.mem_cons_self, ht, ⟨t, ht⟩, es, rfl⟩
      | inr h =>
        obtain ⟨hm, hg⟩ := mem_occurrences h
        exact ⟨List.mem_cons_of_mem _ hm, hg⟩
    · obtain ⟨hm, hg⟩ := mem_occurrences h
      exact ⟨List.mem_cons_of_mem _ hm, hg⟩

def Occurs (t : EltType) (es : List Element) : Prop := ∃ e ∈ es, typeOf e = some t

instance (t : EltType) (es : List Element) : Decidable (Occurs t es) :=
  inferInstanceAs (Decidable (∃ e ∈ es, typeOf e = some t))

theorem occurrences_of_not_occurs {t : EltType} {es : List Element} (h : ¬ Occurs t es) :
    occurrences t es = [] := by
  rw [List.eq_nil_iff_forall_not_mem]
  intro g hg
  obtain ⟨hm, ht, -⟩ := mem_occurrences hg
  exact h ⟨g.1, hm, ht⟩

/-! ## The two passes -/

/-- The elements that only the profile itself is about. -/
def Special (t : EltType) : Prop :=
  t = .plain WLAN_EID_NON_TX_BSSID_CAP ∨ t = .ext WLAN_EID_EXT_NON_INHERITANCE

instance (t : EltType) : Decidable (Special t) :=
  inferInstanceAs (Decidable (_ ∨ _))

/-- What the first pass copies for the parent `p` of type `t`, which `pre` precedes. -/
def parentGroup (child : List Element) (nonInherit : Option Element) (pre : List Element)
    (p : Element) (post : List Element) (t : EltType) : List Group :=
  if ¬ Occurs t child ∧ cfg80211IsElementInherited p nonInherit = true then [(p, continuation p post)]
  else if Occurs t pre then [] else occurrences t child

def parentGroups (child : List Element) (nonInherit : Option Element) :
    List Element → List Element → List Group
  | _, [] => []
  | pre, p :: post =>
    match typeOf p with
    | none => parentGroups child nonInherit (pre ++ [p]) post
    | some t =>
      parentGroup child nonInherit pre p post t ++ parentGroups child nonInherit (pre ++ [p]) post

def subGroups (parent : List Element) : List Element → List Group
  | [] => []
  | c :: post =>
    match typeOf c with
    | none => subGroups parent post
    | some t =>
      if Special t ∨ Occurs t parent then subGroups parent post
      else (c, continuation c post) :: subGroups parent post

theorem parentGroup_isGroup (child : List Element) (nonInherit : Option Element)
    (pre post : List Element) {p : Element} {t : EltType} (ht : typeOf p = some t) :
    ∀ g ∈ parentGroup child nonInherit pre p post t, typeOf g.1 = some t ∧ IsGroup g := by
  intro g hg
  unfold parentGroup at hg
  split at hg
  · rw [List.mem_singleton.1 hg]
    exact ⟨ht, ⟨t, ht⟩, post, rfl⟩
  · split at hg
    · cases hg
    · exact (mem_occurrences hg).2

theorem parentGroups_isGroup {child : List Element} {nonInherit : Option Element} :
    ∀ {pre post : List Element}, ∀ g ∈ parentGroups child nonInherit pre post, IsGroup g
  | _, [], g, hg => (List.not_mem_nil hg).elim
  | pre, p :: post, g, hg => by
    unfold parentGroups at hg
    split at hg
    · exact parentGroups_isGroup g hg
    · rename_i t ht
      cases List.mem_append.1 hg with
      | inl h => exact (parentGroup_isGroup _ _ _ _ ht g h).2
      | inr h => exact parentGroups_isGroup g h

theorem subGroups_isGroup {parent : List Element} : ∀ {post : List Element},
    ∀ g ∈ subGroups parent post, IsGroup g
  | [], g, hg => (List.not_mem_nil hg).elim
  | c :: post, g, hg => by
    unfold subGroups at hg
    split at hg
    · exact subGroups_isGroup g hg
    · rename_i t ht
      split at hg
      · exact subGroups_isGroup g hg
      · cases List.mem_cons.1 hg with
        | inl h => rw [h]; exact ⟨⟨t, ht⟩, post, rfl⟩
        | inr h => exact subGroups_isGroup g h

/-! ## Occurrences in the result -/

def ofType (t : EltType) (gs : List Group) : List Group :=
  gs.filter fun g => decide (typeOf g.1 = some t)

theorem ofType_append (t : EltType) (gs gs' : List Group) :
    ofType t (gs ++ gs') = ofType t gs ++ ofType t gs' := List.filter_append ..

theorem ofType_eq_self {t : EltType} {gs : List Group} (h : ∀ g ∈ gs, typeOf g.1 = some t) :
    ofType t gs = gs := List.filter_eq_self.2 fun g hg => decide_eq_true (h g hg)

theorem ofType_eq_nil {t t' : EltType} {gs : List Group} (h : ∀ g ∈ gs, typeOf g.1 = some t')
    (ht : t' ≠ t) : ofType t gs = [] := by
  refine List.filter_eq_nil_iff.2 fun g hg => ?_
  rw [decide_eq_true_iff, h g hg, Option.some.injEq]
  exact ht

theorem occurs_cons {t : EltType} {e : Element} {es : List Element} :
    Occurs t (e :: es) ↔ typeOf e = some t ∨ Occurs t es := by
  unfold Occurs
  simp only [List.mem_cons, or_and_right, exists_or, exists_eq_left]

theorem occurs_concat {t : EltType} {e : Element} {es : List Element} :
    Occurs t (es ++ [e]) ↔ typeOf e = some t ∨ Occurs t es := by
  unfold Occurs
  simp only [List.mem_append, List.mem_singleton, or_and_right, exists_or, exists_eq_left]
  exact or_comm

theorem ofType_parentGroup {child : List Element} {nonInherit : Option Element}
    {pre post : List Element} {p : Element} {t t' : EltType} (ht : typeOf p = some t') :
    ofType t (parentGroup child nonInherit pre p post t') =
      if t' = t then parentGroup child nonInherit pre p post t else [] := by
  have htypes := fun g hg =>
    (parentGroup_isGroup child nonInherit pre post ht
      g hg).1
  by_cases h : t' = t
  · subst h
    rw [if_pos rfl]
    exact ofType_eq_self htypes
  · rw [if_neg h]
    exact ofType_eq_nil htypes h

/-- A type of the child: the first pass copies the child's occurrences, once. -/
theorem ofType_parentGroups_child {child : List Element} (nonInherit : Option Element) {t : EltType}
    (hc : Occurs t child) : ∀ pre post : List Element,
    ofType t (parentGroups child nonInherit pre post) =
      if Occurs t post ∧ ¬ Occurs t pre then occurrences t child else []
  | pre, [] => (if_neg fun ⟨⟨_, hm, _⟩, _⟩ => List.not_mem_nil hm).symm
  | pre, p :: post => by
    have ih := ofType_parentGroups_child nonInherit hc (pre ++ [p]) post
    simp only [occurs_concat] at ih
    simp only [occurs_cons]
    unfold parentGroups
    split
    · rename_i hn
      simp only [ih, hn, reduceCtorEq, false_or]
    · rename_i t' ht
      rw [ofType_append, ofType_parentGroup ht, ih]
      simp only [ht, Option.some.injEq]
      by_cases hx : t' = t
      · have hg : parentGroup child nonInherit pre p post t =
            if Occurs t pre then [] else occurrences t child := if_neg fun h => h.1 hc
        rw [hg]
        by_cases hp : Occurs t pre
        · simp [hx, hp]
        · simp [hx, hp]
      · simp [hx]

/-- A type that the child does not have: the first pass copies what is inherited. -/
theorem ofType_parentGroups_parent {child : List Element} (nonInherit : Option Element)
    {t : EltType} (hc : ¬ Occurs t child) : ∀ pre post : List Element,
    ofType t (parentGroups child nonInherit pre post) =
      (occurrences t post).filter fun g => cfg80211IsElementInherited g.1 nonInherit
  | pre, [] => rfl
  | pre, p :: post => by
    have ih := ofType_parentGroups_parent nonInherit hc (pre ++ [p]) post
    unfold parentGroups occurrences
    split
    · rename_i hn
      rw [ih, hn, if_neg (fun h : none = some t => by cases h)]
    · rename_i t' ht
      rw [ofType_append, ofType_parentGroup ht, ih]
      simp only [ht, Option.some.injEq]
      by_cases hx : t' = t
      · rw [if_pos hx, if_pos hx, List.filter_cons]
        unfold parentGroup
        rw [occurrences_of_not_occurs hc, ite_self]
        by_cases hi : cfg80211IsElementInherited p nonInherit = true
        · rw [if_pos ⟨hc, hi⟩, if_pos hi]
          rfl
        · rw [if_neg fun h => hi h.2, if_neg hi]
          rfl
      · rw [if_neg hx, if_neg hx]
        rfl

theorem ofType_subGroups (parent : List Element) (t : EltType) : ∀ child : List Element,
    ofType t (subGroups parent child) =
      if Special t ∨ Occurs t parent then [] else occurrences t child
  | [] => by
    rw [show occurrences t [] = [] from rfl, ite_self]
    rfl
  | c :: post => by
    have ih := ofType_subGroups parent t post
    unfold subGroups occurrences
    split
    · rename_i hn
      rw [ih, hn, if_neg (fun h : none = some t => by cases h)]
    · rename_i t' ht
      simp only [ht, Option.some.injEq]
      by_cases hx : t' = t
      · subst hx
        by_cases hs : Special t' ∨ Occurs t' parent
        · rw [if_pos hs, if_pos hs, ih, if_pos hs]
        · rw [if_neg hs] at ih
          rw [if_neg hs, if_neg hs, if_pos rfl, ofType, List.filter_cons,
            if_pos (decide_eq_true ht)]
          exact congrArg _ ih
      · rw [if_neg hx]
        split
        · exact ih
        · rw [ofType, List.filter_cons, if_neg (by rw [decide_eq_true_iff, ht]; simpa using hx)]
          exact ih

/-- The occurrences of a type in the result: those of the child, if it has any, but for the elements
    about the profile; else those of the parent that are inherited. -/
def expected (parent child : List Element) (nonInherit : Option Element) (t : EltType) :
    List Group :=
  if Occurs t child then if Special t then [] else occurrences t child
  else (occurrences t parent).filter fun g => cfg80211IsElementInherited g.1 nonInherit

theorem typeOf_cases {e : Element} {t : EltType} (he : typeOf e = some t) :
    (e.id = WLAN_EID_EXTENSION ∧ t = .ext (e.data.getD 0 0)) ∨
      (e.id ≠ WLAN_EID_EXTENSION ∧ t = .plain e.id) := by
  unfold typeOf at he
  split at he
  · cases he
  · split at he
    · rename_i hx
      obtain ⟨x, hd, rfl⟩ := Option.map_eq_some_iff.1 he
      obtain ⟨rest, hdata⟩ := List.head?_eq_some_iff.1 hd
      exact .inl ⟨hx, by rw [hdata]; rfl⟩
    · rename_i hx
      exact .inr ⟨hx, (Option.some.inj he).symm⟩

def merged (parent child : List Element) (nonInherit : Option Element) : List Group :=
  parentGroups child nonInherit [] parent ++ subGroups parent child

theorem merged_isGroup (parent child : List Element) (nonInherit : Option Element) :
    ∀ g ∈ merged parent child nonInherit, IsGroup g := by
  intro g hg
  cases List.mem_append.1 hg with
  | inl h => exact parentGroups_isGroup g h
  | inr h => exact subGroups_isGroup g h

/-- **The two passes copy the expected occurrences of every type.** -/
theorem occurrences_merged {parent child : List Element} {nonInherit : Option Element}
    (hp : ∀ t, Occurs t parent → ¬ Special t) (t : EltType) :
    occurrences t (ungroup (merged parent child nonInherit)) =
      expected parent child nonInherit t := by
  have hnil : ¬ Occurs t [] := fun ⟨_, hm, _⟩ => List.not_mem_nil hm
  rw [occurrences_ungroup (merged_isGroup parent child nonInherit)]
  change ofType t (parentGroups child nonInherit [] parent ++ subGroups parent child) = _
  rw [ofType_append, ofType_subGroups]
  unfold expected
  by_cases hc : Occurs t child
  · rw [if_pos hc, ofType_parentGroups_child _ hc]
    by_cases hpar : Occurs t parent
    · rw [if_pos ⟨hpar, hnil⟩, if_pos (.inr hpar), if_neg (hp t hpar), List.append_nil]
    · rw [if_neg fun h => hpar h.1, List.nil_append]
      by_cases hs : Special t
      · rw [if_pos (.inl hs), if_pos hs]
      · rw [if_neg fun h => h.elim hs hpar, if_neg hs]
  · rw [if_neg hc, ofType_parentGroups_parent _ hc, occurrences_of_not_occurs hc, ite_self,
      List.append_nil]

end Wireless
