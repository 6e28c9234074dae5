import Wifi.Linux.Elements

/-!
# Searching for an element (`linux/net/wireless/scan.c`)

* `cfg80211FindElemMatch` — the function of `scan.c`; a pointer to an element is its offset in the
  buffer that is searched, together with the element.
* `cfg80211FindElem`, `cfg80211FindExtElem` — the inline functions of `<net/cfg80211.h>` over it.
* `EltType` — the type of an element, and `typeMatch_iff`: the search for the type of an element finds
  the elements of this type.

The lengths of buffers, `unsigned int` here and `size_t` at the callers, are below 2^32.
-/

namespace Wireless

variable (api : ElementApi)

/-- The condition of the search: `matchBytes` are `match_len` bytes at `matchOffset`. -/
def elemMatches (eid : Byte) (matchBytes : List Byte) (matchOffset : Nat) (elem : Element) : Bool :=
  decide (elem.id = eid) &&
    decide (matchOffset + matchBytes.length ≤ elem.datalen ∧
      (elem.data.drop matchOffset).take matchBytes.length = matchBytes)

def cfg80211FindElemMatch (eid : Byte) (ies : List Byte) (matchBytes : List Byte)
    (matchOffset : Nat) : Option (Nat × Element) :=
  (api.forEachElementAt ies).find? fun p => elemMatches eid matchBytes matchOffset p.2

/-- `cfg80211_find_elem`, which is also `cfg80211_find_ie` -/
def cfg80211FindElem (eid : Byte) (ies : List Byte) : Option Element :=
  (cfg80211FindElemMatch api eid ies [] 0).map Prod.snd

def cfg80211FindExtElem (extEid : Byte) (ies : List Byte) : Option Element :=
  (cfg80211FindElemMatch api WLAN_EID_EXTENSION ies [extEid] 0).map Prod.snd

/-! ## Types of elements -/

/-- The type of an element: its ID, or its extension ID. -/
inductive EltType where
  | plain (id : Byte)
  | ext (extId : Byte)
  deriving DecidableEq

/-- The type of an element.  A FRAGMENT continues another element, and an extension without an ID is
    nothing. -/
def typeOf (e : Element) : Option EltType :=
  if e.id = WLAN_EID_FRAGMENT then none
  else if e.id = WLAN_EID_EXTENSION then e.data.head?.map .ext
  else some (.plain e.id)

/-- `ext_id` and `match_len`: what the code searches for with the ID of an element. -/
def typeMatch (e : Element) : List Byte :=
  if e.id = WLAN_EID_EXTENSION then e.data.take 1 else []

/-- **A search for the type of an element matches the elements of this type.** -/
theorem typeMatch_iff {p e : Element} {t : EltType} (hp : typeOf p = some t) :
    elemMatches p.id (typeMatch p) 0 e = true ↔ typeOf e = some t := by
  unfold typeOf at hp
  split at hp
  · cases hp
  · rename_i hfrag
    split at hp
    · rename_i hext
      obtain ⟨x, hx, rfl⟩ := Option.map_eq_some_iff.1 hp
      obtain ⟨rest, hdata⟩ := List.head?_eq_some_iff.1 hx
      have hm : typeMatch p = [x] := by
        unfold typeMatch
        rw [if_pos hext, hdata]
        rfl
      unfold elemMatches typeOf
      rw [hm, Bool.and_eq_true, decide_eq_true_iff, decide_eq_true_iff, hext]
      constructor
      · intro ⟨hid, hlen, htake⟩
        rw [if_neg (by rw [hid]; decide), if_pos hid]
        cases hd : e.data with
        | nil => rw [hd] at htake; cases htake
        | cons y ys =>
          rw [hd] at htake
          simp only [List.drop_zero, List.length_singleton, List.take_succ_cons, List.take_zero,
            List.cons.injEq, and_true] at htake
          rw [htake]
          rfl
      · intro ht
        split at ht
        · cases ht
        · split at ht
          · rename_i hid
            obtain ⟨y, hy, hxy⟩ := Option.map_eq_some_iff.1 ht
            cases hxy
            obtain ⟨ys, hd⟩ := List.head?_eq_some_iff.1 hy
            refine ⟨hid, ?_, ?_⟩
            · unfold Element.datalen
              rw [hd]
              simp only [List.length_cons, List.length_nil]
              omega
            · rw [hd]
              rfl
          · cases ht
    · rename_i hext
      cases hp
      have hm : typeMatch p = [] := if_neg hext
      unfold elemMatches typeOf
      rw [hm, Bool.and_eq_true, decide_eq_true_iff, decide_eq_true_iff]
      constructor
      · intro ⟨hid, _⟩
        rw [hid, if_neg hfrag, if_neg hext]
      · intro ht
        split at ht
        · cases ht
        · split at ht
          · obtain ⟨y, -, hxy⟩ := Option.map_eq_some_iff.1 ht
            cases hxy
          · rw [Option.some.injEq, EltType.plain.injEq] at ht
            exact ⟨ht, Nat.zero_le _, rfl⟩

theorem elemMatches_eq {p : Element} {t : EltType} (hp : typeOf p = some t) :
    elemMatches p.id (typeMatch p) 0 = fun e => decide (typeOf e = some t) := by
  funext e
  rw [Bool.eq_iff_iff, typeMatch_iff hp, decide_eq_true_iff]

/-! ## Searching a list of elements -/

theorem offsets_shift (b : Nat) : ∀ (off : Nat) (es : List Element),
    (offsets off es).map (fun p => (b + p.1, p.2)) = offsets (b + off) es
  | _, [] => rfl
  | off, e :: es => by
    unfold offsets
    rw [List.map_cons, offsets_shift b _ es, Nat.add_assoc b, Nat.add_assoc b]

/-- The first element of a list of elements at offset `off` that a search matches. -/
def findFrom (f : Element → Bool) (off : Nat) (es : List Element) : Option (Nat × Element) :=
  (offsets off es).find? fun p => f p.2

theorem findFrom_cons (f : Element → Bool) (off : Nat) (e : Element) (es : List Element) :
    findFrom f off (e :: es) =
      if f e = true then some (off, e) else findFrom f (off + e.datalen + 2) es := by
  rw [findFrom, offsets, List.find?_cons]
  cases f e with
  | false => rfl
  | true => rfl

theorem findFrom_shift (f : Element → Bool) (b off : Nat) (es : List Element) :
    (findFrom f off es).map (fun p => (b + p.1, p.2)) = findFrom f (b + off) es := by
  unfold findFrom
  rw [← offsets_shift, List.find?_map]
  rfl

theorem findFrom_isSome {f : Element → Bool} : ∀ {off : Nat} {es : List Element},
    (findFrom f off es).isSome = true ↔ ∃ e ∈ es, f e = true := by
  intro off es
  induction es generalizing off with
  | nil => simp [findFrom, offsets]
  | cons x es ih =>
    rw [findFrom_cons]
    by_cases hx : f x = true
    · simp [hx]
    · simp [hx, ih]

theorem findElemMatch_bytes (eid : Byte) (es : List Element) (matchBytes : List Byte)
    (matchOffset : Nat) :
    cfg80211FindElemMatch api eid (elementBytes es) matchBytes matchOffset =
      findFrom (elemMatches eid matchBytes matchOffset) 0 es := by
  unfold cfg80211FindElemMatch ElementApi.forEachElementAt findFrom
  rw [api.forEachElement_bytes]

end Wireless
