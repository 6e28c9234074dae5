import Mathlib.Tactic.Common

/-!
# Information elements (`<linux/ieee80211.h>`)

The header is not in the tree.  The model takes its iteration over elements as a parameter:

* `Element` — `struct element`, with the data it is followed by.
* `ElementApi` — `for_each_element`, and what it is documented to visit.
* `ElementApi.linux` — the macro of the kernel header, an instance.
* `ElementApi.split` — every buffer is the elements that are visited and a rest that holds none.
-/

abbrev Byte := BitVec 8

/-- `struct element`: `datalen` is a `u8`. -/
structure Element where
  id : Byte
  data : List Byte
  data_lt : data.length < 256
  deriving DecidableEq

def WLAN_EID_SSID : Byte := 0
def WLAN_EID_MULTIPLE_BSSID : Byte := 71
def WLAN_EID_NON_TX_BSSID_CAP : Byte := 83
def WLAN_EID_FRAGMENT : Byte := 242
def WLAN_EID_EXTENSION : Byte := 255
def WLAN_EID_EXT_NON_INHERITANCE : Byte := 56
def WLAN_EID_EXT_EHT_MULTI_LINK : Byte := 107

namespace Element

def datalen (e : Element) : Nat := e.data.length

def bytes (e : Element) : List Byte := e.id :: BitVec.ofNat 8 e.datalen :: e.data

theorem length_bytes (e : Element) : e.bytes.length = e.datalen + 2 := rfl

end Element

def elementBytes (es : List Element) : List Byte := es.flatMap Element.bytes

theorem elementBytes_cons (e : Element) (es : List Element) :
    elementBytes (e :: es) = e.bytes ++ elementBytes es := List.flatMap_cons

theorem elementBytes_singleton (e : Element) : elementBytes [e] = e.bytes :=
  List.flatMap_singleton ..

theorem elementBytes_append (es es' : List Element) :
    elementBytes (es ++ es') = elementBytes es ++ elementBytes es' := List.flatMap_append

theorem length_elementBytes_cons (e : Element) (es : List Element) :
    (elementBytes (e :: es)).length = e.datalen + 2 + (elementBytes es).length := by
  rw [elementBytes_cons, List.length_append, e.length_bytes]

theorem length_le_elementBytes : ∀ es : List Element, es.length ≤ (elementBytes es).length
  | [] => Nat.zero_le _
  | e :: es => by
    have ih := length_le_elementBytes es
    rw [length_elementBytes_cons, List.length_cons]
    omega

/-- An element lies at the start of the buffer, wholly inside it. -/
def StartsElement (buf : List Byte) : Prop := ∃ (e : Element) (rest : List Byte), buf = e.bytes ++ rest

/-- The elements of a list, each with its offset, when the first is at `off`. -/
def offsets : Nat → List Element → List (Nat × Element)
  | _, [] => []
  | off, e :: es => (off, e) :: offsets (off + e.datalen + 2) es

structure ElementApi where
  /-- `for_each_element` -/
  forEachElement : List Byte → List Element
  /-- It visits the elements one by one, and stops where no element lies wholly inside. -/
  forEachElement_eq : ∀ (es : List Element) (rest : List Byte), ¬ StartsElement rest →
    forEachElement (elementBytes es ++ rest) = es

/-- `for_each_element`, each element with its offset in the buffer. -/
def ElementApi.forEachElementAt (api : ElementApi) (buf : List Byte) : List (Nat × Element) :=
  offsets 0 (api.forEachElement buf)

theorem not_startsElement_nil : ¬ StartsElement [] := by
  intro ⟨e, rest, h⟩
  cases h

theorem ElementApi.forEachElement_bytes (api : ElementApi) (es : List Element) :
    api.forEachElement (elementBytes es) = es := by
  have h := api.forEachElement_eq es [] not_startsElement_nil
  rwa [List.append_nil] at h

/-- The loop of the macro, for buffers of up to `n` elements. -/
def elementLoop : Nat → List Byte → List Element
  | n + 1, id :: len :: rest =>
    if h : len.toNat ≤ rest.length then
      { id := id
        data := rest.take len.toNat
        data_lt := by rw [List.length_take, Nat.min_eq_left h]; exact len.isLt } ::
        elementLoop n (rest.drop len.toNat)
    else []
  | _, _ => []

/-- An element at the start of a buffer that holds its length byte and its data. -/
theorem startsElement_of_le {id len : Byte} {rest : List Byte} (h : len.toNat ≤ rest.length) :
    StartsElement (id :: len :: rest) := by
  have hl : (rest.take len.toNat).length = len.toNat := by
    rw [List.length_take, Nat.min_eq_left h]
  refine ⟨⟨id, rest.take len.toNat, by rw [hl]; exact len.isLt⟩, rest.drop len.toNat, ?_⟩
  have hb : BitVec.ofNat 8 (rest.take len.toNat).length = len := by
    rw [hl, BitVec.ofNat_toNat, BitVec.setWidth_eq]
  calc id :: len :: rest = id :: len :: (rest.take len.toNat ++ rest.drop len.toNat) := by
        rw [List.take_append_drop]
    _ = id :: BitVec.ofNat 8 (rest.take len.toNat).length ::
          (rest.take len.toNat ++ rest.drop len.toNat) := by rw [hb]

theorem elementLoop_rest {rest : List Byte} (h : ¬ StartsElement rest) (n : Nat) :
    elementLoop n rest = [] := by
  unfold elementLoop
  split
  · split
    · rename_i hle
      exact absurd (startsElement_of_le hle) h
    · rfl
  · rfl

theorem elementLoop_bytes {rest : List Byte} (h : ¬ StartsElement rest) :
    ∀ (es : List Element) (n : Nat), es.length ≤ n → elementLoop n (elementBytes es ++ rest) = es
  | [], n, _ => elementLoop_rest h n
  | e :: es, 0, hn => absurd hn (by rw [List.length_cons]; omega)
  | e :: es, n + 1, hn => by
    have hlen : (BitVec.ofNat 8 e.datalen).toNat = e.data.length := by
      rw [BitVec.toNat_ofNat]
      exact Nat.mod_eq_of_lt e.data_lt
    have ih := elementLoop_bytes h es n (Nat.le_of_succ_le_succ hn)
    rw [elementBytes_cons, List.append_assoc]
    unfold Element.bytes
    rw [List.cons_append, List.cons_append]
    unfold elementLoop
    rw [dif_pos (by rw [hlen, List.length_append]; omega)]
    simp only [hlen, List.drop_left, List.take_left, ih]

def ElementApi.linux : ElementApi where
  forEachElement buf := elementLoop buf.length buf
  forEachElement_eq es rest h := by
    refine elementLoop_bytes h es _ ?_
    have hle := length_le_elementBytes es
    rw [List.length_append]
    omega

/-- **Every buffer is the elements that are visited and a rest that holds none.** -/
theorem ElementApi.split (api : ElementApi) (buf : List Byte) :
    ∃ rest, ¬ StartsElement rest ∧ buf = elementBytes (api.forEachElement buf) ++ rest := by
  have hex : ∀ (n : Nat) (buf : List Byte), buf.length ≤ n →
      ∃ (es : List Element) (rest : List Byte),
        ¬ StartsElement rest ∧ buf = elementBytes es ++ rest := by
    intro n
    induction n with
    | zero =>
      intro buf hn
      cases buf with
      | nil => exact ⟨[], [], not_startsElement_nil, rfl⟩
      | cons => cases hn
    | succ n ih =>
      intro buf hn
      by_cases hs : StartsElement buf
      · obtain ⟨e, rest, rfl⟩ := hs
        rw [List.length_append, e.length_bytes] at hn
        obtain ⟨es, rest', hr, rfl⟩ := ih rest (by omega)
        exact ⟨e :: es, rest', hr, by rw [elementBytes_cons, List.append_assoc]⟩
      · exact ⟨[], buf, hs, rfl⟩
  obtain ⟨es, rest, hr, rfl⟩ := hex buf.length buf (Nat.le_refl _)
  exact ⟨rest, hr, by rw [api.forEachElement_eq es rest hr]⟩
