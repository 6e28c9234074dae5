import Wifi.Lib.BoundedWriter
import Wifi.Wireless.FindElem

/-!
# Elements of a nontransmitted BSS (`linux/net/wireless/scan.c`)

Reference model of `cfg80211_gen_new_ie`, which merges the elements of a nontransmitted BSS profile
with those of the transmitted BSS.

* `cfg80211IsElementInherited`, `cfg80211CopyElemWithFrags`, `cfg80211GenNewIe` — the functions of
  `scan.c`.
* A writer returns what is in `new_ie` so far, as an error where the source returns 0; the length it
  returns otherwise is never 0.
-/

namespace Wireless

open BoundedWriter

variable (api : ElementApi)

def cfg80211IsElementInherited (elem : Element) (nonInheritElem : Option Element) : Bool :=
  if elem.id = WLAN_EID_MULTIPLE_BSSID then false
  else if elem.id = WLAN_EID_EXTENSION ∧ 1 < elem.datalen ∧
      elem.data.getD 0 0 = WLAN_EID_EXT_EHT_MULTI_LINK then false
  else
    match nonInheritElem with
    | none => true
    | some nonInherit =>
      if nonInherit.datalen < 2 then true
      else
        let idLen := (nonInherit.data.getD 1 0).toNat
        if nonInherit.datalen < 3 + idLen then true
        else
          let extIdLen := (nonInherit.data.getD (2 + idLen) 0).toNat
          if nonInherit.datalen < 3 + idLen + extIdLen then true
          else if elem.id = WLAN_EID_EXTENSION then
            if extIdLen = 0 then true
            else !((nonInherit.data.drop (3 + idLen)).take extIdLen).contains (elem.data.getD 0 0)
          else if idLen = 0 then true
          else !((nonInherit.data.drop 2).take idLen).contains elem.id

/-- The loop of `cfg80211_copy_elem_with_frags` over the elements that follow. -/
def copyFrags (bufLen : Nat) : List Element → List Byte → Except (List Byte) (List Byte)
  | [], out => .ok out
  | elem :: rest, out =>
    if elem.id ≠ WLAN_EID_FRAGMENT then .ok out
    else do
      let out ← put bufLen out elem.bytes
      if elem.datalen ≠ 255 then .ok out else copyFrags bufLen rest out

/-- `cfg80211_copy_elem_with_frags` of the element at `off` in `ie`. -/
def cfg80211CopyElemWithFrags (off : Nat) (elem : Element) (ie : List Byte) (bufLen : Nat)
    (out : List Byte) : Except (List Byte) (List Byte) :=
  -- WARN_ON
  if ie.length < off + elem.datalen + 2 then .error out
  else do
    let out ← put bufLen out elem.bytes
    if elem.datalen ≠ 255 then .ok out
    else copyFrags bufLen (api.forEachElement (ie.drop (off + elem.datalen + 2))) out

/-- The `while (sub)` loop of `cfg80211_gen_new_ie`; every round goes on behind `sub`, so that the
    length of `subie` bounds the rounds. -/
def copyMatches (eid : Byte) (matchBytes subie : List Byte) (newIeLen : Nat) :
    Nat → Option (Nat × Element) → List Byte → Except (List Byte) (List Byte)
  | _, none, out => .ok out
  | 0, some _, out => .error out
  | n + 1, some (off, sub), out => do
    let out ← cfg80211CopyElemWithFrags api off sub subie newIeLen out
    let next := off + sub.datalen + 2
    copyMatches eid matchBytes subie newIeLen n
      ((cfg80211FindElemMatch api eid (subie.drop next) matchBytes 0).map
        fun p => (next + p.1, p.2)) out

/-- The body of the loop over the parent, for an element with a type. -/
def parentStep (ie subie : List Byte) (nonInheritElem : Option Element) (newIeLen off : Nat)
    (parent : Element) (out : List Byte) : Except (List Byte) (List Byte) :=
  -- Find first occurrence in subie
  let sub := cfg80211FindElemMatch api parent.id subie (typeMatch parent) 0
  -- Copy from parent if not in subie and inherited
  if sub = none ∧ cfg80211IsElementInherited parent nonInheritElem = true then
    cfg80211CopyElemWithFrags api off parent ie newIeLen out
  -- Already copied if an earlier element had the same type
  else if (cfg80211FindElemMatch api parent.id (ie.take off) (typeMatch parent) 0).isSome then
    .ok out
  -- Not inheriting, copy all similar elements from subie
  else copyMatches api parent.id (typeMatch parent) subie newIeLen subie.length sub out

def parentLoop (ie subie : List Byte) (nonInheritElem : Option Element) (newIeLen : Nat) :
    List (Nat × Element) → List Byte → Except (List Byte) (List Byte)
  | [], out => .ok out
  | (off, parent) :: rest, out =>
    if parent.id = WLAN_EID_FRAGMENT then parentLoop ie subie nonInheritElem newIeLen rest out
    else if parent.id = WLAN_EID_EXTENSION ∧ parent.datalen < 1 then
      parentLoop ie subie nonInheritElem newIeLen rest out
    else do
      let out ← parentStep api ie subie nonInheritElem newIeLen off parent out
      parentLoop ie subie nonInheritElem newIeLen rest out

/-- The pass over `subie` for the elements that are not in the parent. -/
def subLoop (ie subie : List Byte) (newIeLen : Nat) :
    List (Nat × Element) → List Byte → Except (List Byte) (List Byte)
  | [], out => .ok out
  | (off, sub) :: rest, out =>
    if sub.id = WLAN_EID_NON_TX_BSSID_CAP then subLoop ie subie newIeLen rest out
    else if sub.id = WLAN_EID_FRAGMENT then subLoop ie subie newIeLen rest out
    else if sub.id = WLAN_EID_EXTENSION ∧ sub.datalen < 1 then subLoop ie subie newIeLen rest out
    else if sub.id = WLAN_EID_EXTENSION ∧ sub.data.getD 0 0 = WLAN_EID_EXT_NON_INHERITANCE then
      subLoop ie subie newIeLen rest out
    -- Processed if one was included in the parent
    else if (cfg80211FindElemMatch api sub.id ie (typeMatch sub) 0).isSome then
      subLoop ie subie newIeLen rest out
    else do
      let out ← cfg80211CopyElemWithFrags api off sub subie newIeLen out
      subLoop ie subie newIeLen rest out

/-- What `cfg80211_gen_new_ie` writes to `new_ie`, of `newIeLen` bytes. -/
def genNewIe (ie subie : List Byte) (newIeLen : Nat) : Except (List Byte) (List Byte) := do
  let nonInheritElem := cfg80211FindExtElem api WLAN_EID_EXT_NON_INHERITANCE subie
  let out ← parentLoop api ie subie nonInheritElem newIeLen (api.forEachElementAt ie) []
  subLoop api ie subie newIeLen (api.forEachElementAt subie) out

/-- `cfg80211_gen_new_ie`: the length it returns, and the bytes it has written. -/
def cfg80211GenNewIe (ie subie : List Byte) (newIeLen : Nat) : Nat × List Byte :=
  match genNewIe api ie subie newIeLen with
  | .ok out => (out.length, out)
  | .error out => (0, out)

end Wireless
