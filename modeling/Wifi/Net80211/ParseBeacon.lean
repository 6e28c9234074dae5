import Mathlib.Logic.Function.Basic
import Wifi.Lib.ReadLog

/-!
# Parsing of beacons and probe responses (`freebsd/sys/net80211/ieee80211_input.c`)

* `ScanParams`, `Elem` — the parameters that are filled in, and their element pointers.
* `iswpaoui`, `iswmeparam`, `ishtcapoui` and the others — the tests of a vendor element (`ieee80211_input.h`).
* `parseElement`, `parseLoop`, `verifyElements` — the switch, the loop around it, and the checks behind it.
* `parseBeacon` — `ieee80211_parse_beacon`, with every byte of the frame that is read.
* `Kind`, `Sound` — what is asked of a pointer, and of a call.
* `elements`, `Parsable` — the elements of a frame, and the condition on them.
* `parseBeacon_sound_iff` — when a call is sound.

Messages and statistics are left out.
-/

namespace Net80211.Beacon

open ReadLog

/-! ## Data -/

/-- `enum ieee80211_phytype` -/
inductive Phytype where
  | ds
  | fh
  | ofdm
  | turbo
  | ht
  | ofdmHalf
  | ofdmQuarter
  | vht
  deriving DecidableEq, Repr

/-- The interface: `IEEE80211_FHT_HTCOMPAT` in `iv_flags_ht`, `ic_phytype`, and the options of the kernel;
    `bchan` is `ieee80211_chan2ieee` of the channel the frame was received on. -/
structure Vap where
  icPhytype : Phytype
  htcompat : Bool
  supportMesh : Bool
  supportSuperg : Bool
  supportTdma : Bool
  bchan : BitVec 8
  deriving DecidableEq, Repr

/-- The element pointers of `struct ieee80211_scanparams`. -/
inductive Elem where
  | tim
  | country
  | ssid
  | rates
  | xrates
  | doth
  | wpa
  | rsn
  | wme
  | htcap
  | htinfo
  | ath
  | tdma
  | csa
  | quiet
  | meshid
  | meshconf
  | vhtcap
  | vhtopmode
  deriving DecidableEq, Repr

/-- `struct ieee80211_scanparams`; a pointer is an address, or `none`. -/
structure ScanParams where
  status : BitVec 32
  chan : BitVec 8
  bchan : BitVec 8
  fhindex : BitVec 8
  fhdwell : BitVec 16
  capinfo : BitVec 16
  erp : BitVec 16
  bintval : BitVec 16
  timoff : BitVec 8
  ies : Option Nat
  iesLen : Nat
  tstamp : Option Nat
  ptr : Elem → Option Nat

/-- `scan->f = frm` -/
def ScanParams.set (scan : ScanParams) (f : Elem) (frm : Nat) : ScanParams :=
  { scan with ptr := Function.update scan.ptr f (some frm) }

/-- `scan->f = NULL` -/
def ScanParams.drop (scan : ScanParams) (f : Elem) : ScanParams :=
  { scan with ptr := Function.update scan.ptr f none }

/-- `scan->status |= bit` -/
def ScanParams.fail (scan : ScanParams) (bit : BitVec 32) : ScanParams :=
  { scan with status := scan.status ||| bit }

def IEEE80211_BPARSE_BADIELEN : BitVec 32 := 0x01
def IEEE80211_BPARSE_RATES_INVALID : BitVec 32 := 0x02
def IEEE80211_BPARSE_XRATES_INVALID : BitVec 32 := 0x04
def IEEE80211_BPARSE_SSID_INVALID : BitVec 32 := 0x08
def IEEE80211_BPARSE_OFFCHAN : BitVec 32 := 0x20
def IEEE80211_BPARSE_BINTVAL_INVALID : BitVec 32 := 0x40
def IEEE80211_BPARSE_CSA_INVALID : BitVec 32 := 0x80
def IEEE80211_BPARSE_MESHID_INVALID : BitVec 32 := 0x100

abbrev IEEE80211_ELEMID_SSID : BitVec 8 := 0
abbrev IEEE80211_ELEMID_RATES : BitVec 8 := 1
abbrev IEEE80211_ELEMID_FHPARMS : BitVec 8 := 2
abbrev IEEE80211_ELEMID_DSPARMS : BitVec 8 := 3
abbrev IEEE80211_ELEMID_TIM : BitVec 8 := 5
abbrev IEEE80211_ELEMID_COUNTRY : BitVec 8 := 7
abbrev IEEE80211_ELEMID_CSA : BitVec 8 := 37
abbrev IEEE80211_ELEMID_QUIET : BitVec 8 := 40
abbrev IEEE80211_ELEMID_ERP : BitVec 8 := 42
abbrev IEEE80211_ELEMID_HTCAP : BitVec 8 := 45
abbrev IEEE80211_ELEMID_RSN : BitVec 8 := 48
abbrev IEEE80211_ELEMID_XRATES : BitVec 8 := 50
abbrev IEEE80211_ELEMID_HTINFO : BitVec 8 := 61
abbrev IEEE80211_ELEMID_MESHCONF : BitVec 8 := 113
abbrev IEEE80211_ELEMID_MESHID : BitVec 8 := 114
abbrev IEEE80211_ELEMID_VHT_CAP : BitVec 8 := 191
abbrev IEEE80211_ELEMID_VHT_OPMODE : BitVec 8 := 192
abbrev IEEE80211_ELEMID_VENDOR : BitVec 8 := 221

def WPA_OUI : BitVec 32 := 0xf25000
def WPA_OUI_TYPE : BitVec 32 := 0x01
def WME_OUI : BitVec 32 := 0xf25000
def WME_OUI_TYPE : BitVec 32 := 0x02
def WME_INFO_OUI_SUBTYPE : BitVec 8 := 0x00
def WME_PARAM_OUI_SUBTYPE : BitVec 8 := 0x01
def ATH_OUI : BitVec 32 := 0x7f0300
def ATH_OUI_TYPE : BitVec 32 := 0x01
def TDMA_OUI : BitVec 32 := ATH_OUI
def TDMA_OUI_TYPE : BitVec 32 := 0x02
def BCM_OUI : BitVec 32 := 0x4c9000
def BCM_OUI_HTCAP : BitVec 32 := 51
def BCM_OUI_HTINFO : BitVec 32 := 52

def IEEE80211_RATE_MAXSIZE : Nat := 15
def IEEE80211_NWID_LEN : Nat := 32
def IEEE80211_MESHID_LEN : Nat := 32
def IEEE80211_BINTVAL_MIN : Nat := 25
def IEEE80211_BINTVAL_MAX : Nat := 1000

/-- `sizeof(struct ieee80211_frame)` -/
def sizeofFrame : Nat := 24
/-- `sizeof(struct ieee80211_ie_htcap)` -/
def sizeofHtcap : Nat := 28
/-- `sizeof(struct ieee80211_ie_htinfo)` -/
def sizeofHtinfo : Nat := 24
/-- `sizeof(struct ieee80211_vht_cap)` -/
def sizeofVhtCap : Nat := 12
/-- `sizeof(struct ieee80211_vht_operation)` -/
def sizeofVhtOperation : Nat := 5

section Code

variable (m : Nat → BitVec 8) (vap : Vap)

/-! ## Vendor elements -/

def le16dec (p : Nat) : ReadLog (BitVec 16) := do
  let lo ← byte m p
  let hi ← byte m (p + 1)
  pure (hi ++ lo)

def le32dec (p : Nat) : ReadLog (BitVec 32) := do
  let lo ← le16dec m p
  let hi ← le16dec m (p + 2)
  pure (hi ++ lo)

/-- `frm[1] > 3 && le32dec(frm+2) == oui` -/
def isoui (oui : BitVec 32) (frm : Nat) : ReadLog Bool := do
  let len ← byte m (frm + 1)
  if len.toNat > 3 then
    let w ← le32dec m (frm + 2)
    pure (w == oui)
  else pure false

def iswpaoui : Nat → ReadLog Bool := isoui m (WPA_OUI_TYPE <<< 24 ||| WPA_OUI)

/-- `iswmeparam` and `iswmeinfo`, which differ in the subtype -/
def iswmesubtype (subtype : BitVec 8) (frm : Nat) : ReadLog Bool := do
  let len ← byte m (frm + 1)
  if len.toNat > 5 then
    let w ← le32dec m (frm + 2)
    if w == WME_OUI_TYPE <<< 24 ||| WME_OUI then
      let b ← byte m (frm + 6)
      pure (b == subtype)
    else pure false
  else pure false

def iswmeparam : Nat → ReadLog Bool := iswmesubtype m WME_PARAM_OUI_SUBTYPE
def iswmeinfo : Nat → ReadLog Bool := iswmesubtype m WME_INFO_OUI_SUBTYPE
def isatherosoui : Nat → ReadLog Bool := isoui m (ATH_OUI_TYPE <<< 24 ||| ATH_OUI)
def istdmaoui : Nat → ReadLog Bool := isoui m (TDMA_OUI_TYPE <<< 24 ||| TDMA_OUI)
def ishtcapoui : Nat → ReadLog Bool := isoui m (BCM_OUI_HTCAP <<< 24 ||| BCM_OUI)
def ishtinfooui : Nat → ReadLog Bool := isoui m (BCM_OUI_HTINFO <<< 24 ||| BCM_OUI)

/-- The test of an option that may not be compiled in. -/
def compiled (option : Bool) (test : ReadLog Bool) : ReadLog Bool :=
  if option then test else pure false

/-- `case IEEE80211_ELEMID_VENDOR` -/
def parseVendor (frm : Nat) (scan : ScanParams) : ReadLog ScanParams := do
  if ← iswpaoui m frm then pure (scan.set .wpa frm)
  else if ← iswmeparam m frm then pure (scan.set .wme frm)
  else if ← iswmeinfo m frm then pure (scan.set .wme frm)
  else if ← compiled vap.supportSuperg (isatherosoui m frm) then pure (scan.set .ath frm)
  else if ← compiled vap.supportTdma (istdmaoui m frm) then pure (scan.set .tdma frm)
  else if vap.htcompat then
    if ← ishtcapoui m frm then
      if scan.ptr .htcap = none then pure (scan.set .htcap frm) else pure scan
    else if ← ishtinfooui m frm then
      -- it is stored in `htcap`, though `htinfo` is what was looked at
      if scan.ptr .htinfo = none then pure (scan.set .htcap frm) else pure scan
    else pure scan
  else pure scan

/-! ## The elements -/

/-- The body of the switch; `data` is where the frame starts. -/
def parseElement (data frm : Nat) (scan : ScanParams) : ReadLog ScanParams := do
  let id ← byte m frm
  if id = IEEE80211_ELEMID_SSID then pure (scan.set .ssid frm)
  else if id = IEEE80211_ELEMID_RATES then pure (scan.set .rates frm)
  else if id = IEEE80211_ELEMID_COUNTRY then pure (scan.set .country frm)
  else if id = IEEE80211_ELEMID_CSA then pure (scan.set .csa frm)
  else if id = IEEE80211_ELEMID_QUIET then pure (scan.set .quiet frm)
  else if id = IEEE80211_ELEMID_FHPARMS then
    if vap.icPhytype = .fh then
      let fhdwell ← le16dec m (frm + 2)
      let set ← byte m (frm + 4)
      let pat ← byte m (frm + 5)
      let fhindex ← byte m (frm + 6)
      -- `IEEE80211_FH_CHAN(set, pat)`
      pure { scan with fhdwell := fhdwell, chan := (set - 1) * 80 + pat, fhindex := fhindex }
    else pure scan
  else if id = IEEE80211_ELEMID_DSPARMS then
    if vap.icPhytype ≠ .fh then
      let chan ← byte m (frm + 2)
      pure { scan with chan := chan }
    else pure scan
  else if id = IEEE80211_ELEMID_TIM then
    pure { scan.set .tim frm with timoff := BitVec.ofNat 8 (frm - data) }
  else if id = IEEE80211_ELEMID_XRATES then pure (scan.set .xrates frm)
  else if id = IEEE80211_ELEMID_ERP then
    let len ← byte m (frm + 1)
    if len ≠ 1 then pure scan
    else
      let erp ← byte m (frm + 2)
      pure { scan with erp := erp.setWidth 16 ||| 0x100 }
  else if id = IEEE80211_ELEMID_HTCAP then pure (scan.set .htcap frm)
  else if id = IEEE80211_ELEMID_VHT_CAP then pure (scan.set .vhtcap frm)
  else if id = IEEE80211_ELEMID_VHT_OPMODE then pure (scan.set .vhtopmode frm)
  else if id = IEEE80211_ELEMID_RSN then pure (scan.set .rsn frm)
  else if id = IEEE80211_ELEMID_HTINFO then pure (scan.set .htinfo frm)
  else if vap.supportMesh ∧ id = IEEE80211_ELEMID_MESHID then pure (scan.set .meshid frm)
  else if vap.supportMesh ∧ id = IEEE80211_ELEMID_MESHCONF then pure (scan.set .meshconf frm)
  else if id = IEEE80211_ELEMID_VENDOR then parseVendor m vap frm scan
  else pure scan

/-- The loop over the elements up to `efrm`, with a bound on its rounds: each of them takes two bytes or more.  A
    function that returns in the loop does so with `error`. -/
def parseLoop (data efrm : Nat) : Nat → Nat → ScanParams → ReadLog (Except ScanParams ScanParams)
  | 0, _, scan => pure (.ok scan)
  | fuel + 1, frm, scan => do
    if efrm - frm > 1 then
      let len ← byte m (frm + 1)
      if efrm - frm < len.toNat + 2 then
        pure (.error { scan with status := IEEE80211_BPARSE_BADIELEN })
      else
        let scan ← parseElement m vap data frm scan
        let len ← byte m (frm + 1)
        parseLoop data efrm fuel (frm + (len.toNat + 2)) scan
    else pure (.ok scan)

/-! ## The checks -/

/-- `IEEE80211_VERIFY_ELEMENT(scan->f, maxlen, scan->status |= bit)` -/
def verifyElement (f : Elem) (maxlen : Int) (bit : BitVec 32) (scan : ScanParams) : ReadLog ScanParams :=
  match scan.ptr f with
  | none => pure (scan.fail bit)
  | some p => do
    let len ← byte m (p + 1)
    if len.toNat > maxlen then pure (scan.fail bit) else pure scan

/-- `IEEE80211_VERIFY_LENGTH(scan->f[1], minlen, scan->f = NULL)`, for a pointer that is not `NULL` -/
def verifyLength (f : Elem) (minlen : Nat) (scan : ScanParams) : ReadLog ScanParams :=
  match scan.ptr f with
  | none => pure scan
  | some p => do
    let len ← byte m (p + 1)
    if len.toNat < minlen then pure (scan.drop f) else pure scan

/-- The same for an element that is standard or pre-draft; `size` is that of its structure. -/
def verifyHtLength (f : Elem) (size : Nat) (scan : ScanParams) : ReadLog ScanParams :=
  match scan.ptr f with
  | none => pure scan
  | some p => do
    let id ← byte m p
    verifyLength m f (if id = IEEE80211_ELEMID_VENDOR then 4 + size - 2 else size - 2) scan

/-- The check of the extended rates, which are not looked at without rates. -/
def verifyXrates (scan : ScanParams) : ReadLog ScanParams :=
  match scan.ptr .rates, scan.ptr .xrates with
  | some p, some _ => do
    let len ← byte m (p + 1)
    verifyElement m .xrates (IEEE80211_RATE_MAXSIZE - len.toNat) IEEE80211_BPARSE_XRATES_INVALID scan
  | _, _ => pure scan

/-- `scan->chan` against the channel of the frame. -/
def verifyChan (scan : ScanParams) : ScanParams :=
  if scan.chan ≠ scan.bchan ∧ vap.icPhytype ≠ .fh then scan.fail IEEE80211_BPARSE_OFFCHAN else scan

def verifyBintval (scan : ScanParams) : ScanParams :=
  if ¬ (IEEE80211_BINTVAL_MIN ≤ scan.bintval.toNat ∧ scan.bintval.toNat ≤ IEEE80211_BINTVAL_MAX) then
    scan.fail IEEE80211_BPARSE_BINTVAL_INVALID
  else scan

def verifyCsa (scan : ScanParams) : ReadLog ScanParams :=
  match scan.ptr .csa with
  | none => pure scan
  | some p => do
    let len ← byte m (p + 1)
    if len.toNat < 3 then pure (scan.fail IEEE80211_BPARSE_CSA_INVALID) else pure scan

def verifyMeshid (scan : ScanParams) : ReadLog ScanParams :=
  if vap.supportMesh = true ∧ scan.ptr .meshid ≠ none then
    verifyElement m .meshid IEEE80211_MESHID_LEN IEEE80211_BPARSE_MESHID_INVALID scan
  else pure scan

def verifyElements (scan : ScanParams) : ReadLog ScanParams := do
  let scan ← verifyElement m .rates IEEE80211_RATE_MAXSIZE IEEE80211_BPARSE_RATES_INVALID scan
  let scan ← verifyXrates m scan
  let scan ← verifyElement m .ssid IEEE80211_NWID_LEN IEEE80211_BPARSE_SSID_INVALID scan
  let scan ← verifyLength m .country 3 (verifyBintval (verifyChan vap scan))
  let scan ← verifyCsa m scan
  let scan ← verifyMeshid m vap scan
  let scan ← verifyHtLength m .htcap sizeofHtcap scan
  let scan ← verifyHtLength m .htinfo sizeofHtinfo scan
  let scan ← verifyLength m .vhtcap sizeofVhtCap scan
  verifyLength m .vhtopmode sizeofVhtOperation scan

/-- `ieee80211_parse_beacon`, of the `mLen` bytes at `data`; what is returned is `status`. -/
def parseBeacon (data mLen : Nat) (scan : ScanParams) : ReadLog ScanParams :=
  let frm := data + sizeofFrame
  let efrm := data + mLen
  if efrm < frm + 12 then pure { scan with status := IEEE80211_BPARSE_BADIELEN }
  else do
    let bintval ← le16dec m (frm + 8)
    let capinfo ← le16dec m (frm + 10)
    let r ← parseLoop m vap data efrm (efrm - (frm + 12)) (frm + 12)
      { status := 0, chan := vap.bchan, bchan := vap.bchan, fhindex := 0, fhdwell := 0, capinfo := capinfo, erp := 0
        bintval := bintval, timoff := 0, ies := some (frm + 12), iesLen := efrm - (frm + 12), tstamp := some frm
        ptr := fun _ => none }
    match r with
    | .error scan => pure scan
    | .ok scan => verifyElements m vap scan

end Code

/-! ## What is asked of a call -/

section Spec

variable (m : Nat → BitVec 8) (vap : Vap)

abbrev len (p : Nat) : Nat := (m (p + 1)).toNat

/-- Four bytes, the least significant one first. -/
def word (p : Nat) : BitVec 32 := (m (p + 3) ++ m (p + 2)) ++ (m (p + 1) ++ m p)

def Vendor (oui : BitVec 32) (p : Nat) : Prop :=
  m p = IEEE80211_ELEMID_VENDOR ∧ len m p > 3 ∧ word m (p + 2) = oui

instance (oui : BitVec 32) (p : Nat) : Decidable (Vendor m oui p) := inferInstanceAs (Decidable (_ ∧ _))

/-- The element at `p` is that of the field. -/
def Id (f : Elem) (p : Nat) : Prop :=
  match f with
  | .tim => m p = IEEE80211_ELEMID_TIM
  | .country => m p = IEEE80211_ELEMID_COUNTRY
  | .ssid => m p = IEEE80211_ELEMID_SSID
  | .rates => m p = IEEE80211_ELEMID_RATES
  | .xrates => m p = IEEE80211_ELEMID_XRATES
  -- nothing sets it
  | .doth => False
  | .wpa => Vendor m (WPA_OUI_TYPE <<< 24 ||| WPA_OUI) p
  | .rsn => m p = IEEE80211_ELEMID_RSN
  | .wme => Vendor m (WME_OUI_TYPE <<< 24 ||| WME_OUI) p
  | .htcap => m p = IEEE80211_ELEMID_HTCAP ∨ Vendor m (BCM_OUI_HTCAP <<< 24 ||| BCM_OUI) p
  | .htinfo => m p = IEEE80211_ELEMID_HTINFO ∨ Vendor m (BCM_OUI_HTINFO <<< 24 ||| BCM_OUI) p
  | .ath => Vendor m (ATH_OUI_TYPE <<< 24 ||| ATH_OUI) p
  | .tdma => Vendor m (TDMA_OUI_TYPE <<< 24 ||| TDMA_OUI) p
  | .csa => m p = IEEE80211_ELEMID_CSA
  | .quiet => m p = IEEE80211_ELEMID_QUIET
  | .meshid => m p = IEEE80211_ELEMID_MESHID
  | .meshconf => m p = IEEE80211_ELEMID_MESHCONF
  | .vhtcap => m p = IEEE80211_ELEMID_VHT_CAP
  | .vhtopmode => m p = IEEE80211_ELEMID_VHT_OPMODE

/-- An HT element has its structure, behind the OUI and type where there is one. -/
def Whole (f : Elem) (p : Nat) : Prop :=
  match f with
  | .htcap => (if m p = IEEE80211_ELEMID_VENDOR then 4 + sizeofHtcap - 2 else sizeofHtcap - 2) ≤ len m p
  | .htinfo => (if m p = IEEE80211_ELEMID_VENDOR then 4 + sizeofHtinfo - 2 else sizeofHtinfo - 2) ≤ len m p
  | _ => True

/-- The element at `p` lies in the frame. -/
def Inside (data mLen p : Nat) : Prop := data ≤ p ∧ p + (len m p + 2) ≤ data + mLen

/-- **The pointers**: each that is not `NULL` points to a whole element of its kind in the frame. -/
def Pointers (data mLen : Nat) (scan : ScanParams) : Prop :=
  ∀ f p, scan.ptr f = some p → Inside m data mLen p ∧ Id m f p ∧ Whole m f p

def lenAt : Option Nat → Nat
  | none => 0
  | some p => len m p

/-- **The lengths** that a status of 0 promises. -/
structure Lengths (scan : ScanParams) : Prop where
  ssid : lenAt m (scan.ptr .ssid) ≤ IEEE80211_NWID_LEN
  rates : lenAt m (scan.ptr .rates) + lenAt m (scan.ptr .xrates) ≤ IEEE80211_RATE_MAXSIZE
  country : ∀ p, scan.ptr .country = some p → 3 ≤ len m p
  csa : ∀ p, scan.ptr .csa = some p → 3 ≤ len m p

def InFrame (data mLen a : Nat) : Prop := data ≤ a ∧ a < data + mLen

structure Sound (data mLen : Nat) (r : ReadLog ScanParams) : Prop where
  reads : Only (InFrame data mLen) r
  pointers : Pointers m data mLen r.value
  lengths : r.value.status = 0 → Lengths m r.value

/-! ## The condition -/

/-- The elements from `frm` up to `efrm`, and whether they end there. -/
def elements (efrm : Nat) : Nat → Nat → List Nat × Bool
  | 0, _ => ([], true)
  | fuel + 1, frm =>
    if efrm - frm > 1 then
      if efrm - frm < len m frm + 2 then ([], false)
      else (frm :: (elements efrm fuel (frm + (len m frm + 2))).1, (elements efrm fuel (frm + (len m frm + 2))).2)
    else ([], true)

def elementsOf (data mLen : Nat) : List Nat × Bool :=
  elements m (data + mLen) (data + mLen - (data + sizeofFrame + 12)) (data + sizeofFrame + 12)

/-- The FH and DS parameters reach as far as they are read. -/
def Reaches (efrm e : Nat) : Prop :=
  (m e = IEEE80211_ELEMID_FHPARMS → vap.icPhytype = .fh → e + 7 ≤ efrm) ∧
    (m e = IEEE80211_ELEMID_DSPARMS → vap.icPhytype ≠ .fh → e + 3 ≤ efrm)

/-- A pre-draft element of this type, which the interface takes. -/
def preDraft (type : BitVec 32) (e : Nat) : Bool := vap.htcompat && decide (Vendor m (type <<< 24 ||| BCM_OUI) e)

def isHtinfo (e : Nat) : Bool := m e == IEEE80211_ELEMID_HTINFO

def isHtcap (e : Nat) : Bool := m e == IEEE80211_ELEMID_HTCAP

/-- The elements that `htcap` is set to whether it is set or not: the HT capabilities, and the pre-draft HT
    information up to the first HT information element; `seen` is whether there was one before. -/
def takers (seen : Bool) (es : List Nat) : List Nat :=
  (if seen then [] else es.takeWhile fun e => !isHtinfo m e).filter
      (fun e => isHtcap m e || preDraft m vap BCM_OUI_HTINFO e) ++
    (if seen then es else es.dropWhile fun e => !isHtinfo m e).filter (isHtcap m)

/-- The element that `htcap` points to behind the loop: the last of those, or the first pre-draft HT capabilities. -/
def lastHtcap (es : List Nat) : Option Nat :=
  (takers m vap false es).getLast?.or (es.find? (preDraft m vap BCM_OUI_HTCAP))

/-- The same for `htinfo`. -/
def lastHtinfo (es : List Nat) : Option Nat := (es.filter (isHtinfo m)).getLast?

/-- **The condition** on the elements: what is read of FH and DS parameters is there; `htcap` is not left with
    pre-draft HT information that is as long as HT capabilities; and where an element leaves the frame, so that the
    lengths are not checked, neither with any such information nor with an element that is too short, nor is `htinfo`. -/
def Parsable (efrm : Nat) (es : List Nat) (ends : Bool) : Prop :=
  (∀ e ∈ es, Reaches m vap efrm e) ∧
    (∀ e, lastHtcap m vap es = some e → (ends = true → Whole m .htcap e) → Id m .htcap e) ∧
    (ends = false → ∀ e, lastHtcap m vap es = some e → Whole m .htcap e) ∧
    (ends = false → ∀ e, lastHtinfo m es = some e → Whole m .htinfo e)

end Spec

section Proofs

variable {m : Nat → BitVec 8} {vap : Vap} {data efrm mLen : Nat} {e frm : Nat} {scan : ScanParams} {P : Nat → Prop}

/-! ## Vendor elements -/

theorem value_isoui (oui : BitVec 32) (e : Nat) :
    (isoui m oui e).value = true ↔ len m e > 3 ∧ word m (e + 2) = oui := by
  unfold isoui
  rw [value_byte_bind]
  split
  · rename_i h
    simp [h, le32dec, le16dec, word]
  · rename_i h
    simp [h]

theorem value_iswmesubtype (subtype : BitVec 8) (e : Nat) (h : (iswmesubtype m subtype e).value = true) :
    len m e > 3 ∧ word m (e + 2) = WME_OUI_TYPE <<< 24 ||| WME_OUI := by
  unfold iswmesubtype at h
  rw [value_byte_bind] at h
  split at h
  · rename_i hlen
    rw [value_bind] at h
    split at h
    · rename_i hword
      refine ⟨Nat.lt_of_succ_lt (Nat.lt_of_succ_lt hlen), ?_⟩
      simpa [le32dec, le16dec, word] using hword
    · cases h
  · cases h

theorem value_compiled {option : Bool} {test : ReadLog Bool} (h : (compiled option test).value = true) :
    test.value = true := by
  unfold compiled at h
  split at h
  · exact h
  · cases h

theorem only_le16dec (p : Nat) : Only P (le16dec m p) ↔ P p ∧ P (p + 1) := by
  simp [le16dec]

theorem only_le32dec (p : Nat) : Only P (le32dec m p) ↔ (P p ∧ P (p + 1)) ∧ P (p + 2) ∧ P (p + 3) := by
  simp [le32dec, only_le16dec]

theorem only_isoui (oui : BitVec 32) (h : ∀ i, i < len m e + 2 → P (e + i)) : Only P (isoui m oui e) := by
  unfold isoui
  simp only [only_bind, only_ite]
  simp only [only_byte, only_le32dec, only_pure, value_byte, and_true, implies_true]
  have hlen : len m e = (m (e + 1)).toNat := rfl
  refine ⟨h 1 (by omega), fun hlong => ?_⟩
  exact ⟨⟨h 2 (by omega), h 3 (by omega)⟩, h 4 (by omega), h 5 (by omega)⟩

theorem only_iswmesubtype (subtype : BitVec 8) (h : ∀ i, i < len m e + 2 → P (e + i)) :
    Only P (iswmesubtype m subtype e) := by
  unfold iswmesubtype
  simp only [only_bind, only_ite]
  simp only [only_byte, only_le32dec, only_pure, value_byte, and_true, implies_true]
  have hlen : len m e = (m (e + 1)).toNat := rfl
  refine ⟨h 1 (by omega), fun hlong => ?_⟩
  exact ⟨⟨⟨h 2 (by omega), h 3 (by omega)⟩, h 4 (by omega), h 5 (by omega)⟩, fun _ => h 6 (by omega)⟩

theorem only_compiled {option : Bool} {test : ReadLog Bool} (h : Only P test) : Only P (compiled option test) := by
  unfold compiled
  split
  · exact h
  · exact only_pure _

variable (vap) in
theorem only_parseVendor (h : ∀ i, i < len m e + 2 → P (e + i)) (scan : ScanParams) :
    Only P (parseVendor m vap e scan) := by
  have houi : ∀ oui, Only P (isoui m oui e) := fun oui => only_isoui oui h
  have hwme : ∀ subtype, Only P (iswmesubtype m subtype e) := fun subtype => only_iswmesubtype subtype h
  unfold parseVendor
  simp only [only_bind, only_ite, only_pure, iswpaoui, iswmeparam, iswmeinfo, isatherosoui, istdmaoui, ishtcapoui,
    ishtinfooui, houi, hwme, only_compiled (houi _), implies_true, and_self]

/-- **The reads of an element** that lies in the frame. -/
theorem only_parseElement (hin : Inside m data mLen e) (scan : ScanParams) :
    Only (InFrame data mLen) (parseElement m vap data e scan) ↔ Reaches m vap (data + mLen) e := by
  obtain ⟨hlo, hhi⟩ := hin
  have h : ∀ i, i < len m e + 2 → InFrame data mLen (e + i) := fun i hi => ⟨by omega, by omega⟩
  have hvendor := only_parseVendor vap h
  have hin' : ∀ i, InFrame data mLen (e + i) ↔ e + i < data + mLen :=
    fun i => ⟨fun h => h.2, fun h => ⟨by omega, h⟩⟩
  have h0 : InFrame data mLen e := h 0 (by omega)
  have herp : ¬ (m (e + 1) ≠ 1) → e + 2 < data + mLen := by
    intro hone
    have : len m e = 1 := by simp [len, not_not.mp hone]
    omega
  unfold parseElement Reaches
  simp only [only_bind, only_ite]
  simp only [only_byte, only_le16dec, only_pure, value_byte, and_true, true_and, implies_true, h0, hvendor, hin',
    Nat.add_assoc]
  constructor
  · intro hall
    constructor
    · intro hid hfh
      simp [hid, hfh] at hall
      omega
    · intro hid hfh
      simp [hid, hfh] at hall
      omega
  · rintro ⟨hfh, hds⟩
    intro _ _ _ _ _
    refine ⟨fun hid hphy => ?_, fun _ => ⟨fun hid hphy => ?_, fun _ _ _ _ => ⟨by omega, herp⟩⟩⟩
    · have := hfh hid hphy
      omega
    · have := hds hid hphy
      omega

/-! ## What an element does -/

structure NoHt (m : Nat → BitVec 8) (vap : Vap) (e : Nat) : Prop where
  htcap : isHtcap m e = false
  htinfo : isHtinfo m e = false
  preHtcap : preDraft m vap BCM_OUI_HTCAP e = false
  preHtinfo : preDraft m vap BCM_OUI_HTINFO e = false

/-- What is stored for an element: it has one of the fields, or it is one of the HT elements. -/
inductive Stored (m : Nat → BitVec 8) (vap : Vap) (e : Nat) (scan scan' : ScanParams) : Prop where
  | other (hptr : scan'.ptr = scan.ptr) (hno : NoHt m vap e)
  | field (f : Elem) (hptr : scan'.ptr = (scan.set f e).ptr) (hid : Id m f e) (hf : f ≠ .htcap ∧ f ≠ .htinfo)
      (hno : NoHt m vap e)
  | htcap (hptr : scan'.ptr = (scan.set .htcap e).ptr) (hid : m e = IEEE80211_ELEMID_HTCAP)
  | htinfo (hptr : scan'.ptr = (scan.set .htinfo e).ptr) (hid : m e = IEEE80211_ELEMID_HTINFO)
  | preHtcap (hptr : scan'.ptr = if scan.ptr .htcap = none then (scan.set .htcap e).ptr else scan.ptr)
      (hpre : preDraft m vap BCM_OUI_HTCAP e = true)
  | preHtinfo (hptr : scan'.ptr = if scan.ptr .htinfo = none then (scan.set .htcap e).ptr else scan.ptr)
      (hpre : preDraft m vap BCM_OUI_HTINFO e = true)

theorem preDraft_iff {type : BitVec 32} : preDraft m vap type e = true ↔
    vap.htcompat = true ∧ Vendor m (type <<< 24 ||| BCM_OUI) e := by
  simp [preDraft]

theorem preDraft_false {type : BitVec 32} (h : ¬ Vendor m (type <<< 24 ||| BCM_OUI) e) : preDraft m vap type e = false :=
  Bool.eq_false_iff.mpr fun hpre => h (preDraft_iff.mp hpre).2

theorem noHt_id {id : BitVec 8} (he : m e = id) (hne : id ≠ IEEE80211_ELEMID_HTCAP ∧ id ≠ IEEE80211_ELEMID_HTINFO ∧
    id ≠ IEEE80211_ELEMID_VENDOR) : NoHt m vap e := by
  have hvendor : ∀ type, preDraft m vap type e = false := fun type => preDraft_false fun h => hne.2.2 (he ▸ h.1)
  exact ⟨beq_eq_false_iff_ne.mpr (he ▸ hne.1), beq_eq_false_iff_ne.mpr (he ▸ hne.2.1), hvendor _, hvendor _⟩

theorem noHt_vendor (he : m e = IEEE80211_ELEMID_VENDOR) (hcap : preDraft m vap BCM_OUI_HTCAP e = false)
    (hinfo : preDraft m vap BCM_OUI_HTINFO e = false) : NoHt m vap e :=
  ⟨beq_eq_false_iff_ne.mpr (he ▸ by decide), beq_eq_false_iff_ne.mpr (he ▸ by decide), hcap, hinfo⟩

theorem Stored.plain {scan' : ScanParams} (f : Elem) (hptr : scan'.ptr = (scan.set f e).ptr) (hid : Id m f e)
    (hf : f ≠ .htcap ∧ f ≠ .htinfo) {id : BitVec 8} (he : m e = id) (hne : id ≠ IEEE80211_ELEMID_HTCAP ∧
      id ≠ IEEE80211_ELEMID_HTINFO ∧ id ≠ IEEE80211_ELEMID_VENDOR) : Stored m vap e scan scan' :=
  .field f hptr hid hf (noHt_id he hne)

theorem stored_ite {c : Prop} [Decidable c] {x y : ReadLog ScanParams} (hx : c → Stored m vap e scan x.value)
    (hy : ¬ c → Stored m vap e scan y.value) : Stored m vap e scan (if c then x else y).value := by
  by_cases hc : c
  · rw [if_pos hc]
    exact hx hc
  · rw [if_neg hc]
    exact hy hc

theorem stored_parseVendor (he : m e = IEEE80211_ELEMID_VENDOR) (scan : ScanParams) :
    Stored m vap e scan (parseVendor m vap e scan).value := by
  -- a vendor element with another OUI
  have hfield : ∀ f oui, Id m f e = Vendor m oui e → f ≠ .htcap ∧ f ≠ .htinfo →
      (oui ≠ BCM_OUI_HTCAP <<< 24 ||| BCM_OUI ∧ oui ≠ BCM_OUI_HTINFO <<< 24 ||| BCM_OUI) →
      len m e > 3 ∧ word m (e + 2) = oui → Stored m vap e scan (scan.set f e) := by
    rintro f oui hid hf hne ⟨hlen, hword⟩
    refine .field f rfl (hid ▸ ⟨he, hlen, hword⟩) hf (noHt_vendor he ?_ ?_)
    · exact preDraft_false fun h => hne.1 (hword ▸ h.2.2)
    · exact preDraft_false fun h => hne.2 (hword ▸ h.2.2)
  have hpre : vap.htcompat = true → ∀ type, preDraft m vap type e = true ↔
      (isoui m (type <<< 24 ||| BCM_OUI) e).value = true := by
    intro hcompat type
    rw [preDraft_iff, value_isoui]
    exact ⟨fun h => h.2.2, fun h => ⟨hcompat, he, h⟩⟩
  unfold parseVendor
  rw [value_bind]
  refine stored_ite (fun h => hfield .wpa _ rfl (by decide) (by decide) ((value_isoui _ _).mp h)) fun _ => ?_
  rw [value_bind]
  refine stored_ite (fun h => hfield .wme _ rfl (by decide) (by decide) (value_iswmesubtype _ _ h)) fun _ => ?_
  rw [value_bind]
  refine stored_ite (fun h => hfield .wme _ rfl (by decide) (by decide) (value_iswmesubtype _ _ h)) fun _ => ?_
  rw [value_bind]
  refine stored_ite (fun h => ?_) fun _ => ?_
  · exact hfield .ath _ rfl (by decide) (by decide) ((value_isoui _ _).mp (value_compiled h))
  rw [value_bind]
  refine stored_ite (fun h => ?_) fun _ => ?_
  · exact hfield .tdma _ rfl (by decide) (by decide) ((value_isoui _ _).mp (value_compiled h))
  refine stored_ite (fun hcompat => ?_) fun hcompat => ?_
  · rw [value_bind]
    refine stored_ite (fun h => .preHtcap ?_ ((hpre hcompat _).mpr h)) fun hcap => ?_
    · split <;> rfl
    · rw [value_bind]
      refine stored_ite (fun h => .preHtinfo ?_ ((hpre hcompat _).mpr h)) fun hinfo => ?_
      · split <;> rfl
      · refine .other rfl (noHt_vendor he ?_ ?_)
        · exact Bool.eq_false_iff.mpr fun h => hcap ((hpre hcompat _).mp h)
        · exact Bool.eq_false_iff.mpr fun h => hinfo ((hpre hcompat _).mp h)
  · have hnone : ∀ type, preDraft m vap type e = false := fun type => by simp [preDraft, hcompat]
    exact .other rfl (noHt_vendor he (hnone _) (hnone _))

variable (vap data) in
/-- **The step of the loop.** -/
theorem stored_parseElement (scan : ScanParams) : Stored m vap e scan (parseElement m vap data e scan).value := by
  -- the elements that no field points to
  have hother : ∀ scan', scan'.ptr = scan.ptr → ∀ id, m e = id → (id ≠ IEEE80211_ELEMID_HTCAP ∧
      id ≠ IEEE80211_ELEMID_HTINFO ∧ id ≠ IEEE80211_ELEMID_VENDOR) → Stored m vap e scan scan' :=
    fun scan' hptr id he hne => .other hptr (noHt_id he hne)
  unfold parseElement
  rw [value_byte_bind]
  refine stored_ite (fun h => .plain .ssid rfl h (by decide) h (by decide)) fun _ => ?_
  refine stored_ite (fun h => .plain .rates rfl h (by decide) h (by decide)) fun _ => ?_
  refine stored_ite (fun h => .plain .country rfl h (by decide) h (by decide)) fun _ => ?_
  refine stored_ite (fun h => .plain .csa rfl h (by decide) h (by decide)) fun _ => ?_
  refine stored_ite (fun h => .plain .quiet rfl h (by decide) h (by decide)) fun _ => ?_
  refine stored_ite (fun h => ?_) fun _ => ?_
  · exact stored_ite (fun _ => hother _ rfl _ h (by decide)) fun _ => hother _ rfl _ h (by decide)
  refine stored_ite (fun h => ?_) fun _ => ?_
  · exact stored_ite (fun _ => hother _ rfl _ h (by decide)) fun _ => hother _ rfl _ h (by decide)
  refine stored_ite (fun h => .plain .tim rfl h (by decide) h (by decide)) fun _ => ?_
  refine stored_ite (fun h => .plain .xrates rfl h (by decide) h (by decide)) fun _ => ?_
  refine stored_ite (fun h => ?_) fun _ => ?_
  · rw [value_byte_bind]
    exact stored_ite (fun _ => hother _ rfl _ h (by decide)) fun _ => hother _ rfl _ h (by decide)
  refine stored_ite (fun h => .htcap rfl h) fun hcap => ?_
  refine stored_ite (fun h => .plain .vhtcap rfl h (by decide) h (by decide)) fun _ => ?_
  refine stored_ite (fun h => .plain .vhtopmode rfl h (by decide) h (by decide)) fun _ => ?_
  refine stored_ite (fun h => .plain .rsn rfl h (by decide) h (by decide)) fun _ => ?_
  refine stored_ite (fun h => .htinfo rfl h) fun hinfo => ?_
  refine stored_ite (fun h => .plain .meshid rfl h.2 (by decide) h.2 (by decide)) fun _ => ?_
  refine stored_ite (fun h => .plain .meshconf rfl h.2 (by decide) h.2 (by decide)) fun _ => ?_
  refine stored_ite (fun h => stored_parseVendor h scan) fun h => ?_
  exact hother _ rfl _ rfl ⟨hcap, hinfo, h⟩

/-! ## The loop -/

variable (mLen) in
theorem elements_inside : ∀ (fuel frm : Nat), data ≤ frm →
    ∀ e ∈ (elements m (data + mLen) fuel frm).1, Inside m data mLen e
  | 0, _, _, e, he => by simp [elements] at he
  | fuel + 1, frm, hfrm, e, he => by
    unfold elements at he
    split at he
    · split at he
      · simp at he
      · rename_i hmore hfits
        obtain rfl | he := List.mem_cons.mp he
        · exact ⟨hfrm, by omega⟩
        · exact elements_inside fuel _ (by omega) e he
    · simp at he

def storeAll (m : Nat → BitVec 8) (vap : Vap) (data : Nat) (es : List Nat) (scan : ScanParams) : ScanParams :=
  es.foldl (fun scan e => (parseElement m vap data e scan).value) scan

variable (vap data efrm) in
theorem parseLoop_value : ∀ (fuel frm : Nat) (scan : ScanParams), (parseLoop m vap data efrm fuel frm scan).value =
    if (elements m efrm fuel frm).2 then .ok (storeAll m vap data (elements m efrm fuel frm).1 scan)
    else .error { storeAll m vap data (elements m efrm fuel frm).1 scan with status := IEEE80211_BPARSE_BADIELEN }
  | 0, _, _ => rfl
  | fuel + 1, frm, scan => by
    have ih := parseLoop_value fuel (frm + (len m frm + 2)) (parseElement m vap data frm scan).value
    unfold parseLoop elements
    by_cases hmore : efrm - frm > 1
    · rw [if_pos hmore, if_pos hmore, value_byte_bind]
      by_cases hfits : efrm - frm < len m frm + 2
      · rw [if_pos hfits, if_pos hfits]
        rfl
      · rw [if_neg hfits, if_neg hfits, value_bind, value_byte_bind]
        exact ih
    · rw [if_neg hmore, if_neg hmore]
      rfl

variable (vap mLen) in
/-- **The reads of the loop.** -/
theorem only_parseLoop : ∀ (fuel frm : Nat) (scan : ScanParams), data ≤ frm →
    (Only (InFrame data mLen) (parseLoop m vap data (data + mLen) fuel frm scan) ↔
      ∀ e ∈ (elements m (data + mLen) fuel frm).1, Reaches m vap (data + mLen) e)
  | 0, _, _, _ => by simp [parseLoop, elements]
  | fuel + 1, frm, scan, hfrm => by
    have ih := only_parseLoop fuel (frm + (len m frm + 2)) (parseElement m vap data frm scan).value (by omega)
    unfold parseLoop elements
    by_cases hmore : data + mLen - frm > 1
    · have hlen : InFrame data mLen (frm + 1) := ⟨by omega, by omega⟩
      rw [if_pos hmore, if_pos hmore, only_bind, only_byte, value_byte]
      by_cases hfits : data + mLen - frm < len m frm + 2
      · rw [if_pos hfits, if_pos hfits]
        simp [hlen]
      · have hin : Inside m data mLen frm := ⟨hfrm, by omega⟩
        rw [if_neg hfits, if_neg hfits, only_bind, only_bind, only_byte, value_byte, ih, only_parseElement hin]
        simp [hlen]
    · rw [if_neg hmore, if_neg hmore]
      simp

theorem takers_cons (seen : Bool) (e : Nat) (es : List Nat) : takers m vap seen (e :: es) =
    (if isHtcap m e || (!seen && preDraft m vap BCM_OUI_HTINFO e) then [e] else []) ++
      takers m vap (seen || isHtinfo m e) es := by
  cases seen with
  | true =>
    cases hcap : isHtcap m e <;> simp [takers, hcap]
  | false =>
    cases hinfo : isHtinfo m e with
    | true =>
      have hid : m e = IEEE80211_ELEMID_HTINFO := by simpa [isHtinfo] using hinfo
      have hcap : isHtcap m e = false := beq_eq_false_iff_ne.mpr (hid ▸ by decide)
      have hpre : preDraft m vap BCM_OUI_HTINFO e = false := preDraft_false fun h => absurd (hid ▸ h.1) (by decide)
      simp [takers, hinfo, hcap, hpre]
    | false =>
      cases hcap : isHtcap m e <;> cases hpre : preDraft m vap BCM_OUI_HTINFO e <;>
        simp [takers, hinfo, hcap, hpre]

variable (vap data) in
theorem parseElement_ht (e : Nat) (scan : ScanParams) :
    (parseElement m vap data e scan).value.ptr .htcap =
        (if isHtcap m e || (!(scan.ptr .htinfo).isSome && preDraft m vap BCM_OUI_HTINFO e) then some e else none).or
          ((scan.ptr .htcap).or (if preDraft m vap BCM_OUI_HTCAP e then some e else none)) ∧
      (parseElement m vap data e scan).value.ptr .htinfo = if isHtinfo m e then some e else scan.ptr .htinfo := by
  cases stored_parseElement vap data (m := m) (e := e) scan with
  | other hptr hno =>
    simp [hptr, hno.htcap, hno.htinfo, hno.preHtcap, hno.preHtinfo]
  | field f hptr hid hf hno =>
    simp [hptr, hno.htcap, hno.htinfo, hno.preHtcap, hno.preHtinfo, ScanParams.set, hf.1.symm, hf.2.symm]
  | htcap hptr hid =>
    simp [hptr, isHtcap, isHtinfo, hid, ScanParams.set]
  | htinfo hptr hid =>
    have hpre : ∀ type, preDraft m vap type e = false := fun type =>
      preDraft_false fun h => absurd (hid ▸ h.1) (by decide)
    simp [hptr, isHtcap, isHtinfo, hid, hpre, ScanParams.set]
  | preHtcap hptr hpre =>
    obtain ⟨-, hid, -, hword⟩ := preDraft_iff.mp hpre
    have hinfo : preDraft m vap BCM_OUI_HTINFO e = false := preDraft_false fun h =>
      absurd (hword.symm.trans h.2.2) (by decide)
    cases hscan : scan.ptr .htcap <;> simp [hptr, isHtcap, isHtinfo, hid, hpre, hinfo, hscan, ScanParams.set]
  | preHtinfo hptr hpre =>
    obtain ⟨-, hid, -, hword⟩ := preDraft_iff.mp hpre
    have hcap : preDraft m vap BCM_OUI_HTCAP e = false := preDraft_false fun h =>
      absurd (hword.symm.trans h.2.2) (by decide)
    cases hscan : scan.ptr .htinfo <;> simp [hptr, isHtcap, isHtinfo, hid, hpre, hcap, hscan, ScanParams.set]

variable (vap data) in
/-- **The HT pointers** behind the loop. -/
theorem storeAll_ht (es : List Nat) (scan : ScanParams) :
    (storeAll m vap data es scan).ptr .htcap = (takers m vap (scan.ptr .htinfo).isSome es).getLast?.or
        ((scan.ptr .htcap).or (es.find? (preDraft m vap BCM_OUI_HTCAP))) ∧
      (storeAll m vap data es scan).ptr .htinfo = (es.filter (isHtinfo m)).getLast?.or (scan.ptr .htinfo) := by
  induction es generalizing scan with
  | nil =>
    simp [storeAll, takers]
  | cons e es ih =>
    obtain ⟨ihcap, ihinfo⟩ := ih (parseElement m vap data e scan).value
    obtain ⟨hcap, hinfo⟩ := parseElement_ht vap data (m := m) e scan
    have hstep : storeAll m vap data (e :: es) scan = storeAll m vap data es (parseElement m vap data e scan).value := rfl
    have hseen : ((if isHtinfo m e then some e else scan.ptr .htinfo).isSome) =
        ((scan.ptr .htinfo).isSome || isHtinfo m e) := by
      cases isHtinfo m e <;> simp
    have hfind : (e :: es).find? (preDraft m vap BCM_OUI_HTCAP) =
        (if preDraft m vap BCM_OUI_HTCAP e then some e else none).or (es.find? (preDraft m vap BCM_OUI_HTCAP)) := by
      cases h : preDraft m vap BCM_OUI_HTCAP e <;> simp [h]
    constructor
    · have hlast : ∀ c : Bool, (if c then [e] else []).getLast? = if c then some e else none := by
        intro c
        cases c <;> rfl
      rw [hstep, ihcap, hcap, hinfo, hseen, takers_cons, List.getLast?_append, hlast, hfind]
      simp only [Option.or_assoc]
    · rw [hstep, ihinfo, hinfo]
      cases h : isHtinfo m e
      · simp [h]
      · simp [h, List.getLast?_cons]

/-- **The other pointers** behind the loop. -/
theorem storeAll_field {f : Elem} (hf : f ≠ .htcap ∧ f ≠ .htinfo) (es : List Nat) (scan : ScanParams) {p : Nat}
    (h : (storeAll m vap data es scan).ptr f = some p) : scan.ptr f = some p ∨ p ∈ es ∧ Id m f p := by
  induction es generalizing scan with
  | nil => exact .inl h
  | cons e es ih =>
    obtain h | ⟨hmem, hid⟩ := ih (parseElement m vap data e scan).value h
    · have hset : ∀ g, (scan.set g e).ptr f = some p → scan.ptr f = some p ∨ g = f ∧ p = e := by
        intro g hg
        by_cases hgf : g = f
        · subst hgf
          simp only [ScanParams.set, Function.update_self, Option.some.injEq] at hg
          exact .inr ⟨rfl, hg.symm⟩
        · exact .inl (by simpa [ScanParams.set, Function.update_of_ne (Ne.symm hgf)] using hg)
      cases stored_parseElement vap data (m := m) (e := e) scan with
      | other hptr hno => exact .inl (hptr ▸ h)
      | field g hptr hid hg hno =>
        rw [hptr] at h
        obtain h | ⟨rfl, rfl⟩ := hset g h
        · exact .inl h
        · exact .inr ⟨List.mem_cons_self, hid⟩
      | htcap hptr hid =>
        rw [hptr] at h
        obtain h | ⟨rfl, rfl⟩ := hset _ h
        · exact .inl h
        · exact absurd rfl hf.1
      | htinfo hptr hid =>
        rw [hptr] at h
        obtain h | ⟨rfl, rfl⟩ := hset _ h
        · exact .inl h
        · exact absurd rfl hf.2
      | preHtcap hptr hpre =>
        rw [hptr] at h
        split at h
        · obtain h | ⟨rfl, rfl⟩ := hset _ h
          · exact .inl h
          · exact absurd rfl hf.1
        · exact .inl h
      | preHtinfo hptr hpre =>
        rw [hptr] at h
        split at h
        · obtain h | ⟨rfl, rfl⟩ := hset _ h
          · exact .inl h
          · exact absurd rfl hf.1
        · exact .inl h
    · exact .inr ⟨List.mem_cons_of_mem _ hmem, hid⟩

/-! ## The checks -/

/-- What is asked of the length of an element when there is no need to refuse the frame. -/
def minlen (m : Nat → BitVec 8) (f : Elem) (p : Nat) : Nat :=
  match f with
  | .country => 3
  | .htcap => if m p = IEEE80211_ELEMID_VENDOR then 4 + sizeofHtcap - 2 else sizeofHtcap - 2
  | .htinfo => if m p = IEEE80211_ELEMID_VENDOR then 4 + sizeofHtinfo - 2 else sizeofHtinfo - 2
  | .vhtcap => sizeofVhtCap
  | .vhtopmode => sizeofVhtOperation
  | _ => 0

/-- A pointer to an element that is long enough. -/
def kept (m : Nat → BitVec 8) (f : Elem) (o : Option Nat) : Option Nat := o.filter fun p => minlen m f p ≤ len m p

/-- The first two bytes of an element that is pointed to may be read. -/
def Readable (P : Nat → Prop) (o : Option Nat) : Prop := ∀ p, o = some p → P p ∧ P (p + 1)

theorem fail_status {bit : BitVec 32} (h : (scan.fail bit).status = 0) : scan.status = 0 ∧ bit = 0 :=
  BitVec.or_eq_zero_iff.mp h

theorem verifyElement_spec (f : Elem) (maxlen : Int) (bit : BitVec 32) (hbit : bit ≠ 0) (hread : Readable P (scan.ptr f)) :
    Only P (verifyElement m f maxlen bit scan) ∧ ((verifyElement m f maxlen bit scan).value.ptr = scan.ptr ∧
      ((verifyElement m f maxlen bit scan).value.status = 0 →
        scan.status = 0 ∧ ∃ p, scan.ptr f = some p ∧ len m p ≤ maxlen)) := by
  unfold verifyElement
  cases hp : scan.ptr f with
  | none => exact ⟨only_pure _, rfl, fun h => absurd (fail_status h).2 hbit⟩
  | some p =>
    dsimp only
    rw [value_byte_bind, only_bind, only_byte, value_byte]
    by_cases hlen : (len m p : Int) > maxlen
    · rw [if_pos hlen]
      exact ⟨⟨(hread p hp).2, only_pure _⟩, rfl, fun h => absurd (fail_status h).2 hbit⟩
    · rw [if_neg hlen]
      exact ⟨⟨(hread p hp).2, only_pure _⟩, rfl, fun h => ⟨h, p, rfl, Int.not_lt.mp hlen⟩⟩

theorem verifyLength_spec (f : Elem) (n : Nat) (hread : Readable P (scan.ptr f)) :
    Only P (verifyLength m f n scan) ∧ ((verifyLength m f n scan).value.ptr =
        Function.update scan.ptr f ((scan.ptr f).filter fun p => n ≤ len m p) ∧
      ((verifyLength m f n scan).value.status = 0 → scan.status = 0)) := by
  unfold verifyLength
  cases hp : scan.ptr f with
  | none =>
    refine ⟨only_pure _, ?_, id⟩
    show scan.ptr = _
    rw [Option.filter_none, ← hp, Function.update_eq_self]
  | some p =>
    dsimp only
    rw [value_byte_bind, only_bind, only_byte, value_byte, Option.filter_some]
    by_cases hlen : len m p < n
    · rw [if_pos hlen, if_neg (by simpa using hlen)]
      exact ⟨⟨(hread p hp).2, only_pure _⟩, rfl, id⟩
    · rw [if_neg hlen, if_pos (by simpa using hlen), ← hp, Function.update_eq_self]
      exact ⟨⟨(hread p hp).2, only_pure _⟩, rfl, id⟩

theorem verifyHtLength_spec (f : Elem) (size : Nat) (hread : Readable P (scan.ptr f)) :
    Only P (verifyHtLength m f size scan) ∧ ((verifyHtLength m f size scan).value.ptr =
        Function.update scan.ptr f ((scan.ptr f).filter fun p =>
          (if m p = IEEE80211_ELEMID_VENDOR then 4 + size - 2 else size - 2) ≤ len m p) ∧
      ((verifyHtLength m f size scan).value.status = 0 → scan.status = 0)) := by
  unfold verifyHtLength
  cases hp : scan.ptr f with
  | none =>
    refine ⟨only_pure _, ?_, id⟩
    show scan.ptr = _
    rw [Option.filter_none, ← hp, Function.update_eq_self]
  | some p =>
    obtain ⟨honly, hptr, hstatus⟩ := verifyLength_spec (m := m) f
      (if m p = IEEE80211_ELEMID_VENDOR then 4 + size - 2 else size - 2) hread
    refine ⟨only_bind.mpr ⟨only_byte.mpr (hread p hp).1, honly⟩, ?_, hstatus⟩
    dsimp only
    rw [value_byte_bind, hptr, hp, Option.filter_some, Option.filter_some]

theorem verifyXrates_spec (hrates : Readable P (scan.ptr .rates)) (hxrates : Readable P (scan.ptr .xrates)) :
    Only P (verifyXrates m scan) ∧ ((verifyXrates m scan).value.ptr = scan.ptr ∧
      ((verifyXrates m scan).value.status = 0 → scan.status = 0 ∧ ∀ p q, scan.ptr .rates = some p →
        scan.ptr .xrates = some q → len m p + len m q ≤ IEEE80211_RATE_MAXSIZE)) := by
  unfold verifyXrates
  split
  · rename_i p q hp hq
    obtain ⟨honly, hptr, hstatus⟩ := verifyElement_spec (m := m) .xrates (IEEE80211_RATE_MAXSIZE - len m p)
      IEEE80211_BPARSE_XRATES_INVALID (by decide) hxrates
    refine ⟨only_bind.mpr ⟨only_byte.mpr (hrates p hp).2, honly⟩, hptr, fun h => ?_⟩
    obtain ⟨hzero, q', hq', hlen⟩ := hstatus h
    refine ⟨hzero, fun p' r hp' hr => ?_⟩
    cases hp.symm.trans hp'
    cases hr.symm.trans hq'
    omega
  · rename_i hnone
    exact ⟨only_pure _, rfl, fun h => ⟨h, fun p q hp hq => absurd hq (hnone p q hp)⟩⟩

theorem verifyCsa_spec (hread : Readable P (scan.ptr .csa)) :
    Only P (verifyCsa m scan) ∧ ((verifyCsa m scan).value.ptr = scan.ptr ∧
      ((verifyCsa m scan).value.status = 0 → scan.status = 0 ∧ ∀ p, scan.ptr .csa = some p → 3 ≤ len m p)) := by
  unfold verifyCsa
  cases hp : scan.ptr .csa with
  | none => exact ⟨only_pure _, rfl, fun h => ⟨h, by simp⟩⟩
  | some p =>
    dsimp only
    rw [value_byte_bind, only_bind, only_byte, value_byte]
    by_cases hlen : len m p < 3
    · rw [if_pos hlen]
      exact ⟨⟨(hread p hp).2, only_pure _⟩, rfl, fun h => absurd (fail_status h).2 (by decide)⟩
    · rw [if_neg hlen]
      exact ⟨⟨(hread p hp).2, only_pure _⟩, rfl, fun h => ⟨h, fun q hq => by cases hq; omega⟩⟩

theorem verifyMeshid_spec (hread : Readable P (scan.ptr .meshid)) :
    Only P (verifyMeshid m vap scan) ∧ ((verifyMeshid m vap scan).value.ptr = scan.ptr ∧
      ((verifyMeshid m vap scan).value.status = 0 → scan.status = 0)) := by
  unfold verifyMeshid
  split
  · obtain ⟨honly, hptr, hstatus⟩ := verifyElement_spec (m := m) .meshid IEEE80211_MESHID_LEN
      IEEE80211_BPARSE_MESHID_INVALID (by decide) hread
    exact ⟨honly, hptr, fun h => (hstatus h).1⟩
  · exact ⟨only_pure _, rfl, id⟩

variable (vap) in
theorem verifyChan_spec (scan : ScanParams) :
    (verifyBintval (verifyChan vap scan)).ptr = scan.ptr ∧
      ((verifyBintval (verifyChan vap scan)).status = 0 → scan.status = 0) := by
  have hchan : (verifyChan vap scan).ptr = scan.ptr ∧ ((verifyChan vap scan).status = 0 → scan.status = 0) := by
    unfold verifyChan
    split
    · exact ⟨rfl, fun h => (fail_status h).1⟩
    · exact ⟨rfl, id⟩
  unfold verifyBintval
  split
  · exact ⟨hchan.1, fun h => hchan.2 (fail_status h).1⟩
  · exact hchan

theorem verify_bind {a : Elem → Option Nat} {b : Prop} {R : ScanParams → Prop} {x : ReadLog ScanParams}
    {f : ScanParams → ReadLog ScanParams} (hx : Only P x ∧ x.value.ptr = a ∧ (x.value.status = 0 → b))
    (hf : ∀ s, s.ptr = a → (s.status = 0 → b) → Only P (f s) ∧ R (f s).value) :
    Only P (x >>= f) ∧ R (x >>= f).value := by
  obtain ⟨honly, hptr, hstatus⟩ := hx
  obtain ⟨honly', hvalue⟩ := hf x.value hptr hstatus
  exact ⟨only_bind.mpr ⟨honly, honly'⟩, hvalue⟩

/-- Which pointers the checks keep, and what a status of 0 says. -/
structure Verified (m : Nat → BitVec 8) (scan scan' : ScanParams) : Prop where
  ptr : ∀ f, scan'.ptr f = kept m f (scan.ptr f)
  lengths : scan'.status = 0 → Lengths m scan'

variable (vap) in
/-- **The checks** read what is pointed to. -/
theorem verifyElements_spec (hread : ∀ f, Readable P (scan.ptr f)) :
    Only P (verifyElements m vap scan) ∧ Verified m scan (verifyElements m vap scan).value := by
  have hnone : ∀ f, (∀ p, minlen m f p = 0) → kept m f (scan.ptr f) = scan.ptr f := by
    intro f hf
    cases h : scan.ptr f <;> simp [kept, hf]
  unfold verifyElements
  refine verify_bind (verifyElement_spec .rates _ IEEE80211_BPARSE_RATES_INVALID (by decide) (hread _))
    fun s₁ hp₁ hs₁ => ?_
  refine verify_bind (verifyXrates_spec (hp₁ ▸ hread _) (hp₁ ▸ hread _)) fun s₂ hp₂ hs₂ => ?_
  rw [hp₁] at hp₂ hs₂
  refine verify_bind (verifyElement_spec .ssid _ IEEE80211_BPARSE_SSID_INVALID (by decide) (hp₂ ▸ hread _))
    fun s₃ hp₃ hs₃ => ?_
  rw [hp₂] at hp₃ hs₃
  obtain ⟨hp₄, hs₄⟩ := verifyChan_spec vap s₃
  rw [hp₃] at hp₄
  refine verify_bind (verifyLength_spec .country _ (hp₄ ▸ hread _)) fun s₅ hp₅ hs₅ => ?_
  rw [hp₄] at hp₅
  refine verify_bind (verifyCsa_spec (by rw [hp₅]; exact hread _)) fun s₆ hp₆ hs₆ => ?_
  rw [hp₅] at hp₆ hs₆
  refine verify_bind (verifyMeshid_spec (by rw [hp₆]; exact hread _)) fun s₇ hp₇ hs₇ => ?_
  rw [hp₆] at hp₇
  refine verify_bind (verifyHtLength_spec .htcap _ (by rw [hp₇]; exact hread _)) fun s₈ hp₈ hs₈ => ?_
  rw [hp₇] at hp₈
  refine verify_bind (verifyHtLength_spec .htinfo _ (by rw [hp₈]; exact hread _)) fun s₉ hp₉ hs₉ => ?_
  rw [hp₈] at hp₉
  refine verify_bind (verifyLength_spec .vhtcap _ (by rw [hp₉]; exact hread _)) fun s₁₀ hp₁₀ hs₁₀ => ?_
  rw [hp₉] at hp₁₀
  obtain ⟨honly, hp, hs⟩ := verifyLength_spec (m := m) .vhtopmode sizeofVhtOperation
    (show Readable P (s₁₀.ptr .vhtopmode) by rw [hp₁₀]; exact hread _)
  rw [hp₁₀] at hp
  have hptr : ∀ f, (verifyLength m .vhtopmode sizeofVhtOperation s₁₀).value.ptr f = kept m f (scan.ptr f) := by
    intro f
    rw [hp]
    cases f <;> first | rfl | exact (hnone _ fun _ => rfl).symm
  refine ⟨honly, hptr, fun hzero => ?_⟩
  obtain ⟨h₆, hcsa⟩ := hs₆ (hs₇ (hs₈ (hs₉ (hs₁₀ (hs hzero)))))
  obtain ⟨h₃, p, hssid, hnwid⟩ := hs₃ (hs₄ (hs₅ h₆))
  obtain ⟨h₂, hxrates⟩ := hs₂ h₃
  obtain ⟨-, q, hrates, hmax⟩ := hs₁ h₂
  have hsame : ∀ f, (∀ p, minlen m f p = 0) →
      (verifyLength m .vhtopmode sizeofVhtOperation s₁₀).value.ptr f = scan.ptr f := fun f hf => (hptr f).trans (hnone f hf)
  refine ⟨?_, ?_, fun c hc => ?_, fun c hc => hcsa c ?_⟩
  · rw [hsame _ fun _ => rfl, hssid]
    exact Int.ofNat_le.mp hnwid
  · rw [hsame _ fun _ => rfl, hsame _ fun _ => rfl, hrates]
    cases hx : scan.ptr .xrates with
    | none => exact Int.ofNat_le.mp hmax
    | some r => exact hxrates q r hrates hx
  · rw [hptr] at hc
    exact of_decide_eq_true (Option.filter_eq_some_iff.mp hc).2
  · rw [hsame _ fun _ => rfl] at hc
    rwa [Function.update_of_ne (by decide)]

/-! ## The function -/

theorem lastHtcap_mem {es : List Nat} (h : lastHtcap m vap es = some e) : e ∈ es := by
  obtain h | ⟨-, h⟩ := Option.or_eq_some_iff.mp h
  · have hmem := List.mem_of_getLast? h
    simp only [takers, Bool.false_eq_true, if_false, List.mem_append, List.mem_filter] at hmem
    obtain hmem | hmem := hmem
    · exact (List.takeWhile_prefix _).subset hmem.1
    · exact (List.dropWhile_suffix _).subset hmem.1
  · exact List.mem_of_find?_eq_some h

theorem lastHtinfo_spec {es : List Nat} (h : lastHtinfo m es = some e) : e ∈ es ∧ Id m .htinfo e := by
  obtain ⟨hmem, hinfo⟩ := List.mem_filter.mp (List.mem_of_getLast? h)
  exact ⟨hmem, .inl (by simpa [isHtinfo] using hinfo)⟩

variable (vap data) in
/-- The scan parameters before the loop have no pointer. -/
theorem storeAll_ptr (es : List Nat) (hnull : ∀ f, scan.ptr f = none) :
    (storeAll m vap data es scan).ptr .htcap = lastHtcap m vap es ∧
      (storeAll m vap data es scan).ptr .htinfo = lastHtinfo m es ∧
      ∀ f p, f ≠ .htcap ∧ f ≠ .htinfo → (storeAll m vap data es scan).ptr f = some p → p ∈ es ∧ Id m f p := by
  obtain ⟨hcap, hinfo⟩ := storeAll_ht vap data (m := m) es scan
  rw [hnull, hnull, Option.none_or] at hcap
  rw [hnull, Option.or_none] at hinfo
  refine ⟨hcap, hinfo, fun f p hf hp => ?_⟩
  obtain h | h := storeAll_field hf es scan hp
  · rw [hnull] at h
    cases h
  · exact h

variable (vap) in
/-- What the pointers that are left have to be for the pointers to be right. -/
theorem pointers_iff {es : List Nat} (final : ScanParams) (ends : Bool) (hnull : ∀ f, scan.ptr f = none)
    (hin : ∀ e ∈ es, Inside m data mLen e) (hfinal : ∀ f, final.ptr f =
      if ends then kept m f ((storeAll m vap data es scan).ptr f) else (storeAll m vap data es scan).ptr f) :
    Pointers m data mLen final ↔
      (∀ e, lastHtcap m vap es = some e → (ends = true → Whole m .htcap e) → Id m .htcap e) ∧
        (ends = false → ∀ e, lastHtcap m vap es = some e → Whole m .htcap e) ∧
        (ends = false → ∀ e, lastHtinfo m es = some e → Whole m .htinfo e) := by
  obtain ⟨hcap, hinfo, hfield⟩ := storeAll_ptr vap data (m := m) es hnull
  have hptr : ∀ f p, final.ptr f = some p ↔
      (storeAll m vap data es scan).ptr f = some p ∧ (ends = true → minlen m f p ≤ len m p) := by
    intro f p
    rw [hfinal]
    cases ends <;> simp [kept, Option.filter_eq_some_iff]
  constructor
  · intro h
    refine ⟨fun e he hw => ?_, fun hends e he => ?_, fun hends e he => ?_⟩
    · exact (h .htcap e ((hptr _ _).mpr ⟨hcap.trans he, hw⟩)).2.1
    · exact (h .htcap e ((hptr _ _).mpr ⟨hcap.trans he, by simp [hends]⟩)).2.2
    · exact (h .htinfo e ((hptr _ _).mpr ⟨hinfo.trans he, by simp [hends]⟩)).2.2
  · rintro ⟨hid, hwcap, hwinfo⟩ f p hp
    obtain ⟨hp, hlen⟩ := (hptr f p).mp hp
    by_cases hf : f ≠ .htcap ∧ f ≠ .htinfo
    · obtain ⟨hmem, hid⟩ := hfield f p hf hp
      refine ⟨hin p hmem, hid, ?_⟩
      cases f <;> trivial
    · by_cases hfcap : f = .htcap
      · subst hfcap
        rw [hcap] at hp
        refine ⟨hin p (lastHtcap_mem hp), hid p hp hlen, ?_⟩
        cases ends with
        | true => exact hlen rfl
        | false => exact hwcap rfl p hp
      · have hfinfo : f = .htinfo := by simpa [hfcap] using hf
        subst hfinfo
        rw [hinfo] at hp
        refine ⟨hin p (lastHtinfo_spec hp).1, (lastHtinfo_spec hp).2, ?_⟩
        cases ends with
        | true => exact hlen rfl
        | false => exact hwinfo rfl p hp

variable (vap) in
theorem storeAll_readable {es : List Nat} (hnull : ∀ f, scan.ptr f = none) (hin : ∀ e ∈ es, Inside m data mLen e)
    (f : Elem) : Readable (InFrame data mLen) ((storeAll m vap data es scan).ptr f) := by
  obtain ⟨hcap, hinfo, hfield⟩ := storeAll_ptr vap data (m := m) es hnull
  intro p hp
  have hmem : p ∈ es := by
    by_cases hf : f ≠ .htcap ∧ f ≠ .htinfo
    · exact (hfield f p hf hp).1
    · by_cases hfcap : f = .htcap
      · subst hfcap
        exact lastHtcap_mem (hcap.symm.trans hp)
      · have hfinfo : f = .htinfo := by simpa [hfcap] using hf
        subst hfinfo
        exact (lastHtinfo_spec (hinfo.symm.trans hp)).1
  obtain ⟨hlo, hhi⟩ := hin p hmem
  exact ⟨⟨hlo, by omega⟩, ⟨by omega, by omega⟩⟩

theorem loop_sound_iff {fuel : Nat} (hnull : ∀ f, scan.ptr f = none) (hfrm : data ≤ frm) :
    (Sound m data mLen do
      let r ← parseLoop m vap data (data + mLen) fuel frm scan
      match r with
      | .error scan => pure scan
      | .ok scan => verifyElements m vap scan) ↔
    Parsable m vap (data + mLen) (elements m (data + mLen) fuel frm).1 (elements m (data + mLen) fuel frm).2 := by
  have hin := elements_inside mLen (m := m) fuel frm hfrm
  have hreads := only_parseLoop vap mLen (m := m) fuel frm scan hfrm
  have hvalue := parseLoop_value vap data (data + mLen) (m := m) fuel frm scan
  generalize elements m (data + mLen) fuel frm = walk at hin hreads hvalue ⊢
  obtain ⟨es, ends⟩ := walk
  have hptrs := fun final hfinal => pointers_iff vap final ends hnull hin hfinal
  cases ends with
  | false =>
    have hptr := hptrs { storeAll m vap data es scan with status := IEEE80211_BPARSE_BADIELEN } fun f => rfl
    constructor
    · rintro ⟨hread, hpointers, -⟩
      rw [only_bind, hreads] at hread
      rw [value_bind, hvalue] at hpointers
      exact ⟨hread.1, hptr.mp hpointers⟩
    · rintro ⟨hreach, hht⟩
      refine ⟨only_bind.mpr ⟨hreads.mpr hreach, ?_⟩, ?_, ?_⟩
      · rw [hvalue]
        exact only_pure _
      · rw [value_bind, hvalue]
        exact hptr.mpr hht
      · rw [value_bind, hvalue]
        exact fun h => absurd h (by simp [IEEE80211_BPARSE_BADIELEN])
  | true =>
    obtain ⟨honly, hverified⟩ := verifyElements_spec vap (m := m) (storeAll_readable vap hnull hin)
    have hptr := hptrs (verifyElements m vap (storeAll m vap data es scan)).value hverified.ptr
    constructor
    · rintro ⟨hread, hpointers, -⟩
      rw [only_bind, hreads] at hread
      rw [value_bind, hvalue] at hpointers
      exact ⟨hread.1, hptr.mp hpointers⟩
    · rintro ⟨hreach, hht⟩
      refine ⟨only_bind.mpr ⟨hreads.mpr hreach, ?_⟩, ?_, ?_⟩
      · rw [hvalue]
        exact honly
      · rw [value_bind, hvalue]
        exact hptr.mpr hht
      · rw [value_bind, hvalue]
        exact hverified.lengths

theorem sound_bind {α : Type} {x : ReadLog α} {f : α → ReadLog ScanParams} (hx : Only (InFrame data mLen) x) :
    Sound m data mLen (x >>= f) ↔ Sound m data mLen (f x.value) := by
  constructor
  · rintro ⟨hread, hpointers, hlengths⟩
    exact ⟨(only_bind.mp hread).2, hpointers, hlengths⟩
  · rintro ⟨hread, hpointers, hlengths⟩
    exact ⟨only_bind.mpr ⟨hx, hread⟩, hpointers, hlengths⟩

/-- **When a call is sound**, for every buffer and every interface: a frame that is too short leaves the caller's
    structure alone, which then has to be right by itself. -/
theorem parseBeacon_sound_iff (m : Nat → BitVec 8) (vap : Vap) (data mLen : Nat) (scan : ScanParams) :
    Sound m data mLen (parseBeacon m vap data mLen scan) ↔
      if mLen < sizeofFrame + 12 then Pointers m data mLen scan
      else Parsable m vap (data + mLen) (elementsOf m data mLen).1 (elementsOf m data mLen).2 := by
  unfold parseBeacon
  dsimp only
  by_cases hshort : mLen < sizeofFrame + 12
  · rw [if_pos hshort, if_pos (by omega)]
    exact ⟨fun h => h.pointers, fun h => ⟨only_pure _, h, fun h0 => absurd h0 (by simp [IEEE80211_BPARSE_BADIELEN])⟩⟩
  · rw [if_neg hshort, if_neg (by omega)]
    have hfixed : ∀ i, i < 11 → Only (InFrame data mLen) (le16dec m (data + sizeofFrame + i)) := by
      intro i hi
      rw [only_le16dec]
      exact ⟨⟨by omega, by omega⟩, ⟨by omega, by omega⟩⟩
    rw [sound_bind (hfixed 8 (by decide)), sound_bind (hfixed 10 (by decide))]
    exact loop_sound_iff (fun _ => rfl) (by omega)
end Proofs

/-! ## Pre-draft HT information -/

/-- A beacon with nothing but a pre-draft HT information element, of 30 bytes. -/
def preDraftBeacon : Nat → BitVec 8
  | 36 => IEEE80211_ELEMID_VENDOR
  | 37 => 30
  | 39 => 0x90
  | 40 => 0x4c
  | 41 => 52
  | _ => 0

/-- An interface that takes pre-draft elements. -/
def compatVap : Vap :=
  { icPhytype := .ofdm, htcompat := true, supportMesh := true, supportSuperg := true, supportTdma := true, bchan := 1 }

def zeroScan : ScanParams :=
  { status := 0, chan := 0, bchan := 0, fhindex := 0, fhdwell := 0, capinfo := 0, erp := 0, bintval := 0, timoff := 0
    ies := none, iesLen := 0, tstamp := none, ptr := fun _ => none }

/-- It is stored as HT capabilities. -/
theorem htinfo_in_htcap : ¬ Sound preDraftBeacon 0 68 (parseBeacon preDraftBeacon compatVap 0 68 zeroScan) := by
  intro h
  have hstored : (parseBeacon preDraftBeacon compatVap 0 68 zeroScan).value.ptr .htcap = some 36 := by decide +kernel
  obtain ⟨-, hid, -⟩ := h.pointers .htcap 36 hstored
  unfold Id at hid
  revert hid
  decide +kernel

end Net80211.Beacon
