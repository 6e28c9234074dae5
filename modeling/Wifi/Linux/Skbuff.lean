import Wifi.Linux.Elements

/-!
# Socket buffers (`<linux/skbuff.h>`)

The header is not in the tree.  An `SkBuff` is what the wireless code reads of a `struct sk_buff`:

* `bytes` — the data: the linear part, the page fragments and the buffers of the fragment list.
* `copyBits`, `pull`, `push` — `skb_copy_bits`, `skb_pull` and `skb_push`.
* `linearize`, `mayPull`, `trim` — `skb_linearize`, `pskb_may_pull` and `pskb_trim`, which can need
  memory.
* `peek` — what is read through `skb->data`, which can be memory behind the linear part.
-/

structure SkBuff where
  /-- from `data` to `tail` -/
  head : List Byte
  /-- the memory behind `tail` -/
  tailroom : List Byte
  /-- `skb_shinfo(skb)->frags` -/
  frags : List (List Byte)
  /-- the data of the buffers in `skb_shinfo(skb)->frag_list` -/
  fragList : List (List Byte)
  headFrag : Bool
  dev : Nat
  priority : BitVec 32
  deriving DecidableEq, Repr

namespace SkBuff

def bytes (skb : SkBuff) : List Byte := skb.head ++ (skb.frags.flatten ++ skb.fragList.flatten)

def len (skb : SkBuff) : Nat := skb.bytes.length

/-- `skb->data_len` -/
def dataLen (skb : SkBuff) : Nat := (skb.frags.flatten ++ skb.fragList.flatten).length

/-- `skb_is_nonlinear` -/
def isNonlinear (skb : SkBuff) : Bool := decide (skb.dataLen ≠ 0)

/-- `skb_has_frag_list` -/
def hasFragList (skb : SkBuff) : Bool := decide (skb.fragList ≠ [])

/-- `skb_copy_bits`, which fails when that much is not there. -/
def copyBits (skb : SkBuff) (offset len : Nat) : Option (List Byte) :=
  if skb.len < offset + len then none else some ((skb.bytes.drop offset).take len)

/-- `skb_pull`, which returns `NULL` and does nothing when there is less data. -/
def pull (skb : SkBuff) (len : Nat) : SkBuff :=
  if skb.len < len then skb else { skb with head := skb.head.drop len }

/-- `skb_push`, and the copy of `data` to the place it makes. -/
def push (skb : SkBuff) (data : List Byte) : SkBuff := { skb with head := data ++ skb.head }

/-- The `n` bytes at `skb->data`. -/
def peek (skb : SkBuff) (n : Nat) : List Byte := (skb.head ++ skb.tailroom).take n

/-- `skb_linearize`; `ok` says whether there is memory for it. -/
def linearize (skb : SkBuff) (ok : Bool) : Option SkBuff :=
  if !skb.isNonlinear then some skb
  else if ok then some { skb with head := skb.bytes, frags := [], fragList := [] }
  else none

/-- `pskb_may_pull`; what stays behind the linear part is given as one fragment. -/
def mayPull (skb : SkBuff) (len : Nat) (ok : Bool) : Option SkBuff :=
  if len ≤ skb.head.length then some skb
  else if skb.len < len then none
  else if ok then
    some { skb with head := skb.bytes.take len, frags := [skb.bytes.drop len], fragList := [] }
  else none

/-- `pskb_trim` -/
def trim (skb : SkBuff) (len : Nat) (ok : Bool) : Option SkBuff :=
  if skb.len ≤ len then some skb
  else if skb.isNonlinear && !ok then none
  else
    some { skb with
      head := skb.head.take len
      frags := [(skb.frags.flatten ++ skb.fragList.flatten).take (len - skb.head.length)]
      fragList := [] }

theorem bytes_of_linear {skb : SkBuff} (h : skb.isNonlinear = false) : skb.bytes = skb.head := by
  unfold isNonlinear dataLen at h
  rw [decide_eq_false_iff_not, not_not, List.length_eq_zero_iff] at h
  unfold bytes
  rw [h, List.append_nil]

theorem copyBits_of_le {skb : SkBuff} {offset len : Nat} (h : offset + len ≤ skb.len) :
    skb.copyBits offset len = some ((skb.bytes.drop offset).take len) := if_neg (Nat.not_lt.2 h)

theorem bytes_push (skb : SkBuff) (data : List Byte) : (skb.push data).bytes = data ++ skb.bytes :=
  List.append_assoc ..

theorem bytes_pull {skb : SkBuff} {n : Nat} (h : n ≤ skb.head.length) :
    (skb.pull n).bytes = skb.bytes.drop n := by
  have hlen : ¬ skb.len < n := by
    unfold len bytes
    rw [List.length_append]
    omega
  unfold pull
  rw [if_neg hlen]
  exact (List.drop_append_of_le_length h).symm

theorem peek_eq {skb : SkBuff} {n : Nat} (h : n ≤ skb.head.length) :
    skb.peek n = skb.bytes.take n := by
  unfold peek bytes
  rw [List.take_append_of_le_length h, List.take_append_of_le_length h]

theorem linearize_bytes {skb skb' : SkBuff} {ok : Bool} (h : skb.linearize ok = some skb') :
    skb'.bytes = skb.bytes ∧ skb'.isNonlinear = false := by
  unfold linearize at h
  cases hn : skb.isNonlinear with
  | false =>
    rw [hn] at h
    cases h
    exact ⟨rfl, hn⟩
  | true =>
    rw [hn] at h
    cases ok with
    | false => cases h
    | true =>
      cases h
      exact ⟨List.append_nil _, rfl⟩

theorem mayPull_bytes {skb skb' : SkBuff} {len : Nat} {ok : Bool}
    (h : skb.mayPull len ok = some skb') : skb'.bytes = skb.bytes ∧ len ≤ skb.len := by
  unfold mayPull at h
  split at h
  · rename_i hle
    cases h
    refine ⟨rfl, Nat.le_trans hle ?_⟩
    unfold SkBuff.len bytes
    rw [List.length_append]
    exact Nat.le_add_right _ _
  · split at h
    · cases h
    · rename_i hlen
      cases ok with
      | false => cases h
      | true =>
        cases h
        refine ⟨?_, Nat.not_lt.1 hlen⟩
        unfold bytes
        simp only [List.flatten_cons, List.flatten_nil, List.append_nil, List.take_append_drop]

end SkBuff
