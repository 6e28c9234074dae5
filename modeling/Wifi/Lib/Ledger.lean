import Mathlib.Data.List.Nodup

/-!
# Lists of entries with a log

Entries come on a list, are changed there and go off it, and a log keeps what was told about each of them.

* `Laws` — what may have been told about an entry while it is listed, and once it is off.
* `walkWhile` — a walk over the head of the list that changes or drops entries and tells of it.
* `Kept` — the log of every entry, listed, gone or to come, is as the laws say.
* `Kept.walkWhile`, `Kept.add` — a walk of lawful moves keeps it; so does a new entry.
-/

set_option autoImplicit false

namespace Ledger

variable {ε ν : Type*}

structure Laws (ε ν : Type*) where
  key : ε → Nat
  told : ε → List ν → Prop
  final : List ν → Prop

/-- What the log tells about `k`. -/
def history (k : Nat) : List (Nat × ν) → List ν
  | [] => []
  | x :: log => if x.1 = k then x.2 :: history k log else history k log

def tag (k : Nat) (evs : List ν) : List (Nat × ν) := evs.map fun ev => (k, ev)

/-- The entries are visited up to the first one without `p`; `f` changes or drops each, and tells of it. -/
def walkWhile (key : ε → Nat) (p : ε → Bool) (f : ε → Option ε × List ν) : List ε → List ε × List (Nat × ν)
  | [] => ([], [])
  | e :: l =>
    if p e then
      let r := walkWhile key p f l
      ((f e).1.toList ++ r.1, tag (key e) (f e).2 ++ r.2)
    else (e :: l, [])

def Laws.Moves (L : Laws ε ν) (e : ε) (r : Option ε × List ν) (told : List ν) : Prop :=
  r.1.elim (L.final (told ++ r.2)) fun e' => L.key e' = L.key e ∧ L.told e' (told ++ r.2)

/-- The log is lawful, with `next` the key of the next entry. -/
structure Kept (L : Laws ε ν) (next : Nat) (l : List ε) (log : List (Nat × ν)) : Prop where
  nodup : (l.map L.key).Nodup
  fresh : ∀ e ∈ l, L.key e < next
  live : ∀ e ∈ l, L.told e (history (L.key e) log)
  gone : ∀ k < next, (∀ e ∈ l, L.key e ≠ k) → L.final (history k log)
  unborn : ∀ k, next ≤ k → history k log = []

/-! ## Histories -/

@[simp]
theorem history_append (k : Nat) : ∀ log log' : List (Nat × ν),
    history k (log ++ log') = history k log ++ history k log'
  | [], _ => rfl
  | x :: log, log' => by
    by_cases h : x.1 = k
    · simp only [List.cons_append, history, if_pos h, history_append k log log']
    · simp only [List.cons_append, history, if_neg h, history_append k log log']

@[simp]
theorem history_tag_self (k : Nat) : ∀ evs : List ν, history k (tag k evs) = evs
  | [] => rfl
  | ev :: evs => by
    show (if k = k then ev :: history k (tag k evs) else history k (tag k evs)) = ev :: evs
    rw [if_pos rfl, history_tag_self k evs]

theorem history_tag_other {k k' : Nat} (h : k' ≠ k) : ∀ evs : List ν, history k (tag k' evs) = []
  | [] => rfl
  | ev :: evs => by
    show (if k' = k then ev :: history k (tag k' evs) else history k (tag k' evs)) = []
    rw [if_neg h, history_tag_other h evs]

/-! ## Moves -/

variable {L : Laws ε ν} {next : Nat} {log : List (Nat × ν)}

/-- **One lawful move.** -/
theorem Kept.move {l l' : List ε} {e : ε} {r : Option ε × List ν} (h : Kept L next (l ++ e :: l') log)
    (hr : L.Moves e r (history (L.key e) log)) :
    Kept L next (l ++ (r.1.toList ++ l')) (log ++ tag (L.key e) r.2) := by
  have hmem : e ∈ l ++ e :: l' := List.mem_append_right _ List.mem_cons_self
  have hkeys := h.nodup
  rw [List.map_append, List.map_cons] at hkeys
  have hnot : ∀ x ∈ l ++ l', L.key x ≠ L.key e := by
    have hp := (List.perm_middle.nodup_iff).1 hkeys
    intro x hx heq
    refine (List.nodup_cons.1 hp).1 ?_
    rw [← List.map_append, ← heq]
    exact List.mem_map_of_mem hx
  have hold : ∀ x ∈ l ++ l', x ∈ l ++ e :: l' := fun x hx =>
    (List.mem_append.1 hx).elim (fun hx => List.mem_append_left _ hx)
      fun hx => List.mem_append_right _ (List.mem_cons_of_mem _ hx)
  have hother : ∀ k, k ≠ L.key e → history k (log ++ tag (L.key e) r.2) = history k log := fun k hk => by
    rw [history_append, history_tag_other fun h => hk h.symm, List.append_nil]
  have hself : history (L.key e) (log ++ tag (L.key e) r.2) = history (L.key e) log ++ r.2 := by
    rw [history_append, history_tag_self]
  unfold Laws.Moves at hr
  cases hr1 : r.1 with
  | none =>
    rw [hr1] at hr
    show Kept L next (l ++ l') _
    have hsub : (l ++ l').map L.key = l.map L.key ++ l'.map L.key := List.map_append
    refine ⟨?_, fun x hx => h.fresh x (hold x hx), fun x hx => ?_, fun k hk hno => ?_, fun k hk => ?_⟩
    · rw [hsub]
      exact (List.nodup_cons.1 ((List.perm_middle.nodup_iff).1 hkeys)).2
    · rw [hother _ (hnot x hx)]
      exact h.live x (hold x hx)
    · by_cases hke : k = L.key e
      · rw [hke, hself]
        exact hr
      · rw [hother k hke]
        refine h.gone k hk fun x hx => ?_
        rcases List.mem_append.1 hx with hx | hx
        · exact hno x (List.mem_append_left _ hx)
        · rcases List.mem_cons.1 hx with rfl | hx
          · exact fun heq => hke heq.symm
          · exact hno x (List.mem_append_right _ hx)
    · have hlt := h.fresh e hmem
      rw [hother k (by omega)]
      exact h.unborn k hk
  | some e' =>
    rw [hr1] at hr
    obtain ⟨hkey, htold⟩ := hr
    have hmem' : ∀ x, x ∈ l ++ e' :: l' → x = e' ∨ x ∈ l ++ l' := fun x hx =>
      (List.mem_append.1 hx).elim (fun hx => .inr (List.mem_append_left _ hx))
        fun hx => (List.mem_cons.1 hx).elim .inl fun hx => .inr (List.mem_append_right _ hx)
    show Kept L next (l ++ e' :: l') _
    refine ⟨?_, fun x hx => ?_, fun x hx => ?_, fun k hk hno => ?_, fun k hk => ?_⟩
    · rw [List.map_append, List.map_cons, hkey]
      exact hkeys
    · rcases hmem' x hx with rfl | hx
      · exact hkey ▸ h.fresh e hmem
      · exact h.fresh x (hold x hx)
    · rcases hmem' x hx with rfl | hx
      · rw [hkey, hself]
        exact htold
      · rw [hother _ (hnot x hx)]
        exact h.live x (hold x hx)
    · have hke : k ≠ L.key e := fun heq =>
        hno e' (List.mem_append_right _ List.mem_cons_self) (hkey.trans heq.symm)
      rw [hother k hke]
      refine h.gone k hk fun x hx => ?_
      rcases List.mem_append.1 hx with hx | hx
      · exact hno x (List.mem_append_left _ hx)
      · rcases List.mem_cons.1 hx with rfl | hx
        · exact fun heq => hke heq.symm
        · exact hno x (List.mem_append_right _ (List.mem_cons_of_mem _ hx))
    · have hlt := h.fresh e hmem
      rw [hother k (by omega)]
      exact h.unborn k hk

/-- **A walk of lawful moves** over `l'`, after the entries `l` that it has passed already. -/
theorem Kept.walkWhile {p : ε → Bool} {f : ε → Option ε × List ν} : ∀ {l' l : List ε} {log : List (Nat × ν)},
    Kept L next (l ++ l') log → (∀ e ∈ l', p e = true → ∀ told, L.told e told → L.Moves e (f e) told) →
    Kept L next (l ++ (walkWhile L.key p f l').1) (log ++ (walkWhile L.key p f l').2)
  | [], l, log, h, _ => by
    unfold Ledger.walkWhile
    rw [List.append_nil log]
    exact h
  | e :: l', l, log, h, hf => by
    unfold Ledger.walkWhile
    cases hp : p e with
    | false =>
      rw [if_neg (by decide), List.append_nil]
      exact h
    | true =>
      rw [if_pos rfl]
      have hlive := h.live e (List.mem_append_right _ List.mem_cons_self)
      have hmove := h.move (hf e List.mem_cons_self hp _ hlive)
      rw [← List.append_assoc] at hmove
      have hrest := Kept.walkWhile hmove fun x hx => hf x (List.mem_cons_of_mem _ hx)
      rw [List.append_assoc, List.append_assoc] at hrest
      exact hrest

/-- **A new entry.** -/
theorem Kept.add {l l' : List ε} {e : ε} {evs : List ν} (h : Kept L next (l ++ l') log) (hkey : L.key e = next)
    (htold : L.told e evs) : Kept L (next + 1) (l ++ e :: l') (log ++ tag next evs) := by
  have hold : ∀ x ∈ l ++ l', L.key x ≠ next := fun x hx => Nat.ne_of_lt (h.fresh x hx)
  have hmem : ∀ x, x ∈ l ++ e :: l' → x = e ∨ x ∈ l ++ l' := fun x hx =>
    (List.mem_append.1 hx).elim (fun hx => .inr (List.mem_append_left _ hx))
      fun hx => (List.mem_cons.1 hx).elim .inl fun hx => .inr (List.mem_append_right _ hx)
  have hother : ∀ k, k ≠ next → history k (log ++ tag next evs) = history k log := fun k hk => by
    rw [history_append, history_tag_other fun h => hk h.symm, List.append_nil]
  refine ⟨?_, fun x hx => ?_, fun x hx => ?_, fun k hk hno => ?_, fun k hk => ?_⟩
  · rw [List.map_append, List.map_cons]
    refine (List.perm_middle.nodup_iff).2 (List.nodup_cons.2 ⟨fun hin => ?_, ?_⟩)
    · rw [← List.map_append] at hin
      obtain ⟨x, hx, heq⟩ := List.mem_map.1 hin
      exact hold x hx (heq.trans hkey)
    · rw [← List.map_append]
      exact h.nodup
  · rcases hmem x hx with rfl | hx
    · omega
    · have hlt := h.fresh x hx
      omega
  · rcases hmem x hx with rfl | hx
    · rw [hkey, history_append, history_tag_self, h.unborn next (Nat.le_refl _)]
      exact htold
    · rw [hother _ (hold x hx)]
      exact h.live x hx
  · have hne : k ≠ next := fun heq =>
      hno e (List.mem_append_right _ List.mem_cons_self) (hkey.trans heq.symm)
    rw [hother k hne]
    refine h.gone k (by omega) fun x hx => hno x ?_
    rcases List.mem_append.1 hx with hx | hx
    · exact List.mem_append_left _ hx
    · exact List.mem_append_right _ (List.mem_cons_of_mem _ hx)
  · rw [hother k (by omega)]
    exact h.unborn k (by omega)

/-! ## What a walk leaves -/

/-- A walk that keeps `g` of what it changes, leaves a part of the list's `g`. -/
theorem walkWhile_sublist {β : Type*} {key : ε → Nat} {p : ε → Bool} {f : ε → Option ε × List ν} {g : ε → β} :
    ∀ {l : List ε}, (∀ e ∈ l, p e = true → ∀ e', (f e).1 = some e' → g e' = g e) →
    ((walkWhile key p f l).1.map g).Sublist (l.map g)
  | [], _ => List.Sublist.refl _
  | e :: l, hf => by
    unfold Ledger.walkWhile
    cases hp : p e with
    | false => exact List.Sublist.refl _
    | true =>
      rw [if_pos rfl]
      have hrest : ((walkWhile key p f l).1.map g).Sublist (l.map g) :=
        walkWhile_sublist fun x hx => hf x (List.mem_cons_of_mem _ hx)
      dsimp only
      cases he : (f e).1 with
      | none => exact hrest.cons _
      | some e' =>
        show (g e' :: (walkWhile key p f l).1.map g).Sublist (g e :: l.map g)
        rw [hf e List.mem_cons_self hp e' he]
        exact hrest.cons_cons _

end Ledger
