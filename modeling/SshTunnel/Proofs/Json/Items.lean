import Mathlib.Data.List.Forall2
import SshTunnel.Proofs.Json.Typed

/-!
What the readers of arrays accept: arrays whose items are all accepted, one after the other.
-/

namespace SshTunnel.Json

variable {α : Type} {s t r : List Char} {v : Tree} {vs : List Tree}

/-! ### What stands next -/

/-- What is found where an item, or the end of its array, may stand. -/
inductive NextItem (first : Bool) (s : List Char) : List Tree → List Char → Prop
  | close {r : List Char} (next : nextElement first s = .ok (.close r)) : NextItem first s [] r
  | item {t s' r : List Char} {v : Tree} {vs : List Tree} (next : nextElement first s = .ok (.more t))
    (value : Value t v s') (more : MoreItems s' vs r) : NextItem first s (v :: vs) r

theorem Gap.nextItem (first : Bool) (h : Gap s (']' :: r)) : NextItem first s [] r := by
  refine .close ?_
  simp [nextElement, h.skipGap_eq (c := ']') (by decide)]

theorem Items.nextItem (h : Items s vs r) : NextItem true s vs r := by
  cases h with
  | @item s t s' r v vs gap value more =>
    have hskip := value.skipGap_eq gap
    obtain ⟨c, t', rfl, -, hc⟩ := value.exists_head
    exact .item (by simp [nextElement, hskip, hc]) value more

theorem MoreItems.nextItem (h : MoreItems s vs r) : NextItem false s vs r := by
  cases h with
  | close h => exact h.nextItem false
  | comma h items =>
    have hcomma := h.skipGap_eq (c := ',') (by decide)
    cases items with
    | @item s t s' r v vs gap value more =>
      have hskip := value.skipGap_eq gap
      obtain ⟨c, t', rfl, -, hc⟩ := value.exists_head
      exact .item (by simp [nextElement, hcomma, hskip, hc]) value more

/-! ### Arrays -/

/-- An array of values. -/
def Tree.IsList (Is : Tree → α → Prop) (v : Tree) (as : List α) : Prop := ∃ vs, v = .array vs ∧ List.Forall₂ Is vs as

section

variable {read : Reader α} {Is : Tree → α → Prop}

theorem readItems_item {first : Bool} (next : nextElement first s = .ok (.more t)) {fuel : Nat} {as : List α} :
    readItems read (fuel + 1) first s = .ok (as, r) ↔
      ∃ a s' as', read t = .ok (a, s') ∧ readItems read fuel false s' = .ok (as', r) ∧ a :: as' = as := by
  rw [readItems, next]
  rcases hread : read t with e | ⟨a, s'⟩
  · simp [hread]
  · simp [hread, map_eq_ok (f := (a :: ·))]

theorem readItems_eq_ok (h : Reads read Is) {first : Bool} (hs : NextItem first s vs r) {fuel : Nat}
    (hfuel : vs.length < fuel) (as : List α) (r' : List Char) :
    readItems read fuel first s = .ok (as, r') ↔ List.Forall₂ Is vs as ∧ r' = r := by
  -- on the elements, with the fuel above their number; the first one alone may be without a comma
  induction vs generalizing fuel first s as with
  | nil =>
    cases hs with
    | close next =>
      obtain ⟨fuel, rfl⟩ := Nat.exists_eq_succ_of_ne_zero (Nat.ne_of_gt hfuel)
      rw [readItems, next, List.forall₂_nil_left_iff]
      simp [eq_comm]
  | cons v vs ih =>
    cases hs with
    | @item t s' r v vs next value more =>
      obtain ⟨fuel, rfl⟩ := Nat.exists_eq_succ_of_ne_zero (Nat.ne_of_gt (Nat.zero_lt_of_lt hfuel))
      rw [readItems_item next]
      constructor
      · rintro ⟨a, s₁, as, hread, hrest, rfl⟩
        obtain ⟨ha, rfl⟩ := (h (Gap.refl t) value more.ended a s₁).1 hread
        obtain ⟨has, rfl⟩ := (ih more.nextItem (Nat.lt_of_succ_lt_succ hfuel) as).1 hrest
        exact ⟨.cons ha has, rfl⟩
      · rintro ⟨hall, rfl⟩
        cases hall with
        | @cons _ a _ as ha has =>
          exact ⟨a, s', as, (h (Gap.refl t) value more.ended a s').2 ⟨ha, rfl⟩,
            (ih more.nextItem (Nat.lt_of_succ_lt_succ hfuel) as).2 ⟨has, rfl⟩, rfl⟩

theorem reads_array (h : Reads read Is) : Reads (readArray read) (Tree.IsList Is) := by
  intro s t v r hs hv hr as r'
  have hskip := hv.skipGap_eq hs
  cases hv with
  | @emptyArray s r hclose =>
    have hread := readItems_eq_ok h (hclose.nextItem true) (Nat.succ_pos s.length) as r'
    simpa [readArray, hskip, Tree.IsList] using hread
  | @array s r vs items =>
    have hlength := items.length_lt
    have hread := readItems_eq_ok h items.nextItem (by omega : vs.length < s.length + 1) as r'
    simpa [readArray, hskip, Tree.IsList] using hread
  | number hv =>
    obtain ⟨c, t, rfl, hc⟩ := hv.exists_head
    have hopen : c ≠ '[' := not_mark_of_numeric hc (by decide) (by decide)
    rw [List.cons_append] at hskip
    obtain ⟨n, rfl⟩ | rfl := hv.tree
    · simp [readArray, hskip, hopen, Tree.IsList]
    · simp [readArray, hskip, hopen, Tree.IsList]
  | null | yes | no | string h | emptyObject h | object h => simp [readArray, hskip, Tree.IsList]

end

end SshTunnel.Json
