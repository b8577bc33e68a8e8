import SshTunnel.Proofs.Json.Passing

/-!
What the readers of typed values accept: a value is read exactly if it is of the type, whatever way it is written.
-/

namespace SshTunnel.Json

variable {α : Type} {s t r : List Char} {v : Tree} {vs : List Tree} {ps : List Piece}

/-! ### Strings -/

theorem consChar_elim (c : Char) (o : Option (List Char)) (r : List Char) :
    consChar c (o.elim (.error .malformed) fun cs => .ok (cs, r)) =
      (o.map (c :: ·)).elim (.error .malformed) fun cs => .ok (cs, r) := by
  cases o with
  | none => rfl
  | some cs => rfl

/-- A string is read as what it says. -/
theorem Body.readText_eq (h : Body s ps r) :
    readText s = (said ps).elim (.error .malformed) fun cs => .ok (cs, r) := by
  -- the cases of `said`: a plain piece, a low half, a pair, a high half before something else, any other unit
  fun_induction said ps generalizing s with
  | case1 =>
    cases h
    rw [readText.eq_def]
    simp
  | case2 c ps ih =>
    cases h with
    | plain hquote hslash hcontrol more =>
      rw [readText.eq_def]
      simp [hquote, hslash, Nat.not_lt.2 hcontrol, ih more, consChar_elim]
    | @escape e c s r ps stands more =>
      rw [readText.eq_def]
      simp [ne_u_of_escaped stands, stands, ih more, consChar_elim]
  | case3 n ps hlow =>
    cases h with
    | unit stands more =>
      rw [readText.eq_def]
      simp [stands, hlow]
  | case4 n hlow hhigh m ps hpair ih =>
    cases h with
    | unit stands more =>
      cases more with
      | unit stands' more =>
        rw [readText.eq_def]
        simp [stands, hlow, hhigh, stands', hpair, ih more, consChar_elim]
  | case5 n hlow hhigh m ps hpair =>
    cases h with
    | unit stands more =>
      cases more with
      | unit stands' more =>
        rw [readText.eq_def]
        simp [stands, hlow, hhigh, stands', hpair]
  | case6 n ps hlow hhigh halone =>
    cases h with
    | unit stands more =>
      cases more with
      | close =>
        rw [readText.eq_def]
        simp [stands, hlow, hhigh]
      | plain hquote hslash hcontrol more =>
        rw [readText.eq_def]
        simp [stands, hlow, hhigh, hslash]
      | @escape e c s r ps stands' more =>
        rw [readText.eq_def]
        simp [stands, hlow, hhigh, ne_u_of_escaped stands']
      -- a unit behind it is one of the two cases above
      | unit stands' more => exact absurd rfl (halone _ _)
  | case7 n ps hlow hhigh ih =>
    cases h with
    | unit stands more =>
      rw [readText.eq_def]
      simp [stands, hlow, hhigh, ih more, consChar_elim]

/-! ### Numbers -/

/-- If all digits are taken up below one bound, they are below every greater one. -/
theorem absorb_of_le {bound bound' n v : Nat} {s : List Char} (hle : bound ≤ bound')
    (h : absorb bound n s = (v, s.length)) : absorb bound' n s = (v, s.length) := by
  induction s generalizing n with
  | nil => exact h
  | cons c s ih =>
    simp only [absorb, List.length_cons] at h ⊢
    split at h
    · rename_i hlt
      obtain ⟨hv, hk⟩ := Prod.mk.inj h
      have hrest : absorb bound (10 * n + digitValue c) s = (v, s.length) := Prod.ext hv (by simpa using hk)
      rw [if_pos (Nat.lt_of_lt_of_le hlt hle), ih hrest]
    · cases (Prod.mk.inj h).2

theorem absorb_lt {bound n v : Nat} {s : List Char} (h : absorb bound n s = (v, s.length)) (hn : n < bound) :
    v < bound := by
  induction s generalizing n with
  | nil =>
    obtain rfl : n = v := (Prod.mk.inj h).1
    exact hn
  | cons c s ih =>
    simp only [absorb, List.length_cons] at h
    split at h
    · rename_i hlt
      obtain ⟨hv, hk⟩ := Prod.mk.inj h
      exact ih (Prod.ext hv (by simpa using hk)) hlt
    · cases (Prod.mk.inj h).2

theorem lt_of_absorb_toDigits {bound n : Nat} (hbound : 0 < bound)
    (h : (absorb bound 0 (Nat.toDigits 10 n)).2 = (Nat.toDigits 10 n).length) : n < bound := by
  have habsorb : absorb bound 0 (Nat.toDigits 10 n) = (_, (Nat.toDigits 10 n).length) := Prod.ext rfl h
  have hwide := absorb_of_le (Nat.le_max_left bound (n + 1)) habsorb
  have hn : n < max bound (n + 1) := by omega
  rw [absorb_toDigits n hn] at hwide
  have hvalue := absorb_lt habsorb hbound
  rwa [← (Prod.mk.inj hwide).1] at hvalue

theorem absorb_le (bound n : Nat) (s : List Char) : (absorb bound n s).2 ≤ s.length := by
  induction s generalizing n with
  | nil => exact Nat.le_refl 0
  | cons c s ih =>
    simp only [absorb, List.length_cons]
    split
    · exact Nat.succ_le_succ (ih _)
    · exact Nat.zero_le _

/-- What has a fraction or an exponent, or too many digits, is no natural number. -/
theorem bind_none_ne {m : Nat} {r' : List Char} (e : Except Fault (List Char)) :
    (do return (none, ← e) : Except Fault (Option Nat × List Char)) ≠ .ok (some m, r') := by
  cases e with
  | error f => exact fun h => nomatch h
  | ok rest => exact fun h => nomatch h

/-- A magnitude is a natural number if nothing but digits is in it, and if they fit. -/
theorem lt_of_readMagnitude {n m : Nat} {x r' : List Char} (hx : x.head?.any isDigit = false)
    (h : readMagnitude (Nat.toDigits 10 n ++ x) = .ok (some m, r')) :
    n < UInt64.size ∧ ∀ c ∈ x.head?, c ≠ '.' ∧ c ≠ 'e' ∧ c ≠ 'E' := by
  obtain ⟨htake, hdrop⟩ := digits_append (fun c => isDigit_of_mem_toDigits (n := n)) hx
  -- digits that are taken up to the last fit below the bound; otherwise some are left for the scale
  have hsize := @lt_of_absorb_toDigits UInt64.size n (by decide)
  have hall := absorb_le UInt64.size 0 (Nat.toDigits 10 n)
  obtain ⟨c, ds, hdigits, hc⟩ := exists_toDigits n
  rw [hdigits] at htake hdrop hsize hall h
  rw [List.cons_append] at htake hdrop h
  simp only [readMagnitude, htake, hdrop] at h
  -- a zero before more digits, then a point, then the end of the number or an exponent
  split at h
  · cases h
  split at h
  · cases h
  split at h
  · exact absurd h (bind_none_ne _)
  split at h
  · rename_i hdot hnatural
    obtain ⟨hscale, he, hE⟩ := hnatural
    refine ⟨hsize (by omega), fun c hc => ?_⟩
    obtain ⟨x', rfl⟩ := List.head?_eq_some_iff.1 hc
    refine ⟨?_, fun h => he (by rw [h]; rfl), fun h => hE (by rw [h]; rfl)⟩
    rintro rfl
    exact hdot _ rfl
  · exact absurd h (bind_none_ne _)

theorem Numeral.tree (h : Numeral t v) : (∃ n, v = .nat n) ∨ v = .real := by
  cases h with
  | natural n => exact Or.inl ⟨n, rfl⟩
  | negative | real => exact Or.inr rfl

theorem natural_of_readNumber {c : Char} {s r' : List Char} {m : Nat} (hc : c ≠ '-')
    (h : readNumber (c :: s) = .ok (.natural m, r')) : readMagnitude (c :: s) = .ok (some m, r') := by
  unfold readNumber at h
  split at h
  · rename_i heq
    exact absurd (List.cons.inj heq).1 hc
  · cases hmagnitude : readMagnitude (c :: s) with
    | error f =>
      rw [hmagnitude] at h
      cases h
    | ok x =>
      obtain ⟨o, rest⟩ := x
      rw [hmagnitude] at h
      cases o with
      | none => cases h
      | some n =>
        cases h
        rfl

theorem readNumber_minus {s r' : List Char} {m : Nat} : readNumber ('-' :: s) ≠ .ok (.natural m, r') := by
  intro h
  simp only [readNumber] at h
  cases hmagnitude : readMagnitude s with
  | error f =>
    rw [hmagnitude] at h
    cases h
  | ok x =>
    obtain ⟨o, rest⟩ := x
    rw [hmagnitude] at h
    cases o with
    | none => cases h
    | some n =>
      simp only [Except.bind, bind, pure, Except.pure] at h
      split at h
      · cases h
      · cases h

/-- A natural number is read from nothing but its digits, and only below 64 bits. -/
theorem Numeral.natural_of_readNumber {m : Nat} {r' : List Char} (h : Numeral t v) (hr : Ended r)
    (hread : readNumber (t ++ r) = .ok (.natural m, r')) : v = .nat m ∧ m < UInt64.size ∧ r' = r := by
  cases h with
  | natural n =>
    obtain ⟨c, ds, hdigits, hc⟩ := exists_toDigits n
    have hmagnitude : readMagnitude (Nat.toDigits 10 n ++ r) = .ok (some m, r') := by
      rw [hdigits] at hread ⊢
      exact Json.natural_of_readNumber (ne_minus_of_isDigit hc) hread
    have hsize := (lt_of_readMagnitude hr.not_isDigit hmagnitude).1
    rw [readNumber_toDigits hsize hr] at hread
    cases hread
    exact ⟨rfl, hsize, rfl⟩
  | negative n => exact absurd hread readNumber_minus
  | @real n f e hf he fractional =>
    obtain ⟨c, ds, hdigits, hc⟩ := exists_toDigits n
    have hmagnitude : readMagnitude (Nat.toDigits 10 n ++ (f ++ (e ++ r))) = .ok (some m, r') := by
      rw [List.append_assoc, List.append_assoc] at hread
      rw [hdigits] at hread ⊢
      exact Json.natural_of_readNumber (ne_minus_of_isDigit hc) hread
    have hnext := (lt_of_readMagnitude (not_isDigit_of_tail hf he hr) hmagnitude).2
    -- a fraction or an exponent shows in its first character, and neither may stand behind the digits
    cases hf with
    | some => exact absurd rfl (hnext _ rfl).1
    | none =>
      cases he with
      | none => exact absurd rfl fractional
      | some mark =>
        rcases mark with rfl | rfl
        · exact absurd rfl (hnext _ rfl).2.1
        · exact absurd rfl (hnext _ rfl).2.2

/-! ### Types -/

/-- The reader takes the values that stand for something, and no others, whatever way they are written. -/
def Reads (read : Reader α) (Is : Tree → α → Prop) : Prop :=
  ∀ ⦃s t : List Char⦄ ⦃v : Tree⦄ ⦃r : List Char⦄, Gap s t → Value t v r → Ended r →
    ∀ a r', read s = .ok (a, r') ↔ Is v a ∧ r' = r

def Tree.IsString (v : Tree) (a : String) : Prop := v = .string (some a)

def Tree.IsBool (v : Tree) (b : Bool) : Prop := v = .bool b

def Tree.IsU16 (v : Tree) (n : UInt16) : Prop := v = .nat n.toNat

def Tree.IsU32 (v : Tree) (n : UInt32) : Prop := v = .nat n.toNat

def Tree.IsU64 (v : Tree) (n : UInt64) : Prop := v = .nat n.toNat

/-- A value, or none where `null` stands. -/
def Tree.IsOption (Is : Tree → α → Prop) (v : Tree) : Option α → Prop
  | none => v = .null
  | some a => Is v a

theorem reads_string : Reads readString Tree.IsString := by
  intro s t v r hs h hr a r'
  have hskip := h.skipGap_eq hs
  cases h with
  | @string s r ps h =>
    simp only [readString, hskip, h.readText_eq]
    cases said ps with
    | none => simp [Except.map, Tree.IsString]
    | some cs => simp [Except.map, Tree.IsString, eq_comm]
  | number h =>
    obtain ⟨c, t, rfl, hc⟩ := h.exists_head
    have hquote : c ≠ '"' := not_mark_of_numeric hc (by decide) (by decide)
    rw [List.cons_append] at hskip
    obtain ⟨n, rfl⟩ | rfl := h.tree
    · simp [readString, hskip, hquote, Tree.IsString]
    · simp [readString, hskip, hquote, Tree.IsString]
  | null | yes | no | emptyArray h | array h | emptyObject h | object h => simp [readString, hskip, Tree.IsString]

theorem reads_nat {bound : Nat} (hbound : bound ≤ UInt64.size) :
    Reads (readNat bound) fun v n => v = .nat n ∧ n < bound := by
  intro s t v r hs h hr a r'
  have hskip := h.skipGap_eq hs
  cases h with
  | number h =>
    constructor
    · intro hread
      obtain ⟨c, t, rfl, hc⟩ := h.exists_head
      rw [List.cons_append] at hskip
      simp only [readNat, hskip, if_pos hc] at hread
      split at hread
      · cases hread
      · rename_i n rest hnumber
        split at hread
        · rename_i hlt
          cases hread
          obtain ⟨rfl, -, rfl⟩ := h.natural_of_readNumber hr hnumber
          exact ⟨⟨rfl, hlt⟩, rfl⟩
        · cases hread
      · cases hread
    · rintro ⟨⟨rfl, hlt⟩, rfl⟩
      -- only of the natural numerals is the tree that of a number
      generalize hv : Tree.nat a = v at h
      cases h with
      | natural n =>
        obtain rfl : a = n := by injection hv
        have hread := readNat_toDigits hlt hbound hr
        obtain ⟨c, ds, hdigits, hc⟩ := exists_toDigits a
        rw [hdigits, List.cons_append] at hskip hread
        rw [readNat, skipGap_of_head (isGap_of_isDigit hc)] at hread
        rw [readNat, hskip]
        exact hread
      | negative | real => cases hv
  | null | yes | no | string h | emptyArray h | array h | emptyObject h | object h => simp [readNat, hskip, isDigit]

theorem map_eq_ok {β : Type} {e : Except Fault (α × List Char)} {f : α → β} {b : β} :
    (e.map fun x => (f x.1, x.2)) = .ok (b, r) ↔ ∃ a, e = .ok (a, r) ∧ f a = b := by
  rcases e with f | ⟨a, s⟩
  · simp [Except.map]
  · simp [Except.map, and_comm]

theorem Reads.map {β : Type} {read : Reader α} {Is : Tree → α → Prop} (h : Reads read Is) {f : α → β}
    {Is' : Tree → β → Prop} (hIs : ∀ v b, Is' v b ↔ ∃ a, Is v a ∧ f a = b) :
    Reads (fun s => (read s).map fun x => (f x.1, x.2)) Is' := by
  intro s t v r hs hv hr b r'
  rw [map_eq_ok, hIs, ← exists_and_right]
  refine exists_congr fun a => ?_
  rw [h hs hv hr a r', and_right_comm]

theorem reads_u16 : Reads readU16 Tree.IsU16 := by
  refine (@reads_nat UInt16.size (by decide)).map fun v n => ⟨?_, ?_⟩
  · rintro rfl
    exact ⟨n.toNat, ⟨rfl, n.toNat_lt⟩, UInt16.ofNat_toNat⟩
  · rintro ⟨m, ⟨rfl, hm⟩, rfl⟩
    rw [Tree.IsU16, UInt16.toNat_ofNat_of_lt' hm]

theorem reads_u32 : Reads readU32 Tree.IsU32 := by
  refine (@reads_nat UInt32.size (by decide)).map fun v n => ⟨?_, ?_⟩
  · rintro rfl
    exact ⟨n.toNat, ⟨rfl, n.toNat_lt⟩, UInt32.ofNat_toNat⟩
  · rintro ⟨m, ⟨rfl, hm⟩, rfl⟩
    rw [Tree.IsU32, UInt32.toNat_ofNat_of_lt' hm]

theorem reads_u64 : Reads readU64 Tree.IsU64 := by
  refine (@reads_nat UInt64.size (by decide)).map fun v n => ⟨?_, ?_⟩
  · rintro rfl
    exact ⟨n.toNat, ⟨rfl, n.toNat_lt⟩, UInt64.ofNat_toNat⟩
  · rintro ⟨m, ⟨rfl, hm⟩, rfl⟩
    rw [Tree.IsU64, UInt64.toNat_ofNat_of_lt' hm]

theorem reads_bool : Reads readBool Tree.IsBool := by
  intro s t v r hs h hr a r'
  have hskip := h.skipGap_eq hs
  cases h with
  | yes => simp [readBool, hskip, readName, Tree.IsBool, Except.map, eq_comm]
  | no => simp [readBool, hskip, readName, Tree.IsBool, Except.map, eq_comm]
  | number h =>
    obtain ⟨c, t, rfl, hc⟩ := h.exists_head
    have ht : c ≠ 't' := not_mark_of_numeric hc (by decide) (by decide)
    have hf : c ≠ 'f' := not_mark_of_numeric hc (by decide) (by decide)
    rw [List.cons_append] at hskip
    obtain ⟨n, rfl⟩ | rfl := h.tree
    · simp [readBool, hskip, ht, hf, Tree.IsBool]
    · simp [readBool, hskip, ht, hf, Tree.IsBool]
  | null | string h | emptyArray h | array h | emptyObject h | object h => simp [readBool, hskip, Tree.IsBool]

/-! ### Options -/

section

variable {read : Reader α} {Is : Tree → α → Prop}

/-- Only `null` begins as it does. -/
theorem Value.null_or_head (h : Value t v r) :
    (v = .null ∧ t = 'n' :: 'u' :: 'l' :: 'l' :: r) ∨ (v ≠ .null ∧ ∃ c t', t = c :: t' ∧ c ≠ 'n') := by
  cases h with
  | null => exact Or.inl ⟨rfl, rfl⟩
  | number h =>
    have hnull : v ≠ .null := by
      obtain ⟨n, rfl⟩ | rfl := h.tree
      · simp
      · simp
    obtain ⟨c, t, rfl, hc⟩ := h.exists_head
    exact Or.inr ⟨hnull, c, _, rfl, not_mark_of_numeric hc (by decide) (by decide)⟩
  | yes | no | string h | emptyArray h | array h | emptyObject h | object h =>
    exact Or.inr ⟨by simp, _, _, rfl, by decide⟩

theorem reads_option (h : Reads read Is) (hnull : ∀ a, ¬ Is .null a) :
    Reads (readOption read) (Tree.IsOption Is) := by
  intro s t v r hs hv hr o r'
  have hskip := hv.skipGap_eq hs
  have hread := h (Gap.refl t) hv hr
  obtain ⟨rfl, rfl⟩ | ⟨hne, c, t, rfl, hc⟩ := hv.null_or_head
  · cases o with
    | none => simp [readOption, hskip, readName, Tree.IsOption, Except.map, eq_comm]
    | some a => simp [readOption, hskip, readName, Tree.IsOption, Except.map, hnull]
  · simp only [readOption, hskip, if_neg hc, map_eq_ok, hread]
    cases o with
    | none => simp [Tree.IsOption, hne]
    | some a => simp [Tree.IsOption]

end

end SshTunnel.Json
