import SshTunnel.Proofs.Json.Grammar

/-!
Whatever the grammar derives is passed over: values of any kind and depth, with blanks between their tokens, with
strings that say nothing, and with numbers of any size.
-/

namespace SshTunnel.Json

variable {s t r : List Char} {v : Tree} {vs : List Tree} {ms : List (Option String × Tree)} {ps : List Piece}

/-! ### Strings -/

theorem Body.skipText_eq (h : Body s ps r) : skipText s = .ok r := by
  induction h with
  | close =>
    rw [skipText.eq_def]
    simp
  | plain hquote hslash hcontrol _ ih =>
    rw [skipText.eq_def]
    simp [hquote, hslash, Nat.not_lt.2 hcontrol, ih]
  | @escape e c s r ps stands _ ih =>
    rw [skipText.eq_def]
    simp [ne_u_of_escaped stands, stands, ih]
  | unit stands _ ih =>
    rw [skipText.eq_def]
    simp [stands, ih]

/-! ### Numbers -/

theorem Digits.exists_head {ds : List Char} (h : Digits ds) :
    ∃ c ds', ds = c :: ds' ∧ isDigit c = true ∧ c ≠ '+' ∧ c ≠ '-' := by
  obtain ⟨c, ds, rfl⟩ := List.exists_cons_of_ne_nil h.nonempty
  have hc : isDigit c = true := h.digits c List.mem_cons_self
  refine ⟨c, ds, rfl, hc, ?_, ne_minus_of_isDigit hc⟩
  rintro rfl
  exact absurd hc (by decide)

theorem Digits.skipDigits_eq {ds : List Char} (h : Digits ds) (hr : r.head?.any isDigit = false) :
    skipDigits (ds ++ r) = .ok r := by
  have hdrop := (digits_append h.digits hr).2
  obtain ⟨c, ds, rfl, hc, -, -⟩ := h.exists_head
  rw [skipDigits, hdrop]
  simp [hc]

theorem Exponent.skipExponent_eq {e : List Char} (h : Exponent e) (hr : Ended r) : skipExponent (e ++ r) = .ok r := by
  cases h with
  | none =>
    cases r with
    | nil => rfl
    | cons c r =>
      obtain ⟨-, -, he, hE⟩ := hr.ne c rfl
      simp [skipExponent, he, hE]
  | @some e sign ds mark signed h =>
    have hds := h.skipDigits_eq hr.not_isDigit
    obtain ⟨c, ds, rfl, -, hplus, hminus⟩ := h.exists_head
    rcases signed with rfl | rfl | rfl
    · rw [List.cons_append] at hds
      simp [skipExponent, mark, hplus, hminus, hds]
    · simpa [skipExponent, mark] using hds
    · simpa [skipExponent, mark] using hds

/-- No digit follows the digits in front of a fraction, an exponent or the end of a number. -/
theorem not_isDigit_of_tail {f e : List Char} (hf : Fraction f) (he : Exponent e) (hr : Ended r) :
    (f ++ (e ++ r)).head?.any isDigit = false := by
  cases hf with
  | some => rfl
  | none =>
    cases he with
    | none => exact hr.not_isDigit
    | some mark => rcases mark with rfl | rfl <;> rfl

theorem Fraction.skipFraction_eq {f e : List Char} (hf : Fraction f) (he : Exponent e) (hr : Ended r) :
    skipFraction (f ++ (e ++ r)) = .ok r := by
  have hexponent := he.skipExponent_eq hr
  cases hf with
  | some h =>
    have hdigits := h.skipDigits_eq (not_isDigit_of_tail .none he hr)
    rw [List.nil_append] at hdigits
    simp [skipFraction, hdigits, hexponent, Except.bind]
  | none =>
    have hdot : (e ++ r).head? ≠ Option.some '.' := by
      cases he with
      | none => exact fun hc => (hr.ne _ hc).2.1 rfl
      | some mark =>
        rcases mark with rfl | rfl
        · simp
        · simp
    rw [List.nil_append, skipFraction, if_neg hdot, hexponent]

theorem skipWhole_toDigits (n : Nat) (hr : r.head?.any isDigit = false) :
    skipWhole (Nat.toDigits 10 n ++ r) = .ok r := by
  have hskip : skipDigits (Nat.toDigits 10 n ++ r) = .ok r :=
    Digits.skipDigits_eq ⟨Nat.toDigits_ne_nil, fun c => isDigit_of_mem_toDigits⟩ hr
  have hhead : (Nat.toDigits 10 n ++ r).head? = (Nat.toDigits 10 n).head? := by
    rw [List.head?_append, Option.or_of_isSome (by simp [Nat.toDigits_ne_nil])]
  rw [skipWhole, hhead]
  split
  · rename_i hzero
    -- a zero in front is the whole number
    obtain rfl := eq_zero_of_head? n hzero
    simp [hr]
  · exact hskip

theorem skipNumber_eq (n : Nat) {f e : List Char} (hf : Fraction f) (he : Exponent e) (hr : Ended r) :
    skipNumber (Nat.toDigits 10 n ++ (f ++ (e ++ r))) = .ok r := by
  obtain ⟨c, ds, hdigits, hc⟩ := exists_toDigits n
  have hminus : (Nat.toDigits 10 n ++ (f ++ (e ++ r))).head? ≠ some '-' := by
    simpa [hdigits] using ne_minus_of_isDigit hc
  rw [skipNumber, if_neg hminus, skipWhole_toDigits n (not_isDigit_of_tail hf he hr)]
  exact hf.skipFraction_eq he hr

theorem Numeral.skipNumber_eq (h : Numeral t v) (hr : Ended r) : skipNumber (t ++ r) = .ok r := by
  cases h with
  | natural n => simpa using Json.skipNumber_eq n .none .none hr
  | real n hf he => simpa using Json.skipNumber_eq n hf he hr
  | negative n hf he =>
    have hskip := Json.skipNumber_eq n hf he hr
    obtain ⟨c, ds, hdigits, hc⟩ := exists_toDigits n
    rw [hdigits] at hskip ⊢
    simpa [skipNumber, ne_minus_of_isDigit hc] using hskip

/-! ### Steps -/

section Steps

variable {fuel : Nat} {c d : Char} {s₀ t' u u' : List Char}

theorem skipValue_number (hs : skipGap s₀ = c :: t) (hc : c = '-' ∨ isDigit c = true) :
    skipValue (fuel + 1) s₀ = skipNumber (c :: t) := by
  have hn : c ≠ 'n' := not_mark_of_numeric hc (by decide) (by decide)
  have ht : c ≠ 't' := not_mark_of_numeric hc (by decide) (by decide)
  have hf : c ≠ 'f' := not_mark_of_numeric hc (by decide) (by decide)
  have hquote : c ≠ '"' := not_mark_of_numeric hc (by decide) (by decide)
  rw [skipValue, hs]
  simp [hn, ht, hf, hquote, hc]

theorem skipValue_array (hs : skipGap s₀ = '[' :: t) (ht : skipGap t = d :: t') (hd : d ≠ ']') :
    skipValue (fuel + 1) s₀ = skipItems fuel (d :: t') := by
  rw [skipValue, hs]
  simp [ht, hd, isDigit]

theorem skipValue_object (hs : skipGap s₀ = '\x7b' :: t) (ht : skipGap t = '"' :: t') :
    skipValue (fuel + 1) s₀ = skipMembers fuel ('"' :: t') := by
  rw [skipValue, hs]
  simp [ht, isDigit]

theorem skipItems_close (hs : skipValue fuel s = .ok t) (ht : skipGap t = ']' :: r) :
    skipItems (fuel + 1) s = .ok r := by
  rw [skipItems, hs]
  simp [ht]

theorem skipItems_comma (hs : skipValue fuel s = .ok t) (ht : skipGap t = ',' :: t') :
    skipItems (fuel + 1) s = skipItems fuel t' := by
  rw [skipItems, hs]
  simp [ht]

theorem skipMembers_close (hs : skipGap s = '"' :: t) (ht : skipText t = .ok t') (ht' : skipGap t' = ':' :: u)
    (hu : skipValue fuel u = .ok u') (hu' : skipGap u' = '\x7d' :: r) : skipMembers (fuel + 1) s = .ok r := by
  rw [skipMembers, hs]
  simp [ht, ht', hu, hu']

theorem skipMembers_comma (hs : skipGap s = '"' :: t) (ht : skipText t = .ok t') (ht' : skipGap t' = ':' :: u)
    (hu : skipValue fuel u = .ok u') (hu' : skipGap u' = ',' :: r) : skipMembers (fuel + 1) s = skipMembers fuel r := by
  rw [skipMembers, hs]
  simp [ht, ht', hu, hu']

end Steps

/-! ### Values -/

theorem Value.skipGap_eq (h : Value t v r) (hs : Gap s t) : skipGap s = t := by
  obtain ⟨c, t, rfl, hc, -⟩ := h.exists_head
  exact hs.skipGap_eq hc

/-- Where an item is expected, no array ends. -/
theorem Items.exists_head (h : Items s vs r) : ∃ c t, skipGap s = c :: t ∧ skipGap (c :: t) = c :: t ∧ c ≠ ']' := by
  cases h with
  | item gap value =>
    have hgap := value.skipGap_eq gap
    obtain ⟨c, t, rfl, hc, hclose⟩ := value.exists_head
    exact ⟨c, t, hgap, skipGap_of_head hc t, hclose⟩

theorem Members.exists_head (h : Members s ms r) : ∃ t, skipGap s = '"' :: t := by
  cases h with
  | member quote => exact ⟨_, quote.skipGap_eq (by decide)⟩

mutual

/-- A value is passed over, with the blanks in front of it. -/
theorem Value.skipValue_eq : ∀ {s v r}, Value s v r → Ended r → ∀ fuel : Nat, 2 * s.length ≤ fuel + 1 →
    ∀ s₀ : List Char, skipGap s₀ = s → skipValue (fuel + 1) s₀ = .ok r
  | _, _, _, .null => by
    intro _ fuel _ s₀ hs
    simp [skipValue, hs, readName]
  | _, _, _, .yes => by
    intro _ fuel _ s₀ hs
    simp [skipValue, hs, readName]
  | _, _, _, .no => by
    intro _ fuel _ s₀ hs
    simp [skipValue, hs, readName]
  | _, _, _, .number h => by
    intro hr fuel _ s₀ hs
    have hskip := h.skipNumber_eq hr
    obtain ⟨c, t, rfl, hc⟩ := h.exists_head
    rw [skipValue_number hs hc, ← hskip]
    rfl
  | _, _, _, .string h => by
    intro _ fuel _ s₀ hs
    simp [skipValue, hs, h.skipText_eq]
  | _, _, _, .emptyArray h => by
    intro _ fuel _ s₀ hs
    simp [skipValue, hs, h.skipGap_eq, isGap, isDigit]
  | _, _, _, .array h => by
    intro _ fuel hfuel s₀ hs
    obtain ⟨c, t, ht, hgap, hc⟩ := h.exists_head
    rw [List.length_cons] at hfuel
    rw [skipValue_array hs ht hc]
    exact h.skipItems_eq fuel (by omega) (c :: t) (by rw [ht, hgap])
  | _, _, _, .emptyObject h => by
    intro _ fuel _ s₀ hs
    simp [skipValue, hs, h.skipGap_eq, isGap, isDigit]
  | _, _, _, .object h => by
    intro _ fuel hfuel s₀ hs
    obtain ⟨t, ht⟩ := h.exists_head
    rw [List.length_cons] at hfuel
    rw [skipValue_object hs ht]
    exact h.skipMembers_eq fuel (by omega) ('"' :: t) (by rw [ht]; exact skipGap_of_head (by decide) t)

theorem Items.skipItems_eq : ∀ {s vs r}, Items s vs r → ∀ fuel : Nat, 2 * s.length < fuel →
    ∀ s₀ : List Char, skipGap s₀ = skipGap s → skipItems fuel s₀ = .ok r
  | _, _, _, .item gap value more => by
    intro fuel hfuel s₀ hs
    have hgap := gap.length_le
    have hvalue := value.length_lt
    obtain ⟨fuel, rfl⟩ : ∃ fuel', fuel = fuel' + 2 := ⟨fuel - 2, by omega⟩
    have hitem := value.skipValue_eq more.ended fuel (by omega) s₀ (hs.trans (value.skipGap_eq gap))
    cases more with
    | close h => exact skipItems_close hitem (h.skipGap_eq (by decide))
    | comma h items =>
      have hcomma := h.length_le
      rw [List.length_cons] at hcomma
      rw [skipItems_comma hitem (h.skipGap_eq (by decide))]
      exact items.skipItems_eq (fuel + 1) (by omega) _ rfl

theorem Members.skipMembers_eq : ∀ {s ms r}, Members s ms r → ∀ fuel : Nat, 2 * s.length < fuel →
    ∀ s₀ : List Char, skipGap s₀ = skipGap s → skipMembers fuel s₀ = .ok r
  | _, _, _, .member quote name colon gap value more => by
    intro fuel hfuel s₀ hs
    have hquote := quote.length_le
    have hname := name.length_lt
    have hcolon := colon.length_le
    have hgap := gap.length_le
    have hvalue := value.length_lt
    rw [List.length_cons] at hquote hcolon
    obtain ⟨fuel, rfl⟩ : ∃ fuel', fuel = fuel' + 2 := ⟨fuel - 2, by omega⟩
    have hopen := hs.trans (quote.skipGap_eq (by decide))
    have hseparator := colon.skipGap_eq (c := ':') (by decide)
    have hmember := value.skipValue_eq more.ended fuel (by omega) _ (value.skipGap_eq gap)
    cases more with
    | close h => exact skipMembers_close hopen name.skipText_eq hseparator hmember (h.skipGap_eq (by decide))
    | comma h members =>
      have hcomma := h.length_le
      rw [List.length_cons] at hcomma
      rw [skipMembers_comma hopen name.skipText_eq hseparator hmember (h.skipGap_eq (by decide))]
      exact members.skipMembers_eq (fuel + 1) (by omega) _ rfl

end

/-- **Every value of the grammar is passed over.** -/
theorem Value.skip_eq (h : Value t v r) (hs : Gap s t) (hr : Ended r) : skip s = .ok r := by
  have hlength := hs.length_le
  exact h.skipValue_eq hr (2 * s.length + 1) (by omega) s (h.skipGap_eq hs)

end SshTunnel.Json
