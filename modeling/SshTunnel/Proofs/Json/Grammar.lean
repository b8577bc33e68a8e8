import Mathlib.Tactic.Common
import SshTunnel.Proofs.Json.Scalars

/-!
The grammar of JSON texts.  A relation says what a text may begin with and what is left behind it: blanks around
every token, characters that stand for themselves or are escaped, numbers of any size.  Of a value, a tree is kept:
how it is built, and what its names, strings and natural numbers say.
-/

namespace SshTunnel.Json

/-! ### Trees -/

inductive Tree
  | null
  | bool (b : Bool)
  | nat (n : Nat)
  /-- A number with a sign, a fraction or an exponent. -/
  | real
  /-- Nothing is said by a string in which one half of a character is left alone. -/
  | string (s : Option String)
  | array (items : List Tree)
  | object (members : List (Option String × Tree))

/-! ### Blanks and strings -/

/-- Blanks at the start of a text, and what follows them. -/
def Gap (s t : List Char) : Prop := ∃ g, (∀ c ∈ g, isGap c = true) ∧ s = g ++ t

/-- A piece of a string: a character, or the number of one, or of one half of it. -/
inductive Piece
  | char (c : Char)
  | unit (n : Nat)

/-- The characters that a string says.  The halves of a character come in pairs. -/
def said : List Piece → Option (List Char)
  | [] => some []
  | .char c :: ps => (said ps).map (c :: ·)
  | .unit n :: ps =>
    if isLowUnit n then none
    else if isHighUnit n then
      match ps with
      | .unit m :: ps => if isLowUnit m then (said ps).map (ofUnits n m :: ·) else none
      | _ => none
    else (said ps).map (Char.ofNat n :: ·)

/-- The pieces of a string after its opening quote, and what is left behind the closing one. -/
inductive Body : List Char → List Piece → List Char → Prop
  | close {r : List Char} : Body ('"' :: r) [] r
  | plain {c : Char} {s r : List Char} {ps : List Piece} (unquoted : c ≠ '"') (unescaped : c ≠ '\\')
    (uncontrolled : 0x20 ≤ c.toNat) (more : Body s ps r) : Body (c :: s) (.char c :: ps) r
  | escape {e c : Char} {s r : List Char} {ps : List Piece} (stands : escaped? e = some c) (more : Body s ps r) :
    Body ('\\' :: e :: s) (.char c :: ps) r
  | unit {a b c d : Char} {n : Nat} {s r : List Char} {ps : List Piece} (stands : unit? a b c d = some n)
    (more : Body s ps r) : Body ('\\' :: 'u' :: a :: b :: c :: d :: s) (.unit n :: ps) r

/-! ### Numbers -/

structure Digits (ds : List Char) : Prop where
  nonempty : ds ≠ []
  digits : ∀ c ∈ ds, isDigit c = true

inductive Fraction : List Char → Prop
  | none : Fraction []
  | some {ds : List Char} (h : Digits ds) : Fraction ('.' :: ds)

inductive Exponent : List Char → Prop
  | none : Exponent []
  | some {e : Char} {sign ds : List Char} (mark : e = 'e' ∨ e = 'E') (signed : sign = [] ∨ sign = ['+'] ∨ sign = ['-'])
    (h : Digits ds) : Exponent (e :: (sign ++ ds))

/-- A number: digits without zeros in front, and whatever makes it another number than a natural one. -/
inductive Numeral : List Char → Tree → Prop
  | natural (n : Nat) : Numeral (Nat.toDigits 10 n) (.nat n)
  | negative (n : Nat) {f e : List Char} (fraction : Fraction f) (exponent : Exponent e) :
    Numeral ('-' :: (Nat.toDigits 10 n ++ (f ++ e))) .real
  | real (n : Nat) {f e : List Char} (fraction : Fraction f) (exponent : Exponent e) (fractional : f ++ e ≠ []) :
    Numeral (Nat.toDigits 10 n ++ (f ++ e)) .real

/-! ### Values -/

mutual

inductive Value : List Char → Tree → List Char → Prop
  | null {r : List Char} : Value ('n' :: 'u' :: 'l' :: 'l' :: r) .null r
  | yes {r : List Char} : Value ('t' :: 'r' :: 'u' :: 'e' :: r) (.bool true) r
  | no {r : List Char} : Value ('f' :: 'a' :: 'l' :: 's' :: 'e' :: r) (.bool false) r
  | number {t r : List Char} {v : Tree} (h : Numeral t v) : Value (t ++ r) v r
  | string {s r : List Char} {ps : List Piece} (h : Body s ps r) :
    Value ('"' :: s) (.string ((said ps).map String.ofList)) r
  | emptyArray {s r : List Char} (h : Gap s (']' :: r)) : Value ('[' :: s) (.array []) r
  | array {s r : List Char} {vs : List Tree} (h : Items s vs r) : Value ('[' :: s) (.array vs) r
  | emptyObject {s r : List Char} (h : Gap s ('\x7d' :: r)) : Value ('\x7b' :: s) (.object []) r
  | object {s r : List Char} {ms : List (Option String × Tree)} (h : Members s ms r) :
    Value ('\x7b' :: s) (.object ms) r

/-- The items of an array, at least one, and its closing bracket. -/
inductive Items : List Char → List Tree → List Char → Prop
  | item {s t s' r : List Char} {v : Tree} {vs : List Tree} (gap : Gap s t) (value : Value t v s')
    (more : MoreItems s' vs r) : Items s (v :: vs) r

inductive MoreItems : List Char → List Tree → List Char → Prop
  | close {s r : List Char} (h : Gap s (']' :: r)) : MoreItems s [] r
  | comma {s t r : List Char} {vs : List Tree} (h : Gap s (',' :: t)) (items : Items t vs r) : MoreItems s vs r

/-- The members of an object, at least one, and its closing bracket. -/
inductive Members : List Char → List (Option String × Tree) → List Char → Prop
  | member {s t t' u u' s' r : List Char} {ps : List Piece} {v : Tree} {ms : List (Option String × Tree)}
    (quote : Gap s ('"' :: t)) (name : Body t ps t') (colon : Gap t' (':' :: u)) (gap : Gap u u')
    (value : Value u' v s') (more : MoreMembers s' ms r) : Members s (((said ps).map String.ofList, v) :: ms) r

inductive MoreMembers : List Char → List (Option String × Tree) → List Char → Prop
  | close {s r : List Char} (h : Gap s ('\x7d' :: r)) : MoreMembers s [] r
  | comma {s t r : List Char} {ms : List (Option String × Tree)} (h : Gap s (',' :: t)) (members : Members t ms r) :
    MoreMembers s ms r

end

/-- The text is that of one value, with blanks around it. -/
def Document (text : List Char) (v : Tree) : Prop := ∃ s r, Gap text s ∧ Value s v r ∧ Gap r []

variable {s t r : List Char} {v : Tree} {vs : List Tree} {ms : List (Option String × Tree)} {ps : List Piece}

/-! ### What stands next -/

theorem Gap.skipGap_eq {c : Char} (h : Gap s (c :: t)) (hc : isGap c = false) : skipGap s = c :: t := by
  obtain ⟨g, hg, rfl⟩ := h
  rw [skipGap, List.dropWhile_append_of_pos hg, List.dropWhile_cons_of_neg (by simp [hc])]

theorem Gap.skipGap_eq_nil (h : Gap s []) : skipGap s = [] := by
  obtain ⟨g, hg, rfl⟩ := h
  rw [skipGap, List.dropWhile_append_of_pos hg, List.dropWhile_nil]

theorem Gap.refl (s : List Char) : Gap s s := ⟨[], by simp, rfl⟩

theorem Gap.length_le (h : Gap s t) : t.length ≤ s.length := by
  obtain ⟨g, -, rfl⟩ := h
  simp

theorem Gap.ended (h : Gap s r) (hr : Ended r) : Ended s := by
  obtain ⟨g, hg, rfl⟩ := h
  cases g with
  | nil => exact hr
  | cons d g =>
    intro c hc
    obtain rfl := Option.some.inj hc
    exact Or.inr (Or.inr (Or.inr (hg _ List.mem_cons_self)))

theorem ended_nil : Ended [] := by simp [Ended]

theorem MoreItems.ended (h : MoreItems s vs r) : Ended s := by
  cases h with
  | close h => exact h.ended (by simp [Ended])
  | comma h => exact h.ended (by simp [Ended])

theorem MoreMembers.ended (h : MoreMembers s ms r) : Ended s := by
  cases h with
  | close h => exact h.ended (by simp [Ended])
  | comma h => exact h.ended (by simp [Ended])

/-! ### How a value begins -/

theorem Numeral.exists_head (h : Numeral t v) : ∃ c t', t = c :: t' ∧ (c = '-' ∨ isDigit c = true) := by
  cases h with
  | natural n =>
    obtain ⟨c, ds, hds, hc⟩ := exists_toDigits n
    exact ⟨c, ds, hds, Or.inr hc⟩
  | negative n => exact ⟨_, _, rfl, Or.inl rfl⟩
  | real n =>
    obtain ⟨c, ds, hds, hc⟩ := exists_toDigits n
    exact ⟨c, _, by rw [hds]; rfl, Or.inr hc⟩

/-- The sign or the digit that a number begins with is no other mark. -/
theorem not_mark_of_numeric {c : Char} (h : c = '-' ∨ isDigit c = true) {d : Char} (hminus : d ≠ '-')
    (hdigit : isDigit d = false) : c ≠ d := by
  rintro rfl
  rcases h with h | h
  · exact hminus h
  · rw [hdigit] at h
    cases h

theorem Value.exists_head (h : Value s v r) : ∃ c t, s = c :: t ∧ isGap c = false ∧ c ≠ ']' := by
  cases h with
  | number h =>
    obtain ⟨c, t, rfl, hc⟩ := h.exists_head
    refine ⟨c, _, rfl, ?_, not_mark_of_numeric hc (by decide) (by decide)⟩
    rcases hc with rfl | hc
    · decide
    · exact isGap_of_isDigit hc
  | null => exact ⟨_, _, rfl, by decide, by decide⟩
  | yes => exact ⟨_, _, rfl, by decide, by decide⟩
  | no => exact ⟨_, _, rfl, by decide, by decide⟩
  | string h => exact ⟨_, _, rfl, by decide, by decide⟩
  | emptyArray h => exact ⟨_, _, rfl, by decide, by decide⟩
  | array h => exact ⟨_, _, rfl, by decide, by decide⟩
  | emptyObject h => exact ⟨_, _, rfl, by decide, by decide⟩
  | object h => exact ⟨_, _, rfl, by decide, by decide⟩

/-! ### How much is left -/

theorem length_lt_append {a : List Char} (h : a ≠ []) (r : List Char) : r.length < (a ++ r).length := by
  have hpos := List.length_pos_iff.2 h
  rw [List.length_append]
  omega

theorem Body.length_lt (h : Body s ps r) : r.length < s.length := by
  induction h with
  | close => exact Nat.lt_succ_self _
  | plain _ _ _ _ ih => exact Nat.lt_succ_of_lt ih
  | escape _ _ ih => exact Nat.lt_succ_of_lt (Nat.lt_succ_of_lt ih)
  | unit _ _ ih => exact Nat.lt_trans ih (length_lt_append (a := ['\\', 'u', _, _, _, _]) (by simp) _)

mutual

theorem Value.length_lt : ∀ {s v r}, Value s v r → r.length < s.length
  | _, _, _, .null => length_lt_append (a := ['n', 'u', 'l', 'l']) (by simp) _
  | _, _, _, .yes => length_lt_append (a := ['t', 'r', 'u', 'e']) (by simp) _
  | _, _, _, .no => length_lt_append (a := ['f', 'a', 'l', 's', 'e']) (by simp) _
  | _, _, _, .number h => by
    obtain ⟨c, t, rfl, -⟩ := h.exists_head
    exact length_lt_append (by simp) _
  | _, _, _, .string h => Nat.lt_succ_of_lt h.length_lt
  | _, _, _, .emptyArray h => Nat.lt_succ_of_lt h.length_le
  | _, _, _, .array h => Nat.lt_succ_of_lt (Nat.lt_of_le_of_lt (Nat.le_add_left _ _) h.length_lt)
  | _, _, _, .emptyObject h => Nat.lt_succ_of_lt h.length_le
  | _, _, _, .object h => Nat.lt_succ_of_lt (Nat.lt_of_le_of_lt (Nat.le_add_left _ _) h.length_lt)

/-- Every item takes at least one character, and so does the bracket. -/
theorem Items.length_lt : ∀ {s vs r}, Items s vs r → vs.length + r.length < s.length
  | _, _, _, .item gap value more => by
    have hgap := gap.length_le
    have hvalue := value.length_lt
    have hmore := more.length_lt
    rw [List.length_cons]
    omega

theorem MoreItems.length_lt : ∀ {s vs r}, MoreItems s vs r → vs.length + r.length < s.length
  | _, _, _, .close h => by
    have hclose := h.length_le
    rw [List.length_cons] at hclose
    rw [List.length_nil]
    omega
  | _, _, _, .comma h items => by
    have hcomma := h.length_le
    have hitems := items.length_lt
    rw [List.length_cons] at hcomma
    omega

theorem Members.length_lt : ∀ {s ms r}, Members s ms r → ms.length + r.length < s.length
  | _, _, _, .member quote name colon gap value more => by
    have hquote := quote.length_le
    have hname := name.length_lt
    have hcolon := colon.length_le
    have hgap := gap.length_le
    have hvalue := value.length_lt
    have hmore := more.length_lt
    simp only [List.length_cons] at hquote hcolon ⊢
    omega

theorem MoreMembers.length_lt : ∀ {s ms r}, MoreMembers s ms r → ms.length + r.length < s.length
  | _, _, _, .close h => by
    have hclose := h.length_le
    rw [List.length_cons] at hclose
    rw [List.length_nil]
    omega
  | _, _, _, .comma h members => by
    have hcomma := h.length_le
    have hmembers := members.length_lt
    rw [List.length_cons] at hcomma
    omega

end

end SshTunnel.Json
