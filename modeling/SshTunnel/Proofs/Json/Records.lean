import SshTunnel.Proofs.Json.Scalars

/-!
What is written is read again, for values that hold others: options, arrays and records.  The members of an
object may stand in any order; a record takes in one after the other, each at most once.
-/

namespace SshTunnel.Json

variable {α σ : Type} {read : Reader α}

/-! ### Options -/

/-- The text of a value of the type does not start as `null` does. -/
theorem rereads_some {v : Json} {a : α} (h : Rereads read v a) (hhead : v.chars.head? ≠ some 'n') :
    Rereads (readOption read) v (some a) := by
  intro rest hrest
  have hread := h rest hrest
  obtain ⟨c, r, hchars, hgap, -⟩ := exists_chars v
  have hc : c ≠ 'n' := by
    rintro rfl
    exact hhead (by rw [hchars]; rfl)
  rw [hchars, List.cons_append] at hread ⊢
  simp [readOption, skipGap_of_head hgap, hc, hread, Except.map]

theorem rereads_none : Rereads (readOption read) .null none := by
  intro rest _
  have hnull : skipGap ('n' :: 'u' :: 'l' :: 'l' :: rest) = 'n' :: 'u' :: 'l' :: 'l' :: rest :=
    skipGap_of_head (by decide) _
  have hname : readName ['u', 'l', 'l'] ('u' :: 'l' :: 'l' :: rest) = .ok rest := readName_append _ rest
  simp [chars, readOption, hnull, hname, Except.map]

theorem rereads_option {f : α → Json} (hf : ∀ a, Rereads read (f a) a) (hhead : ∀ a, (f a).chars.head? ≠ some 'n')
    (o : Option α) : Rereads (readOption read) (.option f o) o := by
  cases o with
  | none => exact rereads_none
  | some a => exact rereads_some (hf a) (hhead a)

theorem string_head (s : String) : (Json.string s).chars.head? ≠ some 'n' := by
  simp [chars, stringText]

theorem nat_head (n : Nat) : (Json.nat n).chars.head? ≠ some 'n' := by
  obtain ⟨c, r, hdigits, hc⟩ := exists_toDigits n
  rw [chars, hdigits, List.head?_cons]
  rintro h
  obtain rfl := Option.some.inj h
  exact absurd hc (by decide)

/-! ### Arrays -/

/-- The text of an array from where an item, or the end, is expected. -/
def itemsFrom (first : Bool) : List Json → List Char
  | [] => [']']
  | v :: vs => if first then itemChars (v :: vs) else ',' :: itemChars (v :: vs)

theorem itemChars_cons (v : Json) (vs : List Json) : itemChars (v :: vs) = v.chars ++ itemsFrom false vs := by
  cases vs with
  | nil => rw [itemChars, itemsFrom]
  | cons w ws =>
    rw [itemChars]
    · rfl
    · simp

theorem itemsFrom_true (vs : List Json) : itemsFrom true vs = itemChars vs := by
  cases vs with
  | nil => rw [itemsFrom, itemChars]
  | cons v vs => rfl

theorem closed_itemsFrom (vs : List Json) (rest : List Char) : Closed (itemsFrom false vs ++ rest) := by
  cases vs with
  | nil => simp [itemsFrom, Closed]
  | cons v vs => simp [itemsFrom, Closed]

theorem nextElement_nil (first : Bool) (rest : List Char) :
    nextElement first (itemsFrom first [] ++ rest) = .ok (.close rest) := by
  have hend : skipGap (']' :: rest) = ']' :: rest := skipGap_of_head (by decide) rest
  simp [itemsFrom, nextElement, hend]

theorem nextElement_cons (first : Bool) (v : Json) (vs : List Json) (rest : List Char) :
    nextElement first (itemsFrom first (v :: vs) ++ rest) = .ok (.more (v.chars ++ (itemsFrom false vs ++ rest))) := by
  obtain ⟨c, r, hchars, hgap, hend⟩ := exists_chars v
  have hskip : ∀ s, skipGap (c :: s) = c :: s := skipGap_of_head hgap
  cases first with
  | true =>
    rw [itemsFrom_true, itemChars_cons, hchars]
    simp [nextElement, hskip, hend]
  | false =>
    have hcomma : ∀ s, skipGap (',' :: s) = ',' :: s := skipGap_of_head (by decide)
    have hitems : itemsFrom false (v :: vs) = ',' :: itemChars (v :: vs) := rfl
    rw [hitems, itemChars_cons, hchars]
    simp [nextElement, hskip, hcomma, hend]

theorem readItems_itemsFrom {vs : List Json} {as : List α} (h : List.Forall₂ (Rereads read) vs as) {fuel : Nat}
    (hfuel : vs.length < fuel) (first : Bool) (rest : List Char) :
    readItems read fuel first (itemsFrom first vs ++ rest) = .ok (as, rest) := by
  -- along the items: behind each of them stands a comma or the end, so that it is read again
  induction h generalizing fuel first with
  | nil =>
    obtain ⟨fuel, rfl⟩ := Nat.exists_eq_succ_of_ne_zero (Nat.ne_of_gt hfuel)
    rw [readItems, nextElement_nil]
  | @cons v a vs as hv hvs ih =>
    obtain ⟨fuel, rfl⟩ := Nat.exists_eq_succ_of_ne_zero (Nat.ne_of_gt (Nat.zero_lt_of_lt hfuel))
    rw [readItems, nextElement_cons]
    simp only [hv _ (closed_itemsFrom vs rest), ih (Nat.lt_of_succ_lt_succ hfuel) false]
    rfl

theorem length_le_itemChars (vs : List Json) : vs.length ≤ (itemChars vs).length := by
  induction vs with
  | nil => simp
  | cons v vs ih =>
    have hrest : vs.length ≤ (itemsFrom false vs).length := by
      cases vs with
      | nil => simp
      | cons w ws => exact Nat.le_trans ih (by simp [itemsFrom])
    obtain ⟨c, r, hchars, -, -⟩ := exists_chars v
    rw [itemChars_cons, List.length_append, hchars, List.length_cons, List.length_cons]
    omega

theorem rereads_array {vs : List Json} {as : List α} (h : List.Forall₂ (Rereads read) vs as) :
    Rereads (readArray read) (.array vs) as := by
  intro rest _
  have hopen : ∀ s, skipGap ('[' :: s) = '[' :: s := skipGap_of_head (by decide)
  have hfuel : vs.length < (itemChars vs ++ rest).length + 1 := by
    have hlength := length_le_itemChars vs
    rw [List.length_append]
    omega
  have hitems := readItems_itemsFrom h hfuel true rest
  rw [itemsFrom_true] at hitems
  rw [chars, List.cons_append]
  simp only [readArray, hopen, if_true, hitems]

/-! ### Records -/

/-- The text of an object from where a member, or the end, is expected. -/
def membersFrom (first : Bool) : List (String × Json) → List Char
  | [] => ['\x7d']
  | m :: ms => if first then memberChars (m :: ms) else ',' :: memberChars (m :: ms)

theorem memberChars_cons (k : String) (v : Json) (ms : List (String × Json)) :
    memberChars ((k, v) :: ms) = stringText k ++ ':' :: (v.chars ++ membersFrom false ms) := by
  cases ms with
  | nil => simp [memberChars, membersFrom]
  | cons m ms => simp [memberChars, membersFrom]

theorem membersFrom_true (ms : List (String × Json)) : membersFrom true ms = memberChars ms := by
  cases ms with
  | nil => rw [membersFrom, memberChars]
  | cons m ms => rfl

theorem closed_membersFrom (ms : List (String × Json)) (rest : List Char) :
    Closed (membersFrom false ms ++ rest) := by
  cases ms with
  | nil => simp [membersFrom, Closed]
  | cons m ms => simp [membersFrom, Closed]

theorem nextMember_nil (first : Bool) (rest : List Char) :
    nextMember first (membersFrom first [] ++ rest) = .ok (.close rest) := by
  have hend : skipGap ('\x7d' :: rest) = '\x7d' :: rest := skipGap_of_head (by decide) rest
  simp [membersFrom, nextMember, hend]

/-- What is left behind the opening quote of a member's name. -/
theorem nextMember_cons (first : Bool) (k : String) (v : Json) (ms : List (String × Json)) (rest : List Char) :
    nextMember first (membersFrom first ((k, v) :: ms) ++ rest) = .ok (.more
      (k.toList.flatMap charText ++ '"' :: ':' :: (v.chars ++ (membersFrom false ms ++ rest)))) := by
  have hquote : ∀ s, skipGap ('"' :: s) = '"' :: s := skipGap_of_head (by decide)
  cases first with
  | true => simp [membersFrom, memberChars_cons, stringText, nextMember, hquote]
  | false =>
    have hcomma : ∀ s, skipGap (',' :: s) = ',' :: s := skipGap_of_head (by decide)
    simp [membersFrom, memberChars_cons, stringText, nextMember, hquote, hcomma]

/-- A record takes in the members of an object one after the other and comes to `r'`; `seen` holds the names met
before. -/
inductive Fills (fs : List (Member σ)) : List String → σ → List (String × Json) → σ → Prop
  | done {seen : List String} {r : σ} (given : ∀ f ∈ fs, f.required = true → f.name ∈ seen) : Fills fs seen r [] r
  | take {seen : List String} {r r' : σ} {k : String} {v : Json} {ms : List (String × Json)} (f : Member σ)
    (known : (fs.find? fun f => f.name = k) = some f) (new : k ∉ seen) {set : σ → σ} (value : Rereads f.read v set)
    (others : Fills fs (k :: seen) (set r) ms r') : Fills fs seen r ((k, v) :: ms) r'

theorem readMembers_membersFrom {fs : List (Member σ)} {seen : List String} {r r' : σ} {ms : List (String × Json)}
    (h : Fills fs seen r ms r') {fuel : Nat} (hfuel : ms.length < fuel) (rest : List Char) :
    readMembers fs fuel seen r (membersFrom seen.isEmpty ms ++ rest) = .ok (r', rest) := by
  -- along the members; the first is the one before which no name was met
  induction h generalizing fuel with
  | @done seen r given =>
    obtain ⟨fuel, rfl⟩ := Nat.exists_eq_succ_of_ne_zero (Nat.ne_of_gt hfuel)
    have hgiven : ¬ (fs.any fun f => f.required && !seen.contains f.name) = true := by
      simpa using given
    rw [readMembers, nextMember_nil]
    simp only [if_neg hgiven]
  | @take seen r r' k v ms f known new set value others ih =>
    obtain ⟨fuel, rfl⟩ := Nat.exists_eq_succ_of_ne_zero (Nat.ne_of_gt (Nat.zero_lt_of_lt hfuel))
    have hcolon : skipColon (':' :: (v.chars ++ (membersFrom false ms ++ rest))) =
        .ok (v.chars ++ (membersFrom false ms ++ rest)) := by
      simp [skipColon, skipGap_of_head (c := ':') (by decide)]
    have hnew : ¬ seen.contains k = true := by simpa using new
    have hothers := ih (Nat.lt_of_succ_lt_succ hfuel)
    rw [List.isEmpty_cons] at hothers
    rw [readMembers, nextMember_cons]
    simp only [readText_flatMap, String.ofList_toList, known, if_neg hnew, hcolon,
      value _ (closed_membersFrom ms rest), hothers]

theorem length_le_memberChars (ms : List (String × Json)) : ms.length ≤ (memberChars ms).length := by
  induction ms with
  | nil => simp
  | cons m ms ih =>
    obtain ⟨k, v⟩ := m
    have hrest : ms.length ≤ (membersFrom false ms).length := by
      cases ms with
      | nil => simp
      | cons m ms => exact Nat.le_trans ih (by simp [membersFrom])
    rw [memberChars_cons, List.length_append, List.length_cons, List.length_cons, List.length_append]
    omega

theorem rereads_record {fs : List (Member σ)} {start r : σ} {ms : List (String × Json)}
    (h : Fills fs [] start ms r) : Rereads (readRecord fs start) (.object ms) r := by
  intro rest _
  have hopen : ∀ s, skipGap ('\x7b' :: s) = '\x7b' :: s := skipGap_of_head (by decide)
  have hfuel : ms.length < (memberChars ms ++ rest).length + 1 := by
    have hlength := length_le_memberChars ms
    rw [List.length_append]
    omega
  have hmembers := readMembers_membersFrom h hfuel rest
  rw [List.isEmpty_nil, membersFrom_true] at hmembers
  rw [chars, List.cons_append]
  simp only [readRecord, hopen, if_true, hmembers]

theorem rereads_member {name : String} {set : α → σ → σ} {v : Json} {a : α} (h : Rereads read v a) :
    Rereads (Member.of name read set).read v (set a) := by
  intro rest hrest
  simp [Member.of, h rest hrest, Except.map]

/-- A text of one value that is read again, and nothing else. -/
theorem readDocument_text {v : Json} {a : α} (h : Rereads read v a) : readDocument read v.text = .ok a := by
  have hread := h [] closed_nil
  rw [List.append_nil] at hread
  simp [readDocument, text, hread, skipGap]

end SshTunnel.Json
