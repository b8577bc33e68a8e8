import Mathlib.Tactic.Common
import SshTunnel.Proofs.Rule.Grammar
import SshTunnel.Proofs.Text.Pieces

/-!
Rules that are written out and read again.  A rule in its written form has an address of its own, so that the
default one does not count; brackets stand around an address or a host exactly if there are colons in it.
-/

namespace SshTunnel

/-! ### Numerals -/

theorem digitsValue?_append {n m : Nat} {s : List Char} (h : digitsValue? n s = some m) (t : List Char) :
    digitsValue? n (s ++ t) = digitsValue? m t := by
  induction s generalizing n with
  | nil =>
    obtain rfl := Option.some.inj h
    rfl
  | cons c s ih =>
    rw [digitsValue?] at h
    split at h
    · rename_i hc
      rw [List.cons_append, digitsValue?, if_pos hc, ih h]
    · cases h

theorem digitsValue?_digitChar (n : Nat) {d : Nat} (hd : d < 10) :
    digitsValue? n [d.digitChar] = some (10 * n + d) := by
  have hdigit : ∀ d < 10, '0' ≤ Nat.digitChar d ∧ Nat.digitChar d ≤ '9' := by decide
  rw [digitsValue?, if_pos (hdigit d hd), digitsValue?, Nat.toNat_digitChar_of_lt_ten hd, Nat.add_sub_cancel_left]

/-- The digits of a number have its value. -/
theorem digitsValue?_toDigits (n : Nat) : digitsValue? 0 (Nat.toDigits 10 n) = some n := by
  induction n using Nat.strongRecOn with
  | ind n ih =>
    by_cases hn : n < 10
    · rw [Nat.toDigits_of_lt_base hn, digitsValue?_digitChar 0 hn]
      simp
    · have hvalue : 10 * (n / 10) + n % 10 = n := by omega
      rw [Nat.toDigits_of_base_le (by decide) (Nat.not_lt.1 hn), digitsValue?_append (ih (n / 10) (by omega)),
        digitsValue?_digitChar _ (Nat.mod_lt n (by decide)), hvalue]

theorem bounds_of_mem_toDigits {n : Nat} {c : Char} (h : c ∈ Nat.toDigits 10 n) : 48 ≤ c.toNat ∧ c.toNat ≤ 57 := by
  have hdigit : c.isDigit = true := Nat.isDigit_of_mem_toDigits (by decide) (by decide) h
  simpa [Char.isDigit, UInt32.le_iff_toNat_le] using hdigit

theorem port?_toDigits (p : UInt16) : port? (Nat.toDigits 10 p.toNat) = some p := by
  have hunsigned : ∀ ds, Nat.toDigits 10 p.toNat ≠ '+' :: ds := by
    intro ds h
    have hplus : '+' ∈ Nat.toDigits 10 p.toNat := by simp [h]
    exact absurd (bounds_of_mem_toDigits hplus) (by decide)
  have hlt : p.toNat < 65536 := p.toNat_lt
  rw [port?, Rule.numeral?_unsigned hunsigned, if_neg Nat.toDigits_ne_nil, digitsValue?_toDigits]
  simp [hlt]

theorem isWord_toDigits (n : Nat) : Text.IsWord (Nat.toDigits 10 n) := by
  refine ⟨Nat.toDigits_ne_nil, fun c hc => ?_⟩
  obtain ⟨hlow, hhigh⟩ := bounds_of_mem_toDigits hc
  simp only [Text.isBlank, Bool.or_eq_false_iff, Bool.and_eq_false_iff, decide_eq_false_iff_not, beq_eq_false_iff_ne]
  omega

namespace Rule

/-! ### Addresses and hosts -/

/-- An address or a host as it stands in a rule. -/
def spelling (v : List Char) : List Char := if ':' ∈ v then '[' :: (v ++ [']']) else v

theorem spelled_spelling {v : List Char} (hne : v ≠ []) (hopen : '[' ∉ v) (hclose : ']' ∉ v) :
    Spelled (spelling v) v := by
  unfold spelling
  split
  · exact .bracketed hne hopen hclose
  · rename_i hcolon
    exact .plain ⟨hne, hcolon, hopen, hclose⟩

theorem hostPort_toList (host : String) (p : UInt16) :
    (hostPort host p).toList = spelling host.toList ++ ':' :: Nat.toDigits 10 p.toNat := by
  unfold hostPort spelling
  split
  · simp
  · simp

/-- The written form starts with a bracket or with the first character of the address. -/
theorem exists_spelling {v : List Char} (hne : v ≠ []) (hstart : ∀ c ∈ v.head?, Text.isBlank c = false) :
    ∃ c t, spelling v = c :: t ∧ Text.isBlank c = false := by
  obtain ⟨c, t, rfl⟩ := List.exists_cons_of_ne_nil hne
  unfold spelling
  split
  · exact ⟨'[', _, rfl, by decide⟩
  · exact ⟨c, t, rfl, hstart c rfl⟩

/-! ### The whole rule -/

theorem check_eq_ok_iff {r : Rule} : r.check = .ok () ↔ r.Valid := by
  rw [← defect?_eq_none_iff, check]
  split
  · rename_i d hd
    simp [hd]
  · rename_i hd
    simp [hd]

/-- The parts of a rule that names its address. -/
def parts (r : Rule) : Parts :=
  ⟨some r.bind.toList, Nat.toDigits 10 r.localPort.toNat, r.host.toList, Nat.toDigits 10 r.port.toNat⟩

theorem parts_gives {r : Rule} (h : r.Valid) (defaultBind : String) : r.parts.Gives defaultBind r :=
  ⟨by simp [parts], port?_toDigits _, by simp [parts], port?_toDigits _, h.2.2⟩

/-- A text made of the parts of a valid rule is read as that rule. -/
theorem ofTrimmed_of_composed {t : List Char} {r : Rule} (hvalid : r.Valid)
    (h : Composed Spelled Eq t r.parts) (defaultBind : String) : ofTrimmed t defaultBind = .ok r := by
  have hgives := parts_gives hvalid defaultBind
  have hread := h.plainPorts (isPlain_of_port? hgives.localPort) (isPlain_of_port? hgives.port)
  refine ofTrimmed_eq_ok_iff.2 ⟨r.parts, composed_accepted_iff.1 hread.accepted, ?_⟩
  exact (Parts.ofFields_eq_ok_iff (by simpa [parts] using hvalid.1) (by simpa [parts] using hvalid.2.1)).2 hgives

/-- **A valid rule is read again from its address and its target**, with a colon between the two, whatever the
default address is; provided that there are no brackets in its names, and no blank in front of it. -/
theorem parse_localAddr_remoteAddr (r : Rule) (hvalid : r.check = .ok ())
    (hbind : '[' ∉ r.bind.toList ∧ ']' ∉ r.bind.toList) (hhost : '[' ∉ r.host.toList ∧ ']' ∉ r.host.toList)
    (hstart : ∀ c ∈ r.bind.toList.head?, Text.isBlank c = false) (defaultBind : String) :
    parse (r.localAddr ++ ":" ++ r.remoteAddr) defaultBind = .ok r := by
  rw [check_eq_ok_iff] at hvalid
  have hbindne : r.bind.toList ≠ [] := by simpa using hvalid.1
  have hhostne : r.host.toList ≠ [] := by simpa using hvalid.2.1
  have htext : (r.localAddr ++ ":" ++ r.remoteAddr).toList = spelling r.bind.toList ++ ':' ::
      (Nat.toDigits 10 r.localPort.toNat ++ ':' ::
        (spelling r.host.toList ++ ':' :: Nat.toDigits 10 r.port.toNat)) := by
    simp [localAddr, remoteAddr, hostPort_toList]
  have hcomposed : Composed Spelled Eq (r.localAddr ++ ":" ++ r.remoteAddr).toList r.parts := by
    rw [htext]
    exact .four (spelled_spelling hbindne hbind.1 hbind.2) rfl (spelled_spelling hhostne hhost.1 hhost.2) rfl
  -- nothing is trimmed: no blank in front, and digits at the end
  have htrim : Text.trim (r.localAddr ++ ":" ++ r.remoteAddr).toList =
      (r.localAddr ++ ":" ++ r.remoteAddr).toList := by
    obtain ⟨c, t, hspelling, hc⟩ := exists_spelling hbindne hstart
    have hword : Text.IsWord [c] := ⟨by simp, by simpa using hc⟩
    rw [htext, hspelling]
    simpa using Text.trim_of_words hword (isWord_toDigits r.port.toNat)
      (t ++ ':' :: (Nat.toDigits 10 r.localPort.toNat ++ ':' :: (spelling r.host.toList ++ [':'])))
  rw [parse_eq_ok, htrim]
  exact ofTrimmed_of_composed hvalid hcomposed defaultBind

/-- An address with colons beside a host with blanks around it; the default address is not even one. -/
theorem parse_localAddr_remoteAddr_blanks :
    (⟨"::1", 0, " db\t", 65535⟩ : Rule).check = .ok () ∧
      parse ((⟨"::1", 0, " db\t", 65535⟩ : Rule).localAddr ++ ":" ++
        (⟨"::1", 0, " db\t", 65535⟩ : Rule).remoteAddr) "" = .ok ⟨"::1", 0, " db\t", 65535⟩ := by
  have hvalid : (⟨"::1", 0, " db\t", 65535⟩ : Rule).check = .ok () := by decide
  have hstart : ∀ c ∈ "::1".toList.head?, Text.isBlank c = false := by
    intro c hc
    obtain rfl : ':' = c := Option.some.inj hc
    decide
  exact ⟨hvalid, parse_localAddr_remoteAddr _ hvalid (by decide) (by decide) hstart ""⟩

end Rule

end SshTunnel
