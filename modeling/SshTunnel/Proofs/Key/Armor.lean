import Mathlib.Tactic.Common
import SshTunnel.Key.Armor
import SshTunnel.Proofs.Bytes.Base64
import SshTunnel.Proofs.Text.Pieces

/-!
Writing private keys as texts.  A container in base64 between its two marker lines is read back, and lines of
prose in front of it are passed over.
-/

namespace SshTunnel.PrivateKey

open Text (pieces)

/-! ### Lines -/

/-- The text of some lines. -/
def ofLines (lines : List (List Char)) : String := String.ofList (lines.flatMap (· ++ ['\n']))

/-- A line that is read as it is written. -/
def IsLine (line : List Char) : Prop := '\n' ∉ line ∧ line.getLast? ≠ some '\r'

instance {line : List Char} : Decidable (IsLine line) := inferInstanceAs (Decidable (_ ∧ _))

theorem pieces_flatMap_newline : ∀ {lines : List (List Char)}, (∀ l ∈ lines, '\n' ∉ l) →
    pieces (· = '\n') (lines.flatMap (· ++ ['\n'])) = lines ++ [[]]
  | [], _ => rfl
  | l :: lines, h => by
    have hl : pieces (· = '\n') l = [l] := Text.pieces_of_all_not fun c hc => by
      simpa using ne_of_mem_of_not_mem hc (h l (by simp))
    have ih := pieces_flatMap_newline fun l' hl' => h l' (List.mem_cons_of_mem _ hl')
    rw [List.flatMap_cons, List.append_assoc, List.singleton_append, Text.pieces_append_sep (by simp), hl, ih]
    rfl

theorem textLines_ofLines {lines : List (List Char)} (h : ∀ l ∈ lines, IsLine l) :
    textLines (ofLines lines).toList = lines := by
  have hstrip : lines.map (fun l => if l.getLast? = some '\r' then l.dropLast else l) = lines :=
    List.map_congr_left (fun l hl => if_neg (h l hl).2) |>.trans (List.map_id _)
  rw [textLines, ofLines, String.toList_ofList, pieces_flatMap_newline fun l hl => (h l hl).1]
  simpa using hstrip

/-! ### Scanning -/

theorem ok_bind {ε α β : Type} (a : α) (f : α → Except ε β) : (Except.ok a >>= f) = f a := rfl

/-- A line before a key announces one or is passed over. -/
theorem scan_before {l : List Char} (hl : l ≠ beginMarker "RSA PRIVATE KEY") (ls : List (List Char)) :
    scan none (l :: ls) = scan (formOf? l) ls := by
  simp [scan, hl, ok_bind]

theorem scan_end {l : List Char} (hl : "-----END ".toList.isPrefixOf l = true) (f : Form)
    (ls : List (List Char)) : scan (some f) (l :: ls) = .ok (some f, []) := by
  rw [scan, if_pos ⟨rfl, hl⟩]

/-! ### The body -/

theorem isBodyChar_digit (n : Nat) : isBodyChar (Base64.digit n) = true := by
  by_cases h : n < 64
  · simp [isBodyChar, Base64.value?_digit h]
  · have hlast : Base64.digit n = '/' := by
      unfold Base64.digit
      rw [if_neg (by omega), if_neg (by omega), if_neg (by omega), if_neg (by omega)]
    rw [hlast]
    decide

theorem isBodyChar_of_mem_encode {b : Bytes} {c : Char} (h : c ∈ Base64.encode b) : isBodyChar c = true :=
  Base64.forall_mem_encode (p := fun c => isBodyChar c = true) isBodyChar_digit (by decide) h

theorem not_mem_encode {b : Bytes} {c : Char} (hc : isBodyChar c = false) : c ∉ Base64.encode b := fun h => by
  simp [isBodyChar_of_mem_encode h] at hc

theorem isLine_encode (b : Bytes) : IsLine (Base64.encode b) :=
  ⟨not_mem_encode (by decide), fun h => not_mem_encode (b := b) (by decide) (List.mem_of_getLast? h)⟩

/-- A text with a hyphen in it is not at the front of base64. -/
theorem not_isPrefixOf_encode {p : List Char} (hp : '-' ∈ p) (b : Bytes) :
    p.isPrefixOf (Base64.encode b) = false := by
  rw [Bool.eq_false_iff]
  intro h
  exact not_mem_encode (by decide) ((List.isPrefixOf_iff_prefix.1 h).subset hp)

theorem encode_ne {p : List Char} (hp : '-' ∈ p) (b : Bytes) : Base64.encode b ≠ p := by
  rintro rfl
  exact not_mem_encode (by decide) hp

/-! ### Containers -/

theorem mem_beginMarker (name : String) : '-' ∈ beginMarker name := by
  simp [beginMarker]

theorem formOf?_encode (b : Bytes) : formOf? (Base64.encode b) = none := by
  have h (name : String) : Base64.encode b ≠ beginMarker name := encode_ne (mem_beginMarker name) b
  simp [formOf?, h]

/-- A container as it stands in a text. -/
def armored (b : Bytes) : List (List Char) :=
  [beginMarker "OPENSSH PRIVATE KEY", Base64.encode b, "-----END OPENSSH PRIVATE KEY-----".toList]

theorem isLine_of_mem_armored {b : Bytes} {l : List Char} (h : l ∈ armored b) : IsLine l := by
  simp only [armored, List.mem_cons, List.not_mem_nil, or_false] at h
  rcases h with rfl | rfl | rfl
  · decide +kernel
  · exact isLine_encode b
  · decide +kernel

theorem cipherForm?_encode (b : Bytes) : cipherForm? (Base64.encode b) = .ok none := by
  rw [cipherForm?, not_isPrefixOf_encode (by decide +kernel)]
  rfl

/-- A line of base64 inside a key is a part of its body. -/
theorem scan_encode (b : Bytes) (f : Form) (ls : List (List Char)) : scan (some f) (Base64.encode b :: ls) =
    (scan (some f) ls).map fun x => (x.1, Base64.encode b ++ x.2) := by
  have hopen : "-----END ".toList.isPrefixOf (Base64.encode b) = false :=
    not_isPrefixOf_encode (by decide +kernel) b
  have hplain : Base64.encode b ≠ beginMarker "RSA PRIVATE KEY" := encode_ne (mem_beginMarker _) b
  have hbody : (Base64.encode b).all isBodyChar = true :=
    List.all_eq_true.2 fun c hc => isBodyChar_of_mem_encode hc
  rw [scan, hopen, if_neg (by simp), if_neg hplain, cipherForm?_encode, formOf?_encode, hbody]
  rfl

/-! ### Containers -/

/-- A container is scanned as one, and gives its body. -/
theorem scan_armored (b : Bytes) : scan none (armored b) = .ok (some .container, Base64.encode b) := by
  have hform : formOf? (beginMarker "OPENSSH PRIVATE KEY") = some .container := if_pos rfl
  rw [armored, scan_before (by decide +kernel), hform, scan_encode, scan_end (by decide +kernel)]
  simp [Except.map]

/-- A text that is scanned as a key with a body in base64 holds what is in the body. -/
theorem decode_of_scan {text : String} {form : Form} {body : List Char} {b : Bytes}
    (hputty : isPutty text.toList = false) (hscan : scan none (textLines text.toList) = .ok (some form, body))
    (hbody : Base64.decodeGroups? body = some b) (passphrase : Option String) :
    decode text passphrase = ofBody form b passphrase := by
  simp [decode, hputty, hscan, ok_bind, hbody]

/-- A line of prose before a key: it announces nothing and is not the head of a file of PuTTY's. -/
def IsHeading (l : List Char) : Prop :=
  IsLine l ∧ ∃ c ∈ l.head?, c ≠ 'P' ∧ c ≠ '-' ∧ Text.isBlank c = false

/-- **What a container holds is read from its text**, also from behind a line of prose. -/
theorem decode_headed {l : List Char} (hl : IsHeading l) (b : Bytes) (passphrase : Option String) :
    decode (ofLines (l :: armored b)) passphrase = ofContainer b passphrase := by
  obtain ⟨hline, c, hc, hP, hhyphen, hblank⟩ := hl
  obtain ⟨l, rfl⟩ := List.head?_eq_some_iff.1 hc
  have hlines : ∀ l' ∈ (c :: l) :: armored b, IsLine l' := by
    intro l' hl'
    rcases List.mem_cons.1 hl' with rfl | hl'
    · exact hline
    · exact isLine_of_mem_armored hl'
  have hputty : isPutty (ofLines ((c :: l) :: armored b)).toList = false := by
    have hhead : puttyHead = 'P' :: puttyHead.tail := by decide +kernel
    rw [isPutty, ofLines, String.toList_ofList, hhead]
    simp [Text.trimStart, hblank, List.isPrefixOf, hP.symm]
  have hform (name : String) : c :: l ≠ beginMarker name := by
    simp [beginMarker, hhyphen]
  have hscan : scan none ((c :: l) :: armored b) = .ok (some .container, Base64.encode b) := by
    rw [scan_before (hform _), show formOf? (c :: l) = none by simp [formOf?, hform], scan_armored]
  rw [← textLines_ofLines hlines] at hscan
  exact decode_of_scan hputty hscan (Base64.decodeGroups?_encode b) passphrase

end SshTunnel.PrivateKey
