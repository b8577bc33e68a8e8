import Mathlib.Tactic.Common
import SshTunnel.Proofs.Key.Armor
import SshTunnel.Proofs.Login.Selection

/-!
Private keys whose text has the word `ENCRYPTED` in it.  Where there is no passphrase for such a text, the key library
is not even asked for the key, although the word may stand anywhere: before the key, behind it or in its base64.  A key
that the library would have read from the text is then lost to the login.  What the library reads, encrypted or not, is
left open: it is the decoder that everything here is stated for.
-/

namespace SshTunnel.Login

open PrivateKey (Decoder IsHeading armored clearDecoder decode decode_headed ofContainer ofLines ofText)

variable {d : Decoder} {c : Credentials} {text : String} {passphrase : Option String} {k : PrivateKey}

/-- The text says of something that it is encrypted, and there is no passphrase to decrypt it with. -/
def Withheld (text : String) (passphrase : Option String) : Prop :=
  passphrase = none ∧ Text.occursIn "ENCRYPTED".toList text.toList = true

instance : Decidable (Withheld text passphrase) := inferInstanceAs (Decidable (_ ∧ _))

/-! ### The key of a text -/

/-- What the user is told of a text that is not withheld goes by what the decoder reads from it. -/
theorem ofText_of_not_withheld (h : ¬ Withheld text passphrase) :
    (∀ k, d text passphrase = .ok k → ofText d text passphrase = .ok k) ∧
      ∀ why, d text passphrase = .error why → ∃ flaw, ofText d text passphrase = .error flaw := by
  have h' : ¬ (passphrase = none ∧ Text.occursIn "ENCRYPTED".toList text.toList = true) := h
  constructor
  · intro k hk
    simp only [ofText, if_neg h', hk]
  · intro why hwhy
    simp only [ofText, if_neg h', hwhy]
    exact ⟨_, rfl⟩

theorem ofText_of_withheld (h : Withheld text passphrase) :
    ofText d text passphrase = .error .passphraseRequired := if_pos h

theorem ofText_eq_ok_iff :
    ofText d text passphrase = .ok k ↔ d text passphrase = .ok k ∧ ¬ Withheld text passphrase := by
  by_cases h : Withheld text passphrase
  · simp [ofText_of_withheld h, h]
  · obtain ⟨hok, herror⟩ := ofText_of_not_withheld (d := d) h
    cases hd : d text passphrase with
    | ok k' => simp [hok k' hd, h]
    | error why =>
      obtain ⟨flaw, hflaw⟩ := herror why hd
      simp [hflaw]

/-! ### The method -/

theorem hasKey_iff (hc : c.privateKey = some text) :
    HasKey d c k ↔ d text c.passphrase = .ok k ∧ ¬ Withheld text c.passphrase := by
  rw [← ofText_eq_ok_iff, HasKey, hc]
  simp

/-- The password is taken in place of a key; without one there is no way to log in. -/
def FallsBack (d : Decoder) (c : Credentials) : Prop :=
  (∀ p, c.password = some p → select d c = .ok (.password p)) ∧
    (c.password = none → ∃ why, select d c = .error (.authenticationFailed why))

theorem fallsBack_of_error {flaw : PrivateKey.Flaw} (hc : c.privateKey = some text)
    (h : ofText d text c.passphrase = .error flaw) : FallsBack d c := by
  constructor
  · intro p hp
    simp [select, hc, h, hp]
  · intro hp
    simp [select, hc, h, hp]

theorem fallsBack_of_withheld (hc : c.privateKey = some text) (h : Withheld text c.passphrase) : FallsBack d c :=
  fallsBack_of_error hc (ofText_of_withheld h)

/-- **A key that the decoder reads is used, except where its text is withheld**; in that case, as for a text from
which the decoder reads no key, it is the password that is taken, and the login fails if there is none. -/
theorem readable_key_used_iff (d : Decoder) (c : Credentials) (text : String) (hc : c.privateKey = some text) :
    (∀ k, d text c.passphrase = .ok k →
      (select d c = .ok (.publicKey k) ↔ ¬ Withheld text c.passphrase)) ∧
    (∀ why, d text c.passphrase = .error why → FallsBack d c) ∧
    (Withheld text c.passphrase → FallsBack d c) := by
  refine ⟨fun k hk => ?_, fun why hwhy => ?_, fun h => fallsBack_of_withheld hc h⟩
  · rw [select_eq_ok]
    constructor
    · rintro (usable | _)
      exact ((hasKey_iff hc).1 usable).2
    · intro h
      exact .publicKey ((hasKey_iff hc).2 ⟨hk, h⟩)
  · by_cases h : Withheld text c.passphrase
    · exact fallsBack_of_withheld hc h
    · obtain ⟨flaw, hflaw⟩ := (ofText_of_not_withheld h).2 why hwhy
      exact fallsBack_of_error hc hflaw

/-! ### Keys that are lost -/

theorem occursIn_append {part s : List Char} (h : Text.occursIn part s = true) (t : List Char) :
    Text.occursIn part (s ++ t) = true := by
  induction s with
  | nil =>
    rw [Text.occursIn, List.isEmpty_iff] at h
    subst h
    cases t <;> simp [Text.occursIn]
  | cons c s ih =>
    rw [Text.occursIn, Bool.or_eq_true, List.isPrefixOf_iff_prefix] at h
    rw [List.cons_append, Text.occursIn, Bool.or_eq_true, List.isPrefixOf_iff_prefix]
    exact h.imp (fun hfirst => hfirst.trans (List.prefix_append (c :: s) t)) ih

/-- **Every key that a container holds in the clear can be lost**: it is still read from its text when a line of
prose with the word is put in front, but it is no longer used. -/
theorem lost_behind_heading {l : List Char} {b : Bytes} (hl : IsHeading l)
    (hword : Text.occursIn "ENCRYPTED".toList l = true) (hb : ofContainer b none = .ok k) :
    decode (ofLines (l :: armored b)) none = .ok k ∧ Withheld (ofLines (l :: armored b)) none := by
  have htext : (ofLines (l :: armored b)).toList = l ++ ('\n' :: (ofLines (armored b)).toList) := by
    simp [ofLines]
  refine ⟨(decode_headed hl b none).trans hb, rfl, ?_⟩
  rw [htext]
  exact occursIn_append hword _

/-- An Ed25519 key whose seed is all sevens. -/
def exampleKey : PrivateKey := .ed25519 (List.replicate 32 7) [
  0xea, 0x4a, 0x6c, 0x63, 0xe2, 0x9c, 0x52, 0x0a, 0xbe, 0xf5, 0x50, 0x7b, 0x13, 0x2e, 0xc5, 0xf9,
  0x95, 0x47, 0x76, 0xae, 0xbe, 0xbe, 0x7b, 0x92, 0x42, 0x1e, 0xea, 0x69, 0x14, 0x46, 0xd2, 0x2c]

open Bytes Wire in
/-- A container that holds a key in the clear. -/
def exampleContainer : Bytes :=
  let noCipher := putString (ofAscii "none")
  let publicKey := exampleKey.publicKey.encode
  let check := ofNat 4 7
  PrivateKey.magic ++ noCipher ++ noCipher ++ putString [] ++ ofNat 4 1 ++ putString publicKey ++
    putString (check ++ check ++ publicKey ++ putString (List.replicate 32 7 ++ publicKey.drop 19) ++ putString [] ++
      [1, 2, 3, 4, 5])

theorem ofContainer_example (passphrase : Option String) :
    ofContainer exampleContainer passphrase = .ok exampleKey := by
  have hclear : Wire.whole PrivateKey.readContainer exampleContainer = .ok (.clear exampleKey) := by
    decide +kernel
  rw [ofContainer, hclear]

/-- The container as a text, behind a line that says what it is not. -/
def exampleText : String := ofLines ("not ENCRYPTED".toList :: armored exampleContainer)

theorem isHeading_example : IsHeading "not ENCRYPTED".toList :=
  ⟨by decide +kernel, 'n', by decide +kernel, by decide, by decide, by decide⟩

theorem decode_exampleText (passphrase : Option String) : decode exampleText passphrase = .ok exampleKey :=
  (decode_headed isHeading_example exampleContainer passphrase).trans (ofContainer_example passphrase)

theorem clearDecoder_exampleText (passphrase : Option String) :
    clearDecoder exampleText passphrase = .ok exampleKey := by
  rw [clearDecoder, decode_exampleText]
  rfl

theorem withheld_exampleText : Withheld exampleText none :=
  (lost_behind_heading isHeading_example (by decide +kernel) (ofContainer_example none)).2

/-- With a passphrase, which the key does not need, it is used. -/
theorem readable_key_used_iff_example :
    select clearDecoder ⟨"deploy", some exampleText, some "open sesame", some "hunter2"⟩ =
      .ok (.publicKey exampleKey) := by
  have hread := clearDecoder_exampleText (some "open sesame")
  have hshown : ¬ Withheld exampleText (some "open sesame") := by simp [Withheld]
  exact ((readable_key_used_iff clearDecoder
    ⟨"deploy", some exampleText, some "open sesame", some "hunter2"⟩ exampleText rfl).1 exampleKey hread).2 hshown

/-- The key is there, it can be read, and it is not used: neither next to a password nor alone. -/
theorem clear_key_lost :
    clearDecoder exampleText none = .ok exampleKey ∧
    select clearDecoder ⟨"deploy", some exampleText, none, some "hunter2"⟩ = .ok (.password "hunter2") ∧
    ∃ why, select clearDecoder ⟨"deploy", some exampleText, none, none⟩ =
      .error (.authenticationFailed why) := by
  have hnext : FallsBack clearDecoder ⟨"deploy", some exampleText, none, some "hunter2"⟩ :=
    fallsBack_of_withheld rfl withheld_exampleText
  have halone : FallsBack clearDecoder ⟨"deploy", some exampleText, none, none⟩ :=
    fallsBack_of_withheld rfl withheld_exampleText
  exact ⟨clearDecoder_exampleText none, hnext.1 "hunter2" rfl, halone.2 rfl⟩

end SshTunnel.Login
