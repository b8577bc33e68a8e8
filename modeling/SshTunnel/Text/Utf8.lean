import SshTunnel.Bytes.Basic

/-!
Texts as bytes: UTF-8, read strictly.
-/

namespace SshTunnel

namespace Text

/-- The bytes of a text. -/
def encode (s : String) : Bytes := s.toByteArray.data.toList

/-- The text of some bytes, if they are UTF-8. -/
def decode? (b : Bytes) : Option String := String.fromUTF8? ⟨b.toArray⟩

theorem decode?_eq_some_iff {b : Bytes} {s : String} : decode? b = some s ↔ encode s = b := by
  unfold decode? encode String.fromUTF8?
  constructor
  · intro h
    split at h
    · rw [← Option.some.inj h]; simp [String.fromUTF8]
    · exact absurd h (by simp)
  · rintro rfl
    have e : (⟨s.toByteArray.data.toList.toArray⟩ : ByteArray) = s.toByteArray := by simp
    rw [e, dif_pos s.isValidUTF8]
    rfl

theorem decode?_encode (s : String) : decode? (encode s) = some s := decode?_eq_some_iff.2 rfl

end Text

end SshTunnel
