import Mathlib.Tactic.Common
import SshTunnel.Proofs.Trust.Entry
import SshTunnel.Proofs.Trust.Lookup

/-!
Lines that hold no entry: blank ones, comments, hashed names, lines of too few words.  Such a line between
others makes no difference to what a store answers, provided that it is UTF-8.  One that is not ends the
reading, and hides every entry behind it.
-/

namespace SshTunnel.TrustStore

open Text

/-! ### One line between others -/

/-- A file of one line can be read if the line is UTF-8. -/
theorem readable_iff_decode {line : Bytes} (h : 10 ∉ line) :
    Readable line ↔ ∃ text, decode? line = some text := by
  have hone : pieces (· = 10) line = [line] :=
    pieces_of_all_not fun _ hb => decide_eq_false fun heq => h (heq ▸ hb)
  simp [Readable, hone]

variable {a x : Bytes}

/-- A line of UTF-8 without an entry is skipped. -/
theorem entriesOf_between (hx : Readable x) (hnone : entriesOf x = []) (b : Bytes) :
    entriesOf (a ++ 10 :: (x ++ 10 :: b)) = entriesOf (a ++ 10 :: b) := by
  by_cases ha : Readable a
  · rw [entriesOf_append_newline ha, entriesOf_append_newline hx, hnone, List.nil_append,
      entriesOf_append_newline ha]
  · rw [entriesOf_append_newline_of_not ha, entriesOf_append_newline_of_not ha]

/-- A line that is not UTF-8 is where the reading ends. -/
theorem entriesOf_between_of_not (ha : Readable a) (hx : ¬ Readable x) (hnone : entriesOf x = [])
    (b : Bytes) : entriesOf (a ++ 10 :: (x ++ 10 :: b)) = entriesOf a := by
  rw [entriesOf_append_newline ha, entriesOf_append_newline_of_not hx, hnone, List.append_nil]

/-! ### The answers of a store -/

/-- Two stores answer every question in the same way. -/
def SameAnswers (s s' : TrustStore) : Prop :=
  ∀ host port, s.trustedKeys host port = s'.trustedKeys host port ∧
    ∀ k, s.verdict host port k = s'.verdict host port k

theorem sameAnswers_of_entries {s s' : TrustStore} (h : s.entries = s'.entries) : SameAnswers s s' := by
  intro host port
  have hfor : s.entriesFor host port = s'.entriesFor host port :=
    entriesFor_congr (by rw [named, h, named]) (by rw [named, h, named])
  exact ⟨trustedKeys_congr hfor, fun k => by rw [verdict, hfor, verdict]⟩

/-- A line behind others adds its key to those that are trusted for its host. -/
theorem trustedKeys_line (ha : Readable a) (host : String) (k : PublicKey) (hh : Plain host)
    (hblank : ∀ c ∈ k.algorithm.toList, isBlank c = false) (hk : k.Legible) :
    (ofPlace (.file (a ++ 10 :: encode (entryOf host 22 k).line))).trustedKeys host 22 =
      (ofPlace (.file a)).trustedKeys host 22 ++ [k] := by
  have hw := entryOf_writable hh 22 hblank
  have hent : entriesAt (.file (a ++ 10 :: encode (entryOf host 22 k).line)) =
      entriesAt (.file a) ++ [entryOf host 22 k] := by
    rw [entriesAt, entriesOf_append_newline ha, entriesOf_encode hw.newline_notMem,
      Entry.lineEntries_line hw, entriesAt]
  have hadd := keysNamed_append hk (ofPlace (.file a)) host 22
    (.file (a ++ 10 :: encode (entryOf host 22 k).line)) (Text.lower host)
  rw [if_pos (nameOf_default host)] at hadd
  rw [trustedKeys_default, trustedKeys_default, ofPlace, hent]
  exact hadd

/-- Some line can always be added that changes an answer. -/
theorem exists_not_sameAnswers (ha : Readable a) :
    ∃ b, ¬ SameAnswers (ofPlace (.file (a ++ 10 :: b))) (ofPlace (.file a)) := by
  refine ⟨encode (entryOf "bastion" 22 (.ed25519 (List.replicate 32 7))).line, fun h => ?_⟩
  have hline := trustedKeys_line ha "bastion" (.ed25519 (List.replicate 32 7))
    ⟨⟨by decide, by simp [isBlank]⟩, by decide, by decide, by decide⟩ (by simp [PublicKey.algorithm, isBlank])
    (PublicKey.legible_iff_wellFormed.2 (by simp [PublicKey.WellFormed]))
  rw [(h "bastion" 22).1] at hline
  simpa using congrArg List.length hline

/-- **A line without an entry hides nothing exactly if it is UTF-8**, or if something before it is not, so that
neither it nor what follows is ever read. -/
theorem sameAnswers_between_iff (a x : Bytes) (hx : 10 ∉ x) (hnone : entriesOf x = []) :
    (∀ b, SameAnswers (ofPlace (.file (a ++ 10 :: (x ++ 10 :: b)))) (ofPlace (.file (a ++ 10 :: b)))) ↔
      (∃ text, decode? x = some text) ∨ ¬ Readable a := by
  rw [← readable_iff_decode hx]
  constructor
  · intro h
    by_contra hcon
    obtain ⟨hnot, ha⟩ := not_or.1 hcon
    obtain ⟨b, hb⟩ := exists_not_sameAnswers (not_not.1 ha)
    -- the reading ends at the line, so that the store answers as if nothing came behind
    refine hb fun host port => ?_
    have hstop : SameAnswers (ofPlace (.file (a ++ 10 :: (x ++ 10 :: b)))) (ofPlace (.file a)) :=
      sameAnswers_of_entries (entriesOf_between_of_not (not_not.1 ha) hnot hnone b)
    obtain ⟨hkeys, hverdict⟩ := h b host port
    obtain ⟨hkeys', hverdict'⟩ := hstop host port
    exact ⟨hkeys.symm.trans hkeys', fun k => (hverdict k).symm.trans (hverdict' k)⟩
  · rintro (hread | ha) b
    · exact sameAnswers_of_entries (entriesOf_between hread hnone b)
    · refine sameAnswers_of_entries ?_
      simp only [ofPlace, entriesAt]
      rw [entriesOf_append_newline_of_not ha, entriesOf_append_newline_of_not ha]

/-- A hashed name between two lines. -/
theorem sameAnswers_between_hashed :
    10 ∉ encode "|1|salt|hash ssh-rsa AAAA" ∧ entriesOf (encode "|1|salt|hash ssh-rsa AAAA") = [] ∧
      ∀ b, SameAnswers
        (ofPlace (.file (encode "gw ssh-rsa AAAA" ++ 10 :: (encode "|1|salt|hash ssh-rsa AAAA" ++ 10 :: b))))
        (ofPlace (.file (encode "gw ssh-rsa AAAA" ++ 10 :: b))) := by
  have hx : 10 ∉ encode "|1|salt|hash ssh-rsa AAAA" := by decide +kernel
  have hnone : entriesOf (encode "|1|salt|hash ssh-rsa AAAA") = [] := by decide +kernel
  exact ⟨hx, hnone, (sameAnswers_between_iff _ _ hx hnone).2 (Or.inl ⟨_, decode?_encode _⟩)⟩

/-- A byte that begins no character, on a line of its own, hides the entry behind it. -/
theorem undecodable_line_hides :
    10 ∉ ([0xFF] : Bytes) ∧ entriesOf [0xFF] = [] ∧
      (ofPlace (.file ([] ++ 10 :: ([0xFF] ++ 10 :: encode
        "db ssh-ed25519 AAAAC3NzaC1lZDI1NTE5AAAAIAcHBwcHBwcHBwcHBwcHBwcHBwcHBwcHBwcHBwcHBwcH")))).trustedKeys
        "db" 22 = [] ∧
      (ofPlace (.file ([] ++ 10 :: encode
        "db ssh-ed25519 AAAAC3NzaC1lZDI1NTE5AAAAIAcHBwcHBwcHBwcHBwcHBwcHBwcHBwcHBwcHBwcHBwcH"))).trustedKeys
        "db" 22 = [.ed25519 (List.replicate 32 7)] := by
  decide +kernel

end SshTunnel.TrustStore
