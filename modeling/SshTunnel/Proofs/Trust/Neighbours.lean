import Mathlib.Tactic.Common
import SshTunnel.Proofs.Trust.Entry
import SshTunnel.Proofs.Trust.Lookup
import SshTunnel.Proofs.Trust.Reopening

/-!
What a key that is learnt for one gateway means for the others.  In memory it stands under one name, and only
who asks for this name finds it.  The file holds it under one name as well, as long as the host is a single
word without commas; a host that would be read as several names, or as several lines, reaches others when the
store is opened again.
-/

namespace SshTunnel.TrustStore

open Text

variable {s s' : TrustStore} {host host' : String} {port port' : UInt16} {k : PublicKey}

/-! ### Names that meet -/

/-- A host is spelled like the name of another one with its port, as `[gw]:2222` is. -/
def IsNameOf (host host' : String) (port' : UInt16) : Prop :=
  port' ≠ 22 ∧ Text.lower host = nameOf host' port'

/-- Behind other ports than 22, a name tells the host. -/
theorem lower_eq_of_nameOf_eq (hp : port ≠ 22) (hp' : port' ≠ 22) (h : nameOf host port = nameOf host' port') :
    Text.lower host = Text.lower host' := by
  have hcolon : ∀ p : UInt16, ':' ∉ (toString p.toNat).toList := fun p hc =>
    absurd (isDigit_of_mem_port hc) (by decide)
  have hlist := congrArg String.toList h
  rw [nameOf_toList hp, nameOf_toList hp'] at hlist
  have hhost := (append_sep_inj (hcolon port) (hcolon port') hlist).1
  exact String.toList_inj.1 (List.append_cancel_right (List.cons.inj hhost).2)

/-- Two hosts have one name only if one of them is spelled like the name of the other. -/
theorem nameOf_ne (hne : Text.lower host' ≠ Text.lower host) (hown : port = 22 → ¬ IsNameOf host host' port')
    (hother : ¬ IsNameOf host' host port) :
    nameOf host port ≠ nameOf host' port' ∧ nameOf host port ≠ Text.lower host' := by
  -- a name has brackets unless its port is 22, and only names of different make can be confused
  by_cases hp : port = 22
  · subst hp
    rw [nameOf_default]
    refine ⟨fun h => ?_, hne.symm⟩
    by_cases hp' : port' = 22
    · exact hne (by rw [h, hp', nameOf_default])
    · exact hown rfl ⟨hp', h⟩
  · have hhost : nameOf host port ≠ Text.lower host' := fun h => hother ⟨hp, h.symm⟩
    refine ⟨fun h => ?_, hhost⟩
    by_cases hp' : port' = 22
    · exact hhost (by rw [h, hp', nameOf_default])
    · exact hne (lower_eq_of_nameOf_eq hp hp' h).symm

/-! ### Entries under one name -/

/-- Entries under one name make no difference to those who ask for others. -/
theorem trustedKeys_of_entries {es : List Entry} (h : s'.entries = s.entries ++ es)
    (hes : ∀ e ∈ es, e.name = nameOf host port) (hown : nameOf host port ≠ nameOf host' port')
    (hhost : nameOf host port ≠ Text.lower host') :
    s'.trustedKeys host' port' = s.trustedKeys host' port' := by
  have hnamed : ∀ name, nameOf host port ≠ name → s'.named name = s.named name := by
    intro name hname
    have hnone : es.filter (fun e => e.name = name) = [] :=
      List.filter_eq_nil_iff.2 fun e he => by simpa [hes e he] using hname
    rw [named, h, List.filter_append, hnone, List.append_nil, named]
  exact trustedKeys_congr (entriesFor_congr (hnamed _ hown) (hnamed _ hhost))

/-- What the file holds after an entry was appended: what it held, and something under the entry's name. -/
theorem entriesOf_appended_entry (hw : IsWord host.toList) (hone : ',' ∉ host.toList)
    (hline : '\n' ∉ k.algorithm.toList) (port : UInt16) (content : Bytes) :
    ∃ es, entriesOf (appended content (entryOf host port k).line) = entriesOf content ++ es ∧
      ∀ e ∈ es, e.name = nameOf host port := by
  have hname : IsWord (entryOf host port k).name.toList := isWord_nameOf hw port
  have hkey : IsWord (entryOf host port k).key.toList := k.isWord_base64
  by_cases hc : Readable content
  · refine ⟨lineEntries (entryOf host port k).line.toList,
      (entriesOf_appended_line hc (Entry.newline_notMem_line hname hline hkey)).1, fun e he => ?_⟩
    exact Entry.name_of_mem_lineEntries hname hkey (comma_notMem_nameOf hone port) (lower_nameOf host port) he
  · -- the reading ends before it comes to the new line
    exact ⟨[], by rw [entriesOf_appended_of_not hc, List.append_nil], by simp⟩

/-! ### Learning -/

/-- **A key that is learnt for one host leaves all others as they were**, unless one of the two hosts is
spelled like the name of the other: in memory for any host, and in the file for a host that is one word
without commas and a key whose algorithm has no line end in its name. -/
theorem trustedKeys_elsewhere (s s' : TrustStore) (host host' : String) (port port' : UInt16) (k : PublicKey)
    (h : s.add host port k = .ok s') (hne : Text.lower host' ≠ Text.lower host)
    (hown : port = 22 → ¬ IsNameOf host host' port') (hother : ¬ IsNameOf host' host port) :
    s'.trustedKeys host' port' = s.trustedKeys host' port' ∧
      (IsWord host.toList → ',' ∉ host.toList → '\n' ∉ k.algorithm.toList →
        (ofPlace s'.place).trustedKeys host' port' = (ofPlace s.place).trustedKeys host' port') := by
  obtain ⟨hname, hhost⟩ := nameOf_ne hne hown hother
  rcases add_ok h with ⟨-, rfl⟩ | rfl
  · exact ⟨rfl, fun _ _ _ => rfl⟩
  · refine ⟨trustedKeys_of_entries rfl (by simp) hname hhost, fun hw hone hline => ?_⟩
    obtain ⟨es, hent, hes⟩ := entriesOf_appended_entry hw hone hline port s.place.content
    refine trustedKeys_of_entries ?_ hes hname hhost
    simp only [ofPlace, entriesAt_eq_content]
    exact hent

/-- A host that is spelled like the name of another, though not with the port that is asked for. -/
theorem trustedKeys_elsewhere_otherPort :
    ∃ s, (ofPlace (.file (encode "gw ssh-rsa AAAA"))).add "[gw]:222" 22 (.ed25519 (List.replicate 32 7)) = .ok s ∧
      Text.lower "GW" ≠ Text.lower "[gw]:222" ∧
      s.trustedKeys "GW" 2222 = (ofPlace (.file (encode "gw ssh-rsa AAAA"))).trustedKeys "GW" 2222 ∧
      (ofPlace s.place).trustedKeys "GW" 2222 =
        (ofPlace (.file (encode "gw ssh-rsa AAAA"))).trustedKeys "GW" 2222 := by
  obtain ⟨s, content, hs, -⟩ := exists_add_of_file (s := ofPlace (.file (encode "gw ssh-rsa AAAA"))) rfl
    "[gw]:222" 22 (.ed25519 (List.replicate 32 7))
  have hne : Text.lower "GW" ≠ Text.lower "[gw]:222" := by decide +kernel
  obtain ⟨hkeys, hreopened⟩ := trustedKeys_elsewhere _ s "[gw]:222" "GW" 22 2222 _ hs hne
    (fun _ h => absurd h.2 (by decide +kernel)) (fun h => absurd rfl h.1)
  exact ⟨s, hs, hne, hkeys,
    hreopened ⟨by decide, by simp [isBlank]⟩ (by decide) (by simp [PublicKey.algorithm])⟩

/-- A host spelled like the name of another with its port, a host that is a list of two, one that is followed by
a blank, one that is two lines, and a key whose algorithm is called in two lines: each reaches a host that it
was not learnt for. -/
theorem learnt_for_others :
    (∃ s, (ofPlace (.file [])).add "[gw]:2222" 22 (.ed25519 (List.replicate 32 7)) = .ok s ∧
      Text.lower "gw" ≠ Text.lower "[gw]:2222" ∧ (ofPlace (.file [])).trustedKeys "gw" 2222 = [] ∧
      s.trustedKeys "gw" 2222 ≠ [] ∧ (ofPlace s.place).trustedKeys "gw" 2222 ≠ []) ∧
    (∃ s, (ofPlace (.file [])).add "gw,db" 22 (.ed25519 (List.replicate 32 7)) = .ok s ∧
      Text.lower "db" ≠ Text.lower "gw,db" ∧ (ofPlace (.file [])).trustedKeys "db" 22 = [] ∧
      (ofPlace s.place).trustedKeys "db" 22 ≠ []) ∧
    (∃ s, (ofPlace (.file [])).add "gw " 22 (.ed25519 (List.replicate 32 7)) = .ok s ∧
      Text.lower "gw" ≠ Text.lower "gw " ∧ (ofPlace (.file [])).trustedKeys "gw" 22 = [] ∧
      (ofPlace s.place).trustedKeys "gw" 22 ≠ []) ∧
    (∃ s, (ofPlace (.file [])).add "gw\ndb" 22 (.ed25519 (List.replicate 32 7)) = .ok s ∧
      Text.lower "db" ≠ Text.lower "gw\ndb" ∧ (ofPlace (.file [])).trustedKeys "db" 22 = [] ∧
      (ofPlace s.place).trustedKeys "db" 22 ≠ []) ∧
    (∃ s, (ofPlace (.file [])).add "gw" 22 (.named ⟨"a@b\ndb t", by decide⟩ [5]) = .ok s ∧
      Text.lower "db" ≠ Text.lower "gw" ∧ (ofPlace (.file [])).trustedKeys "db" 22 = [] ∧
      (ofPlace s.place).trustedKeys "db" 22 ≠ []) := by
  refine ⟨⟨_, rfl, ?_⟩, ⟨_, rfl, ?_⟩, ⟨_, rfl, ?_⟩, ⟨_, rfl, ?_⟩, ⟨_, rfl, ?_⟩⟩ <;> decide +kernel

end SshTunnel.TrustStore
