import Mathlib.Tactic.Common
import SshTunnel.Proofs.Trust.Entry

/-!
The store in memory and its file.  Both grow by the same entries, so that a store that is opened on the file
anew answers every question as the one that wrote it.
-/

namespace SshTunnel.TrustStore

open Text

/-! ### Adding -/

/-- Adds one key after the other, as long as all goes well. -/
def addAll (s : TrustStore) : List (String × UInt16 × PublicKey) → Except Failure TrustStore
  | [] => .ok s
  | (host, port, k) :: more => (s.add host port k).bind fun s' => s'.addAll more

theorem addAll_cons_ok {s s' : TrustStore} {host : String} {port : UInt16} {k : PublicKey}
    {more : List (String × UInt16 × PublicKey)} (h : s.addAll ((host, port, k) :: more) = .ok s') :
    ∃ s₁, s.add host port k = .ok s₁ ∧ s₁.addAll more = .ok s' := by
  simp only [addAll] at h
  cases ha : s.add host port k with
  | error f => simp [ha, Except.bind] at h
  | ok s₁ =>
    rw [ha] at h
    exact ⟨s₁, rfl, h⟩

/-- What adding a key comes to when all goes well: nothing, or one more entry in memory and in the file. -/
theorem add_ok {s s' : TrustStore} {host : String} {port : UInt16} {k : PublicKey}
    (h : s.add host port k = .ok s') :
    s.verdict host port k = .verified ∧ s' = s ∨
      s' = ⟨s.entries ++ [entryOf host port k],
        .file (appended s.place.content (entryOf host port k).line)⟩ := by
  unfold add at h
  split at h
  · rename_i hv
    exact Or.inl ⟨hv, (Except.ok.inj h).symm⟩
  · unfold append at h
    cases hp : s.place with
    | unusable why =>
      rw [hp] at h
      cases h
    | absent =>
      rw [hp] at h
      exact Or.inr (Except.ok.inj h).symm
    | file c =>
      rw [hp] at h
      exact Or.inr (Except.ok.inj h).symm

theorem exists_add_of_file {s : TrustStore} {content : Bytes} (hp : s.place = .file content) (host : String)
    (port : UInt16) (k : PublicKey) : ∃ s' content', s.add host port k = .ok s' ∧ s'.place = .file content' := by
  unfold add
  split
  · exact ⟨s, content, rfl, hp⟩
  · exact ⟨⟨s.entries ++ [entryOf host port k], .file (appended content (entryOf host port k).line)⟩, _,
      by simp only [append, hp], rfl⟩

/-- Adding to a file always goes well. -/
theorem exists_addAll_of_file (adds : List (String × UInt16 × PublicKey)) :
    ∀ {s : TrustStore} {content : Bytes}, s.place = .file content → ∃ s', s.addAll adds = .ok s' := by
  induction adds with
  | nil =>
    intro s content _
    exact ⟨s, rfl⟩
  | cons a adds ih =>
    intro s content hp
    obtain ⟨host, port, k⟩ := a
    obtain ⟨s', content', hs', hp'⟩ := exists_add_of_file hp host port k
    simp only [addAll, hs']
    exact ih hp'

/-- What is held after keys were added is what was held before, or stands for one of them. -/
theorem mem_addAll {adds : List (String × UInt16 × PublicKey)} {e : Entry} :
    ∀ {s s' : TrustStore}, s.addAll adds = .ok s' → e ∈ s'.entries →
      e ∈ s.entries ∨ ∃ a ∈ adds, e = entryOf a.1 a.2.1 a.2.2 := by
  induction adds with
  | nil =>
    intro s s' h he
    exact Or.inl (Except.ok.inj h ▸ he)
  | cons a adds ih =>
    intro s s' h he
    obtain ⟨host, port, k⟩ := a
    obtain ⟨s₁, ha, hmore⟩ := addAll_cons_ok h
    rcases ih hmore he with he | ⟨b, hb, rfl⟩
    · rcases add_ok ha with ⟨-, rfl⟩ | rfl
      · exact Or.inl he
      · rcases List.mem_append.1 he with he | he
        · exact Or.inl he
        · exact Or.inr ⟨_, List.mem_cons_self .., List.mem_singleton.1 he⟩
    · exact Or.inr ⟨b, List.mem_cons_of_mem _ hb, rfl⟩

/-! ### The two grow together -/

/-- What is in memory is what the file holds, and the file can be read to its end. -/
structure Coherent (s : TrustStore) : Prop where
  entries : s.entries = entriesAt s.place
  readable : ∀ content, s.place = .file content → Readable content

theorem Coherent.reopened {s : TrustStore} (h : Coherent s) : ofPlace s.place = s := by
  unfold ofPlace
  rw [← h.entries]

/-- The same of a place that cannot be read, which has no content. -/
theorem Coherent.content {s : TrustStore} (h : Coherent s) :
    s.entries = entriesOf s.place.content ∧ Readable s.place.content := by
  rw [h.entries, entriesAt_eq_content]
  refine ⟨rfl, ?_⟩
  cases hp : s.place with
  | file c => exact h.readable c hp
  | absent => exact readable_nil
  | unusable why => exact readable_nil

theorem Coherent.add {s s' : TrustStore} {host : String} {port : UInt16} {k : PublicKey} (hs : Coherent s)
    (hh : Plain host) (hk : ∀ c ∈ k.algorithm.toList, isBlank c = false)
    (h : s.add host port k = .ok s') : Coherent s' := by
  rcases add_ok h with ⟨-, rfl⟩ | rfl
  · exact hs
  · obtain ⟨hold, hreadable⟩ := hs.content
    obtain ⟨hent, hread⟩ := entriesOf_appended hreadable (entryOf_writable hh port hk)
    refine ⟨?_, ?_⟩
    · dsimp only
      rw [entriesAt, hent, hold]
    · rintro _ ⟨rfl⟩
      exact hread

theorem Coherent.addAll {adds : List (String × UInt16 × PublicKey)} :
    ∀ {s s' : TrustStore}, Coherent s →
      (∀ a ∈ adds, Plain a.1 ∧ ∀ c ∈ a.2.2.algorithm.toList, isBlank c = false) →
      s.addAll adds = .ok s' → Coherent s' := by
  induction adds with
  | nil =>
    intro s s' hs _ h
    exact Except.ok.inj h ▸ hs
  | cons a adds ih =>
    intro s s' hs hadds h
    obtain ⟨host, port, k⟩ := a
    obtain ⟨s₁, ha, hmore⟩ := addAll_cons_ok h
    obtain ⟨hh, hk⟩ := hadds _ (List.mem_cons_self ..)
    exact ih (hs.add hh hk ha) (fun b hb => hadds b (List.mem_cons_of_mem _ hb)) hmore

/-- **A store that is opened anew answers as the one that wrote its file.** -/
theorem reopened_answers (p : Place) (adds : List (String × UInt16 × PublicKey)) (s : TrustStore)
    (hp : ∀ content, p = .file content → ∃ text, decode? content = some text)
    (hadds : ∀ a ∈ adds, Plain a.1 ∧ ∀ c ∈ a.2.2.algorithm.toList, isBlank c = false)
    (h : (ofPlace p).addAll adds = .ok s) (host : String) (port : UInt16) :
    (ofPlace s.place).trustedKeys host port = s.trustedKeys host port ∧
      ∀ k, (ofPlace s.place).verdict host port k = s.verdict host port k := by
  have hstart : Coherent (ofPlace p) := ⟨rfl, fun content hc => by
    obtain ⟨text, ht⟩ := hp content hc
    exact readable_of_decode ht⟩
  rw [(hstart.addAll hadds h).reopened]
  exact ⟨rfl, fun _ => rfl⟩

/-- A file that ends within a line, and two hosts of which one stands in that line already. -/
theorem reopened_answers_unfinished_line :
    ∃ s, (ofPlace (.file (encode "gw,alias ssh-rsa AAAA"))).addAll
        [("GW", 22, .ed25519 (List.replicate 32 7)), ("Bastion", 2222, .dsa [1] [2] [3] [4])] = .ok s ∧
      (ofPlace s.place).trustedKeys "gw" 22 = s.trustedKeys "gw" 22 := by
  obtain ⟨s, hs⟩ := exists_addAll_of_file
    [("GW", 22, .ed25519 (List.replicate 32 7)), ("Bastion", 2222, .dsa [1] [2] [3] [4])]
    (s := ofPlace (.file (encode "gw,alias ssh-rsa AAAA"))) rfl
  refine ⟨s, hs, (reopened_answers _ _ s (fun content hc => ?_) (fun a ha => ?_) hs "gw" 22).1⟩
  · obtain rfl := Place.file.inj hc
    exact ⟨_, decode?_encode _⟩
  · simp only [List.mem_cons, List.not_mem_nil, or_false] at ha
    rcases ha with rfl | rfl
    · exact ⟨⟨⟨by decide, by simp [isBlank]⟩, by decide, by decide, by decide⟩, by simp [PublicKey.algorithm, isBlank]⟩
    · exact ⟨⟨⟨by decide, by simp [isBlank]⟩, by decide, by decide, by decide⟩, by simp [PublicKey.algorithm, isBlank]⟩

end SshTunnel.TrustStore
