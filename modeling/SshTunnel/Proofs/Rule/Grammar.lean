import Mathlib.Tactic.Common
import SshTunnel.Proofs.Rule.Fields

/-!
Which texts are read as a rule.  The grammar is `[bind:]localPort:host:port`; an address or a host stands there
as it is or, if there are colons in it, in one pair of brackets.  What is written so is read as it is meant.  The
reader takes more than that, but only texts in which brackets are out of place.
-/

namespace SshTunnel.Rule

/-! ### The grammar -/

/-- A field that needs no brackets. -/
def IsPlain (v : List Char) : Prop := v ≠ [] ∧ ':' ∉ v ∧ '[' ∉ v ∧ ']' ∉ v

/-- How an address or a host is written: as it is, or in one pair of brackets. -/
inductive Spelled : List Char → List Char → Prop
  | plain {v : List Char} (h : IsPlain v) : Spelled v v
  | bracketed {v : List Char} (nonempty : v ≠ []) (unopened : '[' ∉ v) (unclosed : ']' ∉ v) :
    Spelled ('[' :: (v ++ [']'])) v

/-- The parts of a rule text. -/
structure Parts where
  bind : Option (List Char)
  localPort : List Char
  host : List Char
  port : List Char

def Parts.fields (q : Parts) : List (List Char) := q.bind.toList ++ [q.localPort, q.host, q.port]

/-- The text consists of the parts, with colons between them.  `A` says how addresses and hosts are written, and
`N` how port numbers are. -/
inductive Composed (A N : List Char → List Char → Prop) : List Char → Parts → Prop
  | three {tl th tp l h p : List Char} (localPort : N tl l) (host : A th h) (port : N tp p) :
    Composed A N (tl ++ ':' :: (th ++ ':' :: tp)) ⟨none, l, h, p⟩
  | four {tb tl th tp b l h p : List Char} (bind : A tb b) (localPort : N tl l) (host : A th h) (port : N tp p) :
    Composed A N (tb ++ ':' :: (tl ++ ':' :: (th ++ ':' :: tp))) ⟨some b, l, h, p⟩

/-- The parts are those of the rule, which has an address of its own or the default one. -/
structure Parts.Gives (q : Parts) (defaultBind : String) (r : Rule) : Prop where
  bind : r.bind = String.ofList (q.bind.getD defaultBind.toList)
  localPort : port? q.localPort = some r.localPort
  host : r.host = String.ofList q.host
  port : port? q.port = some r.port
  reachable : r.port ≠ 0

/-- The text is that of the rule by the grammar. -/
def Written (defaultBind : String) (t : List Char) (r : Rule) : Prop :=
  ∃ q, Composed Spelled Eq t q ∧ q.Gives defaultBind r

/-- Every bracket is one of a pair around an address or a host that has no others in it. -/
def InPlace (t : List Char) : Prop := ∃ q, Composed Spelled (fun n l => n = l ∧ IsPlain l) t q

variable {A N A' N' : List Char → List Char → Prop} {t v : List Char} {q : Parts} {s d : String} {r : Rule}

theorem Composed.imp (h : Composed A N t q) (hA : ∀ t v, A t v → A' t v) (hN : ∀ t v, N t v → N' t v) :
    Composed A' N' t q := by
  cases h with
  | three localPort host port => exact .three (hN _ _ localPort) (hA _ _ host) (hN _ _ port)
  | four bind localPort host port => exact .four (hA _ _ bind) (hN _ _ localPort) (hA _ _ host) (hN _ _ port)

/-! ### Numerals -/

theorem isDigit_of_digitsValue? {s : List Char} {n m : Nat} (h : digitsValue? n s = some m) :
    ∀ c ∈ s, '0' ≤ c ∧ c ≤ '9' := by
  induction s generalizing n with
  | nil => simp
  | cons c s ih =>
    rw [digitsValue?] at h
    split at h
    · rename_i hc
      exact List.forall_mem_cons.2 ⟨hc, ih h⟩
    · cases h

theorem numeral?_unsigned {s : List Char} (hs : ∀ ds, s ≠ '+' :: ds) (bound : Nat) : numeral? bound s =
    if s = [] then none else (digitsValue? 0 s).bind fun n => if n < bound then some n else none := by
  unfold numeral?
  dsimp only
  split
  · exact absurd rfl (hs _)
  · rfl

theorem exists_digits_of_numeral? {s : List Char} {bound n : Nat} (h : numeral? bound s = some n) :
    ∃ ds, (s = ds ∨ s = '+' :: ds) ∧ ds ≠ [] ∧ ∀ c ∈ ds, '0' ≤ c ∧ c ≤ '9' := by
  have hdigits : ∀ ds, (if ds = [] then none else
      (digitsValue? 0 ds).bind fun n => if n < bound then some n else none) = some n →
      ds ≠ [] ∧ ∀ c ∈ ds, '0' ≤ c ∧ c ≤ '9' := by
    intro ds hds
    split at hds
    · cases hds
    · rename_i hne
      obtain ⟨m, hm, -⟩ := Option.bind_eq_some_iff.1 hds
      exact ⟨hne, isDigit_of_digitsValue? hm⟩
  by_cases hs : ∃ ds, s = '+' :: ds
  · obtain ⟨ds, rfl⟩ := hs
    exact ⟨ds, Or.inr rfl, hdigits ds h⟩
  · rw [numeral?_unsigned (not_exists.1 hs)] at h
    exact ⟨s, Or.inl rfl, hdigits s h⟩

/-- A numeral needs no brackets. -/
theorem isPlain_of_port? {s : List Char} {n : UInt16} (h : port? s = some n) : IsPlain s := by
  obtain ⟨m, hm, -⟩ := Option.map_eq_some_iff.1 h
  obtain ⟨ds, hs, hne, hdigits⟩ := exists_digits_of_numeral? hm
  have hchars : ∀ c ∈ s, c = '+' ∨ '0' ≤ c ∧ c ≤ '9' := by
    rcases hs with rfl | rfl
    · exact fun c hc => Or.inr (hdigits c hc)
    · exact List.forall_mem_cons.2 ⟨Or.inl rfl, fun c hc => Or.inr (hdigits c hc)⟩
  refine ⟨by rcases hs with rfl | rfl <;> simp [hne], fun hc => ?_, fun hc => ?_, fun hc => ?_⟩
  all_goals exact absurd (hchars _ hc) (by decide)

/-! ### Fields by the grammar -/

/-- What the reader takes a field for, if it is not empty. -/
def Accepted (t v : List Char) : Prop := Taken t v ∧ v ≠ []

theorem IsPlain.accepted (h : IsPlain v) : Accepted v v := by
  obtain ⟨hne, hcolon, hopen, -⟩ := h
  exact ⟨.bare hcolon fun hhead => hopen (List.mem_of_mem_head? hhead), hne⟩

theorem Spelled.accepted (h : Spelled t v) : Accepted t v := by
  cases h with
  | plain h => exact h.accepted
  | bracketed nonempty unopened unclosed =>
    refine ⟨?_, nonempty⟩
    simpa using Taken.bracketed nonempty unclosed (List.not_mem_nil (a := ':'))

theorem Composed.accepted (h : Composed Spelled (fun n l => n = l ∧ IsPlain l) t q) :
    Composed Accepted Accepted t q :=
  h.imp (fun _ _ => Spelled.accepted) fun _ _ ⟨hn, hl⟩ => hn ▸ hl.accepted

theorem Composed.plainPorts (h : Composed Spelled Eq t q) (hl : IsPlain q.localPort) (hp : IsPlain q.port) :
    Composed Spelled (fun n l => n = l ∧ IsPlain l) t q := by
  cases h with
  | three localPort host port => exact .three ⟨localPort, hl⟩ host ⟨port, hp⟩
  | four bind localPort host port => exact .four bind ⟨localPort, hl⟩ host ⟨port, hp⟩

/-! ### The parts that the reader sees -/

/-- The reader finds the parts of a text that is composed of fields, and only those. -/
theorem composed_accepted_iff : Composed Accepted Accepted t q ↔ Rule.fields t = .ok q.fields := by
  rw [fields_eq_ok_iff]
  constructor
  · rintro (⟨hl, hh, hp⟩ | ⟨hb, hl, hh, hp⟩)
    · exact ⟨.cons hl.1 (.cons hh.1 (.last hp.1)), by simp [Parts.fields, hl.2, hh.2, hp.2]⟩
    · exact ⟨.cons hb.1 (.cons hl.1 (.cons hh.1 (.last hp.1))),
        by simp [Parts.fields, hb.2, hl.2, hh.2, hp.2]⟩
  · rintro ⟨h, hne⟩
    obtain ⟨bind, l, host, p⟩ := q
    cases bind with
    | none =>
      simp only [Parts.fields, Option.toList_none, List.nil_append, fields_cons_cons_iff,
        fields_singleton_iff] at h
      obtain ⟨tl, _, rfl, hl, th, tp, rfl, hh, hp⟩ := h
      simp [Parts.fields] at hne
      exact .three ⟨hl, hne.1⟩ ⟨hh, hne.2.1⟩ ⟨hp, hne.2.2⟩
    | some b =>
      simp only [Parts.fields, Option.toList_some, List.singleton_append, fields_cons_cons_iff,
        fields_singleton_iff] at h
      obtain ⟨tb, _, rfl, hb, tl, _, rfl, hl, th, tp, rfl, hh, hp⟩ := h
      simp [Parts.fields] at hne
      exact .four ⟨hb, hne.1⟩ ⟨hl, hne.2.1⟩ ⟨hh, hne.2.2.1⟩ ⟨hp, hne.2.2.2⟩

/-- The parts of a text, put together, give the rule that they are the parts of. -/
theorem Parts.ofFields_eq_ok_iff (hb : q.bind.getD d.toList ≠ []) (hh : q.host ≠ []) :
    ofFields (q.bind.getD d.toList) q.localPort q.host q.port = .ok r ↔ q.Gives d r := by
  unfold ofFields
  constructor
  · intro h
    split at h
    · cases h
    · rename_i l hl
      split at h
      · cases h
      · rename_i p hp
        dsimp only at h
        split at h
        · cases h
        · rename_i hd
          obtain rfl := Except.ok.inj h
          exact ⟨rfl, hl, rfl, hp, (defect?_eq_none_iff.1 hd).2.2⟩
  · rintro ⟨hbind, hl, hhost, hp, hne⟩
    obtain ⟨b, l, host, p⟩ := r
    dsimp only at hbind hl hhost hp hne
    have hvalid : (⟨b, l, host, p⟩ : Rule).defect? = none :=
      defect?_eq_none_iff.2 ⟨by simpa [hbind] using hb, by simpa [hhost] using hh, hne⟩
    simp only [hl, hp, ← hbind, ← hhost, hvalid]

/-- The rule is made of the parts, with the default address for one that is missing. -/
theorem ofTrimmed_eq_ok_iff : ofTrimmed t d = .ok r ↔
    ∃ q : Parts, fields t = .ok q.fields ∧ ofFields (q.bind.getD d.toList) q.localPort q.host q.port = .ok r := by
  unfold ofTrimmed
  constructor
  · intro h
    split at h
    · cases h
    · rename_i l host p hfields
      exact ⟨⟨none, l, host, p⟩, hfields, h⟩
    · rename_i b l host p hfields
      exact ⟨⟨some b, l, host, p⟩, hfields, h⟩
    · cases h
  · rintro ⟨⟨bind, l, host, p⟩, hfields, h⟩
    rw [hfields]
    cases bind <;> exact h

theorem parse_eq_ok : parse s d = .ok r ↔ ofTrimmed (Text.trim s.toList) d = .ok r := by
  unfold parse
  dsimp only
  split
  · rename_i h
    simp [h]
  · rename_i h
    simp [h]

theorem Composed.bind_ne_nil (h : Composed Accepted Accepted t q) (hd : d ≠ "") :
    q.bind.getD d.toList ≠ [] ∧ q.host ≠ [] := by
  cases h with
  | three localPort host port => exact ⟨by simpa using hd, host.2⟩
  | four bind localPort host port => exact ⟨bind.2, host.2⟩

/-- What the reader accepts. -/
theorem parse_eq_ok_iff_accepted (hd : d ≠ "") :
    parse s d = .ok r ↔ ∃ q, Composed Accepted Accepted (Text.trim s.toList) q ∧ q.Gives d r := by
  rw [parse_eq_ok, ofTrimmed_eq_ok_iff]
  refine exists_congr fun q => ?_
  rw [← composed_accepted_iff]
  refine and_congr_right fun h => ?_
  obtain ⟨hb, hh⟩ := h.bind_ne_nil hd
  exact Parts.ofFields_eq_ok_iff hb hh

theorem Parts.fields_inj {q q' : Parts} (h : q.fields = q'.fields) : q = q' := by
  obtain ⟨bind, l, host, p⟩ := q
  obtain ⟨bind', l', host', p'⟩ := q'
  cases bind <;> cases bind' <;> simp_all [Parts.fields]

/-- A text has the parts that the reader sees, and no others. -/
theorem Composed.unique {q' : Parts} (h : Composed Accepted Accepted t q) (h' : Composed Accepted Accepted t q') :
    q = q' := by
  rw [composed_accepted_iff] at h h'
  exact Parts.fields_inj (Except.ok.inj (h.symm.trans h'))

/-- **What is written by the grammar is read as it is meant, and whatever else is read has a bracket out of
place.**  The reader accepts such a text if it can cut it into fields all the same. -/
theorem parse_eq_ok_iff (s d : String) (hd : d ≠ "") (r : Rule) :
    (Written d (Text.trim s.toList) r ↔ parse s d = .ok r ∧ InPlace (Text.trim s.toList)) ∧
      (parse s d = .ok r ↔ ∃ q, Composed Accepted Accepted (Text.trim s.toList) q ∧ q.Gives d r) := by
  refine ⟨?_, parse_eq_ok_iff_accepted hd⟩
  rw [parse_eq_ok_iff_accepted hd]
  constructor
  · rintro ⟨q, hq, hr⟩
    have hplace := hq.plainPorts (isPlain_of_port? hr.localPort) (isPlain_of_port? hr.port)
    exact ⟨⟨q, hplace.accepted, hr⟩, q, hplace⟩
  · rintro ⟨⟨q, hq, hr⟩, q', hplace⟩
    obtain rfl := hq.unique hplace.accepted
    exact ⟨q, hplace.imp (fun _ _ h => h) fun _ _ h => h.1, hr⟩

/-- Brackets around an address with colons, and blanks around the rule. -/
theorem parse_eq_ok_iff_bracketed :
    "127.0.0.1" ≠ "" ∧ Written "127.0.0.1" (Text.trim " [::1]:8080:[fe80::1]:22\n".toList) ⟨"::1", 8080, "fe80::1", 22⟩ ∧
      parse " [::1]:8080:[fe80::1]:22\n" "127.0.0.1" = .ok ⟨"::1", 8080, "fe80::1", 22⟩ := by
  have hd : "127.0.0.1" ≠ "" := by decide
  have ht : Text.trim " [::1]:8080:[fe80::1]:22\n".toList = '[' :: ("::1".toList ++ [']']) ++ ':' ::
      ("8080".toList ++ ':' :: ('[' :: ("fe80::1".toList ++ [']']) ++ ':' :: "22".toList)) := by
    decide +kernel
  have hw : Written "127.0.0.1" (Text.trim " [::1]:8080:[fe80::1]:22\n".toList)
      ⟨"::1", 8080, "fe80::1", 22⟩ := by
    rw [ht]
    exact ⟨⟨some "::1".toList, "8080".toList, "fe80::1".toList, "22".toList⟩,
      .four (.bracketed (by decide) (by decide) (by decide)) rfl
        (.bracketed (by decide) (by decide) (by decide)) rfl,
      ⟨by decide, by decide, by decide, by decide, by decide⟩⟩
  exact ⟨hd, hw, ((parse_eq_ok_iff _ _ hd _).1.1 hw).1⟩

/-- How a text that is cut into three fields may have been written. -/
theorem Written.three_cases {l h p : List Char} (hw : Written d t r) (hfields : Rule.fields t = .ok [l, h, p]) :
    ']' ∉ h ∧ (t = l ++ ':' :: (h ++ ':' :: p) ∨ t = l ++ ':' :: ('[' :: (h ++ [']']) ++ ':' :: p)) := by
  obtain ⟨q, hq, hr⟩ := hw
  have hread := hq.plainPorts (isPlain_of_port? hr.localPort) (isPlain_of_port? hr.port)
  obtain rfl : q = ⟨none, l, h, p⟩ :=
    Parts.fields_inj (Except.ok.inj ((composed_accepted_iff.1 hread.accepted).symm.trans hfields))
  cases hq with
  | three localPort host port =>
    subst localPort port
    cases host with
    | plain h => exact ⟨h.2.2.2, Or.inl rfl⟩
    | bracketed _ _ unclosed => exact ⟨unclosed, Or.inr rfl⟩

/-- A bracket that nothing opened is taken for a part of the host, and so is what follows a closing one. -/
theorem misplaced_brackets_accepted :
    (parse "8080:db]:5432" "127.0.0.1" = .ok ⟨"127.0.0.1", 8080, "db]", 5432⟩ ∧
      ∀ r, ¬ Written "127.0.0.1" (Text.trim "8080:db]:5432".toList) r) ∧
    parse "8080:[10.0.0.1]7:80" "127.0.0.1" = .ok ⟨"127.0.0.1", 8080, "10.0.0.17", 80⟩ ∧
      ∀ r, ¬ Written "127.0.0.1" (Text.trim "8080:[10.0.0.1]7:80".toList) r := by
  have hstray : Rule.fields (Text.trim "8080:db]:5432".toList) =
      .ok ["8080".toList, "db]".toList, "5432".toList] := by decide +kernel
  have hbehind : Rule.fields (Text.trim "8080:[10.0.0.1]7:80".toList) =
      .ok ["8080".toList, "10.0.0.17".toList, "80".toList] := by decide +kernel
  refine ⟨⟨by decide +kernel, fun r hw => ?_⟩, by decide +kernel, fun r hw => ?_⟩
  · exact absurd (hw.three_cases hstray) (by decide +kernel)
  · exact absurd (hw.three_cases hbehind) (by decide +kernel)

end SshTunnel.Rule
