import Mathlib.Tactic.Common
import SshTunnel.Proofs.Trust.Resolution

/-!
The order in which a resolution looks for a key.  Keys that are held leave nothing else to be looked at; an
operator's file, good or bad, leaves the gateway and the user out of it; and it is only after the gateway has
shown its key that the user is asked about it.  What fails changes nothing, and a key that cannot be saved is
still the key.
-/

namespace SshTunnel.KeyFile

open Text (pieces trim)

/-! ### What a file is good for -/

/-- A line that does not count. -/
def Skipped (line : List Char) : Prop := trim line = [] ∨ (trim line).head? = some '#'

instance {line : List Char} : Decidable (Skipped line) := inferInstanceAs (Decidable (_ ∨ _))

/-- The first line of a text that counts. -/
def FirstLine (text : String) (line : List Char) : Prop :=
  ¬ Skipped line ∧ ∃ before behind, pieces (· = '\n') text.toList = before ++ line :: behind ∧
    ∀ l ∈ before, Skipped l

/-- The key that a line gives. -/
def keyOf? (line : List Char) : Option PublicKey := PublicKey.ofBase64? (String.ofList (keyWord (trim line)))

/-- The file holds the key. -/
inductive Holds : Except SystemError Bytes → PublicKey → Prop
  | intro {text : String} {line : List Char} {k : PublicKey} (first : FirstLine text line)
    (key : keyOf? line = some k) : Holds (.ok (Text.encode text)) k

/-- The file holds no key, for this reason. -/
inductive Unfit : Except SystemError Bytes → Flaw → Prop
  | unreadable (why : SystemError) : Unfit (.error why) (.unreadable why.text)
  | notText {b : Bytes} (h : ∀ text, Text.encode text ≠ b) : Unfit (.ok b) (.unreadable SystemError.notUtf8.text)
  | empty {text : String} (h : ∀ l ∈ pieces (· = '\n') text.toList, Skipped l) :
    Unfit (.ok (Text.encode text)) .empty
  | notAKey {text : String} {line : List Char} (first : FirstLine text line) (h : keyOf? line = none) :
    Unfit (.ok (Text.encode text)) .notAKey

theorem significantLine?_eq (s : List Char) :
    significantLine? s = ((pieces (· = '\n') s).find? fun l => ¬ Skipped l).map trim := by
  have hcounts : (fun l => !(trim l).isEmpty && !isComment (trim l)) = fun l => decide (¬ Skipped l) := by
    funext l
    cases h : trim l <;> simp [Skipped, isComment, h]
  rw [significantLine?, List.find?_map, ← hcounts]
  rfl

theorem firstLine_iff {text : String} {line : List Char} :
    FirstLine text line ↔ (pieces (· = '\n') text.toList).find? (fun l => ¬ Skipped l) = some line := by
  simp [FirstLine, List.find?_eq_some_iff_append]

theorem exists_firstLine_or_skipped (text : String) :
    (∃ line, FirstLine text line) ∨ ∀ l ∈ pieces (· = '\n') text.toList, Skipped l := by
  cases h : (pieces (· = '\n') text.toList).find? fun l => ¬ Skipped l with
  | some line => exact .inl ⟨line, firstLine_iff.2 h⟩
  | none => exact .inr (by simpa using h)

theorem significantLine?_of_firstLine {text : String} {line : List Char} (h : FirstLine text line) :
    significantLine? text.toList = some (trim line) := by
  rw [significantLine?_eq, firstLine_iff.1 h]
  rfl

theorem significantLine?_of_skipped {text : String} (h : ∀ l ∈ pieces (· = '\n') text.toList, Skipped l) :
    significantLine? text.toList = none := by
  simpa [significantLine?_eq] using h

theorem read_of_holds {file : Except SystemError Bytes} {k : PublicKey} (h : Holds file k) : read file = .ok k := by
  cases h with
  | intro first key =>
    have hkey : PublicKey.ofBase64? (String.ofList (keyWord (trim _))) = some k := key
    simp only [read, Text.decode?_encode, ofText, significantLine?_of_firstLine first, hkey]

theorem read_of_unfit {file : Except SystemError Bytes} {flaw : Flaw} (h : Unfit file flaw) :
    read file = .error flaw := by
  cases h with
  | unreadable why => rfl
  | notText h =>
    have hnone : Text.decode? _ = none := Option.eq_none_iff_forall_ne_some.2 fun text ht =>
      h text (Text.decode?_eq_some_iff.1 ht)
    simp only [read, hnone]
  | empty h => simp only [read, Text.decode?_encode, ofText, significantLine?_of_skipped h]
  | notAKey first h =>
    have hkey : PublicKey.ofBase64? (String.ofList (keyWord (trim _))) = none := h
    simp only [read, Text.decode?_encode, ofText, significantLine?_of_firstLine first, hkey]

theorem holds_or_unfit (file : Except SystemError Bytes) : (∃ k, Holds file k) ∨ ∃ flaw, Unfit file flaw := by
  cases file with
  | error why => exact .inr ⟨_, .unreadable why⟩
  | ok b =>
    by_cases hb : ∃ text, Text.encode text = b
    · obtain ⟨text, rfl⟩ := hb
      rcases exists_firstLine_or_skipped text with ⟨line, first⟩ | hskipped
      · cases hkey : keyOf? line with
        | some k => exact .inl ⟨k, .intro first hkey⟩
        | none => exact .inr ⟨_, .notAKey first hkey⟩
      · exact .inr ⟨_, .empty hskipped⟩
    · exact .inr ⟨_, .notText (not_exists.1 hb)⟩

end SshTunnel.KeyFile

namespace SshTunnel.Resolution

open KeyFile (Holds Unfit)

variable {w : World} {s : TrustStore} {host : String} {port : UInt16}

/-! ### What is seen of a resolution -/

/-- The gateway that was asked for its key. -/
def Event.fetched? : Event → Option (String × UInt16)
  | .fetched host port => some (host, port)
  | .readKeyFile | .asked _ | .saved _ => none

/-- The question that was put to the user. -/
def Event.question? : Event → Option Question
  | .asked q => some q
  | .readKeyFile | .fetched .. | .saved _ => none

section Saved

variable {x : TrustStore.Entry} {saved : List Event}

theorem fetched?_saved (h : ∀ e ∈ saved, e = .saved x) : saved.filterMap Event.fetched? = [] :=
  List.filterMap_eq_nil_iff.2 fun e he => by rw [h e he]; rfl

theorem question?_saved (h : ∀ e ∈ saved, e = .saved x) : saved.filterMap Event.question? = [] :=
  List.filterMap_eq_nil_iff.2 fun e he => by rw [h e he]; rfl

end Saved

/-! ### The operator's file -/

/-- How a resolution goes that has an operator's file to look at: by the file alone. -/
structure Filed (o : Operator) (s : TrustStore) (host : String) (port : UInt16) (out : Outcome) : Prop where
  either : (∃ k, Holds o.file k) ∨ ∃ flaw, Unfit o.file flaw
  fit : ∀ k, Holds o.file k → out.result = .ok ⟨[k], .keyFile⟩
  unfit : ∀ flaw, Unfit o.file flaw → out = ⟨.error (.hostKeyUnresolved (flaw.text o.path)), s, [.readKeyFile]⟩
  read : out.trace.head? = some .readKeyFile
  unfetched : out.trace.filterMap Event.fetched? = []
  unasked : out.trace.filterMap Event.question? = []

theorem filed_fromFile (o : Operator) (s : TrustStore) (host : String) (port : UInt16) :
    Filed o s host port (fromFile o s host port) := by
  -- a file holds a key or is unfit, never both, so one of the two fields is vacuous in each case
  rcases KeyFile.holds_or_unfit o.file with ⟨k, hk⟩ | ⟨flaw, hflaw⟩
  · have hread := KeyFile.read_of_holds hk
    have hout : fromFile o s host port =
        ⟨.ok ⟨[k], .keyFile⟩, (persist s host port k).1, .readKeyFile :: (persist s host port k).2⟩ := by
      simp only [fromFile, hread]
    have hsaved : ∀ e ∈ (persist s host port k).2, e = .saved (TrustStore.entryOf host port k) :=
      fun e he => persist_trace he
    have hfetched := fetched?_saved hsaved
    have hasked := question?_saved hsaved
    rw [hout]
    refine ⟨.inl ⟨k, hk⟩, fun k' hk' => ?_, fun flaw hflaw => ?_, rfl, hfetched, hasked⟩
    · obtain rfl := Except.ok.inj (hread.symm.trans (KeyFile.read_of_holds hk'))
      rfl
    · exact absurd (hread.symm.trans (KeyFile.read_of_unfit hflaw)) (by simp)
  · have hread := KeyFile.read_of_unfit hflaw
    have hout : fromFile o s host port =
        ⟨.error (.hostKeyUnresolved (flaw.text o.path)), s, [.readKeyFile]⟩ := by
      simp only [fromFile, hread]
    rw [hout]
    refine ⟨.inr ⟨flaw, hflaw⟩, fun k hk => ?_, fun flaw' hflaw' => ?_, rfl, rfl, rfl⟩
    · exact absurd (hread.symm.trans (KeyFile.read_of_holds hk)) (by simp)
    · obtain rfl := Except.error.inj (hread.symm.trans (KeyFile.read_of_unfit hflaw'))
      rfl

/-! ### The gateway and the user -/

/-- How a resolution goes that asks the gateway: once, and the user only about a key that it has shown. -/
structure Presented (w : World) (s : TrustStore) (host : String) (port : UInt16) (out : Outcome) : Prop where
  first : out.trace.head? = some (.fetched host port)
  fetched : out.trace.filterMap Event.fetched? = [(host, port)]
  unread : .readKeyFile ∉ out.trace
  unreachable : ∀ f, w.fetch host port = .error f → out = ⟨.error f, s, [.fetched host port]⟩
  asked : ∀ k, w.fetch host port = .ok k →
    out.trace.filterMap Event.question? = [⟨host, port, k.algorithm, k.fingerprint⟩]
  trusted : ∀ k, w.fetch host port = .ok k → w.answer ⟨host, port, k.algorithm, k.fingerprint⟩ = some true →
    out.result = .ok ⟨[k], .gateway⟩
  untrusted : ∀ k, w.fetch host port = .ok k → w.answer ⟨host, port, k.algorithm, k.fingerprint⟩ ≠ some true →
    ∃ why, out.result = .error (.hostKeyUnresolved why)

/-- The gateway has shown a key: it is the answer to the question about it that decides. -/
theorem presented_of_fetch {k : PublicKey} (hk : w.fetch host port = .ok k) {out : Outcome} {saved : List Event}
    (htrace : out.trace = [.fetched host port, .asked (question host port k)] ++ saved)
    (hsaved : ∀ e ∈ saved, e = .saved (TrustStore.entryOf host port k))
    (hyes : w.answer (question host port k) = some true → out.result = .ok ⟨[k], .gateway⟩)
    (hno : w.answer (question host port k) ≠ some true → ∃ why, out.result = .error (.hostKeyUnresolved why)) :
    Presented w s host port out := by
  have honly (k' : PublicKey) (hk' : w.fetch host port = .ok k') : k' = k := Except.ok.inj (hk'.symm.trans hk)
  constructor
  case first => rw [htrace]; rfl
  case fetched =>
    rw [htrace, List.filterMap_append, fetched?_saved hsaved]
    rfl
  case unread =>
    rw [htrace]
    simpa using fun h => absurd (hsaved _ h) (by simp)
  case unreachable =>
    intro f hf
    exact absurd (hf.symm.trans hk) (by simp)
  case asked =>
    intro k' hk'
    rw [htrace, List.filterMap_append, question?_saved hsaved, honly k' hk']
    rfl
  case trusted =>
    intro k' hk' ha
    rw [honly k' hk'] at ha ⊢
    exact hyes ha
  case untrusted =>
    intro k' hk' ha
    rw [honly k' hk'] at ha
    exact hno ha

theorem presented_fromGateway (w : World) (s : TrustStore) (host : String) (port : UInt16) :
    Presented w s host port (fromGateway w s host port) := by
  cases hfetch : w.fetch host port with
  | error f =>
    have hout : fromGateway w s host port = ⟨.error f, s, [.fetched host port]⟩ := by
      simp only [fromGateway, hfetch]
    have hno (k : PublicKey) : w.fetch host port ≠ .ok k := by simp [hfetch]
    rw [hout]
    refine ⟨rfl, rfl, by simp, fun f' hf' => ?_, fun k hk => absurd hk (hno k), fun k hk => absurd hk (hno k),
      fun k hk => absurd hk (hno k)⟩
    rw [Except.error.inj (hf'.symm.trans hfetch)]
  | ok k =>
    -- no answer, a no and a yes; only the yes saves anything
    cases hanswer : w.answer (question host port k) with
    | none =>
      have hout : fromGateway w s host port =
          ⟨.error unanswered, s, [.fetched host port, .asked (question host port k)]⟩ := by
        simp only [fromGateway, hfetch, hanswer]
      rw [hout]
      exact presented_of_fetch hfetch rfl (by simp) (by simp [hanswer]) fun _ => ⟨_, rfl⟩
    | some yes =>
      cases yes with
      | false =>
        have hout : fromGateway w s host port =
            ⟨.error (untrusted host port k), s, [.fetched host port, .asked (question host port k)]⟩ := by
          simp only [fromGateway, hfetch, hanswer]
        rw [hout]
        exact presented_of_fetch hfetch rfl (by simp) (by simp [hanswer]) fun _ => ⟨_, rfl⟩
      | true =>
        have hout : fromGateway w s host port = ⟨.ok ⟨[k], .gateway⟩, (persist s host port k).1,
            [.fetched host port, .asked (question host port k)] ++ (persist s host port k).2⟩ := by
          simp only [fromGateway, hfetch, hanswer]
        rw [hout]
        exact presented_of_fetch hfetch rfl (fun e he => persist_trace he) (fun _ => rfl) fun h =>
          absurd hanswer h

/-! ### What a resolution depends on -/

/-- Two surroundings that a resolution cannot tell apart: it looks at the operator's file, or else at the key that
the gateway shows and at the answer about this key. -/
def SameView (w w' : World) (host : String) (port : UInt16) : Prop :=
  w.operator = w'.operator ∧ (w.operator = none → w.fetch host port = w'.fetch host port ∧
    ∀ k, w.fetch host port = .ok k → w.answer (question host port k) = w'.answer (question host port k))

theorem resolve_congr {w' : World} (h : SameView w w' host port) :
    resolve w s host port = resolve w' s host port := by
  obtain ⟨hoperator, hgateway⟩ := h
  by_cases hheld : s.trustedKeys host port = []
  · cases ho : w.operator with
    | some o => rw [resolve_of_operator hheld ho, resolve_of_operator hheld (hoperator ▸ ho)]
    | none =>
      obtain ⟨hfetch, hanswer⟩ := hgateway ho
      rw [resolve_of_no_operator hheld ho, resolve_of_no_operator hheld (hoperator ▸ ho)]
      cases hw : w.fetch host port with
      | error f => simp only [fromGateway, hw, ← hfetch]
      | ok k => simp only [fromGateway, hw, ← hfetch, hanswer k hw]
  · rw [resolve_of_stored hheld, resolve_of_stored hheld]

/-- What comes of a resolution does not go by the file of the store, which may be one that nothing can be added
to: what is held is in memory. -/
theorem resolve_result_place (w : World) (s : TrustStore) (host : String) (port : UInt16) (p : Place) :
    (resolve w { s with place := p } host port).result = (resolve w s host port).result := by
  have hkeys : TrustStore.trustedKeys { s with place := p } host port = s.trustedKeys host port := rfl
  by_cases hheld : s.trustedKeys host port = []
  · cases ho : w.operator with
    | some o =>
      rw [resolve_of_operator hheld ho, resolve_of_operator (hkeys.trans hheld) ho]
      cases hread : KeyFile.read o.file <;> simp only [fromFile, hread]
    | none =>
      rw [resolve_of_no_operator hheld ho, resolve_of_no_operator (hkeys.trans hheld) ho]
      cases hfetch : w.fetch host port with
      | error f => simp only [fromGateway, hfetch]
      | ok k =>
        simp only [fromGateway, hfetch]
        split <;> rfl
  · rw [resolve_of_stored hheld, resolve_of_stored (s := { s with place := p }) hheld, hkeys]

/-! ### Saving -/

/-- A key that cannot be saved is the result all the same. -/
theorem resolve_of_add_error {k : PublicKey} {src : KeySource} {done : List Event} {f : Failure}
    (hheld : s.trustedKeys host port = []) (hk : Learnt w host port k src done)
    (hadd : s.add host port k = .error f) : resolve w s host port = ⟨.ok ⟨[k], src⟩, s, done⟩ := by
  have hpersist : persist s host port k = (s, []) := by simp only [persist, hadd]
  cases hk with
  | filed configured inFile =>
    rw [resolve_of_operator hheld configured]
    simp only [fromFile, inFile, hpersist]
  | consented noFile presented yes =>
    rw [resolve_of_no_operator hheld noFile]
    simp only [fromGateway, presented, yes, hpersist, List.append_nil]

theorem unchanged_of_error {f : Failure} (h : (resolve w s host port).result = .error f) :
    (resolve w s host port).store = s ∧ ∀ e, .saved e ∉ (resolve w s host port).trace := by
  have hcourse := course_resolve w s host port
  generalize resolve w s host port = out at h hcourse
  cases hcourse with
  | stored => cases h
  | failed noneHeld f unsaved => exact ⟨rfl, unsaved⟩
  | learnt => cases h

/-! ### The order -/

/-- Where a resolution looks for a key, and when it goes on. -/
structure InOrder (w : World) (s : TrustStore) (host : String) (port : UInt16) : Prop where
  stored : s.trustedKeys host port ≠ [] →
    resolve w s host port = ⟨.ok ⟨s.trustedKeys host port, .store⟩, s, []⟩
  filed : s.trustedKeys host port = [] → ∀ o, w.operator = some o →
    Filed o s host port (resolve w s host port)
  presented : s.trustedKeys host port = [] → w.operator = none →
    Presented w s host port (resolve w s host port)
  /-- What is not looked at does not matter. -/
  unseen : ∀ w', s.trustedKeys host port ≠ [] ∨ SameView w w' host port →
    resolve w s host port = resolve w' s host port
  failed : ∀ f, (resolve w s host port).result = .error f →
    (resolve w s host port).store = s ∧ ∀ e, .saved e ∉ (resolve w s host port).trace
  unsaved : s.trustedKeys host port = [] → ∀ k src done f, Learnt w host port k src done →
    s.add host port k = .error f → resolve w s host port = ⟨.ok ⟨[k], src⟩, s, done⟩
  anyPlace : ∀ p, (resolve w { s with place := p } host port).result = (resolve w s host port).result

/-- **A resolution looks at the store, at the operator's file and at the gateway, in this order, and does not go on
where there is something to be found.** -/
theorem resolve_inOrder (w : World) (s : TrustStore) (host : String) (port : UInt16) : InOrder w s host port where
  stored := resolve_of_stored
  filed hheld o ho := resolve_of_operator hheld ho ▸ filed_fromFile o s host port
  presented hheld ho := resolve_of_no_operator hheld ho ▸ presented_fromGateway w s host port
  unseen w' := by
    rintro (hheld | hview)
    · rw [resolve_of_stored hheld, resolve_of_stored hheld]
    · exact resolve_congr hview
  failed _ := unchanged_of_error
  unsaved hheld _ _ _ _ := resolve_of_add_error hheld
  anyPlace := resolve_result_place w s host port

/-- A file whose key cannot be decoded ends the matter, although the user would say yes to the gateway's key. -/
example : (resolve ⟨some ⟨"gw.pub", .ok (Text.encode "# key\nssh-ed25519 none\n")⟩,
    fun _ _ => .ok (.ed25519 (List.replicate 32 7)), fun _ => some true⟩ ⟨[], .absent⟩ "gw" 22).result =
      .error (.hostKeyUnresolved "invalid public key in \"gw.pub\": not a public key") := by
  decide +kernel

end SshTunnel.Resolution
