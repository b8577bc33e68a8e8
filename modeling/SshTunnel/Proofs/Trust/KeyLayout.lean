import SshTunnel.Proofs.Text.Blanks
import SshTunnel.Proofs.Trust.Order

/-!
How a public key is laid out in a file: between blank lines and comments, with blanks around it, after the name
of its algorithm and before a remark, or alone.  A file gives its key whatever the layout, and a resolution pins
this key and keeps it.
-/

namespace SshTunnel.KeyFile

open Text (isBlank pieces trim words)

/-! ### Layouts -/

/-- Blanks that do not end a line. -/
structure Blanks where
  chars : List Char
  blank : ∀ c ∈ chars, isBlank c
  inLine : '\n' ∉ chars

/-- Blanks that part two words. -/
structure Gap extends Blanks where
  nonempty : chars ≠ []

/-- Any text that does not end its line. -/
structure Remark where
  chars : List Char
  inLine : '\n' ∉ chars

/-- A line that holds no key. -/
inductive Filler
  | blank (b : Blanks)
  | comment (lead : Blanks) (text : Remark)

def Filler.chars : Filler → List Char
  | .blank b => b.chars
  | .comment lead text => lead.chars ++ '#' :: text.chars

inductive LineEnd
  | lf
  | crlf

/-- What stands before the line feed. -/
def LineEnd.before : LineEnd → List Char
  | .lf => []
  | .crlf => ['\r']

/-- The key alone, or behind the name of its algorithm and perhaps before a remark. -/
inductive Form
  | bare
  | typed (gap : Gap) (remark : Option (Gap × Remark))

def Form.chars (k : PublicKey) : Form → List Char
  | .bare => k.base64.toList
  | .typed gap none => k.algorithm.toList ++ gap.chars ++ k.base64.toList
  | .typed gap (some (gap', remark)) =>
    k.algorithm.toList ++ gap.chars ++ k.base64.toList ++ gap'.chars ++ remark.chars

/-- A file around a key.  The last line of a file needs no end. -/
structure Layout where
  before : List (Filler × LineEnd)
  lead : Blanks
  form : Form
  trail : Blanks
  behind : Option (LineEnd × List Char)

namespace Layout

def fillerLine (f : Filler × LineEnd) : List Char := f.1.chars ++ f.2.before

/-- The line of the key up to its line feed. -/
def line (l : Layout) (k : PublicKey) : List Char :=
  l.lead.chars ++ l.form.chars k ++ l.trail.chars ++ l.behind.elim [] fun b => b.1.before

def text (l : Layout) (k : PublicKey) : String :=
  String.ofList (l.before.flatMap (fun f => fillerLine f ++ ['\n']) ++ l.line k ++
    l.behind.elim [] fun b => '\n' :: b.2)

end Layout

/-! ### Lines without a key -/

theorem LineEnd.blank {e : LineEnd} {c : Char} (hc : c ∈ e.before) : isBlank c := by
  cases e with
  | lf => cases hc
  | crlf =>
    obtain rfl := List.mem_singleton.1 hc
    rfl

theorem LineEnd.inLine (e : LineEnd) : '\n' ∉ e.before := by
  cases e <;> decide

theorem Filler.inLine (f : Filler) : '\n' ∉ f.chars := by
  cases f with
  | blank b => exact b.inLine
  | comment lead text =>
    simp only [Filler.chars, List.mem_append, List.mem_cons, not_or]
    exact ⟨lead.inLine, by decide, text.inLine⟩

theorem skipped_fillerLine (f : Filler × LineEnd) : Skipped (Layout.fillerLine f) := by
  obtain ⟨f, e⟩ := f
  cases f with
  | blank b =>
    refine .inl (Text.trim_blanks fun c hc => ?_)
    obtain hc | hc := List.mem_append.1 hc
    · exact b.blank c hc
    · exact e.blank hc
  | comment lead text =>
    right
    rw [Layout.fillerLine, Filler.chars, List.append_assoc, List.cons_append]
    exact Text.head?_trim lead.blank (by decide) _

/-! ### The line of the key -/

/-- The name of an algorithm that stands as a word, and not for a comment, at the beginning of a line. -/
structure Nameable (k : PublicKey) : Prop where
  unbroken : ∀ c ∈ k.algorithm.toList, isBlank c = false
  noMark : k.algorithm.toList.head? ≠ some '#'

section

variable {k : PublicKey}

theorem Nameable.isWord (h : Nameable k) : Text.IsWord k.algorithm.toList := ⟨k.algorithm_ne_nil, h.unbroken⟩

theorem head?_base64 (k : PublicKey) : k.base64.toList.head? ≠ some '#' := by
  intro hhead
  rw [PublicKey.base64, String.toList_ofList] at hhead
  exact Base64.forall_mem_encode (p := (· ≠ '#')) Base64.digit_ne_hash (by decide)
    (List.mem_of_mem_head? hhead) rfl

/-- A text that counts where a line begins with it. -/
def Counts (s : List Char) : Prop := ∃ c rest, s = c :: rest ∧ isBlank c = false ∧ c ≠ '#'

theorem counts_append {w : List Char} (hw : Text.IsWord w) (hmark : w.head? ≠ some '#') (rest : List Char) :
    Counts (w ++ rest) := by
  obtain ⟨c, w, rfl⟩ := List.exists_cons_of_ne_nil hw.1
  exact ⟨c, w ++ rest, rfl, hw.2 c (List.mem_cons_self ..), fun hc => hmark (by rw [hc]; rfl)⟩

theorem counts_form (h : Nameable k) (f : Form) : Counts (f.chars k) := by
  cases f with
  | bare => simpa only [Form.chars, List.append_nil] using counts_append k.isWord_base64 (head?_base64 k) []
  | typed gap remark =>
    rcases remark with - | ⟨gap', remark⟩
    all_goals
      simp only [Form.chars, List.append_assoc]
      exact counts_append h.isWord h.noMark _

theorem not_skipped_of_counts {b s : List Char} (hb : ∀ c ∈ b, isBlank c) (hs : Counts s) (rest : List Char) :
    ¬ Skipped (b ++ s ++ rest) := by
  obtain ⟨c, s, rfl, hc, hmark⟩ := hs
  have hhead : (trim (b ++ c :: s ++ rest)).head? = some c := by
    rw [List.append_assoc, List.cons_append]
    exact Text.head?_trim hb hc _
  rintro (hnil | hcomment)
  · rw [hnil] at hhead
    cases hhead
  · exact hmark (Option.some.inj (hhead.symm.trans hcomment))

theorem keyWord_form (h : Nameable k) (f : Form) : keyWord (f.chars k) = k.base64.toList := by
  have hword := h.isWord.words
  have hkey := k.isWord_base64.words
  cases f with
  | bare => simp only [Form.chars, keyWord, hkey]
  | typed gap remark =>
    have htyped : words (k.algorithm.toList ++ gap.chars ++ k.base64.toList) =
        [k.algorithm.toList, k.base64.toList] := by
      rw [Text.words_append_blanks gap.blank gap.nonempty, hword, hkey]
      rfl
    rcases remark with - | ⟨gap', remark⟩
    · simp only [Form.chars, keyWord, htyped]
    · simp only [Form.chars, keyWord, Text.words_append_blanks gap'.blank gap'.nonempty, htyped]
      rfl

theorem keyWord_congr {a b : List Char} (h : words a = words b) : keyWord a = keyWord b := by
  unfold keyWord
  rw [h]

theorem Form.inLine (h : Nameable k) (f : Form) : '\n' ∉ f.chars k := by
  have hname : '\n' ∉ k.algorithm.toList := fun hc => absurd (h.unbroken _ hc) (by decide)
  have hkey : '\n' ∉ k.base64.toList := fun hc => absurd (k.isWord_base64.2 _ hc) (by decide)
  cases f with
  | bare => exact hkey
  | typed gap remark =>
    rcases remark with - | ⟨gap', remark⟩
    · simp [Form.chars, hname, hkey, gap.inLine]
    · simp [Form.chars, hname, hkey, gap.inLine, gap'.inLine, remark.inLine]

namespace Layout

/-- What stands behind the key up to the line feed. -/
def tail (l : Layout) : List Char := l.trail.chars ++ l.behind.elim [] fun b => b.1.before

theorem line_eq (l : Layout) (k : PublicKey) : l.line k = l.lead.chars ++ l.form.chars k ++ l.tail := by
  rw [line, tail, List.append_assoc]

theorem tail_blank {l : Layout} {c : Char} (hc : c ∈ l.tail) : isBlank c := by
  obtain hc | hc := List.mem_append.1 hc
  · exact l.trail.blank c hc
  · cases hbehind : l.behind with
    | none => simp [hbehind] at hc
    | some b => exact b.1.blank (by simpa [hbehind] using hc)

theorem line_inLine (h : Nameable k) (l : Layout) : '\n' ∉ l.line k := by
  have hend : '\n' ∉ l.behind.elim [] fun b => b.1.before := by
    cases l.behind with
    | none => exact List.not_mem_nil
    | some b => exact b.1.inLine
  simp [line, l.lead.inLine, l.form.inLine h, l.trail.inLine, hend]

theorem not_skipped_line (h : Nameable k) (l : Layout) : ¬ Skipped (l.line k) := by
  rw [line_eq]
  exact not_skipped_of_counts l.lead.blank (counts_form h l.form) l.tail

theorem keyOf?_line (hk : k.Legible) (h : Nameable k) (l : Layout) : keyOf? (l.line k) = some k := by
  have hwords : words (trim (l.line k)) = words (l.form.chars k) := by
    rw [Text.words_trim, line_eq, Text.words_append_blanks_end fun c hc => tail_blank hc,
      Text.words_blanks_append l.lead.blank]
  rw [keyOf?, keyWord_congr hwords, keyWord_form h, String.ofList_toList, hk.ofBase64?_base64]

/-! ### The whole file -/

theorem pieces_of_inLine {s : List Char} (hs : '\n' ∉ s) : pieces (· = '\n') s = [s] :=
  Text.pieces_of_all_not fun c hc => by simpa using fun heq : c = '\n' => hs (heq ▸ hc)

/-- A line and the lines behind it. -/
theorem pieces_line {s : List Char} (hs : '\n' ∉ s) (t : List Char) :
    pieces (· = '\n') (s ++ '\n' :: t) = s :: pieces (· = '\n') t := by
  rw [Text.pieces_append_sep (by decide), pieces_of_inLine hs]
  rfl

theorem pieces_fillers (fs : List (Filler × LineEnd)) (t : List Char) :
    pieces (· = '\n') (fs.flatMap (fun f => fillerLine f ++ ['\n']) ++ t) =
      fs.map fillerLine ++ pieces (· = '\n') t := by
  induction fs with
  | nil => rfl
  | cons f fs ih =>
    have hf : '\n' ∉ fillerLine f := by simp [fillerLine, f.1.inLine, f.2.inLine]
    rw [List.flatMap_cons, List.append_assoc, List.append_assoc, List.singleton_append, pieces_line hf, ih]
    rfl

theorem firstLine_text (h : Nameable k) (l : Layout) : FirstLine (l.text k) (l.line k) := by
  refine ⟨l.not_skipped_line h, l.before.map fillerLine, l.behind.elim [] fun b => pieces (· = '\n') b.2, ?_,
    fun f hf => ?_⟩
  · rw [text, String.toList_ofList, List.append_assoc, pieces_fillers]
    congr 1
    cases l.behind with
    | none => simpa using pieces_of_inLine (l.line_inLine h)
    | some b => exact pieces_line (l.line_inLine h) b.2
  · obtain ⟨f, -, rfl⟩ := List.mem_map.1 hf
    exact skipped_fillerLine f

theorem holds_text (hk : k.Legible) (h : Nameable k) (l : Layout) : Holds (.ok (Text.encode (l.text k))) k :=
  .intro (l.firstLine_text h) (l.keyOf?_line hk h)

end Layout

end

end SshTunnel.KeyFile

namespace SshTunnel.Resolution

open TrustStore (entryOf nameOf ofPlace Coherent Plain)

variable {w : World} {s s' : TrustStore} {host : String} {port : UInt16} {k : PublicKey}

/-! ### A key that is kept -/

/-- The store holds this key alone for the host, and so does one that is opened on its file, where the old store
was in step with its file and the new line can be read again. -/
structure Kept (s out : TrustStore) (host : String) (port : UInt16) (k : PublicKey) : Prop where
  held : out.trustedKeys host port = [k]
  reopened : Coherent s → Plain host → (∀ c ∈ k.algorithm.toList, Text.isBlank c = false) →
    (ofPlace out.place).trustedKeys host port = [k]

theorem kept_of_add (hk : k.Legible) (hnone : s.trustedKeys host port = []) (hadd : s.add host port k = .ok s') :
    Kept s s' host port k := by
  have hs' : s' = ⟨s.entries ++ [entryOf host port k],
      .file (TrustStore.appended s.place.content (entryOf host port k).line)⟩ := by
    rcases TrustStore.add_ok hadd with ⟨hv, -⟩ | hs'
    · have hmem := TrustStore.mem_trustedKeys_of_verified hk hv
      rw [hnone] at hmem
      cases hmem
    · exact hs'
  have hnamed : s'.keysNamed (nameOf host port) = [k] := by
    rw [hs', TrustStore.keysNamed_append hk, TrustStore.keysNamed_of_trustedKeys hnone, if_pos rfl]
    rfl
  have hheld : s'.trustedKeys host port = [k] :=
    (TrustStore.trustedKeys_of_keysNamed (by simp [hnamed])).trans hnamed
  refine ⟨hheld, fun hs hhost hword => ?_⟩
  rw [(hs.add hhost hword hadd).reopened, hheld]

/-- **A key that an operator has written down is read, pinned and kept as it is**, whatever the layout of the
file. -/
theorem keyFile_pinned (hk : k.Legible) (hname : KeyFile.Nameable k) (l : KeyFile.Layout) :
    KeyFile.read (.ok (Text.encode (l.text k))) = .ok k ∧
      ∀ w s host port path, w.operator = some ⟨path, .ok (Text.encode (l.text k))⟩ →
        s.trustedKeys host port = [] →
        (resolve w s host port).result = .ok ⟨[k], .keyFile⟩ ∧
          ∀ s', s.add host port k = .ok s' → Kept s (resolve w s host port).store host port k := by
  have hholds := l.holds_text hk hname
  have hread := KeyFile.read_of_holds hholds
  refine ⟨hread, fun w s host port path ho hnone => ?_⟩
  rw [resolve_of_operator hnone ho]
  refine ⟨(filed_fromFile _ s host port).fit k hholds, fun s' hadd => ?_⟩
  have hstore : (fromFile ⟨path, .ok (Text.encode (l.text k))⟩ s host port).store = s' := by
    simp only [fromFile, hread, persist, hadd]
  rw [hstore]
  exact kept_of_add hk hnone hadd

/-- A key behind a comment and an empty line and before another key, with blanks and a remark on its own line. -/
def remarked : KeyFile.Layout where
  before := [(.comment ⟨['\t'], List.all_eq_true.1 (by decide), by decide⟩ ⟨" gw, see #1".toList, by decide⟩, .crlf),
    (.blank ⟨[], List.forall_mem_nil _, by decide⟩, .lf)]
  lead := ⟨[' '], List.all_eq_true.1 (by decide), by decide⟩
  form := .typed ⟨⟨['\t'], List.all_eq_true.1 (by decide), by decide⟩, by decide⟩
    (some (⟨⟨[' ', ' '], List.all_eq_true.1 (by decide), by decide⟩, by decide⟩, ⟨"ops@gw AAAA".toList, by decide⟩))
  trail := ⟨[' '], List.all_eq_true.1 (by decide), by decide⟩
  behind := some (.crlf, "ssh-rsa none".toList)

theorem keyFile_pinned_remarked :
    remarked.text (.ed25519 (List.replicate 32 7)) = "\t# gw, see #1\r\n\n ssh-ed25519\t" ++
      PublicKey.base64 (.ed25519 (List.replicate 32 7)) ++ "  ops@gw AAAA \r\nssh-rsa none" ∧
    (resolve ⟨some ⟨"gw.pub", .ok (Text.encode (remarked.text (.ed25519 (List.replicate 32 7))))⟩,
      fun _ _ => .error .disconnected, fun _ => none⟩ ⟨[], .absent⟩ "gw" 22).store.trustedKeys "gw" 22 =
        [.ed25519 (List.replicate 32 7)] := by
  have hk : (PublicKey.ed25519 (List.replicate 32 7)).Legible := PublicKey.legible_iff_wellFormed.2 rfl
  have hunbroken : "ssh-ed25519".toList.all (fun c => !Text.isBlank c) = true := by decide
  have hname : KeyFile.Nameable (.ed25519 (List.replicate 32 7)) :=
    ⟨fun c hc => by simpa using List.all_eq_true.1 hunbroken c hc, by decide⟩
  refine ⟨by decide +kernel, ?_⟩
  exact (((keyFile_pinned hk hname remarked).2 _ ⟨[], .absent⟩ "gw" 22 "gw.pub" rfl rfl).2 _ rfl).held

end SshTunnel.Resolution
