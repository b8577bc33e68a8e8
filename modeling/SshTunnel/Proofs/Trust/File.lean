import Mathlib.Tactic.Common
import SshTunnel.Proofs.Text.Pieces
import SshTunnel.Trust.Store

/-!
The file of the trust store line by line.  As far as a file can be read, what it holds before a line end and
what it holds behind it follow each other; a line that is written for an entry is read as that entry.
-/

namespace SshTunnel.TrustStore

open Text

/-! ### Lines -/

/-- Every line of a file is UTF-8. -/
def Readable (content : Bytes) : Prop := ∀ l ∈ pieces (· = 10) content, ∃ s, decode? l = some s

theorem readableLines_append : ∀ {a : List Bytes} (_ : ∀ l ∈ a, ∃ s, decode? l = some s) (b : List Bytes),
    readableLines (a ++ b) = readableLines a ++ readableLines b
  | [], _, b => rfl
  | l :: a, h, b => by
    obtain ⟨s, hs⟩ := h l (by simp)
    have ih := readableLines_append (fun l' hl => h l' (List.mem_cons_of_mem _ hl)) b
    simp only [List.cons_append, readableLines, hs, ih]

/-- Nothing is read behind a line that is not UTF-8. -/
theorem readableLines_append_of_not : ∀ {a : List Bytes} (_ : ¬ ∀ l ∈ a, ∃ s, decode? l = some s)
    (b : List Bytes), readableLines (a ++ b) = readableLines a
  | [], h, b => absurd (by simp) h
  | l :: a, h, b => by
    rw [List.cons_append, readableLines, readableLines]
    split
    · rename_i s hs
      rw [readableLines_append_of_not (fun ha => h (List.forall_mem_cons.2 ⟨⟨s, hs⟩, ha⟩)) b]
    · rfl

theorem pieces_newline (a b : Bytes) :
    pieces (· = 10) (a ++ 10 :: b) = pieces (· = 10) a ++ pieces (· = 10) b :=
  pieces_append_sep (by decide) a b

/-- A file of UTF-8 can be read to its end. -/
theorem readable_of_decode {content : Bytes} {text : String} (h : decode? content = some text) :
    Readable content := by
  intro l hl
  rw [← decode?_eq_some_iff.1 h, ← String.ofList_toList (s := text), pieces_encode] at hl
  obtain ⟨w, -, rfl⟩ := List.mem_map.1 hl
  exact ⟨_, decode?_encode _⟩

theorem readable_append_newline {a b : Bytes} : Readable (a ++ 10 :: b) ↔ Readable a ∧ Readable b := by
  simp only [Readable, pieces_newline, List.mem_append]
  constructor
  · intro h
    exact ⟨fun l hl => h l (Or.inl hl), fun l hl => h l (Or.inr hl)⟩
  · rintro ⟨ha, hb⟩ l (hl | hl)
    · exact ha l hl
    · exact hb l hl

/-- **The entries before a line end and those behind it follow each other.** -/
theorem entriesOf_append_newline {a : Bytes} (ha : Readable a) (b : Bytes) :
    entriesOf (a ++ 10 :: b) = entriesOf a ++ entriesOf b := by
  simp only [entriesOf, lines, pieces_newline]
  rw [readableLines_append ha, List.flatMap_append]

/-- What stands behind a line that is not UTF-8 counts for nothing. -/
theorem entriesOf_append_newline_of_not {a : Bytes} (ha : ¬ Readable a) (b : Bytes) :
    entriesOf (a ++ 10 :: b) = entriesOf a := by
  simp only [entriesOf, lines, pieces_newline]
  rw [readableLines_append_of_not ha]

theorem entriesOf_nil : entriesOf [] = [] := by
  decide +kernel

theorem readable_nil : Readable [] := by
  have h : decode? [] = some "" := by decide +kernel
  exact readable_of_decode h

/-- A line end at the end of a file makes no difference. -/
theorem entriesOf_newline (a : Bytes) : entriesOf (a ++ 10 :: []) = entriesOf a := by
  by_cases ha : Readable a
  · rw [entriesOf_append_newline ha, entriesOf_nil, List.append_nil]
  · exact entriesOf_append_newline_of_not ha []

theorem readable_encode (text : String) : Readable (encode text) := readable_of_decode (decode?_encode text)

/-- A place that cannot be read counts as an empty file. -/
theorem entriesAt_eq_content (p : Place) : entriesAt p = entriesOf p.content := by
  cases p with
  | file c => rfl
  | absent => exact entriesOf_nil.symm
  | unusable why => exact entriesOf_nil.symm

/-- The entries of a text without line ends are those of one line. -/
theorem entriesOf_encode {line : String} (h : '\n' ∉ line.toList) :
    entriesOf (encode line) = lineEntries line.toList := by
  have hno : ∀ c ∈ line.toList, decide (c = '\n') = false := fun c hc =>
    decide_eq_false fun heq => h (heq ▸ hc)
  have hpieces := pieces_encode line.toList
  rw [pieces_of_all_not hno, String.ofList_toList] at hpieces
  simp [entriesOf, lines, hpieces, readableLines, decode?_encode]

/-! ### The line of an entry -/

/-- An entry that can be written in a line and read from it again: it has three words, and its name stands
for one host in lower case and is taken neither for a comment nor for a hashed name. -/
structure Entry.Writable (e : Entry) : Prop where
  name : IsWord e.name.toList
  keyType : IsWord e.keyType.toList
  key : IsWord e.key.toList
  one : ',' ∉ e.name.toList
  noComment : e.name.toList.head? ≠ some '#'
  notHashed : e.name.toList.head? ≠ some '|'
  lower : Text.lower e.name = e.name

namespace Entry

variable {e : Entry}

theorem line_toList (e : Entry) :
    e.line.toList = e.name.toList ++ ' ' :: (e.keyType.toList ++ ' ' :: e.key.toList) := by
  simp [line]

theorem words_line (hn : IsWord e.name.toList) (hk : IsWord e.key.toList) :
    words e.line.toList = e.name.toList :: (words e.keyType.toList ++ [e.key.toList]) := by
  rw [line_toList, words_append_blank _ (by decide), words_append_blank _ (by decide), hn.words, hk.words]
  rfl

theorem trim_line (hn : IsWord e.name.toList) (hk : IsWord e.key.toList) :
    trim e.line.toList = e.line.toList := by
  have h := trim_of_words hn hk (' ' :: (e.keyType.toList ++ [' ']))
  rw [line_toList]
  simpa using h

/-- A name without commas is one name. -/
theorem pieces_name (hone : ',' ∉ e.name.toList) : pieces (· = ',') e.name.toList = [e.name.toList] :=
  pieces_of_all_not fun _ hc => decide_eq_false fun heq => hone (heq ▸ hc)

theorem newline_notMem_line (hn : IsWord e.name.toList) (ht : '\n' ∉ e.keyType.toList)
    (hk : IsWord e.key.toList) : '\n' ∉ e.line.toList := by
  have hblank : isBlank '\n' = true := by decide
  have hword : ∀ {s : List Char}, IsWord s → '\n' ∉ s := fun hs hc =>
    absurd (hs.2 _ hc) (by simp [hblank])
  rw [line_toList]
  simp [hword hn, ht, hword hk]

theorem Writable.newline_notMem (he : e.Writable) : '\n' ∉ e.line.toList := by
  refine newline_notMem_line he.name (fun hc => ?_) he.key
  exact absurd (he.keyType.2 _ hc) (by decide)

/-- **A line that is written for an entry is read as that entry.** -/
theorem lineEntries_line (he : e.Writable) : lineEntries e.line.toList = [e] := by
  unfold lineEntries
  rw [trim_line he.name he.key]
  split
  · rename_i rest h
    refine absurd ?_ he.noComment
    obtain ⟨c, cs, hc⟩ := List.exists_cons_of_ne_nil he.name.1
    rw [line_toList, hc] at h
    rw [hc]
    simpa using (List.cons.inj h).1
  · rw [words_line he.name he.key, he.keyType.words]
    simp only [List.cons_append, List.nil_append, pieces_name he.one, List.filter_cons, List.filter_nil,
      he.notHashed, ne_eq, not_false_eq_true, decide_true, if_true, List.map_cons, List.map_nil,
      String.ofList_toList, he.lower]

/-- Whatever is read from the line of an entry with one name stands under this name. -/
theorem name_of_mem_lineEntries (hn : IsWord e.name.toList) (hk : IsWord e.key.toList)
    (hone : ',' ∉ e.name.toList) (hlower : Text.lower e.name = e.name) {e' : Entry}
    (he' : e' ∈ lineEntries e.line.toList) : e'.name = e.name := by
  unfold lineEntries at he'
  rw [trim_line hn hk] at he'
  split at he'
  · cases he'
  · rw [words_line hn hk] at he'
    split at he'
    · rename_i heq
      obtain ⟨rfl, -⟩ := List.cons.inj heq
      rw [pieces_name hone] at he'
      obtain ⟨n, hmem, rfl⟩ := List.mem_map.1 he'
      obtain rfl := List.mem_singleton.1 (List.mem_filter.1 hmem).1
      simp [hlower]
    · cases he'

end Entry

/-! ### Appending -/

/-- What is appended is a line of its own. -/
theorem appended_cases (content : Bytes) (line : String) :
    content = [] ∧ appended content line = encode line ++ 10 :: [] ∨
      ∃ start, (content = start ∨ content = start ++ 10 :: []) ∧
        appended content line = start ++ 10 :: (encode line ++ 10 :: []) := by
  rcases List.eq_nil_or_concat content with rfl | ⟨start, last, rfl⟩
  · exact Or.inl ⟨rfl, by simp [appended]⟩
  · by_cases hl : last = 10
    · -- the last line is finished: an empty piece stands behind it
      subst hl
      exact Or.inr ⟨start, Or.inr (List.concat_eq_append ..), by simp [appended]⟩
    · exact Or.inr ⟨_, Or.inl rfl, by simp [appended, hl]⟩

/-- **A file that can be read holds, after a line was appended, what the line holds besides what it held.** -/
theorem entriesOf_appended_line {content : Bytes} {line : String} (hc : Readable content)
    (hl : '\n' ∉ line.toList) :
    entriesOf (appended content line) = entriesOf content ++ lineEntries line.toList ∧
      Readable (appended content line) := by
  have hline : Readable (encode line ++ 10 :: []) :=
    readable_append_newline.2 ⟨readable_encode line, readable_nil⟩
  have hent : entriesOf (encode line ++ 10 :: []) = lineEntries line.toList := by
    rw [entriesOf_newline, entriesOf_encode hl]
  rcases appended_cases content line with ⟨rfl, happ⟩ | ⟨start, hstart, happ⟩
  · rw [happ, hent, entriesOf_nil]
    exact ⟨rfl, hline⟩
  · have hs : Readable start ∧ entriesOf content = entriesOf start := by
      rcases hstart with rfl | rfl
      · exact ⟨hc, rfl⟩
      · exact ⟨(readable_append_newline.1 hc).1, entriesOf_newline start⟩
    rw [happ, entriesOf_append_newline hs.1, hent, hs.2]
    exact ⟨rfl, readable_append_newline.2 ⟨hs.1, hline⟩⟩

/-- What is appended to a file that cannot be read to its end is not found again. -/
theorem entriesOf_appended_of_not {content : Bytes} (hc : ¬ Readable content) (line : String) :
    entriesOf (appended content line) = entriesOf content := by
  rcases appended_cases content line with ⟨rfl, -⟩ | ⟨start, hstart, happ⟩
  · exact absurd readable_nil hc
  · have hs : ¬ Readable start ∧ entriesOf content = entriesOf start := by
      rcases hstart with rfl | rfl
      · exact ⟨hc, rfl⟩
      · exact ⟨fun h => hc (readable_append_newline.2 ⟨h, readable_nil⟩), entriesOf_newline start⟩
    rw [happ, entriesOf_append_newline_of_not hs.1, hs.2]

/-- **A file to which an entry was appended holds it besides what it held.** -/
theorem entriesOf_appended {content : Bytes} {e : Entry} (hc : Readable content) (he : e.Writable) :
    entriesOf (appended content e.line) = entriesOf content ++ [e] ∧
      Readable (appended content e.line) := by
  rw [← Entry.lineEntries_line he]
  exact entriesOf_appended_line hc he.newline_notMem

end SshTunnel.TrustStore
