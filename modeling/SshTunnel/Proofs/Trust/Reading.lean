import Mathlib.Data.List.Sort
import Mathlib.Tactic.Common
import SshTunnel.Proofs.Trust.Lookup
import SshTunnel.Proofs.Trust.File

/-!
The trust store and the text of its file.  A name may stand in many lines, and in many places of one line.  What
a store that was opened on the text holds under the name are the keys behind these places, from the first line
to the last one.
-/

namespace SshTunnel.TrustStore

open Text

/-! ### Places of a name -/

/-- A place where a name stands: the line and the name in it, both counted from zero, and the key that the line
ends with. -/
structure Mention where
  line : Nat
  nth : Nat
  key : String
deriving DecidableEq, Repr

/-- Lines come in the order of the file, names of one line in the order of the line. -/
def Mention.Before (a b : Mention) : Prop := a.line < b.line ∨ a.line = b.line ∧ a.nth < b.nth

instance (a b : Mention) : Decidable (a.Before b) := inferInstanceAs (Decidable (_ ∨ _))

/-- A line that counts, with the fields that it has at least. -/
structure Fields (line names keyType key : List Char) : Prop where
  notEmpty : trim line ≠ []
  noComment : (trim line).head? ≠ some '#'
  words : ∃ more, words (trim line) = names :: keyType :: key :: more

/-- The text has a name in this place.  Hashed names are none. -/
def Mentions (text name : String) (m : Mention) : Prop :=
  ∃ line names keyType n, (pieces (· = '\n') text.toList)[m.line]? = some line ∧
    Fields line names keyType m.key.toList ∧ (pieces (· = ',') names)[m.nth]? = some n ∧
    n.head? ≠ some '|' ∧ lower (String.ofList n) = name

/-- All places of a name in a text, in order. -/
structure Reads (text name : String) (ms : List Mention) : Prop where
  all : ∀ m, m ∈ ms ↔ Mentions text name m
  ordered : ms.Pairwise Mention.Before

instance : Std.Irrefl Mention.Before := ⟨fun a => by unfold Mention.Before; omega⟩

instance : Std.Antisymm Mention.Before := ⟨fun a b h h' => by unfold Mention.Before at h h'; omega⟩

/-- A text leaves no choice. -/
theorem Reads.unique {text name : String} {ms ms' : List Mention} (h : Reads text name ms)
    (h' : Reads text name ms') : ms = ms' := by
  refine List.Pairwise.eq_of_mem_iff h.ordered h'.ordered fun m => ?_
  rw [h.all, h'.all]

/-! ### Finding them -/

/-- The fields of a line that counts. -/
def fields? (line : List Char) : Option (List Char × List Char × List Char) :=
  if (trim line).head? = some '#' then none
  else match words (trim line) with
    | names :: keyType :: key :: _ => some (names, keyType, key)
    | _ => none

theorem fields?_eq_some {line names keyType key : List Char} :
    fields? line = some (names, keyType, key) ↔ Fields line names keyType key := by
  unfold fields?
  constructor
  · intro h
    split at h
    · cases h
    · rename_i hno
      split at h
      · rename_i hwords
        cases h
        refine ⟨fun hnil => ?_, hno, _, hwords⟩
        rw [hnil] at hwords
        cases hwords
      · cases h
  · rintro ⟨-, hno, more, hwords⟩
    rw [if_neg hno, hwords]

/-- The entries of a line by its fields. -/
theorem lineEntries_eq (line : List Char) : lineEntries line = match fields? line with
    | none => []
    | some (names, keyType, key) => ((pieces (· = ',') names).filter fun n => n.head? ≠ some '|').map fun n =>
        ⟨lower (String.ofList n), String.ofList keyType, String.ofList key⟩ := by
  cases hf : fields? line with
  | none =>
    unfold fields? at hf
    unfold lineEntries
    split
    · rfl
    · rename_i hno
      rw [if_neg fun h => (List.head?_eq_some_iff.1 h).elim hno] at hf
      split
      · rename_i hwords
        rw [hwords] at hf
        cases hf
      · rfl
  | some fs =>
    obtain ⟨-, hno, more, hwords⟩ := fields?_eq_some.1 hf
    unfold lineEntries
    split
    · rename_i htrim
      exact absurd (by rw [htrim]; rfl) hno
    · rw [hwords]

/-- The places of a name in a line with these fields. -/
def lineMentions (name : String) (line : Nat) : Option (List Char × List Char × List Char) → List Mention
  | none => []
  | some (names, _, key) =>
    ((pieces (· = ',') names).zipIdx.filter fun n =>
      n.1.head? ≠ some '|' ∧ lower (String.ofList n.1) = name).map fun n => ⟨line, n.2, String.ofList key⟩

/-- The places of a name in a text. -/
def mentions (text name : String) : List Mention :=
  (pieces (· = '\n') text.toList).zipIdx.flatMap fun l => lineMentions name l.2 (fields? l.1)

theorem mem_lineMentions {name : String} {i : Nat} {fs : Option (List Char × List Char × List Char)}
    {m : Mention} : m ∈ lineMentions name i fs ↔ m.line = i ∧ ∃ names keyType n,
      fs = some (names, keyType, m.key.toList) ∧ (pieces (· = ',') names)[m.nth]? = some n ∧
        n.head? ≠ some '|' ∧ lower (String.ofList n) = name := by
  obtain ⟨line, nth, key⟩ := m
  cases fs with
  | none => simp [lineMentions]
  | some fs =>
    obtain ⟨names, keyType, k⟩ := fs
    simp only [lineMentions, List.mem_map, List.mem_filter, decide_eq_true_eq, Prod.exists,
      List.mem_zipIdx_iff_getElem?, Mention.mk.injEq, Option.some.injEq, Prod.mk.injEq]
    constructor
    · rintro ⟨n, j, ⟨hn, hbar, hname⟩, rfl, rfl, rfl⟩
      exact ⟨rfl, names, keyType, n, ⟨rfl, rfl, by simp⟩, hn, hbar, hname⟩
    · rintro ⟨rfl, _, _, n, ⟨rfl, rfl, rfl⟩, hn, hbar, hname⟩
      exact ⟨n, nth, ⟨hn, hbar, hname⟩, rfl, rfl, by simp⟩

theorem mem_mentions {text name : String} {m : Mention} : m ∈ mentions text name ↔ Mentions text name m := by
  simp only [mentions, List.mem_flatMap, Prod.exists, List.mem_zipIdx_iff_getElem?, mem_lineMentions,
    fields?_eq_some]
  constructor
  · rintro ⟨line, i, hline, rfl, names, keyType, n, hfields, hrest⟩
    exact ⟨line, names, keyType, n, hline, hfields, hrest⟩
  · rintro ⟨line, names, keyType, n, hline, hfields, hrest⟩
    exact ⟨line, m.line, hline, rfl, names, keyType, n, hfields, hrest⟩

theorem pairwise_zipIdx {α : Type} (l : List α) : l.zipIdx.Pairwise fun a b => a.2 < b.2 := by
  rw [← List.pairwise_map (f := Prod.snd) (R := (· < ·)), List.zipIdx_map_snd]
  exact List.pairwise_lt_range'

theorem mentions_ordered (text name : String) : (mentions text name).Pairwise Mention.Before := by
  rw [mentions, List.pairwise_flatMap]
  constructor
  · -- within a line
    rintro ⟨line, i⟩ -
    cases fields? line with
    | none => exact List.Pairwise.nil
    | some fs =>
      rw [lineMentions, List.pairwise_map]
      refine ((pairwise_zipIdx _).filter _).imp fun hlt => ?_
      exact Or.inr ⟨rfl, hlt⟩
  · -- from line to line
    refine (pairwise_zipIdx _).imp fun hlt a ha b hb => ?_
    rw [(mem_lineMentions.1 ha).1.symm, (mem_lineMentions.1 hb).1.symm] at hlt
    exact Or.inl hlt

theorem reads_mentions (text name : String) : Reads text name (mentions text name) :=
  ⟨fun _ => mem_mentions, mentions_ordered text name⟩

/-! ### What the store holds -/

/-- What a line holds under a name are the keys behind the places of the name in it. -/
theorem lineEntries_keys (name : String) (i : Nat) (line : List Char) :
    ((lineEntries line).filter fun e => e.name = name).map Entry.key =
      (lineMentions name i (fields? line)).map Mention.key := by
  rw [lineEntries_eq]
  cases fields? line with
  | none => rfl
  | some fs =>
    obtain ⟨names, keyType, key⟩ := fs
    dsimp only [lineMentions]
    rw [List.filter_map, List.filter_filter, List.map_map, List.map_map]
    -- without their numbers these are the same names
    conv_lhs => rw [← List.zipIdx_map_fst 0 (pieces (· = ',') names), List.filter_map, List.map_map]
    refine congrArg (List.map fun _ => String.ofList key) (List.filter_congr fun n _ => ?_)
    simp [Bool.and_comm]

theorem lines_encode (text : String) :
    lines (encode text) = (pieces (· = '\n') text.toList).map String.ofList := by
  have hlines : ∀ ls : List (List Char),
      readableLines (ls.map fun l => encode (String.ofList l)) = ls.map String.ofList := by
    intro ls
    induction ls with
    | nil => rfl
    | cons l ls ih => simp only [List.map_cons, readableLines, decode?_encode, ih]
  have h := pieces_encode text.toList
  rw [String.ofList_toList] at h
  rw [lines, h, hlines]

theorem named_keys (text name : String) :
    ((ofPlace (.file (encode text))).named name).map Entry.key = (mentions text name).map Mention.key := by
  have hentries : (ofPlace (.file (encode text))).entries =
      (pieces (· = '\n') text.toList).flatMap lineEntries := by
    simp only [ofPlace, entriesAt, entriesOf, lines_encode, List.flatMap_map, String.toList_ofList]
  rw [named, hentries, List.filter_flatMap, List.map_flatMap, mentions, List.map_flatMap]
  conv_lhs => rw [← List.zipIdx_map_fst 0 (pieces (· = '\n') text.toList), List.flatMap_map]
  refine congrArg (List.flatMap · _) (funext fun l => ?_)
  exact lineEntries_keys name l.2 l.1

theorem filterMap_keys {es : List Entry} {ms : List Mention} (h : es.map Entry.key = ms.map Mention.key) :
    es.filterMap (fun e => PublicKey.ofBase64? e.key) = ms.filterMap fun m => PublicKey.ofBase64? m.key := by
  calc es.filterMap (fun e => PublicKey.ofBase64? e.key)
      = (es.map Entry.key).filterMap PublicKey.ofBase64? := by rw [List.filterMap_map]; rfl
    _ = (ms.map Mention.key).filterMap PublicKey.ofBase64? := by rw [h]
    _ = ms.filterMap fun m => PublicKey.ofBase64? m.key := by rw [List.filterMap_map]; rfl

/-- **The keys that a store trusts are read off the lines of its file.**  They stand behind the places of the own
name of host and port, from the first to the last; behind those of the bare host where the own name has no
place. -/
theorem trustedKeys_read (text host : String) (port : UInt16) (keys : List PublicKey) :
    (ofPlace (.file (encode text))).trustedKeys host port = keys ↔
      ∃ own bare, Reads text (nameOf host port) own ∧ Reads text (lower host) bare ∧
        keys = (if own = [] then bare else own).filterMap fun m => PublicKey.ofBase64? m.key := by
  have hkeys : (ofPlace (.file (encode text))).trustedKeys host port =
      (if mentions text (nameOf host port) = [] then mentions text (lower host)
        else mentions text (nameOf host port)).filterMap fun m => PublicKey.ofBase64? m.key := by
    rw [trustedKeys]
    by_cases hown : mentions text (nameOf host port) = []
    · have hnamed : (ofPlace (.file (encode text))).named (nameOf host port) = [] := by
        rw [← List.map_eq_nil_iff, named_keys, hown, List.map_nil]
      rw [if_pos hown, entriesFor, hnamed]
      exact filterMap_keys (named_keys text (lower host))
    · have hnamed : (ofPlace (.file (encode text))).named (nameOf host port) ≠ [] := by
        rw [ne_eq, ← List.map_eq_nil_iff (f := Entry.key), named_keys, List.map_eq_nil_iff]
        exact hown
      rw [if_neg hown, entriesFor_of_named hnamed]
      exact filterMap_keys (named_keys text (nameOf host port))
  constructor
  · rintro rfl
    exact ⟨_, _, reads_mentions text _, reads_mentions text _, hkeys⟩
  · rintro ⟨own, bare, hown, hbare, rfl⟩
    rw [hkeys, hown.unique (reads_mentions text _), hbare.unique (reads_mentions text _)]

/-- Comments and hashed names count for nothing, a name that comes twice counts twice. -/
example : mentions "# gw t a\n\tGW,|1|x,gw t b more\nother,gw t c" "gw" =
    [⟨1, 0, "b"⟩, ⟨1, 2, "b"⟩, ⟨2, 1, "c"⟩] := by
  decide +kernel

end SshTunnel.TrustStore
