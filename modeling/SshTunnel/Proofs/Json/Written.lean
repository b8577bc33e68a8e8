import SshTunnel.Proofs.Json.Grammar
import SshTunnel.Proofs.Json.Records

/-!
Whatever is written is derived by the grammar, and its tree is that of the value.
-/

namespace SshTunnel.Json

variable {s r : List Char} {ps : List Piece} {ms : List (Option String × Tree)}

mutual

def tree : Json → Tree
  | .null => .null
  | .bool b => .bool b
  | .nat n => .nat n
  | .string s => .string (some s)
  | .array vs => .array (trees vs)
  | .object ms => .object (memberTrees ms)

def trees : List Json → List Tree
  | [] => []
  | v :: vs => v.tree :: trees vs

def memberTrees : List (String × Json) → List (Option String × Tree)
  | [] => []
  | (k, v) :: ms => (some k, v.tree) :: memberTrees ms

end

/-! ### Strings -/

theorem body_charText (c : Char) (h : Body s ps r) :
    ∃ p, Body (charText c ++ s) (p :: ps) r ∧ said (p :: ps) = (said ps).map (c :: ·) := by
  obtain ⟨e, stands, htext⟩ | ⟨hcontrol, htext⟩ | ⟨hquote, hslash, hcontrol, htext⟩ := charText_cases c
  · rw [htext]
    exact ⟨.char c, .escape stands h, rfl⟩
  · obtain ⟨hlow, hhigh⟩ := not_half_of_control hcontrol
    rw [htext]
    refine ⟨.unit c.toNat, .unit (unit?_control hcontrol) h, ?_⟩
    rw [said.eq_def]
    simp [hlow, hhigh, Char.ofNat_toNat]
  · rw [htext]
    exact ⟨.char c, .plain hquote hslash (Nat.not_lt.1 hcontrol) h, rfl⟩

theorem body_flatMap (cs r : List Char) : ∃ ps, Body (cs.flatMap charText ++ '"' :: r) ps r ∧ said ps = some cs := by
  induction cs with
  | nil => exact ⟨[], .close, rfl⟩
  | cons c cs ih =>
    obtain ⟨ps, hbody, hsaid⟩ := ih
    obtain ⟨p, hbody', hsaid'⟩ := body_charText c hbody
    exact ⟨p :: ps, by simpa using hbody', by rw [hsaid', hsaid]; rfl⟩

theorem value_string (a : String) (r : List Char) : Value (stringText a ++ r) (.string (some a)) r := by
  obtain ⟨ps, hbody, hsaid⟩ := body_flatMap a.toList r
  have hvalue := Value.string hbody
  rw [hsaid, Option.map_some, String.ofList_toList] at hvalue
  rwa [stringText_append]

/-! ### Values -/

theorem members_cons (k : String) {v : Tree} {t s' : List Char} (value : Value t v s') (more : MoreMembers s' ms r) :
    Members (stringText k ++ ':' :: t) ((some k, v) :: ms) r := by
  obtain ⟨ps, hbody, hsaid⟩ := body_flatMap k.toList (':' :: t)
  have hmembers := Members.member (Gap.refl _) hbody (Gap.refl _) (Gap.refl _) value more
  rw [hsaid, Option.map_some, String.ofList_toList] at hmembers
  rwa [stringText_append]

mutual

theorem value_chars : ∀ (v : Json) (r : List Char), Value (v.chars ++ r) v.tree r
  | .null, _ => .null
  | .bool true, _ => .yes
  | .bool false, _ => .no
  | .nat n, _ => .number (.natural n)
  | .string s, r => value_string s r
  | .array [], _ => .emptyArray (Gap.refl _)
  | .array (v :: vs), r => by
    rw [chars, itemChars_cons, List.cons_append, List.append_assoc]
    exact .array (.item (Gap.refl _) (value_chars v _) (moreItems_itemsFrom vs r))
  | .object [], _ => .emptyObject (Gap.refl _)
  | .object ((k, v) :: ms), r => by
    rw [chars, memberChars_cons, List.cons_append, List.append_assoc, List.cons_append, List.append_assoc]
    exact .object (members_cons k (value_chars v _) (moreMembers_membersFrom ms r))

theorem moreItems_itemsFrom : ∀ (vs : List Json) (r : List Char), MoreItems (itemsFrom false vs ++ r) (trees vs) r
  | [], _ => .close (Gap.refl _)
  | v :: vs, r => by
    have hitems : itemsFrom false (v :: vs) = ',' :: itemChars (v :: vs) := rfl
    rw [hitems, itemChars_cons, List.cons_append, List.append_assoc]
    exact .comma (Gap.refl _) (.item (Gap.refl _) (value_chars v _) (moreItems_itemsFrom vs r))

theorem moreMembers_membersFrom : ∀ (ms : List (String × Json)) (r : List Char),
    MoreMembers (membersFrom false ms ++ r) (memberTrees ms) r
  | [], _ => .close (Gap.refl _)
  | (k, v) :: ms, r => by
    have hmembers : membersFrom false ((k, v) :: ms) = ',' :: memberChars ((k, v) :: ms) := rfl
    rw [hmembers, memberChars_cons, List.cons_append, List.append_assoc, List.cons_append, List.append_assoc]
    exact .comma (Gap.refl _) (members_cons k (value_chars v _) (moreMembers_membersFrom ms r))

end

/-- **The text of a value is a text of its tree.** -/
theorem document_text (v : Json) : Document v.text.toList v.tree := by
  have hvalue := value_chars v []
  rw [List.append_nil] at hvalue
  rw [text, String.toList_ofList]
  exact ⟨_, [], Gap.refl _, hvalue, Gap.refl _⟩

end SshTunnel.Json
