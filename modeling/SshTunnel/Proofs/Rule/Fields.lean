import Mathlib.Tactic.Common
import SshTunnel.Rule.Parser

/-!
How the reader of rules cuts a text into fields.  A bracket that opens at the start of a field hides colons up
to the next one that closes; both are dropped.  Every other bracket is an ordinary character, and what follows
a closing bracket still belongs to the field.
-/

namespace SshTunnel.Rule

/-! ### One field -/

/-- The text of a field and what the reader takes it for. -/
inductive Taken : List Char → List Char → Prop
  | bare {v : List Char} (unseparated : ':' ∉ v) (unopened : v.head? ≠ some '[') : Taken v v
  | bracketed {q p : List Char} (nonempty : q ≠ []) (unclosed : ']' ∉ q) (unseparated : ':' ∉ p) :
    Taken ('[' :: (q ++ ']' :: p)) (q ++ p)
  /-- After a pair of brackets with nothing in it the field has not begun yet. -/
  | hollow {t v : List Char} (rest : Taken t v) : Taken ('[' :: ']' :: t) v

/-- The fields of a text, empty ones included. -/
inductive Fields : List Char → List (List Char) → Prop
  | last {t v : List Char} (field : Taken t v) : Fields t [v]
  | cons {t v s : List Char} {vs : List (List Char)} (field : Taken t v) (rest : Fields s vs) :
    Fields (t ++ ':' :: s) (v :: vs)

variable {s t v : List Char} {vs : List (List Char)}

theorem Fields.ne_nil (h : Fields s vs) : vs ≠ [] := by
  cases h <;> simp

theorem fields_singleton_iff : Fields s [v] ↔ Taken s v := by
  constructor
  · intro h
    cases h with
    | last field => exact field
    | cons field rest => exact absurd rfl rest.ne_nil
  · exact .last

theorem fields_cons_cons_iff {w : List Char} :
    Fields s (v :: w :: vs) ↔ ∃ t s', s = t ++ ':' :: s' ∧ Taken t v ∧ Fields s' (w :: vs) := by
  constructor
  · intro h
    cases h with
    | cons field rest => exact ⟨_, _, rfl, field, rest⟩
  · rintro ⟨t, s', rfl, field, rest⟩
    exact .cons field rest

/-! ### The reader on a field -/

/-- Within brackets everything is taken as it is. -/
theorem foldl_next_inside {q : List Char} (h : ']' ∉ q) (ds : List (List Char)) (cur : List Char) :
    q.foldl Cut.next ⟨ds, cur, true⟩ = ⟨ds, q.reverse ++ cur, true⟩ := by
  induction q generalizing cur with
  | nil => rfl
  | cons c q ih =>
    obtain ⟨hc, hq⟩ := not_or.1 (mt List.mem_cons.2 h)
    have hnext : Cut.next ⟨ds, cur, true⟩ c = ⟨ds, c :: cur, true⟩ := by
      simp [Cut.next, Ne.symm hc]
    rw [List.foldl_cons, hnext, ih hq]
    simp

/-- Once a field has begun outside brackets, only a colon ends it. -/
theorem foldl_next_begun {p cur : List Char} (h : ':' ∉ p) (hcur : cur ≠ []) (ds : List (List Char)) :
    p.foldl Cut.next ⟨ds, cur, false⟩ = ⟨ds, p.reverse ++ cur, false⟩ := by
  induction p generalizing cur with
  | nil => rfl
  | cons c p ih =>
    obtain ⟨hc, hp⟩ := not_or.1 (mt List.mem_cons.2 h)
    have hnext : Cut.next ⟨ds, cur, false⟩ c = ⟨ds, c :: cur, false⟩ := by
      simp [Cut.next, Ne.symm hc, hcur]
    rw [List.foldl_cons, hnext, ih hp (by simp)]
    simp

theorem next_colon (ds : List (List Char)) (cur : List Char) :
    Cut.next ⟨ds, cur, false⟩ ':' = ⟨cur.reverse :: ds, [], false⟩ := by
  simp [Cut.next]

theorem next_open (ds : List (List Char)) : Cut.next ⟨ds, [], false⟩ '[' = ⟨ds, [], true⟩ := by
  simp [Cut.next]

theorem next_close (ds : List (List Char)) (cur : List Char) :
    Cut.next ⟨ds, cur, true⟩ ']' = ⟨ds, cur, false⟩ := by
  simp [Cut.next]

theorem Taken.foldl_next (h : Taken t v) (ds : List (List Char)) :
    t.foldl Cut.next ⟨ds, [], false⟩ = ⟨ds, v.reverse, false⟩ := by
  induction h with
  | @bare v unseparated unopened =>
    cases v with
    | nil => rfl
    | cons c v =>
      obtain ⟨hc, hv⟩ := not_or.1 (mt List.mem_cons.2 unseparated)
      have hnext : Cut.next ⟨ds, [], false⟩ c = ⟨ds, [c], false⟩ := by
        simp [Cut.next, Ne.symm hc, show c ≠ '[' by simpa using unopened]
      rw [List.foldl_cons, hnext, foldl_next_begun hv (by simp)]
      simp
  | @bracketed q p nonempty unclosed unseparated =>
    rw [List.foldl_cons, next_open, List.foldl_append, foldl_next_inside unclosed, List.foldl_cons,
      next_close, foldl_next_begun unseparated (by simpa using nonempty)]
    simp
  | hollow rest ih => rw [List.foldl_cons, next_open, List.foldl_cons, next_close, ih]

/-! ### The reader on a text -/

/-- The fields that a state comes to if the text ends here. -/
def Cut.all (k : Cut) : List (List Char) := (k.current.reverse :: k.done).reverse

theorem Fields.foldl_next (h : Fields s vs) (ds : List (List Char)) :
    (s.foldl Cut.next ⟨ds, [], false⟩).inside = false ∧
      (s.foldl Cut.next ⟨ds, [], false⟩).all = ds.reverse ++ vs := by
  induction h generalizing ds with
  | last field =>
    rw [field.foldl_next]
    simp [Cut.all]
  | @cons t v s vs field rest ih =>
    rw [List.foldl_append, field.foldl_next, List.foldl_cons, next_colon, List.reverse_reverse]
    simpa using ih (v :: ds)

theorem Fields.fields_eq (h : Fields s vs) :
    fields s = if vs.any List.isEmpty then .error .emptyField else .ok vs := by
  obtain ⟨hinside, hall⟩ := h.foldl_next []
  rw [List.reverse_nil, List.nil_append, Cut.all] at hall
  simp only [fields, hinside, hall, Bool.false_eq_true, if_false]

theorem Fields.unique {ws : List (List Char)} (h : Fields s vs) (h' : Fields s ws) : vs = ws := by
  have hall := (h.foldl_next []).2.symm.trans (h'.foldl_next []).2
  simpa using hall

/-! ### Every text -/

/-- The text is one field, or one field and more behind a colon. -/
def Begins (s : List Char) : Prop := (∃ v, Taken s v) ∨ ∃ t v s', Taken t v ∧ s = t ++ ':' :: s'

/-- A field that has begun outside brackets goes on to the first colon, if there is one. -/
theorem begins_of_begun {a b p : List Char}
    (h : ∀ p', p' <+: p → ':' ∉ p' → Taken (a ++ p') (b ++ p')) : Begins (a ++ p) := by
  by_cases hp : ':' ∈ p
  · obtain ⟨p', s, rfl, hp'⟩ := List.eq_append_cons_of_mem hp
    exact Or.inr ⟨_, _, s, h p' (List.prefix_append ..) hp', by simp⟩
  · exact Or.inl ⟨_, h p (List.prefix_refl p) hp⟩

theorem Begins.hollow (h : Begins s) : Begins ('[' :: ']' :: s) := by
  rcases h with ⟨v, hv⟩ | ⟨t, v, s', hv, rfl⟩
  · exact Or.inl ⟨v, hv.hollow⟩
  · exact Or.inr ⟨_, v, s', hv.hollow, rfl⟩

/-- A text begins with a field unless a bracket stays open in it. -/
theorem begins_or_inside (ds : List (List Char)) : ∀ s : List Char,
    Begins s ∨ (s.foldl Cut.next ⟨ds, [], false⟩).inside = true
  | [] => Or.inl (Or.inl ⟨[], .bare (by simp) (by simp)⟩)
  | c :: s => by
    by_cases hc : c = '['
    · subst hc
      -- the bracket is closed by the first one behind it; an empty pair leaves the text as it was
      by_cases hs : ']' ∈ s
      · obtain ⟨q, p, rfl, hq⟩ := List.eq_append_cons_of_mem hs
        cases q with
        | nil =>
          refine (begins_or_inside ds p).imp Begins.hollow fun h => ?_
          rwa [List.nil_append, List.foldl_cons, next_open, List.foldl_cons, next_close]
        | cons d q =>
          have h : Begins (('[' :: (d :: q ++ [']'])) ++ p) :=
            begins_of_begun (b := d :: q) fun p' _ hp' => by
              simpa using Taken.bracketed (List.cons_ne_nil d q) hq hp'
          exact Or.inl (by simpa using h)
      · rw [List.foldl_cons, next_open, foldl_next_inside hs]
        exact Or.inr rfl
    · refine Or.inl (begins_of_begun (a := []) (b := []) fun p' hp' hcolon => .bare hcolon ?_)
      cases p' with
      | nil => simp
      | cons d p' =>
        obtain rfl : d = c := by simpa using (List.cons_prefix_cons.1 hp').1
        simpa using hc
termination_by s => s.length

/-- Every text in which no bracket stays open has fields. -/
theorem exists_fields_or_inside (ds : List (List Char)) (s : List Char) :
    (∃ vs, Fields s vs) ∨ (s.foldl Cut.next ⟨ds, [], false⟩).inside = true := by
  rcases begins_or_inside ds s with (⟨v, hv⟩ | ⟨t, v, s', hv, rfl⟩) | hopen
  · exact Or.inl ⟨[v], .last hv⟩
  · rw [List.foldl_append, hv.foldl_next, List.foldl_cons, next_colon]
    exact (exists_fields_or_inside _ s').imp_left fun ⟨vs, hvs⟩ => ⟨v :: vs, .cons hv hvs⟩
  · exact Or.inr hopen
termination_by s.length
decreasing_by grind

/-- **The reader accepts the fields of a text**, provided that none of them is empty, and nothing else. -/
theorem fields_eq_ok_iff : fields s = .ok vs ↔ Fields s vs ∧ [] ∉ vs := by
  rcases exists_fields_or_inside [] s with ⟨ws, hws⟩ | hopen
  · rw [hws.fields_eq]
    constructor
    · intro h
      split at h
      · cases h
      · rename_i hne
        obtain rfl := Except.ok.inj h
        exact ⟨hws, by simpa using hne⟩
    · rintro ⟨hvs, hne⟩
      obtain rfl := hws.unique hvs
      rw [if_neg (by simpa using hne)]
  · refine iff_of_false (fun h => ?_) fun ⟨hvs, _⟩ => ?_
    · rw [fields, if_pos hopen] at h
      cases h
    · rw [(hvs.foldl_next []).1] at hopen
      cases hopen

end SshTunnel.Rule
