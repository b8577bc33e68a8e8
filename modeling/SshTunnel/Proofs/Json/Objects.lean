import SshTunnel.Proofs.Json.Fields

/-!
What the readers of records accept: the objects whose members make a record, and arrays of its fields.
-/

namespace SshTunnel.Json

variable {α σ : Type} {s t r : List Char} {v : Tree} {vs : List Tree} {ms : List (Option String × Tree)}

/-! ### Members -/

/-- What is found where a member, or the end of its object, may stand. -/
inductive NextMember (first : Bool) (s : List Char) : List (Option String × Tree) → List Char → Prop
  | close {r : List Char} (next : nextMember first s = .ok (.close r)) : NextMember first s [] r
  | member {t t' u u' s' r : List Char} {ps : List Piece} {v : Tree} {ms : List (Option String × Tree)}
    (next : nextMember first s = .ok (.more t)) (name : Body t ps t') (colon : Gap t' (':' :: u)) (gap : Gap u u')
    (value : Value u' v s') (more : MoreMembers s' ms r) :
    NextMember first s (((said ps).map String.ofList, v) :: ms) r

theorem Gap.nextMember (first : Bool) (h : Gap s ('\x7d' :: r)) : NextMember first s [] r := by
  refine .close ?_
  simp [Json.nextMember, h.skipGap_eq (c := '\x7d') (by decide)]

theorem Members.nextMember (h : Members s ms r) : NextMember true s ms r := by
  cases h with
  | member quote name colon gap value more =>
    exact .member (by simp [Json.nextMember, quote.skipGap_eq (c := '"') (by decide)]) name colon gap value more

theorem MoreMembers.nextMember (h : MoreMembers s ms r) : NextMember false s ms r := by
  cases h with
  | close h => exact h.nextMember false
  | comma h members =>
    have hcomma := h.skipGap_eq (c := ',') (by decide)
    cases members with
    | member quote name colon gap value more =>
      refine .member ?_ name colon gap value more
      simp [Json.nextMember, hcomma, quote.skipGap_eq (c := '"') (by decide)]

theorem Gap.skipColon_eq (h : Gap s (':' :: t)) : skipColon s = .ok t := by
  simp [skipColon, h.skipGap_eq (c := ':') (by decide)]

/-- What one member does to a record: it sets its field, which must not have been met before; one that is not known
does nothing. -/
inductive Takes (fs : List (RecordField σ)) (seen : List String) (name : String) (v : Tree) (x : σ) : σ → Prop
  | unknown (h : ∀ f ∈ fs, f.name ≠ name) : Takes fs seen name v x x
  | known {f : RecordField σ} {a : f.α} (hf : f ∈ fs) (hname : f.name = name) (new : name ∉ seen) (h : f.Is v a) :
    Takes fs seen name v x (f.set a x)

section Steps

variable {fs : List (RecordField σ)} {fuel : Nat} {seen : List String} {x r₀ : σ} {u s' : List Char} {cs : List Char}

theorem find?_member (fs : List (RecordField σ)) (name : String) :
    ((fs.map RecordField.member).find? fun f => f.name = name) =
      (fs.find? fun f => f.name = name).map RecordField.member := by
  rw [List.find?_map]
  rfl

theorem readMembers_close (next : nextMember seen.isEmpty s = .ok (.close r)) :
    readMembers (fs.map RecordField.member) (fuel + 1) seen r₀ s = .ok (r₀, r) := by
  have hrequired : ¬ ((fs.map RecordField.member).any fun f => f.required && !seen.contains f.name) = true := by
    simp [RecordField.member, Member.of]
  rw [readMembers, next]
  simp only [if_neg hrequired]

theorem readMembers_nameless (next : nextMember seen.isEmpty s = .ok (.more t))
    (name : readText t = .error .malformed) :
    readMembers (fs.map RecordField.member) (fuel + 1) seen r₀ s = .error .malformed := by
  rw [readMembers, next]
  simp only [name]

theorem readMembers_unknown (next : nextMember seen.isEmpty s = .ok (.more t)) (name : readText t = .ok (cs, r))
    (unknown : (fs.find? fun f => f.name = String.ofList cs) = none) (colon : skipColon r = .ok u)
    (value : skip u = .ok s') :
    readMembers (fs.map RecordField.member) (fuel + 1) seen r₀ s =
      readMembers (fs.map RecordField.member) fuel (String.ofList cs :: seen) r₀ s' := by
  rw [readMembers, next]
  simp only [name, find?_member, unknown, Option.map_none, colon, value]

theorem readMembers_repeated {f : RecordField σ} (next : nextMember seen.isEmpty s = .ok (.more t))
    (name : readText t = .ok (cs, r)) (known : (fs.find? fun f => f.name = String.ofList cs) = some f)
    (again : String.ofList cs ∈ seen) :
    readMembers (fs.map RecordField.member) (fuel + 1) seen r₀ s = .error .unfit := by
  rw [readMembers, next]
  simp only [name, find?_member, known, Option.map_some]
  rw [if_pos (by simpa using again)]

theorem readMembers_known {f : RecordField σ} (next : nextMember seen.isEmpty s = .ok (.more t))
    (name : readText t = .ok (cs, r)) (known : (fs.find? fun f => f.name = String.ofList cs) = some f)
    (new : String.ofList cs ∉ seen) (colon : skipColon r = .ok u) {y : σ × List Char} :
    readMembers (fs.map RecordField.member) (fuel + 1) seen r₀ s = .ok y ↔
      ∃ a s', f.read u = .ok (a, s') ∧
        readMembers (fs.map RecordField.member) fuel (String.ofList cs :: seen) (f.set a r₀) s' = .ok y := by
  rw [readMembers, next]
  simp only [name, find?_member, known, Option.map_some, colon]
  rw [if_neg (by simpa using new)]
  rcases hread : f.read u with e | ⟨a, s'⟩
  · simp [RecordField.member, Member.of, hread, Except.map]
  · simp [RecordField.member, Member.of, hread, Except.map]

/-- One member is taken in, and the record goes on behind it. -/
theorem readMembers_member {start : σ} {t' u' : List Char} (h : Complete fs start)
    (next : nextMember seen.isEmpty s = .ok (.more t)) (name : readText t = .ok (cs, t')) (colon : Gap t' (':' :: u))
    (gap : Gap u u') (value : Value u' v s') (ended : Ended s') {y : σ × List Char} :
    readMembers (fs.map RecordField.member) (fuel + 1) seen r₀ s = .ok y ↔
      ∃ x, Takes fs seen (String.ofList cs) v r₀ x ∧
        readMembers (fs.map RecordField.member) fuel (String.ofList cs :: seen) x s' = .ok y := by
  -- the name is unknown, known and seen before, or known and new: the three cases of the reader
  cases hfind : fs.find? fun f => f.name = String.ofList cs with
  | none =>
    have hother : ∀ f ∈ fs, f.name ≠ String.ofList cs := by simpa using List.find?_eq_none.1 hfind
    rw [readMembers_unknown next name hfind colon.skipColon_eq (value.skip_eq gap ended)]
    constructor
    · exact fun hread => ⟨r₀, .unknown hother, hread⟩
    · rintro ⟨x, htakes, hread⟩
      cases htakes with
      | unknown => exact hread
      | known hf hname => exact absurd hname (hother _ hf)
  | some f =>
    have hf := List.mem_of_find?_eq_some hfind
    have hname : f.name = String.ofList cs := by simpa using List.find?_some hfind
    by_cases hseen : String.ofList cs ∈ seen
    · rw [readMembers_repeated next name hfind hseen]
      refine iff_of_false (by simp) ?_
      rintro ⟨x, htakes, -⟩
      cases htakes with
      | unknown hother => exact hother f hf hname
      | known _ _ new => exact new hseen
    · rw [readMembers_known next name hfind hseen colon.skipColon_eq]
      have hvalue := f.reads gap value ended
      constructor
      · rintro ⟨a, s₁, hread, hrest⟩
        obtain ⟨ha, rfl⟩ := (hvalue a s₁).1 hread
        exact ⟨_, .known hf hname hseen ha, hrest⟩
      · rintro ⟨x, htakes, hrest⟩
        cases htakes with
        | unknown hother => exact absurd hname (hother f hf)
        | known hg hname' _ ha =>
          -- no two fields have one name, so the field that takes the value is the one that was found
          obtain rfl := h.eq_of_name hf hg (hname'.trans hname.symm)
          exact ⟨_, s', (hvalue _ s').2 ⟨ha, rfl⟩, hrest⟩

end Steps

/-- What the members that are left make of a field: none may follow a value that stood under its name before. -/
def RecordField.Goes (f : RecordField σ) (seen : List String) (ms : List (Option String × Tree)) (x x' : σ) : Prop :=
  if f.name ∈ seen then valuesOf f.name ms = [] ∧ f.get x' = f.get x
  else Given f.Is (f.get x) (valuesOf f.name ms) (f.get x')

section Goes

variable {f : RecordField σ} {fs : List (RecordField σ)} {seen : List String} {start x x' : σ} {name : String}

theorem goes_nil : f.Goes seen [] x x' ↔ f.get x' = f.get x := by
  unfold RecordField.Goes
  split
  · exact and_iff_right rfl
  · exact given_nil

theorem goes_cons_self (new : f.name ∉ seen) :
    f.Goes seen ((some f.name, v) :: ms) x x' ↔ ∃ a, f.Is v a ∧ f.Goes (f.name :: seen) ms (f.set a x) x' := by
  rw [RecordField.Goes, if_neg new, valuesOf_cons_self, given_cons]
  simp only [RecordField.Goes, if_pos List.mem_cons_self, f.get_set]
  constructor
  · rintro ⟨hms, h⟩
    exact ⟨f.get x', h, hms, rfl⟩
  · rintro ⟨a, h, hms, rfl⟩
    exact ⟨hms, h⟩

theorem goes_cons_ne (h : f.name ≠ name) {y : σ} (hy : f.get y = f.get x) :
    f.Goes seen ((some name, v) :: ms) x x' ↔ f.Goes (name :: seen) ms y x' := by
  have hname : some name ≠ some f.name := fun heq => h (Option.some.inj heq).symm
  rw [RecordField.Goes, RecordField.Goes, valuesOf_cons_ne hname, hy]
  simp only [List.mem_cons, h, false_or]

theorem not_goes_again (again : f.name ∈ seen) : ¬ f.Goes seen ((some f.name, v) :: ms) x x' := by
  rw [RecordField.Goes, if_pos again, valuesOf_cons_self]
  simp

/-- A member that is known sets its field and leaves the others. -/
theorem forall_goes_known (h : Complete fs start) (hf : f ∈ fs) (new : f.name ∉ seen) :
    (∀ g ∈ fs, g.Goes seen ((some f.name, v) :: ms) x x') ↔
      ∃ a, f.Is v a ∧ ∀ g ∈ fs, g.Goes (f.name :: seen) ms (f.set a x) x' := by
  constructor
  · intro hall
    obtain ⟨a, ha, hself⟩ := (goes_cons_self new).1 (hall f hf)
    refine ⟨a, ha, fun g hg => ?_⟩
    by_cases hname : g.name = f.name
    · obtain rfl := h.eq_of_name hf hg hname
      exact hself
    · exact (goes_cons_ne hname (h.get_set_other f hf g hg (Ne.symm hname) a x)).1 (hall g hg)
  · rintro ⟨a, ha, hall⟩ g hg
    by_cases hname : g.name = f.name
    · obtain rfl := h.eq_of_name hf hg hname
      exact (goes_cons_self new).2 ⟨a, ha, hall g hg⟩
    · exact (goes_cons_ne hname (h.get_set_other f hf g hg (Ne.symm hname) a x)).2 (hall g hg)

/-- What the members make of the fields is what the first one does, and then the others. -/
theorem forall_goes_cons (h : Complete fs start) :
    (∀ f ∈ fs, f.Goes seen ((some name, v) :: ms) x x') ↔
      ∃ y, Takes fs seen name v x y ∧ ∀ f ∈ fs, f.Goes (name :: seen) ms y x' := by
  by_cases hknown : ∃ f ∈ fs, f.name = name
  · obtain ⟨f, hf, rfl⟩ := hknown
    by_cases hseen : f.name ∈ seen
    · -- a name that comes twice goes for no field, and nothing takes it in either
      refine iff_of_false (fun hall => not_goes_again hseen (hall f hf)) ?_
      rintro ⟨y, htakes, -⟩
      cases htakes with
      | unknown hother => exact hother f hf rfl
      | known _ _ new => exact new hseen
    · rw [forall_goes_known h hf hseen]
      constructor
      · rintro ⟨a, ha, hall⟩
        exact ⟨_, .known hf rfl hseen ha, hall⟩
      · rintro ⟨y, htakes, hall⟩
        cases htakes with
        | unknown hother => exact absurd rfl (hother f hf)
        | known hg hname _ ha =>
          obtain rfl := h.eq_of_name hf hg hname
          exact ⟨_, ha, hall⟩
  · have hother : ∀ f ∈ fs, f.name ≠ name := fun f hf hname => hknown ⟨f, hf, hname⟩
    constructor
    · intro hall
      exact ⟨x, .unknown hother, fun f hf => (goes_cons_ne (hother f hf) rfl).1 (hall f hf)⟩
    · rintro ⟨y, htakes, hall⟩ f hf
      cases htakes with
      | unknown => exact (goes_cons_ne (hother f hf) rfl).2 (hall f hf)
      | known hg hname => exact absurd hname (hother _ hg)

theorem readMembers_eq_ok (h : Complete fs start) (seen : List String) (x : σ) (hs : NextMember seen.isEmpty s ms r)
    {fuel : Nat} (hfuel : ms.length < fuel) (x' : σ) (r' : List Char) :
    readMembers (fs.map RecordField.member) fuel seen x s = .ok (x', r') ↔
      (none ∉ ms.map Prod.fst ∧ ∀ f ∈ fs, f.Goes seen ms x x') ∧ r' = r := by
  -- along the members; what was set before and what was left alone are both in `Goes`
  induction ms generalizing fuel seen s x with
  | nil =>
    cases hs with
    | close next =>
      obtain ⟨fuel, rfl⟩ := Nat.exists_eq_succ_of_ne_zero (Nat.ne_of_gt hfuel)
      rw [readMembers_close next]
      simp only [goes_nil, List.map_nil, List.not_mem_nil, not_false_eq_true, true_and]
      constructor
      · rintro heq
        cases heq
        exact ⟨fun _ _ => rfl, rfl⟩
      · rintro ⟨hall, rfl⟩
        rw [h.ext x' x hall]
  | cons m ms ih =>
    cases hs with
    | @member t t' u u' s' r ps v ms next name colon gap value more =>
      obtain ⟨fuel, rfl⟩ := Nat.exists_eq_succ_of_ne_zero (Nat.ne_of_gt (Nat.zero_lt_of_lt hfuel))
      have htext := name.readText_eq
      cases hsaid : said ps with
      | none =>
        rw [hsaid] at htext
        rw [readMembers_nameless next htext]
        simp
      | some cs =>
        rw [hsaid] at htext
        have hrest := fun y => ih (String.ofList cs :: seen) y more.nextMember (Nat.lt_of_succ_lt_succ hfuel)
        have hnames : (none ∉ (((some cs).map String.ofList, v) :: ms).map Prod.fst) ↔ none ∉ ms.map Prod.fst := by
          simp
        rw [readMembers_member h next htext colon gap value more.ended, hnames, Option.map_some, forall_goes_cons h]
        simp only [hrest]
        constructor
        · rintro ⟨y, htakes, ⟨hnone, hall⟩, hr⟩
          exact ⟨⟨hnone, y, htakes, hall⟩, hr⟩
        · rintro ⟨⟨hnone, y, htakes, hall⟩, hr⟩
          exact ⟨y, htakes, ⟨hnone, hall⟩, hr⟩

end Goes

/-! ### Records -/

/-- An array ends where its next element is looked for or where its end is. -/
theorem closeArray_eq_ok {first : Bool} : closeArray s = .ok r ↔ nextElement first s = .ok (.close r) := by
  unfold closeArray nextElement
  cases skipGap s with
  | nil => simp
  | cons c s =>
    by_cases hc : c = ']'
    · simp [hc]
    · simp only [if_neg hc, reduceCtorEq, false_iff]
      split
      · simp
      split
      · split
        · simp
        · split <;> simp
      · simp

theorem readPositional_item {f : RecordField σ} {fs : List (RecordField σ)} {first : Bool} {x : σ} {y : σ × List Char}
    (next : nextElement first s = .ok (.more t)) :
    readPositional ((f :: fs).map RecordField.member) first x s = .ok y ↔
      ∃ a s', f.read t = .ok (a, s') ∧ readPositional (fs.map RecordField.member) false (f.set a x) s' = .ok y := by
  rw [List.map_cons, readPositional, next]
  rcases hread : f.read t with e | ⟨a, s'⟩
  · simp [RecordField.member, Member.of, hread, Except.map]
  · simp [RecordField.member, Member.of, hread, Except.map]

theorem readPositional_close {fs : List (RecordField σ)} {first : Bool} {x : σ}
    (next : nextElement first s = .ok (.close r)) :
    readPositional (fs.map RecordField.member) first x s = .ok (x, r) := by
  cases fs with
  | nil =>
    rw [List.map_nil, readPositional, closeArray_eq_ok.2 next]
    rfl
  | cons f fs =>
    have hrequired : ¬ (((f :: fs).map RecordField.member).any Member.required) = true := by
      simp [RecordField.member, Member.of]
    rw [List.map_cons] at hrequired ⊢
    rw [readPositional, next]
    simp only [if_neg hrequired]

theorem readPositional_eq_ok (fs : List (RecordField σ)) {first : Bool} (hs : NextItem first s vs r) (x x' : σ)
    (r' : List Char) :
    readPositional (fs.map RecordField.member) first x s = .ok (x', r') ↔ Lined fs x vs x' ∧ r' = r := by
  -- on the elements; each uses up the first field that is left, whatever its name
  induction vs generalizing fs first s x with
  | nil =>
    cases hs with
    | close next =>
      rw [readPositional_close next, lined_nil]
      simp [eq_comm]
  | cons v vs ih =>
    cases hs with
    | @item t s' r v vs next value more =>
      cases fs with
      | nil =>
        -- an element more than there are fields: the reader wants the end of the array here
        constructor
        · intro heq
          rw [List.map_nil, readPositional] at heq
          cases hclose : closeArray s with
          | error e =>
            rw [hclose] at heq
            cases heq
          | ok rest =>
            rw [closeArray_eq_ok.1 hclose] at next
            cases next
        · rintro ⟨h, -⟩
          cases h
      | cons f fs =>
        rw [readPositional_item next]
        constructor
        · rintro ⟨a, s₁, hread, hrest⟩
          obtain ⟨ha, rfl⟩ := (f.reads (Gap.refl t) value more.ended a s₁).1 hread
          obtain ⟨hlined, rfl⟩ := (ih fs more.nextItem (f.set a x)).1 hrest
          exact ⟨.next ha hlined, rfl⟩
        · rintro ⟨hlined, rfl⟩
          cases hlined with
          | next ha hlined =>
            exact ⟨_, s', (f.reads (Gap.refl t) value more.ended _ s').2 ⟨ha, rfl⟩,
              (ih fs more.nextItem _).2 ⟨hlined, rfl⟩⟩

theorem reads_record {fs : List (RecordField σ)} {start : σ} (h : Complete fs start) :
    Reads (readRecord (fs.map RecordField.member) start) (Tree.IsRecord fs start) := by
  intro s t v r hs hv hr x r'
  have hskip := hv.skipGap_eq hs
  -- nothing has been seen yet, so what the members make of the fields is just what they give
  have hgoes : ∀ ms, (none ∉ ms.map Prod.fst ∧ ∀ f ∈ fs, f.Goes [] ms start x) ↔ Makes fs ms x := by
    intro ms
    have hgiven : (∀ f ∈ fs, f.Goes [] ms start x) ↔ ∀ f ∈ fs, Given f.Is f.default (valuesOf f.name ms) (f.get x) :=
      forall₂_congr fun f hf => by simp [RecordField.Goes, h.defaults f hf]
    rw [hgiven]
    exact ⟨fun ⟨named, given⟩ => ⟨named, given⟩, fun ⟨named, given⟩ => ⟨named, given⟩⟩
  cases hv with
  | @emptyObject s r hclose =>
    have hread := readMembers_eq_ok h [] start (hclose.nextMember true) (Nat.succ_pos s.length) x r'
    rw [hgoes] at hread
    simpa [readRecord, hskip, Tree.IsRecord] using hread
  | @object s r ms members =>
    have hlength := members.length_lt
    have hread := readMembers_eq_ok h [] start members.nextMember (by omega : ms.length < s.length + 1) x r'
    rw [hgoes] at hread
    simpa [readRecord, hskip, Tree.IsRecord] using hread
  | @emptyArray s r hclose =>
    have hread := readPositional_eq_ok fs (hclose.nextItem true) start x r'
    simpa [readRecord, hskip, Tree.IsRecord] using hread
  | @array s r vs items =>
    have hread := readPositional_eq_ok fs items.nextItem start x r'
    simpa [readRecord, hskip, Tree.IsRecord] using hread
  | number hv =>
    obtain ⟨c, t, rfl, hc⟩ := hv.exists_head
    have hbrace : c ≠ '\x7b' := not_mark_of_numeric hc (by decide) (by decide)
    have hbracket : c ≠ '[' := not_mark_of_numeric hc (by decide) (by decide)
    rw [List.cons_append] at hskip
    obtain ⟨n, rfl⟩ | rfl := hv.tree
    · simp [readRecord, hskip, hbrace, hbracket, Tree.IsRecord]
    · simp [readRecord, hskip, hbrace, hbracket, Tree.IsRecord]
  | null | yes | no | string h => simp [readRecord, hskip, Tree.IsRecord]

/-- A field that is a record itself. -/
def RecordField.record {ρ : Type} {fs : List (RecordField ρ)} {start : ρ} (name : String) (default : ρ)
    (h : Complete fs start) (get : σ → ρ) (set : ρ → σ → σ) (get_set : ∀ a x, get (set a x) = a := by intros; rfl) :
    RecordField σ where
  α := ρ
  name := name
  Is := Tree.IsRecord fs start
  default := default
  get := get
  set := set
  read := readRecord (fs.map RecordField.member) start
  reads := reads_record h
  get_set := get_set
  Will := Tree.FitsRecord fs start
  will_iff := fitsRecord_iff h

/-- A text of one value makes what the value stands for, and nothing else. -/
theorem readDocument_eq_ok {read : Reader α} {Is : Tree → α → Prop} (h : Reads read Is) {text : String}
    (ht : Document text.toList v) (a : α) : readDocument read text = .ok a ↔ Is v a := by
  obtain ⟨t, r, hgap, hv, hend⟩ := ht
  have hread := h hgap hv (hend.ended ended_nil)
  unfold readDocument
  constructor
  · intro hdocument
    rcases hx : read text.toList with e | ⟨b, rest⟩
    · rw [hx] at hdocument
      cases hdocument
    · obtain ⟨hb, rfl⟩ := (hread b rest).1 hx
      rw [hx] at hdocument
      simp only [hend.skipGap_eq_nil, if_pos] at hdocument
      cases hdocument
      exact hb
  · intro ha
    rw [(hread a r).2 ⟨ha, rfl⟩]
    simp [hend.skipGap_eq_nil]

end SshTunnel.Json
