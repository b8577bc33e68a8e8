import Mathlib.Data.List.Nodup
import SshTunnel.Proofs.Json.Items

/-!
What the members of an object make of a record.  Each field takes the one value that stands under its name, wherever
it stands; where there is none, it stays as it was.  So neither the order of the members matters, nor what stands
under other names.
-/

namespace SshTunnel.Json

variable {α σ : Type} {v : Tree} {vs : List Tree} {ms : List (Option String × Tree)}

/-! ### Fields -/

/-- The value is of the type. -/
def Tree.Typed (Is : Tree → α → Prop) (v : Tree) : Prop := ∃ a, Is v a

/-- A field of a record: its name in a text, its type there, what it is if it is left out, how it is read, and where
the record keeps it.  `Will` says of the type itself, without what its values stand for, which values will do. -/
structure RecordField (σ : Type) where
  α : Type
  name : String
  Is : Tree → α → Prop
  default : α
  get : σ → α
  set : α → σ → σ
  read : Reader α
  reads : Reads read Is
  get_set : ∀ a x, get (set a x) = a
  Will : Tree → Prop
  will_iff : ∀ v, Will v ↔ Tree.Typed Is v

/-- A field of which every value of its type will do. -/
def RecordField.typed {Is : Tree → α → Prop} {read : Reader α} (name : String) (default : α) (reads : Reads read Is)
    (get : σ → α) (set : α → σ → σ) (get_set : ∀ a x, get (set a x) = a := by intros; rfl) : RecordField σ :=
  { α, name, Is, default, get, set, read, reads, get_set, Will := Tree.Typed Is, will_iff := fun _ => Iff.rfl }

def RecordField.member (f : RecordField σ) : Member σ := .of f.name f.read f.set

/-- The fields of a record, each by itself, and all of them; `start` is the record whose fields were all left out. -/
structure Complete (fs : List (RecordField σ)) (start : σ) : Prop where
  defaults : ∀ f ∈ fs, f.get start = f.default
  names : (fs.map RecordField.name).Nodup
  get_set_other : ∀ f ∈ fs, ∀ g ∈ fs, f.name ≠ g.name → ∀ a r, g.get (f.set a r) = g.get r
  ext : ∀ r r' : σ, (∀ f ∈ fs, f.get r = f.get r') → r = r'

/-- The values under a name. -/
def valuesOf (name : String) (ms : List (Option String × Tree)) : List Tree :=
  (ms.filter fun m => m.1 = some name).map Prod.snd

/-- What the values under a field's name come to: the default if there is none, or else the only one. -/
inductive Given (Is : Tree → α → Prop) (default : α) : List Tree → α → Prop
  | absent : Given Is default [] default
  | present {v : Tree} {a : α} (h : Is v a) : Given Is default [v] a

/-- At most one value, and one that will do. -/
structure Fits (Will : Tree → Prop) (vs : List Tree) : Prop where
  once : vs.length ≤ 1
  will : ∀ v ∈ vs, Will v

theorem valuesOf_cons_self (name : String) (v : Tree) (ms : List (Option String × Tree)) :
    valuesOf name ((some name, v) :: ms) = v :: valuesOf name ms := by
  simp [valuesOf]

theorem valuesOf_cons_ne {name : String} {k : Option String} (h : k ≠ some name) (v : Tree)
    (ms : List (Option String × Tree)) : valuesOf name ((k, v) :: ms) = valuesOf name ms := by
  simp [valuesOf, h]

theorem given_nil {Is : Tree → α → Prop} {default a : α} : Given Is default [] a ↔ a = default :=
  ⟨fun h => by cases h; rfl, fun h => h ▸ .absent⟩

theorem given_cons {Is : Tree → α → Prop} {default a : α} : Given Is default (v :: vs) a ↔ vs = [] ∧ Is v a :=
  ⟨fun h => by cases h; exact ⟨rfl, ‹_›⟩, fun ⟨hvs, h⟩ => hvs ▸ .present h⟩

theorem Given.fits {Is : Tree → α → Prop} {default a : α} (h : Given Is default vs a) : Fits (Tree.Typed Is) vs := by
  cases h with
  | absent => exact ⟨Nat.zero_le 1, by simp⟩
  | present h => exact ⟨Nat.le_refl 1, by simpa using ⟨a, h⟩⟩

theorem Fits.given {Is : Tree → α → Prop} (h : Fits (Tree.Typed Is) vs) (default : α) : ∃ a, Given Is default vs a := by
  obtain ⟨once, will⟩ := h
  match vs, once, will with
  | [], _, _ => exact ⟨default, .absent⟩
  | [v], _, will =>
    obtain ⟨a, h⟩ := will v List.mem_cons_self
    exact ⟨a, .present h⟩

/-! ### Records -/

/-- A record written as an array: its fields from the first one on, and no more than these. -/
inductive Lined : List (RecordField σ) → σ → List Tree → σ → Prop
  | done {fs : List (RecordField σ)} {x : σ} : Lined fs x [] x
  | next {f : RecordField σ} {fs : List (RecordField σ)} {x x' : σ} {v : Tree} {vs : List Tree} {a : f.α} (h : f.Is v a)
    (more : Lined fs (f.set a x) vs x') : Lined (f :: fs) x (v :: vs) x'

theorem lined_nil {fs : List (RecordField σ)} {x x' : σ} : Lined fs x [] x' ↔ x' = x :=
  ⟨fun h => by cases h; rfl, fun h => h ▸ .done⟩

/-- Members that make a record: each of its fields is given by what stands under its name, and every name says
something. -/
structure Makes (fs : List (RecordField σ)) (ms : List (Option String × Tree)) (x : σ) : Prop where
  named : none ∉ ms.map Prod.fst
  given : ∀ f ∈ fs, Given f.Is f.default (valuesOf f.name ms) (f.get x)

/-- A record, as an object or as an array; fields that the array does not reach are those of `start`. -/
def Tree.IsRecord (fs : List (RecordField σ)) (start : σ) : Tree → σ → Prop
  | .object ms, x => Makes fs ms x
  | .array vs, x => Lined fs start vs x
  | _, _ => False

/-- Members that make some record: each that is known is there at most once, with a value that will do. -/
structure Fitting (fs : List (RecordField σ)) (ms : List (Option String × Tree)) : Prop where
  named : none ∉ ms.map Prod.fst
  fits : ∀ f ∈ fs, Fits f.Will (valuesOf f.name ms)

def Tree.FitsRecord (fs : List (RecordField σ)) (start : σ) : Tree → Prop
  | .object ms => Fitting fs ms
  | .array vs => ∃ x, Lined fs start vs x
  | _ => False

variable {fs : List (RecordField σ)} {start x : σ}

theorem Complete.eq_of_name (h : Complete fs start) {f g : RecordField σ} (hf : f ∈ fs) (hg : g ∈ fs)
    (hname : g.name = f.name) : g = f :=
  List.inj_on_of_nodup_map h.names hg hf hname

/-- Values for some of the fields can be put into one record. -/
theorem Complete.exists_record (h : Complete fs start) {Will : (f : RecordField σ) → f.α → Prop}
    (hwill : ∀ f ∈ fs, ∃ a, Will f a) {gs : List (RecordField σ)} (hgs : gs.Sublist fs) :
    ∃ x, ∀ f ∈ gs, Will f (f.get x) := by
  induction gs with
  | nil => exact ⟨start, by simp⟩
  | cons g gs ih =>
    obtain ⟨x, hx⟩ := ih ((List.sublist_cons_self g gs).trans hgs)
    have hg := hgs.subset List.mem_cons_self
    obtain ⟨a, ha⟩ := hwill g hg
    have hnew := (List.nodup_cons.1 ((hgs.map RecordField.name).nodup h.names)).1
    refine ⟨g.set a x, List.forall_mem_cons.2 ⟨(g.get_set a x).symm ▸ ha, fun f hf => ?_⟩⟩
    have hne : g.name ≠ f.name := fun heq => hnew (heq ▸ List.mem_map_of_mem hf)
    rw [h.get_set_other g hg f (hgs.subset (List.mem_cons_of_mem _ hf)) hne]
    exact hx f hf

theorem exists_makes_iff (h : Complete fs start) : (∃ x, Makes fs ms x) ↔ Fitting fs ms := by
  have hwill : ∀ f : RecordField σ, f.Will = Tree.Typed f.Is := fun f => funext fun v => propext (f.will_iff v)
  constructor
  · rintro ⟨x, named, given⟩
    exact ⟨named, fun f hf => hwill f ▸ (given f hf).fits⟩
  · rintro ⟨named, fits⟩
    have hgiven : ∀ f ∈ fs, ∃ a, Given f.Is f.default (valuesOf f.name ms) a :=
      fun f hf => (hwill f ▸ fits f hf : Fits (Tree.Typed f.Is) _).given f.default
    obtain ⟨x, hx⟩ := h.exists_record hgiven (List.Sublist.refl fs)
    exact ⟨x, named, hx⟩

theorem fitsRecord_iff (h : Complete fs start) (v : Tree) :
    v.FitsRecord fs start ↔ Tree.Typed (Tree.IsRecord fs start) v := by
  cases v with
  | object ms => exact (exists_makes_iff h).symm
  | array vs => exact Iff.rfl
  | null | bool | nat | real | string => exact ⟨False.elim, fun ⟨_, h⟩ => h⟩

/-! ### Members that come to the same -/

theorem Given.perm {Is : Tree → α → Prop} {default a : α} {vs vs' : List Tree} (h : Given Is default vs a)
    (hperm : vs.Perm vs') : Given Is default vs' a := by
  cases h with
  | absent =>
    obtain rfl := hperm.nil_eq
    exact .absent
  | present h =>
    obtain rfl := List.perm_singleton.1 hperm.symm
    exact .present h

theorem Makes.perm {ms ms' : List (Option String × Tree)} (h : Makes fs ms x) (hperm : ms.Perm ms') :
    Makes fs ms' x where
  named hnone := h.named ((hperm.map Prod.fst).mem_iff.2 hnone)
  given f hf := (h.given f hf).perm ((hperm.filter _).map _)

end SshTunnel.Json
