import Mathlib.Data.List.Forall2
import SshTunnel.Rule.RuleSet

/-!
Which lists of rules make a set.  The check goes through the list once and keeps the addresses listened on so far;
what it accepts is said of the rules and of any two of them.
-/

namespace SshTunnel.RuleSet

/-- The two rules listen on one address: one port, which is not left to the system, and one bind address but for
the case of its letters. -/
structure Clash (r r' : Rule) : Prop where
  fixed : r.localPort ≠ 0
  port : r.localPort = r'.localPort
  bind : Text.lower r.bind = Text.lower r'.bind

/-- Every rule is good by itself, and no two of them clash. -/
structure Sound (rs : List Rule) : Prop where
  valid : ∀ r ∈ rs, r.check = .ok ()
  apart : rs.Pairwise fun r r' => ¬ Clash r r'

variable {r r' : Rule} {rs : List Rule} {seen : List (String × UInt16)} {k : String × UInt16}

theorem clash_iff (h : listenerKey r = some k) : Clash r r' ↔ listenerKey r' = some k := by
  unfold listenerKey at h ⊢
  split at h
  · cases h
  · rename_i hfixed
    obtain rfl := Option.some.inj h
    constructor
    · rintro ⟨-, hport, hbind⟩
      rw [if_neg (hport ▸ hfixed), hport, hbind]
    · intro h'
      split at h'
      · cases h'
      · obtain ⟨hbind, hport⟩ := Prod.mk.inj (Option.some.inj h')
        exact ⟨hfixed, hport.symm, hbind.symm⟩

theorem not_clash (h : listenerKey r = none) : ¬ Clash r r' := by
  rintro ⟨hfixed, -, -⟩
  simp [listenerKey, hfixed] at h

theorem Clash.symm (h : Clash r r') : Clash r' r := ⟨h.port ▸ h.fixed, h.port.symm, h.bind.symm⟩

/-- None of the rules listens on an address that was seen before. -/
def Unseen (seen : List (String × UInt16)) (rs : List Rule) : Prop :=
  ∀ r ∈ rs, ∀ k, listenerKey r = some k → k ∉ seen

theorem sound_cons : Sound (r :: rs) ↔ r.check = .ok () ∧ (∀ r' ∈ rs, ¬ Clash r r') ∧ Sound rs := by
  constructor
  · rintro ⟨hvalid, hapart⟩
    obtain ⟨hr, hrs⟩ := List.forall_mem_cons.1 hvalid
    obtain ⟨hclash, hrest⟩ := List.pairwise_cons.1 hapart
    exact ⟨hr, hclash, hrs, hrest⟩
  · rintro ⟨hr, hclash, hrs⟩
    exact ⟨List.forall_mem_cons.2 ⟨hr, hrs.valid⟩, List.pairwise_cons.2 ⟨hclash, hrs.apart⟩⟩

theorem unseen_cons : Unseen seen (r :: rs) ↔ (∀ k, listenerKey r = some k → k ∉ seen) ∧ Unseen seen rs :=
  List.forall_mem_cons

/-- An address is new to the rules that do not clash with the one that takes it. -/
theorem unseen_cons_seen (h : listenerKey r = some k) :
    Unseen (k :: seen) rs ↔ (∀ r' ∈ rs, ¬ Clash r r') ∧ Unseen seen rs := by
  constructor
  · intro hunseen
    refine ⟨fun r' hr' hclash => ?_, fun r' hr' k' hk' => ?_⟩
    · exact hunseen r' hr' k ((clash_iff h).1 hclash) List.mem_cons_self
    · exact fun hmem => hunseen r' hr' k' hk' (List.mem_cons_of_mem _ hmem)
  · rintro ⟨hclash, hunseen⟩ r' hr' k' hk' hmem
    rcases List.mem_cons.1 hmem with rfl | hmem
    · exact hclash r' hr' ((clash_iff h).2 hk')
    · exact hunseen r' hr' k' hk' hmem

theorem checkAll_of_check_error {f : Failure} (h : r.check = .error f) : checkAll seen (r :: rs) = .error f := by
  rw [checkAll, h]
  rfl

theorem checkAll_of_no_key (h : r.check = .ok ()) (hkey : listenerKey r = none) :
    checkAll seen (r :: rs) = checkAll seen rs := by
  rw [checkAll, h, hkey]
  rfl

theorem checkAll_of_key (h : r.check = .ok ()) (hkey : listenerKey r = some k) : checkAll seen (r :: rs) =
    if k ∈ seen then .error (.configuration ("duplicate local listener " ++ r.localAddr))
    else checkAll (k :: seen) rs := by
  rw [checkAll, h, hkey]
  rfl

/-- The rest of a list is accepted exactly if it is sound, and new to what was seen before it. -/
theorem checkAll_eq_ok_iff : checkAll seen rs = .ok () ↔ Sound rs ∧ Unseen seen rs := by
  induction rs generalizing seen with
  | nil => exact iff_of_true rfl ⟨⟨by simp, by simp⟩, by simp [Unseen]⟩
  | cons r rs ih =>
    rw [sound_cons, unseen_cons]
    cases hcheck : r.check with
    | error f =>
      rw [checkAll_of_check_error hcheck]
      exact iff_of_false (fun h => by cases h) fun h => by cases h.1.1
    | ok u =>
      -- a rule on a port that the system chooses has no key, and clashes with none
      cases hkey : listenerKey r with
      | none =>
        rw [checkAll_of_no_key hcheck hkey, ih]
        have hclash : ∀ r' ∈ rs, ¬ Clash r r' := fun _ _ => not_clash hkey
        exact ⟨fun h => ⟨⟨rfl, hclash, h.1⟩, by simp, h.2⟩, fun h => ⟨h.1.2.2, h.2.2⟩⟩
      | some k =>
        rw [checkAll_of_key hcheck hkey]
        split
        · rename_i hmem
          exact iff_of_false (fun h => by cases h) fun h => h.2.1 k rfl hmem
        · rename_i hmem
          have hnew : ∀ k', some k = some k' → k' ∉ seen := by simpa using hmem
          rw [ih, unseen_cons_seen hkey]
          exact ⟨fun h => ⟨⟨rfl, h.2.1, h.1⟩, hnew, h.2.2⟩, fun h => ⟨h.1.2.2, h.1.2.1, h.2.2⟩⟩

theorem ofList_eq_ok_iff {rules : RuleSet} : ofList rs = .ok rules ↔ rules.rules = rs ∧ rs ≠ [] ∧ Sound rs := by
  have hunseen : Unseen [] rs := by simp [Unseen]
  unfold ofList
  split
  · rename_i hnil
    exact iff_of_false (fun h => by cases h) fun h => h.2.1 hnil
  · rename_i hne
    have hsound : checkAll [] rs = .ok () ↔ Sound rs := by simp [checkAll_eq_ok_iff, hunseen]
    obtain ⟨rs'⟩ := rules
    cases hcheck : checkAll [] rs with
    | error f =>
      have hfalse : ¬ Sound rs := by simp [← hsound, hcheck]
      exact iff_of_false (fun h => by cases h) fun h => hfalse h.2.2
    | ok u =>
      have htrue : Sound rs := hsound.1 hcheck
      simp [Except.map, hne, htrue, eq_comm]

theorem mapM_eq_ok_iff {α β ε : Type} {f : α → Except ε β} {as : List α} {bs : List β} :
    as.mapM f = .ok bs ↔ List.Forall₂ (fun a b => f a = .ok b) as bs := by
  induction as generalizing bs with
  | nil => cases bs <;> simp [pure, Except.pure]
  | cons a as ih =>
    rw [List.mapM_cons, List.forall₂_cons_left_iff]
    cases ha : f a with
    | error e => exact iff_of_false (fun h => by cases h) fun ⟨b, _, hb, _⟩ => by cases hb
    | ok b =>
      change (as.mapM f >>= fun bs => pure (b :: bs)) = _ ↔ _
      cases has : as.mapM f with
      | error e =>
        have hnone : ∀ bs, ¬ List.Forall₂ (fun a b => f a = .ok b) as bs := by simp [← ih, has]
        exact iff_of_false (fun h => by cases h) fun ⟨_, bs', _, hbs', _⟩ => hnone bs' hbs'
      | ok bs' =>
        have hall : ∀ bs, List.Forall₂ (fun a b => f a = .ok b) as bs ↔ bs' = bs := by simp [← ih, has]
        change Except.ok (b :: bs') = _ ↔ _
        simp [hall, eq_comm]

theorem pairwise_iff_positions {R : Rule → Rule → Prop} (hsymm : ∀ r r', R r r' → R r' r) :
    rs.Pairwise R ↔ ∀ i j : Nat, i ≠ j → ∀ r r', rs[i]? = some r → rs[j]? = some r' → R r r' := by
  rw [List.pairwise_iff_getElem]
  constructor
  · intro h i j hne r r' hi hj
    obtain ⟨hi', rfl⟩ := List.getElem?_eq_some_iff.1 hi
    obtain ⟨hj', rfl⟩ := List.getElem?_eq_some_iff.1 hj
    rcases Nat.lt_or_gt_of_ne hne with hlt | hlt
    · exact h i j hi' hj' hlt
    · exact hsymm _ _ (h j i hj' hi' hlt)
  · intro h i j hi hj hlt
    exact h i j (Nat.ne_of_lt hlt) _ _ (List.getElem?_eq_getElem hi) (List.getElem?_eq_getElem hj)

/-- **Exactly the lists that are not empty, of rules that are good by themselves and of which no two clash, make a
set**, which keeps them in their order; and texts make a set exactly if each of them is read as a rule and these
rules make one. -/
theorem accepts_iff :
    (∀ (rs : List Rule) (rules : RuleSet), ofList rs = .ok rules ↔
      rules.rules = rs ∧ rs ≠ [] ∧ (∀ r ∈ rs, r.check = .ok ()) ∧
        ∀ i j : Nat, i ≠ j → ∀ r r', rs[i]? = some r → rs[j]? = some r' → ¬ Clash r r') ∧
    ∀ (texts : List String) (defaultBind : String) (rules : RuleSet), parse texts defaultBind = .ok rules ↔
      List.Forall₂ (fun text r => Rule.parse text defaultBind = .ok r) texts rules.rules ∧
        ofList rules.rules = .ok rules := by
  constructor
  · intro rs rules
    rw [ofList_eq_ok_iff, ← pairwise_iff_positions fun r r' h hclash => h hclash.symm]
    exact and_congr_right fun _ => and_congr_right fun _ => ⟨fun h => ⟨h.valid, h.apart⟩, fun h => ⟨h.1, h.2⟩⟩
  · intro texts defaultBind rules
    rw [← mapM_eq_ok_iff]
    unfold parse
    cases hmap : texts.mapM fun text => Rule.parse text defaultBind with
    | error f => exact iff_of_false (fun h => by cases h) fun h => by cases h.1
    | ok rs =>
      change ofList rs = .ok rules ↔ Except.ok rs = Except.ok rules.rules ∧ _
      constructor
      · intro h
        obtain rfl := (ofList_eq_ok_iff.1 h).1
        exact ⟨rfl, h⟩
      · rintro ⟨hrs, h⟩
        rwa [Except.ok.inj hrs]

end SshTunnel.RuleSet
