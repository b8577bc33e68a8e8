import Mathlib.Tactic.Common
import SshTunnel.Rule.RuleSet

/-!
Whatever is wrong with a rule, or with a set of rules, is a fault of the configuration; and so is a set of none.
-/

namespace SshTunnel

/-- Whenever it fails, it is with a failure of this kind. -/
def FailsAs {α : Type} (k : Failure.Kind) (r : Except Failure α) : Prop := ∀ f, r = .error f → f.kind = k

namespace FailsAs

variable {α β : Type} {k : Failure.Kind} {r : Except Failure α}

theorem ok (k : Failure.Kind) (a : α) : FailsAs k (.ok a) := by
  intro f h
  cases h

theorem error {f : Failure} (h : f.kind = k) : FailsAs k (.error f : Except Failure α) := by
  rintro _ ⟨rfl⟩
  exact h

theorem bind {next : α → Except Failure β} (hr : FailsAs k r) (hnext : ∀ a, FailsAs k (next a)) :
    FailsAs k (r >>= next) := by
  cases r with
  | error f => exact error (hr f rfl)
  | ok a => exact hnext a

theorem map (hr : FailsAs k r) (g : α → β) : FailsAs k (r.map g) := by
  cases r with
  | error f => exact error (hr f rfl)
  | ok a => exact ok k (g a)

/-- A row of steps fails as its steps do. -/
theorem mapM {step : α → Except Failure β} (hstep : ∀ a, FailsAs k (step a)) (as : List α) :
    FailsAs k (as.mapM step) := by
  induction as with
  | nil => exact ok k []
  | cons a as ih =>
    rw [List.mapM_cons]
    exact (hstep a).bind fun b => ih.bind fun bs => ok k (b :: bs)

end FailsAs

/-! ### Rules -/

theorem Rule.failsAs_parse (text defaultBind : String) : FailsAs .configuration (Rule.parse text defaultBind) := by
  unfold Rule.parse
  dsimp only
  split
  · exact .ok _ _
  · exact .error rfl

theorem Rule.failsAs_check (r : Rule) : FailsAs .configuration r.check := by
  unfold Rule.check
  split
  · exact .error rfl
  · exact .ok _ _

namespace RuleSet

theorem failsAs_checkAll (seen : List (String × UInt16)) (rs : List Rule) :
    FailsAs .configuration (checkAll seen rs) := by
  induction rs generalizing seen with
  | nil => exact .ok _ _
  | cons r rs ih =>
    unfold checkAll
    refine r.failsAs_check.bind fun _ => ?_
    split
    · exact ih seen
    · split
      · exact .error rfl
      · exact ih _

theorem failsAs_parse (texts : List String) (defaultBind : String) :
    FailsAs .configuration (parse texts defaultBind) := by
  unfold parse
  refine (FailsAs.mapM (fun t => Rule.failsAs_parse t defaultBind) texts).bind fun rs => ?_
  unfold ofList
  split
  · exact .error rfl
  · exact (failsAs_checkAll [] rs).map _

theorem ne_nil_of_ofList {rs : List Rule} {rules : RuleSet} (h : ofList rs = .ok rules) : rules.rules ≠ [] := by
  unfold ofList at h
  split at h
  · cases h
  · rename_i hne
    cases hcheck : checkAll [] rs with
    | error f => simp [hcheck, Except.map] at h
    | ok _ =>
      simp only [hcheck, Except.map, Except.ok.injEq] at h
      rw [← h]
      exact hne

theorem ne_nil_of_parse {texts : List String} {defaultBind : String} {rules : RuleSet}
    (h : parse texts defaultBind = .ok rules) : rules.rules ≠ [] := by
  unfold parse at h
  cases hmap : texts.mapM fun t => Rule.parse t defaultBind with
  | error f =>
    rw [hmap] at h
    cases h
  | ok rs =>
    rw [hmap] at h
    exact ne_nil_of_ofList h

end RuleSet

end SshTunnel
