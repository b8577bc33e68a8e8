import Mathlib.Tactic.Common
import SshTunnel.Listener.Binding

/-!
Listening is for every rule or for none.  Either all listeners are open, each with its own rule, or the first
refusal has closed whatever was open and no later rule is tried.
-/

namespace SshTunnel.Listener

/-- The listeners are those of the rules, in their order, each at the address that the system gave when those
before it were open. -/
structure Opens (system : System) (rules : List Rule) (ls : List Listener) : Prop where
  length : ls.length = rules.length
  each : ∀ i l, ls[i]? = some l → l.index = i ∧ rules[i]? = some l.rule ∧ system (ls.take i) l.rule = .ok l.address

variable {system : System} {rules : List Rule} {ls : List Listener}

theorem opens_nil (system : System) : Opens system [] [] := ⟨rfl, by simp⟩

/-- One more rule is listened for. -/
theorem Opens.snoc {r : Rule} {a : Endpoint} (h : Opens system rules ls) (ha : system ls r = .ok a) :
    Opens system (rules ++ [r]) (ls ++ [⟨ls.length, r, a⟩]) := by
  refine ⟨by simp [h.length], ?_⟩
  intro i l hl
  by_cases hi : i < ls.length
  · rw [List.getElem?_append_left hi] at hl
    obtain ⟨hindex, hrule, haddr⟩ := h.each i l hl
    refine ⟨hindex, ?_, ?_⟩
    · rw [List.getElem?_append_left (by rw [← h.length]; exact hi)]
      exact hrule
    · rw [List.take_append_of_le_length (Nat.le_of_lt hi)]
      exact haddr
  · have hi : i = ls.length := by
      have hlt := (List.getElem?_eq_some_iff.1 hl).1
      rw [List.length_append, List.length_singleton] at hlt
      omega
    subst hi
    obtain rfl : (⟨ls.length, r, a⟩ : Listener) = l := by simpa using hl
    refine ⟨rfl, ?_, ?_⟩
    · simp [h.length]
    · simpa using ha

theorem Opens.map_rule (h : Opens system rules ls) : ls.map Listener.rule = rules := by
  refine List.ext_getElem? fun i => ?_
  rw [List.getElem?_map]
  cases hl : ls[i]? with
  | some l => exact (h.each i l hl).2.1.symm
  | none =>
    have hi : rules.length ≤ i := by
      rw [← h.length]
      exact List.getElem?_eq_none_iff.1 hl
    exact (List.getElem?_eq_none_iff.2 hi).symm

/-! ### What was done -/

/-- The rule that the system was asked about. -/
def Event.asked? : Event → Option Rule
  | .opened l => some l.rule
  | .refused r _ => some r
  | .closed _ => none

def tried (es : List Event) : List Rule := es.filterMap Event.asked?

/-- What is open after an event. -/
def Event.leaves (ls : List Listener) (e : Event) : List Listener :=
  match e with
  | .opened l => ls ++ [l]
  | .refused .. => ls
  | .closed l => ls.erase l

theorem openAfter_eq_foldl (es : List Event) : openAfter es = es.foldl Event.leaves [] := rfl

theorem foldl_opened (ls acc : List Listener) : (ls.map .opened).foldl Event.leaves acc = acc ++ ls := by
  induction ls generalizing acc with
  | nil => simp
  | cons l ls ih =>
    rw [List.map_cons, List.foldl_cons, ih, Event.leaves, List.append_assoc, List.singleton_append]

theorem foldl_closed (ls : List Listener) : (ls.map .closed).foldl Event.leaves ls = [] := by
  induction ls with
  | nil => rfl
  | cons l ls ih =>
    rw [List.map_cons, List.foldl_cons, Event.leaves, List.erase_cons_head]
    exact ih

theorem openAfter_opened (ls : List Listener) : openAfter (ls.map .opened) = ls := by
  rw [openAfter_eq_foldl, foldl_opened, List.nil_append]

/-- Whatever was open before a refusal is closed after it. -/
theorem openAfter_refused (ls : List Listener) (r : Rule) (e : SystemError) :
    openAfter (ls.map .opened ++ .refused r e :: ls.map .closed) = [] := by
  rw [openAfter_eq_foldl, List.foldl_append, foldl_opened, List.nil_append, List.foldl_cons, Event.leaves]
  exact foldl_closed ls

theorem tried_opened (ls : List Listener) : tried (ls.map .opened) = ls.map Listener.rule := by
  unfold tried
  rw [List.filterMap_map, ← List.filterMap_eq_map]
  rfl

theorem tried_closed (ls : List Listener) : tried (ls.map .closed) = [] := by
  unfold tried
  rw [List.filterMap_map, List.filterMap_eq_nil_iff]
  exact fun l _ => rfl

theorem tried_refused (ls : List Listener) (r : Rule) (e : SystemError) :
    tried (ls.map .opened ++ .refused r e :: ls.map .closed) = ls.map Listener.rule ++ [r] := by
  have hopened := tried_opened ls
  have hclosed := tried_closed ls
  have hasked : (Event.refused r e).asked? = some r := rfl
  unfold tried at hopened hclosed ⊢
  rw [List.filterMap_append, hopened, List.filterMap_cons_some hasked, hclosed]

/-! ### All or none -/

/-- What binding the rules comes to. -/
inductive Outcome (system : System) (rules : List Rule) (b : Binding) : Prop
  | all (ls : List Listener) (hopens : Opens system rules ls) (hresult : b.result = .ok ls)
      (hleft : openAfter b.trace = ls) (htried : tried b.trace = rules)
  | none (before after : List Rule) (r : Rule) (ls : List Listener) (e : SystemError)
      (hrules : rules = before ++ r :: after) (hopens : Opens system before ls) (hrefused : system ls r = .error e)
      (hresult : ∃ message, b.result = .error (.bindFailed r.localAddr e.reason message))
      (htrace : b.trace = ls.map .opened ++ .refused r e :: ls.map .closed)
      (hleft : openAfter b.trace = []) (htried : tried b.trace = before ++ [r])

/-- Binding the rules that are left, where those before them are listened for. -/
theorem bindFrom_cases : ∀ (rest : List Rule) {done : List Rule} {opened : List Listener}, Opens system done opened →
    (∃ ls, Opens system (done ++ rest) ls ∧ (bindFrom system opened rest).result = .ok ls ∧
      opened.map .opened ++ (bindFrom system opened rest).trace = ls.map .opened) ∨
    ∃ before after r ls e, rest = before ++ r :: after ∧ Opens system (done ++ before) ls ∧
      system ls r = .error e ∧ (bindFrom system opened rest).result = .error (.ofBind r.localAddr e) ∧
      opened.map .opened ++ (bindFrom system opened rest).trace =
        ls.map .opened ++ .refused r e :: ls.map .closed
  | [], done, opened, h => by
    left
    refine ⟨opened, ?_, rfl, ?_⟩
    · rw [List.append_nil]
      exact h
    · exact List.append_nil _
  | r :: rest, done, opened, h => by
    cases ha : system opened r with
    | error e =>
      right
      refine ⟨[], rest, r, opened, e, rfl, ?_, ha, ?_, ?_⟩
      · rw [List.append_nil]
        exact h
      · simp only [bindFrom, ha]
      · simp only [bindFrom, ha]
    | ok a =>
      have hmore := bindFrom_cases rest (h.snoc ha)
      rw [List.append_assoc, List.singleton_append, List.map_append, List.append_assoc] at hmore
      simp only [bindFrom, ha]
      rcases hmore with ⟨ls, hopens, hresult, htrace⟩ |
        ⟨before, after, r', ls, e, hrest, hopens, hrefused, hresult, htrace⟩
      · exact Or.inl ⟨ls, hopens, hresult, htrace⟩
      · right
        refine ⟨r :: before, after, r', ls, e, ?_, ?_, hrefused, hresult, htrace⟩
        · rw [hrest, List.cons_append]
        · rw [List.append_assoc, List.singleton_append] at hopens
          exact hopens

theorem bindAll_outcome (system : System) (s : RuleSet) : Outcome system s.rules (bindAll system s) := by
  have hcases := bindFrom_cases s.rules (opens_nil system)
  simp only [List.nil_append, List.map_nil] at hcases
  rcases hcases with ⟨ls, hopens, hresult, htrace⟩ | ⟨before, after, r, ls, e, hrules, hopens, hrefused, hresult, htrace⟩
  · refine .all ls hopens hresult ?_ ?_
    · rw [bindAll, htrace, openAfter_opened]
    · rw [bindAll, htrace, tried_opened, hopens.map_rule]
  · refine .none before after r ls e hrules hopens hrefused ⟨_, hresult⟩ htrace ?_ ?_
    · rw [bindAll, htrace, openAfter_refused]
    · rw [bindAll, htrace, tried_refused, hopens.map_rule]

/-- Listeners that were bound are those of the rules. -/
theorem opens_of_bindAll {s : RuleSet} (h : (bindAll system s).result = .ok ls) : Opens system s.rules ls := by
  cases bindAll_outcome system s with
  | all ls' hopens hresult =>
    rw [hresult] at h
    obtain rfl := Except.ok.inj h
    exact hopens
  | none before after r ls' e hrules hopens hrefused hresult =>
    obtain ⟨message, hresult⟩ := hresult
    rw [hresult] at h
    cases h

/-! ### Refusals -/

/-- The system refuses one of the rules when it is the turn of that rule. -/
def Refuses (system : System) (rules : List Rule) : Prop :=
  ∃ before after r ls e, rules = before ++ r :: after ∧ Opens system before ls ∧ system ls r = .error e

theorem Opens.take {before after : List Rule} (h : Opens system (before ++ after) ls) :
    Opens system before (ls.take before.length) := by
  have hlen : before.length ≤ ls.length := by
    rw [h.length, List.length_append]
    omega
  refine ⟨List.length_take_of_le hlen, fun i l hl => ?_⟩
  have hi : i < before.length := by
    have hlt := (List.getElem?_eq_some_iff.1 hl).1
    rw [List.length_take_of_le hlen] at hlt
    exact hlt
  rw [List.getElem?_take_of_lt hi] at hl
  obtain ⟨hindex, hrule, haddr⟩ := h.each i l hl
  refine ⟨hindex, ?_, ?_⟩
  · rw [List.getElem?_append_left hi] at hrule
    exact hrule
  · rw [List.take_take, Nat.min_eq_left (Nat.le_of_lt hi)]
    exact haddr

/-- The system leaves no choice of listeners. -/
theorem Opens.unique {ls' : List Listener} (h : Opens system rules ls) (h' : Opens system rules ls') : ls = ls' := by
  -- on how many there are: what the system answers depends on those before, which are the same
  have htake : ∀ n, ls.take n = ls'.take n := by
    intro n
    induction n with
    | zero => rfl
    | succ n ih =>
      rw [List.take_add_one, List.take_add_one, ih]
      congr 2
      cases hl : ls[n]? with
      | none =>
        have hn := List.getElem?_eq_none_iff.1 hl
        rw [h.length, ← h'.length] at hn
        exact (List.getElem?_eq_none_iff.2 hn).symm
      | some l =>
        obtain ⟨hindex, hrule, haddr⟩ := h.each n l hl
        have hn := (List.getElem?_eq_some_iff.1 hl).1
        rw [h.length, ← h'.length] at hn
        obtain ⟨hindex', hrule', haddr'⟩ := h'.each n _ (List.getElem?_eq_getElem hn)
        rw [hrule] at hrule'
        have hsame := Option.some.inj hrule'
        rw [← ih, ← hsame, haddr] at haddr'
        rw [List.getElem?_eq_getElem hn]
        congr 1
        cases l
        cases hm : ls'[n]
        simp_all
  have hall := htake (max ls.length ls'.length)
  rw [List.take_of_length_le (Nat.le_max_left ..), List.take_of_length_le (Nat.le_max_right ..)] at hall
  exact hall

theorem Refuses.not_opens (h : Refuses system rules) : ¬ Opens system rules ls := by
  obtain ⟨before, after, r, opened, e, rfl, hopened, hrefused⟩ := h
  intro hopens
  have hlt : before.length < ls.length := by
    rw [hopens.length, List.length_append, List.length_cons]
    omega
  obtain ⟨-, hrule, haddr⟩ := hopens.each before.length _ (List.getElem?_eq_getElem hlt)
  rw [List.getElem?_append_right (Nat.le_refl _), Nat.sub_self, List.getElem?_cons_zero] at hrule
  rw [← Option.some.inj hrule, hopens.take.unique hopened, hrefused] at haddr
  cases haddr

theorem error_of_refuses {s : RuleSet} (h : Refuses system s.rules) :
    ∃ f, (bindAll system s).result = .error f ∧ f.kind = .listenerBindFailure := by
  cases bindAll_outcome system s with
  | all ls hopens => exact absurd hopens h.not_opens
  | none before after r ls e hrules hopens hrefused hresult =>
    obtain ⟨message, hresult⟩ := hresult
    exact ⟨_, hresult, rfl⟩

theorem refuses_of_error {s : RuleSet} {f : Failure} (h : (bindAll system s).result = .error f) :
    Refuses system s.rules := by
  cases bindAll_outcome system s with
  | all ls hopens hresult =>
    rw [hresult] at h
    cases h
  | none before after r ls e hrules hopens hrefused => exact ⟨before, after, r, ls, e, hrules, hopens, hrefused⟩

end SshTunnel.Listener
