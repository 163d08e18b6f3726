import Std.Data.String.ToInt
import LogSteward.Proofs.Retention.Keeping
import LogSteward.Retention.Format

/-!
# Which policies a change of settings rewrites

After a pass for one set of settings, a pass for another one rewrites exactly the policies whose
planned thresholds differ (`reconcile_again`).  Ages are written in decimal, so different windows
give different ages of deletion; and a category reads no window but its own
(`Category.window?`), so that a change of one window concerns the categories that read it alone.
-/

namespace LogSteward

/-! ### The window of a category -/

/-- The window that can be set under a key. -/
def RetentionWindows.get (w : RetentionWindows) : RetentionWindows.Key → Option Int64
  | .flows => w.flows
  | .dnsLogs => w.dnsLogs
  | .bgpLogs => w.bgpLogs
  | .auditReports => w.auditReports
  | .snapshots => w.snapshots
  | .complianceReports => w.complianceReports

/-- The key under which the window of a category can be set, for those that have one. -/
def Category.window? : Category → Option RetentionWindows.Key
  | .flows => some .flows
  | .dns => some .dnsLogs
  | .bgp => some .bgpLogs
  | .auditEe | .auditKube => some .auditReports
  | .snapshots => some .snapshots
  | .complianceReports => some .complianceReports
  | .l7 | .benchmarkResults | .events => none

/-- The days of a category are those of its window, or what they are if no window is set. -/
theorem RetentionWindows.days_eq (w : RetentionWindows) (c : Category) :
    w.days c = (c.window?.bind w.get).getD (days {} c) := by
  cases c <;> rfl

/-- The days of a category depend on nothing but its own window. -/
theorem RetentionWindows.days_congr {w w' : RetentionWindows} {c : Category}
    (h : ∀ k, c.window? = some k → w.get k = w'.get k) : w.days c = w'.days c := by
  rw [days_eq w, days_eq w']
  cases hc : c.window? with
  | none => rfl
  | some k => rw [Option.bind_some, Option.bind_some, h k hc]

/-! ### Ages as texts -/

/-- Different retentions are written differently. -/
theorem ageText_injective : Function.Injective ageText := by
  intro d d' h
  have h' : toString d.toInt = toString d'.toInt := (String.append_left_inj _).mp h
  exact Int64.toInt_inj.mp (Int.repr_injective h')

namespace Thresholds

/-- The planned thresholds of a category differ in the age of deletion where the days differ, never
in the closing, and in the age of rollover only where the days differ. -/
theorem differsAt_plan {total total' : UInt64} {c : Category} {days days' : Int64}
    {r : RolloverRule} :
    ((plan total c days r).DiffersAt (plan total' c days' r) .minAge ↔ days ≠ days') ∧
      ¬ (plan total c days r).DiffersAt (plan total' c days' r) .readOnly ∧
      ((plan total c days r).DiffersAt (plan total' c days' r) .maxAge → days ≠ days') := by
  refine ⟨?_, fun h => h rfl, fun h hd => h (by rw [plan, plan, hd])⟩
  exact ageText_injective.eq_iff.not

/-- In a store of a given size, the planned thresholds tell the days. -/
theorem plan_inj {total : UInt64} {c : Category} {days days' : Int64} {r : RolloverRule} :
    plan total c days r = plan total c days' r ↔ days = days' :=
  ⟨fun h => ageText_injective (congrArg minAge h), fun h => by rw [h]⟩

end Thresholds

namespace PolicyOutcome

/-- A policy that was reconciled calls for nothing under the same thresholds, and under others for
being replaced where these differ. -/
theorem dueFor_settled (e : PlannedPolicy) (stored : Option Policy) (t : Thresholds) :
    dueFor (e.settled stored) t
      = if e.thresholds = t then unchanged else updated (e.thresholds.differences t) := by
  have h := e.thresholds_settled stored
  cases hd : e.settled stored with
  | none => simp [hd] at h
  | some d =>
      have hd' : d.thresholds = e.thresholds := by simpa [hd] using h
      simp only [dueFor, hd']

end PolicyOutcome

/-- What a pass over a policy that was reconciled asks for. -/
theorem PlannedPolicy.calls_settled (e e' : PlannedPolicy) (stored : Option Policy) :
    e'.calls (e.settled stored)
      = .get e'.name ::
        if e.thresholds = e'.thresholds then [] else [.put e'.name e'.document] := by
  rw [calls, PolicyOutcome.dueFor_settled]
  split <;> rfl

/-! ### Two passes -/

/-- After a pass that has returned success, another one over the same plan that does so finds every
policy as planned, and only fetches. -/
theorem HonestStore.run_reconcile_again {σ : Type} {answer : (q : PolicyCall) → σ → q.Answer × σ}
    {held : σ → Category → Option Policy} (h : HonestStore answer held) {p : Plan}
    (hd : (p.entries.map PlannedPolicy.category).Nodup) {x₀ x₁ x₂ : σ}
    {os os' : List CategoryOutcome}
    (first : p.reconcile.run answer x₀ = (.ok os, x₁))
    (second : p.reconcile.run answer x₁ = (.ok os', x₂)) :
    os' = p.entries.map (fun e => ⟨e.category, .unchanged⟩) ∧
      p.reconcile.transcript answer x₁ = p.entries.map (fun e => .get e.name) := by
  rw [p.reconcile_eq_rest] at first second ⊢
  obtain ⟨-, -, hin, -⟩ := h.run_fetching hd first
  obtain ⟨ho, ht, -, -⟩ := h.run_fetching hd second
  refine ⟨?_, ?_⟩
  · rw [ho, List.nil_append]
    refine List.map_congr_left fun e he => ?_
    rw [hin e he, PolicyOutcome.dueFor_settled, if_pos rfl]
  · rw [ht, List.map_eq_flatMap]
    refine List.flatMap_congr fun e he => ?_
    rw [hin e he, PlannedPolicy.calls_settled, if_pos rfl]

/-- The policies that are put by the calls for the categories are those of the categories for which
there is one. -/
theorem put_mem_calls {stale : Category → Prop} [DecidablePred stale] {doc : Category → Policy}
    {c : Category} :
    (∃ d, PolicyCall.put c.policyName d ∈ Category.catalogue.flatMap fun c =>
        .get c.policyName :: if stale c then [] else [.put c.policyName (doc c)])
      ↔ ¬ stale c := by
  constructor
  · rintro ⟨d, hd⟩
    obtain ⟨c', -, hc'⟩ := List.mem_flatMap.mp hd
    by_cases h : stale c'
    · simp [h] at hc'
    · obtain ⟨hn, -⟩ : c.policyName = c'.policyName ∧ d = doc c' := by simpa [h] using hc'
      rwa [Category.policyName_injective hn]
  · intro h
    exact ⟨doc c, List.mem_flatMap.mpr ⟨c, Category.mem_catalogue c, by simp [h]⟩⟩

/-- **A change of settings.**  Over a store that keeps what is put, after a pass for the settings
`s` has returned success, a pass for `s'` that returns success leaves every policy whose planned
thresholds are the same, and replaces every other one with a single write, reporting the thresholds
that differ in their order.  The age of deletion is among them exactly if the days of the category
differ, the closing never, and the age of rollover only if the days differ.

If the sizes of the store are the same, the policies that are written are those of the categories
whose days differ.  A change of one window writes no policy but those of the categories that read
it, and the policies of L7 logs, benchmark results and events are not written. -/
theorem reconcile_again {σ : Type} {answer : (q : PolicyCall) → σ → q.Answer × σ}
    {held : σ → Category → Option Policy} (honest : HonestStore answer held)
    (s s' : StorageSettings) {x₀ x₁ x₂ : σ} {os os' : List CategoryOutcome}
    (first : (Plan.ofSettings s).reconcile.run answer x₀ = (.ok os, x₁))
    (second : (Plan.ofSettings s').reconcile.run answer x₁ = (.ok os', x₂)) :
    let before c := (Plan.planned s c).thresholds
    let after c := (Plan.planned s' c).thresholds
    let changed c := [.maxAge, .maxSize, .minAge, .readOnly].filter ((before c).DiffersAt (after c))
    let calls := (Plan.ofSettings s').reconcile.transcript answer x₁
    let written c := ∃ d, PolicyCall.put (Category.policyName c) d ∈ calls
    os' = Category.catalogue.map (fun c =>
        ⟨c, if before c = after c then .unchanged else .updated (changed c)⟩) ∧
      calls = Category.catalogue.flatMap (fun c => .get c.policyName ::
        if before c = after c then [] else [.put c.policyName (Policy.ofThresholds (after c))]) ∧
      (∀ c, .minAge ∈ changed c ↔ s.retention.days c ≠ s'.retention.days c) ∧
      (∀ c, .readOnly ∉ changed c) ∧
      (∀ c, .maxAge ∈ changed c → s.retention.days c ≠ s'.retention.days c) ∧
      (s.totalBytes = s'.totalBytes →
        (∀ c, written c ↔ s.retention.days c ≠ s'.retention.days c) ∧
        (∀ k, (∀ j, j ≠ k → s.retention.get j = s'.retention.get j) →
          ∀ c, written c → c.window? = some k) ∧
        ¬ written .l7 ∧ ¬ written .benchmarkResults ∧ ¬ written .events) := by
  intro before after changed calls written
  rw [Plan.reconcile_eq_rest] at first second
  obtain ⟨-, -, hin, -⟩ := honest.run_fetching (Plan.nodup_categories_ofSettings s) first
  obtain ⟨ho, ht, -, -⟩ := honest.run_fetching (Plan.nodup_categories_ofSettings s') second
  -- what the first pass leaves is what the second one finds
  have hheld : ∀ c, held x₁ c = (Plan.planned s c).settled (held x₀ c) := fun c =>
    hin (Plan.planned s c) (List.mem_map_of_mem (Category.mem_catalogue c))
  have hcalls : calls = Category.catalogue.flatMap (fun c => .get c.policyName ::
      if before c = after c then [] else [.put c.policyName (Policy.ofThresholds (after c))]) := by
    simp only [calls, Plan.reconcile_eq_rest]
    rw [ht, Plan.entries_ofSettings, List.flatMap_map]
    refine List.flatMap_congr fun c _ => ?_
    rw [show (Plan.planned s' c).category = c from rfl, hheld, PlannedPolicy.calls_settled]
    rfl
  have hdiff := fun c => @Thresholds.differsAt_plan s.totalBytes s'.totalBytes c
    (s.retention.days c) (s'.retention.days c) {}
  have hchanged : ∀ c f, f ∈ changed c ↔ (before c).DiffersAt (after c) f := fun c f =>
    Thresholds.mem_differences
  refine ⟨?_, hcalls, fun c => (hchanged c _).trans (hdiff c).1,
    fun c => mt (hchanged c _).mp (hdiff c).2.1, fun c h => (hdiff c).2.2 ((hchanged c _).mp h),
    fun htotal => ?_⟩
  · rw [ho, Plan.entries_ofSettings, List.map_map, List.nil_append]
    refine List.map_congr_left fun c _ => ?_
    simp only [Function.comp, show (Plan.planned s' c).category = c from rfl, hheld,
      PolicyOutcome.dueFor_settled]
    rfl
  · have hwritten : ∀ c, written c ↔ s.retention.days c ≠ s'.retention.days c := fun c => by
      have hsame : before c = after c ↔ s.retention.days c = s'.retention.days c := by
        simp only [before, after, Plan.planned, htotal, Thresholds.plan_inj]
      simp only [written, hcalls]
      exact put_mem_calls.trans hsame.not
    have hwindow : ∀ c, written c → ∃ k, c.window? = some k ∧
        s.retention.get k ≠ s'.retention.get k := fun c hw => by
      by_contra hno
      push Not at hno
      exact (hwritten c).mp hw (RetentionWindows.days_congr hno)
    refine ⟨hwritten, fun k hk c hw => ?_, fun hw => ?_, fun hw => ?_, fun hw => ?_⟩
    · obtain ⟨j, hj, hne⟩ := hwindow c hw
      by_cases hjk : j = k
      · rw [hj, hjk]
      · exact absurd (hk j hjk) hne
    all_goals
      obtain ⟨k, hk, -⟩ := hwindow _ hw
      cases hk

/-- Keeping flow logs for nine days, after all windows were open, writes the policy of flow logs
alone. -/
theorem reconcile_again_flows :
    ∃ os x₁ os' x₂,
      (Plan.ofSettings {}).reconcile.run PolicyShelf.answer {} = (.ok os, x₁) ∧
      (Plan.ofSettings { retention := { flows := some 9 } }).reconcile.run PolicyShelf.answer x₁
        = (.ok os', x₂) ∧
      ∀ c : Category, (∃ d, .put c.policyName d ∈
          (Plan.ofSettings { retention := { flows := some 9 } }).reconcile.transcript
            PolicyShelf.answer x₁) ↔ c = .flows := by
  obtain ⟨os, x₁, h₁⟩ := PolicyShelf.run_reconcile_ok (Plan.ofSettings {}) {}
  obtain ⟨os', x₂, h₂⟩ :=
    PolicyShelf.run_reconcile_ok (Plan.ofSettings { retention := { flows := some 9 } }) x₁
  refine ⟨os, x₁, os', x₂, h₁, h₂, fun c => ?_⟩
  obtain ⟨-, -, -, -, -, h⟩ := reconcile_again PolicyShelf.honest _ _ h₁ h₂
  refine ((h rfl).1 c).trans ?_
  cases c <;> decide

end LogSteward
