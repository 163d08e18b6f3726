import Mathlib.Data.List.Nodup
import LogSteward.Retention.Shelf

/-!
# Policies that meet a plan

The stored policy of an entry *meets* the entry when its document sets the planned thresholds
(`PolicyShelf.Meets`); the documents may differ in all else.  Putting the document of an entry
makes its policy meet it, and leaves every policy of another name as it was.

The plan for storage settings has one entry for each category (`Plan.planned`), and categories
have different policy names.
-/

namespace LogSteward

namespace Category

theorem nodup_policyNames : (catalogue.map policyName).Nodup := by
  decide

/-- Different categories have different policies. -/
theorem policyName_injective : Function.Injective policyName := fun c d h =>
  List.inj_on_of_nodup_map nodup_policyNames (mem_catalogue c) (mem_catalogue d) h

end Category

namespace Plan

/-- What settings ask for in a category. -/
def planned (s : StorageSettings) (c : Category) : PlannedPolicy where
  category := c
  days := s.retention.days c
  thresholds := Thresholds.plan s.totalBytes c (s.retention.days c) {}

/-- Every category is planned for once. -/
theorem entries_ofSettings (s : StorageSettings) :
    (ofSettings s).entries = Category.catalogue.map (planned s) :=
  rfl

theorem nodup_categories_ofSettings (s : StorageSettings) :
    ((ofSettings s).entries.map PlannedPolicy.category).Nodup := by
  rw [entries_ofSettings, List.map_map]
  exact Category.nodup_catalogue

/-- Entries for the same name ask for the same thresholds. -/
def Unambiguous (p : Plan) : Prop :=
  ∀ e ∈ p.entries, ∀ e' ∈ p.entries, e.name = e'.name → e.thresholds = e'.thresholds

/-- No policy of a plan is planned for twice. -/
theorem unambiguous_ofSettings (s : StorageSettings) : (ofSettings s).Unambiguous := by
  intro e he e' he' h
  rw [entries_ofSettings] at he he'
  obtain ⟨c, -, rfl⟩ := List.mem_map.mp he
  obtain ⟨d, -, rfl⟩ := List.mem_map.mp he'
  obtain rfl : c = d := Category.policyName_injective h
  rfl

end Plan

namespace PolicyShelf

@[simp] theorem getElem?_insert_self (shelf : PolicyShelf) (n : String) (p : Policy) :
    (shelf.insert n p)[n]? = some p := by
  rw [Std.TreeMap.getElem?_insert]
  simp

theorem getElem?_insert_of_ne {n m : String} (h : n ≠ m) (shelf : PolicyShelf) (p : Policy) :
    (shelf.insert n p)[m]? = shelf[m]? := by
  rw [Std.TreeMap.getElem?_insert]
  simp [h]

/-- To put the policy of a category is to change that one among those of the categories. -/
theorem getElem?_insert_policyName (shelf : PolicyShelf) (c : Category) (p : Policy) :
    (fun d : Category => (shelf.insert c.policyName p)[d.policyName]?)
      = Function.update (fun d => shelf[d.policyName]?) c (some p) := by
  funext d
  by_cases hd : d = c
  · subst hd
    rw [Function.update_self, getElem?_insert_self]
  · have hne : c.policyName ≠ d.policyName := fun h => hd (Category.policyName_injective h).symm
    rw [Function.update_of_ne hd, getElem?_insert_of_ne hne]

/-- The stored policy of an entry sets the planned thresholds. -/
def Meets (shelf : PolicyShelf) (e : PlannedPolicy) : Prop :=
  shelf[e.name]?.map Policy.thresholds = some e.thresholds

instance (shelf : PolicyShelf) (e : PlannedPolicy) : Decidable (shelf.Meets e) :=
  inferInstanceAs (Decidable (_ = _))

/-- A policy that has just been written meets its entry. -/
theorem meets_insert (shelf : PolicyShelf) (e : PlannedPolicy) :
    Meets (shelf.insert e.name e.document) e := by
  simp [Meets, PlannedPolicy.document]

/-- A policy that meets its entry does so after the document of any entry is put that agrees with
it wherever the names are the same. -/
theorem Meets.insert {shelf : PolicyShelf} {e e' : PlannedPolicy} (h : shelf.Meets e)
    (agree : e'.name = e.name → e'.thresholds = e.thresholds) :
    Meets (shelf.insert e'.name e'.document) e := by
  by_cases hn : e'.name = e.name
  · simp [Meets, ← hn, PlannedPolicy.document, agree hn]
  · rwa [Meets, getElem?_insert_of_ne hn]

end PolicyShelf

end LogSteward
