import LogSteward.Proofs.Remote.Dialogue

/-!
# Giving up at the first failure

A dialogue that gives up at the first failure (`Stops`) fails exactly if a call has failed, whoever
answers and in whatever way (`Stops.run`).
-/

namespace LogSteward

namespace Dialogue

variable {Q R : Type} {A : Q → Type} {B : R → Type} {α β σ : Type}

/-- A dialogue has a good result if nothing fails, and as soon as something does, it ends with a bad
one. -/
def Stops (Fails : Turn A → Prop) (Good Bad : α → Prop) : Dialogue A α → Prop
  | done a => Good a
  | ask q next => ∀ r,
      (Fails ⟨q, r⟩ → ∃ a, next r = done a ∧ Bad a) ∧
      (¬ Fails ⟨q, r⟩ → (next r).Stops Fails Good Bad)

namespace Stops

variable {Fails : Turn A → Prop} {Good Bad : α → Prop} {d : Dialogue A α}

/-- What goes on after success and gives up after a failure stops where its parts do. -/
theorem andThen {Good' Bad' : β → Prop} {f : α → Dialogue A β} (h : d.Stops Fails Good Bad)
    (good : ∀ a, Good a → (f a).Stops Fails Good' Bad')
    (bad : ∀ a, Bad a → ∃ b, f a = done b ∧ Bad' b) : (d.andThen f).Stops Fails Good' Bad' := by
  induction d with
  | done a => exact good a h
  | ask q next ih =>
    refine fun r => ⟨fun fails => ?_, fun clear => ih r ((h r).2 clear)⟩
    obtain ⟨a, ends, ba⟩ := (h r).1 fails
    obtain ⟨b, ends', bb⟩ := bad a ba
    exact ⟨b, (congrArg (·.andThen f) ends).trans ends', bb⟩

/-- A run has a bad result if something has failed in it, and a good one otherwise. -/
theorem run (h : d.Stops Fails Good Bad) (answer : (q : Q) → σ → A q × σ) (s : σ) :
    (∃ t ∈ d.turns answer s, Fails t) ∧ Bad (d.run answer s).1 ∨
      (¬ ∃ t ∈ d.turns answer s, Fails t) ∧ Good (d.run answer s).1 := by
  induction d generalizing s with
  | done a =>
    refine .inr ⟨?_, h⟩
    rintro ⟨t, mem, -⟩
    cases mem
  | ask q next ih =>
    obtain ⟨stop, goOn⟩ := h (answer q s).1
    by_cases fails : Fails ⟨q, (answer q s).1⟩
    · obtain ⟨a, ends, bad⟩ := stop fails
      refine .inl ⟨⟨_, List.mem_cons_self, fails⟩, ?_⟩
      simp only [Dialogue.run, ends]
      exact bad
    · rcases ih _ (goOn fails) (answer q s).2 with ⟨⟨t, mem, ft⟩, bad⟩ | ⟨clear, good⟩
      · exact .inl ⟨⟨t, List.mem_cons_of_mem _ mem, ft⟩, bad⟩
      · refine .inr ⟨?_, good⟩
        rintro ⟨t, mem, ft⟩
        rcases List.mem_cons.mp mem with rfl | mem
        · exact fails ft
        · exact clear ⟨t, mem, ft⟩

/-- The same of a dialogue that is carried out in terms of other questions: what fails is still what
the dialogue itself asks. -/
theorem run_interpret (h : d.Stops Fails Good Bad) (put : (q : Q) → Dialogue B (A q))
    (answer : (r : R) → σ → B r × σ) (s : σ) :
    (∃ t ∈ d.turns (fun q s => (put q).run answer s) s, Fails t) ∧
        Bad ((d.interpret put).run answer s).1 ∨
      (¬ ∃ t ∈ d.turns (fun q s => (put q).run answer s) s, Fails t) ∧
        Good ((d.interpret put).run answer s).1 := by
  rw [Dialogue.run_interpret]
  exact h.run _ s

end Stops

end Dialogue

end LogSteward
