/-! Computations that may fail, and that keep what they did before they failed. What holds of each of
their steps holds of the whole run, if it holds of doing nothing and of one thing after another. -/
namespace ConfigGate

abbrev Computation (ε σ : Type) := ExceptT ε (StateM σ)

namespace Computation

variable {ε σ α β : Type} {R : σ → σ → Prop} {act : Computation ε σ α}

theorem run_bind (act : Computation ε σ α) (next : α → Computation ε σ β) (state : σ) :
    (act >>= next).run.run state =
      match act.run.run state with
      | (.ok a, state) => (next a).run.run state
      | (.error e, state) => (.error e, state) := by
  rw [ExceptT.run_bind]
  rw [StateT.run_bind]
  rcases act.run.run state with ⟨_ | _, _⟩ <;> rfl

/-- Every run leads to a state that is related to the first. -/
def Respects (R : σ → σ → Prop) (act : Computation ε σ α) : Prop :=
  ∀ state, R state (act.run.run state).2

theorem respects_pure [Std.Refl R] (a : α) : Respects R (pure a : Computation ε σ α) :=
  fun state => Std.Refl.refl state

theorem respects_throw [Std.Refl R] (e : ε) : Respects R (throw e : Computation ε σ α) :=
  fun state => Std.Refl.refl state

theorem respects_get [Std.Refl R] : Respects R (get : Computation ε σ σ) :=
  fun state => Std.Refl.refl state

theorem Respects.bind [Trans R R R] {next : α → Computation ε σ β} (h : Respects R act)
    (hNext : ∀ a, Respects R (next a)) : Respects R (act >>= next) := by
  intro state
  have hFirst := h state
  rw [run_bind]
  split
  · rename_i a middle hRun
    rw [hRun] at hFirst
    exact Trans.trans hFirst (hNext a middle)
  · rename_i e middle hRun
    rw [hRun] at hFirst
    exact hFirst

/-- What is added to a part of the state, which is a list, is of one kind. Nothing is taken away. -/
def Adds (view : σ → List β) (kind : β → Prop) (before after : σ) : Prop :=
  ∃ new, view after = view before ++ new ∧ ∀ item ∈ new, kind item

variable {view : σ → List β} {kind : β → Prop}

theorem adds_of_eq {before after : σ} (h : view after = view before) : Adds view kind before after :=
  ⟨[], by rw [h, List.append_nil], by simp⟩

instance : Std.Refl (Adds view kind) := ⟨fun _ => adds_of_eq rfl⟩

instance : Trans (Adds view kind) (Adds view kind) (Adds view kind) where
  trans := by
    rintro before middle after ⟨new, hNew, hKind⟩ ⟨more, hMore, hKind'⟩
    refine ⟨new ++ more, by rw [hMore, hNew, List.append_assoc], ?_⟩
    exact List.forall_mem_append.mpr ⟨hKind, hKind'⟩

end Computation

end ConfigGate
