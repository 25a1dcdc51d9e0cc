import Mathlib.Data.List.Forall2

namespace GigListings.Except

/-! Steps that may fail, taken apart. -/

variable {ε α β : Type}

theorem bind_eq_ok {step : Except ε α} {next : α → Except ε β} {b : β} :
    (step >>= next) = .ok b ↔ ∃ a, step = .ok a ∧ next a = .ok b := by
  cases step with
  | error fault =>
      constructor
      · intro equation
        cases equation
      · rintro ⟨a, equation, -⟩
        cases equation
  | ok a =>
      constructor
      · intro equation
        exact ⟨a, rfl, equation⟩
      · rintro ⟨b, ⟨⟩, equation⟩
        exact equation

theorem map_eq_ok {step : Except ε α} {f : α → β} {b : β} :
    step.map f = .ok b ↔ ∃ a, step = .ok a ∧ f a = b := by
  cases step with
  | error fault => simp [Except.map]
  | ok a => simp [Except.map]

theorem mapM_eq_ok {f : α → Except ε β} {inputs : List α} {outputs : List β} :
    inputs.mapM f = .ok outputs ↔ List.Forall₂ (fun a b => f a = .ok b) inputs outputs := by
  induction inputs generalizing outputs with
  | nil =>
      rw [List.mapM_nil, List.forall₂_nil_left_iff]
      constructor
      · rintro ⟨⟩
        rfl
      · rintro rfl
        rfl
  | cons input rest induction =>
      rw [List.mapM_cons, List.forall₂_cons_left_iff, bind_eq_ok]
      constructor
      · rintro ⟨output, first, others⟩
        obtain ⟨laterOutputs, later, equation⟩ := bind_eq_ok.mp others
        cases equation
        exact ⟨output, laterOutputs, first, induction.mp later, rfl⟩
      · rintro ⟨output, laterOutputs, first, later, rfl⟩
        exact ⟨output, first, bind_eq_ok.mpr ⟨laterOutputs, induction.mpr later, rfl⟩⟩

theorem exists_mapM_forall₂ {f : α → Except ε β} {R : α → β → Prop} {inputs : List α}
    (each : ∀ a ∈ inputs, ∃ b, f a = .ok b ∧ R a b) :
    ∃ outputs, inputs.mapM f = .ok outputs ∧ List.Forall₂ R inputs outputs := by
  induction inputs with
  | nil => exact ⟨[], rfl, .nil⟩
  | cons input rest induction =>
      obtain ⟨output, first, related⟩ := each input List.mem_cons_self
      obtain ⟨outputs, others, allRelated⟩ :=
        induction fun a member => each a (List.mem_cons_of_mem _ member)
      exact ⟨output :: outputs, mapM_eq_ok.mpr (.cons first (mapM_eq_ok.mp others)),
        .cons related allRelated⟩

theorem exists_mapM {f : α → Except ε β} (inputs : List α) (each : ∀ a, ∃ b, f a = .ok b) :
    ∃ outputs, inputs.mapM f = .ok outputs := by
  have related : ∀ a ∈ inputs, ∃ b, f a = .ok b ∧ f a = .ok b := by
    intro a _
    obtain ⟨b, step⟩ := each a
    exact ⟨b, step, step⟩
  obtain ⟨outputs, pass, -⟩ := exists_mapM_forall₂ related
  exact ⟨outputs, pass⟩

theorem exists_of_mem_mapM {f : α → Except ε β} {inputs : List α} {outputs : List β}
    (pass : inputs.mapM f = .ok outputs) {output : β} (member : output ∈ outputs) :
    ∃ input ∈ inputs, f input = .ok output := by
  have steps := mapM_eq_ok.mp pass
  induction steps with
  | nil => cases member
  | cons first others induction =>
      rcases List.mem_cons.mp member with rfl | later
      · exact ⟨_, List.mem_cons_self, first⟩
      · obtain ⟨input, isInput, step⟩ := induction (mapM_eq_ok.mpr others) later
        exact ⟨input, List.mem_cons_of_mem _ isInput, step⟩

end GigListings.Except

namespace GigListings.Option

variable {α β : Type}

theorem mapM_eq_some {f : α → Option β} {inputs : List α} {outputs : List β} :
    inputs.mapM f = some outputs ↔ List.Forall₂ (fun a b => f a = some b) inputs outputs := by
  induction inputs generalizing outputs with
  | nil =>
      rw [List.mapM_nil, List.forall₂_nil_left_iff]
      exact ⟨fun same => (Option.some.inj same).symm, fun same => congrArg some same.symm⟩
  | cons input rest induction =>
      simp only [List.mapM_cons, List.forall₂_cons_left_iff, Option.bind_eq_bind,
        Option.bind_eq_some_iff, Option.pure_def, induction, Option.some.injEq]
      constructor
      · rintro ⟨output, first, others, later, rfl⟩
        exact ⟨output, others, first, later, rfl⟩
      · rintro ⟨output, others, first, later, rfl⟩
        exact ⟨output, first, others, later, rfl⟩

theorem exists_of_mem_mapM {f : α → Option β} {inputs : List α} {outputs : List β}
    (pass : inputs.mapM f = some outputs) {output : β} (member : output ∈ outputs) :
    ∃ input ∈ inputs, f input = some output := by
  have steps := mapM_eq_some.mp pass
  clear pass
  induction steps with
  | nil => cases member
  | cons first others induction =>
      rcases List.mem_cons.mp member with rfl | later
      · exact ⟨_, List.mem_cons_self, first⟩
      · obtain ⟨input, isInput, step⟩ := induction later
        exact ⟨input, List.mem_cons_of_mem _ isInput, step⟩

end GigListings.Option
