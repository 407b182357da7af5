import Mathlib.Data.List.Basic

/-
Runs of a labelled transition relation.
-/

namespace Circulusd.Trace

variable {State Label : Type} {step : State → Label → State → Prop}

/-- A run lists the labels of its steps from the first to the last. -/
inductive Run (step : State → Label → State → Prop) : State → List Label → State → Prop where
  | nil (state : State) : Run step state [] state
  | cons {first second last : State} {label : Label} {labels : List Label}
      (head : step first label second) (tail : Run step second labels last) :
      Run step first (label :: labels) last

theorem Run.append {first second last : State} {front back : List Label}
    (before : Run step first front second) (after : Run step second back last) :
    Run step first (front ++ back) last := by
  induction before with
  | nil => exact after
  | cons head _ ih => exact .cons head (ih after)

theorem Run.concat {first second last : State} {labels : List Label} {label : Label}
    (before : Run step first labels second) (final : step second label last) :
    Run step first (labels ++ [label]) last :=
  before.append (.cons final (.nil last))

theorem Run.split {first last : State} {front back : List Label} (run : Run step first (front ++ back) last) :
    ∃ middle, Run step first front middle ∧ Run step middle back last := by
  induction front generalizing first with
  | nil => exact ⟨first, .nil first, run⟩
  | cons label rest ih =>
    cases run with
    | cons head tail =>
      obtain ⟨middle, before, after⟩ := ih tail
      exact ⟨middle, .cons head before, after⟩

/-- A step of a run starts where the run of the labels before it ends. -/
theorem Run.at {first last : State} {past rest : List Label} {label : Label}
    (run : Run step first (past ++ label :: rest) last) :
    ∃ before after, Run step first past before ∧ step before label after ∧ Run step after rest last := by
  obtain ⟨before, front, back⟩ := run.split
  cases back with
  | cons head tail => exact ⟨before, _, front, head, tail⟩

/-- What holds at the start and survives every step holds after the run. -/
theorem Run.invariant {holds : State → Prop} {first last : State} {labels : List Label}
    (run : Run step first labels last) (initial : holds first)
    (preserved : ∀ before label after, step before label after → holds before → holds after) :
    holds last := by
  induction run with
  | nil => exact initial
  | cons head _ ih => exact ih (preserved _ _ _ head initial)

/-- A condition on all labels of a run is a condition on its steps. -/
theorem Run.restrict {allowed : Label → Prop} {first last : State} {labels : List Label}
    (run : Run step first labels last) (each : ∀ label ∈ labels, allowed label) :
    Run (fun before label after => step before label after ∧ allowed label) first labels last := by
  induction run with
  | nil state => exact .nil state
  | cons head _ ih =>
    obtain ⟨first, others⟩ := List.forall_mem_cons.mp each
    exact .cons ⟨head, first⟩ (ih others)

/-- An invariant may speak of the labels so far. -/
theorem Run.traceInvariant {holds : List Label → State → Prop} {first last : State} {labels : List Label}
    (run : Run step first labels last) (initial : holds [] first)
    (preserved : ∀ past before label after, step before label after → holds past before →
      holds (past ++ [label]) after) :
    holds labels last := by
  -- The past grows along the run, so the induction carries it as a parameter.
  have general : ∀ past, holds past first → holds (past ++ labels) last := by
    clear initial
    induction run with
    | nil =>
      intro past initial
      simpa using initial
    | cons head _ ih =>
      intro past initial
      simpa using ih (past ++ [_]) (preserved past _ _ _ head initial)
  simpa using general [] initial

/-- A property of single steps holds of every label when its guard is an invariant. -/
theorem Run.labels {holds : State → Prop} {allowed : Label → Prop} {first last : State} {labels : List Label}
    (run : Run step first labels last) (initial : holds first)
    (preserved : ∀ before label after, step before label after → holds before → holds after)
    (guarded : ∀ before label after, step before label after → holds before → allowed label) :
    ∀ label ∈ labels, allowed label := by
  induction run with
  | nil => simp
  | cons head _ ih =>
    intro label member
    rcases List.mem_cons.mp member with rfl | later
    · exact guarded _ _ _ head initial
    · exact ih (preserved _ _ _ head initial) label later

section Loops

variable {Result : Type} {body : State → State ⊕ Result}

/-- A loop comes to its result: each pass of the body gives the next state or the result. -/
inductive Returns (body : State → State ⊕ Result) : State → Result → Prop where
  | stop {state : State} {result : Result} (final : body state = .inr result) : Returns body state result
  | pass {state next : State} {result : Result} (head : body state = .inl next)
      (tail : Returns body next result) : Returns body state result

end Loops

end Circulusd.Trace
