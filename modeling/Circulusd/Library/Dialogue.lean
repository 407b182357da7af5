import Mathlib.Tactic

/-
Programs that ask their environment, and what holds of every question and of the result, whatever the
answers are.
-/

namespace Circulusd.Dialogue

/-- A program is done, or it asks a question and goes on with the answer. -/
inductive Program (Question : Type) (Answer : Question → Type) (Result : Type) where
  | done (result : Result)
  | ask (question : Question) (next : Answer question → Program Question Answer Result)

variable {Question : Type} {Answer : Question → Type} {State Failure Result Next : Type}

/-- A question and its answer. -/
abbrev Exchange (Answer : Question → Type) := (question : Question) × Answer question

section Programs

def Program.bind (program : Program Question Answer Result) (next : Result → Program Question Answer Next) :
    Program Question Answer Next :=
  match program with
  | .done result => next result
  | .ask question rest => .ask question fun answer => (rest answer).bind next

/-- Every question meets the guard and the result meets the condition, for the exchanges so far. -/
def Program.Holds (guard : List (Exchange Answer) → Question → Prop)
    (condition : List (Exchange Answer) → Result → Prop) :
    Program Question Answer Result → List (Exchange Answer) → Prop
  | .done result, past => condition past result
  | .ask question next, past =>
    guard past question ∧ ∀ answer, (next answer).Holds guard condition (past ++ [⟨question, answer⟩])

variable {guard : List (Exchange Answer) → Question → Prop} {past : List (Exchange Answer)}

theorem Program.holds_bind {condition : List (Exchange Answer) → Next → Prop}
    (program : Program Question Answer Result) (next : Result → Program Question Answer Next) :
    (program.bind next).Holds guard condition past ↔
      program.Holds guard (fun past result => (next result).Holds guard condition past) past := by
  induction program generalizing past with
  | done result => rfl
  | ask question rest ih =>
    simp only [Program.bind, Program.Holds]
    exact and_congr Iff.rfl (forall_congr' fun answer => ih answer)

theorem Program.Holds.mono {condition other : List (Exchange Answer) → Result → Prop}
    {program : Program Question Answer Result} (holds : program.Holds guard condition past)
    (implies : ∀ later result, condition later result → other later result) : program.Holds guard other past := by
  induction program generalizing past with
  | done result => exact implies past result holds
  | ask question rest ih => exact ⟨holds.1, fun answer => ih answer (holds.2 answer)⟩

/-- The rest of a program after these exchanges, if they are its own. -/
def Program.resume [DecidableEq Question] (program : Program Question Answer Result) :
    List (Exchange Answer) → Option (Program Question Answer Result)
  | [] => some program
  | exchange :: rest =>
    match program with
    | .done _ => none
    | .ask question next => if same : exchange.1 = question then (next (same ▸ exchange.2)).resume rest else none

def Program.result? : Program Question Answer Result → Option Result
  | .done result => some result
  | .ask .. => none

theorem Program.result?_eq_some {program : Program Question Answer Result} {result : Result}
    (done : program.result? = some result) : program = .done result := by
  cases program with
  | done other => rw [Option.some.inj done]
  | ask => contradiction

end Programs

section Scripts

/-- A program with a state that may fail; a failure keeps the state. -/
def Script (Question : Type) (Answer : Question → Type) (State Failure Result : Type) :=
  State → Program Question Answer (Except Failure Result × State)

namespace Script

instance : Monad (Script Question Answer State Failure) where
  pure result state := .done (.ok result, state)
  bind script next state := (script state).bind fun
    | (.ok result, state) => next result state
    | (.error failure, state) => .done (.error failure, state)

def fail (failure : Failure) : Script Question Answer State Failure Result :=
  fun state => .done (.error failure, state)

def ask (question : Question) : Script Question Answer State Failure (Answer question) :=
  fun state => .ask question fun answer => .done (.ok answer, state)

def get : Script Question Answer State Failure State :=
  fun state => .done (.ok state, state)

def modify (change : State → State) : Script Question Answer State Failure Unit :=
  fun state => .done (.ok (), change state)

def refuseIf (condition : Prop) [Decidable condition] (failure : Failure) : Script Question Answer State Failure Unit :=
  if condition then fail failure else pure ()

/-- The failure of a script as a value. -/
def attempt (script : Script Question Answer State Failure Result) :
    Script Question Answer State Failure (Except Failure Result) :=
  fun state => (script state).bind fun (result, state) => .done (.ok result, state)

/-- The condition holds of the result and the state of a script. -/
def Holds (guard : List (Exchange Answer) → Question → Prop)
    (condition : List (Exchange Answer) → Except Failure Result → State → Prop)
    (script : Script Question Answer State Failure Result) (state : State) (past : List (Exchange Answer)) : Prop :=
  (script state).Holds guard (fun past outcome => condition past outcome.1 outcome.2) past

variable {guard : List (Exchange Answer) → Question → Prop}
  {condition : List (Exchange Answer) → Except Failure Result → State → Prop} {state : State}
  {past : List (Exchange Answer)}

theorem Holds.mono {other : List (Exchange Answer) → Except Failure Result → State → Prop}
    {script : Script Question Answer State Failure Result} (holds : script.Holds guard condition state past)
    (implies : ∀ later result state, condition later result state → other later result state) :
    script.Holds guard other state past :=
  Program.Holds.mono holds fun later outcome => implies later outcome.1 outcome.2

@[simp]
theorem holds_pure (result : Result) :
    Holds guard condition (pure result) state past ↔ condition past (.ok result) state :=
  Iff.rfl

@[simp]
theorem holds_fail (failure : Failure) :
    Holds guard condition (fail failure) state past ↔ condition past (.error failure) state :=
  Iff.rfl

@[simp]
theorem holds_refuseIf {condition : List (Exchange Answer) → Except Failure Unit → State → Prop}
    (refused : Prop) [Decidable refused] (failure : Failure) :
    Holds guard condition (refuseIf refused failure) state past ↔
      (refused → condition past (.error failure) state) ∧ (¬ refused → condition past (.ok ()) state) := by
  unfold refuseIf
  split <;> simp [*]

/-- A sequence goes on after its first part, or fails with it. -/
@[simp]
theorem holds_bind {condition : List (Exchange Answer) → Except Failure Next → State → Prop}
    (script : Script Question Answer State Failure Result) (next : Result → Script Question Answer State Failure Next) :
    Holds guard condition (script >>= next) state past ↔ script.Holds guard (fun past outcome state =>
        match outcome with
        | .ok result => (next result).Holds guard condition state past
        | .error failure => condition past (.error failure) state) state past := by
  refine (Program.holds_bind _ _).trans (iff_of_eq ?_)
  unfold Holds
  congr
  funext past outcome
  obtain ⟨outcome, state⟩ := outcome
  cases outcome <;> rfl

section Sequences

variable {condition : List (Exchange Answer) → Except Failure Next → State → Prop}

theorem ask_then {question : Question} {next : Answer question → Script Question Answer State Failure Next}
    (asked : guard past question)
    (passed : ∀ answer, (next answer).Holds guard condition state (past ++ [⟨question, answer⟩])) :
    Holds guard condition (ask question >>= next) state past :=
  (holds_bind _ _).mpr ⟨asked, passed⟩

theorem refuseIf_then {refused : Prop} [Decidable refused] {failure : Failure}
    {next : Unit → Script Question Answer State Failure Next} (failed : condition past (.error failure) state)
    (passed : ¬ refused → (next ()).Holds guard condition state past) :
    Holds guard condition (refuseIf refused failure >>= next) state past := by
  rw [holds_bind, holds_refuseIf]
  exact ⟨fun _ => failed, passed⟩

theorem get_then {next : State → Script Question Answer State Failure Next}
    (passed : (next state).Holds guard condition state past) : Holds guard condition (get >>= next) state past :=
  (holds_bind _ _).mpr passed

theorem modify_then {change : State → State} {next : Unit → Script Question Answer State Failure Next}
    (passed : (next ()).Holds guard condition (change state) past) :
    Holds guard condition (modify change >>= next) state past :=
  (holds_bind _ _).mpr passed

end Sequences

@[simp]
theorem holds_attempt {condition : List (Exchange Answer) → Except Failure (Except Failure Result) → State → Prop}
    (script : Script Question Answer State Failure Result) :
    Holds guard condition (attempt script) state past ↔
      script.Holds guard (fun past outcome state => condition past (.ok outcome) state) state past :=
  Program.holds_bind _ _

end Script

end Scripts

end Circulusd.Dialogue
