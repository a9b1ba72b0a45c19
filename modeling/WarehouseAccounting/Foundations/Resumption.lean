import Mathlib.Logic.Function.Basic
import Mathlib.Data.List.Basic

/-!
# Programs that ask and may fail

A program works on a memory and asks its environment questions; the environment may answer or
fail. When the environment fails, the program is over and the memory stays as the program left
it before it asked.

- `Program`: the tree of all that a program can do.
- `Program.run`: one run against an environment, with the questions that were asked.
- `Program.run_andThen_of_ok`, `Program.run_mapMemory`: runs of composed programs.
- `Program.AllQuestions`, `Program.AllMemories`: what can be said of every question that a program
  can ask, and of every memory that it can be left with.
- `Program.AllEnds`: what can be said of every end, from a record of the questions and answers.
- `Program.Completes`: a run to the end against an environment that is a relation, and
  `Program.completes_of_run`, which gets one from a run that ended with a value; with the points
  of time as a part of the state, `Program.completes_clocked` says that it is one.
-/

/-- A program with memory `μ` that asks questions in `Q`, gets answers in `R`, and ends with a
value in `α` or with a failure in `ε`. -/
inductive Program (μ ε Q R α : Type) where
  /-- The program has ended with a value. -/
  | done (memory : μ) (value : α)
  /-- The program has failed by itself. -/
  | fail (memory : μ) (failure : ε)
  /-- The program asks, with this memory, and goes on with the answer. -/
  | issue (memory : μ) (question : Q) (next : R → Program μ ε Q R α)

namespace Program

variable {μ ν ε Q R D α β : Type}

/-- Go on with a second program when the first has ended with a value. The first works on a
part of the memory; when it is the one that fails, `embed` says what the whole memory is. -/
def andThen (embed : μ → ν) : Program μ ε Q R α → (μ → α → Program ν ε Q R β) →
    Program ν ε Q R β
  | .done memory value, next => next memory value
  | .fail memory failure, _ => .fail (embed memory) failure
  | .issue memory question answer, next =>
      .issue (embed memory) question fun response => (answer response).andThen embed next

/-- See the memory of a program as a part of a larger one. -/
def mapMemory (embed : μ → ν) : Program μ ε Q R α → Program ν ε Q R α
  | .done memory value => .done (embed memory) value
  | .fail memory failure => .fail (embed memory) failure
  | .issue memory question answer =>
      .issue (embed memory) question fun response => (answer response).mapMemory embed

/-! ## One run -/

/-- An environment over a state `D`: how it answers the question asked at a point of time. -/
abbrev Answers (ε Q R D : Type) := Nat → Q → D → Except ε (R × D)

/-- What is left of a run. -/
structure Ran (μ ε Q D α : Type) where
  /-- The value, or the failure of the program or of the environment. -/
  outcome : Except ε α
  /-- The memory of the program at its end. -/
  memory : μ
  /-- The state of the environment at the end. -/
  state : D
  /-- The point of time after the run. -/
  clock : Nat
  /-- The questions that were asked, in order, the last one maybe without an answer. -/
  questions : List Q

/-- Run a program from a point of time and a state of the environment on. -/
def run (answers : Answers ε Q R D) (clock : Nat) (state : D) :
    Program μ ε Q R α → Ran μ ε Q D α
  | .done memory value => ⟨.ok value, memory, state, clock, []⟩
  | .fail memory failure => ⟨.error failure, memory, state, clock, []⟩
  | .issue memory question next =>
    match answers clock question state with
    | .error failure => ⟨.error failure, memory, state, clock + 1, [question]⟩
    | .ok (response, state) =>
      let ran := (next response).run answers (clock + 1) state
      { ran with questions := question :: ran.questions }

@[simp]
theorem run_done (answers : Answers ε Q R D) (clock : Nat) (state : D) (memory : μ) (value : α) :
    (Program.done memory value : Program μ ε Q R α).run answers clock state =
      ⟨.ok value, memory, state, clock, []⟩ := rfl

@[simp]
theorem run_fail (answers : Answers ε Q R D) (clock : Nat) (state : D) (memory : μ)
    (failure : ε) : (Program.fail memory failure : Program μ ε Q R α).run answers clock state =
      ⟨.error failure, memory, state, clock, []⟩ := rfl

/-- A question that the environment fails on ends the run. -/
theorem run_issue_of_error {answers : Answers ε Q R D} {clock : Nat} {state : D} {question : Q}
    {failure : ε} (h : answers clock question state = .error failure) (memory : μ)
    (next : R → Program μ ε Q R α) :
    (Program.issue memory question next).run answers clock state =
      ⟨.error failure, memory, state, clock + 1, [question]⟩ := by
  simp [run, h]

/-- A question that is answered goes on with the answer. -/
theorem run_issue_of_ok {answers : Answers ε Q R D} {clock : Nat} {state state' : D}
    {question : Q} {response : R} (h : answers clock question state = .ok (response, state'))
    (memory : μ) (next : R → Program μ ε Q R α) :
    (Program.issue memory question next).run answers clock state =
      { (next response).run answers (clock + 1) state' with
        questions := question :: ((next response).run answers (clock + 1) state').questions } := by
  simp [run, h]

/-- The run of a program seen in a larger memory. -/
theorem run_mapMemory (answers : Answers ε Q R D) (clock : Nat) (state : D) (embed : μ → ν)
    (program : Program μ ε Q R α) :
    (program.mapMemory embed).run answers clock state =
      ⟨(program.run answers clock state).outcome, embed (program.run answers clock state).memory,
        (program.run answers clock state).state, (program.run answers clock state).clock,
        (program.run answers clock state).questions⟩ := by
  induction program generalizing clock state with
  | done memory value => rfl
  | fail memory failure => rfl
  | issue memory question next ih =>
    rw [mapMemory]
    rcases hanswer : answers clock question state with failure | ⟨response, state'⟩
    · rw [run_issue_of_error hanswer, run_issue_of_error hanswer]
    · rw [run_issue_of_ok hanswer, run_issue_of_ok hanswer, ih]

/-- A first part that fails is the whole run. -/
theorem run_andThen_of_error {answers : Answers ε Q R D} {clock : Nat} {state : D}
    {program : Program μ ε Q R α} {failure : ε}
    (h : (program.run answers clock state).outcome = .error failure) (embed : μ → ν)
    (next : μ → α → Program ν ε Q R β) :
    (program.andThen embed next).run answers clock state =
      ⟨.error failure, embed (program.run answers clock state).memory,
        (program.run answers clock state).state, (program.run answers clock state).clock,
        (program.run answers clock state).questions⟩ := by
  induction program generalizing clock state with
  | done memory value => cases h
  | fail memory failure' =>
    cases h
    rfl
  | issue memory question answer ih =>
    rw [andThen]
    rcases hanswer : answers clock question state with failure' | ⟨response, state'⟩
    · rw [run_issue_of_error hanswer] at h ⊢
      rw [run_issue_of_error hanswer]
      cases h
      rfl
    · rw [run_issue_of_ok hanswer] at h ⊢
      rw [run_issue_of_ok hanswer, ih response h]

/-- After a first part that ends with a value, the second part runs where it left off. -/
theorem run_andThen_of_ok {answers : Answers ε Q R D} {clock : Nat} {state : D}
    {program : Program μ ε Q R α} {value : α}
    (h : (program.run answers clock state).outcome = .ok value) (embed : μ → ν)
    (next : μ → α → Program ν ε Q R β) :
    (program.andThen embed next).run answers clock state =
      let first := program.run answers clock state
      let second := (next first.memory value).run answers first.clock first.state
      { second with questions := first.questions ++ second.questions } := by
  induction program generalizing clock state with
  | done memory value' =>
    cases h
    rfl
  | fail memory failure => cases h
  | issue memory question answer ih =>
    rw [andThen]
    rcases hanswer : answers clock question state with failure | ⟨response, state'⟩
    · rw [run_issue_of_error hanswer] at h
      cases h
    · rw [run_issue_of_ok hanswer] at h ⊢
      rw [run_issue_of_ok hanswer, ih response h]
      rfl

/-! ## Which questions are asked -/

/-- Every question that the program can ask has the property. -/
def AllQuestions (property : Q → Prop) : Program μ ε Q R α → Prop
  | .done _ _ => True
  | .fail _ _ => True
  | .issue _ question next => property question ∧ ∀ response, (next response).AllQuestions property

/-- What follows from the property holds of every question, too. -/
theorem AllQuestions.imp {property other : Q → Prop} {program : Program μ ε Q R α}
    (h : program.AllQuestions property) (himp : ∀ question, property question → other question) :
    program.AllQuestions other := by
  induction program with
  | done memory value => trivial
  | fail memory failure => trivial
  | issue memory question next ih =>
    exact ⟨himp question h.1, fun response => ih response (h.2 response)⟩

/-- The questions of the parts are the questions of the whole. -/
theorem AllQuestions.andThen {property : Q → Prop} {program : Program μ ε Q R α}
    {embed : μ → ν} {next : μ → α → Program ν ε Q R β} (h : program.AllQuestions property)
    (hnext : ∀ memory value, (next memory value).AllQuestions property) :
    (program.andThen embed next).AllQuestions property := by
  induction program with
  | done memory value => exact hnext memory value
  | fail memory failure => trivial
  | issue memory question answer ih => exact ⟨h.1, fun response => ih response (h.2 response)⟩

/-- The memory has nothing to do with the questions. -/
theorem AllQuestions.mapMemory {property : Q → Prop} {program : Program μ ε Q R α}
    (h : program.AllQuestions property) (embed : μ → ν) :
    (program.mapMemory embed).AllQuestions property := by
  induction program with
  | done memory value => trivial
  | fail memory failure => trivial
  | issue memory question next ih => exact ⟨h.1, fun response => ih response (h.2 response)⟩

/-- A run asks what the program can ask. -/
theorem AllQuestions.run {property : Q → Prop} {program : Program μ ε Q R α}
    (h : program.AllQuestions property) (answers : Answers ε Q R D) (clock : Nat) (state : D) :
    ∀ question ∈ (program.run answers clock state).questions, property question := by
  induction program generalizing clock state with
  | done memory value => simp
  | fail memory failure => simp
  | issue memory question next ih =>
    rcases hanswer : answers clock question state with failure | ⟨response, state'⟩
    · rw [run_issue_of_error hanswer]
      simpa using h.1
    · rw [run_issue_of_ok hanswer]
      intro other hother
      rcases List.mem_cons.mp hother with rfl | hother
      · exact h.1
      · exact ih response (h.2 response) (clock + 1) state' other hother

/-! ## Which memories are left -/

/-- Every memory that the program can be left with has the property. -/
def AllMemories (property : μ → Prop) : Program μ ε Q R α → Prop
  | .done memory _ => property memory
  | .fail memory _ => property memory
  | .issue memory _ next =>
      property memory ∧ ∀ response, (next response).AllMemories property

/-- The memories of the whole are those of its parts. -/
theorem AllMemories.andThen {first : μ → Prop} {second : ν → Prop} {program : Program μ ε Q R α}
    {embed : μ → ν} {next : μ → α → Program ν ε Q R β} (h : program.AllMemories first)
    (hembed : ∀ memory, first memory → second (embed memory))
    (hnext : ∀ memory value, first memory → (next memory value).AllMemories second) :
    (program.andThen embed next).AllMemories second := by
  induction program with
  | done memory value => exact hnext memory value h
  | fail memory failure => exact hembed memory h
  | issue memory question answer ih =>
    exact ⟨hembed memory h.1, fun response => ih response (h.2 response)⟩

/-- The memories of a program that is seen in a larger memory. -/
theorem AllMemories.mapMemory {first : μ → Prop} {second : ν → Prop} {program : Program μ ε Q R α}
    {embed : μ → ν} (h : program.AllMemories first)
    (hembed : ∀ memory, first memory → second (embed memory)) :
    (program.mapMemory embed).AllMemories second := by
  induction program with
  | done memory value => exact hembed memory h
  | fail memory failure => exact hembed memory h
  | issue memory question next ih =>
    exact ⟨hembed memory h.1, fun response => ih response (h.2 response)⟩

/-- What holds of all memories there are holds of these. -/
theorem AllMemories.of_forall {property : μ → Prop} (h : ∀ memory, property memory)
    (program : Program μ ε Q R α) : program.AllMemories property := by
  induction program with
  | done memory value => exact h memory
  | fail memory failure => exact h memory
  | issue memory question next ih => exact ⟨h memory, ih⟩

/-- A run leaves one of them. -/
theorem AllMemories.run {property : μ → Prop} {program : Program μ ε Q R α}
    (h : program.AllMemories property) (answers : Answers ε Q R D) (clock : Nat) (state : D) :
    property (program.run answers clock state).memory := by
  induction program generalizing clock state with
  | done memory value => exact h
  | fail memory failure => exact h
  | issue memory question next ih =>
    rcases hanswer : answers clock question state with failure | ⟨response, state'⟩
    · rw [run_issue_of_error hanswer]
      exact h.1
    · rw [run_issue_of_ok hanswer]
      exact ih response (h.2 response) (clock + 1) state'

/-! ## Which ends are reached -/

section Ends

variable {G : Type} {advance : G → Q → R → G}

/-- A record is kept of the questions and their answers: wherever the program ends with a value,
the record, the memory and the value are related. -/
def AllEnds (advance : G → Q → R → G) (post : G → μ → α → Prop) :
    G → Program μ ε Q R α → Prop
  | record, .done memory value => post record memory value
  | _, .fail _ _ => True
  | record, .issue _ question next =>
      ∀ response, (next response).AllEnds advance post (advance record question response)

/-- The ends of the whole are those of the second part, from every end of the first one on. -/
theorem AllEnds.andThen {middle : G → μ → α → Prop} {post : G → ν → β → Prop}
    {program : Program μ ε Q R α} {embed : μ → ν} {next : μ → α → Program ν ε Q R β} {record : G}
    (h : program.AllEnds advance middle record)
    (hnext : ∀ record memory value, middle record memory value →
      (next memory value).AllEnds advance post record) :
    (program.andThen embed next).AllEnds advance post record := by
  induction program generalizing record with
  | done memory value => exact hnext record memory value h
  | fail memory failure => trivial
  | issue memory question answer ih =>
    intro response
    exact ih response (h response)

end Ends

/-! ## Programs without a memory -/

/-- Programs that keep nothing compose as a monad. -/
instance : Monad (Program Unit ε Q R) where
  pure value := .done () value
  bind program next := program.andThen id fun _ value => next value

@[simp]
theorem pure_eq_done (value : α) : (pure value : Program Unit ε Q R α) = .done () value := rfl

/-- Sequencing is `andThen` on the only memory there is. -/
theorem bind_eq_andThen (program : Program Unit ε Q R α) (next : α → Program Unit ε Q R β) :
    (program >>= next) = program.andThen id fun _ value => next value := rfl

/-- The questions of a sequence. -/
theorem AllQuestions.bind {property : Q → Prop} {program : Program Unit ε Q R α}
    {next : α → Program Unit ε Q R β} (h : program.AllQuestions property)
    (hnext : ∀ value, (next value).AllQuestions property) :
    (program >>= next).AllQuestions property :=
  h.andThen fun _ value => hnext value

/-! ## Runs to the end -/

/-- The program can end with this memory and value when the environment answers by the relation
`step`, and the environment is then in the state `final`. -/
def Completes (step : D → Q → R → D → Prop) (state : D) :
    Program μ ε Q R α → D → μ → α → Prop
  | .done memory value, final, memory', value' =>
      final = state ∧ memory' = memory ∧ value' = value
  | .fail _ _, _, _, _ => False
  | .issue _ question next, final, memory', value' =>
      ∃ response state', step state question response state' ∧
        (next response).Completes step state' final memory' value'

/-- A program in two parts completes when both parts do. -/
theorem completes_andThen {step : D → Q → R → D → Prop} {program : Program μ ε Q R α}
    {embed : μ → ν} {next : μ → α → Program ν ε Q R β} {state final : D} {memory : ν}
    {value : β} :
    (program.andThen embed next).Completes step state final memory value ↔
      ∃ middle memory' value', program.Completes step state middle memory' value' ∧
        (next memory' value').Completes step middle final memory value := by
  induction program generalizing state with
  | done memory' value' =>
    constructor
    · intro h
      exact ⟨state, memory', value', ⟨rfl, rfl, rfl⟩, h⟩
    · rintro ⟨middle, memory'', value'', ⟨rfl, rfl, rfl⟩, h⟩
      exact h
  | fail memory' failure => simp [andThen, Completes]
  | issue memory' question answer ih =>
    constructor
    · rintro ⟨response, state', hstep, h⟩
      obtain ⟨middle, memory'', value'', hfirst, hsecond⟩ := (ih response).mp h
      exact ⟨middle, memory'', value'', ⟨response, state', hstep, hfirst⟩, hsecond⟩
    · rintro ⟨middle, memory'', value'', ⟨response, state', hstep, hfirst⟩, hsecond⟩
      exact ⟨response, state', hstep,
        (ih response).mpr ⟨middle, memory'', value'', hfirst, hsecond⟩⟩

/-- A program without a memory that is a sequence completes when both parts do. -/
theorem completes_bind {step : D → Q → R → D → Prop} {program : Program Unit ε Q R α}
    {next : α → Program Unit ε Q R β} {state final : D} {value : β} :
    (program >>= next).Completes step state final () value ↔
      ∃ middle value', program.Completes step state middle () value' ∧
        (next value').Completes step middle final () value := by
  rw [bind_eq_andThen, completes_andThen]
  constructor
  · rintro ⟨middle, memory, value', hfirst, hsecond⟩
    exact ⟨middle, value', hfirst, hsecond⟩
  · rintro ⟨middle, value', hfirst, hsecond⟩
    exact ⟨middle, (), value', hfirst, hsecond⟩

/-- Seeing the memory as a part of a larger one does not change what completes. -/
theorem completes_mapMemory {step : D → Q → R → D → Prop} {program : Program μ ε Q R α}
    {embed : μ → ν} {state final : D} {memory : ν} {value : α} :
    (program.mapMemory embed).Completes step state final memory value ↔
      ∃ memory', program.Completes step state final memory' value ∧ memory = embed memory' := by
  induction program generalizing state with
  | done memory' value' =>
    constructor
    · rintro ⟨rfl, rfl, rfl⟩
      exact ⟨memory', ⟨rfl, rfl, rfl⟩, rfl⟩
    · rintro ⟨memory'', ⟨rfl, rfl, rfl⟩, rfl⟩
      exact ⟨rfl, rfl, rfl⟩
  | fail memory' failure => simp [mapMemory, Completes]
  | issue memory' question next ih =>
    constructor
    · rintro ⟨response, state', hstep, h⟩
      obtain ⟨memory'', hcompletes, rfl⟩ := (ih response).mp h
      exact ⟨memory'', ⟨response, state', hstep, hcompletes⟩, rfl⟩
    · rintro ⟨memory'', ⟨response, state', hstep, hcompletes⟩, rfl⟩
      exact ⟨response, state', hstep, (ih response).mpr ⟨memory'', hcompletes, rfl⟩⟩

/-- What completes against an environment completes against one that gives the same answers to the
questions that can be asked. -/
theorem Completes.map {E : Type} {step : D → Q → R → D → Prop} {step' : E → Q → R → E → Prop}
    (view : D → E) {property : Q → Prop}
    (hstep : ∀ state question response state', property question →
      step state question response state' → step' (view state) question response (view state'))
    {program : Program μ ε Q R α} (hquestions : program.AllQuestions property) {state final : D}
    {memory : μ} {value : α} (h : program.Completes step state final memory value) :
    program.Completes step' (view state) (view final) memory value := by
  induction program generalizing state with
  | done memory' value' =>
    obtain ⟨rfl, rfl, rfl⟩ := h
    exact ⟨rfl, rfl, rfl⟩
  | fail memory' failure => exact h
  | issue memory' question next ih =>
    obtain ⟨response, state', hanswer, hrest⟩ := h
    exact ⟨response, view state', hstep _ _ _ _ hquestions.1 hanswer,
      ih response (hquestions.2 response) hrest⟩

/-- What every answer to a question that can be asked keeps is kept. -/
theorem Completes.preserves {step : D → Q → R → D → Prop} {property : Q → Prop}
    {invariant : D → Prop}
    (hstep : ∀ state question response state', property question → invariant state →
      step state question response state' → invariant state')
    {program : Program μ ε Q R α} (hquestions : program.AllQuestions property) {state final : D}
    {memory : μ} {value : α} (h : program.Completes step state final memory value)
    (hstate : invariant state) : invariant final := by
  induction program generalizing state with
  | done memory' value' =>
    obtain ⟨rfl, -, -⟩ := h
    exact hstate
  | fail memory' failure => exact h.elim
  | issue memory' question next ih =>
    obtain ⟨response, state', hanswer, hrest⟩ := h
    exact ih response (hquestions.2 response) hrest
      (hstep _ _ _ _ hquestions.1 hstate hanswer)

/-- A run that ended with a value, against an environment that answers by the relation. -/
theorem completes_of_run {step : D → Q → R → D → Prop} {answers : Answers ε Q R D}
    (hanswers : ∀ clock question state response state',
      answers clock question state = .ok (response, state') → step state question response state')
    {program : Program μ ε Q R α} {clock : Nat} {state : D} {value : α}
    (h : (program.run answers clock state).outcome = .ok value) :
    program.Completes step state (program.run answers clock state).state
      (program.run answers clock state).memory value := by
  induction program generalizing clock state with
  | done memory value' =>
    cases h
    exact ⟨rfl, rfl, rfl⟩
  | fail memory failure => cases h
  | issue memory question next ih =>
    rcases hanswer : answers clock question state with failure | ⟨response, state'⟩
    · rw [run_issue_of_error hanswer] at h
      cases h
    · rw [run_issue_of_ok hanswer] at h ⊢
      exact ⟨response, state', hanswers _ _ _ _ _ hanswer, ih response h⟩

/-- The answers of an environment, with the point of time as a part of its state. -/
def Clocked (answers : Answers ε Q R D) (before : Nat × D) (question : Q) (response : R)
    (after : Nat × D) : Prop :=
  answers before.1 question before.2 = .ok (response, after.2) ∧ after.1 = before.1 + 1

/-- With the points of time, the runs to the end are those that end with a value. -/
theorem completes_clocked {answers : Answers ε Q R D} {program : Program μ ε Q R α} {clock : Nat}
    {state : D} {final : Nat × D} {memory : μ} {value : α} :
    program.Completes (Clocked answers) (clock, state) final memory value ↔
      (program.run answers clock state).outcome = .ok value ∧
        (program.run answers clock state).memory = memory ∧
          ((program.run answers clock state).clock, (program.run answers clock state).state) =
            final := by
  induction program generalizing clock state with
  | done memory' value' =>
    constructor
    · rintro ⟨rfl, rfl, rfl⟩
      exact ⟨rfl, rfl, rfl⟩
    · rintro ⟨hvalue, hmemory, hfinal⟩
      cases hvalue
      exact ⟨hfinal.symm, hmemory.symm, rfl⟩
  | fail memory' failure => exact iff_of_false (fun h => h) fun h => by cases h.1
  | issue memory' question next ih =>
    rcases hanswer : answers clock question state with failure | ⟨response, state'⟩
    · rw [run_issue_of_error hanswer]
      refine iff_of_false ?_ fun h => by cases h.1
      rintro ⟨response, after, ⟨hstep, -⟩, -⟩
      cases hanswer.symm.trans hstep
    · rw [run_issue_of_ok hanswer]
      refine Iff.trans ?_ (ih response)
      constructor
      · rintro ⟨response', ⟨clock', state''⟩, ⟨hstep, hclock⟩, h⟩
        cases hanswer.symm.trans hstep
        cases hclock
        exact h
      · intro h
        exact ⟨response, (clock + 1, state'), ⟨hanswer, rfl⟩, h⟩

end Program
