import WarehouseAccounting.Foundations.Resumption

/-!
# Two runs side by side

One program against two environments. As long as both give the same answers, the program goes the
same way, whatever else is in the states of the environments.

- `Program.Lockstep`: both environments answer every question of the run alike, and at the end a
  relation holds between their states, the memory and the value.
- `Program.Lockstep.andThen`, `Program.lockstep_mapMemory`: the parts of a program, one by one.
- `Program.Lockstep.completes`: what is known of the runs to the end is known at the end.
- `Program.Lockstep.run`: both runs have one outcome and one memory.
-/

namespace Program

variable {μ ν ε Q R D E α β : Type}

/-- Both environments answer alike until the program ends, and wherever it ends with a value the
relation holds. -/
def Lockstep (answers : Answers ε Q R D) (others : Answers ε Q R E)
    (post : Nat → D → E → μ → α → Prop) (clock : Nat) (state : D) (other : E) :
    Program μ ε Q R α → Prop
  | .done memory value => post clock state other memory value
  | .fail _ _ => True
  | .issue _ question next =>
      (∃ failure, answers clock question state = .error failure ∧
        others clock question other = .error failure) ∨
      ∃ response state' other', answers clock question state = .ok (response, state') ∧
        others clock question other = .ok (response, other') ∧
          (next response).Lockstep answers others post (clock + 1) state' other'

variable {answers : Answers ε Q R D} {others : Answers ε Q R E} {clock : Nat} {state : D}
  {other : E}

/-- A question with one result leaves the states to what follows. -/
theorem lockstep_issue {post : Nat → D → E → μ → α → Prop} {question : Q} {result : Except ε R}
    {state' : D} {other' : E} (h : answers clock question state = result.map (·, state'))
    (hother : others clock question other = result.map (·, other')) {memory : μ}
    {next : R → Program μ ε Q R α}
    (hnext : ∀ response, result = .ok response →
      (next response).Lockstep answers others post (clock + 1) state' other') :
    (Program.issue memory question next).Lockstep answers others post clock state other := by
  cases result with
  | error failure => exact .inl ⟨failure, h, hother⟩
  | ok response => exact .inr ⟨response, state', other', h, hother, hnext response rfl⟩

/-- What follows from the relation holds at the end, too. -/
theorem Lockstep.imp {post post' : Nat → D → E → μ → α → Prop} {program : Program μ ε Q R α}
    (h : program.Lockstep answers others post clock state other)
    (himp : ∀ clock state other memory value, post clock state other memory value →
      post' clock state other memory value) :
    program.Lockstep answers others post' clock state other := by
  induction program generalizing clock state other with
  | done memory value => exact himp _ _ _ _ _ h
  | fail memory failure => trivial
  | issue memory question next ih =>
    rcases h with hfails | ⟨response, state', other', hstate, hother, hrest⟩
    · exact .inl hfails
    · exact .inr ⟨response, state', other', hstate, hother, ih response hrest⟩

/-- The second part starts where the first one has ended. -/
theorem Lockstep.andThen {middle : Nat → D → E → μ → α → Prop} {post : Nat → D → E → ν → β → Prop}
    {program : Program μ ε Q R α} {embed : μ → ν} {next : μ → α → Program ν ε Q R β}
    (h : program.Lockstep answers others middle clock state other)
    (hnext : ∀ clock state other memory value, middle clock state other memory value →
      (next memory value).Lockstep answers others post clock state other) :
    (program.andThen embed next).Lockstep answers others post clock state other := by
  induction program generalizing clock state other with
  | done memory value => exact hnext _ _ _ _ _ h
  | fail memory failure => trivial
  | issue memory question answer ih =>
    rcases h with hfails | ⟨response, state', other', hstate, hother, hrest⟩
    · exact .inl hfails
    · exact .inr ⟨response, state', other', hstate, hother, ih response hrest⟩

/-- The memory of a program that is seen in a larger memory. -/
theorem lockstep_mapMemory {post : Nat → D → E → ν → α → Prop} {program : Program μ ε Q R α}
    {embed : μ → ν} :
    (program.mapMemory embed).Lockstep answers others post clock state other ↔
      program.Lockstep answers others (fun clock state other memory value =>
        post clock state other (embed memory) value) clock state other := by
  induction program generalizing clock state other with
  | done memory value => rfl
  | fail memory failure => rfl
  | issue memory question next ih =>
    refine or_congr Iff.rfl ?_
    refine exists_congr fun response => exists_congr fun state' => exists_congr fun other' => ?_
    exact and_congr_right' (and_congr_right' (ih response))

/-- An end that both runs reach is one that the first environment can bring about. -/
theorem Lockstep.completes {post : Nat → D → E → μ → α → Prop} {program : Program μ ε Q R α}
    (h : program.Lockstep answers others post clock state other) :
    program.Lockstep answers others (fun clock' state' other' memory value =>
      post clock' state' other' memory value ∧ program.Completes (Clocked answers) (clock, state)
        (clock', state') memory value) clock state other := by
  induction program generalizing clock state other with
  | done memory value => exact ⟨h, rfl, rfl, rfl⟩
  | fail memory failure => trivial
  | issue memory question next ih =>
    rcases h with hfails | ⟨response, state', other', hstate, hother, hrest⟩
    · exact .inl hfails
    · refine .inr ⟨response, state', other', hstate, hother, (ih response hrest).imp ?_⟩
      intro clock' final final' memory' value hend
      exact ⟨hend.1, response, (clock + 1, state'), ⟨hstate, rfl⟩, hend.2⟩

/-- Both runs have one outcome and leave one memory. -/
theorem Lockstep.run {post : Nat → D → E → μ → α → Prop} {program : Program μ ε Q R α}
    (h : program.Lockstep answers others post clock state other) :
    (program.run answers clock state).outcome = (program.run others clock other).outcome ∧
      (program.run answers clock state).memory = (program.run others clock other).memory := by
  induction program generalizing clock state other with
  | done memory value => exact ⟨rfl, rfl⟩
  | fail memory failure => exact ⟨rfl, rfl⟩
  | issue memory question next ih =>
    rcases h with ⟨failure, hstate, hother⟩ | ⟨response, state', other', hstate, hother, hrest⟩
    · rw [run_issue_of_error hstate, run_issue_of_error hother]
      exact ⟨rfl, rfl⟩
    · rw [run_issue_of_ok hstate, run_issue_of_ok hother]
      exact ih response hrest

end Program
