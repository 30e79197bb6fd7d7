/-
# Programs of calls and answers

A program makes calls to something outside of it, goes on with the answers, and writes notes on
the way.  What is outside — a store, a database, a file system — is not part of the program: a
program can be run against any state that answers its calls, and it can be refined by saying how
each of its calls is a program of smaller ones.
-/

namespace PaymentPlans

/-- A program that makes calls of type `Call`, where a call `c` is answered by an `Answer c`,
that writes notes of type `Note`, and that ends with a value of type `α`. -/
inductive Program (Call : Type) (Answer : Call → Type) (Note : Type) (α : Type) where
  /-- The end, with a value. -/
  | done (a : α)
  /-- A call, and how to go on with its answer. -/
  | call (c : Call) (next : Answer c → Program Call Answer Note α)
  /-- A note, and how to go on. -/
  | note (n : Note) (next : Program Call Answer Note α)

/-- How a run ended: its value, the state it left, and the notes in their order. -/
structure Run (Note σ α : Type) where
  value : α
  /-- The state that answered, after the last call. -/
  state : σ
  /-- What was noted. -/
  notes : List Note

namespace Program

variable {Call Call' : Type} {Answer : Call → Type} {Answer' : Call' → Type} {Note : Type}
variable {α β γ σ : Type}

/-- One program after the other. -/
def bind : Program Call Answer Note α → (α → Program Call Answer Note β) →
    Program Call Answer Note β
  | done a, f => f a
  | call c next, f => call c fun answer => (next answer).bind f
  | note n next, f => note n (next.bind f)

instance : Monad (Program Call Answer Note) where
  pure := done
  bind := bind

/-- The program that makes one call. -/
def ask (c : Call) : Program Call Answer Note (Answer c) := call c done

/-- The program that writes one note. -/
def say (n : Note) : Program Call Answer Note Unit := note n (done ())

@[simp] theorem pure_eq_done (a : α) : (pure a : Program Call Answer Note α) = done a := rfl

@[simp] theorem bind_eq_bind (p : Program Call Answer Note α)
    (f : α → Program Call Answer Note β) : p >>= f = p.bind f := rfl

@[simp] theorem done_bind (a : α) (f : α → Program Call Answer Note β) :
    (done a).bind f = f a := rfl

@[simp] theorem ask_bind (c : Call) (f : Answer c → Program Call Answer Note β) :
    (ask c).bind f = call c f := rfl

@[simp] theorem say_bind (n : Note) (f : Unit → Program Call Answer Note β) :
    (say n : Program Call Answer Note Unit).bind f = note n (f ()) := rfl

@[simp] theorem bind_done (p : Program Call Answer Note α) : p.bind done = p := by
  induction p with
  | done a => rfl
  | call c next ih => simp only [bind, ih]
  | note n next ih => simp only [bind, ih]

theorem bind_assoc (p : Program Call Answer Note α) (f : α → Program Call Answer Note β)
    (g : β → Program Call Answer Note γ) :
    (p.bind f).bind g = p.bind fun a => (f a).bind g := by
  induction p with
  | done a => rfl
  | call c next ih => simp only [bind, ih]
  | note n next ih => simp only [bind, ih]

instance : LawfulMonad (Program Call Answer Note) where
  map_const := rfl
  id_map := bind_done
  seqLeft_eq _ _ := by
    change Program.bind _ _ = Program.bind (Program.bind _ _) _
    rw [bind_assoc]
    rfl
  seqRight_eq _ _ := by
    change Program.bind _ _ = Program.bind (Program.bind _ _) _
    rw [bind_assoc]
    exact congrArg _ (funext fun _ => (bind_done _).symm)
  pure_seq _ _ := rfl
  bind_pure_comp _ _ := rfl
  bind_map _ _ := rfl
  pure_bind _ _ := rfl
  bind_assoc := bind_assoc

/-! ## Runs -/

/-- Runs a program against a state that answers its calls. -/
def run (answer : (c : Call) → σ → Answer c × σ) : Program Call Answer Note α → σ → Run Note σ α
  | done a, s => ⟨a, s, []⟩
  | call c next, s => (next (answer c s).1).run answer (answer c s).2
  | note n next, s =>
    let rest := next.run answer s
    { rest with notes := n :: rest.notes }

variable {answer : (c : Call) → σ → Answer c × σ}

theorem run_bind (p : Program Call Answer Note α) (f : α → Program Call Answer Note β) (s : σ) :
    (p.bind f).run answer s =
      let first := p.run answer s
      let second := (f first.value).run answer first.state
      { second with notes := first.notes ++ second.notes } := by
  induction p generalizing s with
  | done a => simp [bind, run]
  | call c next ih => simp [bind, run, ih]
  | note n next ih => simp [bind, run, ih]

/-- What no call lowers, a run does not lower. -/
theorem le_run (measure : σ → Nat) (h : ∀ c s, measure s ≤ measure (answer c s).2)
    (p : Program Call Answer Note α) (s : σ) : measure s ≤ measure (p.run answer s).state := by
  induction p generalizing s with
  | done a => exact Nat.le_refl _
  | call c next ih => exact Nat.le_trans (h c s) (ih _ _)
  | note n next ih => exact ih s

theorem run_forM_say (notes : List Note) (s : σ) :
    (notes.forM say : Program Call Answer Note Unit).run answer s = ⟨(), s, notes⟩ := by
  induction notes with
  | nil => rfl
  | cons note notes ih =>
    change (Program.note note (notes.forM say)).run answer s = _
    rw [run, ih]

/-- A call together with its answer. -/
abbrev Exchange (Answer : Call → Type) := (c : Call) × Answer c

/-- The calls that a program makes when it is run, each with its answer. -/
def exchanges (answer : (c : Call) → σ → Answer c × σ) :
    Program Call Answer Note α → σ → List (Exchange Answer)
  | done _, _ => []
  | call c next, s => ⟨c, (answer c s).1⟩ :: (next (answer c s).1).exchanges answer (answer c s).2
  | note _ next, s => next.exchanges answer s

theorem exchanges_bind (p : Program Call Answer Note α) (f : α → Program Call Answer Note β)
    (s : σ) : (p.bind f).exchanges answer s =
      p.exchanges answer s ++
        (f (p.run answer s).value).exchanges answer (p.run answer s).state := by
  induction p generalizing s with
  | done a => rfl
  | call c next ih => simp only [bind, exchanges, run, ih, List.cons_append]
  | note n next ih => simp only [bind, exchanges, run, ih]

/-! ## Refinement -/

/-- Replaces each call of a program by the program that answers it. -/
def refine (step : (c : Call) → Program Call' Answer' Note (Answer c)) :
    Program Call Answer Note α → Program Call' Answer' Note α
  | done a => done a
  | call c next => (step c).bind fun a => (next a).refine step
  | note n next => note n (next.refine step)

theorem refine_bind (step : (c : Call) → Program Call' Answer' Note (Answer c))
    (p : Program Call Answer Note α) (f : α → Program Call Answer Note β) :
    (p.bind f).refine step = (p.refine step).bind fun a => (f a).refine step := by
  induction p with
  | done a => rfl
  | call c next ih => simp only [bind, refine, ih, bind_assoc]
  | note n next ih => simp only [bind, refine, ih]

theorem refine_forM_say (step : (c : Call) → Program Call' Answer' Note (Answer c))
    (notes : List Note) :
    (notes.forM say : Program Call Answer Note Unit).refine step = notes.forM say := by
  induction notes with
  | nil => rfl
  | cons note notes ih => exact congrArg (Program.note note) ih

/-- A refined program ends as the program does when each of its calls is answered by a run of
the program that takes the place of the call. -/
theorem run_refine {answer : (c : Call') → σ → Answer' c × σ}
    (step : (c : Call) → Program Call' Answer' Note (Answer c))
    (p : Program Call Answer Note α) (s : σ) :
    let whole := (p.refine step).run answer s
    let parts := p.run
      (fun c s => (((step c).run answer s).value, ((step c).run answer s).state)) s
    whole.value = parts.value ∧ whole.state = parts.state := by
  induction p generalizing s with
  | done a => exact ⟨rfl, rfl⟩
  | call c next ih =>
    simp only [refine, run_bind]
    exact ih _ _
  | note n next ih => exact ih s

/-! ## Notes -/

/-- The program with every note changed. -/
def mapNotes {Note' : Type} (f : Note → Note') :
    Program Call Answer Note α → Program Call Answer Note' α
  | done a => done a
  | call c next => call c fun a => (next a).mapNotes f
  | note n next => note (f n) (next.mapNotes f)

theorem mapNotes_bind {Note' : Type} (f : Note → Note') (p : Program Call Answer Note α)
    (g : α → Program Call Answer Note β) :
    (p.bind g).mapNotes f = (p.mapNotes f).bind fun a => (g a).mapNotes f := by
  induction p with
  | done a => rfl
  | call c next ih => simp only [bind, mapNotes, ih]
  | note n next ih => simp only [bind, mapNotes, ih]

end Program

end PaymentPlans
