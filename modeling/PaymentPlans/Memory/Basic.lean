/-
# A store in memory

Plans and installments are kept in the order in which they came; nothing is ever changed or
taken out.  An identifier is claimed for a plan before the plan can be listed, so that a plan
without installments is never mistaken for an unknown one.

The store is shared, and only small sections of a call are atomic: what a call does is a program
of such sections, and between two of them other calls may come in.
-/
import PaymentPlans.Repository.Basic

namespace PaymentPlans

/-- Where a store gets what it does not hold itself: fresh identifiers, one after the other,
each of which may be refused with a reason, and the time. -/
structure Sources where
  /-- The `n`-th identifier that is drawn. -/
  identifier : Nat → Except String Identifier
  /-- The `n`-th reading of the clock. -/
  time : Nat → Instant

namespace Sources

/-- The plain sequence of identifiers, from the first, with the time standing still. -/
def plain : Sources := ⟨fun n => .ok (Identifier.sequence (n + 1)), fun _ => .epoch⟩

/-- The identifiers of a list and none after them, with the time standing still. -/
def ofList (drawn : List (Except String Identifier)) : Sources :=
  ⟨fun n => drawn.getD n (.error "exhausted"), fun _ => .epoch⟩

end Sources

namespace Memory

/-- What is stored. -/
structure State where
  /-- The plans, the oldest first. -/
  plans : List Plan := []
  /-- The identifiers under which there is a schedule. -/
  schedules : List Identifier := []
  /-- The installments, the oldest first. -/
  installments : List Installment := []
  /-- How many identifiers were drawn. -/
  drawn : Nat := 0
  /-- How often the clock was read. -/
  ticks : Nat := 0
deriving DecidableEq

/-- The atomic sections of calls. -/
inductive Section where
  /-- Draws a fresh identifier. -/
  | drawIdentifier
  /-- Reads the clock. -/
  | readClock
  /-- Opens an empty schedule under an identifier, unless there is one. -/
  | openSchedule (id : Identifier)
  /-- Adds a plan to those of its user. -/
  | addPlan (plan : Plan)
  /-- Adds an installment to the schedule of its plan; there is one from then on. -/
  | addInstallment (installment : Installment)
  /-- Lists the plans of a user, the newest first, if there are any. -/
  | plansOf (userId : Identifier)
  /-- Lists the schedule under an identifier, if there is one. -/
  | scheduleOf (planId : Identifier)
deriving DecidableEq

/-- What a section is answered by. -/
abbrev Section.Answer : Section → Type
  | drawIdentifier => Except String Identifier
  | readClock => Instant
  | openSchedule _ => Bool
  | addPlan _ => Unit
  | addInstallment _ => Unit
  | plansOf _ => Option (List Plan)
  | scheduleOf _ => Option (List Installment)

namespace State

/-- The plans of a user, the newest first. -/
def plansOf (s : State) (userId : Identifier) : List Plan :=
  (s.plans.filter fun plan => plan.userId = userId).reverse

/-- The installments under an identifier, the oldest first. -/
def installmentsOf (s : State) (planId : Identifier) : List Installment :=
  s.installments.filter fun installment => installment.planId = planId

/-- Executes one section. -/
def execute (sources : Sources) (s : State) : (c : Section) → c.Answer × State
  | .drawIdentifier => (sources.identifier s.drawn, { s with drawn := s.drawn + 1 })
  | .readClock => (sources.time s.ticks, { s with ticks := s.ticks + 1 })
  | .openSchedule id =>
    if id ∈ s.schedules then (false, s) else (true, { s with schedules := s.schedules ++ [id] })
  | .addPlan plan => ((), { s with plans := s.plans ++ [plan] })
  | .addInstallment installment =>
    let schedules := if installment.planId ∈ s.schedules then s.schedules
      else s.schedules ++ [installment.planId]
    ((), { s with schedules, installments := s.installments ++ [installment] })
  | .plansOf userId =>
    let plans := s.plansOf userId
    (if plans.isEmpty then none else some plans, s)
  | .scheduleOf planId =>
    (if planId ∈ s.schedules then some (s.installmentsOf planId) else none, s)

end State

/-! ## Calls as programs of sections -/

/-- Programs of atomic sections, with a log. -/
abbrev SectionProgram := Program Section Section.Answer Event

/-- Draws a fresh identifier. -/
def drawIdentifier : SectionProgram (Except String Identifier) := .ask Section.drawIdentifier

/-- Reads the clock. -/
def readClock : SectionProgram Instant := .ask Section.readClock

/-- Opens an empty schedule under an identifier, unless there is one. -/
def openSchedule (id : Identifier) : SectionProgram Bool := .ask (Section.openSchedule id)

/-- Adds a plan to those of its user. -/
def addPlan (plan : Plan) : SectionProgram Unit := .ask (Section.addPlan plan)

/-- Adds an installment to the schedule of its plan. -/
def addInstallment (installment : Installment) : SectionProgram Unit :=
  .ask (Section.addInstallment installment)

/-- Lists the plans of a user, the newest first, if there are any. -/
def plansOf (userId : Identifier) : SectionProgram (Option (List Plan)) :=
  .ask (Section.plansOf userId)

/-- Lists the schedule under an identifier, if there is one. -/
def scheduleOf (planId : Identifier) : SectionProgram (Option (List Installment)) :=
  .ask (Section.scheduleOf planId)

/-- The identifier that is wished for, or a fresh one. -/
def chooseIdentifier : Option Identifier → SectionProgram (Except String Identifier)
  | some id => return .ok id
  | none => drawIdentifier

/-- The error of a plan whose identifier is taken. -/
def duplicate (id : Identifier) : RepositoryError :=
  .queryFailed "insert_payment_plan"
    ["duplicate key: payment plan " ++ id.text ++ " already exists"]

/-- Stores a plan: reads its amount, chooses its identifier, claims it, adds the plan. -/
def createPlan (new : NewPlan) : SectionProgram (Except RepositoryError Plan) := do
  match readAmount new.amount with
  | .error e => return .error e
  | .ok amount =>
    match ← chooseIdentifier new.id with
    | .error reason => return .error (.noIdentifier reason)
    | .ok id =>
      let now ← readClock
      let plan : Plan :=
        { id, userId := new.userId, currency := new.currency, amount, status := new.status,
          createdAt := now, updatedAt := now }
      if ← openSchedule id then
        addPlan plan
        Program.say (.planRemembered id new.userId)
        return .ok plan
      else return .error (duplicate id)

/-- Lists the plans of a user. -/
def listPlans (userId : Identifier) : SectionProgram (Except RepositoryError (List Plan)) := do
  match ← plansOf userId with
  | some plans => return .ok plans
  | none => return .error (.notFound "payment plan" userId)

/-- Stores an installment.  Whether there is a plan of its identifier is not asked. -/
def createInstallment (new : NewInstallment) :
    SectionProgram (Except RepositoryError Installment) := do
  match readAmount new.amount with
  | .error e => return .error e
  | .ok amount =>
    match ← drawIdentifier with
    | .error reason => return .error (.noIdentifier reason)
    | .ok id =>
      let now ← readClock
      let installment : Installment :=
        { id, planId := new.planId, currency := new.currency, amount, dueAt := new.dueAt,
          status := new.status, createdAt := now, updatedAt := now }
      addInstallment installment
      return .ok installment

/-- Lists the installments of a plan. -/
def listInstallments (planId : Identifier) :
    SectionProgram (Except RepositoryError (List Installment)) := do
  match ← scheduleOf planId with
  | some installments => return .ok installments
  | none => return .error (.notFound "payment installment" planId)

/-- The program of sections that answers a call. -/
def respond : (c : Repository.Call) → SectionProgram (Repository.Answer c)
  | .createPlan new => createPlan new
  | .listPlans userId => listPlans userId
  | .createInstallment new => createInstallment new
  | .listInstallments planId => listInstallments planId

/-- Runs a program of sections with nothing in between. -/
def State.run (sources : Sources) (s : State) (p : SectionProgram α) : Run Event State α :=
  p.run (fun c s => s.execute sources c) s

/-- Runs a program of calls with nothing in between. -/
def State.serve (sources : Sources) (s : State) (p : RepositoryProgram α) : Run Event State α :=
  s.run sources (p.refine respond)

end Memory

end PaymentPlans
