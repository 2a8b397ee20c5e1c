import Readout.Fault
import Readout.Figure

/-!
# Sessions

A session is a computation that leaves notices, printed lines and shown figures
behind in order, and ends in a result or a fault. What happened before a fault
stays; nothing happens after it.
-/

namespace Readout

/-- Something that a session leaves behind. -/
inductive Event
  | notice (notice : Notice)
  | line (text : String)
  | figure (figure : Figure)
  deriving DecidableEq, Repr

/-- A computation with what it leaves behind. -/
structure Session (α : Type) where
  /-- What happened, in order. -/
  events : List Event
  /-- How it ended. -/
  result : Except Fault α

namespace Session

/-- The session in which nothing happens. -/
def ofValue (value : α) : Session α :=
  ⟨[], .ok value⟩

/-- Go on with a session unless the first one ends in a fault. -/
def andThen (session : Session α) (next : α → Session β) : Session β :=
  match session.result with
  | .ok value =>
      let rest := next value
      ⟨session.events ++ rest.events, rest.result⟩
  | .error fault => ⟨session.events, .error fault⟩

instance : Monad Session where
  pure := ofValue
  bind := andThen

/-- End in a fault and leave nothing behind. -/
def fail (fault : Fault) : Session α :=
  ⟨[], .error fault⟩

/-- End as a computation without events ends. -/
def ofExcept (result : Except Fault α) : Session α :=
  ⟨[], result⟩

/-- Print a line. -/
def print (text : String) : Session Unit :=
  ⟨[.line text], .ok ()⟩

/-- Show a figure. -/
def display (figure : Figure) : Session Unit :=
  ⟨[.figure figure], .ok ()⟩

/-- Leave a notice and end in a fault unless a condition holds. -/
def check (holds : Bool) (notice : Notice) : Session Unit :=
  if holds then ofValue ()
  else ⟨[.notice notice], .error (.refused notice)⟩

/-- Word a demand, then check whether it is met. -/
def require (holds : Bool) (demand : Demand) : Session Unit :=
  match demand.wording? with
  | some wording => check holds ⟨demand.kind, wording⟩
  | none => fail .tooLongToWrite

/-- The notices of a session, in order. -/
def notices (session : Session α) : List Notice :=
  session.events.filterMap fun
    | .notice notice => some notice
    | _ => none

/-- The printed lines of a session, in order. -/
def lines (session : Session α) : List String :=
  session.events.filterMap fun
    | .line text => some text
    | _ => none

/-- The printed text of a session. -/
def output (session : Session α) : String :=
  String.join (session.lines.map (· ++ "\n"))

/-- The figures shown in a session, in order. -/
def figures (session : Session α) : List Figure :=
  session.events.filterMap fun
    | .figure figure => some figure
    | _ => none

@[simp] theorem events_pure (value : α) :
    (pure value : Session α).events = [] := rfl

@[simp] theorem result_pure (value : α) :
    (pure value : Session α).result = .ok value := rfl

@[simp] theorem check_true (notice : Notice) :
    check true notice = pure () := rfl

@[simp] theorem check_false (notice : Notice) :
    check false notice = ⟨[.notice notice], .error (.refused notice)⟩ := rfl

/-- A demand that is met leaves nothing behind if it can be worded. -/
theorem require_true
    {demand : Demand}
    {wording : String}
    (worded : demand.wording? = some wording) :
    require true demand = pure () := by
  simp [require, worded]

/-- A demand that is not met leaves its notice behind. -/
theorem require_false
    {demand : Demand}
    {wording : String}
    (worded : demand.wording? = some wording) :
    require false demand =
      ⟨[.notice ⟨demand.kind, wording⟩],
        .error (.refused ⟨demand.kind, wording⟩)⟩ := by
  simp [require, worded]

/-- A demand that cannot be worded fails before it is tested. -/
theorem require_of_unworded
    {demand : Demand}
    (holds : Bool)
    (unworded : demand.wording? = none) :
    require holds demand = fail .tooLongToWrite := by
  simp [require, unworded]

/-- A session that ends in a result goes on. -/
theorem bind_of_ok
    {session : Session α}
    {value : α}
    (next : α → Session β)
    (ended : session.result = .ok value) :
    session >>= next =
      ⟨session.events ++ (next value).events, (next value).result⟩ := by
  simp [bind, andThen, ended]

/-- A session that ends in a fault does not go on. -/
theorem bind_of_error
    {session : Session α}
    {fault : Fault}
    (next : α → Session β)
    (ended : session.result = .error fault) :
    session >>= next = ⟨session.events, .error fault⟩ := by
  simp [bind, andThen, ended]

instance : LawfulMonad Session := LawfulMonad.mk' Session
  (by
    rintro α ⟨events, _ | value⟩ <;>
      simp [Functor.map, andThen, ofValue])
  (by
    intro α β value next
    simp [pure, bind, andThen, ofValue])
  (by
    rintro α β γ ⟨events, _ | value⟩ first second
    · rfl
    · rcases ended : first value with ⟨rest, _ | middle⟩ <;>
        simp [bind, andThen, ended, List.append_assoc])

end Session
end Readout
