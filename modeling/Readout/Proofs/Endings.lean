import Readout.Session

/-!
# How sessions end

An error is seen by its kind, its wording and the notices left behind. A session
either fails without a notice or refuses, in which case the one notice says what
the error says. Whatever would follow an error does not change it.
-/

namespace Readout

/-- No demand is refused with an error of a missing key, whose wording is quoted. -/
theorem Demand.kind_ne_key (demand : Demand) : demand.kind ≠ .key := by
  cases demand <;> simp [Demand.kind]

namespace Session

/-- A session ends in an error of a kind and a wording, after some events. -/
def EndsWith
    (session : Session α)
    (events : List Event)
    (kind : ErrorKind)
    (message : String) :
    Prop :=
  session.events = events ∧
    ∃ fault, session.result = .error fault ∧ fault.kind = kind ∧
      fault.message = message

/-- A session leaves nothing behind and ends in an error. -/
def FailsWith (session : Session α) (kind : ErrorKind) (message : String) : Prop :=
  session.EndsWith [] kind message

/-- A session leaves a notice behind and ends in the error that it announces. -/
def RefusesWith
    (session : Session α)
    (kind : ErrorKind)
    (message : String) :
    Prop :=
  session.EndsWith [.notice ⟨kind, message⟩] kind message

/-- An error is the end, whatever would have followed. -/
theorem EndsWith.bind
    {session : Session α}
    {events : List Event}
    {kind : ErrorKind}
    {message : String}
    (ends : session.EndsWith events kind message)
    (next : α → Session β) :
    (session >>= next).EndsWith events kind message := by
  obtain ⟨left, fault, ended, kind_eq, message_eq⟩ := ends
  rw [bind_of_error next ended]
  exact ⟨left, fault, rfl, kind_eq, message_eq⟩

/-- An error stays the end when the result would have been converted. -/
theorem EndsWith.map
    {session : Session α}
    {events : List Event}
    {kind : ErrorKind}
    {message : String}
    (ends : session.EndsWith events kind message)
    (convert : α → β) :
    (convert <$> session).EndsWith events kind message := by
  rw [map_eq_pure_bind]
  exact ends.bind _

/-- A session that ends in an error has no result. -/
theorem EndsWith.ne_ok
    {session : Session α}
    {events : List Event}
    {kind : ErrorKind}
    {message : String}
    (ends : session.EndsWith events kind message)
    (value : α) :
    session.result ≠ .ok value := by
  obtain ⟨_, fault, ended, _⟩ := ends
  rw [ended]
  exact nofun

/-- The error that follows a result is the end, after what happened before it. -/
theorem EndsWith.after
    {session : Session α}
    {value : α}
    {next : α → Session β}
    {events : List Event}
    {kind : ErrorKind}
    {message : String}
    (ends : (next value).EndsWith events kind message)
    (ended : session.result = .ok value) :
    (session >>= next).EndsWith (session.events ++ events) kind message := by
  obtain ⟨left, fault, failed, kind_eq, message_eq⟩ := ends
  rw [bind_of_ok next ended]
  exact ⟨congrArg (session.events ++ ·) left, fault, failed, kind_eq, message_eq⟩

/-- A result of two steps is a result of the second at a result of the first. -/
theorem exists_of_bind_eq_ok
    {session : Session α}
    {next : α → Session β}
    {value : β}
    (succeeded : (session >>= next).result = .ok value) :
    ∃ middle, session.result = .ok middle ∧ (next middle).result = .ok value := by
  cases ended : session.result with
  | error fault =>
      rw [bind_of_error _ ended] at succeeded
      cases succeeded
  | ok middle =>
      rw [bind_of_ok _ ended] at succeeded
      exact ⟨middle, rfl, succeeded⟩

/-- A converted result comes from a result. -/
theorem exists_of_map_eq_ok
    {session : Session α}
    {convert : α → β}
    {converted : β}
    (succeeded : (convert <$> session).result = .ok converted) :
    ∃ value, session.result = .ok value ∧ convert value = converted := by
  rw [map_eq_pure_bind] at succeeded
  obtain ⟨value, ended, same⟩ := exists_of_bind_eq_ok succeeded
  exact ⟨value, ended, Except.ok.inj same⟩

/-- Failing is the end, whatever would have followed. -/
@[simp] theorem fail_bind (fault : Fault) (next : α → Session β) :
    (fail fault >>= next : Session β) = fail fault := rfl

/-- A computation without events that has a result is that result. -/
@[simp] theorem ofExcept_ok (value : α) : ofExcept (.ok value) = pure value := rfl

/-- A computation without events that has no result fails. -/
@[simp] theorem ofExcept_error (fault : Fault) :
    (ofExcept (.error fault) : Session α) = fail fault := rfl

@[simp] theorem ofExcept_pure (value : α) :
    ofExcept (pure value) = pure value := rfl

theorem ofExcept_bind
    (first : Except Fault α)
    (next : α → Except Fault β) :
    ofExcept (first >>= next) =
      ofExcept first >>= fun value => ofExcept (next value) := by
  cases first <;> rfl

/-- Failing is seen by the kind and the wording of the fault. -/
theorem fail_failsWith (fault : Fault) :
    (fail fault : Session α).FailsWith fault.kind fault.message :=
  ⟨rfl, fault, rfl, rfl, rfl⟩

/-- A demand that can be worded and is met does not show. -/
theorem require_bind_of_met
    {demand : Demand}
    {wording : String}
    {holds : Bool}
    (worded : demand.wording? = some wording)
    (met : holds = true)
    (next : Unit → Session α) :
    require holds demand >>= next = next () := by
  rw [met, require_true worded, pure_bind]

/-- A demand that cannot be worded fails, whether it is met or not. -/
theorem require_bind_failsWith
    {demand : Demand}
    (holds : Bool)
    (unworded : demand.wording? = none)
    (next : Unit → Session α) :
    (require holds demand >>= next).FailsWith .value
      Fault.tooLongToWrite.message := by
  rw [require_of_unworded holds unworded]
  exact (fail_failsWith _).bind next

/-- The notice of a demand is worded alike as an error. -/
theorem message_refused {notice : Notice} (notKey : notice.kind ≠ .key) :
    (Fault.refused notice).message = notice.message :=
  if_neg notKey

/-- A demand that can be worded and is not met is refused in its words. -/
theorem require_bind_refusesWith
    {demand : Demand}
    {wording : String}
    {holds : Bool}
    (worded : demand.wording? = some wording)
    (unmet : holds = false)
    (next : Unit → Session α) :
    (require holds demand >>= next).RefusesWith demand.kind wording := by
  rw [unmet, require_false worded]
  refine EndsWith.bind ?_ next
  exact ⟨rfl, .refused ⟨demand.kind, wording⟩, rfl, rfl,
    message_refused demand.kind_ne_key⟩

end Session
end Readout
