import LogFollow.Config.Assign
import LogFollow.Proofs.Config.Saved

/-!
# Calls in place

A call that sets a setting in place either does what the change of the whole configuration does, or
fails and leaves the configuration as it was, for it looks at its text before it writes.
-/

namespace LogFollow.Config
set_option autoImplicit false

/-- What a call in place comes to that either makes a configuration or fails. -/
def inPlace (c : Config) : Except ConfigError Config → EStateM.Result ConfigError Config Unit
  | .ok c' => .ok () c'
  | .error e => .error e c

variable {c c' d : Config} {name text : String} {e : ConfigError}

theorem inPlace_eq_ok {r : Except ConfigError Config} : inPlace c r = .ok () c' ↔ r = .ok c' := by
  cases r <;> simp [inPlace]

theorem inPlace_eq_error {r : Except ConfigError Config} :
    inPlace c r = .error e d ↔ r = .error e ∧ d = c := by
  cases r <;> simp [inPlace, eq_comm]

/-- A number is read, looked at and then written. -/
theorem run_checked {wrong : Nat → Prop} [DecidablePred wrong] {reason : Nat → ConfigError}
    {write : Nat → Config → Config} (x : Except ConfigError Nat) (c : Config) :
    (do
      let n ← ofExcept x
      if wrong n then throw (reason n)
      modify (write n) : Edit).run c =
      inPlace c (x >>= fun n => if wrong n then .error (reason n) else .ok (write n c)) := by
  cases x with
  | error e => rfl
  | ok n =>
    change (if wrong n then throw (reason n) >>= fun _ => modify (write n)
      else modify (write n) : Edit).run c =
        inPlace c (if wrong n then .error (reason n) else .ok (write n c))
    by_cases hwrong : wrong n
    · rw [if_pos hwrong, if_pos hwrong]
      rfl
    · rw [if_neg hwrong, if_neg hwrong]
      rfl

theorem run_assign (s : Setting) (text : String) (c : Config) :
    (assign s text).run c = inPlace c (c.set s text) := by
  cases s with
  | logGroup => rfl
  | pollInterval | channelCapacity | queryLimit | bufferSize | tickRate =>
    exact run_checked _ c
  | queryMode | theme =>
    simp only [assign, set]
    cases word _ _ text <;> rfl
  | key a =>
    simp only [assign, set]
    cases Chord.ofName? text <;> rfl
  | endpoint =>
    simp only [assign, set]
    cases "http://".toList.isPrefixOf text.toList <;>
      cases "https://".toList.isPrefixOf text.toList <;> rfl
  | header h =>
    simp only [assign, set]
    split <;> rfl

theorem run_assignNamed (name text : String) (c : Config) :
    (assignNamed name text).run c = inPlace c (c.setNamed name text) := by
  rw [assignNamed, setNamed]
  cases Setting.ofName? name with
  | none => rfl
  | some s => exact run_assign s text c

theorem assignNamed_ok :
    (assignNamed name text).run c = .ok () c' ↔ c.setNamed name text = .ok c' := by
  rw [run_assignNamed, inPlace_eq_ok]

theorem assignNamed_error (h : (assignNamed name text).run c = .error e d) :
    c.setNamed name text = .error e ∧ d = c := by
  rwa [run_assignNamed, inPlace_eq_error] at h

theorem afterCall_eq (c : Config) (call : String × String) : c.afterCall call = c.changed call := by
  rw [afterCall, run_assignNamed, changed]
  cases c.setNamed call.1 call.2 <;> rfl

theorem afterCalls_eq (c : Config) (calls : List (String × String)) :
    c.afterCalls calls = calls.foldl changed c := by
  have hcall : afterCall = changed := funext fun c => funext fun call => afterCall_eq c call
  rw [afterCalls, hcall]

end LogFollow.Config
