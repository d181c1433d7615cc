import LogFollow.Proofs.Explorer.Session

/-!
# The end of a session

Few messages close a session, and which of them do depends on the key bindings and the focus alone.
The one that does asks for the shutdown; behind it nothing happens any more.
-/

namespace LogFollow.Explorer
set_option autoImplicit false

theorem Message.not_closes_answered {keymap : Keymap} {focus : Focus}
    (result : Except QueryError QueryResult) (reason : Closing) :
    ¬(Message.answered result).Closes keymap focus reason := by
  intro h
  cases h

/-- In the query box the bindings of the log do not count. -/
theorem Message.Closes.interrupts {keymap : Keymap} {p : KeyPress} {reason : Closing}
    (h : (Message.key p).Closes keymap .query reason) : p.key = .char 'c' ∧ p.ctrl = true := by
  cases h with
  | interrupted p hp => exact hp
  | quitted p hf hp => cases hf

namespace Session

variable {options : Options} {s s' : Session} {m : Message} {c : Option Command} {reason : Closing}

theorem takes_closing (h : Takes s m s' c) :
    (s'.closing = s.closing ∧ c ≠ some .shutDown) ∨
      ∃ reason, m.Closes s.options.keymap s.focus reason ∧
        s' = { s with closing := some reason } ∧ c = some .shutDown := by
  cases h with
  | received e => exact .inl ⟨s.receive_closing e, by simp⟩
  | asked p hf hp => exact .inl ⟨rfl, by simp [ask]⟩
  | concluded result => exact .inl ⟨conclude_closing result, by simp⟩
  | closed m reason hm => exact .inr ⟨reason, hm, rfl, rfl⟩
  | viewed | focused | edited | ticked => exact .inl ⟨rfl, by simp⟩

theorem take_of_closes (hm : m.Closes s.options.keymap s.focus reason) :
    s.take m = ({ s with closing := some reason }, some .shutDown) := by
  cases hm with
  | interrupted p hp => simp [take, pressed, hp, close]
  | quitted p hf hp =>
    have hquit : s.logKey p = s.close .quit := by simp [logKey, hp]
    by_cases hi : p.key = .char 'c' ∧ p.ctrl = true
    · simp [take, pressed, hi, close]
    · simp [take, pressed, hi, hf, hquit, close]
  | sourceFailed e => rfl
  | terminalFailed text => rfl

theorem update_closing (hopen : s.closing = none) (m : Message) :
    (∀ reason, m.Closes s.options.keymap s.focus reason →
      s.update m = ({ s with closing := some reason }, some .shutDown)) ∧
    ((∀ reason, ¬m.Closes s.options.keymap s.focus reason) →
      (s.update m).1.closing = none ∧ (s.update m).2 ≠ some .shutDown) := by
  rw [update_of_open hopen]
  refine ⟨fun reason hm => take_of_closes hm, fun hnone => ?_⟩
  rcases takes_closing (take_cases (Prod.eta (s.take m)).symm) with hstays | ⟨reason, hm, -⟩
  · exact ⟨hstays.1.trans hopen, hstays.2⟩
  · exact absurd hm (hnone reason)

theorem takes_options (h : Takes s m s' c) : s'.options = s.options := by
  cases h with
  | received e => exact s.receive_options e
  | concluded result => exact conclude_options result
  | asked | closed | viewed | focused | edited | ticked => rfl

theorem updateAll_options (options : Options) (ms : List Message) :
    ((new options).updateAll ms).1.options = options := by
  refine updateAll_keeps (P := fun s => s.options = options) (fun hs hu => ?_) rfl ms
  rcases update_cases hu with ⟨-, ht⟩ | ⟨-, rfl, -⟩
  · exact (takes_options ht).trans hs
  · exact hs

theorem updateAll_of_closed (h : s.closing.isSome) (ms : List Message) :
    s.updateAll ms = (s, []) := by
  induction ms with
  | nil => rfl
  | cons m ms ih => simp [updateAll, update_of_closed h, ih]

theorem count_shutDown (hopen : s.closing = none) (ms : List Message) :
    (s.updateAll ms).2.count .shutDown = if (s.updateAll ms).1.closing.isSome then 1 else 0 := by
  induction ms generalizing s with
  | nil => simp [updateAll, hopen]
  | cons m ms ih =>
    obtain ⟨hcloses, hstays⟩ := update_closing hopen m
    by_cases hm : ∃ reason, m.Closes s.options.keymap s.focus reason
    · -- The closing message gives the one command, and none of the others is taken.
      obtain ⟨reason, hm⟩ := hm
      have hclosed : ({ s with closing := some reason } : Session).closing.isSome := rfl
      simp [updateAll, hcloses reason hm, updateAll_of_closed hclosed]
    · obtain ⟨hopen', hquiet⟩ := hstays (not_exists.mp hm)
      have hnone : (s.update m).2.toList.count .shutDown = 0 := by
        rw [List.count_eq_zero, Option.mem_toList]
        exact hquiet
      simp only [updateAll, List.count_append, hnone, Nat.zero_add]
      exact ih hopen'

end Session

/-- A session closes once and for good. Whatever the keys are bound to and whatever messages come:
the shutdown is asked for once if the session is closed, and not before. An open session is closed by
Ctrl+C, a quit key while the focus is on the log, a failure of the source and one of the terminal,
each with its reason and with no other change; no other message closes it, so that neither an answer
nor another key in the query box does. A closed session takes no message and gives no command. -/
theorem closes_once (options : Options) (ms : List Message) :
    let s := ((Session.new options).updateAll ms).1
    let commands := ((Session.new options).updateAll ms).2
    commands.count .shutDown = (if s.closing.isSome then 1 else 0) ∧
    (s.closing = none → ∀ m,
      (∀ reason, m.Closes options.keymap s.focus reason →
        s.update m = ({ s with closing := some reason }, some .shutDown)) ∧
      ((∀ reason, ¬m.Closes options.keymap s.focus reason) →
        (s.update m).1.closing = none ∧ (s.update m).2 ≠ some .shutDown)) ∧
    (s.closing = none → (∀ result, (s.update (.answered result)).1.closing = none) ∧
      (s.focus = .query → ∀ p : KeyPress, ¬(p.key = .char 'c' ∧ p.ctrl = true) →
        (s.update (.key p)).1.closing = none)) ∧
    (s.closing.isSome → ∀ more, s.updateAll more = (s, [])) := by
  intro s commands
  have hoptions : s.options = options := Session.updateAll_options options ms
  have hstep : s.closing = none → ∀ m,
      (∀ reason, m.Closes options.keymap s.focus reason →
        s.update m = ({ s with closing := some reason }, some .shutDown)) ∧
      ((∀ reason, ¬m.Closes options.keymap s.focus reason) →
        (s.update m).1.closing = none ∧ (s.update m).2 ≠ some .shutDown) := by
    intro hopen m
    rw [← hoptions]
    exact Session.update_closing hopen m
  refine ⟨Session.count_shutDown rfl ms, hstep, fun hopen => ⟨fun result => ?_, ?_⟩,
    Session.updateAll_of_closed⟩
  · exact ((hstep hopen _).2 (Message.not_closes_answered result)).1
  · intro hfocus p hp
    refine ((hstep hopen _).2 ?_).1
    intro reason hm
    rw [hfocus] at hm
    exact hp hm.interrupts

/-- The tab is bound to quitting as well as to switching the focus: it closes the session, and the
failure of the source behind it is not taken. -/
theorem closes_once_of_shared_key : ∃ options s,
    options.keymap = { Keymap.initial with quit := .of .quit ⟨.tab, false, false⟩ "tab" } ∧
    s = ((Session.new options).updateAll [.tick, .key ⟨.tab, false, false, false⟩,
      .sourceFailed (.throttled "slow")]).1 ∧
    s.closing = some .quit ∧ s.focus = .log ∧ ∀ more, s.updateAll more = (s, []) := by
  let keymap : Keymap := { Keymap.initial with quit := .of .quit ⟨.tab, false, false⟩ "tab" }
  let options : Options := ⟨keymap, 2, .received, fun _ => 0⟩
  have hclosed : ((Session.new options).updateAll [.tick, .key ⟨.tab, false, false, false⟩,
      .sourceFailed (.throttled "slow")]).1.closing = some .quit := by decide +kernel
  refine ⟨options, _, rfl, rfl, hclosed, by decide +kernel, ?_⟩
  exact (closes_once options _).2.2.2 (by rw [hclosed]; rfl)

end LogFollow.Explorer
