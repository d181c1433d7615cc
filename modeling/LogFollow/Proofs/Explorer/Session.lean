import LogFollow.Explorer.Session
import LogFollow.Proofs.Explorer.View
import LogFollow.Proofs.Search.Local

/-!
# What a message does to a session

`Session.Takes` lists what an open session makes of a message, one case for each thing that can
happen. What holds along a run of messages is derived from these cases alone.
-/

namespace LogFollow.Explorer
set_option autoImplicit false

/-- A message that closes an open session, with the reason. -/
inductive Message.Closes (keymap : Keymap) (focus : Focus) : Message → Closing → Prop
  | interrupted (p : KeyPress) (hp : p.key = .char 'c' ∧ p.ctrl = true) :
      Closes keymap focus (.key p) .quit
  | quitted (p : KeyPress) (hf : focus = .log) (hp : keymap.quit.accepts p = true) :
      Closes keymap focus (.key p) .quit
  | sourceFailed (e : SourceError) : Closes keymap focus (.sourceFailed e) (.fatal (.source e))
  | terminalFailed (text : String) :
      Closes keymap focus (.terminalFailed text) (.fatal (.terminal text))

/-- What a message that brings no hits makes of a view: it moves the window or gives it a size. -/
inductive View.Turns (v : View) : Message → View → Prop
  | stays (p : KeyPress) : Turns v (.key p) v
  | up (p : KeyPress) (n : Nat) : Turns v (.key p) (v.scrollUp n)
  | down (p : KeyPress) (n : Nat) : Turns v (.key p) (v.scrollDown n)
  | sized (width height : Nat) : Turns v (.resized width height)
      (v.resize (logExtent (.of 0 0 width height)).1 (logExtent (.of 0 0 width height)).2)

theorem View.Turns.hits {v v' : View} {m : Message} (h : v.Turns m v') : v'.hits = v.hits := by
  cases h with
  | stays | up | down => rfl
  | sized => exact v.resize_hits _ _

theorem View.Turns.capacity {v v' : View} {m : Message} (h : v.Turns m v') :
    v'.capacity = v.capacity := by
  cases h with
  | stays | up | down => rfl
  | sized => exact v.resize_capacity _ _

namespace Session

variable {s s' : Session} {m : Message} {c : Option Command}

/-- What an open session makes of a message. -/
inductive Takes (s : Session) : Message → Session → Option Command → Prop
  | received (e : Event) : Takes s (.arrived e) (s.receive e) none
  | asked (p : KeyPress) (hf : s.focus = .query) (hp : s.options.keymap.submit.accepts p) :
      Takes s (.key p) s.ask.1 s.ask.2
  | concluded (result : Except QueryError QueryResult) :
      Takes s (.answered result) (s.conclude result) none
  | closed (m : Message) (reason : Closing) (hm : m.Closes s.options.keymap s.focus reason) :
      Takes s m { s with closing := some reason } (some .shutDown)
  | viewed (m : Message) (v : View) (hv : s.view.Turns m v) : Takes s m { s with view := v } none
  | focused (p : KeyPress) (f : Focus) (hf : s.load = .querying → f = .log) :
      Takes s (.key p) { s with focus := f } none
  | edited (p : KeyPress) (editor : Editor) (hf : s.focus = .query) :
      Takes s (.key p) { s with editor := editor } none
  | ticked (spinner : Spinner) : Takes s .tick { s with spinner := spinner } none

theorem Takes.ignored (p : KeyPress) : Takes s (.key p) s none :=
  .viewed (.key p) s.view (.stays p)

theorem logKey_cases {p : KeyPress} (hf : s.focus = .log) (h : s.logKey p = (s', c)) :
    Takes s (.key p) s' c := by
  unfold logKey at h
  simp only at h
  split at h
  · rename_i hp
    obtain ⟨rfl, rfl⟩ := Prod.mk.inj h
    exact .closed _ .quit (.quitted p hf hp)
  split at h
  · obtain ⟨rfl, rfl⟩ := Prod.mk.inj h
    split
    · exact .ignored p
    · rename_i hload
      exact .focused p .query fun hq => absurd hq hload
  split at h
  · obtain ⟨rfl, rfl⟩ := Prod.mk.inj h
    exact .viewed _ _ (.up p 1)
  split at h
  · obtain ⟨rfl, rfl⟩ := Prod.mk.inj h
    exact .viewed _ _ (.down p 1)
  split at h
  · obtain ⟨rfl, rfl⟩ := Prod.mk.inj h
    exact .viewed _ _ (.up p s.view.page)
  split at h
  · obtain ⟨rfl, rfl⟩ := Prod.mk.inj h
    exact .viewed _ _ (.down p s.view.page)
  · obtain ⟨rfl, rfl⟩ := Prod.mk.inj h
    exact .ignored p

theorem queryKey_cases {p : KeyPress} (hf : s.focus = .query) (h : s.queryKey p = (s', c)) :
    Takes s (.key p) s' c := by
  unfold queryKey at h
  split at h
  · obtain ⟨rfl, rfl⟩ := Prod.mk.inj h
    exact .focused p .log fun _ => rfl
  split at h
  · rename_i hp
    obtain ⟨rfl, rfl⟩ := Prod.mk.inj h
    exact .asked p hf hp
  · obtain ⟨rfl, rfl⟩ := Prod.mk.inj h
    exact .edited p _ hf

theorem pressed_cases {p : KeyPress} (h : s.pressed p = (s', c)) : Takes s (.key p) s' c := by
  unfold pressed at h
  split at h
  · rename_i hp
    obtain ⟨rfl, rfl⟩ := Prod.mk.inj h
    exact .closed _ .quit (.interrupted p hp)
  · cases hf : s.focus with
    | log =>
      rw [hf] at h
      exact logKey_cases hf h
    | query =>
      rw [hf] at h
      exact queryKey_cases hf h

theorem take_cases (h : s.take m = (s', c)) : Takes s m s' c := by
  cases m with
  | key p => exact pressed_cases h
  | resized width height =>
    obtain ⟨rfl, rfl⟩ := Prod.mk.inj h
    exact .viewed _ _ (.sized width height)
  | tick =>
    obtain ⟨rfl, rfl⟩ := Prod.mk.inj h
    unfold ticked
    split
    · exact .ticked _
    · exact .ticked s.spinner
  | arrived e =>
    obtain ⟨rfl, rfl⟩ := Prod.mk.inj h
    exact .received e
  | sourceFailed e =>
    obtain ⟨rfl, rfl⟩ := Prod.mk.inj h
    exact .closed _ _ (.sourceFailed e)
  | answered result =>
    obtain ⟨rfl, rfl⟩ := Prod.mk.inj h
    exact .concluded result
  | terminalFailed text =>
    obtain ⟨rfl, rfl⟩ := Prod.mk.inj h
    exact .closed _ _ (.terminalFailed text)

theorem update_cases (h : s.update m = (s', c)) :
    (s.closing = none ∧ Takes s m s' c) ∨ (s.closing.isSome ∧ s' = s ∧ c = none) := by
  unfold update at h
  split at h
  · rename_i hclosed
    obtain ⟨rfl, rfl⟩ := Prod.mk.inj h
    exact .inr ⟨hclosed, rfl, rfl⟩
  · rename_i hopen
    refine .inl ⟨?_, take_cases h⟩
    simpa [isClosed] using hopen

theorem update_of_open (h : s.closing = none) (m : Message) : s.update m = s.take m := by
  simp [update, isClosed, h]

theorem update_of_closed (h : s.closing.isSome) (m : Message) : s.update m = (s, none) := by
  simp [update, isClosed, h]

theorem update_arrived (h : s.closing = none) (e : Event) :
    (s.update (.arrived e)).1 = s.receive e := by
  rw [update_of_open h]
  rfl

theorem closing_update (h : (s.update m).1.closing = none) : s.closing = none := by
  by_contra hclosed
  rw [update_of_closed (Option.isSome_iff_ne_none.mpr hclosed)] at h
  exact hclosed h

theorem capacity_of_options (h : s'.options = s.options) : s'.capacity = s.capacity := by
  rw [capacity, capacity, h]

theorem updateAll_append (s : Session) (ms more : List Message) :
    s.updateAll (ms ++ more) = (((s.updateAll ms).1.updateAll more).1,
      (s.updateAll ms).2 ++ ((s.updateAll ms).1.updateAll more).2) := by
  induction ms generalizing s with
  | nil => rfl
  | cons m ms ih => simp only [List.cons_append, updateAll, ih, List.append_assoc]

theorem updateAll_keeps {P : Session → Prop}
    (keep : ∀ {s s' : Session} {m : Message} {c : Option Command}, P s → s.update m = (s', c) → P s')
    (hp : P s) (ms : List Message) : P (s.updateAll ms).1 := by
  induction ms generalizing s with
  | nil => exact hp
  | cons m ms ih => exact ih (keep hp rfl)

/-- Whether an event is to be shown: it holds the term of the filter, if there is one. -/
def wants (s : Session) (e : Event) : Bool := s.filter.all (Search.holds · e)

theorem wants_of_filter (h : s'.filter = s.filter) : s'.wants = s.wants := by
  funext e
  rw [wants, wants, h]

/-- A received event joins the corpus, and the view if it is to be shown. -/
theorem receive_eq (s : Session) (e : Event) : s.receive e = { s with
    corpus := (s.corpus ++ [e]).rtake s.capacity
    view := if s.wants e then s.view.push e (s.filter.bind (Search.findMatch e.message ·))
      else s.view } := by
  cases hf : s.filter with
  | none => simp [receive, wants, hf, remembered, List.rtake, capacity]
  | some term =>
    cases hm : Search.findMatch e.message term with
    | none => simp [receive, wants, hf, hm, Search.holds, remembered, List.rtake, capacity]
    | some span => simp [receive, wants, hf, hm, Search.holds, remembered, List.rtake, capacity]

section Received

variable (s : Session) (e : Event)

@[simp] theorem receive_options : (s.receive e).options = s.options := by rw [receive_eq]

@[simp] theorem receive_focus : (s.receive e).focus = s.focus := by rw [receive_eq]

@[simp] theorem receive_load : (s.receive e).load = s.load := by rw [receive_eq]

@[simp] theorem receive_editor : (s.receive e).editor = s.editor := by rw [receive_eq]

@[simp] theorem receive_closing : (s.receive e).closing = s.closing := by rw [receive_eq]

@[simp] theorem receive_capacity : (s.receive e).capacity = s.capacity := by
  rw [receive_eq]
  rfl

@[simp] theorem receive_wants : (s.receive e).wants = s.wants := by
  rw [receive_eq]
  rfl

theorem receive_corpus : (s.receive e).corpus = (s.corpus ++ [e]).rtake s.capacity := by
  rw [receive_eq]

@[simp] theorem receive_view_capacity : (s.receive e).view.capacity = s.view.capacity := by
  rw [receive_eq]
  by_cases hw : s.wants e
  · simp [hw, View.push_capacity]
  · simp [hw]

theorem receive_filter : (s.receive e).filter = s.filter := by rw [receive_eq]

theorem receive_hits : (s.receive e).view.hits =
    if s.wants e then
      (s.view.hits ++ [(⟨e, s.filter.bind (Search.findMatch e.message ·)⟩ : Hit)]).rtake
        s.view.capacity
    else s.view.hits := by
  rw [receive_eq]
  by_cases hw : s.wants e
  · simp [hw, View.push_hits]
  · simp [hw]

theorem receive_events (hc : s.view.capacity = s.capacity) :
    (s.receive e).view.events = if s.wants e then (s.view.events ++ [e]).rtake s.capacity
      else s.view.events := by
  rw [receive_eq]
  by_cases hw : s.wants e
  · simp [hw, ← View.map_event_hits, View.push_hits, hc, List.rtake, List.map_drop]
  · simp [hw]

end Received

theorem receiveAll_closing (s : Session) (events : List Event) :
    (s.receiveAll events).closing = s.closing := by
  induction events generalizing s with
  | nil => rfl
  | cons e events ih => exact (ih (s.receive e)).trans (s.receive_closing e)

section Concluded

variable (result : Except QueryError QueryResult)

theorem conclude_options : (s.conclude result).options = s.options := by
  unfold conclude
  split
  · rfl
  · cases result <;> rfl

theorem conclude_capacity : (s.conclude result).capacity = s.capacity :=
  capacity_of_options (conclude_options result)

theorem conclude_editor : (s.conclude result).editor = s.editor := by
  unfold conclude
  split
  · rfl
  · cases result <;> rfl

theorem conclude_closing : (s.conclude result).closing = s.closing := by
  unfold conclude
  split
  · rfl
  · cases result <;> rfl

theorem conclude_corpus : (s.conclude result).corpus = s.corpus := by
  unfold conclude
  split
  · rfl
  · cases result <;> rfl

theorem conclude_load : (s.conclude result).load = .idle := by
  unfold conclude
  split
  · assumption
  · cases result <;> rfl

theorem conclude_of_idle (hload : s.load = .idle) : s.conclude result = s := by
  simp only [conclude, hload]

theorem conclude_view_capacity : (s.conclude result).view.capacity = s.view.capacity := by
  unfold conclude
  split
  · rfl
  · cases result with
    | error e => rfl
    | ok r => exact View.replace_capacity _ _

/-- Only a result changes what is shown, and with it the filter. -/
theorem conclude_cases :
    ((s.conclude result).view = s.view ∧ (s.conclude result).filter = s.filter) ∨
      ∃ r, result = .ok r ∧ (s.conclude result).view = s.view.replace r.hits ∧
        (s.conclude result).filter = if r.term == "" then none else some r.term := by
  unfold conclude
  split
  · exact .inl ⟨rfl, rfl⟩
  · cases result with
    | error e => exact .inl ⟨rfl, rfl⟩
    | ok r => exact .inr ⟨r, rfl, rfl, rfl⟩

end Concluded

theorem holds_of_filter (term : String) (e : Event) :
    (if term == "" then none else some term).all (Search.holds · e) = Search.holds term e := by
  by_cases hterm : term = ""
  · simp [hterm, Search.holds_empty]
  · simp [hterm]

theorem conclude_wants (hload : s.load = .querying) (r : QueryResult) :
    (s.conclude (.ok r)).wants = Search.holds r.term := by
  funext e
  simp only [conclude, hload, wants]
  exact holds_of_filter r.term e

theorem conclude_hits (hload : s.load = .querying) (r : QueryResult) :
    (s.conclude (.ok r)).view.hits = r.hits.rtake s.view.capacity := by
  simp only [conclude, hload]
  exact View.replace_hits _ _

theorem conclude_events (hload : s.load = .querying) (r : QueryResult) :
    (s.conclude (.ok r)).view.events = (r.hits.map (·.event)).rtake s.view.capacity := by
  rw [← View.map_event_hits, conclude_hits hload]
  simp [List.rtake, List.map_drop]

end Session
end LogFollow.Explorer
