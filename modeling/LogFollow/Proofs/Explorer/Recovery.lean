import LogFollow.Proofs.Explorer.Session

/-!
# What a failed query leaves behind

A query that fails is as if it had never been sent out. While it is under way, events arrive, the
reader scrolls and the window changes as they do in a session whose focus is on the log; the failure
then puts only a status beside them. Two sessions that show the same, one of them with a query under
way, show the same after the same messages.
-/

namespace LogFollow.Explorer
set_option autoImplicit false

/-- A message that neither closes a session nor moves its focus nor ends a query. -/
def Message.Mild (keymap : Keymap) : Message → Prop
  | .key p => ¬(p.key = .char 'c' ∧ p.ctrl = true) ∧ keymap.quit.accepts p = false ∧
      keymap.switchFocus.accepts p = false
  | .resized _ _ | .tick | .arrived _ => True
  | .sourceFailed _ | .answered _ | .terminalFailed _ => False

instance (keymap : Keymap) : DecidablePred (Message.Mild keymap)
  | .key _ => inferInstanceAs (Decidable (_ ∧ _ ∧ _))
  | .resized _ _ | .tick | .arrived _ => .isTrue trivial
  | .sourceFailed _ | .answered _ | .terminalFailed _ => .isFalse id

/-- A key that sends out the text of the query box. -/
def Keymap.Submits (keymap : Keymap) (p : KeyPress) : Prop :=
  ¬(p.key = .char 'c' ∧ p.ctrl = true) ∧ keymap.switchFocus.accepts p = false ∧
    keymap.submit.accepts p = true

instance (keymap : Keymap) : DecidablePred keymap.Submits :=
  fun _ => inferInstanceAs (Decidable (_ ∧ _ ∧ _))

/-- A key that leaves the query box. -/
def Keymap.Leaves (keymap : Keymap) (p : KeyPress) : Prop :=
  ¬(p.key = .char 'c' ∧ p.ctrl = true) ∧ keymap.switchFocus.accepts p = true

instance (keymap : Keymap) : DecidablePred keymap.Leaves :=
  fun _ => inferInstanceAs (Decidable (_ ∧ _))

/-- The view after a key that may be bound to scrolling. -/
def View.scrolled (v : View) (keymap : Keymap) (p : KeyPress) : View :=
  if keymap.scrollUp.accepts p then v.scrollUp 1
  else if keymap.scrollDown.accepts p then v.scrollDown 1
  else if keymap.pageUp.accepts p then v.scrollUp v.page
  else if keymap.pageDown.accepts p then v.scrollDown v.page
  else v

namespace Session

/-- Two open sessions with the focus on the log, and with the options, the filter and the text in the
query box of a third one. They show the same and have received the same. -/
structure Alike (r s t : Session) : Prop where
  options : s.options = r.options ∧ t.options = r.options
  filter : s.filter = r.filter ∧ t.filter = r.filter
  text : s.editor.value = r.editor.value ∧ t.editor.value = r.editor.value
  focus : s.focus = .log ∧ t.focus = .log
  opened : s.closing = none ∧ t.closing = none
  view : s.view = t.view
  corpus : s.corpus = t.corpus

variable {r s t : Session} {p q : KeyPress} {m : Message} {ms : List Message}

theorem logKey_of_mild (hm : (Message.key p).Mild s.options.keymap) :
    s.logKey p = ({ s with view := s.view.scrolled s.options.keymap p }, none) := by
  obtain ⟨-, hquit, hswitch⟩ := hm
  simp only [logKey, hquit, hswitch, View.scrolled, Bool.false_eq_true, if_false]
  split_ifs <;> rfl

theorem update_key_of_mild (hopen : s.closing = none) (hfocus : s.focus = .log)
    (hm : (Message.key p).Mild s.options.keymap) :
    (s.update (.key p)).1 = { s with view := s.view.scrolled s.options.keymap p } := by
  rw [update_of_open hopen]
  simp only [take, pressed, if_neg hm.1, hfocus, logKey_of_mild hm]

theorem Alike.receive (h : Alike r s t) (e : Event) : Alike r (s.receive e) (t.receive e) := by
  have hfilter := h.filter.1.trans h.filter.2.symm
  have hcapacity := capacity_of_options (h.options.1.trans h.options.2.symm)
  simp only [receive_eq, wants_of_filter hfilter, hcapacity, h.view, h.corpus, hfilter]
  exact ⟨h.options, ⟨h.filter.2, h.filter.2⟩, h.text, h.focus, h.opened, rfl, rfl⟩

theorem Alike.update (h : Alike r s t) (hm : m.Mild r.options.keymap) :
    Alike r (s.update m).1 (t.update m).1 := by
  obtain ⟨hoptions, hoptions'⟩ := h.options
  obtain ⟨hopen, hopen'⟩ := h.opened
  cases m with
  | key p =>
    rw [update_key_of_mild hopen h.focus.1 (hoptions ▸ hm),
      update_key_of_mild hopen' h.focus.2 (hoptions' ▸ hm)]
    exact { h with view := by rw [h.view, hoptions, hoptions'] }
  | arrived e =>
    rw [update_arrived hopen, update_arrived hopen']
    exact h.receive e
  | resized width height =>
    rw [update_of_open hopen, update_of_open hopen']
    exact { h with view := by simp only [take, resized, h.view] }
  | tick =>
    rw [update_of_open hopen, update_of_open hopen']
    simp only [take, ticked]
    -- The spinner moves only where a query is under way, and nobody compares the spinners.
    split <;> split <;> exact { h with }
  | sourceFailed | answered | terminalFailed => exact hm.elim

theorem Alike.updateAll (h : Alike r s t) (hms : ∀ m ∈ ms, m.Mild r.options.keymap) :
    Alike r (s.updateAll ms).1 (t.updateAll ms).1 := by
  induction ms generalizing s t with
  | nil => exact h
  | cons m ms ih =>
    obtain ⟨hm, hrest⟩ := List.forall_mem_cons.mp hms
    exact ih (h.update hm) hrest

/-- A query that is sent out moves the focus to the log, and so does the key that leaves the query
box. -/
theorem alike_ask (hopen : s.closing = none) : Alike s s.ask.1 { s with focus := .log } :=
  ⟨⟨rfl, rfl⟩, ⟨rfl, rfl⟩, ⟨rfl, rfl⟩, ⟨rfl, rfl⟩, ⟨hopen, hopen⟩, rfl, rfl⟩

theorem Alike.fail (h : Alike r s t) (e : QueryError) :
    Alike r (s.update (.answered (.error e))).1 t := by
  rw [update_of_open h.opened.1]
  cases hload : s.load with
  | idle => simpa only [take, conclude_of_idle _ hload] using h
  | querying =>
    simp only [take, conclude, hload]
    exact { h with focus := ⟨rfl, h.focus.2⟩ }

theorem updateAll_cons (s : Session) (m : Message) (ms : List Message) :
    (s.updateAll (m :: ms)).1 = ((s.update m).1.updateAll ms).1 := rfl

theorem updateAll_concat (s : Session) (ms : List Message) (m : Message) :
    (s.updateAll (ms ++ [m])).1 = ((s.updateAll ms).1.update m).1 := by
  rw [updateAll_append]
  rfl

theorem update_of_submits (hopen : s.closing = none) (hfocus : s.focus = .query)
    (hp : s.options.keymap.Submits p) : (s.update (.key p)).1 = s.ask.1 := by
  obtain ⟨hinterrupt, hswitch, hsubmit⟩ := hp
  rw [update_of_open hopen]
  simp only [take, pressed, if_neg hinterrupt, hfocus, queryKey, hswitch, hsubmit,
    Bool.false_eq_true, if_false, if_true]

theorem update_of_leaves (hopen : s.closing = none) (hfocus : s.focus = .query)
    (hq : s.options.keymap.Leaves q) : (s.update (.key q)).1 = { s with focus := .log } := by
  obtain ⟨hinterrupt, hswitch⟩ := hq
  rw [update_of_open hopen]
  simp only [take, pressed, if_neg hinterrupt, hfocus, queryKey, hswitch, if_true]

/-- The failure of a query ends it and nothing else. -/
theorem alike_failed (hopen : s.closing = none) (hfocus : s.focus = .query)
    (hp : s.options.keymap.Submits p) (hq : s.options.keymap.Leaves q)
    (hms : ∀ m ∈ ms, m.Mild s.options.keymap) (e : QueryError) :
    Alike s (s.updateAll (.key p :: ms ++ [.answered (.error e)])).1
        (s.updateAll (.key q :: ms)).1 ∧
      (s.updateAll (.key p :: ms ++ [.answered (.error e)])).1.load = .idle := by
  have hasked : (s.updateAll (.key p :: ms ++ [.answered (.error e)])).1 =
      ((s.ask.1.updateAll ms).1.update (.answered (.error e))).1 := by
    rw [updateAll_concat, updateAll_cons, update_of_submits hopen hfocus hp]
  have hleft : (s.updateAll (.key q :: ms)).1 =
      ({ s with focus := .log }.updateAll ms).1 := by
    rw [updateAll_cons, update_of_leaves hopen hfocus hq]
  have halike := (alike_ask hopen).updateAll hms
  rw [hasked, hleft]
  refine ⟨halike.fail e, ?_⟩
  rw [update_of_open halike.opened.1]
  exact conclude_load _

end Session

/-- A query that fails leaves no mark. From any open session with the focus in the query box: if a
query is sent out, events arrive, the reader scrolls, the window changes, and the query fails, then
what is shown and where, what has been received, the filter and the text of the query box are as if
the box had only been left, and stay so as more of that comes. The session is open and idle, and what
arrives is filtered by the term from before the query. -/
theorem failure_leaves_no_mark {s : Session} {p q : KeyPress} {ms : List Message}
    (hopen : s.closing = none) (hfocus : s.focus = .query) (hp : s.options.keymap.Submits p)
    (hq : s.options.keymap.Leaves q) (hms : ∀ m ∈ ms, m.Mild s.options.keymap) (e : QueryError) :
    let failed := (s.updateAll (.key p :: ms ++ [.answered (.error e)])).1
    let left := (s.updateAll (.key q :: ms)).1
    (∀ more : List Message, (∀ m ∈ more, m.Mild s.options.keymap) →
      (failed.updateAll more).1.view = (left.updateAll more).1.view ∧
      (failed.updateAll more).1.corpus = (left.updateAll more).1.corpus ∧
      (failed.updateAll more).1.filter = (left.updateAll more).1.filter ∧
      (failed.updateAll more).1.editor.value = (left.updateAll more).1.editor.value) ∧
    failed.closing = none ∧ failed.load = .idle ∧ failed.focus = .log ∧
    failed.filter = s.filter ∧ failed.editor.value = s.editor.value ∧
    ∀ event, (failed.update (.arrived event)).1.view =
      if s.wants event then failed.view.push event (s.filter.bind (Search.findMatch event.message ·))
      else failed.view := by
  intro failed left
  obtain ⟨halike, hidle⟩ := Session.alike_failed hopen hfocus hp hq hms e
  refine ⟨fun more hmore => ?_, halike.opened.1, hidle, halike.focus.1, halike.filter.1,
    halike.text.1, fun event => ?_⟩
  · have hlater := halike.updateAll hmore
    exact ⟨hlater.view, hlater.corpus, hlater.filter.1.trans hlater.filter.2.symm,
      hlater.text.1.trans hlater.text.2.symm⟩
  · rw [Session.update_arrived halike.opened.1, Session.receive_eq,
      Session.wants_of_filter halike.filter.1, halike.filter.1]

/-- A query is sent out from a view filtered for another term. An event that holds that term arrives,
and the view is scrolled and made smaller, before the query fails. -/
theorem failure_leaves_no_mark_of_arrivals : ∃ (s : Session) (ms : List Message),
    s.closing = none ∧ s.focus = .query ∧ s.filter = some "b" ∧ s.editor.value = "bx" ∧
    ms = [.arrived ⟨7, 0, "ab"⟩, .arrived ⟨8, 0, "c"⟩, .key ⟨.up, false, false, false⟩, .tick,
      .resized 20 9] ∧
    ∀ e, let failed := (s.updateAll
        (.key ⟨.enter, false, false, false⟩ :: ms ++ [.answered (.error e)])).1
      failed.view.hits = [⟨⟨5, 0, "b"⟩, some ⟨0, 1⟩⟩, ⟨⟨7, 0, "ab"⟩, some ⟨1, 2⟩⟩] ∧
      failed.view.following = false ∧
      failed.load = .idle ∧ failed.filter = some "b" := by
  have hreached : ∃ (s : Session) (ms : List Message),
      s.options = ⟨.initial, 2, .source, fun _ => 0⟩ ∧
      s.closing = none ∧ s.focus = .query ∧ s.filter = some "b" ∧ s.editor.value = "bx" ∧
      ms = [.arrived ⟨7, 0, "ab"⟩, .arrived ⟨8, 0, "c"⟩, .key ⟨.up, false, false, false⟩, .tick,
        .resized 20 9] ∧
      (s.updateAll (.key ⟨.tab, false, false, false⟩ :: ms)).1.view.hits =
        [⟨⟨5, 0, "b"⟩, some ⟨0, 1⟩⟩, ⟨⟨7, 0, "ab"⟩, some ⟨1, 2⟩⟩] ∧
      (s.updateAll (.key ⟨.tab, false, false, false⟩ :: ms)).1.view.following = false := by
    refine ⟨((Session.new ⟨.initial, 2, .source, fun _ => 0⟩).updateAll
      [.arrived ⟨5, 0, "b"⟩, .key ⟨.tab, false, false, false⟩,
        .key ⟨.char 'b', false, false, false⟩, .key ⟨.enter, false, false, false⟩,
        .answered (.ok ⟨"b", [⟨⟨5, 0, "b"⟩, some ⟨0, 1⟩⟩]⟩), .key ⟨.tab, false, false, false⟩,
        .key ⟨.char 'x', false, false, false⟩]).1, _, rfl, ?_, ?_, ?_, ?_, rfl, ?_, ?_⟩
    all_goals decide +kernel
  obtain ⟨s, ms, hoptions, hopen, hfocus, hfilter, htext, hms, hhits, hfollowing⟩ := hreached
  refine ⟨s, ms, hopen, hfocus, hfilter, htext, hms, fun e => ?_⟩
  have hmild : ∀ m ∈ ms, m.Mild s.options.keymap := by
    rw [hms, hoptions]
    decide +kernel
  have hsubmits : s.options.keymap.Submits ⟨.enter, false, false, false⟩ := by
    rw [hoptions]
    decide +kernel
  have hleaves : s.options.keymap.Leaves ⟨.tab, false, false, false⟩ := by
    rw [hoptions]
    decide +kernel
  obtain ⟨hsame, -, hidle, -, hkept, -⟩ :=
    failure_leaves_no_mark hopen hfocus hsubmits hleaves hmild e
  obtain ⟨hview, -⟩ := hsame [] (by simp)
  simp only [Session.updateAll] at hview ⊢
  rw [hview]
  exact ⟨hhits, hfollowing, hidle, hkept.trans hfilter⟩

end LogFollow.Explorer
