import LogFollow.Proofs.Output.Following

/-!
# Output that breaks off

A follower that writes to a sink stops where the sink fails, at any piece of any line and at any
flush. Nothing is written behind the failure. If the reader has gone away the stream is cancelled and
the lines counted so far are the result, otherwise the failure is.
-/

namespace LogFollow.Output
set_option autoImplicit false

open LogFollow.Stream (State Happening emissions reports)

variable {sink : Sink} {format : Format} {events : List Event} {e : Event} {f : Follower} {n : Nat}

/-- What comes of an event that a reading follower prints, and whether it cancels the stream. -/
inductive Prints (sink : Sink) (format : Format) (f : Follower) (e : Event)
    (r : Follower × Bool) : Prop
  | flushed (ha : sink.accepted f.written.pieces [format.line e, "\n"] = 2)
      (hw : r.1.written = ⟨f.written.pieces ++ [format.line e, "\n"], f.written.flushes + 1⟩)
      (hc : r.1.count = f.count + 1) (hf : sink.flushes (f.written.flushes + 1) = true)
      (hm : r.1.mode = f.mode) (hr : r.2 = false)
  | unflushed (ha : sink.accepted f.written.pieces [format.line e, "\n"] = 2)
      (hw : r.1.written = ⟨f.written.pieces ++ [format.line e, "\n"], f.written.flushes + 1⟩)
      (hc : r.1.count = f.count + 1) (hf : sink.flushes (f.written.flushes + 1) = false)
      (hm : r.1.mode = if sink.flushCloses then .closing (.ok (f.count + 1))
        else .aborted sink.flushFailure)
      (hr : r.2 = sink.flushCloses)
  | refused (rest : String) (ha : sink.accepted f.written.pieces [format.line e, "\n"] < 2)
      (ho : r.1.written.pieces.length =
        f.written.pieces.length + sink.accepted f.written.pieces [format.line e, "\n"] + 1)
      (hw : r.1.written.text = f.written.text ++ rest)
      (hrest : rest.toList <+: (format.line e).toList) (hc : r.1.count = f.count)
      (hm : r.1.mode = if sink.closes then .closing (.ok f.count) else .aborted sink.writeFailure)
      (hr : r.2 = sink.closes)

theorem printEvent_prints (sink : Sink) (format : Format) (f : Follower) (e : Event) :
    Prints sink format f e (f.printEvent sink format e) := by
  rcases writeLine_cases sink f.written (format.line e) with
    ⟨htaken, hline⟩ | ⟨hrefused, w', rest, hline, -, hoffered, htext, hrest⟩
  · rw [Follower.printEvent, hline]
    simp only [flush_eq]
    cases hflush : sink.flushes (f.written.flushes + 1) with
    | true => exact .flushed htaken rfl rfl hflush rfl rfl
    | false =>
      cases hcloses : sink.flushCloses with
      | true => exact .unflushed htaken rfl rfl hflush (by rw [hcloses]; rfl) hcloses.symm
      | false => exact .unflushed htaken rfl rfl hflush (by rw [hcloses]; rfl) hcloses.symm
  · rw [Follower.printEvent, hline, Sink.refusal]
    cases hcloses : sink.closes with
    | true => exact .refused rest hrefused hoffered htext hrest rfl (by rw [hcloses]; rfl) hcloses.symm
    | false => exact .refused rest hrefused hoffered htext hrest rfl (by rw [hcloses]; rfl) hcloses.symm

/-- All flushes up to this one have succeeded. -/
def Sink.FlushedTo (sink : Sink) (last : Nat) : Prop :=
  ∀ flush, 0 < flush → flush ≤ last → sink.flushes flush = true

namespace Following

/-- The lines of the first events of the stream have been taken as wholes, as many as were counted,
with a flush for each. -/
structure Wrote (sink : Sink) (format : Format) (t : Following) : Prop where
  pieces : t.follower.written.pieces = format.pieces ((emissions t.record).take t.follower.count)
  flushes : t.follower.written.flushes = t.follower.count
  emitted : t.follower.count ≤ (emissions t.record).length
  taken : 2 * t.follower.count ≤ sink.accepted [] (format.pieces (emissions t.record))

/-- How far the output of a stream has come that has not failed: the follower goes on, or it has come
to the end of the stream, to a piece that the sink did not take, or to a flush that failed. -/
inductive Stage (sink : Sink) (format : Format) (t : Following) : Prop
  | whole (hm : t.follower.mode = .reading) (hw : t.Wrote sink format)
      (hf : sink.FlushedTo t.follower.count)
      (hq : t.state.queue = (emissions t.record).drop t.follower.count)
  | ended (hm : t.follower.mode = .closing (.ok t.follower.count)) (hw : t.Wrote sink format)
      (hf : sink.FlushedTo t.follower.count) (hs : t.state.isStopped = true)
      (hall : t.follower.count = (emissions t.record).length)
  | refused
      (hm : t.follower.mode = if sink.closes then .closing (.ok t.follower.count)
        else .aborted sink.writeFailure)
      (ht : BreaksOff format (emissions t.record) t.follower.count t.follower.written.text)
      (hlt : sink.accepted [] (format.pieces (emissions t.record)) < 2 * (emissions t.record).length)
      (hn : t.follower.count = sink.accepted [] (format.pieces (emissions t.record)) / 2)
      (ho : t.follower.written.pieces.length =
        sink.accepted [] (format.pieces (emissions t.record)) + 1)
      (hf : sink.FlushedTo t.follower.count)
      (hc : sink.closes = true → t.state.cancelled = true)
  | unflushed (count : Nat) (hcount : t.follower.count = count + 1)
      (hm : t.follower.mode = if sink.flushCloses then .closing (.ok (count + 1))
        else .aborted sink.flushFailure)
      (hw : t.Wrote sink format) (hf : sink.FlushedTo count)
      (hfails : sink.flushes (count + 1) = false)
      (hc : sink.flushCloses = true → t.state.cancelled = true)

variable {t t' : Following} {config : Stream.Config} {s : State} {m : Stream.Move}
  {new : List Happening} {queue : List Event}

theorem Wrote.text (hw : t.Wrote sink format) :
    t.follower.written.text = format.lines ((emissions t.record).take t.follower.count) := by
  rw [Written.text, hw.pieces, format.text_pieces]

theorem Wrote.length_pieces (hw : t.Wrote sink format) :
    t.follower.written.pieces.length = 2 * t.follower.count := by
  rw [hw.pieces, format.length_pieces, List.length_take_of_le hw.emitted]

theorem Wrote.moves (hw : t.Wrote sink format) (s : State) (new : List Happening) :
    { t with state := s, record := t.record ++ new }.Wrote sink format := by
  refine ⟨?_, hw.flushes, ?_, ?_⟩
  · rw [hw.pieces, Stream.emissions_append, List.take_append_of_le_length hw.emitted]
  · rw [Stream.emissions_append, List.length_append]
    exact Nat.le_add_right_of_le hw.emitted
  · rw [Stream.emissions_append, format.pieces_append]
    exact hw.taken.trans accepted_le_append

/-- What the sink has taken before an event decides how much of the stream it takes at all. -/
theorem Wrote.accepted (hw : t.Wrote sink format)
    (hq : (emissions t.record).drop t.follower.count = e :: queue) :
    sink.accepted [] (format.pieces (emissions t.record)) =
      2 * t.follower.count + sink.accepted t.follower.written.pieces (format.pieces (e :: queue)) := by
  have hsplit : format.pieces (emissions t.record) =
      t.follower.written.pieces ++ format.pieces (e :: queue) := by
    rw [hw.pieces, ← hq, ← format.pieces_append, List.take_append_drop]
  have hlength := hw.length_pieces
  have htaken := hw.taken
  have hbound := accepted_le sink [] t.follower.written.pieces
  rw [hsplit, accepted_append, List.nil_append] at htaken ⊢
  split at htaken
  · rename_i hall
    rw [if_pos hall, hlength]
  · omega

theorem Wrote.prints (hw : t.Wrote sink format)
    (hq : (emissions t.record).drop t.follower.count = e :: queue)
    (ha : sink.accepted t.follower.written.pieces [format.line e, "\n"] = 2)
    (hwritten : f.written = ⟨t.follower.written.pieces ++ [format.line e, "\n"],
      t.follower.written.flushes + 1⟩)
    (hcount : f.count = t.follower.count + 1) :
    { t with follower := f, state := s }.Wrote sink format := by
  have hget : (emissions t.record)[t.follower.count]? = some e := by
    rw [← List.head?_drop, hq]
    rfl
  refine ⟨?_, ?_, ?_, ?_⟩
  · simp only [hwritten, hcount]
    rw [List.take_add_one, hget, format.pieces_append, hw.pieces]
    rfl
  · simp only [hwritten, hcount, hw.flushes]
  · simp only [hcount]
    exact (List.getElem?_eq_some_iff.mp hget).1
  · simp only [hcount]
    rw [hw.accepted hq, accepted_pieces_cons, if_pos ha]
    omega

theorem Stage.moves (hstage : t.Stage sink format) (hs : Stream.Step config t.state m s new)
    (hm : isReaders m = false) : { t with state := s, record := t.record ++ new }.Stage sink format := by
  have hcancelled : t.state.cancelled = true → s.cancelled = true := by
    intro hc
    rcases isTasks_of_not_isReaders hm with htask | rfl
    · rw [(Stream.task_step hs htask).2.1, hc]
    · cases hs
      rfl
  cases hstage with
  | whole hmode hw hf hq =>
    refine .whole hmode (hw.moves s new) hf ?_
    have hqueue : s.queue = t.state.queue ++ emissions new := by
      rcases isTasks_of_not_isReaders hm with htask | rfl
      · exact (Stream.task_step hs htask).2.2
      · cases hs
        exact (List.append_nil _).symm
    rw [Stream.emissions_append, List.drop_append_of_le_length hw.emitted, ← hq]
    exact hqueue
  | ended hmode hw hf hstop hall =>
    obtain ⟨rfl, hsame⟩ := stopped_moves hs hm hstop
    refine .ended hmode (hw.moves s []) hf ?_ (by rw [List.append_nil]; exact hall)
    rcases hsame with rfl | rfl <;> exact hstop
  | refused hmode ht hlt hn ho hf hc =>
    have hsame : sink.accepted [] (format.pieces (emissions (t.record ++ new))) =
        sink.accepted [] (format.pieces (emissions t.record)) := by
      rw [Stream.emissions_append, format.pieces_append]
      exact accepted_append_of_lt (by rwa [format.length_pieces])
    refine .refused hmode ?_ ?_ (hn.trans (congrArg (· / 2) hsame.symm))
      (ho.trans (congrArg (· + 1) hsame.symm)) hf fun h => hcancelled (hc h)
    · rw [Stream.emissions_append]
      exact ht.append _
    · rw [hsame, Stream.emissions_append, List.length_append]
      omega
  | unflushed count hcount hmode hw hf hfails hc =>
    exact .unflushed count hcount hmode (hw.moves s new) hf hfails fun h => hcancelled (hc h)

theorem Stage.prints (hmode : t.follower.mode = .reading) (hw : t.Wrote sink format)
    (hf : sink.FlushedTo t.follower.count)
    (hq : (emissions t.record).drop t.follower.count = e :: queue) :
    { t with
      follower := (t.follower.printEvent sink format e).1
      state :=
        if (t.follower.printEvent sink format e).2 then
          { Follower.abandon t.state with cancelled := true }
        else { t.state with queue := queue } }.Stage sink format := by
  have hprints := printEvent_prints sink format t.follower e
  generalize t.follower.printEvent sink format e = r at hprints ⊢
  obtain ⟨f, closed⟩ := r
  cases hprints with
  | flushed ha hwritten hcount hflush hm hr =>
    obtain rfl : closed = false := hr
    have hwrote := hw.prints (s := { t.state with queue := queue }) hq ha hwritten hcount
    simp only at hcount hm hflush
    refine .whole (hm.trans hmode) hwrote ?_ ?_
    · intro flush hpos hle
      rcases Nat.lt_or_eq_of_le hle with hlt | heq
      · exact hf flush hpos (by simp only [hcount] at hlt; omega)
      · rw [heq]
        simp only [hcount]
        rw [← hw.flushes]
        exact hflush
    · simp only [hcount]
      rw [← List.drop_drop, hq]
      rfl
  | unflushed ha hwritten hcount hflush hm hr =>
    have hwrote := hw.prints (s := if closed = true then
      { Follower.abandon t.state with cancelled := true } else { t.state with queue := queue })
      hq ha hwritten hcount
    refine .unflushed t.follower.count hcount hm hwrote hf (hw.flushes ▸ hflush) ?_
    intro hcloses
    obtain rfl : closed = true := hr.trans hcloses
    rfl
  | refused rest ha hoffered hwritten hrest hcount hm hr =>
    have hlength : t.follower.count + (e :: queue).length = (emissions t.record).length := by
      rw [← hq, List.length_drop]
      have := hw.emitted
      omega
    have haccepted := hw.accepted hq
    rw [accepted_pieces_cons, if_neg (Nat.ne_of_lt ha)] at haccepted
    rw [List.length_cons] at hlength
    have hnext : (emissions t.record)[t.follower.count]? = some e := by
      rw [← List.head?_drop, hq]
      rfl
    have hpieces := hw.length_pieces
    simp only at hcount hm hwritten hoffered
    refine .refused ?_ ?_ ?_ ?_ ?_ ?_ ?_
    · simpa only [hcount] using hm
    · simp only [hcount, hwritten, hw.text]
      exact breaksOff_at hnext hrest
    · simp only
      omega
    · simp only [hcount]
      omega
    · simp only
      omega
    · simp only [hcount]
      exact hf
    · intro hcloses
      obtain rfl : closed = true := hr.trans hcloses
      rfl

theorem Stage.of_reading (hstage : t.Stage sink format) (hm : t.follower.mode = .reading) :
    t.Wrote sink format ∧ sink.FlushedTo t.follower.count ∧
      t.state.queue = (emissions t.record).drop t.follower.count := by
  cases hstage with
  | whole _ hw hf hq => exact ⟨hw, hf, hq⟩
  | ended hmode => cases hm.symm.trans hmode
  | refused hmode | unflushed _ _ hmode =>
    rw [hm] at hmode
    split at hmode <;> cases hmode

theorem Stage.not_draining (hstage : t.Stage sink format) (err : SourceError) :
    t.follower.mode ≠ .draining err := by
  intro hm
  cases hstage with
  | whole hmode | ended hmode => cases hm.symm.trans hmode
  | refused hmode | unflushed _ _ hmode =>
    rw [hm] at hmode
    split at hmode <;> cases hmode

theorem Stage.turn (hstage : t.Stage sink format) (hnone : t.state.report = none)
    (ht : Turn sink format t t') : t'.Stage sink format := by
  cases ht with
  | prints e queue hm hq =>
    obtain ⟨hw, hf, hrest⟩ := hstage.of_reading hm
    exact Stage.prints hm hw hf (hrest.symm.trans hq)
  | hears e hm hl hr | finds e hm hq hs hc hr => cases hnone.symm.trans hr
  | hearsNothing hm hl hs hr =>
    obtain ⟨hw, hf, hq⟩ := hstage.of_reading hm
    exact .whole hm ⟨hw.pieces, hw.flushes, hw.emitted, hw.taken⟩ hf hq
  | ends hm hq hs hr =>
    obtain ⟨hw, hf, hrest⟩ := hstage.of_reading hm
    have hlength := congrArg List.length (hrest.symm.trans hq)
    rw [List.length_drop, List.length_nil] at hlength
    have hall : t.follower.count = (emissions t.record).length :=
      Nat.le_antisymm hw.emitted (Nat.le_of_sub_eq_zero hlength)
    exact .ended rfl ⟨hw.pieces, hw.flushes, hw.emitted, hw.taken⟩ hf hs hall
  | drains err e queue hm hq | drained err hm hq hs => exact absurd hm (hstage.not_draining err)

/-- A failure that was not taken yet is one of those handed over. -/
theorem report_reached (ht : Relation.ReflTransGen (Next config sink format) {} t) :
    ∀ err, t.state.report = some err → err ∈ reports t.record := by
  induction ht with
  | refl =>
    intro err h
    cases h
  | tail _ hn ih =>
    intro err hr
    cases hn with
    | moves m s new hm hs =>
      rw [Stream.reports_append, List.mem_append]
      rcases isTasks_of_not_isReaders hm with htask | rfl
      · rcases Stream.report_step (Stream.step_cases hs) htask with ⟨-, hsame⟩ | ⟨e, -, hnew, hreport⟩
        · exact .inl (ih err (hsame ▸ hr))
        · obtain rfl := Option.some.inj (hreport.symm.trans hr)
          exact .inr (by simp [hnew])
      · cases Stream.step_cases hs
        exact .inl (ih err hr)
    | turns t' hturn =>
      cases hturn with
      | prints e queue =>
        simp only at hr
        split at hr <;> exact ih err hr
      | hears | finds => cases hr
      | hearsNothing | ends | drains | drained => exact ih err hr

theorem stage_reached (ht : Relation.ReflTransGen (Next config sink format) {} t)
    (hnone : reports t.record = []) : t.Stage sink format := by
  induction ht with
  | refl =>
    refine .whole rfl ⟨rfl, rfl, Nat.le_refl 0, Nat.zero_le _⟩ ?_ rfl
    intro flush hpos hle
    exact absurd hpos (Nat.not_lt_of_ge hle)
  | tail hbefore hn ih =>
    cases hn with
    | moves m s new hm hs =>
      rw [Stream.reports_append, List.append_eq_nil_iff] at hnone
      exact (ih hnone.1).moves (Stream.step_cases hs) hm
    | turns t' hturn =>
      rw [hturn.record] at hnone
      refine (ih hnone).turn (Option.eq_none_iff_forall_not_mem.mpr fun err herr => ?_) hturn
      exact List.not_mem_nil (hnone ▸ report_reached hbefore err herr)

/-- A follower that has come to an end does not go on. -/
theorem follower_of_done (hreading : t.follower.mode ≠ .reading)
    (hdraining : ∀ err, t.follower.mode ≠ .draining err)
    (ht : Relation.ReflTransGen (Next config sink format) t t') : t'.follower = t.follower := by
  induction ht with
  | refl => rfl
  | tail _ hn ih =>
    cases hn with
    | moves => exact ih
    | turns t' hturn =>
      rw [← ih] at hreading hdraining
      cases hturn with
      | prints _ _ hm | hears _ hm | hearsNothing hm | finds _ hm | ends hm => exact absurd hm hreading
      | drains err _ _ hm | drained err hm => exact absurd hm (hdraining err)

theorem Stage.text (hstage : t.Stage sink format) :
    t.follower.written.text = format.lines ((emissions t.record).take t.follower.count) ∨
      BreaksOff format (emissions t.record) t.follower.count t.follower.written.text := by
  cases hstage with
  | whole _ hw | ended _ hw | unflushed _ _ _ hw => exact .inl hw.text
  | refused _ ht => exact .inr ht

theorem exists_stopped (hc : t.state.cancelled = true) :
    ∃ t', Relation.ReflTransGen (Next config sink format) t t' ∧ t'.state.isStopped = true := by
  have halts : ∀ t : Following, t.state.cancelled = true → t.state.phase.isWaiting = true →
      ∃ t', Relation.ReflTransGen (Next config sink format) t t' ∧ t'.state.isStopped = true := by
    intro t hc hw
    exact ⟨_, .single (.moves .halt _ _ rfl (by rw [Stream.step, hc, hw]; rfl)), rfl⟩
  cases hp : t.state.phase with
  | stopped => exact ⟨t, .refl, Stream.isStopped_iff.mpr hp⟩
  | fetching f | reporting e | resting => exact halts t hc (by rw [hp]; rfl)
  | sending rest =>
    cases rest with
    | cons e rest => exact halts t hc (by rw [hp]; rfl)
    | nil =>
      obtain ⟨t', ht', hs⟩ := halts { t with state := { t.state with phase := .resting } } hc rfl
      refine ⟨t', .head ?_ ht', hs⟩
      have hnext : Next config sink format t _ :=
        .moves .send { t.state with phase := .resting } [] rfl (by rw [Stream.step, hp])
      simpa using hnext
  | polling =>
    -- A window that is due ends a cancelled task at once, one that is not yet due lets it rest.
    obtain ⟨s, new, hstep⟩ : ∃ s new, Stream.step config t.state (.poll 0) = some (s, new) :=
      ⟨_, _, by rw [Stream.step, hp]⟩
    have hnext : Next config sink format t _ := .moves (.poll 0) s new rfl hstep
    cases Stream.step_cases hstep with
    | ended | late => exact ⟨_, .single hnext, rfl⟩
    | skipped =>
      obtain ⟨t', ht', hs⟩ := halts
        { t with
          state := { t.state with phase := .resting, cycles := t.state.cycles + 1 }
          record := t.record ++ [.skipped (t.state.cycles + 1)] } hc rfl
      exact ⟨t', .head hnext ht', hs⟩
    | asked _ _ _ _ hrunning => cases hc.symm.trans hrunning

theorem Stage.count_of_closing (hstage : t.Stage sink format)
    (hm : t.follower.mode = .closing (.ok n)) : n = t.follower.count := by
  cases hstage with
  | whole hmode => cases hm.symm.trans hmode
  | ended hmode =>
    injection hm.symm.trans hmode with h
    exact Except.ok.inj h
  | refused hmode | unflushed _ hcount hmode =>
    rw [hm] at hmode
    split at hmode
    · injection hmode with h
      simp_all
    · cases hmode

/-- A follower whose result is a count waits for the task, which comes to its end. -/
theorem Stage.exists_stopped (hstage : t.Stage sink format)
    (hm : t.follower.mode = .closing (.ok n)) :
    ∃ t', Relation.ReflTransGen (Next config sink format) t t' ∧ t'.state.isStopped = true := by
  cases hstage with
  | whole hmode => cases hm.symm.trans hmode
  | ended _ _ _ hs => exact ⟨t, .refl, hs⟩
  | refused hmode _ _ _ _ _ hc | unflushed _ _ hmode _ _ _ hc =>
    rw [hm] at hmode
    split at hmode
    · rename_i hcloses
      exact Following.exists_stopped (hc hcloses)
    · cases hmode

end Following

/-- Output that breaks off is counted by its whole lines. Of the lines that printing a window offers
the sink has then taken those whose text and end it took, and a beginning of the next one; nothing is
offered to it behind the piece that it did not take. The result is the number of whole lines if the
failure means that the reader has gone away, of which the last flush may be told as well, and the
failure otherwise.

The same holds at each moment of a stream that has not failed: its follower has come to the end, or
the sink did not take a piece or did not flush a line, and then the follower has ended with the count
of the whole lines or with the failure, writes nothing more, and with a count the stream comes to its
end. A stream played on virtual time is one of these. -/
theorem broken_output_counted (sink : Sink) (format : Format) :
    (∀ (window : Window) (answers : List Answer) (events : List Event),
      (fetchWindow window answers).result = .ok events →
        let taken := sink.accepted [] (format.pieces events)
        let printed := printOnce sink format window answers
        (taken = 2 * events.length → printed.written.text = format.lines events) ∧
        (taken < 2 * events.length → BreaksOff format events (taken / 2) printed.written.text ∧
          printed.written.pieces.length = taken + 1) ∧
        printed.result =
          if taken < 2 * events.length ∧ sink.closes = false then .error sink.writeFailure
          else if sink.flushes 1 = false ∧ sink.flushCloses = false then .error sink.flushFailure
          else .ok (taken / 2)) ∧
    ∀ config : Stream.Config,
      (∀ t, Relation.ReflTransGen (Following.Next config sink format) {} t →
        reports t.record = [] →
        t.Stage sink format ∧
        (t.follower.written.text = format.lines ((emissions t.record).take t.follower.count) ∨
          BreaksOff format (emissions t.record) t.follower.count t.follower.written.text) ∧
        (t.follower.mode ≠ .reading →
          ∀ t', Relation.ReflTransGen (Following.Next config sink format) t t' →
            t'.follower = t.follower) ∧
        (∀ n, t.follower.mode = .closing (.ok n) → n = t.follower.count ∧
          ∃ t', Relation.ReflTransGen (Following.Next config sink format) t t' ∧
            t'.state.isStopped = true)) ∧
      ∀ script, Relation.ReflTransGen (Following.Next config sink format) {}
        (.ofMoment (follow sink format config script)) := by
  refine ⟨?_, fun config => ⟨?_, Following.follow_reached config sink format⟩⟩
  · intro window answers events hfetch taken printed
    obtain ⟨hwritten, hresult⟩ := printOnce_fetched_eq sink format hfetch
    have hle : taken ≤ 2 * events.length := format.length_pieces events ▸ accepted_le sink [] _
    rcases Nat.lt_or_eq_of_le hle with hlt | hall
    · obtain ⟨text, htext, hbreaks, hoffered, hbroken⟩ := printEvents_broken {} 0 hlt
      rw [hwritten, hresult, hbroken, hoffered, htext]
      refine ⟨fun h => absurd h (Nat.ne_of_lt hlt), fun _ => ⟨?_, Nat.zero_add _ ▸ rfl⟩, ?_⟩
      · rwa [Written.text, String.join_nil, String.empty_append]
      · cases sink.closes <;> simp [hlt, Sink.settle, taken]
    · obtain ⟨htext, hwhole⟩ := printEvents_whole {} 0 hall
      rw [hwritten, hresult, hwhole, htext]
      refine ⟨fun _ => by rw [Written.text, String.join_nil, String.empty_append],
        fun h => absurd hall (Nat.ne_of_lt h), ?_⟩
      rw [if_neg fun h => absurd hall (Nat.ne_of_lt h.1), Sink.settle, hall,
        Nat.mul_div_cancel_left _ Nat.two_pos, Nat.zero_add events.length]
  · intro t ht hnone
    have hstage := Following.stage_reached ht hnone
    exact ⟨hstage, hstage.text,
      fun hreading _ ht' => Following.follower_of_done hreading hstage.not_draining ht',
      fun n hm => ⟨hstage.count_of_closing hm, hstage.exists_stopped hm⟩⟩

/-- A sink that fails in its third piece, of which it takes twelve characters, and one that takes
everything but fails to flush for the second time. Printing ends in the second line, following ends
behind it, with the third event in the queue. -/
theorem broken_output_counted_in_line : ∃ cut stuck events t,
    cut = { Sink.open with takes := fun pieces => pieces.length < 2, room := fun _ => 12 } ∧
    stuck = { Sink.open with flushes := fun n => n < 2 } ∧
    events = [⟨5000, 0, "a\n"⟩, ⟨7000, 0, "b"⟩, ⟨9000, 0, "c"⟩] ∧
    (fetchWindow { group := "g" } [.ok ⟨events, none, []⟩]).result = .ok events ∧
    (printOnce cut .text { group := "g" } [.ok ⟨events, none, []⟩]).result = .ok 1 ∧
    BreaksOff .text events 1
      (printOnce cut .text { group := "g" } [.ok ⟨events, none, []⟩]).written.text ∧
    (printOnce cut .text { group := "g" } [.ok ⟨events, none, []⟩]).written.text =
      "1970-01-01T00:00:05Z  a\n\n1970-01-01T0" ∧
    Relation.ReflTransGen (Following.Next { group := "g" } stuck .text) {} t ∧
    reports t.record = [] ∧ t.follower.mode = .closing (.ok 2) ∧ emissions t.record = events ∧
    t.follower.written.text = Format.lines .text (events.take 2) ∧
    ∀ t', Relation.ReflTransGen (Following.Next { group := "g" } stuck .text) t t' →
      t'.follower = t.follower := by
  let cut : Sink :=
    { Sink.open with takes := fun pieces => pieces.length < 2, room := fun _ => 12 }
  let stuck : Sink := { Sink.open with flushes := fun n => n < 2 }
  let events : List Event := [⟨5000, 0, "a\n"⟩, ⟨7000, 0, "b"⟩, ⟨9000, 0, "c"⟩]
  have hfetch : (fetchWindow { group := "g" } [.ok ⟨events, none, []⟩]).result = .ok events := by cbv
  have htaken : cut.accepted [] (Format.text.pieces events) = 2 := by decide +kernel
  obtain ⟨-, hcut, hresult⟩ := (broken_output_counted cut .text).1 _ _ events hfetch
  rw [htaken] at hcut hresult
  obtain ⟨t, ht, hreports, hmode, hemitted, hwritten⟩ : ∃ t,
      Relation.ReflTransGen (Following.Next { group := "g" } stuck .text) {} t ∧
      reports t.record = [] ∧ t.follower.mode = .closing (.ok 2) ∧ emissions t.record = events ∧
      t.follower.written.pieces = Format.text.pieces (events.take 2) := by
    refine ⟨_, .head (.moves (.poll 9000) _ _ rfl (by cbv))
      <| .head (.moves (.answer (.ok ⟨events, none, []⟩)) _ _ rfl (by cbv))
      <| .head (.moves .send _ _ rfl (by cbv)) <| .head (.moves .send _ _ rfl (by cbv))
      <| .head (.moves .send _ _ rfl (by cbv)) <| .head (.turns _ (.prints _ _ rfl rfl))
      <| .single (.turns _ (.prints _ _ rfl rfl)), ?_, ?_, ?_, ?_⟩
    all_goals rfl
  obtain ⟨-, -, hdone, -⟩ := ((broken_output_counted stuck .text).2 _).1 t ht hreports
  have htext : (printOnce cut .text { group := "g" } [.ok ⟨events, none, []⟩]).written.text =
      "1970-01-01T00:00:05Z  a\n\n1970-01-01T0" := by
    rw [(printOnce_fetched_eq cut .text hfetch).1]
    decide +kernel
  refine ⟨cut, stuck, events, t, rfl, rfl, rfl, hfetch, hresult, (hcut (by decide)).1, htext, ht,
    hreports, hmode, hemitted, ?_, hdone (by simp [hmode])⟩
  rw [Written.text, hwritten, Format.text_pieces]

end LogFollow.Output
