import LogFollow.CommandLine.Window
import LogFollow.Proofs.Output.Following
import LogFollow.Proofs.Stream.Finished

/-!
# Following and printing a finished range

A window with an end can be fetched once and printed, or polled and followed. Both write the same
lines: the follower is behind the printer until the first poll that gave an event is through, and
then it has caught up for good.
-/

namespace LogFollow.Output
set_option autoImplicit false

open LogFollow.CommandLine (streamConfig)
open LogFollow.Stream (Store InTurn emissions gathered polls)

variable {sink : Sink} {format : Format} {store : Store} {config : Stream.Config} {stop : Int}
  {pages : List Page} {w : Window}

theorem printOnce_written (format : Format) (hsink : sink.Reliable) (hp : store.Serves w pages) :
    (printOnce sink format w (pages.map .ok)).written.text = format.lines (store.result w) ∧
      (printOnce sink format w (pages.map .ok)).result = .ok (store.result w).length :=
  printOnce_fetched format hsink hp.fetched

theorem Format.pieces_prefix (format : Format) {shown events : List Event} (h : shown <+: events) :
    format.pieces shown <+: format.pieces events := by
  obtain ⟨rest, rfl⟩ := h
  exact ⟨format.pieces rest, by simp [Format.pieces]⟩

namespace Following

variable {t t' : Following}

/-- Some poll gave events, and all of them have passed through the queue. -/
structure Delivered (t : Following) : Prop where
  given : gathered (polls t.record) ≠ []
  sent : emissions t.record = gathered (polls t.record)
  taken : t.state.queue = []

theorem inTurn_reached (hsink : sink.Reliable)
    (ht : Relation.ReflTransGen (Next config sink format) {} t) :
    InTurn config (polls t.record) := by
  induction ht with
  | refl => trivial
  | tail hbefore hn ih =>
    have k := kept_reached hsink hbefore
    cases hn with
    | moves m s new hm hs => exact Stream.inTurn_step k.sound ih (Stream.step_cases hs)
    | turns t' hturn => rwa [hturn.record]

theorem Turn.pieces_prefix (hsink : sink.Reliable) (ht : Turn sink format t t') :
    t.follower.written.pieces <+: t'.follower.written.pieces := by
  cases ht with
  | prints e queue hm hq =>
    rw [hsink.printEvent]
    exact List.prefix_append _ _
  | drains f e queue hm hq =>
    rw [hsink.drainEvent]
    exact List.prefix_append _ _
  | _ => exact List.prefix_refl _

theorem pieces_prefix (hsink : sink.Reliable)
    (ht : Relation.ReflTransGen (Next config sink format) t t') :
    t.follower.written.pieces <+: t'.follower.written.pieces := by
  induction ht with
  | refl => exact List.prefix_refl _
  | tail _ hn ih =>
    cases hn with
    | moves m s new hm hs => exact ih
    | turns t' hturn => exact ih.trans (hturn.pieces_prefix hsink)

theorem gathered_reached (hsink : sink.Reliable) (hstop : config.stop = some stop)
    (ht : Relation.ReflTransGen (Next config sink format) {} t)
    (ha : ∀ p ∈ polls t.record, store.Answers p) :
    gathered (polls t.record) = [] ∨ gathered (polls t.record) = store.result config.range :=
  Stream.gathered_of_answered hstop (inTurn_reached hsink ht) (kept_reached hsink ht).sound.given ha

/-- The follower has written a beginning of what a single fetch of the range gives. -/
theorem shown_reached (hsink : sink.Reliable) (hstop : config.stop = some stop)
    (ht : Relation.ReflTransGen (Next config sink format) {} t)
    (ha : ∀ p ∈ polls t.record, store.Answers p) :
    ∃ shown, shown <+: store.result config.range ∧
      t.follower.written.pieces = format.pieces shown ∧
      emissions t.record = shown ++ t.state.queue := by
  have k := kept_reached hsink ht
  obtain ⟨shown, hemitted, hpieces, -⟩ := k.printed
  refine ⟨shown, ?_, hpieces, hemitted⟩
  have hshown : shown <+: gathered (polls t.record) :=
    (List.prefix_append shown t.state.queue).trans (hemitted ▸ k.sound.accords.beginning)
  rcases gathered_reached hsink hstop ht ha with hnone | hall
  · rw [hnone] at hshown
    rw [List.prefix_nil.mp hshown]
    exact List.nil_prefix
  · rwa [hall] at hshown

theorem Delivered.pieces (hd : t.Delivered) (hsink : sink.Reliable)
    (hstop : config.stop = some stop)
    (ht : Relation.ReflTransGen (Next config sink format) {} t)
    (ha : ∀ p ∈ polls t.record, store.Answers p) :
    t.follower.written.pieces = format.pieces (store.result config.range) := by
  obtain ⟨shown, -, hpieces, hemitted⟩ := shown_reached hsink hstop ht ha
  rw [hd.taken, List.append_nil, hd.sent] at hemitted
  have hall := (gathered_reached hsink hstop ht ha).resolve_left hd.given
  rw [hpieces, ← hemitted, hall]

/-- Once everything is delivered, nothing more is written. -/
theorem Delivered.pieces_later (hd : t.Delivered) (hsink : sink.Reliable)
    (hstop : config.stop = some stop)
    (ht : Relation.ReflTransGen (Next config sink format) {} t)
    (ht' : Relation.ReflTransGen (Next config sink format) t t')
    (ha : ∀ p ∈ polls t.record, store.Answers p) (ha' : ∀ p ∈ polls t'.record, store.Answers p) :
    t'.follower.written.pieces = format.pieces (store.result config.range) := by
  have hgrown := pieces_prefix hsink ht'
  rw [hd.pieces hsink hstop ht ha] at hgrown
  obtain ⟨shown, hshown, hpieces, -⟩ := shown_reached hsink hstop (ht.trans ht') ha'
  rw [hpieces] at hgrown ⊢
  have hbounded := (format.pieces_prefix hshown).length_le
  exact (hgrown.eq_of_length_le hbounded).symm

theorem text_of_pieces {events : List Event}
    (h : t.follower.written.pieces = format.pieces events) :
    t.follower.written.text = format.lines events := by
  rw [Written.text, h, format.text_pieces]

end Following

/-- Following a window that has an end agrees with printing it. The log does not change, and its
source answers every poll with exactly the events of the window, cut into pages in any way. Then the
follower has at every moment written a beginning of the lines that printing the window writes; once
the events of the first poll that gave any are delivered, it has written just these lines and never
writes another one. -/
theorem follow_agrees_with_print (sink : Sink) (format : Format) (store : Store) (w : Window)
    (c : Config) (stop : Int) (pages : List Page) (hsink : sink.Reliable)
    (hstop : w.stop = some stop) (hpages : store.Serves w pages) :
    ∃ events,
      (printOnce sink format w (pages.map .ok)).written.text = format.lines events ∧
      (printOnce sink format w (pages.map .ok)).result = .ok events.length ∧
      ∀ t, Relation.ReflTransGen (Following.Next (streamConfig w c) sink format) {} t →
        (∀ p ∈ polls t.record, store.Answers p) →
        (∃ shown, shown <+: events ∧ t.follower.written.text = format.lines shown) ∧
        (t.Delivered → t.follower.written.text = format.lines events ∧
          ∀ t', Relation.ReflTransGen (Following.Next (streamConfig w c) sink format) t t' →
            (∀ p ∈ polls t'.record, store.Answers p) →
            t'.follower.written.text = format.lines events) := by
  obtain ⟨htext, hresult⟩ := printOnce_written format hsink hpages
  refine ⟨store.result w, htext, hresult, ?_⟩
  intro t ht ha
  obtain ⟨shown, hshown, hpieces, -⟩ := Following.shown_reached hsink hstop ht ha
  refine ⟨⟨shown, hshown, Following.text_of_pieces hpieces⟩, ?_⟩
  intro hd
  refine ⟨Following.text_of_pieces (hd.pieces hsink hstop ht ha), ?_⟩
  intro t' ht' ha'
  exact Following.text_of_pieces (hd.pieces_later hsink hstop ht ht' ha ha')

/-- The limit leaves out the earliest event of two pages, and a second poll finds nothing behind the
others. -/
theorem follow_agrees_with_print_of_limit : ∃ w first second t t',
    w = { group := "g", stop := some 9000, limit := 2 } ∧
    Relation.ReflTransGen (Following.Next (streamConfig w {}) .open .text) {} t ∧
    Relation.ReflTransGen (Following.Next (streamConfig w {}) .open .text) t t' ∧
    t.Delivered ∧ t'.state.cycles = 2 ∧
    t'.follower.written.text =
      (printOnce .open .text w ([first, second].map .ok)).written.text ∧
    Format.lines .text [⟨7000, 0, "b"⟩, ⟨7000, 0, "c"⟩] =
      (printOnce .open .text w ([first, second].map .ok)).written.text := by
  let w : Window := { group := "g", stop := some 9000, limit := 2 }
  let later : Window := { group := "g", start := some 7001, stop := some 9000 }
  let first : Page := ⟨[⟨7000, 0, "b"⟩, ⟨5000, 0, "a"⟩], some "more", []⟩
  let second : Page := ⟨[⟨7000, 0, "c"⟩], none, []⟩
  have hsink : Sink.open.Reliable := ⟨fun _ => rfl, fun _ => rfl⟩
  let stored : Store := .inOrder
    [⟨7000, 0, "b"⟩, ⟨5000, 0, "a"⟩, ⟨11000, 0, "z"⟩, ⟨7000, 0, "c"⟩] (by decide)
  have hserves : stored.Serves w [first, second] := ⟨by simp [Page.Ends, second], rfl, rfl⟩
  have hnothing : stored.Serves later [⟨[], none, []⟩] := ⟨by simp [Page.Ends], rfl, rfl⟩
  have hanswer : stored.answer w = [⟨7000, 0, "b"⟩, ⟨5000, 0, "a"⟩, ⟨7000, 0, "c"⟩] := rfl
  have hresult : stored.result w = [⟨7000, 0, "b"⟩, ⟨7000, 0, "c"⟩] := by
    rw [Store.result, hanswer]
    cbv
  obtain ⟨t, ht, hstate, hemitted, hpolls⟩ : ∃ t,
      Relation.ReflTransGen (Following.Next (streamConfig w {}) .open .text) {} t ∧
      t.state = { phase := .sending [], cursor := ⟨some 7000⟩, cycles := 1, emitted := 2 } ∧
      emissions t.record = [⟨7000, 0, "b"⟩, ⟨7000, 0, "c"⟩] ∧
      polls t.record = [⟨w, [.ok first, .ok second]⟩] := by
    refine ⟨_, .head (.moves (.poll 0) _ _ rfl (by cbv))
      <| .head (.moves (.answer (.ok first)) _ _ rfl (by cbv))
      <| .head (.moves (.answer (.ok second)) _ _ rfl (by cbv))
      <| .head (.moves .send _ _ rfl (by cbv)) <| .head (.moves .send _ _ rfl (by cbv))
      <| .head (.turns _ (.prints _ _ rfl rfl)) <| .single (.turns _ (.prints _ _ rfl rfl)),
      rfl, rfl, rfl⟩
  obtain ⟨t', ht', hcycles, hpolls'⟩ : ∃ t',
      Relation.ReflTransGen (Following.Next (streamConfig w {}) .open .text) t t' ∧
      t'.state.cycles = 2 ∧
      polls t'.record = ⟨later, [.ok ⟨[], none, []⟩]⟩ :: polls t.record := by
    refine ⟨_, .head (.moves .send _ _ rfl (by rw [hstate]; cbv))
      <| .head (.moves .wake _ _ rfl (by cbv)) <| .head (.moves (.poll 0) _ _ rfl (by cbv))
      <| .single (.moves (.answer (.ok ⟨[], none, []⟩)) _ _ rfl (by cbv)), rfl, ?_⟩
    simp only [Stream.polls_append]
    rfl
  have hgathered : gathered (polls t.record) = [⟨7000, 0, "b"⟩, ⟨7000, 0, "c"⟩] := by
    have houtcome : Stream.Poll.outcome? ⟨w, [.ok first, .ok second]⟩ =
        some (.ok (stored.result w)) :=
      congrArg some hserves.fetched
    rw [hpolls, Stream.gathered_cons, Stream.Poll.events_of_outcome houtcome, hresult]
    rfl
  have hd : t.Delivered := ⟨by simp [hgathered], hemitted.trans hgathered.symm, by rw [hstate]⟩
  have hanswered : ∀ p ∈ polls t.record, stored.Answers p := by
    rw [hpolls, List.forall_mem_singleton]
    exact ⟨_, hserves, List.prefix_refl _⟩
  have hanswered' : ∀ p ∈ polls t'.record, stored.Answers p := by
    rw [hpolls', List.forall_mem_cons]
    exact ⟨⟨_, hnothing, List.prefix_refl _⟩, hanswered⟩
  obtain ⟨events, htext, -, hagrees⟩ :=
    follow_agrees_with_print .open .text stored w {} 9000 [first, second] hsink rfl hserves
  have hlater := ((hagrees t ht hanswered).2 hd).2 t' ht' hanswered'
  exact ⟨w, first, second, t, t', rfl, ht, ht', hd, hcycles, hlater.trans htext.symm,
    hresult ▸ (printOnce_written .text hsink hserves).1.symm⟩

end LogFollow.Output
