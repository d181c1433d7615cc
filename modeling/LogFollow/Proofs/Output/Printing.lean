import LogFollow.Output.Print
import Mathlib.Data.List.Basic
import Mathlib.Tactic.SplitIfs

/-!
# Printing events

The lines of events go out piece by piece until the sink fails or the last one is out, and a flush
ends them. A sink that fails has taken whole lines and a beginning of the next one; the lines are
counted. If the reader has gone away the count is the result, otherwise the failure is.
-/

namespace LogFollow.Output
set_option autoImplicit false

/-- A sink that takes everything. -/
structure Sink.Reliable (sink : Sink) : Prop where
  takes : ∀ pieces, sink.takes pieces = true
  flushes : ∀ n, sink.flushes n = true

/-- The lines of some events, each with its end. -/
def Format.lines (format : Format) (events : List Event) : String :=
  String.join (events.map fun e => format.line e ++ "\n")

/-- The pieces in which the lines of some events are written. -/
def Format.pieces (format : Format) (events : List Event) : List String :=
  events.flatMap fun e => [format.line e, "\n"]

namespace Sink

/-- How many of some pieces, offered one after another behind those it has taken, a sink takes before
the first that it does not take. -/
def accepted (sink : Sink) (taken : List String) : List String → Nat
  | [] => 0
  | piece :: pieces =>
    if sink.takes taken then sink.accepted (taken ++ [piece]) pieces + 1 else 0

def writeFailure (sink : Sink) : Failure := ⟨s!"Failed to write to output: {sink.writeFault}", []⟩

def flushFailure (sink : Sink) : Failure := ⟨s!"Failed to flush output: {sink.flushFault}", []⟩

/-- What comes of a piece that was not taken. -/
def refusal (sink : Sink) : Outcome :=
  if sink.closes then .closed else .failed s!"Failed to write to output: {sink.writeFault}"

/-- The result of a count of lines behind the flush with this number. -/
def settle (sink : Sink) (flush count : Nat) : Except Failure Nat :=
  if sink.flushes flush = false ∧ sink.flushCloses = false then .error sink.flushFailure
  else .ok count

end Sink

/-- The lines of the first `count` events and behind them a beginning, which may be empty, of the next
line, without at least its end. -/
def BreaksOff (format : Format) (events : List Event) (count : Nat) (text : String) : Prop :=
  ∃ e rest, events[count]? = some e ∧ text = format.lines (events.take count) ++ rest ∧
    rest.toList <+: (format.line e ++ "\n").toList ∧ rest ≠ format.line e ++ "\n"

variable {sink : Sink} {format : Format} {w w' : Written} {taken pieces more : List String}
  {rest shown : String} {events later : List Event} {e : Event} {count : Nat}

theorem Format.text_pieces (format : Format) (events : List Event) :
    String.join (format.pieces events) = format.lines events := by
  apply String.toList_inj.mp
  simp [Format.lines, Format.pieces, List.flatMap_map, List.flatMap_assoc]

theorem Sink.Reliable.writeLine (hs : sink.Reliable) (w : Written) (line : String) :
    sink.writeLine w line = (⟨w.pieces ++ [line, "\n"], w.flushes⟩, .done) := by
  simp [Sink.writeLine, Sink.put, hs.takes]

theorem Sink.Reliable.flush (hs : sink.Reliable) (w : Written) :
    sink.flush w = (⟨w.pieces, w.flushes + 1⟩, .done) := by
  simp [Sink.flush, hs.flushes]

theorem accepted_le (sink : Sink) (taken pieces : List String) :
    sink.accepted taken pieces ≤ pieces.length := by
  induction pieces generalizing taken with
  | nil => exact Nat.le_refl 0
  | cons piece pieces ih =>
    rw [Sink.accepted]
    split
    · exact Nat.succ_le_succ (ih _)
    · exact Nat.zero_le _

theorem accepted_append (sink : Sink) (taken pieces more : List String) :
    sink.accepted taken (pieces ++ more) =
      if sink.accepted taken pieces = pieces.length then
        pieces.length + sink.accepted (taken ++ pieces) more
      else sink.accepted taken pieces := by
  induction pieces generalizing taken with
  | nil => simp [Sink.accepted]
  | cons piece pieces ih =>
    by_cases htakes : sink.takes taken
    · by_cases hall : sink.accepted (taken ++ [piece]) pieces = pieces.length
      · simp [Sink.accepted, htakes, ih, hall]
        omega
      · simp [Sink.accepted, htakes, ih, hall]
    · simp [Sink.accepted, htakes]

theorem accepted_append_of_lt (h : sink.accepted taken pieces < pieces.length) :
    sink.accepted taken (pieces ++ more) = sink.accepted taken pieces := by
  rw [accepted_append, if_neg (Nat.ne_of_lt h)]

theorem accepted_le_append : sink.accepted taken pieces ≤ sink.accepted taken (pieces ++ more) := by
  rw [accepted_append]
  split <;> omega

namespace Format

theorem pieces_append (format : Format) (events later : List Event) :
    format.pieces (events ++ later) = format.pieces events ++ format.pieces later :=
  List.flatMap_append

theorem length_pieces (format : Format) (events : List Event) :
    (format.pieces events).length = 2 * events.length := by
  simp [pieces, List.length_flatMap, Nat.mul_comm]

theorem lines_cons (format : Format) (e : Event) (events : List Event) :
    format.lines (e :: events) = format.line e ++ "\n" ++ format.lines events := by
  simp [lines]

end Format

theorem breaksOff_at (hnext : events[count]? = some e)
    (h : rest.toList <+: (format.line e).toList) :
    BreaksOff format events count (format.lines (events.take count) ++ rest) := by
  refine ⟨e, rest, hnext, rfl, ?_, ?_⟩
  · rw [String.toList_append]
    exact h.trans (List.prefix_append _ _)
  · rintro rfl
    have hlength := h.length_le
    rw [String.toList_append, List.length_append] at hlength
    exact absurd hlength (Nat.not_succ_le_self _)

theorem breaksOff_here (h : rest.toList <+: (format.line e).toList) :
    BreaksOff format (e :: later) 0 rest := by
  have hat : BreaksOff format (e :: later) 0 _ := breaksOff_at rfl h
  rwa [List.take_zero, Format.lines, List.map_nil, String.join_nil, String.empty_append] at hat

theorem BreaksOff.behind (h : BreaksOff format events count shown) (e : Event) :
    BreaksOff format (e :: events) (count + 1) (format.line e ++ "\n" ++ shown) := by
  obtain ⟨next, rest, hnext, rfl, hrest, hne⟩ := h
  refine ⟨next, rest, hnext, ?_, hrest, hne⟩
  rw [List.take_succ_cons, Format.lines_cons, String.append_assoc, String.append_assoc,
    String.append_assoc]

theorem BreaksOff.append (h : BreaksOff format events count shown) (later : List Event) :
    BreaksOff format (events ++ later) count shown := by
  obtain ⟨next, rest, hnext, htext, hrest⟩ := h
  have hlt : count < events.length := (List.getElem?_eq_some_iff.mp hnext).1
  refine ⟨next, rest, ?_, ?_, hrest⟩
  · rw [List.getElem?_append_left hlt, hnext]
  · rw [htext, List.take_append_of_le_length (by omega)]

theorem partOf_prefix (sink : Sink) (w : Written) (piece : String) :
    (sink.partOf w piece).toList <+: piece.toList := by
  rw [Sink.partOf, String.toList_ofList]
  exact List.take_prefix _ _

theorem partOf_newline (sink : Sink) (w : Written) : sink.partOf w "\n" = "" := by
  simp [Sink.partOf]

/-- A line goes out as a whole, or a beginning of it does. -/
theorem writeLine_cases (sink : Sink) (w : Written) (line : String) :
    (sink.accepted w.pieces [line, "\n"] = 2 ∧
      sink.writeLine w line = (⟨w.pieces ++ [line, "\n"], w.flushes⟩, .done)) ∨
    (sink.accepted w.pieces [line, "\n"] < 2 ∧ ∃ w' rest,
      sink.writeLine w line = (w', sink.refusal) ∧ w'.flushes = w.flushes ∧
        w'.pieces.length = w.pieces.length + sink.accepted w.pieces [line, "\n"] + 1 ∧
        w'.text = w.text ++ rest ∧ rest.toList <+: line.toList) := by
  by_cases hline : sink.takes w.pieces
  · by_cases hend : sink.takes (w.pieces ++ [line])
    · exact .inl ⟨by simp [Sink.accepted, hline, hend], by simp [Sink.writeLine, Sink.put, hline, hend]⟩
    · have hone : sink.accepted w.pieces [line, "\n"] = 1 := by simp [Sink.accepted, hline, hend]
      refine .inr ⟨by omega, ⟨w.pieces ++ [line, ""], w.flushes⟩, line, ?_, rfl, ?_, ?_,
        List.prefix_refl _⟩
      · simp [Sink.writeLine, Sink.put, hline, hend, Sink.refusal, partOf_newline]
      · simp [hone]
      · simp [Written.text]
  · have hnone : sink.accepted w.pieces [line, "\n"] = 0 := by simp [Sink.accepted, hline]
    refine .inr ⟨by omega, ⟨w.pieces ++ [sink.partOf w line], w.flushes⟩, sink.partOf w line, ?_, rfl,
      ?_, ?_, partOf_prefix sink w line⟩
    · simp [Sink.writeLine, Sink.put, hline, Sink.refusal]
    · simp [hnone]
    · simp [Written.text]

theorem flush_eq (sink : Sink) (w : Written) :
    sink.flush w = (⟨w.pieces, w.flushes + 1⟩,
      if sink.flushes (w.flushes + 1) then .done
      else if sink.flushCloses then .closed
      else .failed s!"Failed to flush output: {sink.flushFault}") := by
  rw [Sink.flush]
  split_ifs <;> rfl

theorem finish_eq (sink : Sink) (w : Written) (count : Nat) :
    (printEvents.finish sink w count).written = ⟨w.pieces, w.flushes + 1⟩ ∧
      (printEvents.finish sink w count).result = sink.settle (w.flushes + 1) count := by
  rw [printEvents.finish, flush_eq, Sink.settle]
  cases sink.flushes (w.flushes + 1) <;> cases sink.flushCloses <;> exact ⟨rfl, rfl⟩

/-- Whether a sink takes a line decides whether it gets to the lines behind it. -/
theorem accepted_pieces_cons (sink : Sink) (format : Format) (taken : List String) (e : Event)
    (events : List Event) :
    sink.accepted taken (format.pieces (e :: events)) =
      if sink.accepted taken [format.line e, "\n"] = 2 then
        2 + sink.accepted (taken ++ [format.line e, "\n"]) (format.pieces events)
      else sink.accepted taken [format.line e, "\n"] :=
  accepted_append sink taken [format.line e, "\n"] (format.pieces events)

theorem printEvents_whole (w : Written) (count : Nat)
    (hall : sink.accepted w.pieces (format.pieces events) = 2 * events.length) :
    (printEvents sink format w count events).written.text = w.text ++ format.lines events ∧
      (printEvents sink format w count events).result =
        sink.settle (w.flushes + 1) (count + events.length) := by
  induction events generalizing w count with
  | nil =>
    obtain ⟨hwritten, hresult⟩ := finish_eq sink w count
    refine ⟨?_, hresult⟩
    rw [printEvents, hwritten]
    exact (String.append_empty).symm
  | cons e events ih =>
    rw [accepted_pieces_cons, List.length_cons] at hall
    rcases writeLine_cases sink w (format.line e) with ⟨htaken, hline⟩ | ⟨hrefused, -⟩
    · rw [if_pos htaken] at hall
      have hrest : sink.accepted (w.pieces ++ [format.line e, "\n"]) (format.pieces events) =
          2 * events.length := by omega
      obtain ⟨htext, hresult⟩ := ih ⟨w.pieces ++ [format.line e, "\n"], w.flushes⟩ (count + 1) hrest
      rw [printEvents, hline]
      refine ⟨htext.trans ?_, hresult.trans ?_⟩
      · simp [Written.text, Format.lines_cons, String.append_assoc]
      · rw [List.length_cons, Nat.add_assoc, Nat.add_comm 1]
    · rw [if_neg (Nat.ne_of_lt hrefused)] at hall
      omega

theorem printEvents_refused (count : Nat) (events : List Event)
    (hline : sink.writeLine w (format.line e) = (w', sink.refusal)) :
    (printEvents sink format w count (e :: events)).written.pieces = w'.pieces ∧
      (printEvents sink format w count (e :: events)).result =
        if sink.closes then sink.settle (w'.flushes + 1) count else .error sink.writeFailure := by
  obtain ⟨hwritten, hresult⟩ := finish_eq sink w' count
  rw [printEvents, hline, Sink.refusal]
  cases sink.closes with
  | true => exact ⟨(congrArg Written.pieces hwritten).trans rfl, hresult⟩
  | false => exact ⟨rfl, rfl⟩

theorem printEvents_broken (w : Written) (count : Nat)
    (hlt : sink.accepted w.pieces (format.pieces events) < 2 * events.length) :
    ∃ text, (printEvents sink format w count events).written.text = w.text ++ text ∧
      BreaksOff format events (sink.accepted w.pieces (format.pieces events) / 2) text ∧
      (printEvents sink format w count events).written.pieces.length =
        w.pieces.length + sink.accepted w.pieces (format.pieces events) + 1 ∧
      (printEvents sink format w count events).result =
        if sink.closes then
          sink.settle (w.flushes + 1)
            (count + sink.accepted w.pieces (format.pieces events) / 2)
        else .error sink.writeFailure := by
  induction events generalizing w count with
  | nil => exact absurd hlt (Nat.not_lt_zero _)
  | cons e events ih =>
    rw [accepted_pieces_cons, List.length_cons] at hlt
    rw [accepted_pieces_cons]
    rcases writeLine_cases sink w (format.line e) with
      ⟨htaken, hline⟩ | ⟨hrefused, w', rest, hline, hflushes, hoffered, htext, hrest⟩
    · rw [if_pos htaken] at hlt ⊢
      have hlt' : sink.accepted (w.pieces ++ [format.line e, "\n"]) (format.pieces events) <
          2 * events.length := by omega
      obtain ⟨text, htext, hbreaks, hoffered, hresult⟩ :=
        ih ⟨w.pieces ++ [format.line e, "\n"], w.flushes⟩ (count + 1) hlt'
      rw [printEvents, hline, Nat.add_div_left _ Nat.two_pos]
      refine ⟨format.line e ++ "\n" ++ text, htext.trans ?_, hbreaks.behind e, ?_, ?_⟩
      · simp [Written.text, String.append_assoc]
      · simp only [hoffered, List.length_append, List.length_cons, List.length_nil]
        omega
      · rw [hresult, Nat.add_assoc, Nat.add_comm 1]
    · rw [if_neg (Nat.ne_of_lt hrefused)]
      obtain ⟨hwritten, hresult⟩ := printEvents_refused count events hline
      rw [Nat.div_eq_of_lt hrefused, Written.text, hwritten]
      refine ⟨rest, htext, breaksOff_here hrest, hoffered, ?_⟩
      rw [hresult, hflushes]
      rfl

theorem printOnce_fetched_eq (sink : Sink) (format : Format) {window : Window}
    {answers : List Answer}
    (hfetch : (fetchWindow window answers).result = .ok events) :
    (printOnce sink format window answers).written = (printEvents sink format {} 0 events).written ∧
      (printOnce sink format window answers).result =
        (printEvents sink format {} 0 events).result := by
  constructor <;> simp only [printOnce, hfetch]

theorem Sink.Reliable.accepted (hs : sink.Reliable) (taken pieces : List String) :
    sink.accepted taken pieces = pieces.length := by
  induction pieces generalizing taken with
  | nil => rfl
  | cons piece pieces ih => rw [Sink.accepted, if_pos (hs.takes taken), ih, List.length_cons]

theorem Sink.Reliable.settle (hs : sink.Reliable) (flush count : Nat) :
    sink.settle flush count = .ok count := by
  simp [Sink.settle, hs.flushes]

theorem printOnce_fetched (format : Format) (hsink : sink.Reliable) {window : Window}
    {answers : List Answer} (hfetch : (fetchWindow window answers).result = .ok events) :
    (printOnce sink format window answers).written.text = format.lines events ∧
      (printOnce sink format window answers).result = .ok events.length := by
  obtain ⟨hwritten, hresult⟩ := printOnce_fetched_eq sink format hfetch
  have hall := (hsink.accepted [] (format.pieces events)).trans (format.length_pieces events)
  obtain ⟨htext, hcount⟩ := printEvents_whole {} 0 hall
  rw [hwritten, hresult, htext, hcount, hsink.settle, Nat.zero_add]
  exact ⟨String.empty_append, rfl⟩

end LogFollow.Output
