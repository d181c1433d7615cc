import LogFollow.Proofs.Json.Written
import LogFollow.Proofs.Output.Agreement

/-!
# JSON lines

Printed as JSON, each event is on a line of its own, and its line is read back as an object with the
fields of the event.
-/

namespace LogFollow.Output
set_option autoImplicit false

/-- The line is an object that tells the times of an event, its message and its time in words. -/
def Carries (line : String) (e : Event) : Prop :=
  ∃ fields, Json.Value.read line = some (.object fields) ∧
    Json.valueAt? "timestampMillis" fields = some (.number (.int e.timestamp)) ∧
    Json.valueAt? "ingestionTime" fields = some (.number (.int e.ingestion)) ∧
    Json.valueAt? "message" fields = some (.string e.message) ∧
    Json.valueAt? "timestamp" fields = some (.string e.iso)

variable {sink : Sink} {w : Window} {answers : List Answer} {events : List Event} {e : Event}

theorem readable_jsonOf (ht : Number.isSigned e.timestamp = true)
    (hi : Number.isSigned e.ingestion = true) : (jsonOf e).Readable Json.maxDepth := by
  have hfits : ∀ n, Number.isSigned n = true → Number.minSigned ≤ n ∧ n ≤ Number.maxUnsigned := by
    intro n hn
    have hrange := Number.isSigned_iff.mp hn
    unfold Number.minSigned Number.maxUnsigned
    omega
  have horder : Json.InOrder [("ingestionTime", Json.Value.number (.int e.ingestion)),
      ("message", .string e.message), ("timestamp", .string e.iso),
      ("timestampMillis", .number (.int e.timestamp))] := by
    simp only [Json.InOrder, List.pairwise_cons, List.forall_mem_cons, List.not_mem_nil,
      IsEmpty.forall_iff, implies_true, List.Pairwise.nil, and_true]
    decide
  exact ⟨by decide, horder, hfits _ hi, trivial, trivial, hfits _ ht, trivial⟩

theorem carries_line (ht : Number.isSigned e.timestamp = true)
    (hi : Number.isSigned e.ingestion = true) : Carries (Format.json.line e) e := by
  refine ⟨_, (readable_jsonOf ht hi).read, ?_⟩
  simp

theorem newline_not_mem_line (e : Event) : '\n' ∉ (Format.json.line e).toList := by
  have hprintable := (jsonOf e).printable.not_mem (c := '\n') (by decide)
  rwa [Format.line, Json.Value.text, String.toList_ofList]

theorem splitOn_lines (events : List Event) :
    (Format.json.lines events).toList.splitOn '\n' =
      events.map (fun e => (Format.json.line e).toList) ++ [[]] := by
  rw [Format.lines, String.toList_join, List.flatMap_map]
  induction events with
  | nil => rfl
  | cons e events ih =>
    rw [List.flatMap_cons, String.toList_append, List.append_assoc, List.map_cons, List.cons_append,
      ← ih]
    exact List.splitOn_append_cons_self_of_not_mem (newline_not_mem_line e) _

/-- What is printed as JSON splits at its line ends into one line for each event that was fetched, in
their order, with nothing behind the last end, and each line carries its event. -/
theorem json_lines_carry (hsink : sink.Reliable)
    (hfetch : (fetchWindow w answers).result = .ok events)
    (htimes : ∀ e ∈ events, Number.isSigned e.timestamp = true ∧ Number.isSigned e.ingestion = true) :
    let printed := printOnce sink .json w answers
    printed.result = .ok events.length ∧
      ∃ lines : List String,
        printed.written.text.toList.splitOn '\n' = lines.map String.toList ++ [[]] ∧
          List.Forall₂ Carries lines events := by
  intro printed
  obtain ⟨htext, hresult⟩ := printOnce_fetched .json hsink hfetch
  refine ⟨hresult, events.map Format.json.line, ?_, ?_⟩
  · rw [htext, splitOn_lines, List.map_map]
    rfl
  · rw [List.forall₂_map_left_iff, List.forall₂_same]
    intro e he
    exact carries_line (htimes e he).1 (htimes e he).2

/-- Line ends, quotes and other signs in a message, and the first and the last time there is. -/
theorem json_lines_carry_of_line_end :
    let first : Event := ⟨Number.minSigned, -1, "a\r\n\"b\" \\ \x07 \u00e9 \u2028"⟩
    let second : Event := ⟨5, Number.maxSigned, "\n"⟩
    let answers := [.ok ⟨[second], some "t", []⟩, .ok ⟨[first], none, []⟩]
    Sink.open.Reliable ∧ (fetchWindow { group := "g" } answers).result = .ok [first, second] ∧
      ∃ lines : List String,
        (printOnce .open .json { group := "g" } answers).written.text.toList.splitOn '\n' =
            lines.map String.toList ++ [[]] ∧
          List.Forall₂ Carries lines [first, second] := by
  intro first second answers
  have hsink : Sink.open.Reliable := ⟨fun _ => rfl, fun _ => rfl⟩
  have hsorted : [second, first].mergeSort Event.notLater = [first, second] := by
    simp [List.mergeSort, List.MergeSort.Internal.splitInTwo, Event.notLater, first, second,
      Number.minSigned]
  have hfetch : (fetchWindow { group := "g" } answers).result = .ok [first, second] :=
    congrArg Except.ok hsorted
  exact ⟨hsink, hfetch, (json_lines_carry hsink hfetch (by decide)).2⟩

end LogFollow.Output
