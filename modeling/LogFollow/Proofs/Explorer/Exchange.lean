import LogFollow.Proofs.Explorer.Session
import Mathlib.Logic.Relation

/-!
# One query at a time

While a query is under way the focus is on the log, so that no key reaches the query box: its text
stays that of the query, and no other query is sent out. If queries are answered at most once each,
every answer therefore meets a session that waits for it, and a failure is reported with the term
of its query.
-/

namespace LogFollow.Explorer
set_option autoImplicit false

namespace Session

variable {s s' : Session} {m : Message} {c : Option Command}

/-- While a query is under way the focus is on the log. -/
def Watching (s : Session) : Prop := s.load = .querying → s.focus = .log

theorem Watching.idle (hw : s.Watching) (hf : s.focus = .query) : s.load = .idle := by
  cases hload : s.load with
  | idle => rfl
  | querying =>
    have hlog := hw hload
    rw [hf] at hlog
    cases hlog

theorem watching_new (options : Options) : (new options).Watching := by
  intro hload
  cases hload

theorem Watching.takes (hw : s.Watching) (ht : Takes s m s' c) : s'.Watching := by
  cases ht with
  | received e => simpa [Watching] using hw
  | asked p hf hp => exact fun _ => rfl
  | concluded result =>
    intro hload
    rw [conclude_load result] at hload
    cases hload
  | focused p f hf => exact hf
  | closed | viewed | edited | ticked => exact hw

theorem Watching.update (hw : s.Watching) (h : s.update m = (s', c)) : s'.Watching := by
  rcases update_cases h with ⟨-, ht⟩ | ⟨-, rfl, -⟩
  · exact hw.takes ht
  · exact hw

theorem watching_updateAll (options : Options) (ms : List Message) :
    ((new options).updateAll ms).1.Watching :=
  updateAll_keeps Watching.update (watching_new options) ms

/-- Only a key can change the text of the query box, and it must be there. -/
theorem takes_editor (ht : Takes s m s' c) (hf : s.focus = .log) : s'.editor = s.editor := by
  cases ht with
  | received e => exact s.receive_editor e
  | concluded result => exact conclude_editor result
  | asked p hq hp | edited p editor hq =>
    rw [hf] at hq
    cases hq
  | closed | viewed | focused | ticked => rfl

theorem Watching.editor_update (hw : s.Watching) (hload : s.load = .querying) (m : Message) :
    (s.update m).1.editor = s.editor := by
  obtain ⟨s', c, hs⟩ : ∃ s' c, s.update m = (s', c) := ⟨_, _, rfl⟩
  rw [hs]
  rcases update_cases hs with ⟨-, ht⟩ | ⟨-, rfl, -⟩
  · exact takes_editor ht (hw hload)
  · rfl

theorem update_answered_of_idle (hload : s.load = .idle)
    (result : Except QueryError QueryResult) : s.update (.answered result) = (s, none) := by
  unfold update
  split
  · rfl
  · rw [take, conclude_of_idle result hload]

/-- What a session says about the answer to a query for a term. -/
def outcome (term : String) : Except QueryError QueryResult → Status
  | .ok r => statusOf r
  | .error e => .failed term e.message

theorem conclude_status (hload : s.load = .querying) (result : Except QueryError QueryResult) :
    (s.conclude result).status = some (outcome s.editor.value result) := by
  cases result <;> simp only [conclude, hload] <;> rfl

end Session

structure Exchange where
  session : Session
  unanswered : List String := []

namespace Exchange

def start (options : Options) : Exchange := { session := .new options }

def termOf : Command → Option String
  | .ask term _ _ => some term
  | .shutDown => none

def tell (x : Exchange) (m : Message) : Exchange where
  session := (x.session.update m).1
  unanswered := x.unanswered ++ ((x.session.update m).2.bind termOf).toList

def answer (x : Exchange) (term : String) (result : Except QueryError QueryResult) : Exchange where
  session := (x.session.update (.answered result)).1
  unanswered := x.unanswered.erase term

/-- What can happen in an exchange: a query is answered at most once, and not before it was sent
out. -/
inductive Next (x : Exchange) : Exchange → Prop
  | tells (m : Message) (hm : ∀ result, m ≠ .answered result) : Next x (x.tell m)
  | answers (term : String) (result : Except QueryError QueryResult) (ht : term ∈ x.unanswered) :
      Next x (x.answer term result)

variable {options : Options} {x x' : Exchange} {m : Message} {term : String}

theorem Next.tells_key (p : KeyPress) : Next x (x.tell (.key p)) := .tells (.key p) (by simp)

/-- What holds of an exchange: a query that is not answered is the only one, the session waits for
it, and its term is in the query box. -/
structure Single (x : Exchange) : Prop where
  watching : x.session.Watching
  idle : x.session.closing = none → x.unanswered = [] → x.session.load = .idle
  waiting : x.unanswered ≠ [] →
    x.unanswered = [x.session.editor.value] ∧ x.session.load = .querying

theorem single_start (options : Options) : (start options).Single where
  watching := Session.watching_new options
  idle _ _ := rfl
  waiting h := absurd rfl h

theorem Single.of_mem (hx : x.Single) (ht : term ∈ x.unanswered) :
    x.unanswered = [term] ∧ x.session.editor.value = term ∧ x.session.load = .querying := by
  obtain ⟨hterm, hload⟩ := hx.waiting (List.ne_nil_of_mem ht)
  rw [hterm] at ht
  obtain rfl := List.mem_singleton.mp ht
  exact ⟨hterm, rfl, hload⟩

theorem Single.of_idle (hx : x.Single) (hload : x.session.load = .idle) : x.unanswered = [] := by
  by_contra hne
  cases hload.symm.trans (hx.waiting hne).2

theorem Single.load_iff (hx : x.Single) (hopen : x.session.closing = none) :
    x.session.load = .querying ↔ x.unanswered.length = 1 := by
  constructor
  · intro hload
    have hne : x.unanswered ≠ [] := by
      intro hnil
      cases hload.symm.trans (hx.idle hopen hnil)
    rw [(hx.waiting hne).1, List.length_singleton]
  · intro hone
    exact (hx.waiting (List.ne_nil_of_length_pos (by omega))).2

theorem Single.length_le (hx : x.Single) : x.unanswered.length ≤ 1 := by
  by_cases hnil : x.unanswered = []
  · simp [hnil]
  · simp [(hx.waiting hnil).1]

/-- A message that leaves the query box alone and neither starts nor ends a query. -/
theorem Single.of_same {s : Session} (hx : x.Single) (hw : s.Watching)
    (hload : s.load = x.session.load) (heditor : s.editor = x.session.editor)
    (hopen : s.closing = none → x.session.closing = none) {unanswered : List String}
    (hu : unanswered = x.unanswered) : (⟨s, unanswered⟩ : Exchange).Single := by
  subst hu
  refine ⟨hw, ?_, ?_⟩
  · intro hs hnil
    exact hload.trans (hx.idle (hopen hs) hnil)
  · intro hne
    simp only [heditor, hload]
    exact hx.waiting hne

theorem Single.tell (hx : x.Single) (hm : ∀ result, m ≠ .answered result) :
    (x.tell m).Single := by
  obtain ⟨s, c, hs⟩ : ∃ s c, x.session.update m = (s, c) := ⟨_, _, rfl⟩
  have hw := hx.watching.update hs
  simp only [Exchange.tell, hs]
  rcases Session.update_cases hs with ⟨-, ht⟩ | ⟨-, rfl, rfl⟩
  · cases ht with
    | received e =>
      have hopen : (x.session.receive e).closing = none → x.session.closing = none := by
        simp [Session.receive_eq]
      exact hx.of_same hw (x.session.receive_load e) (x.session.receive_editor e) hopen (by simp)
    | asked p hf hp =>
      rw [hx.of_idle (hx.watching.idle hf)]
      exact ⟨hw, fun _ hnil => by simp [Session.ask, termOf] at hnil, fun _ => ⟨rfl, rfl⟩⟩
    | concluded result => exact absurd rfl (hm result)
    | edited p editor hf =>
      have hidle := hx.watching.idle hf
      rw [hx.of_idle hidle]
      exact ⟨hw, fun _ _ => hidle, fun hne => absurd rfl hne⟩
    | closed m reason => exact hx.of_same hw rfl rfl (by simp) (by simp [termOf])
    | viewed | focused | ticked => exact hx.of_same hw rfl rfl id (by simp)
  · exact hx.of_same hw rfl rfl id (by simp)

theorem Single.answer (hx : x.Single) (ht : term ∈ x.unanswered)
    (result : Except QueryError QueryResult) : (x.answer term result).Single := by
  have hnone : (x.answer term result).unanswered = [] := by
    rw [Exchange.answer, (hx.of_mem ht).1, List.erase_cons_head]
  refine ⟨hx.watching.update rfl, ?_, fun hne => absurd hnone hne⟩
  intro hopen _
  have hopen := Session.closing_update hopen
  rw [Exchange.answer, Session.update_of_open hopen]
  exact Session.conclude_load result

theorem Single.next (hx : x.Single) (hn : Next x x') : x'.Single := by
  cases hn with
  | tells m hm => exact hx.tell hm
  | answers term result ht => exact hx.answer ht result

theorem single_reached (hx : Relation.ReflTransGen Next (start options) x) : x.Single := by
  induction hx with
  | refl => exact single_start options
  | tail _ hn ih => exact ih.next hn

/-- The answer to a query that is not answered yet is taken by an open session, and is reported with
the term of the query. -/
theorem Single.answered (hx : x.Single) (hopen : x.session.closing = none)
    (ht : term ∈ x.unanswered) (result : Except QueryError QueryResult) :
    (x.answer term result).session.load = .idle ∧
      (x.answer term result).session.status = some (Session.outcome term result) := by
  obtain ⟨-, hvalue, hload⟩ := hx.of_mem ht
  rw [Exchange.answer, Session.update_of_open hopen]
  refine ⟨Session.conclude_load result, ?_⟩
  rw [← hvalue]
  exact Session.conclude_status hload result

end Exchange

/-- There is one query at a time. Whatever the keys are bound to and whatever messages come: while a
query is under way the focus is on the log and no message changes the query box, and an answer that
no query waits for changes nothing. If each query is answered at most once, and not before it was
sent out: at most one has no answer yet, its term is in the query box, an open session waits exactly
if there is one, and takes its answer; the status then is that of the result, or a failure with the
term of the query. -/
theorem one_query_at_a_time (options : Options) :
    (∀ ms, let s := ((Session.new options).updateAll ms).1
      (s.load = .querying → s.focus = .log ∧ ∀ m, (s.update m).1.editor = s.editor) ∧
      (s.load = .idle → ∀ result, s.update (.answered result) = (s, none))) ∧
    ∀ x, Relation.ReflTransGen Exchange.Next (.start options) x →
      x.unanswered.length ≤ 1 ∧
      (∀ term ∈ x.unanswered, x.session.editor.value = term) ∧
      (x.session.closing = none → (x.session.load = .querying ↔ x.unanswered.length = 1)) ∧
      (x.session.closing = none → ∀ term ∈ x.unanswered, ∀ result,
        (x.answer term result).session.load = .idle ∧
        (x.answer term result).session.status = some (Session.outcome term result)) := by
  refine ⟨?_, ?_⟩
  · intro ms s
    have hw : s.Watching := Session.watching_updateAll options ms
    exact ⟨fun hload => ⟨hw hload, hw.editor_update hload⟩, Session.update_answered_of_idle⟩
  · intro x hx
    have hsingle := Exchange.single_reached hx
    exact ⟨hsingle.length_le, fun term ht => (hsingle.of_mem ht).2.1, hsingle.load_iff,
      fun hopen term ht => hsingle.answered hopen ht⟩

/-- A backspace that comes while a query is under way does not reach the query box, and the failure
of the query names its term. -/
theorem one_query_at_a_time_of_failure : ∃ options x,
    Relation.ReflTransGen Exchange.Next (.start options) x ∧ x.unanswered = ["a"] ∧
    ∀ text, (x.answer "a" (.error (.worker text))).session.status =
      some (.failed "a" (QueryError.worker text).message) := by
  have hreached : ∃ options x, Relation.ReflTransGen Exchange.Next (.start options) x ∧
      x.unanswered = ["a"] ∧ x.session.closing = none := by
    refine ⟨⟨.initial, 2, .source, fun _ => 0⟩, _,
      .head (.tells_key ⟨.tab, false, false, false⟩)
        <| .head (.tells_key ⟨.char 'a', false, false, false⟩)
        <| .head (.tells_key ⟨.enter, false, false, false⟩)
        <| .single (.tells_key ⟨.backspace, false, false, false⟩), ?_, ?_⟩
    all_goals rfl
  obtain ⟨options, x, hx, hterm, hopen⟩ := hreached
  refine ⟨options, x, hx, hterm, fun text => ?_⟩
  have hanswered := ((one_query_at_a_time options).2 x hx).2.2.2 hopen
  exact (hanswered "a" (by rw [hterm]; exact List.mem_singleton.mpr rfl) _).2

end LogFollow.Explorer
