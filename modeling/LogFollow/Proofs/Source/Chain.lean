import Mathlib.Data.List.Forall2
import LogFollow.Proofs.Fetch

/-!
# The token chain of a fetch

A fetch takes pages that have a token, and then one answer that ends it: a page without a token, or
a failure. Each of its requests carries the token of the page before, and it gives either the
events of all its pages or the failure, and nothing of the pages before it.
-/

namespace LogFollow
set_option autoImplicit false

/-- What a request has from the window of its fetch, and the token that it goes on with. -/
structure Request.Carries (w : Window) (token : Option String) (r : Request) : Prop where
  group : r.group = w.group
  start : r.start = w.start
  stop : r.stop = w.stop
  limit : r.limit = if w.limit = 0 then none else some w.limit
  filter : r.filter = w.filter
  streams : r.streams = w.streams
  token : r.token = token

theorem Request.ofWindow_carries (w : Window) (token : Option String) :
    Request.Carries w token (.ofWindow w token) where
  group := rfl
  start := rfl
  stop := rfl
  limit := by
    simp only [Request.ofWindow, Nat.pos_iff_ne_zero]
    split <;> simp_all
  filter := rfl
  streams := rfl
  token := rfl

/-- The answers up to the first that no request follows: pages with a token, then a failure or a
page without one. A source whose answers have run out gives an empty last page. -/
structure Fetch.Takes (answers : List Answer) (pages : List Page) (last : Answer)
    (rest : List Answer) : Prop where
  answers : answers ++ [.ok { events := [] }] = pages.map .ok ++ last :: rest
  more : ∀ p ∈ pages, p.token.isSome
  last : ∀ p, last = .ok p → p.token = none

namespace Fetch

variable {answers rest : List Answer} {pages : List Page} {last : Answer}

theorem exists_takes (answers : List Answer) : ∃ pages last rest, Takes answers pages last rest := by
  induction answers with
  | nil => exact ⟨[], _, [], rfl, by simp, by simp +contextual⟩
  | cons a answers ih =>
    obtain ⟨pages, last, rest, hsplit, hmore, hlast⟩ := ih
    cases a with
    | error e => exact ⟨[], _, _, rfl, by simp, by simp⟩
    | ok p =>
      cases ht : p.token with
      | none => exact ⟨[], _, _, rfl, by simp, by simp [ht]⟩
      | some t =>
        refine ⟨p :: pages, last, rest, ?_, ?_, hlast⟩
        · simp [hsplit]
        · simpa [ht] using hmore

/-- An empty page at the end of the answers is the one that a source gives that has no more. -/
theorem run_padded (f : Fetch) (answers : List Answer) :
    (f.run (answers ++ [.ok { events := [] }])).requests = (f.run answers).requests ∧
      (f.run (answers ++ [.ok { events := [] }])).result = (f.run answers).result := by
  induction answers generalizing f with
  | nil => simp [run, receive]
  | cons a answers ih =>
    rw [List.cons_append]
    cases hr : f.receive a with
    | more f' =>
      obtain ⟨hrequests, hresult⟩ := ih f'
      simp only [run, hr]
      exact ⟨congrArg _ hrequests, hresult⟩
    | done events => simp [run, hr]
    | failed e => simp [run, hr]

end Fetch

/-- The first request of a fetch has no token and each later one that of the page before; the last
is for the first page that has none or that fails. A fetch fails precisely if that page does, in the
same way, and then just as well if the pages before held other events; otherwise it gives the events
of its pages. -/
theorem fetchWindow_chain (w : Window) (answers : List Answer) :
    ∃ pages last rest, Fetch.Takes answers pages last rest ∧
      (none :: pages.map (·.token)).Forall₂ (Request.Carries w) (fetchWindow w answers).requests ∧
      (∀ e, (fetchWindow w answers).result = .error e ↔ last = .error e) ∧
      (∀ p, last = .ok p → (fetchWindow w answers).result =
        .ok (Fetch.result w ((pages ++ [p]).flatMap (·.events)))) ∧
      ∀ (others : List Page) (after : List Answer),
        others.map (·.token) = pages.map (·.token) →
        (fetchWindow w (others.map .ok ++ last :: after)).requests =
          (fetchWindow w answers).requests ∧
        ∀ e, (fetchWindow w answers).result = .error e →
          (fetchWindow w (others.map .ok ++ last :: after)).result = .error e := by
  obtain ⟨pages, last, rest, htakes⟩ := Fetch.exists_takes answers
  obtain ⟨hrequests, hresult⟩ := Fetch.run_padded { window := w } answers
  obtain ⟨htokens, hends⟩ := Fetch.run_takes { window := w } htakes.more htakes.last rest
  rw [htakes.answers] at hrequests hresult
  rw [hrequests] at htokens
  rw [hresult] at hends
  have hfails : ∀ e, (fetchWindow w answers).result = .error e ↔ last = .error e := by
    intro e
    rw [fetchWindow, hends]
    cases last <;> simp [Except.map]
  refine ⟨pages, last, rest, htakes, ?_, hfails, ?_, ?_⟩
  · rw [fetchWindow, htokens, List.forall₂_map_right_iff, List.forall₂_same]
    exact fun token _ => Request.ofWindow_carries w token
  · rintro p rfl
    simpa [fetchWindow, Except.map] using hends
  · intro others after hsame
    have hmore : ∀ p ∈ others, p.token.isSome := by
      intro p hp
      obtain ⟨q, hq, htoken⟩ := List.mem_map.mp (hsame ▸ List.mem_map_of_mem hp)
      exact htoken ▸ htakes.more q hq
    obtain ⟨hasked, hgiven⟩ := Fetch.run_takes { window := w } hmore htakes.last after
    refine ⟨?_, ?_⟩
    · rw [fetchWindow, fetchWindow, hasked, htokens, hsame]
    · intro e he
      obtain rfl := (hfails e).mp he
      simpa [fetchWindow, Except.map] using hgiven

/-- The empty text is a token like any other, and a late failure leaves nothing of the pages before
it. -/
example :
    let r := fetchWindow { group := "g" }
      [.ok ⟨[⟨5, 0, "a"⟩], some "", []⟩, .ok ⟨[⟨3, 0, "b"⟩], some "more", []⟩,
        .error (.throttled "slow down"), .ok { events := [] }]
    r.requests.map (·.token) = [none, some "", some "more"] ∧
      r.result = .error (.throttled "slow down") :=
  ⟨rfl, rfl⟩

end LogFollow
