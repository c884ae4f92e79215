import TwoVenue.Proofs.Engine.Action
import TwoVenue.Proofs.Trade.History

/-!
# Runs of the engine

- `Engine.Step`: everything that can happen to an engine, in any order: snapshots come and go, cycles run, batches are
  submitted, orders are completed, and venues are funded.
- `Engine.Reachable`: the engines that come from a configuration.
- `Engine.Wired`: **what holds of all of them**. The settings are the validated ones, each source has its own venue and
  a snapshot in order, and no number is given to two orders. `Wired.step` is the step lemma and `Reachable.wired` the
  run lemma.
-/

namespace TwoVenue

namespace Engine

open TwoVenue.Action

/-- Something that happens to an engine. -/
inductive Step : Engine → Engine → Prop
  /-- A source gets a new snapshot. -/
  | update {e : Engine} {m : Market} {s : BookSource} (h : e.source m = .book s) (book : Book) :
      Step e (e.setSource m (.book (s.update book)))
  /-- A source loses its snapshot. -/
  | clear {e : Engine} {m : Market} {s : BookSource} (h : e.source m = .book s) :
      Step e (e.setSource m (.book s.clear))
  | refresh (e : Engine) (books : Books) : Step e (e.refreshFrom books)
  | evaluate (e : Engine) : Step e (Engine.evaluate.run e).2
  | determine (clock : Nat → Instant) (e : Engine) : Step e ((Engine.determine clock).run e).2
  | submit (clock : Nat → Instant) (orders : List Order) (e : Engine) : Step e ((Engine.submit clock orders).run e).2
  | fill (e : Engine) (listening : Bool) (number : Nat) : Step e (e.fill listening number).2
  | fund (e : Engine) (venue : Venue) (base quote : Decimal) :
      Step e { e with executor := e.executor.fund venue base quote }

/-- The engines that come from a configuration. -/
inductive Reachable (c : Config) : Engine → Prop
  | start {e : Engine} (h : build c = .ok e) : Reachable c e
  | step {e e' : Engine} (h : Reachable c e) (s : Step e e') : Reachable c e'

/-- What holds of an engine that comes from a configuration. -/
structure Wired (c : Config) (e : Engine) : Prop where
  settings : c.validate = .ok e.settings
  /-- A source quotes its own market, from no snapshot or from one in order. -/
  source : ∀ m, ∃ book : Option Book, e.source m = .book ⟨e.settings.venue m, book.map Book.normalized⟩
  orderly : e.executor.Orderly
  issued : ∀ number, Issued e.journal number → number < e.executor.nextNumber

variable {c : Config} {e e' : Engine}

/-- The settings of a configuration have its venues. -/
theorem venue_of_validate {s : Settings} (h : c.validate = .ok s) :
    s.venue .first = c.market1 ∧ s.venue .second = c.market2 := by
  unfold Config.validate at h
  split at h
  · cases h
  · iterate 8
      split at h
      · cases h
    cases h
    exact ⟨rfl, rfl⟩

theorem wired_build (h : build c = .ok e) : Wired c e := by
  unfold build at h
  obtain ⟨settings, hsettings, h⟩ := Outcome.bind_eq_ok.1 h
  cases h
  obtain ⟨hfirst, hsecond⟩ := venue_of_validate hsettings
  refine ⟨hsettings, ?_, Executor.orderly_of_not_active rfl, ?_⟩
  · rintro (_ | _)
    · exact ⟨none, by show Source.book ⟨c.market1, none⟩ = _; rw [← hfirst]; rfl⟩
    · exact ⟨none, by show Source.book ⟨c.market2, none⟩ = _; rw [← hsecond]; rfl⟩
  · rintro number ⟨order, horder⟩
    exact absurd horder (Array.not_mem_empty _)

theorem Wired.quiet (h : Wired c e) (hquiet : Quiet e e') : Wired c e' where
  settings := by
    rw [hquiet.settings]
    exact h.settings
  source m := by
    rw [hquiet.source, hquiet.settings]
    exact h.source m
  orderly := by
    rw [hquiet.executor]
    exact h.orderly
  issued number hissued := by
    rw [hquiet.executor]
    exact h.issued number ((hquiet.issued number).1 hissued)

theorem Wired.accepts {clock : Nat → Instant} {orders : List Order} {entered : List ActiveOrder} (h : Wired c e)
    (haccepts : Accepts e clock orders entered e') : Wired c e' where
  settings := by
    rw [haccepts.settings]
    exact h.settings
  source m := by
    rw [haccepts.source, haccepts.settings]
    exact h.source m
  orderly := h.orderly.submit haccepts.submit
  issued number hissued := by
    obtain ⟨-, rfl, hexecutor⟩ := Executor.submit_eq_ok.1 haccepts.submit
    rw [hexecutor]
    rcases (haccepts.issued number).1 hissued with hbefore | ⟨a, ha, rfl⟩
    · exact Nat.lt_of_lt_of_le (h.issued number hbefore) (Nat.le_add_right _ _)
    · exact (Executor.mem_enter ha).2.2

/-- A source with another snapshot, or with none, is wired as before. -/
theorem Wired.setSource (h : Wired c e) (m : Market) (book : Option Book) :
    Wired c (e.setSource m (.book ⟨e.settings.venue m, book.map Book.normalized⟩)) := by
  have hsettings : (e.setSource m (.book ⟨e.settings.venue m, book.map Book.normalized⟩)).settings = e.settings := by
    cases m <;> rfl
  refine ⟨by rw [hsettings]; exact h.settings, fun m' => ?_, ?_, ?_⟩
  · rw [hsettings]
    cases m <;> cases m'
    · exact ⟨book, rfl⟩
    · exact h.source .second
    · exact h.source .first
    · exact ⟨book, rfl⟩
  · cases m <;> exact h.orderly
  · cases m <;> exact h.issued

theorem Wired.fill (h : Wired c e) (listening : Bool) (number : Nat) : Wired c (e.fill listening number).2 := by
  have hfilled : (e.executor.fill number).2.nextNumber = e.executor.nextNumber := by
    cases hfind : e.executor.active.find? (·.number == number) with
    | none => rw [Executor.fill_of_not_found hfind]
    | some a => rw [Executor.fill_of_find hfind]
  have horderly := h.orderly.fill number
  unfold Engine.fill
  split
  · exact h
  · next executor hfill =>
    rw [hfill] at hfilled horderly
    exact ⟨h.settings, h.source, horderly, fun n hn => hfilled ▸ h.issued n hn⟩
  · next completion executor hfill =>
    rw [hfill] at hfilled horderly
    dsimp only at hfilled horderly ⊢
    have hpush : ∀ event, (∀ number order, event ≠ Event.orderSubmitted number order) → ∀ journal : Array Event,
        (∀ n, Issued journal n → n < executor.nextNumber) → ∀ n, Issued (journal.push event) n →
        n < executor.nextNumber := fun event hevent journal hall n hn => hall n ((issued_push hevent).1 hn)
    have hnoted := hpush (.orderFilled number) (by rintro _ _ ⟨⟩) e.journal fun n hn => hfilled ▸ h.issued n hn
    split
    · exact ⟨h.settings, h.source, horderly, hnoted⟩
    · exact ⟨h.settings, h.source, horderly, hpush _ (by rintro _ _ ⟨⟩) _ hnoted⟩

/-- A set of books gives a source its own book, or none. -/
theorem exists_refresh (source : Venue) (held : Option Book) (books : Books) :
    ∃ book : Option Book, Source.refresh (.book ⟨source, held⟩) books = .book ⟨source, book.map Book.normalized⟩ := by
  unfold Source.refresh BookSource.refresh
  dsimp only
  cases books.find? source with
  | none => exact ⟨none, rfl⟩
  | some book => exact ⟨some book, rfl⟩

/-- **The step of a run.** -/
theorem Wired.step (h : Wired c e) (s : Step e e') : Wired c e' := by
  cases s with
  | @update _ m source hsource book =>
    obtain ⟨held, hheld⟩ := h.source m
    cases hsource.symm.trans hheld
    exact h.setSource m (some book)
  | @clear _ m source hsource =>
    obtain ⟨held, hheld⟩ := h.source m
    cases hsource.symm.trans hheld
    exact h.setSource m none
  | refresh _ books =>
    refine ⟨h.settings, fun m => ?_, h.orderly, h.issued⟩
    obtain ⟨held, hheld⟩ := h.source m
    have hrefresh : (e.refreshFrom books).source m = (e.source m).refresh books := by cases m <;> rfl
    rw [hrefresh, hheld]
    exact exists_refresh _ _ books
  | evaluate _ => exact h.quiet (evaluate_quiet e)
  | determine clock _ =>
    rcases determine_acts clock e with hquiet | ⟨orders, entered, haccepts⟩
    · exact h.quiet hquiet
    · exact h.accepts haccepts
  | submit clock orders _ =>
    rcases submit_acts clock orders e with hquiet | ⟨entered, haccepts⟩
    · exact h.quiet hquiet
    · exact h.accepts haccepts
  | fill _ listening number => exact h.fill listening number
  | fund _ venue base quote => exact ⟨h.settings, h.source, ⟨h.orderly.checked, h.orderly.numbered⟩, h.issued⟩

/-- **The run.** -/
theorem Reachable.wired (h : Reachable c e) : Wired c e := by
  induction h with
  | start h => exact wired_build h
  | step _ s ih => exact ih.step s

end Engine

end TwoVenue
