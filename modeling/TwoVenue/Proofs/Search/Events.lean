import TwoVenue.Proofs.Sequence
import TwoVenue.Search.Selection

/-!
# What a search notes

A search asks for quotes and compares them. Whatever comes of it, it notes nothing else: no cycle, no order and no fill.

- `Event.OfProposal`, `Event.OfSearch`: the events of a proposal and those of a search.
- `findOptimal_ofSearch`: **a search only notes events of a search**, by one lemma for each of its parts.
-/

namespace TwoVenue

/-- The events of a proposal: both requests, their answers, and that there were two. -/
def Event.OfProposal : Event → Prop
  | .quoteAsked .. | .quoteGiven .. | .sampleQuoted .. => True
  | _ => False

/-- The events of a search. -/
def Event.OfSearch : Event → Prop
  | .quoteAsked .. | .quoteGiven .. | .sampleQuoted .. | .sampleSkipped .. | .sweepAborted .. | .bestSize ..
  | .sweepsCompleted .. => True
  | _ => False

theorem Event.OfProposal.ofSearch {e : Event} (h : e.OfProposal) : e.OfSearch := by
  cases e <;> first | exact trivial | exact h.elim

variable (s : Settings) (q : Quoters) (buy sell : Market)

open Traced

theorem askQuote_ofProposal (m : Market) (side : Side) (a : Decimal) :
    ∀ e ∈ (askQuote q m side a).events, e.OfProposal := by
  unfold askQuote
  refine forall_bind (forall_emit trivial) fun _ => forall_bind (forall_ofOutcome _) fun quote => ?_
  split
  · exact forall_bind (forall_emit trivial) fun _ => forall_pure _
  · exact forall_pure _

theorem propose_ofProposal (a : Decimal) : ∀ e ∈ (propose q buy sell a).events, e.OfProposal := by
  unfold propose
  refine forall_bind (askQuote_ofProposal q buy .buy a) fun _ => ?_
  refine forall_bind (askQuote_ofProposal q sell .sell a) fun _ => ?_
  exact forall_bind (forall_emit trivial) fun _ => forall_ofOutcome _

theorem bestOf_ofSearch (amounts : List Decimal) :
    ∀ best, ∀ e ∈ (bestOf q buy sell best amounts).events, e.OfSearch := by
  induction amounts with
  | nil => exact fun best => forall_pure best
  | cons a rest ih =>
    intro best
    unfold bestOf
    refine forall_bind (fun e he => (propose_ofProposal q buy sell a e (attempt_events _ ▸ he)).ofSearch) fun r => ?_
    cases r with
    | error error =>
      dsimp only
      split
      · exact forall_bind (forall_emit trivial) fun _ => ih best
      · exact forall_bind (forall_emit trivial) fun _ => forall_ofOutcome _
    | ok p => exact forall_bind (forall_ofOutcome _) fun profit => ih _

theorem bestForDirection_ofSearch : ∀ e ∈ (bestForDirection s q buy sell).events, e.OfSearch := by
  unfold bestForDirection
  refine forall_bind (forall_ofOutcome _) fun amounts => forall_bind (bestOf_ofSearch q buy sell amounts none) ?_
  intro best
  cases best with
  | none => exact forall_pure _
  | some o =>
    dsimp only
    split
    · exact forall_bind (forall_emit trivial) fun _ => forall_pure _
    · exact forall_pure _

/-- **A search only notes events of a search.** -/
theorem findOptimal_ofSearch : ∀ e ∈ (findOptimal s q).events, e.OfSearch := by
  unfold findOptimal
  refine forall_bind (bestForDirection_ofSearch s q .first .second) fun first => ?_
  refine forall_bind (bestForDirection_ofSearch s q .second .first) fun second => ?_
  exact forall_bind (forall_emit trivial) fun _ => forall_pure _

end TwoVenue
