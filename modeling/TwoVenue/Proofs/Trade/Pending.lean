import TwoVenue.Proofs.Trade.Breaking

/-!
# Pending orders

An order is pending from its acceptance until it is completed. Orders are listed by time and, where times are equal, by
name; what that has to do with the order of their acceptance takes a record of what has happened to them.

- `Executor.listedBefore_iff`: the order of a listing. `eq_listing`: **it leaves no choice**, so that a listing does not
  depend on the order in which active orders are kept.
- `Executor.Record`: an executor that is used, with the orders that were accepted, completed and lost.
- `Executor.Record.Kept`: the invariant. **Active orders are the accepted ones that are neither completed nor lost.**
  `Kept.submit` and `Kept.complete` are the step lemmas, `Kept.run` is the run lemma.
- `Executor.Displays`: what a listing shows in any case. `listing_eq_pending_iff`: **when it shows the pending orders in
  the order of their acceptance**.
- `Executor.listing_unlike_pending`: ten orders of one instant are listed by the first digits of their numbers, and an
  order whose booking has failed is missing.
-/

namespace TwoVenue

deriving instance DecidableEq for ActiveOrder

/-- Where keys increase, what holds between an element and a later one holds between a key and a larger one. -/
theorem pairwise_iff_of_increasing {α : Type} {R : α → α → Prop} {f : α → Nat} {l : List α}
    (hf : l.Pairwise fun a b => f a < f b) : l.Pairwise R ↔ ∀ a ∈ l, ∀ b ∈ l, f a < f b → R a b := by
  constructor
  · intro hR
    induction l with
    | nil => exact fun a ha => absurd ha List.not_mem_nil
    | cons c l ih =>
      obtain ⟨hfirst, hrest⟩ := List.pairwise_cons.1 hf
      obtain ⟨hRfirst, hRrest⟩ := List.pairwise_cons.1 hR
      intro a ha b hb hlt
      rcases List.mem_cons.1 ha with rfl | ha'
      · rcases List.mem_cons.1 hb with rfl | hb'
        · exact absurd hlt (Nat.lt_irrefl _)
        · exact hRfirst b hb'
      · rcases List.mem_cons.1 hb with rfl | hb'
        · exact absurd (hfirst a ha') (Nat.lt_asymm hlt)
        · exact ih hrest hRrest a ha' b hb' hlt
  · exact fun h => hf.imp_of_mem fun {a b} ha hb hlt => h a ha b hb hlt

namespace Executor

variable {x : Executor} {a b c : ActiveOrder}

/-! ## The order of a listing -/

theorem listedBefore_iff :
    listedBefore a b = true ↔ a.submittedAt < b.submittedAt ∨ a.submittedAt = b.submittedAt ∧ a.id ≤ b.id := by
  simp only [listedBefore, Bool.or_eq_true, Bool.and_eq_true, Bool.not_eq_true', decide_eq_true_eq,
    decide_eq_false_iff_not, not_lt]

theorem listedBefore_trans (h : listedBefore a b = true) (h' : listedBefore b c = true) : listedBefore a c = true := by
  rw [listedBefore_iff] at h h' ⊢
  rcases h with h | ⟨heq, h⟩
  · rcases h' with h' | ⟨heq', -⟩
    · exact Or.inl (lt_trans h h')
    · exact Or.inl (heq' ▸ h)
  · rcases h' with h' | ⟨heq', h'⟩
    · exact Or.inl (heq ▸ h')
    · exact Or.inr ⟨heq.trans heq', le_trans h h'⟩

theorem listedBefore_total (a b : ActiveOrder) : (listedBefore a b || listedBefore b a) = true := by
  rw [Bool.or_eq_true, listedBefore_iff, listedBefore_iff]
  rcases lt_trichotomy a.submittedAt b.submittedAt with h | h | h
  · exact Or.inl (Or.inl h)
  · rcases le_total a.id b.id with h' | h'
    · exact Or.inl (Or.inr ⟨h, h'⟩)
    · exact Or.inr (Or.inr ⟨h.symm, h'⟩)
  · exact Or.inr (Or.inl h)

/-- Orders that are listed before each other have one number. -/
theorem number_eq_of_listedBefore (h : listedBefore a b = true) (h' : listedBefore b a = true) :
    a.number = b.number := by
  rw [listedBefore_iff] at h h'
  rcases h with h | ⟨heq, h⟩
  · rcases h' with h' | ⟨heq', -⟩
    · exact absurd h' (lt_asymm h)
    · exact absurd heq'.symm h.ne
  · rcases h' with h' | ⟨-, h'⟩
    · exact absurd heq.symm h'.ne
    · exact orderId_injective (le_antisymm h h')

theorem listing_perm (x : Executor) : x.listing.Perm x.active := List.mergeSort_perm ..

theorem sorted_mergeSort (orders : List ActiveOrder) :
    (orders.mergeSort listedBefore).Pairwise fun a b => listedBefore a b = true :=
  @List.pairwise_mergeSort _ listedBefore (fun _ _ _ => listedBefore_trans) listedBefore_total orders

theorem listing_pairwise (x : Executor) : x.listing.Pairwise fun a b => listedBefore a b = true :=
  sorted_mergeSort x.active

/-- **There is one way to list orders with different numbers.** -/
theorem eq_listing {orders : List ActiveOrder} (hnumbers : (x.active.map (·.number)).Nodup)
    (hperm : orders.Perm x.active) (hsorted : orders.Pairwise fun a b => listedBefore a b = true) :
    orders = x.listing := by
  refine (hperm.trans x.listing_perm.symm).eq_of_pairwise (fun a b ha hb hab hba => ?_) hsorted x.listing_pairwise
  have hnumber : a.number = b.number := number_eq_of_listedBefore hab hba
  exact List.inj_on_of_nodup_map hnumbers (hperm.subset ha) (x.listing_perm.subset hb) hnumber

/-- Active orders are listed as they are kept exactly if they are kept in the order of a listing. -/
theorem listing_eq_active_iff : x.listing = x.active ↔ x.active.Pairwise fun a b => listedBefore a b = true := by
  constructor
  · intro h
    rw [← h]
    exact x.listing_pairwise
  · exact List.mergeSort_of_pairwise

/-! ## Records -/

/-- An executor that is used, and what has become of its orders. -/
structure Record where
  executor : Executor
  /-- The accepted orders, in the order of acceptance. -/
  accepted : List ActiveOrder
  /-- The numbers of completed orders. -/
  completed : List Nat
  /-- The numbers of the orders whose booking has failed. -/
  lost : List Nat

namespace Record

/-- The record of an executor that has not been used. -/
def start (x : Executor) : Record := ⟨x, [], [], []⟩

/-- The record after a step. -/
def step (r : Record) : Step → Record
  | .submit clock orders =>
    match r.executor.submit clock orders with
    | .ok (entered, executor) => { r with executor, accepted := r.accepted ++ entered }
    | .error _ => r
  | .complete number =>
    match r.executor.fill number with
    | (none, executor) => { r with executor }
    | (some (.ok report), executor) => { r with executor, completed := r.completed ++ [report.number] }
    | (some (.error _), executor) => { r with executor, lost := r.lost ++ [number] }

/-- The record after a history. -/
def run (r : Record) (history : List Step) : Record := history.foldl step r

/-- The orders that are accepted and not completed, in the order of acceptance. -/
def pending (r : Record) : List ActiveOrder := r.accepted.filter fun a => decide (a.number ∉ r.completed)

/-- The pending orders whose booking has not failed. -/
def waiting (r : Record) : List ActiveOrder := r.pending.filter fun a => decide (a.number ∉ r.lost)

variable {r : Record}

theorem run_concat (r : Record) (past : List Step) (s : Step) : r.run (past ++ [s]) = (r.run past).step s := by
  unfold run
  rw [List.foldl_append]
  rfl

/-- The executor goes through the same steps without a record. -/
theorem step_executor (r : Record) (s : Step) : (r.step s).executor = r.executor.step s := by
  cases s with
  | submit clock orders =>
    unfold step Executor.step
    dsimp only
    cases r.executor.submit clock orders <;> rfl
  | complete number =>
    unfold step Executor.step
    dsimp only
    rcases r.executor.fill number with ⟨_ | _ | _, executor⟩ <;> rfl

theorem run_executor (r : Record) (history : List Step) : (r.run history).executor = r.executor.run history := by
  induction history using List.reverseRecOn with
  | nil => rfl
  | append_singleton past s ih => rw [run_concat, step_executor, ih, Executor.run_concat]

theorem mem_pending : a ∈ r.pending ↔ a ∈ r.accepted ∧ a.number ∉ r.completed := by
  simp [pending]

theorem mem_waiting : a ∈ r.waiting ↔ a ∈ r.pending ∧ a.number ∉ r.lost := by
  simp [waiting]

/-- New orders that have no number of a completed one are pending. -/
theorem pending_of_accepted (r : Record) (executor : Executor) {entered : List ActiveOrder}
    (hcompleted : ∀ a ∈ entered, a.number ∉ r.completed) :
    pending { r with executor, accepted := r.accepted ++ entered } = r.pending ++ entered := by
  unfold pending
  rw [List.filter_append, List.filter_eq_self.2 fun a ha => decide_eq_true (hcompleted a ha)]

/-- If they have no number of a lost one either, they wait. -/
theorem waiting_of_accepted (r : Record) (executor : Executor) {entered : List ActiveOrder}
    (hcompleted : ∀ a ∈ entered, a.number ∉ r.completed) (hlost : ∀ a ∈ entered, a.number ∉ r.lost) :
    waiting { r with executor, accepted := r.accepted ++ entered } = r.waiting ++ entered := by
  unfold waiting
  rw [pending_of_accepted r executor hcompleted, List.filter_append,
    List.filter_eq_self.2 fun a ha => decide_eq_true (hlost a ha)]

theorem decide_notMem_concat (n m : Nat) (numbers : List Nat) :
    decide (n ∉ numbers ++ [m]) = (n != m && decide (n ∉ numbers)) := by
  rw [Bool.eq_iff_iff]
  simp only [Bool.and_eq_true, decide_eq_true_eq, bne_iff_ne, List.mem_append, List.mem_singleton, not_or]
  exact and_comm

/-- One more completed order is no longer pending. -/
theorem pending_of_completed (r : Record) (executor : Executor) (number : Nat) :
    pending { r with executor, completed := r.completed ++ [number] } = r.pending.filter (·.number != number) := by
  unfold pending
  simp only [decide_notMem_concat, List.filter_filter]

/-- It no longer waits either. -/
theorem waiting_of_completed (r : Record) (executor : Executor) (number : Nat) :
    waiting { r with executor, completed := r.completed ++ [number] } = r.waiting.filter (·.number != number) := by
  unfold waiting
  rw [pending_of_completed, List.filter_comm]

/-- One more lost order no longer waits, but is pending. -/
theorem waiting_of_lost (r : Record) (executor : Executor) (number : Nat) :
    waiting { r with executor, lost := r.lost ++ [number] } = r.waiting.filter (·.number != number) := by
  have hpending : pending { r with executor, lost := r.lost ++ [number] } = r.pending := rfl
  unfold waiting
  rw [hpending]
  simp only [decide_notMem_concat, List.filter_filter]

/-- What is kept while orders come and go. -/
structure Kept (r : Record) : Prop where
  numbered : r.accepted.Pairwise fun a b => a.number < b.number
  fresh : ∀ a ∈ r.accepted, a.number < r.executor.nextNumber
  completed : ∀ number ∈ r.completed, number < r.executor.nextNumber
  /-- An order whose booking has failed is never completed. -/
  lost : ∀ number ∈ r.lost, ∃ a ∈ r.pending, a.number = number
  active : r.executor.active = r.waiting

namespace Kept

theorem start (hx : x.active = []) : Kept (start x) where
  numbered := .nil
  fresh := fun _ ha => absurd ha List.not_mem_nil
  completed := fun _ hn => absurd hn List.not_mem_nil
  lost := fun _ hn => absurd hn List.not_mem_nil
  active := hx

theorem lost_lt (h : Kept r) : ∀ number ∈ r.lost, number < r.executor.nextNumber := by
  intro number hnumber
  obtain ⟨a, ha, rfl⟩ := h.lost number hnumber
  exact h.fresh a (mem_pending.1 ha).1

/-- **The step of a batch**: its orders get new numbers and are pending. -/
theorem submit (h : Kept r) (clock : Nat → Instant) (orders : List Order) : Kept (r.step (.submit clock orders)) := by
  unfold step
  dsimp only
  cases hsubmit : r.executor.submit clock orders with
  | error failure => exact h
  | ok result =>
    obtain ⟨entered, executor⟩ := result
    obtain ⟨-, hentered, rfl⟩ := submit_eq_ok.1 hsubmit
    have hnew : ∀ a ∈ entered, r.executor.nextNumber ≤ a.number ∧ a.number < r.executor.nextNumber + orders.length :=
      fun a ha => (mem_enter (hentered ▸ ha)).2
    have hincreasing : entered.Pairwise fun a b => a.number < b.number := by
      rw [← List.pairwise_map (f := ActiveOrder.number), hentered, enter_numbers]
      exact List.pairwise_lt_range'
    have hcompleted : ∀ a ∈ entered, a.number ∉ r.completed := fun a ha hdone =>
      absurd (h.completed _ hdone) (Nat.not_lt.2 (hnew a ha).1)
    have hlost : ∀ a ∈ entered, a.number ∉ r.lost := fun a ha hgone =>
      absurd (h.lost_lt _ hgone) (Nat.not_lt.2 (hnew a ha).1)
    constructor
    case numbered =>
      refine List.pairwise_append.2 ⟨h.numbered, hincreasing, fun a ha b hb => ?_⟩
      exact Nat.lt_of_lt_of_le (h.fresh a ha) (hnew b hb).1
    case fresh =>
      intro a ha
      rcases List.mem_append.1 ha with ha | ha
      · exact Nat.lt_of_lt_of_le (h.fresh a ha) (Nat.le_add_right _ _)
      · exact (hnew a ha).2
    case completed => exact fun number hdone => Nat.lt_of_lt_of_le (h.completed number hdone) (Nat.le_add_right _ _)
    case lost =>
      intro number hgone
      obtain ⟨a, ha, hnumber⟩ := h.lost number hgone
      refine ⟨a, ?_, hnumber⟩
      rw [pending_of_accepted r _ hcompleted]
      exact List.mem_append_left entered ha
    case active =>
      rw [waiting_of_accepted r _ hcompleted hlost, ← h.active]

/-- **The step of a completion**: its order is no longer pending, or it is lost. -/
theorem complete (h : Kept r) (number : Nat) : Kept (r.step (.complete number)) := by
  have hcompletes := fill_completes r.executor number
  unfold step
  dsimp only
  rcases hrun : r.executor.fill number with ⟨result, executor⟩
  rw [hrun] at hcompletes
  cases hcompletes with
  | absent habsent => exact h
  | @broken before after a balances fault hactive hnumber hbook =>
    have ha : a ∈ r.waiting := h.active ▸ hactive ▸ List.mem_append_right before List.mem_cons_self
    constructor
    case numbered => exact h.numbered
    case fresh => exact h.fresh
    case completed => exact h.completed
    case lost =>
      intro n hlost
      rcases List.mem_append.1 hlost with hlost | hlost
      · exact h.lost n hlost
      · exact ⟨a, (mem_waiting.1 ha).1, hnumber.trans (List.mem_singleton.1 hlost).symm⟩
    case active => exact (congrArg (List.filter _) h.active).trans (waiting_of_lost ..).symm
  | @booked before after a balances hactive hnumber hbook =>
    have ha : a ∈ r.waiting := h.active ▸ hactive ▸ List.mem_append_right before List.mem_cons_self
    obtain ⟨hpending, hfound⟩ := mem_waiting.1 ha
    constructor
    case numbered => exact h.numbered
    case fresh => exact h.fresh
    case completed =>
      intro n hdone
      rcases List.mem_append.1 hdone with hdone | hdone
      · exact h.completed n hdone
      · rw [List.mem_singleton.1 hdone]
        exact hnumber ▸ h.fresh a (mem_pending.1 hpending).1
    case lost =>
      intro n hlost
      obtain ⟨b, hb, rfl⟩ := h.lost n hlost
      -- the completed order was active, so it is none of the lost ones
      have hother : b.number ≠ number := fun hsame => hfound (hnumber.trans hsame.symm ▸ hlost)
      refine ⟨b, ?_, rfl⟩
      rw [pending_of_completed]
      exact List.mem_filter.2 ⟨hb, bne_iff_ne.2 hother⟩
    case active => exact (congrArg (List.filter _) h.active).trans (waiting_of_completed ..).symm

/-- **The run of a history.** -/
theorem run (h : Kept r) (history : List Step) : Kept (r.run history) := by
  induction history using List.reverseRecOn with
  | nil => exact h
  | append_singleton past s ih =>
    rw [run_concat]
    cases s with
    | submit clock orders => exact ih.submit clock orders
    | complete number => exact ih.complete number

/-! ### What follows for a listing -/

theorem numbered_waiting (h : Kept r) : r.waiting.Pairwise fun a b => a.number < b.number :=
  h.numbered.sublist (List.filter_sublist.trans List.filter_sublist)

theorem nodup_active (h : Kept r) : (r.executor.active.map (·.number)).Nodup := by
  rw [h.active]
  exact List.pairwise_map.2 (h.numbered_waiting.imp Nat.ne_of_lt)

/-- Every lost order is missing among those that wait. -/
theorem waiting_eq_pending_iff (h : Kept r) : r.waiting = r.pending ↔ r.lost = [] := by
  constructor
  · intro heq
    refine List.eq_nil_iff_forall_not_mem.2 fun number hlost => ?_
    obtain ⟨a, ha, rfl⟩ := h.lost number hlost
    rw [← heq] at ha
    exact (mem_waiting.1 ha).2 hlost
  · intro hnone
    exact List.filter_eq_self.2 fun a _ => decide_eq_true (by rw [hnone]; exact List.not_mem_nil)

/-- Of two orders the one with the smaller number is listed first, unless both have one time and its number is above the
first digits of the other one. -/
theorem listedBefore_iff_of_lt (h : Kept r) (hclock : r.accepted.Pairwise fun a b => a.submittedAt ≤ b.submittedAt)
    (ha : a ∈ r.accepted) (hb : b ∈ r.accepted) (hlt : a.number < b.number) :
    listedBefore a b = true ↔ (a.submittedAt = b.submittedAt →
      a.number ≤ b.number / 10 ^ (Nat.log 10 b.number - Nat.log 10 a.number)) := by
  have htimes : a.submittedAt ≤ b.submittedAt := (pairwise_iff_of_increasing h.numbered).1 hclock a ha b hb hlt
  have hnames : a.id ≤ b.id ↔ a.id < b.id :=
    ⟨fun hle => lt_of_le_of_ne hle fun heq => hlt.ne (orderId_injective heq), le_of_lt⟩
  rw [listedBefore_iff, ← orderId_lt_iff hlt, hnames]
  constructor
  · rintro (hbefore | ⟨-, hid⟩) htie
    · exact absurd htie hbefore.ne
    · exact hid
  · intro hid
    rcases htimes.lt_or_eq with hbefore | htie
    · exact Or.inl hbefore
    · exact Or.inr ⟨htie, hid htie⟩

/-- When the orders that wait are listed in the order of their acceptance. -/
theorem listing_eq_waiting_iff (h : Kept r) (hclock : r.accepted.Pairwise fun a b => a.submittedAt ≤ b.submittedAt) :
    r.executor.listing = r.waiting ↔ ∀ a ∈ r.waiting, ∀ b ∈ r.waiting, a.number < b.number →
      a.submittedAt = b.submittedAt → a.number ≤ b.number / 10 ^ (Nat.log 10 b.number - Nat.log 10 a.number) := by
  have haccepted : ∀ a ∈ r.waiting, a ∈ r.accepted := fun a ha => (mem_pending.1 (mem_waiting.1 ha).1).1
  rw [← h.active, listing_eq_active_iff, h.active, pairwise_iff_of_increasing h.numbered_waiting]
  constructor
  · intro hall a ha b hb hlt
    exact (h.listedBefore_iff_of_lt hclock (haccepted a ha) (haccepted b hb) hlt).1 (hall a ha b hb hlt)
  · intro hall a ha b hb hlt
    exact (h.listedBefore_iff_of_lt hclock (haccepted a ha) (haccepted b hb) hlt).2 (hall a ha b hb hlt)

/-- A listing of all pending orders has lost none. -/
theorem waiting_eq_pending_of_listing (h : Kept r) (heq : r.executor.listing = r.pending) : r.waiting = r.pending := by
  have hperm : r.waiting.Perm r.pending := by
    rw [← heq, ← h.active]
    exact r.executor.listing_perm.symm
  exact List.filter_eq_self.2 (List.length_filter_eq_length_iff.1 hperm.length_eq)

end Kept

end Record

/-! ## What a listing shows -/

/-- The record of a history. -/
def recorded (x : Executor) (history : List Step) : Record := (Record.start x).run history

theorem recorded_executor (x : Executor) (history : List Step) : (x.recorded history).executor = x.run history :=
  Record.run_executor ..

/-- What a listing shows in any case. -/
structure Displays (x : Executor) (history : List Step) : Prop where
  /-- The pending orders whose booking has not failed are listed, each of them once, and no others. -/
  once : (x.run history).listing.Perm (x.recorded history).waiting
  distinct : ((x.run history).listing.map (·.id)).Nodup
  /-- They are listed by time, and at the same time by name. -/
  sorted : (x.run history).listing.Pairwise fun a b =>
    a.submittedAt < b.submittedAt ∨ a.submittedAt = b.submittedAt ∧ a.id < b.id
  /-- It makes no difference in which order they are kept. -/
  settled : ∀ orders : List ActiveOrder, orders.Perm (x.run history).active →
    orders.mergeSort listedBefore = (x.run history).listing

theorem kept_recorded (hx : x.active = []) (history : List Step) : (x.recorded history).Kept :=
  (Record.Kept.start hx).run history

/-- **A listing shows this after every history.** -/
theorem displays (hx : x.active = []) (history : List Step) : Displays x history := by
  have hkept := kept_recorded hx history
  have hnumbers : ((x.run history).active.map (·.number)).Nodup := recorded_executor x history ▸ hkept.nodup_active
  have hdistinct : ((x.run history).listing.map (·.id)).Nodup := by
    have hlisted := ((x.run history).listing_perm.map (·.number)).nodup_iff.2 hnumbers
    have hnames : (x.run history).listing.map (·.id) = ((x.run history).listing.map (·.number)).map orderId := by
      rw [List.map_map]
      rfl
    rw [hnames]
    exact hlisted.map fun m n heq => orderId_injective heq
  constructor
  case once =>
    rw [← hkept.active, recorded_executor]
    exact (x.run history).listing_perm
  case distinct => exact hdistinct
  case sorted =>
    refine ((x.run history).listing_pairwise.and (List.pairwise_map.1 hdistinct)).imp fun {a b} hab => ?_
    rcases listedBefore_iff.1 hab.1 with htime | ⟨htime, hid⟩
    · exact Or.inl htime
    · exact Or.inr ⟨htime, lt_of_le_of_ne hid hab.2⟩
  case settled =>
    intro orders horders
    exact eq_listing hnumbers ((List.mergeSort_perm ..).trans horders) (sorted_mergeSort orders)

/-- **When pending orders are listed in the order of their acceptance.** A listing shows what it shows in any case. As
long as clocks do not run backwards, that is all pending orders in the order of their acceptance exactly if no booking
has failed, and of any two pending orders with one time the number of the earlier one is not above the first digits of
the number of the later one. -/
theorem listing_eq_pending_iff (x : Executor) (hx : x.active = []) (history : List Step)
    (hclock : (x.recorded history).accepted.Pairwise fun a b => a.submittedAt ≤ b.submittedAt) :
    Displays x history ∧
      ((x.run history).listing = (x.recorded history).pending ↔ (x.recorded history).lost = [] ∧
        ∀ a ∈ (x.recorded history).pending, ∀ b ∈ (x.recorded history).pending, a.number < b.number →
          a.submittedAt = b.submittedAt → a.number ≤ b.number / 10 ^ (Nat.log 10 b.number - Nat.log 10 a.number)) := by
  have hkept := kept_recorded hx history
  refine ⟨displays hx history, ?_⟩
  rw [← recorded_executor]
  constructor
  · intro heq
    have hwaiting := hkept.waiting_eq_pending_of_listing heq
    refine ⟨hkept.waiting_eq_pending_iff.1 hwaiting, ?_⟩
    rw [← hwaiting] at heq ⊢
    exact (hkept.listing_eq_waiting_iff hclock).1 heq
  · rintro ⟨hlost, hties⟩
    have hwaiting := hkept.waiting_eq_pending_iff.2 hlost
    rw [← hwaiting] at hties ⊢
    exact (hkept.listing_eq_waiting_iff hclock).2 hties

/-- Ten sales of one instant, of which all but the first and the last are completed. -/
def firstAndTenth : List Step := .submit (fun _ => 0) (List.replicate 10 cheapSale) :: (List.range' 2 8).map .complete

/-- An executor with 10 BTC. -/
def stocked : Executor := empty.fund ⟨"binance", "BTC-USDT"⟩ 10 1000

/-- The first and the tenth order of one instant are listed in the order of their acceptance. -/
theorem listing_eq_pending_iff_firstAndTenth :
    stocked.active = [] ∧
      ((stocked.recorded firstAndTenth).accepted.Pairwise fun a b => a.submittedAt ≤ b.submittedAt) ∧
      (stocked.run firstAndTenth).listing.map (·.id) = ["dry-1", "dry-10"] := by
  have hactive : stocked.active = [] := rfl
  have hclock : (stocked.recorded firstAndTenth).accepted.Pairwise fun a b => a.submittedAt ≤ b.submittedAt := by
    decide +kernel
  have hlost : (stocked.recorded firstAndTenth).lost = [] := by decide +kernel
  have hpending : (stocked.recorded firstAndTenth).pending.map (·.id) = ["dry-1", "dry-10"] := by decide +kernel
  have hties : ∀ a ∈ (stocked.recorded firstAndTenth).pending, ∀ b ∈ (stocked.recorded firstAndTenth).pending,
      a.number < b.number → a.submittedAt = b.submittedAt →
        a.number ≤ b.number / 10 ^ (Nat.log 10 b.number - Nat.log 10 a.number) := by decide +kernel
  refine ⟨hactive, hclock, ?_⟩
  rw [(listing_eq_pending_iff stocked hactive firstAndTenth hclock).2.2 ⟨hlost, hties⟩]
  exact hpending

/-- A sale whose proceeds have no room, and ten sales of one later instant. The first of all is completed. -/
def crowd : List Step :=
  [.submit (fun _ => 0) [cheapSale], .submit (fun _ => 1) (List.replicate 10 cheapSale), .complete 1]

/-- **Pending orders can be missing, and the others out of order**: the first order is neither completed nor listed, and
the tenth and the eleventh are listed before the second, which was accepted at the same time. -/
theorem listing_unlike_pending :
    crammed.active = [] ∧
      ((crammed.recorded crowd).accepted.Pairwise fun a b => a.submittedAt ≤ b.submittedAt) ∧
      (crammed.recorded crowd).completed = [] ∧
      (crammed.recorded crowd).pending.map (·.number) = [1, 2, 3, 4, 5, 6, 7, 8, 9, 10, 11] ∧
      (crammed.run crowd).listing.map (·.number) = [10, 11, 2, 3, 4, 5, 6, 7, 8, 9] ∧
      (crammed.run crowd).listing ≠ (crammed.recorded crowd).pending := by
  have hpending : (crammed.recorded crowd).pending.map (·.number) = [1, 2, 3, 4, 5, 6, 7, 8, 9, 10, 11] := by
    decide +kernel
  have hlisting : [10, 11, 2, 3, 4, 5, 6, 7, 8, 9].map (⟨·, cheapSale, 1⟩) = (crammed.run crowd).listing :=
    eq_listing (by decide +kernel) (by decide +kernel) (by decide +kernel)
  refine ⟨rfl, by decide +kernel, by decide +kernel, hpending, by rw [← hlisting]; rfl, fun heq => ?_⟩
  rw [← heq, ← hlisting] at hpending
  exact absurd hpending (by decide)

end Executor

end TwoVenue
