import TwoVenue.CommandLine.Service
import TwoVenue.Proofs.Engine.Submission

/-!
# Snapshots are never mixed or stale

Both sources take their books from one file, and a file is read before any of them changes. What a source holds is
therefore a function of the last file that could be read.

- `latest`: the books of the last file that could be read.
- `Engine.Fed`: the engines of a configuration that has been given some files, with anything in between that leaves the
  sources alone. `Fed.evaluate`, `Fed.determine` and `Service.fed_round` are such things.
- `Fed.source`: **each source holds its own book of the latest books**, by induction on the history.
- `snapshots_fresh`: the same with what one more file does, be it readable or not.
- `Service.after`, `Service.after_source`: **the same for a running engine**, after any rounds.
-/

namespace TwoVenue

/-- The books of the last file that could be read, if there is one. -/
def latest (files : List FileContents) : Option Books := (files.filterMap fun file => (Books.load file).toOption).getLast?

section Latest

variable {file : FileContents}

theorem latest_concat_of_ok (files : List FileContents) {books : Books} (h : Books.load file = .ok books) :
    latest (files ++ [file]) = some books := by
  unfold latest
  rw [List.filterMap_append, List.filterMap_cons, h]
  exact List.getLast?_concat

theorem latest_concat_of_error (files : List FileContents) {error : EngineError} (h : Books.load file = .error error) :
    latest (files ++ [file]) = latest files := by
  unfold latest
  rw [List.filterMap_append, List.filterMap_cons, h]
  exact congrArg List.getLast? (List.append_nil _)

end Latest

/-- The venue of a market. -/
def Config.venue (c : Config) : Market → Venue
  | .first => c.market1
  | .second => c.market2

/-- The source of a venue that holds its own book of some books, or nothing if they have none for it. -/
def Venue.holding (venue : Venue) (books : Option Books) : Source :=
  .book ⟨venue, (books.bind fun books => books.find? venue).map Book.normalized⟩

/-- Whatever a source held, new books leave it with its own one of them. -/
theorem Venue.refresh_holding (venue : Venue) (old : Option Books) (books : Books) :
    (venue.holding old).refresh books = venue.holding (some books) := by
  unfold holding Source.refresh BookSource.refresh
  dsimp only
  cases hfind : books.find? venue with
  | none =>
    rw [Option.bind_some, hfind]
    rfl
  | some book =>
    rw [Option.bind_some, hfind]
    rfl

namespace Engine

/-- The engine after it has been given a file: a file that cannot be read changes nothing. -/
def refreshed (e : Engine) (file : FileContents) : Engine :=
  match e.refresh file with
  | .ok e' => e'
  | .error _ => e

/-- The engines of a configuration that have been given these files. -/
inductive Fed (c : Config) : List FileContents → Engine → Prop
  | build {e : Engine} (h : build c = .ok e) : Fed c [] e
  | refresh {files : List FileContents} {e : Engine} (h : Fed c files e) (file : FileContents) :
      Fed c (files ++ [file]) (e.refreshed file)
  /-- Anything that leaves the sources alone. -/
  | between {files : List FileContents} {e e' : Engine} (h : Fed c files e) (hsource : ∀ m, e'.source m = e.source m) :
      Fed c files e'

variable {c : Config} {e : Engine} {files : List FileContents} {file : FileContents}

theorem refresh_of_load {books : Books} (h : Books.load file = .ok books) :
    e.refresh file = .ok (e.refreshFrom books) := by
  unfold refresh
  rw [h]
  rfl

theorem refreshFrom_source (e : Engine) (books : Books) (m : Market) :
    (e.refreshFrom books).source m = (e.source m).refresh books := by
  cases m <;> rfl

/-- A file that can be read is the only one that counts. -/
theorem refresh_of_ok {books : Books} (h : Books.load file = .ok books) :
    e.refresh file = .ok (e.refreshed file) ∧ ∀ m, (e.refreshed file).source m = (e.source m).refresh books := by
  have hrefresh : e.refresh file = .ok (e.refreshFrom books) := refresh_of_load h
  have hrefreshed : e.refreshed file = e.refreshFrom books := by
    unfold refreshed
    rw [hrefresh]
  rw [hrefreshed]
  exact ⟨hrefresh, e.refreshFrom_source books⟩

/-- A file that cannot be read leaves everything as it was, and its error is the answer. -/
theorem refresh_of_error {error : EngineError} (h : Books.load file = .error error) :
    e.refresh file = .error error ∧ e.refreshed file = e := by
  have hrefresh : e.refresh file = .error error := by
    unfold refresh
    rw [h]
    rfl
  refine ⟨hrefresh, ?_⟩
  unfold refreshed
  rw [hrefresh]

theorem Fed.evaluate (h : Fed c files e) : Fed c files (evaluate.run e).2 := h.between (evaluate_quiet e).source

theorem Fed.determine (h : Fed c files e) (clock : Nat → Instant) : Fed c files ((determine clock).run e).2 := by
  rcases determine_acts clock e with hquiet | ⟨orders, entered, haccepts⟩
  · exact h.between hquiet.source
  · exact h.between haccepts.source

/-- **What the sources hold** after any history. -/
theorem Fed.source (h : Fed c files e) (m : Market) : e.source m = (c.venue m).holding (latest files) := by
  induction h with
  | build h =>
    unfold Engine.build at h
    obtain ⟨settings, -, h⟩ := Outcome.bind_eq_ok.1 h
    cases h
    cases m <;> rfl
  | @refresh files e _ file ih =>
    cases hload : Books.load file with
    | ok books =>
      rw [(refresh_of_ok hload).2, ih, Venue.refresh_holding, latest_concat_of_ok _ hload]
    | error error =>
      rw [(refresh_of_error hload).2, ih, latest_concat_of_error _ hload]
  | between _ hsource ih => rw [hsource, ih]

/-- **Snapshots are never mixed or stale.** Whatever files an engine of a configuration has been given, each source holds
the normalized book that the last readable file has for its own connector and pair, or nothing if that file has none or
there was no such file. One file more either cannot be read; then its error is the answer and no source changes. Or it
can be read; then each source holds its own book of this file, or nothing, whatever it held before. -/
theorem snapshots_fresh (c : Config) (files : List FileContents) (e : Engine) (h : Fed c files e) :
    (∀ m, e.source m = .book ⟨c.venue m,
        (latest files).bind fun books => (books.find? (c.venue m)).map Book.normalized⟩) ∧
      (∀ file error, Books.load file = .error error →
        e.refresh file = .error error ∧ ∀ m, (e.refreshed file).source m = e.source m) ∧
      ∀ file books, Books.load file = .ok books →
        e.refresh file = .ok (e.refreshed file) ∧
          ∀ m, (e.refreshed file).source m = .book ⟨c.venue m, (books.find? (c.venue m)).map Book.normalized⟩ := by
  refine ⟨fun m => ?_, fun file error hload => ?_, fun file books hload => ?_⟩
  · rw [h.source m]
    unfold Venue.holding
    rw [Option.map_bind]
    rfl
  · obtain ⟨hrefresh, hsame⟩ := refresh_of_error (e := e) hload
    exact ⟨hrefresh, fun m => by rw [hsame]⟩
  · obtain ⟨hrefresh, hsource⟩ := refresh_of_ok (e := e) hload
    refine ⟨hrefresh, fun m => ?_⟩
    rw [hsource, h.source, Venue.refresh_holding]
    rfl

/-- The text of a file with two asks of the first market of `threeAmountsConfig`, in no order, and a bid of the second
one. -/
def bothBooks : String :=
  "\x7b\"binance\": \x7b\"BTC-USDT\": \x7b\"asks\": [[\"101\", \"1\"], [\"100\", \"1.5\"]]\x7d\x7d, " ++
    "\"kraken\": \x7b\"BTC-USDT\": \x7b\"bids\": [[\"105\", \"1\"]]\x7d\x7d\x7d"

theorem bothBooks_load : Books.load (.ok bothBooks.toUTF8) = .ok
    ⟨[("binance", ⟨[("BTC-USDT", ⟨[], [⟨101, 1⟩, ⟨100, 1.5⟩], 0⟩)]⟩), ("kraken", ⟨[("BTC-USDT", ⟨[⟨105, 1⟩], [], 0⟩)]⟩)]⟩ :=
  Books.load_toUTF8 (by decide +kernel)

/-- A missing file and a broken one leave both books of `bothBooks`; an empty set of books leaves none. -/
theorem snapshots_fresh_bothBooks :
    ∃ e, Fed threeAmountsConfig [.ok bothBooks.toUTF8, .error .notFound, .ok "\x7b".toUTF8] e ∧
      e.held .first = some ⟨[], [⟨100, 1.5⟩, ⟨101, 1⟩], 0⟩ ∧ e.held .second = some ⟨[⟨105, 1⟩], [], 0⟩ ∧
      ∀ m, (e.refreshed (.ok "\x7b\x7d".toUTF8)).held m = none := by
  have hmissing : Books.load (.error .notFound) = .error (.file .notFound) := rfl
  have hbroken : Books.load (.ok "\x7b".toUTF8) = .error .json := by decide +kernel
  have hempty : Books.load (.ok "\x7b\x7d".toUTF8) = .ok ⟨[]⟩ := by decide +kernel
  have hfed := (((Fed.build build_threeAmountsConfig).refresh (.ok bothBooks.toUTF8)).refresh (.error .notFound)).refresh
    (.ok "\x7b".toUTF8)
  have hlatest := (latest_concat_of_error [.ok bothBooks.toUTF8, .error .notFound] hbroken).trans
    ((latest_concat_of_error [.ok bothBooks.toUTF8] hmissing).trans
      (latest_concat_of_ok [] bothBooks_load))
  obtain ⟨hsource, -, hrefresh⟩ := snapshots_fresh threeAmountsConfig _ _ hfed
  simp only [List.nil_append, List.cons_append] at hsource hlatest
  have hasks : (⟨[], [⟨101, 1⟩, ⟨100, 1.5⟩], 0⟩ : Book).normalized = ⟨[], [⟨100, 1.5⟩, ⟨101, 1⟩], 0⟩ := by cbv
  have hbids : (⟨[⟨105, 1⟩], [], 0⟩ : Book).normalized = ⟨[⟨105, 1⟩], [], 0⟩ := by cbv
  refine ⟨_, hfed, ?_, ?_, fun m => ?_⟩
  · unfold held
    rw [hsource .first, hlatest]
    exact congrArg some hasks
  · unfold held
    rw [hsource .second, hlatest]
    exact congrArg some hbids
  · unfold held
    rw [(hrefresh _ _ hempty).2 m]
    cases m <;> rfl

end Engine

namespace Session

variable {s : Session}

theorem fill_source (s : Session) (number : Nat) (m : Market) : (s.fill number).engine.source m = s.engine.source m := by
  have hfill : (s.engine.fill s.listening number).2.source m = s.engine.source m := by
    unfold Engine.fill
    split
    · rfl
    · cases m <;> rfl
    · split <;> cases m <;> rfl
  unfold fill
  split
  · next engine hengine =>
    rw [hengine] at hfill
    exact hfill
  · next completion engine hengine =>
    rw [hengine] at hfill
    exact hfill

theorem settle_source (s : Session) (m : Market) : s.settle.engine.source m = s.engine.source m := by
  unfold settle
  generalize s.waiting.filter (fun w => decide (w.2 ≤ s.now)) = due
  generalize hstart : ({ s with waiting := s.waiting.filter fun w => !decide (w.2 ≤ s.now) } : Session) = start
  have hengine : start.engine = s.engine := by rw [← hstart]
  rw [← hengine]
  clear hstart hengine
  induction due generalizing start with
  | nil => rfl
  | cons w rest ih => rw [List.foldl_cons, ih, fill_source]

theorem publish_source (s : Session) (m : Market) : s.publish.2.engine.source m = s.engine.source m := by
  unfold publish report follow
  cases (s.engine.report s.instant).outcome with
  | error failure => cases m <;> rfl
  | ok r => cases m <;> rfl

end Session

namespace CommandLine.Service

open Engine

variable {c : Config} {files : List FileContents} {s : Session}

/-- **A round of a running engine** is one refresh, as far as the sources are concerned. -/
theorem fed_round (h : Fed c files s.engine) (elapsedMs : Nat) (file : FileContents) :
    Fed c (files ++ [file]) (round elapsedMs file s).engine := by
  have hsettled : Fed c files (s.advance elapsedMs).settle.engine := h.between (Session.settle_source _)
  have hcycle : ∀ s : Session, Fed c files s.engine → Fed c (files ++ [file]) (cycle file s).engine := by
    intro s h
    have hrefreshed := h.refresh file
    unfold cycle
    unfold refreshed at hrefreshed
    cases hrefresh : s.engine.refresh file with
    | error error =>
      rw [hrefresh] at hrefreshed
      exact hrefreshed
    | ok engine =>
      rw [hrefresh] at hrefreshed
      exact (hrefreshed.determine s.clock).between (Session.publish_source _)
  -- what the completions have to say is only written down
  have hread : ∀ (completions : List Completion) (s : Session), Fed c (files ++ [file]) s.engine →
      Fed c (files ++ [file]) (completions.foldl (fun s c => s.note (.completionRead c)) s).engine := by
    intro completions
    induction completions with
    | nil => exact fun s h => h
    | cons completion rest ih => exact fun s h => ih _ (h.between fun m => by cases m <;> rfl)
  exact hread _ _ ((hcycle _ hsettled).between (Session.settle_source _))

/-- A running engine after some rounds, each with the time since the last one and the file of books as it was then. -/
def after (service : Service) (rounds : List (Nat × FileContents)) : Session :=
  rounds.foldl (fun s r => round r.1 r.2 s) service.session

/-- Rounds are as many refreshes, by induction on the rounds. -/
theorem fed_rounds (h : Fed c files s.engine) (rounds : List (Nat × FileContents)) :
    Fed c (files ++ rounds.map Prod.snd) (rounds.foldl (fun s r => round r.1 r.2 s) s).engine := by
  induction rounds generalizing files s with
  | nil =>
    rw [List.map_nil, List.append_nil]
    exact h
  | cons r rest ih =>
    have hrest := ih (fed_round h r.1 r.2)
    rwa [List.append_assoc, List.singleton_append] at hrest

/-- **What a running engine quotes from.** After any rounds each source holds its own book of the last file that could be
read, in whichever round that was. -/
theorem after_source {o : RunOptions} {service : Service} (hservice : Service.ofConfig c o = .ok service)
    (rounds : List (Nat × FileContents)) (m : Market) :
    (service.after rounds).engine.source m = (c.venue m).holding (latest (rounds.map Prod.snd)) := by
  obtain ⟨engine, hbuild, h⟩ := Outcome.bind_eq_ok.1 hservice
  cases h
  have hstart : Fed c [] (session ⟨engine, c, o.books.getD c.booksPath, o.intervalMs.getD c.cycleIntervalMs.toNat⟩).engine :=
    (Fed.build hbuild).between fun m => by cases m <;> rfl
  exact (fed_rounds hstart rounds).source m

end CommandLine.Service

end TwoVenue
