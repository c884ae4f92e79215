import TwoVenue.Proofs.Settings.Variables

/-!
# What the lines of a file of variables do

A file is a list of lines, and each line is blank, assigns a variable, or is malformed. Which of these it is depends on
the line alone; only the value it assigns may mention other variables. Here the file is taken apart into its lines first,
and what it does is told line by line.

- `DotEnv.lines`: the lines of a file. A line that cannot be read as text is `none`.
- `DotEnv.meaning`: what a line does where variables have values. `DotEnv.map_meaning`: whether it is well-formed, and
  what it assigns to, does not depend on them.
- `DotEnv.run`: the variables after some lines; `Variables.load_eq` says that this is what loading a file does.
- `DotEnv.run_append`, `DotEnv.run_of_malformed`: **lines are read up to the first malformed one**, and what follows it
  does not count.
- `Config.load_lines`: **which settings of a file a configuration has**: all of those before the first malformed line,
  none after it, and there is no error that would tell.
-/

namespace TwoVenue

namespace DotEnv

/-! ## Lines -/

/-- The lines that physical lines form, the first of which may continue `buffer`. A line is `none` if its bytes are no
text, or if it does not end before the file does. -/
def linesFrom (buffer : List Char) (s : LineState) : List (List UInt8) → List (Option (List Char))
  | [] => if s = .complete then [] else [none]
  | bytes :: rest =>
    match decode? bytes with
    | none => none :: linesFrom [] .complete rest
    | some physical =>
      match join buffer s physical with
      | .more buffer s => linesFrom buffer s rest
      | .finished line => some line :: linesFrom [] .complete rest

/-- The lines of a file. -/
def lines (file : ByteArray) : List (Option (List Char)) :=
  linesFrom [] .complete (splitLines [] (withoutMark file.toList))

/-- What a line does where variables have these values. -/
def meaning (vars : Variables) (line : Option (List Char)) : Option Assignment :=
  line.bind (assignment fun name => (vars.get? name).getD "")

/-- The variables after some lines. -/
def run (vars : Variables) : List (Option (List Char)) → Variables
  | [] => vars
  | line :: rest =>
    match meaning vars line with
    | none => vars
    | some .nothing => run vars rest
    | some (.assign name value) => run (vars.setDefault name value) rest

/-- Loading physical lines is running the lines that they form. -/
theorem loadLines_eq (vars : Variables) (buffer : List Char) (s : LineState) (physical : List (List UInt8)) :
    loadLines vars buffer s physical = run vars (linesFrom buffer s physical) := by
  induction physical generalizing vars buffer s with
  | nil =>
    rw [loadLines, linesFrom]
    split <;> rfl
  | cons bytes rest ih =>
    rw [loadLines, linesFrom]
    cases decode? bytes with
    | none => rfl
    | some text =>
      dsimp only
      cases join buffer s text with
      | more buffer s => exact ih vars buffer s
      | finished line =>
        dsimp only [run, meaning, Option.bind_some]
        cases assignment (fun name => (vars.get? name).getD "") line with
        | none => rfl
        | some a =>
          cases a with
          | nothing => exact ih ..
          | assign name value => exact ih ..

end DotEnv

/-- Loading a file is running its lines. -/
theorem Variables.load_eq (vars : Variables) (file : ByteArray) : vars.load file = DotEnv.run vars (DotEnv.lines file) :=
  DotEnv.loadLines_eq ..

namespace DotEnv

variable {vars others : Variables} {line : Option (List Char)} {ls before after : List (Option (List Char))}

/-! ## Well-formed lines -/

/-- Whether a value can be read does not depend on what stands for the names in it. -/
theorem isSome_readValue (look other : String → String) (found found' : List Char) (mode : ValueMode)
    (text : List Char) : (readValue look found mode text).isSome = (readValue other found' mode text).isSome := by
  fun_induction readValue look found mode text generalizing found' <;> grind [readValue]

/-- The name that is assigned, if there is one. -/
def Assignment.name? : Assignment → Option String
  | .nothing => none
  | .assign name _ => some name

theorem map_assignment (look other : String → String) (line : List Char) :
    (assignment look line).map Assignment.name? = (assignment other line).map Assignment.name? := by
  simp only [assignment, Option.pure_def, Option.bind_eq_bind]
  split
  · rfl
  · cases splitAssignment? (Text.trimStart (Text.trimEnd line)) with
    | none => rfl
    | some split =>
      have hvalue := isSome_readValue look other [] [] .plain split.2
      simp only [Option.bind_some]
      split
      · rfl
      · cases hlook : readValue look [] .plain split.2 <;> cases hother : readValue other [] .plain split.2 <;>
          simp_all [Assignment.name?]

/-- **Whether a line is well-formed, and what it assigns to, does not depend on the variables.** -/
theorem map_meaning (vars others : Variables) (line : Option (List Char)) :
    (meaning vars line).map Assignment.name? = (meaning others line).map Assignment.name? := by
  cases line with
  | none => rfl
  | some text => exact map_assignment _ _ text

/-- A line that is blank, a comment or an assignment. -/
def WellFormed (line : Option (List Char)) : Prop := (meaning [] line).isSome = true

instance (line : Option (List Char)) : Decidable (WellFormed line) := inferInstanceAs (Decidable (_ = _))

/-- The name that a line assigns to, if it is an assignment. -/
def assigned? (line : Option (List Char)) : Option String := (meaning [] line).bind Assignment.name?

theorem wellFormed_iff (vars : Variables) : WellFormed line ↔ (meaning vars line).isSome = true := by
  rw [WellFormed, ← Option.isSome_map (f := Assignment.name?), map_meaning [] vars, Option.isSome_map]

theorem WellFormed.exists_meaning (h : WellFormed line) (vars : Variables) : ∃ a, meaning vars line = some a :=
  Option.isSome_iff_exists.1 ((wellFormed_iff vars).1 h)

theorem meaning_of_malformed (h : ¬ WellFormed line) (vars : Variables) : meaning vars line = none :=
  Option.not_isSome_iff_eq_none.1 fun hsome => h ((wellFormed_iff vars).2 hsome)

theorem assigned?_of_meaning {name value : String} (h : meaning vars line = some (.assign name value)) :
    assigned? line = some name := by
  have hname : (meaning [] line).map Assignment.name? = some (some name) := by
    rw [map_meaning [] vars, h]
    rfl
  obtain ⟨a, ha, haname⟩ := Option.map_eq_some_iff.1 hname
  rw [assigned?, ha]
  exact haname

/-! ## Running lines -/

/-- **Well-formed lines are read to the end.** -/
theorem run_append (h : ∀ line ∈ before, WellFormed line) : run vars (before ++ after) = run (run vars before) after := by
  induction before generalizing vars with
  | nil => rfl
  | cons line rest ih =>
    obtain ⟨a, ha⟩ := (h line List.mem_cons_self).exists_meaning vars
    have hrest : ∀ line ∈ rest, WellFormed line := fun line hline => h line (List.mem_cons_of_mem _ hline)
    rw [List.cons_append, run, run, ha]
    cases a with
    | nothing => exact ih hrest
    | assign name value => exact ih hrest

/-- **Nothing counts from a malformed line on.** -/
theorem run_of_malformed (h : ¬ WellFormed line) : run vars (line :: after) = vars := by
  rw [run, meaning_of_malformed h]

/-- A variable stays as it is. -/
theorem mem_run {v : String × String} (h : v ∈ vars) : v ∈ run vars ls := by
  induction ls generalizing vars with
  | nil => exact h
  | cons line rest ih =>
    rw [run]
    split
    · exact h
    · exact ih h
    · refine ih ?_
      unfold Variables.setDefault
      split
      · exact h
      · exact List.mem_append_left _ h

/-- Every variable comes from before the lines or from one of them. -/
theorem exists_of_mem_run {v : String × String} (h : v ∈ run vars ls) : v ∈ vars ∨ ∃ line ∈ ls, assigned? line = some v.1 := by
  induction ls generalizing vars with
  | nil => exact Or.inl h
  | cons line rest ih =>
    have later : ∀ {vars}, v ∈ run vars rest → v ∈ vars ∨ ∃ line' ∈ line :: rest, assigned? line' = some v.1 := fun h =>
      (ih h).imp_right fun ⟨line', hline', hassigns⟩ => ⟨line', List.mem_cons_of_mem _ hline', hassigns⟩
    rw [run] at h
    split at h
    · exact Or.inl h
    · exact later h
    · next name value hmeaning =>
      rcases later h with hmem | hmem
      · unfold Variables.setDefault at hmem
        split at hmem
        · exact Or.inl hmem
        · rcases List.mem_append.1 hmem with hmem | hmem
          · exact Or.inl hmem
          · rw [List.mem_singleton.1 hmem]
            exact Or.inr ⟨line, List.mem_cons_self, assigned?_of_meaning hmeaning⟩
      · exact Or.inr hmem

end DotEnv

/-! ## Settings of a file -/

namespace Config

open DotEnv

variable {c : Config} {vars : Variables} {file : ByteArray} {line : Option (List Char)}
  {before after : List (Option (List Char))}

/-- Whether some lines leave a field to the lines after them: neither the environment nor one of them sets it. -/
def Unset (vars : Variables) (before : List (Option (List Char))) (f : Field) : Prop :=
  (∀ v ∈ vars, ¬ f.Names v.1) ∧ ∀ line ∈ before, ∀ name ∈ assigned? line, ¬ f.Names name

instance (vars : Variables) (before : List (Option (List Char))) (f : Field) : Decidable (Unset vars before f) :=
  inferInstanceAs (Decidable (_ ∧ _))

/-- Whether a configuration has the setting that a line gives, if it gives one that has been left to it. -/
def Heeds (c : Config) (vars : Variables) (before : List (Option (List Char))) (line : Option (List Char)) : Prop :=
  ∀ name value, meaning (run vars before) line = some (.assign name value) →
    ∀ f, f.Names name → Unset vars before f → (c.setting f).ReadsFrom value

theorem Unset.not_names {f : Field} (h : Unset vars before f) {v : String × String} (hv : v ∈ run vars before) :
    ¬ f.Names v.1 := by
  rcases exists_of_mem_run hv with hmem | ⟨line, hline, hassigns⟩
  · exact h.1 v hmem
  · exact h.2 line hline v.1 hassigns

/-- A field that is left to a line is set by it. -/
theorem Unset.mem_run {f : Field} {name value : String} (h : Unset vars before f) (hname : f.Names name)
    (hmeaning : meaning (run vars before) line = some (.assign name value)) :
    (name, value) ∈ run (run vars before) (line :: after) := by
  have hnew : ((run vars before).get? name).isSome = false := by
    rw [Variables.get?, Option.isSome_eq_false_iff, Option.isNone_iff_eq_none, List.lookup_eq_none_iff]
    intro v hv
    have hne : name ≠ v.1 := fun heq => h.not_names hv (heq ▸ hname)
    exact bne_iff_ne.2 hne
  rw [run, hmeaning]
  refine DotEnv.mem_run ?_
  rw [Variables.setDefault, hnew]
  exact List.mem_append_right _ (List.mem_singleton_self _)

/-- **Which settings of a file a configuration has.** It has those of every line that no malformed line comes before. Of
a malformed line and all lines after it, it has none: it is the configuration of the lines before, and each field that
these leave unset has its default. Loading succeeds nevertheless. -/
theorem load_lines (h : Config.load vars (some file) = .ok c) (hlines : lines file = before ++ line :: after)
    (hbefore : ∀ earlier ∈ before, WellFormed earlier) :
    c.Heeds vars before line ∧
      (¬ WellFormed line → Config.ofVariables (run vars before) = .ok c ∧
        ∀ f, Unset vars before f → c.setting f = default.setting f) := by
  have hload : Config.ofVariables (run (run vars before) (line :: after)) = .ok c := by
    rw [← run_append hbefore, ← hlines, ← Variables.load_eq]
    exact h
  refine ⟨fun name value hmeaning f hname hunset => ?_, fun hmalformed => ?_⟩
  · obtain ⟨-, hread, -⟩ := ofVariables_eq_ok.1 hload
    exact hread _ (hunset.mem_run hname hmeaning) f hname
  · rw [run_of_malformed hmalformed] at hload
    refine ⟨hload, fun f hunset => ?_⟩
    obtain ⟨-, -, hdefault⟩ := ofVariables_eq_ok.1 hload
    refine hdefault f fun hgiven => ?_
    obtain ⟨v, hv, hname⟩ := Variables.mem_given.1 hgiven
    exact hunset.not_names hv hname

/-- A comment, a quoted value over two lines, a value that mentions it, a malformed line, and a setting after that. -/
def brokenFile : ByteArray :=
  "# x\nA='b\nc'\nCONNECTOR_1=$A\nCONNECTOR_2=a b\nPORT=2".toUTF8

/-- What it is loaded as: only the setting before the malformed line counts. -/
def brokenFileConfig : Config := { default with connector1 := "b\nc" }

theorem load_lines_brokenFile :
    Config.load [] (some brokenFile) = .ok brokenFileConfig ∧
      (brokenFileConfig.setting .connector1).ReadsFrom "b\nc" ∧
        brokenFileConfig.setting .port = default.setting .port := by
  have hload : Config.load [] (some brokenFile) = .ok brokenFileConfig := by decide +kernel
  have hassignment : lines brokenFile = [some [], some "A='b\nc'".toList] ++
      some "CONNECTOR_1=$A".toList :: [some "CONNECTOR_2=a b".toList, some "PORT=2".toList] := by decide +kernel
  have hmalformed : lines brokenFile = [some [], some "A='b\nc'".toList, some "CONNECTOR_1=$A".toList] ++
      some "CONNECTOR_2=a b".toList :: [some "PORT=2".toList] := hassignment
  have hmeaning : meaning (run [] [some [], some "A='b\nc'".toList]) (some "CONNECTOR_1=$A".toList) =
      some (.assign "CONNECTOR_1" "b\nc") := by rfl
  obtain ⟨heeds, -⟩ := load_lines hload hassignment (by decide +kernel)
  obtain ⟨-, hdefaults⟩ := load_lines hload hmalformed (by decide +kernel)
  exact ⟨hload, heeds _ _ hmeaning _ (by decide) (by decide), (hdefaults (by decide)).2 .port (by decide)⟩

/-- A file whose second line sets the port, after a line that is malformed. -/
def lateFile : ByteArray := "CONNECTOR_1=a b\nPORT=2".toUTF8

/-- **A setting after a malformed line is ignored**: the port keeps its default. -/
theorem lateFile_ignored :
    ¬ ∀ (vars : Variables) (file : ByteArray) (c : Config) (before : List (Option (List Char)))
        (line : Option (List Char)) (after : List (Option (List Char))),
      Config.load vars (some file) = .ok c → lines file = before ++ line :: after → c.Heeds vars before line := by
  intro h
  have hload : Config.load [] (some lateFile) = .ok default := by decide +kernel
  have hlines : lines lateFile = [some "CONNECTOR_1=a b".toList] ++ some "PORT=2".toList :: [] := by decide +kernel
  have hmeaning : meaning (run [] [some "CONNECTOR_1=a b".toList]) (some "PORT=2".toList) =
      some (.assign "PORT" "2") := by rfl
  have hport := h [] lateFile default _ _ [] hload hlines "PORT" "2" hmeaning .port (by decide) (by decide)
  exact absurd hport (by decide)

end Config

end TwoVenue
